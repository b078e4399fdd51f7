import Mathlib.Data.Nat.Bitwise
import MiniWasm.Spec.Typing
import MiniWasm.Validator.Module

/-!
# The validator decodes by the grammar

Whatever the checker reads behind an opcode is what the binary grammar finds
there, and the stack effect it derives from it is the declared signature.
-/

namespace MiniWasm.Validator

open Library

variable {cx : CodeContext} {offset pc pc' : Nat}

/-- The typing context in which a body is checked. -/
def CodeContext.spec (cx : CodeContext) : Spec.Context where
  module := cx.module
  locals := cx.localTypes
  results := cx.functionResults

@[simp] theorem CodeContext.spec_module : cx.spec.module = cx.module :=
  rfl

@[simp] theorem CodeContext.spec_locals : cx.spec.locals = cx.localTypes :=
  rfl

@[simp] theorem CodeContext.spec_results : cx.spec.results = cx.functionResults :=
  rfl

theorem readWith_ok {α : Type} {decode : List UInt8 → Except ParseError (α × Nat)}
    {value : α} (read : readWith cx offset pc decode = .ok (value, pc')) :
    Spec.integer cx.code decode pc = some (value, pc') := by
  unfold readWith at read
  unfold Spec.integer
  cases decoded : decode (cx.code.drop pc) with
  | error err => simp [decoded, malformed] at read
  | ok result => simpa [decoded] using read

theorem readU32_ok {value : Nat} (read : readU32 cx offset pc = .ok (value, pc')) :
    Spec.u32 cx.code pc = some (value, pc') :=
  readWith_ok read

theorem readU64_ok {value : Nat} (read : readU64 cx offset pc = .ok (value, pc')) :
    Spec.u64 cx.code pc = some (value, pc') :=
  readWith_ok read

theorem readByte_ok {value : UInt8} (read : readByte cx offset pc = .ok (value, pc')) :
    Spec.byte cx.code pc = some (value, pc') := by
  unfold readByte at read
  unfold Spec.byte
  cases found : cx.code[pc]? with
  | none => simp [found, malformed] at read
  | some byte => simpa [found] using read

theorem skipFixed_ok {width : Nat} (skipped : skipFixed cx offset pc width = .ok pc') :
    Spec.bytes cx.code width pc = some ((cx.code.drop pc).take width, pc') := by
  unfold skipFixed malformed at skipped
  unfold Spec.bytes
  split_ifs at skipped with inBounds
  simp only [Except.ok.injEq] at skipped
  subst skipped
  simp [inBounds]

theorem readLane_ok {limit : Nat} (read : readLane cx offset pc limit = .ok pc') :
    ∃ lane, Spec.laneIndex cx.code limit pc = some (lane, pc') := by
  simp only [readLane, bind_ok, Prod.exists] at read
  obtain ⟨lane, next, byteRead, checked⟩ := read
  split_ifs at checked with outside
  · simp [malformed] at checked
  · simp only [pure, Except.pure, Except.ok.injEq] at checked
    subst checked
    refine ⟨lane.toNat, ?_⟩
    simp [Spec.laneIndex, readByte_ok byteRead, Nat.lt_of_not_le outside]

theorem readShuffle_ok (read : readShuffle cx offset pc = .ok pc') :
    Spec.bytes cx.code 16 pc = some ((cx.code.drop pc).take 16, pc') ∧
      ((cx.code.drop pc).take 16).all (·.toNat < 32) = true := by
  unfold readShuffle malformed at read
  split_ifs at read with inBounds large
  simp only [Except.ok.injEq] at read
  subst read
  refine ⟨by simp [Spec.bytes, inBounds], ?_⟩
  simp only [List.any_eq_true, decide_eq_true_eq, not_exists, not_and] at large
  simp only [List.all_eq_true, decide_eq_true_eq]
  intro lane member
  exact Nat.lt_of_not_le (large lane member)

theorem readTypedSelectType_ok {type : ValueType}
    (read : readTypedSelectType cx offset pc = .ok (type, pc')) :
    Spec.selectType cx.code pc = some (type, pc') := by
  simp only [readTypedSelectType, bind_ok, Prod.exists] at read
  obtain ⟨count, next, countRead, read⟩ := read
  have countAt := readU32_ok countRead
  split_ifs at read with notOne
  · simp [malformed] at read
  simp only [bind_ok, Prod.exists] at read
  obtain ⟨tag, last, tagRead, read⟩ := read
  have tagAt := readByte_ok tagRead
  simp only [Spec.selectType, countAt, tagAt, Option.bind_eq_bind, Option.bind_some,
    if_neg notOne, Spec.valueType]
  split_ifs at read ⊢ <;> simp_all [malformed, pure, Except.pure]

theorem readLocal_ok {index : Nat} (read : readLocal cx offset pc = .ok (index, pc')) :
    Spec.u32 cx.code pc = some (index, pc') := by
  simp only [readLocal, bind_ok, Prod.exists] at read
  obtain ⟨index', next, indexRead, checked⟩ := read
  split_ifs at checked
  simp only [pure, Except.pure, Except.ok.injEq, Prod.mk.injEq] at checked
  obtain ⟨rfl, rfl⟩ := checked
  exact readU32_ok indexRead

theorem localType_ok {index : Nat} {type : ValueType} (found : localType cx index = .ok type) :
    cx.localTypes[index]? = some type := by
  unfold localType at found
  split at found
  · simp_all
  · simp at found

theorem memoryTypeAt_ok {module : Module} {memory : Nat} {type : MemoryType}
    (found : memoryTypeAt module memory = .ok type) :
    module.memoryType memory = some type := by
  unfold memoryTypeAt at found
  split at found
  · simp_all
  · simp at found

theorem addressType_ok {memory : Nat} {type : ValueType}
    (found : addressType cx.module memory = .ok type) :
    Spec.memoryAddress cx.spec memory = some type := by
  simp only [addressType, bind_ok] at found
  obtain ⟨memoryType, typeFound, result⟩ := found
  simp only [pure, Except.pure, Except.ok.injEq] at result
  simp [Spec.memoryAddress, CodeContext.spec, memoryTypeAt_ok typeFound, Spec.addressOf, result]

theorem checkMemarg_ok {maximumAlignment : Nat} {arg : Memarg}
    (checked : checkMemarg cx offset maximumAlignment arg = .ok ()) :
    ∃ type, cx.module.memoryType arg.memory = some type ∧
      arg.alignment ≤ maximumAlignment ∧
      (type.limits.memory64 ∨ arg.offset < 2 ^ 32) := by
  unfold checkMemarg at checked
  by_cases outside : cx.module.memoryCount ≤ arg.memory
  · simp [outside] at checked
  · simp only [if_neg outside, bind_ok] at checked
    obtain ⟨type, typeFound, checked⟩ := checked
    by_cases alignmentLarge : maximumAlignment < arg.alignment
    · simp [alignmentLarge] at checked
      split at checked <;> cases checked
    refine ⟨type, memoryTypeAt_ok typeFound, Nat.le_of_not_lt alignmentLarge, ?_⟩
    cases wide : type.limits.memory64 with
    | true => exact .inl rfl
    | false =>
        simp only [wide, Bool.not_false, Bool.true_and, decide_eq_true_eq] at checked
        by_cases offsetLarge : 2 ^ 32 - 1 < arg.offset
        · rw [if_pos offsetLarge] at checked
          cases checked
        · exact .inr (by omega)

/-- What a successful memory argument is: its bytes, its memory and the checks
on its alignment and offset. -/
theorem readMemarg_ok {maximumAlignment : Nat} {arg : Memarg}
    (read : readMemarg cx offset pc maximumAlignment = .ok (arg, pc')) :
    Spec.memarg cx.code pc = some (arg, pc') ∧
      ∃ type, cx.module.memoryType arg.memory = some type ∧
        arg.alignment ≤ maximumAlignment ∧
        (type.limits.memory64 ∨ arg.offset < 2 ^ 32) := by
  simp only [readMemarg, bind_ok, Prod.exists] at read
  obtain ⟨flags, next, flagsRead, read⟩ := read
  have flagsAt := readU32_ok flagsRead
  split_ifs at read with tooLarge
  simp only [bind_ok, Prod.exists, pure, Except.pure, Except.ok.injEq, Prod.mk.injEq] at read
  obtain ⟨alignment, memory, memoryPc, memoryRead, displacement, last, offsetRead, _, checked,
    rfl, rfl⟩ := read
  have offsetAt := readU64_ok offsetRead
  refine ⟨?_, checkMemarg_ok checked⟩
  unfold readMemargMemory at memoryRead
  split_ifs at memoryRead with withMemory
  · simp only [bind_ok, Prod.exists, pure, Except.pure, Except.ok.injEq,
      Prod.mk.injEq] at memoryRead
    obtain ⟨memory', memoryPc', indexRead, rfl, rfl, rfl⟩ := memoryRead
    simp [Spec.memarg, flagsAt, tooLarge, withMemory, readU32_ok indexRead, offsetAt]
  · simp only [pure, Except.pure, Except.ok.injEq, Prod.mk.injEq] at memoryRead
    obtain ⟨rfl, rfl, rfl⟩ := memoryRead
    simp [Spec.memarg, flagsAt, tooLarge, withMemory, offsetAt]

/-- The address type of a checked memory argument. -/
theorem memargAddress_ok {maximumAlignment : Nat} {arg : Memarg} {type : ValueType}
    (read : readMemarg cx offset pc maximumAlignment = .ok (arg, pc'))
    (found : addressType cx.module arg.memory = .ok type) :
    Spec.memargAddress cx.spec maximumAlignment arg = some type := by
  obtain ⟨-, memoryType, typeFound, alignmentLe, offsetFits⟩ := readMemarg_ok read
  have address := addressType_ok found
  simp only [Spec.memoryAddress, CodeContext.spec, typeFound, Option.map_some,
    Option.some.injEq] at address
  simp only [Spec.memargAddress, CodeContext.spec, typeFound]
  rw [if_pos ⟨alignmentLe, offsetFits⟩, address]

theorem readMemoryIndex_ok {memory : Nat}
    (read : readMemoryIndex cx offset pc = .ok (memory, pc')) :
    Spec.u32 cx.code pc = some (memory, pc') := by
  simp only [readMemoryIndex, bind_ok, Prod.exists] at read
  obtain ⟨_, -, memory', next, indexRead, checked⟩ := read
  split_ifs at checked
  simp only [pure, Except.pure, Except.ok.injEq, Prod.mk.injEq] at checked
  obtain ⟨rfl, rfl⟩ := checked
  exact readU32_ok indexRead

theorem readTable_ok {table : Nat} (read : readTable cx offset pc = .ok (table, pc')) :
    Spec.u32 cx.code pc = some (table, pc') ∧ table < cx.module.tableCount := by
  simp only [readTable, bind_ok, Prod.exists] at read
  obtain ⟨table', next, indexRead, checked⟩ := read
  split_ifs at checked with outside
  simp only [pure, Except.pure, Except.ok.injEq, Prod.mk.injEq] at checked
  obtain ⟨rfl, rfl⟩ := checked
  exact ⟨readU32_ok indexRead, Nat.lt_of_not_le outside⟩

theorem readData_ok (read : readData cx offset pc = .ok pc') :
    ∃ data, Spec.u32 cx.code pc = some (data, pc') ∧
      cx.module.dataCount.isSome ∧ data < cx.module.data.length := by
  unfold readData at read
  split_ifs at read with missing
  simp only [bind_ok, Prod.exists] at read
  obtain ⟨data, next, indexRead, checked⟩ := read
  split_ifs at checked with outside
  simp only [pure, Except.pure, Except.ok.injEq] at checked
  subst checked
  refine ⟨data, readU32_ok indexRead, ?_, Nat.lt_of_not_le outside⟩
  cases counted : cx.module.dataCount with
  | none => simp [counted] at missing
  | some _ => rfl

theorem readElement_ok (read : readElement cx offset pc = .ok pc') :
    ∃ element, Spec.u32 cx.code pc = some (element, pc') ∧
      element < cx.module.elements.length := by
  simp only [readElement, bind_ok, Prod.exists] at read
  obtain ⟨element, next, indexRead, checked⟩ := read
  split_ifs at checked with outside
  simp only [pure, Except.pure, Except.ok.injEq] at checked
  subst checked
  exact ⟨element, readU32_ok indexRead, Nat.lt_of_not_le outside⟩

theorem readGlobal_ok {index : Nat} {type : GlobalType}
    (read : readGlobal cx offset pc = .ok (index, type, pc')) :
    Spec.u32 cx.code pc = some (index, pc') ∧ cx.module.globalType index = some type := by
  simp only [readGlobal, bind_ok, Prod.exists] at read
  obtain ⟨index', next, indexRead, found⟩ := read
  split at found
  · simp only [pure, Except.pure, Except.ok.injEq, Prod.mk.injEq] at found
    obtain ⟨rfl, rfl, rfl⟩ := found
    exact ⟨readU32_ok indexRead, by assumption⟩
  · simp at found

/-! ## The opcode tables -/

/-- The signature that an effect of the checker stands for. -/
def Effect.signature (effect : Effect) : Spec.Signature :=
  ⟨effect.pops, effect.pushes⟩

/-- The checker's table of numeric effects is the declared one. -/
theorem numericEffect_eq (opcode : Nat) :
    (numericEffect opcode).map Effect.signature = Spec.numericSignature opcode := by
  by_cases small : opcode < 0xc5
  · revert opcode
    decide +kernel
  · simp (disch := omega) only [numericEffect, Spec.numericSignature, if_neg]
    rfl

theorem truncSatEffect_eq (subopcode : Nat) :
    (truncSatEffect subopcode).map Effect.signature =
      Spec.truncSatSignature subopcode := by
  by_cases small : subopcode < 8
  · revert subopcode
    decide
  · simp (disch := omega) only [truncSatEffect, Spec.truncSatSignature, if_neg]
    rfl

theorem load_eq :
    ∀ opcode ≤ 0x35, 0x28 ≤ opcode →
      naturalAlignment opcode = Spec.accessAlignment opcode ∧
      loadType opcode = Spec.accessType opcode := by
  decide

theorem store_eq :
    ∀ opcode ≤ 0x3e, 0x36 ≤ opcode →
      naturalAlignment opcode = Spec.accessAlignment opcode ∧
      storeType opcode = Spec.accessType opcode := by
  decide

/-- A vector immediate that names a memory. -/
def namesMemory : SimdShape → Bool
  | .memarg => true
  | .memargLane _ => true
  | _ => false

theorem not_mem_of_all_lt {values : List Nat} {value : Nat} (bound : Nat)
    (small : values.all (· < bound) = true) (large : bound ≤ value) : value ∉ values := by
  intro member
  have below := List.all_eq_true.mp small value member
  simp only [decide_eq_true_eq] at below
  omega

theorem simdArm_eq_none {subopcode : Nat} (large : 276 ≤ subopcode) :
    simdArm subopcode = none := by
  unfold simdArm
  repeat
    refine (if_neg ?_).trans ?_
    · first
      | omega
      | exact not_mem_of_all_lt 276 (by decide) large
  rfl

theorem simdArm_lt {subopcode : Nat} {arm : SimdArm} (found : simdArm subopcode = some arm) :
    subopcode < 276 := by
  apply Nat.lt_of_not_le
  intro large
  rw [simdArm_eq_none large] at found
  cases found

/-- The checker's arm for a vector opcode, compared with the declared shape,
alignment and signature under both address types. -/
def armAgrees (subopcode : Nat) : Bool :=
  match simdArm subopcode with
  | none => true
  | some arm =>
      Spec.simdShape subopcode == some arm.shape &&
      (!namesMemory arm.shape || arm.maximumAlignment == Spec.simdAlignment subopcode) &&
      [ValueType.i32, .i64].all fun address =>
        (⟨arm.pops.map (·.resolve address), arm.pushes⟩ : Spec.Signature) =
          Spec.simdSignature address subopcode

theorem armAgrees_all : (List.range 276).all armAgrees = true := by
  decide +kernel

theorem simdArm_eq {subopcode : Nat} {arm : SimdArm} (found : simdArm subopcode = some arm) :
    Spec.simdShape subopcode = some arm.shape ∧
    (namesMemory arm.shape → arm.maximumAlignment = Spec.simdAlignment subopcode) ∧
    ∀ address, address = ValueType.i32 ∨ address = .i64 →
      (⟨arm.pops.map (·.resolve address), arm.pushes⟩ : Spec.Signature) =
        Spec.simdSignature address subopcode := by
  have agrees := List.all_eq_true.mp armAgrees_all subopcode
    (List.mem_range.mpr (simdArm_lt found))
  simp only [armAgrees, found, Bool.and_eq_true, beq_iff_eq, Bool.or_eq_true,
    Bool.not_eq_true', List.all_cons, List.all_nil, decide_eq_true_eq, and_true] at agrees
  obtain ⟨⟨shapeEq, alignment⟩, narrow, wide⟩ := agrees
  refine ⟨shapeEq, ?_, ?_⟩
  · intro names
    simpa [names] using alignment
  · rintro address (rfl | rfl)
    · exact narrow
    · exact wide

/-! ## Arms with a fixed effect -/

theorem memoryAddress_cases {cx : Spec.Context} {memory : Nat} {type : ValueType}
    (found : Spec.memoryAddress cx memory = some type) : type = .i32 ∨ type = .i64 := by
  simp only [Spec.memoryAddress, Option.map_eq_some_iff] at found
  obtain ⟨memoryType, -, rfl⟩ := found
  unfold Spec.addressOf
  split_ifs
  · exact .inr rfl
  · exact .inl rfl

/-- The immediate of a vector instruction, together with the address type it
selects. -/
theorem readSimdImmediate_ok {arm : SimdArm} {subopcode : Nat} {type : ValueType}
    (found : simdArm subopcode = some arm)
    (read : readSimdImmediate cx offset pc arm = .ok (type, pc')) :
    (type = .i32 ∨ type = .i64) ∧
    ∃ immediate, Spec.simdImmediate cx.code arm.shape pc = some (immediate, pc') ∧
      Spec.simdAddress cx.spec subopcode immediate = some type := by
  have alignment := (simdArm_eq found).2.1
  unfold readSimdImmediate at read
  unfold Spec.simdImmediate
  cases shape : arm.shape with
  | none =>
      simp only [shape, Except.ok.injEq, Prod.mk.injEq] at read
      obtain ⟨rfl, rfl⟩ := read
      exact ⟨.inl rfl, .none, rfl, rfl⟩
  | memarg =>
      simp only [shape, bind_ok, Prod.exists, pure_ok, Except.ok.injEq,
        Prod.mk.injEq] at read
      obtain ⟨-, -, arg, next, memargRead, type', typeFound, rfl, rfl⟩ := read
      have address := memargAddress_ok memargRead typeFound
      rw [alignment (by simp [shape, namesMemory])] at address
      refine ⟨memoryAddress_cases (addressType_ok typeFound), .memarg arg, ?_, address⟩
      simp [(readMemarg_ok memargRead).1]
  | memargLane limit =>
      simp only [shape, bind_ok, Prod.exists, pure_ok, Except.ok.injEq,
        Prod.mk.injEq] at read
      obtain ⟨-, -, arg, next, memargRead, last, laneRead, type', typeFound, rfl, rfl⟩ := read
      obtain ⟨lane, laneAt⟩ := readLane_ok laneRead
      have address := memargAddress_ok memargRead typeFound
      rw [alignment (by simp [shape, namesMemory])] at address
      refine ⟨memoryAddress_cases (addressType_ok typeFound), .memargLane arg lane, ?_, address⟩
      simp [(readMemarg_ok memargRead).1, laneAt]
  | bytes =>
      simp only [shape, bind_ok, pure_ok, Except.ok.injEq, Prod.mk.injEq] at read
      obtain ⟨next, skipped, rfl, rfl⟩ := read
      refine ⟨.inl rfl, .bytes ((cx.code.drop pc).take 16), ?_, rfl⟩
      simp [skipFixed_ok skipped]
  | shuffle =>
      simp only [shape, bind_ok, pure_ok, Except.ok.injEq, Prod.mk.injEq] at read
      obtain ⟨next, shuffleRead, rfl, rfl⟩ := read
      obtain ⟨bytesAt, small⟩ := readShuffle_ok shuffleRead
      refine ⟨.inl rfl, .shuffle ((cx.code.drop pc).take 16), ?_, rfl⟩
      simp only [bytesAt, Option.bind_eq_bind, Option.bind_some, small, if_true]
  | lane limit =>
      simp only [shape, bind_ok, pure_ok, Except.ok.injEq, Prod.mk.injEq] at read
      obtain ⟨next, laneRead, rfl, rfl⟩ := read
      obtain ⟨lane, laneAt⟩ := readLane_ok laneRead
      refine ⟨.inl rfl, .lane lane, ?_, rfl⟩
      simp [laneAt]

/-- An instruction read at `pc` with the effect of its arm. -/
def DecodesTo (cx : CodeContext) (decoded : Option (Plain × Nat)) (effect : Effect)
    (pc' : Nat) : Prop :=
  ∃ instr, decoded = some (instr, pc') ∧
    Spec.plainSignature cx.spec instr = some effect.signature

theorem readSimd_ok {effect : Effect} (read : readSimd cx offset pc = .ok (effect, pc')) :
    DecodesTo cx (Spec.simd cx.code pc) effect pc' := by
  simp only [readSimd, bind_ok, Prod.exists] at read
  obtain ⟨subopcode, next, subopcodeRead, read⟩ := read
  have subopcodeAt := readU32_ok subopcodeRead
  cases found : simdArm subopcode with
  | none => simp [found] at read
  | some arm =>
      simp only [found, bind_ok, Prod.exists, pure_ok, Except.ok.injEq, Prod.mk.injEq] at read
      obtain ⟨type, last, immediateRead, rfl, rfl⟩ := read
      obtain ⟨typeCases, immediate, immediateAt, address⟩ :=
        readSimdImmediate_ok found immediateRead
      obtain ⟨shapeEq, -, signatureEq⟩ := simdArm_eq found
      refine ⟨.simd subopcode immediate, ?_, ?_⟩
      · simp [Spec.simd, subopcodeAt, shapeEq, immediateAt]
      · simp only [Spec.plainSignature, address, Option.bind_eq_bind, Option.bind_some]
        rw [← signatureEq type typeCases]
        rfl

theorem withU32_eq {code : List UInt8} {instr : Nat → Plain} {start index next : Nat}
    (indexAt : Spec.u32 code start = some (index, next)) :
    Spec.withU32 code instr start = some (instr index, next) := by
  simp [Spec.withU32, indexAt]

theorem withU32Pair_eq {code : List UInt8} {instr : Nat → Nat → Plain}
    {start first middle second next : Nat}
    (firstAt : Spec.u32 code start = some (first, middle))
    (secondAt : Spec.u32 code middle = some (second, next)) :
    Spec.withU32Pair code instr start = some (instr first second, next) := by
  simp [Spec.withU32Pair, firstAt, secondAt]

/-- The instructions behind the prefix `0xfc`, by their subopcode. -/
theorem misc_of_u32 {code : List UInt8} {subopcode start next : Nat}
    (subopcodeAt : Spec.u32 code start = some (subopcode, next))
    (large : ¬ subopcode ≤ 7) :
    Spec.misc code start =
      if subopcode = 8 then Spec.withU32Pair code .memoryInit next
      else if subopcode = 9 then Spec.withU32 code .dataDrop next
      else if subopcode = 10 then Spec.withU32Pair code .memoryCopy next
      else if subopcode = 11 then Spec.withU32 code .memoryFill next
      else if subopcode = 12 then Spec.withU32Pair code .tableInit next
      else if subopcode = 13 then Spec.withU32 code .elemDrop next
      else if subopcode = 14 then Spec.withU32Pair code .tableCopy next
      else if subopcode = 15 then Spec.withU32 code .tableGrow next
      else if subopcode = 16 then Spec.withU32 code .tableSize next
      else if subopcode = 17 then Spec.withU32 code .tableFill next
      else none := by
  simp only [Spec.misc, subopcodeAt, Option.bind_eq_bind, Option.bind_some, if_neg large]

theorem readBulk_ok {subopcode start : Nat} {effect : Effect} (large : ¬ subopcode ≤ 7)
    (subopcodeAt : Spec.u32 cx.code start = some (subopcode, pc))
    (read : readBulk cx offset pc subopcode = .ok (effect, pc')) :
    DecodesTo cx (Spec.misc cx.code start) effect pc' := by
  rw [misc_of_u32 subopcodeAt large]
  clear subopcodeAt large
  unfold readBulk at read
  split_ifs at read with memoryInit dataDrop memoryCopy memoryFill tableInit elemDrop
    tableCopy tableGrow tableSize tableFill
  all_goals
    subst subopcode
    simp only [bind_ok, Prod.exists, pure_ok, Except.ok.injEq, Prod.mk.injEq] at read
  · obtain ⟨_, dataRead, memory, _, memoryRead, address, found, rfl, rfl⟩ := read
    obtain ⟨data, dataAt, counted, inBounds⟩ := readData_ok dataRead
    refine ⟨.memoryInit data memory, withU32Pair_eq dataAt (readMemoryIndex_ok memoryRead), ?_⟩
    simp [Spec.plainSignature, Spec.knownData, addressType_ok found, counted, inBounds,
      Effect.signature]
  · obtain ⟨_, dataRead, rfl, rfl⟩ := read
    obtain ⟨data, dataAt, counted, inBounds⟩ := readData_ok dataRead
    refine ⟨.dataDrop data, withU32_eq dataAt, ?_⟩
    simp [Spec.plainSignature, Spec.knownData, counted, inBounds,
      Effect.signature]
  · obtain ⟨destination, _, destinationRead, source, _, sourceRead, destinationType,
      destinationFound, sourceType, sourceFound, rfl, rfl⟩ := read
    refine ⟨.memoryCopy destination source, withU32Pair_eq
      (readMemoryIndex_ok destinationRead) (readMemoryIndex_ok sourceRead), ?_⟩
    simp [Spec.plainSignature, addressType_ok destinationFound, addressType_ok sourceFound,
      Effect.signature]
  · obtain ⟨memory, _, memoryRead, address, found, rfl, rfl⟩ := read
    refine ⟨.memoryFill memory, withU32_eq (readMemoryIndex_ok memoryRead), ?_⟩
    simp [Spec.plainSignature, addressType_ok found, Effect.signature]
  · obtain ⟨_, elementRead, table, _, tableRead, rfl, rfl⟩ := read
    obtain ⟨element, elementAt, elementLt⟩ := readElement_ok elementRead
    obtain ⟨tableAt, tableLt⟩ := readTable_ok tableRead
    refine ⟨.tableInit element table, withU32Pair_eq elementAt tableAt, ?_⟩
    simp [Spec.plainSignature, Spec.knownElement, Spec.knownTable, elementLt, tableLt,
      Effect.signature]
  · obtain ⟨_, elementRead, rfl, rfl⟩ := read
    obtain ⟨element, elementAt, elementLt⟩ := readElement_ok elementRead
    refine ⟨.elemDrop element, withU32_eq elementAt, ?_⟩
    simp [Spec.plainSignature, Spec.knownElement, elementLt,
      Effect.signature]
  · obtain ⟨destination, _, destinationRead, source, _, sourceRead, rfl, rfl⟩ := read
    obtain ⟨destinationAt, destinationLt⟩ := readTable_ok destinationRead
    obtain ⟨sourceAt, sourceLt⟩ := readTable_ok sourceRead
    refine ⟨.tableCopy destination source, withU32Pair_eq destinationAt sourceAt, ?_⟩
    simp [Spec.plainSignature, Spec.knownTable, destinationLt, sourceLt,
      Effect.signature]
  · obtain ⟨table, _, tableRead, rfl, rfl⟩ := read
    obtain ⟨tableAt, tableLt⟩ := readTable_ok tableRead
    refine ⟨.tableGrow table, withU32_eq tableAt, ?_⟩
    simp [Spec.plainSignature, Spec.knownTable, tableLt, Effect.signature]
  · obtain ⟨table, _, tableRead, rfl, rfl⟩ := read
    obtain ⟨tableAt, tableLt⟩ := readTable_ok tableRead
    refine ⟨.tableSize table, withU32_eq tableAt, ?_⟩
    simp [Spec.plainSignature, Spec.knownTable, tableLt, Effect.signature]
  · obtain ⟨table, _, tableRead, rfl, rfl⟩ := read
    obtain ⟨tableAt, tableLt⟩ := readTable_ok tableRead
    refine ⟨.tableFill table, withU32_eq tableAt, ?_⟩
    simp [Spec.plainSignature, Spec.knownTable, tableLt, Effect.signature]

theorem readMisc_ok {effect : Effect} (read : readMisc cx offset pc = .ok (effect, pc')) :
    DecodesTo cx (Spec.misc cx.code pc) effect pc' := by
  simp only [readMisc, bind_ok, Prod.exists] at read
  obtain ⟨subopcode, next, subopcodeRead, read⟩ := read
  have subopcodeAt := readU32_ok subopcodeRead
  have signatureEq := truncSatEffect_eq subopcode
  by_cases small : subopcode ≤ 7
  · cases found : truncSatEffect subopcode with
    | none =>
        simp (disch := omega) only [found, Option.map_none, Spec.truncSatSignature] at signatureEq
        split_ifs at signatureEq
    | some effect' =>
        simp only [found, pure_ok, Except.ok.injEq, Prod.mk.injEq] at read
        obtain ⟨rfl, rfl⟩ := read
        refine ⟨.truncSat subopcode, ?_, ?_⟩
        · simp [Spec.misc, subopcodeAt, small]
        · rw [found] at signatureEq
          exact signatureEq.symm
  · have noEffect : truncSatEffect subopcode = none := by
      simp (disch := omega) only [truncSatEffect, if_neg]
    simp only [noEffect] at read
    exact readBulk_ok small subopcodeAt read

theorem skipI32_ok (skipped : skipI32 cx offset pc = .ok pc') :
    ∃ value, Spec.integer cx.code decodeI32 pc = some (value, pc') := by
  simp only [skipI32, bind_ok, Prod.exists, pure_ok, Except.ok.injEq] at skipped
  obtain ⟨value, _, read, rfl⟩ := skipped
  exact ⟨value, readWith_ok read⟩

theorem skipI64_ok (skipped : skipI64 cx offset pc = .ok pc') :
    ∃ value, Spec.integer cx.code decodeI64 pc = some (value, pc') := by
  simp only [skipI64, bind_ok, Prod.exists, pure_ok, Except.ok.injEq] at skipped
  obtain ⟨value, _, read, rfl⟩ := skipped
  exact ⟨value, readWith_ok read⟩

theorem isDeclared_ok {module : Module} {target : Nat}
    (declared : isDeclaredFunctionReference module target = true) :
    Spec.Referable module target := by
  simpa [isDeclaredFunctionReference, Spec.Referable, or_assoc] using declared

/-- Everything an arm with a fixed effect reads is the plain instruction that the
grammar finds behind the opcode, and its effect is that instruction's signature. -/
theorem readEffect_ok {opcode : Nat} {effect : Effect}
    (read : readEffect cx offset pc opcode = .ok (effect, pc')) :
    DecodesTo cx (Spec.plainImmediates cx.code opcode pc) effect pc' := by
  unfold readEffect at read
  replace read := ite_cases read
  rcases read with ⟨rfl, read⟩ | ⟨-, read⟩
  · cases read
    exact ⟨.nop, rfl, rfl⟩
  replace read := ite_cases read
  rcases read with ⟨rfl, read⟩ | ⟨-, read⟩
  · simp only [bind_ok, Prod.exists, pure_ok, Except.ok.injEq, Prod.mk.injEq] at read
    obtain ⟨type, _, typeRead, rfl, rfl⟩ := read
    refine ⟨.selectTyped type, ?_, rfl⟩
    simp [Spec.plainImmediates, readTypedSelectType_ok typeRead]
  replace read := ite_cases read
  rcases read with ⟨rfl, read⟩ | ⟨-, read⟩
  · simp only [bind_ok, Prod.exists, pure_ok, Except.ok.injEq, Prod.mk.injEq] at read
    obtain ⟨index, _, indexRead, type, found, rfl, rfl⟩ := read
    refine ⟨.localGet index, withU32_eq (readLocal_ok indexRead), ?_⟩
    simp [Spec.plainSignature, localType_ok found, Effect.signature]
  replace read := ite_cases read
  rcases read with ⟨rfl, read⟩ | ⟨-, read⟩
  · simp only [bind_ok, Prod.exists, pure_ok, Except.ok.injEq, Prod.mk.injEq] at read
    obtain ⟨index, _, indexRead, type, found, rfl, rfl⟩ := read
    refine ⟨.localSet index, withU32_eq (readLocal_ok indexRead), ?_⟩
    simp [Spec.plainSignature, localType_ok found, Effect.signature]
  replace read := ite_cases read
  rcases read with ⟨rfl, read⟩ | ⟨-, read⟩
  · simp only [bind_ok, Prod.exists, pure_ok, Except.ok.injEq, Prod.mk.injEq] at read
    obtain ⟨index, type, _, globalRead, rfl, rfl⟩ := read
    obtain ⟨indexAt, found⟩ := readGlobal_ok globalRead
    refine ⟨.globalGet index, withU32_eq indexAt, ?_⟩
    simp [Spec.plainSignature, found, Effect.signature]
  replace read := ite_cases read
  rcases read with ⟨rfl, read⟩ | ⟨-, read⟩
  · simp only [bind_ok, Prod.exists] at read
    obtain ⟨index, type, _, globalRead, checked⟩ := read
    obtain ⟨indexAt, found⟩ := readGlobal_ok globalRead
    split_ifs at checked with mutable
    cases checked
    refine ⟨.globalSet index, withU32_eq indexAt, ?_⟩
    simp [Spec.plainSignature, found, mutable, Effect.signature]
  replace read := ite_cases read
  rcases read with ⟨rfl, read⟩ | ⟨-, read⟩
  · simp only [bind_ok, Prod.exists, pure_ok, Except.ok.injEq, Prod.mk.injEq] at read
    obtain ⟨table, _, tableRead, rfl, rfl⟩ := read
    obtain ⟨tableAt, tableLt⟩ := readTable_ok tableRead
    refine ⟨.tableGet table, withU32_eq tableAt, ?_⟩
    simp [Spec.plainSignature, Spec.knownTable, tableLt, Effect.signature]
  replace read := ite_cases read
  rcases read with ⟨rfl, read⟩ | ⟨-, read⟩
  · simp only [bind_ok, Prod.exists, pure_ok, Except.ok.injEq, Prod.mk.injEq] at read
    obtain ⟨table, _, tableRead, rfl, rfl⟩ := read
    obtain ⟨tableAt, tableLt⟩ := readTable_ok tableRead
    refine ⟨.tableSet table, withU32_eq tableAt, ?_⟩
    simp [Spec.plainSignature, Spec.knownTable, tableLt, Effect.signature]
  replace read := ite_cases read
  rcases read with ⟨range, read⟩ | ⟨-, read⟩
  · simp only [bind_ok, Prod.exists, pure_ok, Except.ok.injEq, Prod.mk.injEq] at read
    obtain ⟨_, -, arg, _, memargRead, address, found, rfl, rfl⟩ := read
    obtain ⟨alignmentEq, typeEq⟩ := load_eq opcode range.2 range.1
    have addressEq := memargAddress_ok memargRead found
    rw [alignmentEq] at addressEq
    refine ⟨.load opcode arg, ?_, ?_⟩
    · simp (disch := omega) only [Spec.plainImmediates, if_neg, if_pos range,
        (readMemarg_ok memargRead).1]
      rfl
    · simp [Spec.plainSignature, addressEq, typeEq, Effect.signature]
  replace read := ite_cases read
  rcases read with ⟨range, read⟩ | ⟨-, read⟩
  · simp only [bind_ok, Prod.exists, pure_ok, Except.ok.injEq, Prod.mk.injEq] at read
    obtain ⟨_, -, arg, _, memargRead, address, found, rfl, rfl⟩ := read
    obtain ⟨alignmentEq, typeEq⟩ := store_eq opcode range.2 range.1
    have addressEq := memargAddress_ok memargRead found
    rw [alignmentEq] at addressEq
    refine ⟨.store opcode arg, ?_, ?_⟩
    · simp (disch := omega) only [Spec.plainImmediates, if_neg, if_pos range,
        (readMemarg_ok memargRead).1]
      rfl
    · simp [Spec.plainSignature, addressEq, typeEq, Effect.signature]
  replace read := ite_cases read
  rcases read with ⟨rfl, read⟩ | ⟨-, read⟩
  · simp only [bind_ok, Prod.exists, pure_ok, Except.ok.injEq, Prod.mk.injEq] at read
    obtain ⟨memory, _, memoryRead, address, found, rfl, rfl⟩ := read
    refine ⟨.memorySize memory, withU32_eq (readMemoryIndex_ok memoryRead), ?_⟩
    simp [Spec.plainSignature, addressType_ok found, Effect.signature]
  replace read := ite_cases read
  rcases read with ⟨rfl, read⟩ | ⟨-, read⟩
  · simp only [bind_ok, Prod.exists, pure_ok, Except.ok.injEq, Prod.mk.injEq] at read
    obtain ⟨memory, _, memoryRead, address, found, rfl, rfl⟩ := read
    refine ⟨.memoryGrow memory, withU32_eq (readMemoryIndex_ok memoryRead), ?_⟩
    simp [Spec.plainSignature, addressType_ok found, Effect.signature]
  replace read := ite_cases read
  rcases read with ⟨rfl, read⟩ | ⟨-, read⟩
  · simp only [bind_ok, pure_ok, Except.ok.injEq, Prod.mk.injEq] at read
    obtain ⟨_, skipped, rfl, rfl⟩ := read
    obtain ⟨value, valueAt⟩ := skipI32_ok skipped
    refine ⟨.i32Const (BitVec.ofInt _ value), ?_, rfl⟩
    simp [Spec.plainImmediates, valueAt]
  replace read := ite_cases read
  rcases read with ⟨rfl, read⟩ | ⟨-, read⟩
  · simp only [bind_ok, pure_ok, Except.ok.injEq, Prod.mk.injEq] at read
    obtain ⟨_, skipped, rfl, rfl⟩ := read
    obtain ⟨value, valueAt⟩ := skipI64_ok skipped
    refine ⟨.i64Const (BitVec.ofInt _ value), ?_, rfl⟩
    simp [Spec.plainImmediates, valueAt]
  replace read := ite_cases read
  rcases read with ⟨rfl, read⟩ | ⟨-, read⟩
  · simp only [bind_ok, pure_ok, Except.ok.injEq, Prod.mk.injEq] at read
    obtain ⟨_, skipped, rfl, rfl⟩ := read
    refine ⟨.f32Const (BitVec.ofNat _ (Spec.littleEndian ((cx.code.drop pc).take 4))), ?_, rfl⟩
    simp [Spec.plainImmediates, skipFixed_ok skipped]
  replace read := ite_cases read
  rcases read with ⟨rfl, read⟩ | ⟨-, read⟩
  · simp only [bind_ok, pure_ok, Except.ok.injEq, Prod.mk.injEq] at read
    obtain ⟨_, skipped, rfl, rfl⟩ := read
    refine ⟨.f64Const (BitVec.ofNat _ (Spec.littleEndian ((cx.code.drop pc).take 8))), ?_, rfl⟩
    simp [Spec.plainImmediates, skipFixed_ok skipped]
  replace read := ite_cases read
  rcases read with ⟨range, read⟩ | ⟨-, read⟩
  · cases found : numericEffect opcode with
    | none => simp [found] at read
    | some effect' =>
        simp only [found, pure_ok, Except.ok.injEq, Prod.mk.injEq] at read
        obtain ⟨rfl, rfl⟩ := read
        refine ⟨.numeric opcode, ?_, ?_⟩
        · simp (disch := omega) only [Spec.plainImmediates, if_neg, if_pos range]
        · simp [Spec.plainSignature, ← numericEffect_eq, found]
  replace read := ite_cases read
  rcases read with ⟨rfl, read⟩ | ⟨-, read⟩
  · simp only [bind_ok, Prod.exists] at read
    obtain ⟨referenceType, _, byteRead, checked⟩ := read
    split_ifs at checked with funcRef
    · simp [malformed] at checked
    cases checked
    refine ⟨.refNull, ?_, rfl⟩
    simp only [ne_eq, Decidable.not_not] at funcRef
    simp [Spec.plainImmediates, readByte_ok byteRead, funcRef]
  replace read := ite_cases read
  rcases read with ⟨rfl, read⟩ | ⟨-, read⟩
  · cases read
    exact ⟨.refIsNull, rfl, rfl⟩
  replace read := ite_cases read
  rcases read with ⟨rfl, read⟩ | ⟨-, read⟩
  · simp only [bind_ok, Prod.exists] at read
    obtain ⟨target, _, targetRead, checked⟩ := read
    split_ifs at checked with missing undeclared
    cases checked
    refine ⟨.refFunc target, withU32_eq (readU32_ok targetRead), ?_⟩
    obtain ⟨type, found⟩ := Option.ne_none_iff_exists'.mp (mt Option.isNone_iff_eq_none.mpr missing)
    have inBounds := cx.module.functionType_lt found
    have referable := isDeclared_ok (by simpa using undeclared)
    simp [Spec.plainSignature, inBounds, referable, Effect.signature]
  replace read := ite_cases read
  rcases read with ⟨rfl, read⟩ | ⟨-, read⟩
  · exact readSimd_ok read
  replace read := ite_cases read
  rcases read with ⟨rfl, read⟩ | ⟨-, read⟩
  · exact readMisc_ok read
  cases read

end MiniWasm.Validator
