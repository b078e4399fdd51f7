import MiniWasm.Runtime.NumericTyping
import MiniWasm.Runtime.SharedHistories
import MiniWasm.Runtime.VectorArms

/-!
# Typed execution of plain instructions

A plain instruction on operands and locals of its types leaves results of its types
and locals of theirs, or ends in a trap.  The memories, tables and globals that it
names are there, so no lookup fails.
-/

namespace MiniWasm.Spec

/-! ## Decoded instructions -/

/-- The immediate is of the shape that the opcode takes, with a lane below the limit. -/
def ImmediateFits : SimdShape → SimdImmediate → Prop
  | .none, .none => True
  | .memarg, .memarg _ => True
  | .memargLane limit, .memargLane _ lane => lane < limit
  | .bytes, .bytes _ => True
  | .shuffle, .shuffle lanes => lanes.length = 16 ∧ ∀ lane ∈ lanes, lane.toNat < 32
  | .lane limit, .lane lane => lane < limit
  | _, _ => False

/-- The instruction is one that bytes stand for. -/
def Encodable : Plain → Prop
  | .load opcode _ => 0x28 ≤ opcode ∧ opcode ≤ 0x35
  | .store opcode _ => 0x36 ≤ opcode ∧ opcode ≤ 0x3e
  | .simd subopcode immediate =>
      ∃ shape, simdShape subopcode = some shape ∧ ImmediateFits shape immediate
  | _ => True

section Encodable

open Library

variable {code : List UInt8} {pc : Nat}

theorem laneIndex_lt (limit : Nat) :
    IfAny (fun read => read.1 < limit) (laneIndex code limit pc) :=
  .bind fun _ _ => .checked (fun below => ifAny_some.mpr below) fun _ => ifAny_none

theorem bytes_length (width : Nat) :
    IfAny (fun read => read.1.length = width) (bytes code width pc) := by
  refine .checked (fun inside => ifAny_some.mpr ?_) fun _ => ifAny_none
  rw [List.length_take, List.length_drop]
  omega

theorem simdImmediate_fits (shape : SimdShape) :
    IfAny (fun read => ImmediateFits shape read.1) (simdImmediate code shape pc) := by
  cases shape with
  | none => exact ifAny_some.mpr trivial
  | memarg => exact .bind fun _ _ => ifAny_some.mpr trivial
  | memargLane limit =>
    exact .bind fun _ _ => .bind fun _ laneRead => ifAny_some.mpr (laneIndex_lt limit _ laneRead)
  | bytes => exact .bind fun _ _ => ifAny_some.mpr trivial
  | shuffle =>
    exact .bind fun lanes lanesRead => .checked (fun bounded =>
      ifAny_some.mpr ⟨bytes_length 16 _ lanesRead, by simpa using bounded⟩) fun _ => ifAny_none
  | lane limit => exact .bind fun _ laneRead => ifAny_some.mpr (laneIndex_lt limit _ laneRead)

theorem withU32_encodable {instr : Nat → Plain} (each : ∀ index, Encodable (instr index)) :
    IfAny (fun read => Encodable read.1) (withU32 code instr pc) :=
  .bind fun _ _ => ifAny_some.mpr (each _)

theorem withU32Pair_encodable {instr : Nat → Nat → Plain}
    (each : ∀ first second, Encodable (instr first second)) :
    IfAny (fun read => Encodable read.1) (withU32Pair code instr pc) :=
  .bind fun _ _ => .bind fun _ _ => ifAny_some.mpr (each _ _)

theorem misc_encodable : IfAny (fun read => Encodable read.1) (misc code pc) := by
  refine .bind fun _ _ => .ite (ifAny_some.mpr trivial) ?_
  iterate 10 refine .ite (by first | exact withU32_encodable fun _ => trivial
                                   | exact withU32Pair_encodable fun _ _ => trivial) ?_
  exact ifAny_none

theorem simd_encodable : IfAny (fun read => Encodable read.1) (simd code pc) :=
  .bind fun _ _ => .bind fun shape listed => .bind fun _ immediateRead =>
    ifAny_some.mpr ⟨shape, listed, simdImmediate_fits shape _ immediateRead⟩

/-- What the bytes of a plain instruction stand for. -/
theorem plainImmediates_encodable (opcode : Nat) :
    IfAny (fun read => Encodable read.1) (plainImmediates code opcode pc) := by
  have access {make : Nat → Memarg → Plain} {low high : Nat} {rest : Option (Plain × Nat)}
      (each : ∀ arg, low ≤ opcode → opcode ≤ high → Encodable (make opcode arg))
      (others : IfAny (fun read => Encodable read.1) rest) :
      IfAny (fun read => Encodable read.1)
        (if low ≤ opcode ∧ opcode ≤ high then
          memarg code pc >>= fun read => return (make opcode read.1, read.2)
        else rest) := by
    exact .checked (fun bounds => .bind fun _ _ => ifAny_some.mpr (each _ bounds.1 bounds.2))
      fun _ => others
  have bare {instr : Plain} (encodable : Encodable instr) :
      IfAny (fun read => Encodable read.1) (some (instr, pc)) := ifAny_some.mpr encodable
  unfold plainImmediates
  refine .ite (bare trivial) <| .ite (bare trivial) <| .ite (bare trivial) <|
    .ite (.bind fun _ _ => ifAny_some.mpr trivial) ?_
  iterate 7 refine .ite (withU32_encodable fun _ => trivial) ?_
  refine access (fun _ low high => ⟨low, high⟩) <| access (fun _ low high => ⟨low, high⟩) ?_
  iterate 2 refine .ite (withU32_encodable fun _ => trivial) ?_
  iterate 4 refine .ite (.bind fun _ _ => ifAny_some.mpr trivial) ?_
  refine .ite (bare trivial) <| .ite ?_ <| .ite (bare trivial) <|
    .ite (withU32_encodable fun _ => trivial) <| .ite misc_encodable <|
    .ite simd_encodable ifAny_none
  exact .bind fun _ _ => .ite (ifAny_some.mpr trivial) ifAny_none

theorem simpleAt_encodable :
    IfAny (fun read => ∀ instr, read.1 = .plain instr → Encodable instr) (simpleAt code pc) := by
  have other {instr : Simple} {pc : Nat} (notPlain : ∀ plain, instr ≠ .plain plain) :
      IfAny (fun read : Simple × Nat => ∀ instr, read.1 = .plain instr → Encodable instr)
        (some (instr, pc)) :=
    ifAny_some.mpr fun plain same => absurd same (notPlain plain)
  refine .bind fun opcode _ => ?_
  unfold simpleImmediates
  refine .ite (other (by simp)) <| .ite (.bind fun _ _ => other (by simp)) <|
    .ite (.bind fun _ _ => other (by simp)) <|
    .ite (.bind fun _ _ => .bind fun _ _ => .bind fun _ _ => other (by simp)) <|
    .ite (other (by simp)) <| .ite (.bind fun _ _ => other (by simp)) <|
    .ite (.bind fun _ _ => .bind fun _ _ => other (by simp)) <|
    .ite (.bind fun _ _ => other (by simp)) <|
    .ite (.bind fun _ _ => .bind fun _ _ => other (by simp)) <|
    .bind fun read found => ifAny_some.mpr fun plain same => ?_
  cases same
  exact plainImmediates_encodable _ _ found

end Encodable

end MiniWasm.Spec

namespace MiniWasm.Runtime

open Library

variable {σ : Type}

/-! ## States -/

/-- The store has what the instance's module declares. -/
structure Store.Serves (inst : Instance σ) (store : Store σ) : Prop where
  fits : store.Fits inst
  declared : inst.Declared store.heap

/-- The types of the operands and of the locals that an instruction leaves. -/
def Leaves (types : List ValueType) (before after : PlainState σ) : Prop :=
  typesOf after.stack = types ∧ typesOf after.locals = typesOf before.locals

section Pushing

variable {state : PlainState σ} {types : List ValueType}

/-- An arm that only changes the operand stack. -/
theorem stack_safe {run : Run Stack} (safe : Safe (fun after => typesOf after = types) run) :
    Safe (Leaves types state) (do return { state with stack := ← run }) :=
  safe.bind fun _ typed => (yields_pure _).mpr ⟨typed, rfl⟩

theorem leaves_push {value : Value} {type : ValueType} {stack : Stack} {store : Store σ}
    (valueTyped : value.valueType = type) (typed : typesOf stack = types) :
    Safe (Leaves (type :: types) state) (pure { state with store, stack := value :: stack }) :=
  (yields_pure _).mpr ⟨congrArg₂ List.cons valueTyped typed, rfl⟩

end Pushing

/-! ## Memory accesses -/

section Memories

variable {inst : Instance σ} {state : PlainState σ} {cx : Spec.Context}
variable {stack : Stack} {types : List ValueType}

variable (memory : LinearMemory)

theorem checkedBulkRange_safe (address width : Nat) :
    Safe (fun _ => True) (memory.checkedBulkRange address width) :=
  .ite (fun _ => trap_safe trivial) fun _ => .ite (fun _ => trap_safe trivial) fun _ =>
    ok_safe trivial

theorem checkedRange_safe (address : BitVec 32) (displacement width : Nat) :
    Safe (fun _ => True) (memory.checkedRange address displacement width) :=
  .ite (fun _ => trap_safe trivial) fun _ => .ite (fun _ => trap_safe trivial) fun _ =>
    .ite (fun _ => trap_safe trivial) fun _ => ok_safe trivial

theorem effectiveAddress_safe (address displacement width : Nat) :
    Safe (fun _ => True) (LinearMemory.effectiveAddress address displacement width) :=
  .ite (fun _ => trap_safe trivial) fun _ => ok_safe trivial

theorem load_safe (bits width : Nat) (signed : Bool) (address : BitVec 32) (displacement : Nat) :
    Safe (fun _ => True) (memory.load bits width signed address displacement) :=
  (checkedRange_safe memory address displacement width).bind fun _ _ => (yields_pure _).mpr trivial

theorem store_safe {bits : Nat} (width : Nat) (address : BitVec 32) (displacement : Nat)
    (value : BitVec bits) :
    Safe (fun _ => True) (memory.store bits width address displacement value) :=
  (checkedRange_safe memory address displacement width).bind fun _ _ => (yields_pure _).mpr trivial

theorem loadFixed_safe (width address displacement : Nat) :
    Safe (fun _ => True) (memory.loadFixed width address displacement) :=
  (effectiveAddress_safe address displacement width).bind fun effective _ =>
    (checkedBulkRange_safe memory effective width).bind fun _ _ => (yields_pure _).mpr trivial

theorem storeV128_safe (address displacement : Nat) (value : List UInt8) :
    Safe (fun _ => True) (memory.storeV128 address displacement value) :=
  (effectiveAddress_safe address displacement 16).bind fun effective _ =>
    (checkedBulkRange_safe memory effective 16).bind fun _ _ => (yields_pure _).mpr trivial

theorem fillBulk_safe (destination : Nat) (value : BitVec 32) (length : Nat) :
    Safe (fun _ => True) (memory.fillBulk destination value length) :=
  (checkedBulkRange_safe memory destination length).bind fun _ _ => (yields_pure _).mpr trivial

variable {memory}

/-- The address type that a memory argument or a bulk operation takes. -/
theorem memoryAddress_type (same : cx.module = inst.module) {index : Nat} {address : ValueType}
    (known : Spec.memoryAddress cx index = some address) :
    ∃ type, inst.module.memoryType index = some type ∧ address = Spec.addressOf type := by
  rw [Spec.memoryAddress, same] at known
  obtain ⟨type, found, rfl⟩ := Option.map_eq_some_iff.mp known
  exact ⟨type, found, rfl⟩

theorem memargAddress_type (same : cx.module = inst.module) {alignment : Nat} {arg : Memarg}
    {address : ValueType} (known : Spec.memargAddress cx alignment arg = some address) :
    ∃ type, inst.module.memoryType arg.memory = some type ∧ address = Spec.addressOf type := by
  unfold Spec.memargAddress at known
  rw [same] at known
  cases found : inst.module.memoryType arg.memory with
  | none =>
    rw [found] at known
    cases known
  | some type =>
    rw [found] at known
    obtain ⟨-, chosen⟩ | ⟨-, none⟩ := ite_cases known
    · cases chosen
      exact ⟨type, rfl, rfl⟩
    · cases none

theorem popWideOrNarrow_safe {wide : Bool}
    (typed : typesOf stack = (if wide then .i64 else .i32) :: types) :
    Safe (fun popped => typesOf popped.2 = types) (popWideOrNarrow stack wide) := by
  refine .ite (fun isWide => ?_) fun isNarrow => ?_
  · rw [if_pos isWide] at typed
    exact (i64FromStack_safe typed).bind fun _ rest => (yields_pure _).mpr rest
  · rw [if_neg isNarrow] at typed
    exact (i32FromStack_safe typed).bind fun _ rest => (yields_pure _).mpr rest

section Known

variable {index : Nat} {type : MemoryType} (found : inst.module.memoryType index = some type)
include found

theorem runtimeMemoryIs64_found : runtimeMemoryIs64 inst index = .ok type.limits.memory64 := by
  rw [runtimeMemoryIs64, found]

theorem expectMemory64_found : expectMemory64 inst index = .ok type.limits.memory64 := by
  rw [expectMemory64, found]

theorem popRuntimeBulkMemoryAddress_safe
    (typed : typesOf stack = Spec.addressOf type :: types) :
    Safe (fun popped => typesOf popped.2 = types)
      (popRuntimeBulkMemoryAddress inst stack index) := by
  rw [popRuntimeBulkMemoryAddress, runtimeMemoryIs64_found found, ok_bind]
  exact popWideOrNarrow_safe typed

theorem popRuntimeMemoryAddress_safe (typed : typesOf stack = Spec.addressOf type :: types) :
    Safe (fun popped => typesOf popped.2 = types) (popRuntimeMemoryAddress inst stack index) := by
  rw [popRuntimeMemoryAddress, runtimeMemoryIs64_found found, ok_bind]
  refine .ite (fun isWide => ?_) fun isNarrow => ?_
  · rw [Spec.addressOf, if_pos isWide] at typed
    exact (i64FromStack_safe typed).bind fun _ rest =>
      .ite (fun _ => trap_safe trivial) fun _ => (yields_pure _).mpr rest
  · rw [Spec.addressOf, if_neg isNarrow] at typed
    exact i32FromStack_safe typed

variable {store : Store σ} (serves : store.Serves inst)
include serves

/-- A memory that the module declares is in the store. -/
theorem memoryAt_succeeds : ∃ memory, store.memoryAt index = .ok memory := by
  have inside : index < store.memories.length := by
    rw [serves.fits.memoryCount]
    exact inst.module.memoryType_lt found
  exact ⟨_, by rw [Store.memoryAt, List.getElem?_eq_getElem inside]⟩

theorem memoryAt_safe : Safe (fun _ => True) (store.memoryAt index) := by
  obtain ⟨memory, present⟩ := memoryAt_succeeds found serves
  exact .of_ok present trivial

theorem withMemoryIndexMut_safe {update : LinearMemory → Run LinearMemory}
    (updates : ∀ memory, Safe (fun _ => True) (update memory)) :
    Safe (fun _ => True) (store.withMemoryIndexMut index update) :=
  (memoryAt_safe found serves).bind fun memory _ =>
    (updates memory).bind fun _ _ => (yields_pure _).mpr trivial

end Known

theorem loadValue_safe {opcode : Nat} (bounds : 0x28 ≤ opcode ∧ opcode ≤ 0x35)
    (memory : LinearMemory) (address : BitVec 32) (displacement : Nat) :
    Safe (fun value => value.valueType = Spec.accessType opcode)
      (loadValue memory opcode address displacement) := by
  have loads {bits width : Nat} {signed : Bool} {number : Nat} {make : BitVec bits → Value}
      (typed : ∀ value, (make value).valueType = Spec.accessType number)
      (is : opcode = number) :
      Safe (fun value => value.valueType = Spec.accessType opcode)
        (do return make (← memory.load bits width signed address displacement)) :=
    (load_safe memory bits width signed address displacement).bind fun value _ =>
      (yields_pure _).mpr (is ▸ typed value)
  unfold loadValue
  iterate 14 refine .ite (fun is => loads (fun _ => rfl) is) fun _ => ?_
  omega

variable (serves : state.store.Serves inst) (same : cx.module = inst.module)
include serves same

theorem executeLoad_safe {opcode : Nat} {arg : Memarg} {address : ValueType}
    (bounds : 0x28 ≤ opcode ∧ opcode ≤ 0x35)
    (known : Spec.memargAddress cx (Spec.accessAlignment opcode) arg = some address)
    (typed : typesOf state.stack = address :: types) :
    Safe (Leaves (Spec.accessType opcode :: types) state) (executeLoad inst state opcode arg) := by
  obtain ⟨type, found, rfl⟩ := memargAddress_type same known
  refine (popRuntimeMemoryAddress_safe found typed).bind ?_
  rintro ⟨address, stack⟩ typed
  refine (memoryAt_safe found serves).bind fun memory _ => ?_
  exact (loadValue_safe bounds memory address arg.offset).bind fun _ valueTyped =>
    leaves_push valueTyped typed

omit same in
theorem executeStoreAs_safe {width : Nat} {arg : Memarg} {type : MemoryType}
    {value : BitVec width}
    {store : LinearMemory → BitVec 32 → Nat → BitVec width → Run LinearMemory}
    (found : inst.module.memoryType arg.memory = some type)
    (stores : ∀ memory address, Safe (fun _ => True) (store memory address arg.offset value))
    (typed : typesOf stack = Spec.addressOf type :: types) :
    Safe (Leaves types state) (executeStoreAs inst state arg value stack store) := by
  refine (popRuntimeMemoryAddress_safe found typed).bind ?_
  rintro ⟨address, stack⟩ typed
  exact (withMemoryIndexMut_safe found serves fun memory => stores memory address).bind
    fun _ _ => (yields_pure _).mpr ⟨typed, rfl⟩

theorem executeStore_safe {opcode : Nat} {arg : Memarg} {address : ValueType}
    (bounds : 0x36 ≤ opcode ∧ opcode ≤ 0x3e)
    (known : Spec.memargAddress cx (Spec.accessAlignment opcode) arg = some address)
    (typed : typesOf state.stack = Spec.accessType opcode :: address :: types) :
    Safe (Leaves types state) (executeStore inst state opcode arg) := by
  obtain ⟨type, found, rfl⟩ := memargAddress_type same known
  have one {bits : Nat} (width : Nat) (value : BitVec bits) (memory : LinearMemory)
      (address : BitVec 32) :
      Safe (fun _ => True) (memory.store bits width address arg.offset value) :=
    store_safe memory width address arg.offset value
  refine .ite (fun listed => ?_) fun not32 => .ite (fun listed => ?_) fun not64 =>
    .ite (fun is => ?_) fun notF32 => .ite (fun is => ?_) fun notF64 => ?_
  · have accesses : Spec.accessType opcode = .i32 := by
      simp only [List.mem_cons, List.not_mem_nil, or_false] at listed
      rcases listed with rfl | rfl | rfl <;> rfl
    rw [accesses] at typed
    refine (i32FromStack_safe typed).bind ?_
    rintro ⟨value, stack⟩ typed
    refine executeStoreAs_safe serves found (fun memory address => ?_) typed
    split_ifs
    · exact one 4 value memory address
    · exact one 1 value memory address
    · exact one 2 value memory address
  · have accesses : Spec.accessType opcode = .i64 := by
      obtain rfl | rfl | rfl | rfl :
        opcode = 0x37 ∨ opcode = 0x3c ∨ opcode = 0x3d ∨ opcode = 0x3e := by omega
      all_goals rfl
    rw [accesses] at typed
    refine (i64FromStack_safe typed).bind ?_
    rintro ⟨value, stack⟩ typed
    refine executeStoreAs_safe serves found (fun memory address => ?_) typed
    split_ifs
    · exact one 8 value memory address
    · exact one 1 value memory address
    · exact one 2 value memory address
    · exact one 4 value memory address
  · subst is
    refine (f32FromStack_safe typed).bind ?_
    rintro ⟨value, stack⟩ typed
    exact executeStoreAs_safe serves found (one 4 value) typed
  · subst is
    refine (f64FromStack_safe typed).bind ?_
    rintro ⟨value, stack⟩ typed
    exact executeStoreAs_safe serves found (one 8 value) typed
  · simp only [List.mem_cons, List.not_mem_nil, or_false] at not32
    omega

theorem executeMemorySize_safe {memory : Nat} {address : ValueType}
    (known : Spec.memoryAddress cx memory = some address)
    (typed : typesOf state.stack = types) :
    Safe (Leaves (address :: types) state) (executeMemorySize inst state memory) := by
  obtain ⟨type, found, rfl⟩ := memoryAddress_type same known
  refine (memoryAt_safe found serves).bind fun linear _ => ?_
  rw [expectMemory64_found found, ok_bind]
  refine leaves_push ?_ typed
  unfold Spec.addressOf
  split_ifs <;> rfl

theorem executeMemoryGrow_safe {memory : Nat} {address : ValueType}
    (known : Spec.memoryAddress cx memory = some address)
    (typed : typesOf state.stack = address :: types) :
    Safe (Leaves (address :: types) state) (executeMemoryGrow inst state memory) := by
  obtain ⟨type, found, rfl⟩ := memoryAddress_type same known
  have grows (delta : Nat) : Safe (fun _ => True) (growMemoryAt state.store memory delta) :=
    (memoryAt_safe found serves).bind fun _ _ => (yields_pure _).mpr trivial
  rw [executeMemoryGrow, expectMemory64_found found, ok_bind]
  refine .ite (fun isWide => ?_) fun isNarrow => ?_
  · rw [Spec.addressOf, if_pos isWide] at typed ⊢
    refine (i64FromStack_safe typed).bind ?_
    rintro ⟨delta, stack⟩ typed
    exact .ite (fun _ => leaves_push rfl typed) fun _ =>
      (grows delta.toNat).bind fun _ _ => leaves_push rfl typed
  · rw [Spec.addressOf, if_neg isNarrow] at typed ⊢
    refine (i32FromStack_safe typed).bind ?_
    rintro ⟨delta, stack⟩ typed
    exact (grows delta.toNat).bind fun _ _ => leaves_push rfl typed

end Memories

/-! ## Bulk memory -/

section BulkMemory

variable {inst : Instance σ} {state : PlainState σ} {cx : Spec.Context}
variable {types : List ValueType} (serves : state.store.Serves inst)
variable (same : cx.module = inst.module)
include serves same

omit serves same in
/-- A part that only changes the store. -/
theorem store_only_safe {run : Run (Store σ)} {stack : Stack}
    (safe : Safe (fun _ => True) run) (typed : typesOf stack = types) :
    Safe (Leaves types state) (do return { state with store := ← run, stack }) :=
  safe.bind fun _ _ => (yields_pure _).mpr ⟨typed, rfl⟩

theorem memoryInit_safe {data memory : Nat} {address : ValueType}
    (inData : data < inst.module.data.length)
    (known : Spec.memoryAddress cx memory = some address)
    (typed : typesOf state.stack = .i32 :: .i32 :: address :: types) :
    Safe (Leaves types state) (executeBulkMemory inst state (.memoryInit data memory)) := by
  obtain ⟨type, found, rfl⟩ := memoryAddress_type same known
  refine (i32FromStack_safe typed).bind ?_
  rintro ⟨length, stack⟩ typed
  refine (i32FromStack_safe typed).bind ?_
  rintro ⟨source, stack⟩ typed
  refine (popRuntimeBulkMemoryAddress_safe found typed).bind ?_
  rintro ⟨destination, stack⟩ typed
  refine store_only_safe ?_ typed
  have inside : data < state.store.dataSegments.length := by rwa [serves.fits.dataCount]
  unfold Store.memoryInit
  rw [List.getElem?_eq_getElem inside]
  exact .ite (fun _ => trap_safe trivial) fun _ =>
    withMemoryIndexMut_safe found serves fun memory =>
      (checkedBulkRange_safe memory _ _).bind fun _ _ => (yields_pure _).mpr trivial

theorem memoryFill_safe {memory : Nat} {address : ValueType}
    (known : Spec.memoryAddress cx memory = some address)
    (typed : typesOf state.stack = address :: .i32 :: address :: types) :
    Safe (Leaves types state) (executeBulkMemory inst state (.memoryFill memory)) := by
  obtain ⟨type, found, rfl⟩ := memoryAddress_type same known
  refine (popRuntimeBulkMemoryAddress_safe found typed).bind ?_
  rintro ⟨length, stack⟩ typed
  refine (i32FromStack_safe typed).bind ?_
  rintro ⟨value, stack⟩ typed
  refine (popRuntimeBulkMemoryAddress_safe found typed).bind ?_
  rintro ⟨destination, stack⟩ typed
  exact store_only_safe (withMemoryIndexMut_safe found serves fun memory =>
    fillBulk_safe memory destination value length) typed

/-- The length of a copy has the narrower of the two address types. -/
theorem memoryCopy_safe {destinationMemory sourceMemory : Nat}
    {destinationAddress sourceAddress : ValueType}
    (destinationKnown : Spec.memoryAddress cx destinationMemory = some destinationAddress)
    (sourceKnown : Spec.memoryAddress cx sourceMemory = some sourceAddress)
    (typed : typesOf state.stack =
      (if destinationAddress = .i64 ∧ sourceAddress = .i64 then .i64 else .i32) ::
        sourceAddress :: destinationAddress :: types) :
    Safe (Leaves types state)
      (executeBulkMemory inst state (.memoryCopy destinationMemory sourceMemory)) := by
  obtain ⟨destinationType, destinationFound, rfl⟩ := memoryAddress_type same destinationKnown
  obtain ⟨sourceType, sourceFound, rfl⟩ := memoryAddress_type same sourceKnown
  have lengthSafe : Safe (fun popped => typesOf popped.2 =
      Spec.addressOf sourceType :: Spec.addressOf destinationType :: types)
      (popRuntimeMemoryCopyLength inst state.stack destinationMemory sourceMemory) := by
    rw [popRuntimeMemoryCopyLength, runtimeMemoryIs64_found destinationFound, ok_bind,
      runtimeMemoryIs64_found sourceFound]
    refine .ite (fun wide => popWideOrNarrow_safe ?_) fun narrow => popWideOrNarrow_safe ?_
    · rw [typed, Spec.addressOf, Spec.addressOf, if_pos wide]
      cases sourceType.limits.memory64 <;> rfl
    · rw [typed, Spec.addressOf, Spec.addressOf, if_neg narrow]
      rfl
  refine lengthSafe.bind ?_
  rintro ⟨length, stack⟩ typed
  refine (popRuntimeBulkMemoryAddress_safe sourceFound typed).bind ?_
  rintro ⟨source, stack⟩ typed
  refine (popRuntimeBulkMemoryAddress_safe destinationFound typed).bind ?_
  rintro ⟨destination, stack⟩ typed
  refine store_only_safe ?_ typed
  exact (memoryAt_safe sourceFound serves).bind fun memory _ =>
    (checkedBulkRange_safe memory source length).bind fun _ _ =>
      withMemoryIndexMut_safe destinationFound serves fun memory =>
        (checkedBulkRange_safe memory destination length).bind fun _ _ =>
          (yields_pure _).mpr trivial

end BulkMemory

/-! ## Tables, globals and locals -/

/-- The errors of an access to an element. -/
def TableHandleError.OfElement : TableHandleError → Prop
  | .outOfBounds _ _ | .foreignFunctionReference _ => True
  | _ => False

section Tables

variable {inst : Instance σ} {state : PlainState σ} {types : List ValueType}
variable (linked : inst.Linked)
include linked

theorem tableHandle_safe {table : Nat} (inside : table < inst.module.tableCount) :
    Safe (fun _ => True) (inst.tableHandle table) := by
  rw [← linked.tableCount] at inside
  rw [Instance.tableHandle, List.getElem?_eq_getElem inside]
  exact ok_safe trivial

omit linked in
theorem tableResult_safe {α : Type} {result : Except TableHandleError α} {index : Nat}
    (raises : Raises TableHandleError.OfElement result) :
    Safe (fun _ => True) (tableResult index result) := by
  cases result with
  | ok value => exact ok_safe trivial
  | error err =>
    cases err with
    | outOfBounds position length => exact trap_safe trivial
    | foreignFunctionReference position => exact trap_safe trivial
    | _ => exact ((raises_error _).mp raises).elim

theorem tableGet_safe {table : Nat} (inside : table < inst.module.tableCount) (store : Store σ)
    (element : Nat) : Safe (fun _ => True) (inst.tableGet store table element) := by
  refine (tableHandle_safe linked inside).bind fun handle _ => tableResult_safe ?_
  unfold TableCell.functionIndexForInstance TableCell.get
  cases (store.heap.table handle).slots[element]? with
  | none => exact (raises_error _).mpr trivial
  | some slot =>
    cases slot with
    | none => exact raises_pure _
    | some function =>
      rw [ok_bind, raises_ite, raises_ite, raises_error]
      exact ⟨fun _ => trivial, fun _ => ⟨fun _ => trivial, fun _ => raises_pure _⟩⟩

theorem tableSet_safe {table : Nat} (inside : table < inst.module.tableCount) (store : Store σ)
    (element : Nat) (reference : Option Nat) :
    Safe (fun _ => True) (inst.tableSet store table element reference) := by
  refine (tableHandle_safe linked inside).bind fun handle _ => ?_
  refine (tableResult_safe ?_).bind fun _ _ => (yields_pure _).mpr trivial
  unfold TableCell.set
  rw [raises_ite, raises_error]
  exact ⟨fun _ => raises_ok _, fun _ => trivial⟩

theorem tableInit_safe {element table : Nat} (inside : table < inst.module.tableCount)
    (serves : state.store.Serves inst) (inElements : element < inst.module.elements.length)
    (destination source length : BitVec 32) :
    Safe (fun _ => True)
      (inst.tableInit state.store element table destination source length) := by
  have present : element < state.store.elementSegments.length := by
    rwa [serves.fits.elementCount]
  unfold Instance.tableInit
  rw [List.getElem?_eq_getElem present]
  exact .ite (fun _ => trap_safe trivial) fun _ =>
    (tableHandle_safe linked inside).bind fun _ _ =>
      .ite (fun _ => trap_safe trivial) fun _ => (yields_pure _).mpr trivial

theorem tableCopy_safe {destinationTable sourceTable : Nat}
    (destinationInside : destinationTable < inst.module.tableCount)
    (sourceInside : sourceTable < inst.module.tableCount) (store : Store σ)
    (destination source length : BitVec 32) :
    Safe (fun _ => True)
      (inst.tableCopy store destinationTable sourceTable destination source length) :=
  (tableHandle_safe linked sourceInside).bind fun _ _ =>
    (tableHandle_safe linked destinationInside).bind fun _ _ =>
      .ite (fun _ => trap_safe trivial) fun _ =>
        .ite (fun _ => trap_safe trivial) fun _ => (yields_pure _).mpr trivial

theorem tableFill_safe {table : Nat} (inside : table < inst.module.tableCount)
    (store : Store σ) (destination : BitVec 32) (value : Option Nat) (length : BitVec 32) :
    Safe (fun _ => True) (inst.tableFill store table destination value length) :=
  (tableHandle_safe linked inside).bind fun _ _ =>
    .ite (fun _ => trap_safe trivial) fun _ => (yields_pure _).mpr trivial

/-! The arms: the operands, then the table. -/

section Arms

theorem tableGetArm_safe {table : Nat} (inside : table < inst.module.tableCount)
    (typed : typesOf state.stack = .i32 :: types) :
    Safe (Leaves (.funcRef :: types) state) (executeTable inst state (.tableGet table)) := by
  refine (i32FromStack_safe typed).bind ?_
  rintro ⟨element, stack⟩ typed
  exact (tableGet_safe linked inside state.store element.toNat).bind fun _ _ =>
    leaves_push rfl typed

theorem tableSetArm_safe {table : Nat} (inside : table < inst.module.tableCount)
    (typed : typesOf state.stack = .funcRef :: .i32 :: types) :
    Safe (Leaves types state) (executeTable inst state (.tableSet table)) := by
  refine (funcRefFromStack_safe typed).bind ?_
  rintro ⟨reference, stack⟩ typed
  refine (i32FromStack_safe typed).bind ?_
  rintro ⟨element, stack⟩ typed
  exact store_only_safe (tableSet_safe linked inside state.store element.toNat reference) typed

theorem tableInitArm_safe {element table : Nat} (inside : table < inst.module.tableCount)
    (serves : state.store.Serves inst) (inElements : element < inst.module.elements.length)
    (typed : typesOf state.stack = .i32 :: .i32 :: .i32 :: types) :
    Safe (Leaves types state) (executeTable inst state (.tableInit element table)) := by
  refine (i32FromStack_safe typed).bind ?_
  rintro ⟨length, stack⟩ typed
  refine (i32FromStack_safe typed).bind ?_
  rintro ⟨source, stack⟩ typed
  refine (i32FromStack_safe typed).bind ?_
  rintro ⟨destination, stack⟩ typed
  exact store_only_safe
    (tableInit_safe linked inside serves inElements destination source length) typed

theorem tableCopyArm_safe {destinationTable sourceTable : Nat}
    (destinationInside : destinationTable < inst.module.tableCount)
    (sourceInside : sourceTable < inst.module.tableCount)
    (typed : typesOf state.stack = .i32 :: .i32 :: .i32 :: types) :
    Safe (Leaves types state)
      (executeTable inst state (.tableCopy destinationTable sourceTable)) := by
  refine (i32FromStack_safe typed).bind ?_
  rintro ⟨length, stack⟩ typed
  refine (i32FromStack_safe typed).bind ?_
  rintro ⟨source, stack⟩ typed
  refine (i32FromStack_safe typed).bind ?_
  rintro ⟨destination, stack⟩ typed
  exact store_only_safe
    (tableCopy_safe linked destinationInside sourceInside state.store destination source length)
    typed

theorem tableGrowArm_safe {table : Nat} (inside : table < inst.module.tableCount)
    (typed : typesOf state.stack = .i32 :: .funcRef :: types) :
    Safe (Leaves (.i32 :: types) state) (executeTable inst state (.tableGrow table)) := by
  refine (i32FromStack_safe typed).bind ?_
  rintro ⟨delta, stack⟩ typed
  refine (funcRefFromStack_safe typed).bind ?_
  rintro ⟨reference, stack⟩ typed
  have grown : Safe (fun _ => True) (inst.tableGrow state.store table delta reference) :=
    (tableHandle_safe linked inside).bind fun _ _ => (yields_pure _).mpr trivial
  exact grown.bind fun _ _ => leaves_push rfl typed

theorem tableSizeArm_safe {table : Nat} (inside : table < inst.module.tableCount)
    (typed : typesOf state.stack = types) :
    Safe (Leaves (.i32 :: types) state) (executeTable inst state (.tableSize table)) := by
  have sized : Safe (fun _ => True) (inst.tableSize state.store table) :=
    (tableHandle_safe linked inside).bind fun _ _ => (yields_pure _).mpr trivial
  exact sized.bind fun _ _ => leaves_push rfl typed

theorem tableFillArm_safe {table : Nat} (inside : table < inst.module.tableCount)
    (typed : typesOf state.stack = .i32 :: .funcRef :: .i32 :: types) :
    Safe (Leaves types state) (executeTable inst state (.tableFill table)) := by
  refine (i32FromStack_safe typed).bind ?_
  rintro ⟨length, stack⟩ typed
  refine (funcRefFromStack_safe typed).bind ?_
  rintro ⟨value, stack⟩ typed
  refine (i32FromStack_safe typed).bind ?_
  rintro ⟨destination, stack⟩ typed
  exact store_only_safe (tableFill_safe linked inside state.store destination value length) typed

end Arms

end Tables

section Variables

variable {inst : Instance σ} {state : PlainState σ} {types localTypes : List ValueType}

theorem globalSpace_of_globalType {module : Module} {index : Nat} {type : GlobalType}
    (found : module.globalType index = some type) :
    ∃ origin, module.globalSpace[index]? = some (origin, type) := by
  rw [Module.globalType, Module.importedGlobals, lookup_eq_indexSpace] at found
  obtain ⟨⟨origin, _⟩, placed, rfl⟩ := Option.map_eq_some_iff.mp found
  exact ⟨origin, placed⟩

/-- A global of the module has its declared type. -/
theorem globalGet_safe {store : Store σ} (serves : store.Serves inst) {index : Nat}
    {type : GlobalType} (found : inst.module.globalType index = some type) :
    Safe (fun value => value.valueType = type.valueType) (inst.globalGet store index) := by
  obtain ⟨origin, placed⟩ := globalSpace_of_globalType found
  obtain ⟨handle, linked, -, typed, -⟩ := serves.declared.globals index origin type placed
  have returned : inst.globalGet store index = .ok (store.heap.global handle).value := by
    rw [Instance.globalGet, Instance.globalHandle, linked]
    rfl
  exact .of_ok returned ((store.heap.global handle).typed.trans typed)

theorem executeGlobalSet_safe (serves : state.store.Serves inst) {index : Nat}
    {type : GlobalType} (found : inst.module.globalType index = some type)
    (mutable : type.mutable = true) (typed : typesOf state.stack = type.valueType :: types) :
    Safe (Leaves types state) (executeGlobalSet inst state index) := by
  obtain ⟨origin, placed⟩ := globalSpace_of_globalType found
  obtain ⟨handle, linked, -, cellTyped, cellMutable, -⟩ :=
    serves.declared.globals index origin type placed
  unfold executeGlobalSet
  rw [found]
  refine .ite (fun immutable => ?_) fun _ => ?_
  · rw [mutable] at immutable
    cases immutable
  refine (popTyped_safe typed).bind ?_
  rintro ⟨value, stack⟩ ⟨valueTyped, typed⟩
  refine store_only_safe ?_ typed
  have handleFound : inst.globalHandle index = .ok handle := by
    rw [Instance.globalHandle, linked]
  rw [Instance.globalSet, handleFound, ok_bind, GlobalCell.set, if_neg, dif_pos]
  · exact (yields_pure _).mpr trivial
  · exact valueTyped.trans cellTyped.symm
  · rw [cellMutable, mutable]
    exact Bool.noConfusion

theorem typesOf_getElem? {values : List Value} {index : Nat} {type : ValueType}
    (found : (typesOf values)[index]? = some type) :
    ∃ value, values[index]? = some value ∧ value.valueType = type := by
  rw [typesOf, List.getElem?_map] at found
  exact Option.map_eq_some_iff.mp found

/-- A value of the same type in a place. -/
theorem typesOf_set {values : List Value} {index : Nat} {value : Value}
    (kept : (typesOf values)[index]? = some value.valueType) :
    typesOf (values.set index value) = typesOf values := by
  obtain ⟨inside, same⟩ := List.getElem?_eq_some_iff.mp kept
  rw [typesOf, List.map_set, ← same]
  exact List.set_getElem_self inside

theorem localAt_safe {index : Nat} {type : ValueType} {values : List Value}
    (localsTyped : typesOf values = localTypes) (declared : localTypes[index]? = some type) :
    Safe (fun value => value.valueType = type) (localAt values index) := by
  rw [← localsTyped] at declared
  obtain ⟨value, found, valueTyped⟩ := typesOf_getElem? declared
  exact .of_ok (by rw [localAt, found]) valueTyped

theorem setLocal_safe {index : Nat} {type : ValueType} {value : Value}
    (localsTyped : typesOf state.locals = localTypes) (declared : localTypes[index]? = some type)
    (valueTyped : value.valueType = type) (typed : typesOf state.stack = types) :
    Safe (Leaves types state) (setLocal state index value) := by
  refine (localAt_safe localsTyped declared).bind fun _ _ => (yields_pure _).mpr ⟨typed, ?_⟩
  rw [← localsTyped, ← valueTyped] at declared
  exact typesOf_set declared

theorem executeLocalSet_safe {index : Nat} {type : ValueType}
    (localsTyped : typesOf state.locals = localTypes) (declared : localTypes[index]? = some type)
    (typed : typesOf state.stack = type :: types) :
    Safe (Leaves types state) (executeLocalSet localTypes state index) := by
  rw [executeLocalSet, localAt, declared, ok_bind]
  refine (popTyped_safe typed).bind ?_
  rintro ⟨value, stack⟩ ⟨valueTyped, typed⟩
  exact @setLocal_safe _ { state with stack } _ _ _ _ _ localsTyped declared valueTyped typed

theorem executeLocalTee_safe {index : Nat} {type : ValueType}
    (localsTyped : typesOf state.locals = localTypes) (declared : localTypes[index]? = some type)
    (typed : typesOf state.stack = type :: types) :
    Safe (Leaves (type :: types) state) (executeLocalTee localTypes state index) := by
  rw [executeLocalTee, localAt, declared, ok_bind]
  refine (pop_safe typed).bind ?_
  rintro ⟨value, stack⟩ ⟨rfl, -⟩
  change Safe _ (checkType value value.valueType >>= fun _ => setLocal state index value)
  rw [checkType_ok, ok_bind]
  exact setLocal_safe localsTyped declared rfl typed

theorem executeSelect_safe {stack : Stack} {type : ValueType}
    (typed : typesOf stack = .i32 :: type :: type :: types) :
    Safe (fun after => typesOf after = type :: types) (executeSelect stack) := by
  refine (i32FromStack_safe typed).bind ?_
  rintro ⟨condition, stack⟩ typed
  refine (pop_safe typed).bind ?_
  rintro ⟨second, stack⟩ ⟨secondTyped, typed⟩
  refine (pop_safe typed).bind ?_
  rintro ⟨first, stack⟩ ⟨firstTyped, typed⟩
  refine .ite (fun differ => ?_) fun _ => push_safe ?_ typed
  · exact absurd (secondTyped.trans firstTyped.symm) differ
  · split_ifs
    · exact firstTyped
    · exact secondTyped

theorem executeSelectTyped_safe {stack : Stack} {type : ValueType}
    (typed : typesOf stack = .i32 :: type :: type :: types) :
    Safe (fun after => typesOf after = type :: types) (executeSelectTyped stack type) := by
  refine (i32FromStack_safe typed).bind ?_
  rintro ⟨condition, stack⟩ typed
  refine (popTyped_safe typed).bind ?_
  rintro ⟨second, stack⟩ ⟨secondTyped, typed⟩
  refine (popTyped_safe typed).bind ?_
  rintro ⟨first, stack⟩ ⟨firstTyped, typed⟩
  refine push_safe ?_ typed
  split_ifs
  · exact firstTyped
  · exact secondTyped

end Variables

/-! ## Vectors -/

section Vectors

variable {stack : Stack} {types : List ValueType} {subopcode : Nat}

theorem extractLane_succeeds {width index : Nat} (known : LaneWidth width) (vector : Vector128)
    (inside : index < 128 / width) : Succeeds (extractLane width vector index) :=
  .of_ok (known.readLane_toBytes vector inside)

theorem splat_safe {width : Nat} (known : LaneWidth width) (bits : BitVec width)
    (typed : typesOf stack = types) :
    Safe (fun after => typesOf after = .v128 :: types)
      (do return .v128 (← splatLanes bits) :: stack) :=
  (Succeeds.of_ok (splatLanes_ok known bits)).yields (fun _ => trivial) |>.bind
    fun _ (_ : True) => push_safe rfl typed

theorem executeSplat_safe (bounds : 15 ≤ subopcode ∧ subopcode ≤ 20)
    (typed : typesOf stack = Spec.laneType subopcode :: types) :
    Safe (fun after => typesOf after = .v128 :: types) (executeSplat stack subopcode) := by
  refine .ite (fun is => ?_) fun not15 => .ite (fun is => ?_) fun not16 =>
    .ite (fun is => ?_) fun not17 => .ite (fun is => ?_) fun not18 =>
    .ite (fun is => ?_) fun not19 => ?_
  · subst is
    exact (i32FromStack_safe typed).bind fun _ rest => splat_safe laneWidth8 _ rest
  · subst is
    exact (i32FromStack_safe typed).bind fun _ rest => splat_safe laneWidth16 _ rest
  · subst is
    exact (i32FromStack_safe typed).bind fun _ rest => splat_safe laneWidth32 _ rest
  · subst is
    exact (i64FromStack_safe typed).bind fun _ rest => splat_safe laneWidth64 _ rest
  · subst is
    exact (f32FromStack_safe typed).bind fun _ rest => splat_safe laneWidth32 _ rest
  · obtain rfl : subopcode = 20 := by omega
    exact (f64FromStack_safe typed).bind fun _ rest => splat_safe laneWidth64 _ rest

/-- The arms that put a scalar into a lane. -/
theorem insert_safe {width index : Nat} (known : LaneWidth width) {bits : BitVec width}
    (inside : index < 128 / width) (typed : typesOf stack = .v128 :: types) :
    Safe (fun after => typesOf after = .v128 :: types) (do
      let (vector, stack) ← v128FromStack stack
      return .v128 (← insertLane vector index bits) :: stack) := by
  refine (v128FromStack_safe typed).bind ?_
  rintro ⟨vector, stack⟩ typed
  exact Yields.bind ((Succeeds.of_ok (insertLane_ok known vector inside bits)).yields
    fun _ => trivial) fun _ (_ : True) => push_safe rfl typed

/-- The arms that take a scalar out of a lane. -/
theorem extract_safe {width index : Nat} {type : ValueType} {vector : Vector128}
    (known : LaneWidth width) (inside : index < 128 / width)
    {make : BitVec width → Value} (made : ∀ bits, (make bits).valueType = type)
    (typed : typesOf stack = types) :
    Safe (fun after => typesOf after = type :: types)
      (do return make (← extractLane width vector index) :: stack) :=
  Yields.bind ((extractLane_succeeds known vector inside).yields fun _ => trivial)
    fun bits (_ : True) => push_safe (made bits) typed

theorem replace_safe {index : Nat} (inside : index < Spec.laneCount subopcode)
    (listed : subopcode ∈ [23, 26, 28, 30, 32, 34])
    (typed : typesOf stack = Spec.laneType subopcode :: .v128 :: types) :
    Safe (fun after => typesOf after = .v128 :: types)
      (executeSimdLane stack subopcode index) := by
  simp only [List.mem_cons, List.not_mem_nil, or_false] at listed
  rcases listed with rfl | rfl | rfl | rfl | rfl | rfl
  · exact (i32FromStack_safe typed).bind fun _ rest => insert_safe laneWidth8 inside rest
  · exact (i32FromStack_safe typed).bind fun _ rest => insert_safe laneWidth16 inside rest
  · exact (i32FromStack_safe typed).bind fun _ rest => insert_safe laneWidth32 inside rest
  · exact (i64FromStack_safe typed).bind fun _ rest => insert_safe laneWidth64 inside rest
  · exact (f32FromStack_safe typed).bind fun _ rest => insert_safe laneWidth32 inside rest
  · exact (f64FromStack_safe typed).bind fun _ rest => insert_safe laneWidth64 inside rest

theorem extractArm_safe {index : Nat} (inside : index < Spec.laneCount subopcode)
    (listed : subopcode ∈ [21, 22, 24, 25, 27, 29, 31, 33])
    (typed : typesOf stack = .v128 :: types) :
    Safe (fun after => typesOf after = Spec.laneType subopcode :: types)
      (executeSimdLane stack subopcode index) := by
  simp only [List.mem_cons, List.not_mem_nil, or_false] at listed
  rcases listed with rfl | rfl | rfl | rfl | rfl | rfl | rfl | rfl
  · exact (v128FromStack_safe typed).bind fun _ rest =>
      extract_safe laneWidth8 inside (fun _ => rfl) rest
  · exact (v128FromStack_safe typed).bind fun _ rest =>
      extract_safe laneWidth8 inside (fun _ => rfl) rest
  · exact (v128FromStack_safe typed).bind fun _ rest =>
      extract_safe laneWidth16 inside (fun _ => rfl) rest
  · exact (v128FromStack_safe typed).bind fun _ rest =>
      extract_safe laneWidth16 inside (fun _ => rfl) rest
  · exact (v128FromStack_safe typed).bind fun _ rest =>
      extract_safe laneWidth32 inside (fun _ => rfl) rest
  · exact (v128FromStack_safe typed).bind fun _ rest =>
      extract_safe laneWidth64 inside (fun _ => rfl) rest
  · exact (v128FromStack_safe typed).bind fun _ rest =>
      extract_safe laneWidth32 inside (fun _ => rfl) rest
  · exact (v128FromStack_safe typed).bind fun _ rest =>
      extract_safe laneWidth64 inside (fun _ => rfl) rest

theorem executeSimdLane_safe {index limit : Nat} {address : ValueType}
    (shape : Spec.simdShape subopcode = some (.lane limit)) (inside : index < limit)
    (typed : typesOf stack = (Spec.simdSignature address subopcode).ins ++ types) :
    Safe (fun after => typesOf after = (Spec.simdSignature address subopcode).outs ++ types)
      (executeSimdLane stack subopcode index) := by
  have bounds : (21 ≤ subopcode ∧ subopcode ≤ 34) ∧ limit = Spec.laneCount subopcode := by
    unfold Spec.simdShape at shape
    split_ifs at shape <;> cases shape
    exact ⟨by assumption, rfl⟩
  obtain ⟨bounds, rfl⟩ := bounds
  rw [Spec.simdSignature, if_neg (by omega), if_neg (by omega), if_neg (by omega),
    if_neg (by omega), if_neg (by omega), if_neg (by omega)] at typed ⊢
  by_cases extracts : subopcode ∈ [21, 22, 24, 25, 27, 29, 31, 33]
  · rw [if_pos extracts] at typed ⊢
    exact extractArm_safe inside extracts typed
  · have replaces : subopcode ∈ [23, 26, 28, 30, 32, 34] := by
      simp only [List.mem_cons, List.not_mem_nil, or_false] at extracts ⊢
      omega
    rw [if_neg extracts, if_pos replaces] at typed ⊢
    exact replace_safe inside replaces typed

/-! The opcodes of each table, as the signatures list them. -/

/-- Every opcode without an immediate, the splats apart, is in the table of its signature. -/
theorem bare_listed : ∀ subopcode < 276, Spec.simdShape subopcode = some .none →
    ¬ (15 ≤ subopcode ∧ subopcode ≤ 20) →
    (simdUnary subopcode).isSome = decide (subopcode ∈ Spec.simdUnary) ∧
    (simdTernary subopcode).isSome = decide (subopcode ∈ Spec.simdTernary) ∧
    (simdTest subopcode).isSome = decide (subopcode ∈ Spec.simdTest) ∧
    (simdShift subopcode).isSome = decide (subopcode ∈ Spec.simdShift) ∧
    (simdBinary subopcode).isSome = decide (subopcode ∉ Spec.simdUnary ∧
      subopcode ∉ Spec.simdTernary ∧ subopcode ∉ Spec.simdTest ∧
      subopcode ∉ Spec.simdShift) := by
  decide +kernel

/-- The opcodes that take no immediate. -/
theorem bare_bounds (bare : Spec.simdShape subopcode = some .none) :
    (14 ≤ subopcode ∧ subopcode ≤ 20 ∨ 35 ≤ subopcode ∧ subopcode ≤ 83 ∨
      94 ≤ subopcode ∧ subopcode ≤ 275) := by
  unfold Spec.simdShape at bare
  split_ifs at bare <;> first | omega | cases bare

theorem bareSignature {address : ValueType} (bare : Spec.simdShape subopcode = some .none) :
    Spec.simdSignature address subopcode =
      if 15 ≤ subopcode ∧ subopcode ≤ 20 then ⟨[Spec.laneType subopcode], [.v128]⟩
      else if subopcode ∈ Spec.simdUnary then ⟨[.v128], [.v128]⟩
      else if subopcode ∈ Spec.simdTernary then ⟨[.v128, .v128, .v128], [.v128]⟩
      else if subopcode ∈ Spec.simdTest then ⟨[.v128], [.i32]⟩
      else if subopcode ∈ Spec.simdShift then ⟨[.i32, .v128], [.v128]⟩
      else ⟨[.v128, .v128], [.v128]⟩ := by
  have bounds := bare_bounds bare
  have noLane : subopcode ∉ [21, 22, 24, 25, 27, 29, 31, 33] ∧
      subopcode ∉ [23, 26, 28, 30, 32, 34] := by
    simp only [List.mem_cons, List.not_mem_nil, or_false]
    omega
  unfold Spec.simdSignature
  rw [if_neg (by omega), if_neg (by omega), if_neg (by omega), if_neg (by omega),
    if_neg (by omega)]
  split_ifs with splat <;> first | rfl | exact absurd ‹_› noLane.1 | exact absurd ‹_› noLane.2

variable {run : Run Vector128}

theorem pushVector_safe (succeeds : Succeeds run) (typed : typesOf stack = types) :
    Safe (fun after => typesOf after = .v128 :: types) (do return .v128 (← run) :: stack) :=
  Yields.bind (succeeds.yields fun _ => trivial) fun _ (_ : True) => push_safe rfl typed

theorem executeSimdBare_safe {address : ValueType}
    (bare : Spec.simdShape subopcode = some .none)
    (typed : typesOf stack = (Spec.simdSignature address subopcode).ins ++ types) :
    Safe (fun after => typesOf after = (Spec.simdSignature address subopcode).outs ++ types)
      (executeSimdBare stack subopcode) := by
  have bounds := bare_bounds bare
  rw [bareSignature bare] at typed ⊢
  unfold executeSimdBare
  by_cases splat : 15 ≤ subopcode ∧ subopcode ≤ 20
  · rw [if_pos splat] at typed ⊢
    rw [if_pos splat]
    exact executeSplat_safe splat typed
  rw [if_neg splat] at typed ⊢
  rw [if_neg splat]
  obtain ⟨unary, ternary, test, shift, binary⟩ := bare_listed subopcode (by omega) bare splat
  have unlisted {α : Type} {entry : Option α} {condition : Prop} [Decidable condition]
      (listed : entry.isSome = decide condition) (fails : ¬ condition) : entry = none := by
    rw [decide_eq_false fails] at listed
    exact Option.not_isSome_iff_eq_none.mp (by rw [listed]; exact Bool.false_ne_true)
  have listedAt {α : Type} {entry : Option α} {condition : Prop} [Decidable condition]
      (listed : entry.isSome = decide condition) (holds : condition) :
      ∃ value, entry = some value := by
    rw [decide_eq_true holds] at listed
    exact Option.isSome_iff_exists.mp listed
  by_cases isUnary : subopcode ∈ Spec.simdUnary
  · rw [if_pos isUnary] at typed ⊢
    obtain ⟨operation, found⟩ := listedAt unary isUnary
    rw [found]
    exact (v128FromStack_safe typed).bind fun popped rest =>
      pushVector_safe (simdUnary_succeeds subopcode operation found popped.1) rest
  rw [if_neg isUnary] at typed ⊢
  rw [unlisted unary isUnary]
  by_cases isTernary : subopcode ∈ Spec.simdTernary
  · rw [if_pos isTernary] at typed ⊢
    obtain ⟨operation, found⟩ := listedAt ternary isTernary
    rw [unlisted binary (fun none => none.2.1 isTernary), found]
    refine (v128FromStack_safe typed).bind ?_
    rintro ⟨third, stack⟩ typed
    refine (v128FromStack_safe typed).bind ?_
    rintro ⟨second, stack⟩ typed
    refine (v128FromStack_safe typed).bind ?_
    rintro ⟨first, stack⟩ typed
    exact pushVector_safe (simdTernary_succeeds subopcode operation found first second third) typed
  rw [if_neg isTernary] at typed ⊢
  by_cases isTest : subopcode ∈ Spec.simdTest
  · rw [if_pos isTest] at typed ⊢
    obtain ⟨operation, found⟩ := listedAt test isTest
    have notShift : subopcode ∉ Spec.simdShift := by
      intro isShift
      revert isTest isShift
      unfold Spec.simdTest Spec.simdShift
      simp only [List.mem_cons, List.not_mem_nil, or_false]
      omega
    rw [unlisted binary (fun none => none.2.2.1 isTest), unlisted ternary isTernary,
      unlisted shift notShift, found]
    refine (v128FromStack_safe typed).bind ?_
    rintro ⟨value, stack⟩ typed
    exact Yields.bind ((simdTest_succeeds subopcode operation found value).yields fun _ => trivial)
      fun _ (_ : True) => push_safe rfl typed
  rw [if_neg isTest] at typed ⊢
  by_cases isShift : subopcode ∈ Spec.simdShift
  · rw [if_pos isShift] at typed ⊢
    obtain ⟨operation, found⟩ := listedAt shift isShift
    rw [unlisted binary (fun none => none.2.2.2 isShift), unlisted ternary isTernary, found]
    refine (i32FromStack_safe typed).bind ?_
    rintro ⟨amount, stack⟩ typed
    refine (v128FromStack_safe typed).bind ?_
    rintro ⟨value, stack⟩ typed
    exact pushVector_safe (simdShift_succeeds subopcode operation found value amount) typed
  · rw [if_neg isShift] at typed ⊢
    obtain ⟨operation, found⟩ := listedAt binary ⟨isUnary, isTernary, isTest, isShift⟩
    rw [found]
    refine (v128FromStack_safe typed).bind ?_
    rintro ⟨rhs, stack⟩ typed
    refine (v128FromStack_safe typed).bind ?_
    rintro ⟨lhs, stack⟩ typed
    exact pushVector_safe (simdBinary_succeeds subopcode operation found lhs rhs) typed

end Vectors

section VectorMemory

variable {subopcode : Nat} (memory : LinearMemory)

theorem simdLoad_safe (address displacement : Nat) :
    Safe (fun _ => True) (simdLoad memory subopcode address displacement) := by
  have loads {width : Nat} {fill : List UInt8 → Vector128} :
      Safe (fun _ => True) (do return fill (← memory.loadFixed width address displacement)) :=
    (loadFixed_safe memory width address displacement).bind fun _ _ => (yields_pure _).mpr trivial
  exact .ite (fun _ => loads) fun _ => .ite (fun _ => loads) fun _ => .ite (fun _ => loads)
    fun _ => .ite (fun _ => loads) fun _ => .ite (fun _ => loads) fun _ => loads

theorem simdLoadLane_safe (vector : Vector128) (index : Nat) (address : BitVec 32)
    (displacement : Nat) :
    Safe (fun _ => True)
      (simdLoadLane memory subopcode vector index address displacement) := by
  have loads {bits width : Nat} {signed : Bool} {fill : BitVec bits → Vector128} :
      Safe (fun _ => True)
        (do return fill (← memory.load bits width signed address displacement)) :=
    (load_safe memory bits width signed address displacement).bind fun _ _ =>
      (yields_pure _).mpr trivial
  exact .ite (fun _ => loads) fun _ => .ite (fun _ => loads) fun _ => .ite (fun _ => loads)
    fun _ => loads

theorem simdStoreLane_safe (vector : Vector128) (index : Nat) (address : BitVec 32)
    (displacement : Nat) :
    Safe (fun _ => True)
      (simdStoreLane memory subopcode vector index address displacement) :=
  .ite (fun _ => store_safe memory 1 address displacement _) fun _ =>
    .ite (fun _ => store_safe memory 2 address displacement _) fun _ =>
    .ite (fun _ => store_safe memory 4 address displacement _) fun _ =>
      store_safe memory 8 address displacement _

variable {memory} {inst : Instance σ} {state : PlainState σ} {cx : Spec.Context}
variable {types : List ValueType} {address : ValueType} (serves : state.store.Serves inst)
variable (same : cx.module = inst.module)
include serves same

theorem executeSimdMemory_safe {arg : Memarg}
    (shape : Spec.simdShape subopcode = some .memarg)
    (known : Spec.memargAddress cx (Spec.simdAlignment subopcode) arg = some address)
    (typed : typesOf state.stack = (Spec.simdSignature address subopcode).ins ++ types) :
    Safe (Leaves ((Spec.simdSignature address subopcode).outs ++ types) state)
      (executeSimdMemory inst state subopcode arg) := by
  obtain ⟨type, found, rfl⟩ := memargAddress_type same known
  have bounds : subopcode ≤ 11 ∨ subopcode = 92 ∨ subopcode = 93 := by
    unfold Spec.simdShape at shape
    split_ifs at shape <;> first | omega | cases shape
  refine .ite (fun loads => ?_) fun notLoad => .ite (fun stores => ?_) fun notStore => ?_
  · rw [Spec.simdSignature, if_pos (by omega)] at typed ⊢
    refine (popRuntimeBulkMemoryAddress_safe found typed).bind ?_
    rintro ⟨address, stack⟩ typed
    refine (memoryAt_safe found serves).bind fun memory _ => ?_
    exact (simdLoad_safe memory address arg.offset).bind fun _ _ => leaves_push rfl typed
  · subst stores
    refine (v128FromStack_safe typed).bind ?_
    rintro ⟨value, stack⟩ typed
    refine (popRuntimeBulkMemoryAddress_safe found typed).bind ?_
    rintro ⟨address, stack⟩ typed
    exact store_only_safe (withMemoryIndexMut_safe found serves fun memory =>
      storeV128_safe memory address arg.offset _) typed
  · rw [Spec.simdSignature, if_pos (by omega)] at typed ⊢
    refine (popRuntimeMemoryAddress_safe found typed).bind ?_
    rintro ⟨address, stack⟩ typed
    refine (memoryAt_safe found serves).bind fun memory _ => ?_
    exact .ite
      (fun _ => (load_safe memory 32 4 false address arg.offset).bind fun _ _ =>
        leaves_push rfl typed)
      fun _ => (load_safe memory 64 8 false address arg.offset).bind fun _ _ =>
        leaves_push rfl typed

theorem executeSimdMemoryLane_safe {arg : Memarg} {index limit : Nat}
    (shape : Spec.simdShape subopcode = some (.memargLane limit))
    (known : Spec.memargAddress cx (Spec.simdAlignment subopcode) arg = some address)
    (typed : typesOf state.stack = (Spec.simdSignature address subopcode).ins ++ types) :
    Safe (Leaves ((Spec.simdSignature address subopcode).outs ++ types) state)
      (executeSimdMemoryLane inst state subopcode arg index) := by
  obtain ⟨type, found, rfl⟩ := memargAddress_type same known
  have bounds : 84 ≤ subopcode ∧ subopcode ≤ 91 := by
    unfold Spec.simdShape at shape
    split_ifs at shape <;> first | omega | cases shape
  have ins : (Spec.simdSignature (Spec.addressOf type) subopcode).ins =
      [.v128, Spec.addressOf type] := by
    rw [Spec.simdSignature, if_neg (by omega), if_neg (by omega), if_neg (by omega)]
    split_ifs <;> first | rfl | omega
  rw [ins] at typed
  refine (v128FromStack_safe typed).bind ?_
  rintro ⟨vector, stack⟩ typed
  refine (popRuntimeMemoryAddress_safe found typed).bind ?_
  rintro ⟨address, stack⟩ typed
  refine .ite (fun loads => ?_) fun stores => ?_
  · rw [Spec.simdSignature, if_neg (by omega), if_neg (by omega), if_neg (by omega),
      if_pos (by omega)]
    refine (memoryAt_safe found serves).bind fun memory _ => ?_
    exact (simdLoadLane_safe memory vector index address arg.offset).bind fun _ _ =>
      leaves_push rfl typed
  · rw [Spec.simdSignature, if_neg (by omega), if_neg (by omega), if_neg (by omega),
      if_neg (by omega), if_pos (by omega)]
    exact store_only_safe (withMemoryIndexMut_safe found serves fun memory =>
      simdStoreLane_safe memory vector index address arg.offset) typed

theorem executeSimd_safe {immediate : SimdImmediate} {shape : SimdShape}
    (listed : Spec.simdShape subopcode = some shape) (fits : Spec.ImmediateFits shape immediate)
    (known : Spec.simdAddress cx subopcode immediate = some address)
    (typed : typesOf state.stack = (Spec.simdSignature address subopcode).ins ++ types) :
    Safe (Leaves ((Spec.simdSignature address subopcode).outs ++ types) state)
      (executeSimd inst state subopcode immediate) := by
  cases immediate with
  | memarg arg =>
    cases shape with
    | memarg => exact executeSimdMemory_safe serves same listed known typed
    | _ => exact fits.elim
  | memargLane arg index =>
    cases shape with
    | memargLane limit => exact executeSimdMemoryLane_safe serves same listed known typed
    | _ => exact fits.elim
  | bytes value =>
    cases shape with
    | bytes =>
      obtain rfl : subopcode = 12 := by
        unfold Spec.simdShape at listed
        split_ifs at listed <;> first | assumption | cases listed
      exact leaves_push rfl typed
    | _ => exact fits.elim
  | shuffle lanes =>
    cases shape with
    | shuffle =>
      obtain rfl : subopcode = 13 := by
        unfold Spec.simdShape at listed
        split_ifs at listed <;> first | assumption | cases listed
      refine (v128FromStack_safe typed).bind ?_
      rintro ⟨rhs, stack⟩ typed
      refine (v128FromStack_safe typed).bind ?_
      rintro ⟨lhs, stack⟩ typed
      exact Yields.bind ((Succeeds.of_ok (shuffle_ok lhs rhs fits.1 fits.2)).yields
        fun _ => trivial) fun _ (_ : True) => leaves_push rfl typed
    | _ => exact fits.elim
  | lane index =>
    cases shape with
    | lane limit => exact stack_safe (executeSimdLane_safe listed fits typed)
    | _ => exact fits.elim
  | none =>
    cases shape with
    | none => exact stack_safe (executeSimdBare_safe listed typed)
    | _ => exact fits.elim

end VectorMemory

/-! ## The dispatch -/

section Dispatch

variable {inst : Instance σ} {state : PlainState σ} {cx : Spec.Context} {instr : Plain}
variable {signature : Spec.Signature} {types : List ValueType}

/-- A signature that is some other one behind a check. -/
theorem knownTable_cases {table : Nat} {listed : Spec.Signature} (same : cx.module = inst.module)
    (known : Spec.knownTable cx table listed = some signature) :
    table < inst.module.tableCount ∧ listed = signature := by
  rw [Spec.knownTable, same] at known
  obtain ⟨inside, chosen⟩ | ⟨-, none⟩ := ite_cases known
  · cases chosen
    exact ⟨inside, rfl⟩
  · cases none

theorem knownData_cases {data : Nat} {listed : Spec.Signature} (same : cx.module = inst.module)
    (known : Spec.knownData cx data listed = some signature) :
    data < inst.module.data.length ∧ listed = signature := by
  rw [Spec.knownData, same] at known
  obtain ⟨⟨-, inside⟩, chosen⟩ | ⟨-, none⟩ := ite_cases known
  · cases chosen
    exact ⟨inside, rfl⟩
  · cases none

theorem knownElement_cases {element : Nat} {listed : Spec.Signature}
    (same : cx.module = inst.module)
    (known : Spec.knownElement cx element listed = some signature) :
    element < inst.module.elements.length ∧ listed = signature := by
  rw [Spec.knownElement, same] at known
  obtain ⟨inside, chosen⟩ | ⟨-, none⟩ := ite_cases known
  · cases chosen
    exact ⟨inside, rfl⟩
  · cases none

/-- A plain instruction on operands and locals of its types. -/
theorem executePlain_safe {strict : Bool} (linked : inst.Linked)
    (serves : state.store.Serves inst) (same : cx.module = inst.module)
    (localsTyped : typesOf state.locals = cx.locals) (encodable : Spec.Encodable instr)
    (instrTyped : Spec.PlainTyped strict cx instr signature)
    (typed : typesOf state.stack = signature.ins ++ types) :
    Safe (Leaves (signature.outs ++ types) state) (executePlain inst cx.locals state instr) := by
  have pushes {value : Value} {type : ValueType} (valueTyped : value.valueType = type)
      (typed : typesOf state.stack = types) :
      Safe (Leaves (type :: types) state) (pure { state with stack := value :: state.stack }) :=
    leaves_push valueTyped typed
  cases instrTyped with
  | drop type =>
    exact (pop_safe typed).bind fun _ popped => (yields_pure _).mpr ⟨popped.2, rfl⟩
  | select type _ => exact stack_safe (executeSelect_safe typed)
  | fixed known =>
  cases instr with
  | nop =>
    cases known
    exact (yields_pure _).mpr ⟨typed, rfl⟩
  | drop => cases known
  | select => cases known
  | selectTyped type =>
    cases known
    exact stack_safe (executeSelectTyped_safe typed)
  | localGet index =>
    obtain ⟨type, declared, same⟩ := Option.bind_eq_some_iff.mp known
    cases same
    exact (localAt_safe localsTyped declared).bind fun _ valueTyped => leaves_push valueTyped typed
  | localSet index =>
    obtain ⟨type, declared, same⟩ := Option.bind_eq_some_iff.mp known
    cases same
    exact executeLocalSet_safe localsTyped declared typed
  | localTee index =>
    obtain ⟨type, declared, same⟩ := Option.bind_eq_some_iff.mp known
    cases same
    exact executeLocalTee_safe localsTyped declared typed
  | globalGet index =>
    obtain ⟨type, declared, chosen⟩ := Option.bind_eq_some_iff.mp known
    cases chosen
    rw [same] at declared
    exact (globalGet_safe serves declared).bind fun _ valueTyped => leaves_push valueTyped typed
  | globalSet index =>
    obtain ⟨type, declared, chosen⟩ := Option.bind_eq_some_iff.mp known
    rw [same] at declared
    obtain ⟨mutable, chosen⟩ | ⟨-, none⟩ := ite_cases chosen
    · cases chosen
      exact executeGlobalSet_safe serves declared mutable typed
    · cases none
  | tableGet table =>
    obtain ⟨inside, rfl⟩ := knownTable_cases same known
    exact tableGetArm_safe linked inside typed
  | tableSet table =>
    obtain ⟨inside, rfl⟩ := knownTable_cases same known
    exact tableSetArm_safe linked inside typed
  | load opcode arg =>
    obtain ⟨address, addressKnown, chosen⟩ := Option.bind_eq_some_iff.mp known
    cases chosen
    exact executeLoad_safe serves same encodable addressKnown typed
  | store opcode arg =>
    obtain ⟨address, addressKnown, chosen⟩ := Option.bind_eq_some_iff.mp known
    cases chosen
    exact executeStore_safe serves same encodable addressKnown typed
  | memorySize memory =>
    obtain ⟨address, addressKnown, chosen⟩ := Option.bind_eq_some_iff.mp known
    cases chosen
    exact executeMemorySize_safe serves same addressKnown typed
  | memoryGrow memory =>
    obtain ⟨address, addressKnown, chosen⟩ := Option.bind_eq_some_iff.mp known
    cases chosen
    exact executeMemoryGrow_safe serves same addressKnown typed
  | i32Const value | i64Const value | f32Const value | f64Const value =>
    cases known
    exact pushes rfl typed
  | numeric opcode => exact stack_safe (executeNumeric_safe known typed)
  | refNull =>
    cases known
    exact pushes rfl typed
  | refIsNull =>
    cases known
    exact (funcRefFromStack_safe typed).bind fun _ rest => leaves_push rfl rest
  | refFunc function =>
    obtain ⟨-, chosen⟩ | ⟨-, none⟩ := ite_cases known
    · cases chosen
      exact pushes rfl typed
    · cases none
  | truncSat subopcode => exact stack_safe (truncSat_safe known typed)
  | memoryInit data memory =>
    obtain ⟨address, addressKnown, known⟩ := Option.bind_eq_some_iff.mp known
    obtain ⟨inside, rfl⟩ := knownData_cases same known
    exact memoryInit_safe serves same inside addressKnown typed
  | dataDrop data =>
    obtain ⟨inside, rfl⟩ := knownData_cases same known
    refine store_only_safe ?_ typed
    rw [Store.dataDrop, if_pos (by rwa [serves.fits.dataCount])]
    exact ok_safe trivial
  | memoryCopy destination source =>
    obtain ⟨destinationAddress, destinationKnown, known⟩ := Option.bind_eq_some_iff.mp known
    obtain ⟨sourceAddress, sourceKnown, chosen⟩ := Option.bind_eq_some_iff.mp known
    cases chosen
    exact memoryCopy_safe serves same destinationKnown sourceKnown typed
  | memoryFill memory =>
    obtain ⟨address, addressKnown, chosen⟩ := Option.bind_eq_some_iff.mp known
    cases chosen
    exact memoryFill_safe serves same addressKnown typed
  | tableInit element table =>
    obtain ⟨listed, elementKnown, known⟩ := Option.bind_eq_some_iff.mp known
    obtain ⟨inElements, rfl⟩ := knownElement_cases same elementKnown
    obtain ⟨inside, rfl⟩ := knownTable_cases same known
    exact tableInitArm_safe linked inside serves inElements typed
  | elemDrop element =>
    obtain ⟨inside, rfl⟩ := knownElement_cases same known
    refine store_only_safe ?_ typed
    rw [Store.elemDrop, if_pos (by rwa [serves.fits.elementCount])]
    exact ok_safe trivial
  | tableCopy destination source =>
    obtain ⟨listed, destinationKnown, known⟩ := Option.bind_eq_some_iff.mp known
    obtain ⟨destinationInside, rfl⟩ := knownTable_cases same destinationKnown
    obtain ⟨sourceInside, rfl⟩ := knownTable_cases same known
    exact tableCopyArm_safe linked destinationInside sourceInside typed
  | tableGrow table =>
    obtain ⟨inside, rfl⟩ := knownTable_cases same known
    exact tableGrowArm_safe linked inside typed
  | tableSize table =>
    obtain ⟨inside, rfl⟩ := knownTable_cases same known
    exact tableSizeArm_safe linked inside typed
  | tableFill table =>
    obtain ⟨inside, rfl⟩ := knownTable_cases same known
    exact tableFillArm_safe linked inside typed
  | simd subopcode immediate =>
    obtain ⟨address, addressKnown, chosen⟩ := Option.bind_eq_some_iff.mp known
    cases chosen
    obtain ⟨shape, listed, fits⟩ := encodable
    exact executeSimd_safe serves same listed fits addressKnown typed

end Dispatch

end MiniWasm.Runtime
