import Mathlib.Tactic.IntervalCases
import MiniWasm.Runtime.Accesses

/-!
# The law of memory accesses

Every instruction with a memory argument is a load or a store.  As a step of a
running machine it traps exactly if it reaches behind the memory; a store
changes the bytes that it names and nothing else, and a load pushes what they
hold, whichever instruction has written them.
-/

namespace MiniWasm.Runtime

open Library LinearMemory

variable {σ : Type}

/-! ## Every access is a load or a store -/

/-- The memory argument of an instruction. -/
def accessOf : Plain → Option Memarg
  | .load _ arg | .store _ arg => some arg
  | .simd _ (.memarg arg) | .simd _ (.memargLane arg _) => some arg
  | _ => none

/-- The instruction is among the loads or the stores if it has a memory argument. -/
def AccessKnown (instr : Plain) : Prop :=
  ∀ arg, accessOf instr = some arg →
    (∃ access, Loads instr access ∧ access.arg = arg) ∨
      ∃ value access, Stores instr value access ∧ access.arg = arg

section Known

variable {code : List UInt8} {pc : Nat}

/-- Whatever is decoded is known. -/
def DecodesKnown (found : Option (Plain × Nat)) : Prop :=
  ∀ instr pc, found = some (instr, pc) → AccessKnown instr

theorem known_none : DecodesKnown none := by
  intro instr pc found
  cases found

theorem known_some {instr : Plain} (known : AccessKnown instr) :
    DecodesKnown (some (instr, pc)) := by
  intro other pc found
  cases found
  exact known

theorem known_bare {instr : Plain} (bare : accessOf instr = none) :
    DecodesKnown (some (instr, pc)) := by
  refine known_some fun arg found => ?_
  rw [bare] at found
  cases found

theorem known_bind {α : Type} {read : Option α} {next : α → Option (Plain × Nat)}
    (known : ∀ value, DecodesKnown (next value)) : DecodesKnown (read >>= next) := by
  intro instr pc found
  obtain ⟨value, -, continued⟩ := Option.bind_eq_some_iff.mp found
  exact known value instr pc continued

theorem known_ite {condition : Prop} [Decidable condition] {yes no : Option (Plain × Nat)}
    (whenTrue : condition → DecodesKnown yes) (whenFalse : ¬ condition → DecodesKnown no) :
    DecodesKnown (if condition then yes else no) := by
  split
  · next holds => exact whenTrue holds
  · next fails => exact whenFalse fails

theorem known_withU32 {instr : Nat → Plain} (bare : ∀ index, accessOf (instr index) = none) :
    DecodesKnown (Spec.withU32 code instr pc) :=
  known_bind fun _ => known_bare (bare _)

theorem known_withU32Pair {instr : Nat → Nat → Plain}
    (bare : ∀ first second, accessOf (instr first second) = none) :
    DecodesKnown (Spec.withU32Pair code instr pc) :=
  known_bind fun _ => known_bind fun _ => known_bare (bare ..)

theorem known_misc : DecodesKnown (Spec.misc code pc) := by
  refine known_bind fun _ => ?_
  refine known_ite (fun _ => known_bare rfl) fun _ => ?_
  refine known_ite (fun _ => known_withU32Pair fun _ _ => rfl) fun _ => ?_
  refine known_ite (fun _ => known_withU32 fun _ => rfl) fun _ => ?_
  refine known_ite (fun _ => known_withU32Pair fun _ _ => rfl) fun _ => ?_
  refine known_ite (fun _ => known_withU32 fun _ => rfl) fun _ => ?_
  refine known_ite (fun _ => known_withU32Pair fun _ _ => rfl) fun _ => ?_
  refine known_ite (fun _ => known_withU32 fun _ => rfl) fun _ => ?_
  refine known_ite (fun _ => known_withU32Pair fun _ _ => rfl) fun _ => ?_
  iterate 3 refine known_ite (fun _ => known_withU32 fun _ => rfl) fun _ => ?_
  exact known_none

theorem known_simdMemarg {subopcode : Nat} (arg : Memarg)
    (shape : Spec.simdShape subopcode = some .memarg) :
    AccessKnown (.simd subopcode (.memarg arg)) := by
  intro other found
  cases found
  have numbers : subopcode ≤ 11 ∨ subopcode = 92 ∨ subopcode = 93 := by
    unfold Spec.simdShape at shape
    rcases ite_cases shape with ⟨first, -⟩ | ⟨-, shape⟩
    · exact first
    · split_ifs at shape <;> cases shape
  rcases numbers with low | rfl | rfl
  · interval_cases subopcode
    · exact .inl ⟨_, .v128 arg, rfl⟩
    · exact .inl ⟨_, @Loads.widening 1 8 true arg (by decide), rfl⟩
    · exact .inl ⟨_, @Loads.widening 2 8 false arg (by decide), rfl⟩
    · exact .inl ⟨_, @Loads.widening 3 16 true arg (by decide), rfl⟩
    · exact .inl ⟨_, @Loads.widening 4 16 false arg (by decide), rfl⟩
    · exact .inl ⟨_, @Loads.widening 5 32 true arg (by decide), rfl⟩
    · exact .inl ⟨_, @Loads.widening 6 32 false arg (by decide), rfl⟩
    · exact .inl ⟨_, @Loads.splat 7 8 arg (by decide), rfl⟩
    · exact .inl ⟨_, @Loads.splat 8 16 arg (by decide), rfl⟩
    · exact .inl ⟨_, @Loads.splat 9 32 arg (by decide), rfl⟩
    · exact .inl ⟨_, @Loads.splat 10 64 arg (by decide), rfl⟩
    · exact .inr ⟨_, _, .v128 arg 0, rfl⟩
  · exact .inl ⟨_, @Loads.zero 92 32 arg (by decide), rfl⟩
  · exact .inl ⟨_, @Loads.zero 93 64 arg (by decide), rfl⟩

theorem known_simdLane {subopcode limit : Nat} (arg : Memarg) (index : Nat)
    (shape : Spec.simdShape subopcode = some (.memargLane limit)) :
    AccessKnown (.simd subopcode (.memargLane arg index)) := by
  intro other found
  cases found
  have numbers : 84 ≤ subopcode ∧ subopcode ≤ 91 := by
    unfold Spec.simdShape at shape
    iterate 4
      rcases ite_cases shape with ⟨-, other⟩ | ⟨-, shape⟩
      · cases other
    rcases ite_cases shape with ⟨lanes, -⟩ | ⟨-, shape⟩
    · exact lanes
    · split_ifs at shape
      cases shape
  obtain ⟨low, high⟩ := numbers
  interval_cases subopcode
  · exact .inl ⟨_, @Loads.lane 84 8 arg 0 index (by decide), rfl⟩
  · exact .inl ⟨_, @Loads.lane 85 16 arg 0 index (by decide), rfl⟩
  · exact .inl ⟨_, @Loads.lane 86 32 arg 0 index (by decide), rfl⟩
  · exact .inl ⟨_, @Loads.lane 87 64 arg 0 index (by decide), rfl⟩
  · exact .inr ⟨_, _, @Stores.lane 88 8 arg 0 index (by decide), rfl⟩
  · exact .inr ⟨_, _, @Stores.lane 89 16 arg 0 index (by decide), rfl⟩
  · exact .inr ⟨_, _, @Stores.lane 90 32 arg 0 index (by decide), rfl⟩
  · exact .inr ⟨_, _, @Stores.lane 91 64 arg 0 index (by decide), rfl⟩

theorem known_simd : DecodesKnown (Spec.simd code pc) := by
  refine known_bind fun first => ?_
  intro instr pc found
  obtain ⟨shape, shapeEq, found⟩ := Option.bind_eq_some_iff.mp found
  obtain ⟨read, readEq, same⟩ := Option.bind_eq_some_iff.mp found
  cases same
  cases shape with
  | none =>
      cases readEq
      exact fun _ found => by cases found
  | memarg =>
      obtain ⟨arg, -, same⟩ := Option.bind_eq_some_iff.mp readEq
      cases same
      exact known_simdMemarg arg.1 shapeEq
  | memargLane limit =>
      obtain ⟨arg, -, readEq⟩ := Option.bind_eq_some_iff.mp readEq
      obtain ⟨index, -, same⟩ := Option.bind_eq_some_iff.mp readEq
      cases same
      exact known_simdLane arg.1 index.1 shapeEq
  | bytes =>
      obtain ⟨value, -, same⟩ := Option.bind_eq_some_iff.mp readEq
      cases same
      exact fun _ found => by cases found
  | shuffle =>
      obtain ⟨lanes, -, same⟩ := Option.bind_eq_some_iff.mp readEq
      rcases ite_cases same with ⟨-, same⟩ | ⟨-, same⟩
      · cases same
        exact fun _ found => by cases found
      · cases same
  | lane limit =>
      obtain ⟨index, -, same⟩ := Option.bind_eq_some_iff.mp readEq
      cases same
      exact fun _ found => by cases found

theorem known_load {opcode : Nat} (range : 0x28 ≤ opcode ∧ opcode ≤ 0x35) (arg : Memarg) :
    AccessKnown (.load opcode arg) := by
  intro other found
  cases found
  obtain ⟨low, high⟩ := range
  have scalar : ∃ width value, scalarLoad opcode = some (width, value) := by
    interval_cases opcode <;> exact ⟨_, _, rfl⟩
  obtain ⟨width, value, scalar⟩ := scalar
  exact .inl ⟨_, .scalar arg scalar, rfl⟩

theorem known_store {opcode : Nat} (range : 0x36 ≤ opcode ∧ opcode ≤ 0x3e) (arg : Memarg) :
    AccessKnown (.store opcode arg) := by
  intro other found
  cases found
  obtain ⟨low, high⟩ := range
  have scalar : ∃ value access, scalarStore opcode value = some access := by
    interval_cases opcode
    · exact ⟨.i32 0, _, rfl⟩
    · exact ⟨.i64 0, _, rfl⟩
    · exact ⟨.f32 0, _, rfl⟩
    · exact ⟨.f64 0, _, rfl⟩
    · exact ⟨.i32 0, _, rfl⟩
    · exact ⟨.i32 0, _, rfl⟩
    · exact ⟨.i64 0, _, rfl⟩
    · exact ⟨.i64 0, _, rfl⟩
    · exact ⟨.i64 0, _, rfl⟩
  obtain ⟨value, ⟨width, number⟩, scalar⟩ := scalar
  exact .inr ⟨value, _, .scalar arg scalar, rfl⟩

theorem known_plainImmediates {opcode : Nat} :
    DecodesKnown (Spec.plainImmediates code opcode pc) := by
  unfold Spec.plainImmediates
  iterate 3 refine known_ite (fun _ => known_bare rfl) fun _ => ?_
  refine known_ite (fun _ => known_bind fun _ => known_bare rfl) fun _ => ?_
  iterate 7 refine known_ite (fun _ => known_withU32 fun _ => rfl) fun _ => ?_
  refine known_ite (fun range => known_bind fun _ => known_some (known_load range _)) fun _ => ?_
  refine known_ite (fun range => known_bind fun _ => known_some (known_store range _)) fun _ => ?_
  iterate 2 refine known_ite (fun _ => known_withU32 fun _ => rfl) fun _ => ?_
  iterate 4 refine known_ite (fun _ => known_bind fun _ => known_bare rfl) fun _ => ?_
  refine known_ite (fun _ => known_bare rfl) fun _ => ?_
  refine known_ite (fun _ => known_bind fun _ => ?_) fun _ => ?_
  · exact known_ite (fun _ => known_bare rfl) fun _ => known_none
  refine known_ite (fun _ => known_bare rfl) fun _ => ?_
  refine known_ite (fun _ => known_withU32 fun _ => rfl) fun _ => ?_
  refine known_ite (fun _ => known_misc) fun _ => ?_
  exact known_ite (fun _ => known_simd) fun _ => known_none

/-- Every instruction with a memory argument is a load or a store. -/
theorem accessKnown_of_decoded {instr : Plain} {pc' : Nat}
    (decoded : Spec.simpleAt code pc = some (.plain instr, pc')) : AccessKnown instr := by
  obtain ⟨opcode, -, immediates⟩ := Option.bind_eq_some_iff.mp decoded
  unfold Spec.simpleImmediates at immediates
  simp only [Option.bind_eq_bind] at immediates
  iterate 9
    rcases ite_cases immediates with ⟨-, other⟩ | ⟨-, immediates⟩
    · simp [Option.bind_eq_some_iff] at other
  obtain ⟨plain, plainAt, same⟩ := Option.bind_eq_some_iff.mp immediates
  cases same
  exact known_plainImmediates plain.1 plain.2 plainAt

end Known

/-! ## What a store leaves -/

/-- Exactly the accessed bytes are other ones: the low bytes of the number. -/
structure LinearMemory.BytesStored (memory written : LinearMemory) (start width number : Nat) :
    Prop where
  length : written.bytes.length = memory.bytes.length
  maxPages : written.maxPages = memory.maxPages
  inside : ∀ position < width,
    written.bytes[start + position]? = some (.ofNat (number / 256 ^ position))
  outside : ∀ position, position < start ∨ start + width ≤ position →
    written.bytes[position]? = memory.bytes[position]?

section Written

variable {memory : LinearMemory} {start width number : Nat}

theorem bytesStored_writeBytes (fits : start + width ≤ memory.bytes.length) :
    memory.BytesStored (memory.writeBytes start (toLeBytes width number)) start width number where
  length := memory.writeBytes_length ..
  maxPages := rfl
  inside position inside := by
    have within : start + position < memory.bytes.length := by omega
    rw [LinearMemory.writeBytes, getElem?_overwrite, List.getElem?_eq_getElem within,
      Option.map_some, if_pos (Nat.le_add_right ..), Nat.add_sub_cancel_left,
      getElem?_toLeBytes, if_pos inside]
    rfl
  outside position outside := by
    rw [LinearMemory.writeBytes, getElem?_overwrite]
    cases memory.bytes[position]? with
    | none => rfl
    | some byte =>
        rw [Option.map_some]
        split
        · next behind =>
            rw [getElem?_toLeBytes, if_neg (by omega)]
            rfl
        · rfl

theorem numberAt_writeBytes (fits : start + width ≤ memory.bytes.length) :
    (memory.writeBytes start (toLeBytes width number)).numberAt start width =
      number % 256 ^ width := by
  have read : (memory.writeBytes start (toLeBytes width number)).readBytes start width =
      toLeBytes width number := by
    have inside : start + (toLeBytes width number).length ≤ memory.bytes.length := by
      rwa [toLeBytes_length]
    have whole := take_drop_overwrite inside
    rwa [toLeBytes_length] at whole
  rw [LinearMemory.numberAt, read, fromLeBytes_toLeBytes]

end Written

/-- Bytes that a value of the type has in memory. -/
def byteWidth : ValueType → Nat
  | .i32 | .f32 => 4
  | .i64 | .f64 => 8
  | .v128 => 16
  | .funcRef => 0

/-- The value with the given bytes. -/
def valueOfNumber (type : ValueType) (number : Nat) : Value :=
  match type with
  | .i32 => .i32 (.ofNat 32 number)
  | .i64 => .i64 (.ofNat 64 number)
  | .f32 => .f32 (.ofNat 32 number)
  | .f64 => .f64 (.ofNat 64 number)
  | .v128 => .v128 (.ofNat 128 number)
  | .funcRef => .funcRef none

/-- A load of a whole value pushes the value with the bytes. -/
theorem Loads.whole {instr : Plain} {access : LoadAccess} {number : Nat} {pushed : Value}
    (loads : Loads instr access) (pushes : access.Pushes number pushed)
    (whole : access.width = byteWidth pushed.valueType) :
    pushed = valueOfNumber pushed.valueType number := by
  cases loads with
  | scalar arg scalar =>
      cases pushes
      unfold scalarLoad at scalar
      split at scalar <;> cases scalar <;> first | rfl | cases whole
  | v128 arg =>
      cases pushes
      rfl
  | widening arg kind =>
      obtain ⟨vector, rfl, -⟩ := pushes
      cases whole
  | @splat subopcode bits arg kind =>
      obtain ⟨vector, rfl, -⟩ := pushes
      simp only [List.mem_cons, Prod.mk.injEq, List.not_mem_nil, or_false] at kind
      simp only [Value.valueType, byteWidth] at whole
      omega
  | @zero subopcode bits arg kind =>
      cases pushes
      rfl
  | @lane subopcode bits arg vector index kind =>
      obtain ⟨vector, rfl, -⟩ := pushes
      simp only [List.mem_cons, Prod.mk.injEq, List.not_mem_nil, or_false] at kind
      simp only [Value.valueType, byteWidth] at whole
      omega

/-- The bytes that a store of a whole value writes are those of the value. -/
theorem Stores.whole {instr : Plain} {value : Value} {access : StoreAccess}
    (stores : Stores instr value access) (whole : access.width = byteWidth value.valueType) :
    value = valueOfNumber value.valueType (access.number % 256 ^ access.width) := by
  have narrow {bits : Nat} (width : Nat) (value : BitVec bits) (same : 2 ^ bits = 256 ^ width) :
      value = .ofNat bits (value.toNat % 256 ^ width) := by
    rw [← same, Nat.mod_eq_of_lt value.isLt, BitVec.ofNat_toNat, BitVec.setWidth_eq]
  cases stores with
  | scalar arg scalar =>
      unfold scalarStore at scalar
      split at scalar <;> cases scalar
      · exact congrArg Value.i32 (narrow 4 _ (by decide))
      · exact congrArg Value.i64 (narrow 8 _ (by decide))
      · exact congrArg Value.f32 (narrow 4 _ (by decide))
      · exact congrArg Value.f64 (narrow 8 _ (by decide))
      all_goals cases whole
  | v128 arg vector => exact congrArg Value.v128 (narrow 16 vector (by decide))
  | @lane subopcode bits arg vector index kind =>
      simp only [List.mem_cons, Prod.mk.injEq, List.not_mem_nil, or_false] at kind
      simp only [Value.valueType, byteWidth] at whole
      omega

/-! ## The law -/

/-- The memory of an access and the operand that holds the address. -/
structure Addresses (inst : Instance σ) (store : Store σ) (arg : Memarg)
    (memory : LinearMemory) (address : Nat) (operand : Value) : Prop where
  found : store.memoryAt arg.memory = .ok memory
  operand : ∃ type, inst.module.memoryType arg.memory = some type ∧
    AddressOperand type.limits.memory64 address operand

section Law

variable {inst : Instance σ} {machine : Machine σ} {frame : GuestFrame} {instr : Plain}
variable {pc : Nat} {budget : ExecutionBudget} {memory : LinearMemory} {address : Nat}
variable {operand : Value} {rest : Stack}

/-- What a load does. -/
def LoadLaw (inst : Instance σ) (machine : Machine σ) (frame : GuestFrame) (pc : Nat)
    (budget : ExecutionBudget) (access : LoadAccess) (memory : LinearMemory) (address : Nat)
    (rest : Stack) : Prop :=
  let start := address + access.arg.offset
  (machine.Refuses inst MemoryTrap ↔ memory.bytes.length < start + access.width) ∧
    (start + access.width ≤ memory.bytes.length →
      ∃ pushed, access.Pushes (memory.numberAt start access.width) pushed ∧
        machine.step inst =
          .running (machine.afterPlain frame pc budget
            { machine.plainState frame with stack := pushed :: rest }))

theorem loadLaw (ready : machine.AtPlain frame instr pc budget) {access : LoadAccess}
    (loads : Loads instr access)
    (addresses : Addresses inst machine.store access.arg memory address operand)
    (stackEq : frame.stack = access.above ++ operand :: rest)
    (small : memory.bytes.length ≤ 2 ^ 32) :
    LoadLaw inst machine frame pc budget access memory address rest := by
  obtain ⟨type, typed, holds⟩ := addresses.operand
  have obeys : Obeys _ _
      (executePlain inst frame.localTypes (machine.plainState frame) instr) :=
    load_obeys loads addresses.found small typed holds stackEq
  obtain ⟨traps, succeeds⟩ := ready.guarded obeys
  refine ⟨traps.trans Nat.not_le, fun fits => ?_⟩
  obtain ⟨after, ⟨pushed, pushes, rfl⟩, stepped⟩ := succeeds fits
  exact ⟨pushed, pushes, stepped⟩

/-- Every load of the stored bytes finds the stored number, and a load of the stored
type the stored value. -/
def Recalled (inst : Instance σ) (before after : Store σ) (value : Value)
    (access : StoreAccess) (address : Nat) : Prop :=
  ∀ (machine : Machine σ) (frame : GuestFrame) (instr : Plain) (pc : Nat)
    (budget : ExecutionBudget) (load : LoadAccess) (memory : LinearMemory) (start : Nat)
    (operand : Value) (rest : Stack),
    machine.store = after → machine.AtPlain frame instr pc budget → Loads instr load →
    before.SameMemory access.arg.memory load.arg.memory → load.width = access.width →
    Addresses inst after load.arg memory start operand →
    start + load.arg.offset = address + access.arg.offset →
    frame.stack = load.above ++ operand :: rest →
    ∃ pushed, load.Pushes (access.number % 256 ^ access.width) pushed ∧
      (access.width = byteWidth value.valueType → pushed.valueType = value.valueType →
        pushed = value) ∧
      machine.step inst =
        .running (machine.afterPlain frame pc budget
          { machine.plainState frame with stack := pushed :: rest })

/-- What a store does. -/
def StoreLaw (inst : Instance σ) (machine : Machine σ) (frame : GuestFrame) (pc : Nat)
    (budget : ExecutionBudget) (value : Value) (access : StoreAccess) (memory : LinearMemory)
    (address : Nat) (rest : Stack) : Prop :=
  let start := address + access.arg.offset
  (machine.Refuses inst MemoryTrap ↔ memory.bytes.length < start + access.width) ∧
    (start + access.width ≤ memory.bytes.length →
      ∃ after written,
        machine.step inst =
          .running (machine.afterPlain frame pc budget
            { machine.plainState frame with store := after, stack := rest }) ∧
        memory.BytesStored written start access.width access.number ∧
        machine.store.MemoryWritten after access.arg.memory written ∧
        Recalled inst machine.store after value access address)

theorem recalled_of_written {instr : Plain} {value : Value} {access : StoreAccess}
    {before after : Store σ} (stores : Stores instr value access)
    (written : before.MemoryWritten after access.arg.memory (access.written memory address))
    (fits : address + access.arg.offset + access.width ≤ memory.bytes.length)
    (small : memory.bytes.length ≤ 2 ^ 32) : Recalled inst before after value access address := by
  intro machine frame loadInstr pc budget load stored start operand rest storeEq ready loads
    shared sameWidth addresses sameStart stackEq
  have same : stored = access.written memory address := by
    have found := written.same load.arg.memory shared
    rw [addresses.found] at found
    cases found
    rfl
  subst same
  have longEnough : (access.written memory address).bytes.length = memory.bytes.length :=
    memory.writeBytes_length ..
  have addressesHere : Addresses inst machine.store load.arg (access.written memory address) start
      operand := by rwa [storeEq]
  obtain ⟨-, succeeds⟩ := loadLaw ready loads addressesHere stackEq (by omega)
  obtain ⟨pushed, pushes, stepped⟩ := succeeds (by omega)
  have number : (access.written memory address).numberAt (start + load.arg.offset) load.width =
      access.number % 256 ^ access.width := by
    rw [sameStart, sameWidth]
    exact numberAt_writeBytes fits
  rw [number] at pushes
  refine ⟨pushed, pushes, fun whole sameType => ?_, stepped⟩
  have recovered := loads.whole pushes (by rw [sameWidth, whole, sameType])
  rw [recovered, sameType, ← stores.whole whole]

theorem storeLaw (ready : machine.AtPlain frame instr pc budget) {value : Value}
    {access : StoreAccess} (stores : Stores instr value access)
    (addresses : Addresses inst machine.store access.arg memory address operand)
    (stackEq : frame.stack = value :: operand :: rest)
    (small : memory.bytes.length ≤ 2 ^ 32) :
    StoreLaw inst machine frame pc budget value access memory address rest := by
  obtain ⟨type, typed, holds⟩ := addresses.operand
  have obeys : Obeys _ _
      (executePlain inst frame.localTypes (machine.plainState frame) instr) :=
    store_instr_obeys stores addresses.found small typed holds stackEq
  obtain ⟨traps, succeeds⟩ := ready.guarded obeys
  refine ⟨traps.trans Nat.not_le, fun fits => ?_⟩
  obtain ⟨after, rfl, stepped⟩ := succeeds fits
  have written := Store.memoryWritten_setMemoryAt addresses.found (access.written memory address)
  exact ⟨_, _, stepped, bytesStored_writeBytes fits, written,
    recalled_of_written stores written fits small⟩

end Law

/-- The law of memory accesses, for every instruction with a memory argument that a
running instance comes to. -/
theorem memory_access_law {world : World σ} {tenant : Tenant σ} {machine : Machine σ}
    (runs : world.Runs tenant machine) {frame : GuestFrame} {instr : Plain} {pc : Nat}
    {budget : ExecutionBudget} (ready : machine.AtPlain frame instr pc budget) :
    AccessKnown instr ∧
    (∀ access memory address operand rest, Loads instr access →
      Addresses tenant.inst machine.store access.arg memory address operand →
      frame.stack = access.above ++ operand :: rest →
      LoadLaw tenant.inst machine frame pc budget access memory address rest) ∧
    ∀ value access memory address operand rest, Stores instr value access →
      Addresses tenant.inst machine.store access.arg memory address operand →
      frame.stack = value :: operand :: rest →
      StoreLaw tenant.inst machine frame pc budget value access memory address rest := by
  refine ⟨accessKnown_of_decoded ready.decoded, ?_, ?_⟩
  · intro access memory address operand rest loads addresses stackEq
    exact loadLaw ready loads addresses stackEq (runs.memory addresses.found).1
  · intro value access memory address operand rest stores addresses stackEq
    exact storeLaw ready stores addresses stackEq (runs.memory addresses.found).1

/-- A function that stores a number and loads it again, in a memory of one page. -/
def recallingModule : Module where
  types := [⟨[], []⟩]
  functionTypeIndices := [0]
  memories := [⟨⟨1, none, false⟩⟩]
  exports := [⟨"run", .function, 0⟩]
  code :=
    [⟨[], [0x41, 0x00, 0x41, 0x07, 0x36, 0x02, 0x00, 0x41, 0x00, 0x28, 0x02, 0x00, 0x1a, 0x0b]⟩]

/-- The function comes to its store, and from there to its load. -/
theorem recalling_runs : ∃ (world : World Unit) (tenant : Tenant Unit) (machine : Machine Unit)
    (frame : GuestFrame) (memory : LinearMemory),
    world.Runs tenant machine ∧ machine.AtPlain frame (.store 0x36 ⟨2, 0, 0⟩) 7 ⟨none, 0⟩ ∧
      Addresses tenant.inst machine.store ⟨2, 0, 0⟩ memory 0 (.i32 0) ∧
      memory.bytes.length = wasmPageSize ∧ frame.stack = [.i32 7, .i32 0] ∧
      tenant.inst.module.memoryType 0 = some ⟨⟨1, none, false⟩⟩ ∧
      ∀ after, ∃ loading next,
        (machine.afterPlain frame 7 ⟨none, 0⟩
            { machine.plainState frame with store := after, stack := [] }).step tenant.inst =
          .running loading ∧
        loading.store = after ∧ loading.budget = ⟨none, 0⟩ ∧ loading.current = .frame next ∧
        Spec.simpleAt next.code next.pc = some (.plain (.load 0x28 ⟨2, 0, 0⟩), 12) ∧
        next.stack = [.i32 0] := by
  have ready : instantiate recallingModule noHosts ⟨26, 1, none, none⟩
      (Heap.empty fun _ => true) () = .ready _ _ := rfl
  have known : noHosts.Known (Heap.empty fun _ => true) := by
    constructor <;> intro entry member <;> cases member
  have instantiated : World.Step (World.start (fun _ => true) ()) _ := .instantiate known ready
  have invoked := (Relation.ReflTransGen.single instantiated).tail
    (@World.Step.invoke Unit _ 0 _ "run" [] rfl rfl)
  have entered := invoked.tail (@World.Step.resume Unit _ 0 _ _ rfl rfl)
  have address := entered.tail (@World.Step.resume Unit _ 0 _ _ rfl rfl)
  have number := address.tail (@World.Step.resume Unit _ 0 _ _ rfl rfl)
  refine ⟨_, _, _, _, _, ⟨⟨_, _, number⟩, List.mem_singleton.mpr rfl, _, rfl, rfl⟩,
    ⟨rfl, rfl, by decide, rfl⟩, ⟨rfl, _, rfl, .narrow 0⟩, List.length_replicate, rfl, rfl, ?_⟩
  exact fun after => ⟨_, _, rfl, rfl, rfl, rfl, rfl, rfl⟩

/-- The bytes of the number are stored, and the load finds the number. -/
theorem memory_access_law_recalling :
    ∃ (tenant : Tenant Unit) (machine stored loading recalled : Machine Unit)
      (written : LinearMemory) (frame : GuestFrame),
      machine.step tenant.inst = .running stored ∧ stored.store.memoryAt 0 = .ok written ∧
        written.bytes[0]? = some 7 ∧ written.bytes[1]? = some 0 ∧
        stored.step tenant.inst = .running loading ∧
        loading.step tenant.inst = .running recalled ∧ recalled.current = .frame frame ∧
        frame.stack = [.i32 7] := by
  obtain ⟨world, tenant, machine, frame, memory, runs, ready, addresses, page, stackEq, typed,
    resumes⟩ := recalling_runs
  obtain ⟨-, -, stores⟩ := memory_access_law runs ready
  have fits : 0 + 0 + 4 ≤ memory.bytes.length := by
    rw [page]
    decide
  obtain ⟨-, succeeds⟩ := stores _ _ _ _ _ _ (.scalar ⟨2, 0, 0⟩ rfl) addresses stackEq
  obtain ⟨after, written, stepped, bytes, wrote, recalls⟩ := succeeds fits
  have found : after.memoryAt 0 = .ok written := wrote.same 0 (.inl rfl)
  have known : 0 < after.memories.length := by
    by_contra none
    rw [Store.memoryAt, List.getElem?_eq_none (Nat.le_of_not_lt none)] at found
    cases found
  obtain ⟨loading, next, resumed, sameStore, budget, current, decoded, loadStack⟩ := resumes after
  have atLoad : loading.AtPlain next (.load 0x28 ⟨2, 0, 0⟩) 12 ⟨none, 0⟩ := by
    refine ⟨current, decoded, ?_, by rw [budget]; rfl⟩
    rw [sameStore]
    intro index member
    cases List.mem_singleton.mp member
    exact known
  obtain ⟨pushed, pushes, -, pushedStep⟩ := recalls loading next _ 12 ⟨none, 0⟩ _ written 0 _ []
    sameStore atLoad (.scalar ⟨2, 0, 0⟩ rfl) (.inl rfl) rfl ⟨found, _, typed, .narrow 0⟩ rfl
    loadStack
  refine ⟨tenant, machine, _, loading, _, written, _, stepped, found, bytes.inside 0 (by decide),
    bytes.inside 1 (by decide), resumed, pushedStep, rfl, ?_⟩
  cases pushes
  rfl

end MiniWasm.Runtime
