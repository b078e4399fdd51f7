import MiniWasm.Library.Guarded
import MiniWasm.Runtime.Lanes
import MiniWasm.Runtime.Writing

/-!
# Accesses of memories

What every load and store does, in terms of the little-endian number in the
accessed bytes and of sums that do not wrap.  The interpreter has two ways to an
effective address, one through 32-bit addresses and one through 64-bit ones;
both come to the same bounds.
-/

namespace MiniWasm.Runtime

open Library LinearMemory

variable {σ : Type}

/-! ## What an access is -/

/-- The number in a range of bytes. -/
def LinearMemory.numberAt (memory : LinearMemory) (start width : Nat) : Nat :=
  fromLeBytes (memory.readBytes start width)

/-- The two's complement reading of a number of the given number of bytes. -/
def signedNumber (width number : Nat) : Int :=
  if 2 * number < 2 ^ (8 * width) then number else number - 2 ^ (8 * width)

/-- The operand that holds an address of a memory. -/
inductive AddressOperand : (memory64 : Bool) → Nat → Value → Prop where
  | narrow (address : BitVec 32) : AddressOperand false address.toNat (.i32 address)
  | wide (address : BitVec 64) : AddressOperand true address.toNat (.i64 address)

/-- A load: the bytes that it reads, the operands above the address, and what it
pushes for the number that it has read. -/
structure LoadAccess where
  arg : Memarg
  width : Nat
  above : List Value
  Pushes : Nat → Value → Prop

/-- A store: the bytes that it writes and the number whose low bytes it writes. -/
structure StoreAccess where
  arg : Memarg
  width : Nat
  number : Nat

/-- Width and value of the scalar loads. -/
def scalarLoad : (opcode : Nat) → Option (Nat × (Nat → Value))
  | 0x28 => some (4, fun number => .i32 (.ofNat 32 number))
  | 0x29 => some (8, fun number => .i64 (.ofNat 64 number))
  | 0x2a => some (4, fun number => .f32 (.ofNat 32 number))
  | 0x2b => some (8, fun number => .f64 (.ofNat 64 number))
  | 0x2c => some (1, fun number => .i32 (.ofInt 32 (signedNumber 1 number)))
  | 0x2d => some (1, fun number => .i32 (.ofNat 32 number))
  | 0x2e => some (2, fun number => .i32 (.ofInt 32 (signedNumber 2 number)))
  | 0x2f => some (2, fun number => .i32 (.ofNat 32 number))
  | 0x30 => some (1, fun number => .i64 (.ofInt 64 (signedNumber 1 number)))
  | 0x31 => some (1, fun number => .i64 (.ofNat 64 number))
  | 0x32 => some (2, fun number => .i64 (.ofInt 64 (signedNumber 2 number)))
  | 0x33 => some (2, fun number => .i64 (.ofNat 64 number))
  | 0x34 => some (4, fun number => .i64 (.ofInt 64 (signedNumber 4 number)))
  | 0x35 => some (4, fun number => .i64 (.ofNat 64 number))
  | _ => none

/-- Width and number of the scalar stores, by the operand. -/
def scalarStore : (opcode : Nat) → Value → Option (Nat × Nat)
  | 0x36, .i32 value => some (4, value.toNat)
  | 0x37, .i64 value => some (8, value.toNat)
  | 0x38, .f32 bits => some (4, bits.toNat)
  | 0x39, .f64 bits => some (8, bits.toNat)
  | 0x3a, .i32 value => some (1, value.toNat)
  | 0x3b, .i32 value => some (2, value.toNat)
  | 0x3c, .i64 value => some (1, value.toNat)
  | 0x3d, .i64 value => some (2, value.toNat)
  | 0x3e, .i64 value => some (4, value.toNat)
  | _, _ => none

/-- A vector whose lanes are the parts of the number, extended to twice their
width. -/
def WidenedLanes (bits : Nat) (signed : Bool) (number : Nat) (pushed : Value) : Prop :=
  ∃ vector, pushed = .v128 vector ∧ ∀ index < 128 / (2 * bits),
    lane (2 * bits) vector index =
      let part := number / 2 ^ (index * bits) % 2 ^ bits
      if signed then .ofInt (2 * bits) (signedNumber (bits / 8) part) else .ofNat (2 * bits) part

/-- A vector all of whose lanes are the number. -/
def SplatLanes (bits number : Nat) (pushed : Value) : Prop :=
  ∃ vector, pushed = .v128 vector ∧ ∀ index < 128 / bits,
    lane bits vector index = .ofNat bits number

/-- The vector with the number in one of its lanes. -/
def LaneReplaced (bits : Nat) (vector : Vector128) (index number : Nat) (pushed : Value) :
    Prop :=
  ∃ replaced, pushed = .v128 replaced ∧ ∀ other < 128 / bits,
    lane bits replaced other =
      if other = index then .ofNat bits number else lane bits vector other

/-- The loads. -/
inductive Loads : Plain → LoadAccess → Prop where
  | scalar {opcode width : Nat} {value : Nat → Value} (arg : Memarg) :
      scalarLoad opcode = some (width, value) →
      Loads (.load opcode arg) ⟨arg, width, [], fun number pushed => pushed = value number⟩
  | v128 (arg : Memarg) :
      Loads (.simd 0 (.memarg arg))
        ⟨arg, 16, [], fun number pushed => pushed = .v128 (.ofNat 128 number)⟩
  | widening {subopcode bits : Nat} {signed : Bool} (arg : Memarg) :
      (subopcode, bits, signed) ∈
        [(1, 8, true), (2, 8, false), (3, 16, true), (4, 16, false), (5, 32, true),
          (6, 32, false)] →
      Loads (.simd subopcode (.memarg arg)) ⟨arg, 8, [], WidenedLanes bits signed⟩
  | splat {subopcode bits : Nat} (arg : Memarg) :
      (subopcode, bits) ∈ [(7, 8), (8, 16), (9, 32), (10, 64)] →
      Loads (.simd subopcode (.memarg arg)) ⟨arg, bits / 8, [], SplatLanes bits⟩
  | zero {subopcode bits : Nat} (arg : Memarg) :
      (subopcode, bits) ∈ [(92, 32), (93, 64)] →
      Loads (.simd subopcode (.memarg arg))
        ⟨arg, bits / 8, [], fun number pushed => pushed = .v128 (.ofNat 128 number)⟩
  | lane {subopcode bits : Nat} (arg : Memarg) (vector : Vector128) (index : Nat) :
      (subopcode, bits) ∈ [(84, 8), (85, 16), (86, 32), (87, 64)] →
      Loads (.simd subopcode (.memargLane arg index))
        ⟨arg, bits / 8, [.v128 vector], LaneReplaced bits vector index⟩

/-- The stores, with the operand above the address. -/
inductive Stores : Plain → Value → StoreAccess → Prop where
  | scalar {opcode width number : Nat} {operand : Value} (arg : Memarg) :
      scalarStore opcode operand = some (width, number) →
      Stores (.store opcode arg) operand ⟨arg, width, number⟩
  | v128 (arg : Memarg) (vector : Vector128) :
      Stores (.simd 11 (.memarg arg)) (.v128 vector) ⟨arg, 16, vector.toNat⟩
  | lane {subopcode bits : Nat} (arg : Memarg) (vector : Vector128) (index : Nat) :
      (subopcode, bits) ∈ [(88, 8), (89, 16), (90, 32), (91, 64)] →
      Stores (.simd subopcode (.memargLane arg index)) (.v128 vector)
        ⟨arg, bits / 8, (lane bits vector index).toNat⟩

/-! ## Runs that only bounds decide -/

/-- The trap of an access behind a memory. -/
def MemoryTrap (err : RuntimeError) : Prop :=
  ∃ address width, err = .memoryOutOfBounds address width

/-- The computation succeeds with the postcondition if the access fits, and fails
its bounds check if it does not. -/
abbrev Obeys {α : Type} (fits : Prop) (post : α → Prop) (run : Run α) : Prop :=
  Guarded MemoryTrap fits post run

/-! ## The two ways to an address -/

section Addresses

variable {memory : LinearMemory}

theorem checkedRange_obeys (small : memory.bytes.length ≤ 2 ^ 32) (address : BitVec 32)
    (displacement width : Nat) :
    Obeys (address.toNat + displacement + width ≤ memory.bytes.length)
      (· = address.toNat + displacement) (memory.checkedRange address displacement width) where
  succeeds fits := by
    refine ⟨_, ?_, rfl⟩
    unfold LinearMemory.checkedRange
    dsimp only
    rw [if_neg (by omega), if_neg (by omega), if_neg (by omega)]
  traps outside := by
    unfold LinearMemory.checkedRange
    dsimp only
    split_ifs
    · exact ⟨_, rfl, _, _, rfl⟩
    · exact ⟨_, rfl, _, _, rfl⟩
    · exact ⟨_, rfl, _, _, rfl⟩
    · omega

theorem checkedBulkRange_obeys (small : memory.bytes.length ≤ 2 ^ 32) (address width : Nat) :
    Obeys (address + width ≤ memory.bytes.length) (· = address)
      (memory.checkedBulkRange address width) where
  succeeds fits := by
    refine ⟨_, ?_, rfl⟩
    unfold LinearMemory.checkedBulkRange
    rw [if_neg (by omega), if_neg (by omega)]
  traps outside := by
    unfold LinearMemory.checkedBulkRange
    split_ifs
    · exact ⟨_, rfl, _, _, rfl⟩
    · exact ⟨_, rfl, _, _, rfl⟩
    · omega

/-- The 64-bit way: the displacement is added before the bounds are checked. -/
theorem effectiveRange_obeys (small : memory.bytes.length ≤ 2 ^ 32)
    (address displacement width : Nat) :
    Obeys (address + displacement + width ≤ memory.bytes.length) (· = address + displacement)
      (do
        let effective ← effectiveAddress address displacement width
        memory.checkedBulkRange effective width) := by
  unfold effectiveAddress
  split
  · next large => exact ⟨fun fits => by omega, fun _ => ⟨_, rfl, _, _, rfl⟩⟩
  · rw [ok_bind]
    exact checkedBulkRange_obeys small ..

variable {inst : Instance σ} {index : Nat} {type : MemoryType} {address : Nat} {operand : Value}
variable {rest : Stack}

theorem popRuntimeBulkMemoryAddress_operand (typed : inst.module.memoryType index = some type)
    (holds : AddressOperand type.limits.memory64 address operand) :
    popRuntimeBulkMemoryAddress inst (operand :: rest) index = .ok (address, rest) := by
  have wide : runtimeMemoryIs64 inst index = .ok type.limits.memory64 := by
    rw [runtimeMemoryIs64, typed]
  rw [popRuntimeBulkMemoryAddress, wide, ok_bind]
  generalize type.limits.memory64 = memory64 at holds
  cases holds <;> rfl

/-- The 32-bit way: an address of a 64-bit memory that has no 32 bits lies behind
every memory. -/
theorem popRuntimeMemoryAddress_operand (rest : Stack)
    (typed : inst.module.memoryType index = some type)
    (holds : AddressOperand type.limits.memory64 address operand) :
    (∃ narrow : BitVec 32, narrow.toNat = address ∧
      popRuntimeMemoryAddress inst (operand :: rest) index = .ok (narrow, rest)) ∨
    (2 ^ 32 ≤ address ∧
      FailsWith MemoryTrap (popRuntimeMemoryAddress inst (operand :: rest) index)) := by
  have wide : runtimeMemoryIs64 inst index = .ok type.limits.memory64 := by
    rw [runtimeMemoryIs64, typed]
  rw [popRuntimeMemoryAddress, wide, ok_bind]
  generalize type.limits.memory64 = memory64 at holds
  cases holds with
  | narrow address => exact .inl ⟨address, rfl, rfl⟩
  | wide address =>
      have popped : i64FromStack (.i64 address :: rest) = .ok (address, rest) := rfl
      rw [if_pos rfl, popped, ok_bind]
      dsimp only
      split
      · next large => exact .inr ⟨by omega, _, rfl, _, _, rfl⟩
      · next fits =>
          refine .inl ⟨address.truncate 32, ?_, rfl⟩
          rw [BitVec.truncate_eq_setWidth, BitVec.toNat_setWidth]
          exact Nat.mod_eq_of_lt (by omega)

/-- An access through a 32-bit address. -/
theorem narrowAccess_obeys {α : Type} {displacement width : Nat} {post : α → Prop}
    {next : BitVec 32 × Stack → Run α} (small : memory.bytes.length ≤ 2 ^ 32)
    (positive : 0 < width) (typed : inst.module.memoryType index = some type)
    (holds : AddressOperand type.limits.memory64 address operand)
    (access : ∀ narrow : BitVec 32, narrow.toNat = address →
      Obeys (address + displacement + width ≤ memory.bytes.length) post (next (narrow, rest))) :
    Obeys (address + displacement + width ≤ memory.bytes.length) post
      (popRuntimeMemoryAddress inst (operand :: rest) index >>= next) := by
  rcases popRuntimeMemoryAddress_operand rest typed holds with
    ⟨narrow, same, popped⟩ | ⟨large, outside⟩
  · rw [popped, ok_bind]
    exact access narrow same
  · exact ⟨fun fits => by omega, fun _ => outside.bind next⟩

end Addresses

/-! ## Loads -/

section Loads

variable {memory : LinearMemory}

theorem LinearMemory.numberAt_lt (memory : LinearMemory) (start width : Nat) :
    memory.numberAt start width < 2 ^ (8 * width) := by
  calc memory.numberAt start width < 256 ^ (memory.readBytes start width).length :=
        fromLeBytes_lt _
    _ ≤ 256 ^ width := Nat.pow_le_pow_right (by decide) (List.length_take_le ..)
    _ = 2 ^ (8 * width) := by rw [Nat.pow_mul]

theorem signExtend_ofNat {bits width number : Nat} (small : number < 2 ^ (8 * width)) :
    (BitVec.ofNat (8 * width) number).signExtend bits =
      .ofInt bits (signedNumber width number) := by
  rw [BitVec.signExtend, BitVec.toInt_eq_toNat_cond, BitVec.toNat_ofNat, Nat.mod_eq_of_lt small]
  unfold signedNumber
  split
  · rfl
  · push_cast
    rfl

theorem zeroExtend_ofNat {bits width number : Nat} (small : number < 2 ^ (8 * width)) :
    (BitVec.ofNat (8 * width) number).zeroExtend bits = .ofNat bits number := by
  apply BitVec.eq_of_toNat_eq
  rw [BitVec.toNat_setWidth, BitVec.toNat_ofNat, BitVec.toNat_ofNat, Nat.mod_eq_of_lt small]

variable {address : BitVec 32} {displacement bits width : Nat}

theorem load_signed (small : memory.bytes.length ≤ 2 ^ 32) :
    Obeys (address.toNat + displacement + width ≤ memory.bytes.length)
      (· = .ofInt bits
        (signedNumber width (memory.numberAt (address.toNat + displacement) width)))
      (memory.load bits width true address displacement) := by
  refine (checkedRange_obeys small address displacement width).bind fun _ start same => ?_
  subst same
  refine ⟨_, rfl, ?_⟩
  rw [if_pos rfl]
  exact signExtend_ofNat (memory.numberAt_lt ..)

theorem load_unsigned (small : memory.bytes.length ≤ 2 ^ 32) :
    Obeys (address.toNat + displacement + width ≤ memory.bytes.length)
      (· = .ofNat bits (memory.numberAt (address.toNat + displacement) width))
      (memory.load bits width false address displacement) := by
  refine (checkedRange_obeys small address displacement width).bind fun _ start same => ?_
  subst same
  refine ⟨_, rfl, ?_⟩
  rw [if_neg Bool.false_ne_true]
  exact zeroExtend_ofNat (memory.numberAt_lt ..)

theorem loadValue_obeys (small : memory.bytes.length ≤ 2 ^ 32) {opcode : Nat}
    {value : Nat → Value} (scalar : scalarLoad opcode = some (width, value)) :
    Obeys (address.toNat + displacement + width ≤ memory.bytes.length)
      (· = value (memory.numberAt (address.toNat + displacement) width))
      (loadValue memory opcode address displacement) := by
  unfold scalarLoad at scalar
  split at scalar <;> cases scalar
  · exact (load_unsigned small).convert Value.i32
  · exact (load_unsigned small).convert Value.i64
  · exact (load_unsigned small).convert Value.f32
  · exact (load_unsigned small).convert Value.f64
  · exact (load_signed small).convert Value.i32
  · exact (load_unsigned small).convert Value.i32
  · exact (load_signed small).convert Value.i32
  · exact (load_unsigned small).convert Value.i32
  · exact (load_signed small).convert Value.i64
  · exact (load_unsigned small).convert Value.i64
  · exact (load_signed small).convert Value.i64
  · exact (load_unsigned small).convert Value.i64
  · exact (load_signed small).convert Value.i64
  · exact (load_unsigned small).convert Value.i64

theorem scalarLoad_positive {opcode : Nat} {value : Nat → Value}
    (scalar : scalarLoad opcode = some (width, value)) : 0 < width := by
  unfold scalarLoad at scalar
  split at scalar <;> cases scalar <;> decide

/-- A fixed number of bytes through the 64-bit way. -/
theorem loadFixed_obeys (small : memory.bytes.length ≤ 2 ^ 32) (address displacement : Nat)
    (width : Nat) :
    Obeys (address + displacement + width ≤ memory.bytes.length)
      (fun bytes => bytes = memory.readBytes (address + displacement) width ∧
        bytes.length = width)
      (memory.loadFixed width address displacement) := by
  unfold LinearMemory.loadFixed
  rw [← bind_assoc]
  refine (effectiveRange_obeys small address displacement width).bind fun fits start same => ?_
  subst same
  refine ⟨_, rfl, rfl, ?_⟩
  rw [LinearMemory.readBytes, List.length_take, List.length_drop]
  omega

end Loads

section Laws

variable {inst : Instance σ} {state : PlainState σ} {localTypes : List ValueType}
variable {memory : LinearMemory} {type : MemoryType} {address : Nat} {operand : Value}
variable {rest : Stack}

/-- The state after a load. -/
def LoadAccess.Pushed (access : LoadAccess) (memory : LinearMemory) (address : Nat)
    (rest : Stack) (before after : PlainState σ) : Prop :=
  ∃ value, access.Pushes (memory.numberAt (address + access.arg.offset) access.width) value ∧
    after = { before with stack := value :: rest }

theorem executeLoad_obeys {opcode width : Nat} {value : Nat → Value} {arg : Memarg}
    (scalar : scalarLoad opcode = some (width, value))
    (found : state.store.memoryAt arg.memory = .ok memory)
    (small : memory.bytes.length ≤ 2 ^ 32)
    (typed : inst.module.memoryType arg.memory = some type)
    (holds : AddressOperand type.limits.memory64 address operand)
    (stackEq : state.stack = operand :: rest) :
    Obeys (address + arg.offset + width ≤ memory.bytes.length)
      (· =
        { state with stack := value (memory.numberAt (address + arg.offset) width) :: rest })
      (executeLoad inst state opcode arg) := by
  rw [executeLoad, stackEq]
  refine narrowAccess_obeys small (scalarLoad_positive scalar) typed holds ?_
  rintro narrow rfl
  dsimp only
  rw [found, ok_bind]
  refine (loadValue_obeys small scalar).bind fun _ loaded same => ⟨_, rfl, ?_⟩
  rw [same]

/-- The loads of a fixed number of bytes. -/
theorem simdLoad_obeys {arg : Memarg} {width subopcode : Nat} (convert : List UInt8 → Vector128)
    (low : subopcode ≤ 10)
    (load : ∀ address displacement, simdLoad memory subopcode address displacement = do
      return convert (← memory.loadFixed width address displacement))
    (found : state.store.memoryAt arg.memory = .ok memory)
    (small : memory.bytes.length ≤ 2 ^ 32)
    (typed : inst.module.memoryType arg.memory = some type)
    (holds : AddressOperand type.limits.memory64 address operand)
    (stackEq : state.stack = operand :: rest) :
    Obeys (address + arg.offset + width ≤ memory.bytes.length)
      (fun after => ∃ bytes, bytes = memory.readBytes (address + arg.offset) width ∧
        bytes.length = width ∧ after = { state with stack := .v128 (convert bytes) :: rest })
      (executeSimdMemory inst state subopcode arg) := by
  rw [executeSimdMemory, if_pos low, stackEq, popRuntimeBulkMemoryAddress_operand typed holds,
    ok_bind]
  dsimp only
  rw [found, ok_bind, load, bind_assoc]
  refine (loadFixed_obeys small address arg.offset width).bind fun _ bytes read => ?_
  exact ⟨_, rfl, bytes, read.1, read.2, rfl⟩

/-- A part of the number in some bytes. -/
theorem lane_ofNat {bits number index : Nat} (small : number < 2 ^ 128) :
    lane bits (.ofNat 128 number) index = .ofNat bits (number / 2 ^ (index * bits)) := by
  apply BitVec.eq_of_toNat_eq
  rw [lane_toNat, BitVec.toNat_ofNat, BitVec.toNat_ofNat, Nat.mod_eq_of_lt small]

/-- The number in eight bytes is that of a vector. -/
theorem number_small {bytes : List UInt8} (short : bytes.length ≤ 16) :
    fromLeBytes bytes < 2 ^ 128 := by
  calc fromLeBytes bytes < 256 ^ bytes.length := fromLeBytes_lt bytes
    _ ≤ 256 ^ 16 := Nat.pow_le_pow_right (by decide) short
    _ = 2 ^ 128 := by decide

theorem widenedLanes_extendLanes {bits : Nat} (signed : Bool) {bytes : List UInt8}
    (width : bits = 8 ∨ bits = 16 ∨ bits = 32) (short : bytes.length ≤ 16) :
    WidenedLanes bits signed (fromLeBytes bytes)
      (.v128 (extendLanes bits signed 0 (ofBytes bytes))) := by
  have positive : 0 < bits := by omega
  have whole : 8 * (bits / 8) = bits := by omega
  refine ⟨_, rfl, fun index inside => ?_⟩
  rw [lane_extendLanes positive inside, ofBytes_eq short, lane_ofNat (number_small short)]
  have partEq : BitVec.ofNat bits (fromLeBytes bytes / 2 ^ (index * bits)) =
      BitVec.ofNat bits (fromLeBytes bytes / 2 ^ (index * bits) % 2 ^ bits) := by
    apply BitVec.eq_of_toNat_eq
    simp
  have partSmall : fromLeBytes bytes / 2 ^ (index * bits) % 2 ^ bits < 2 ^ bits :=
    Nat.mod_lt _ (Nat.two_pow_pos _)
  rw [partEq]
  dsimp only
  generalize fromLeBytes bytes / 2 ^ (index * bits) % 2 ^ bits = part at partSmall
  cases signed with
  | true =>
      rw [if_pos rfl, laneValue, if_pos rfl, BitVec.toInt_eq_toNat_cond, BitVec.toNat_ofNat,
        Nat.mod_eq_of_lt partSmall, signedNumber, whole]
      split
      · rfl
      · push_cast
        rfl
  | false =>
      rw [if_neg Bool.false_ne_true, laneValue, if_neg Bool.false_ne_true, BitVec.toNat_ofNat,
        Nat.mod_eq_of_lt partSmall, BitVec.ofInt_natCast]

theorem splatLanes_splat {bits : Nat} {bytes : List UInt8} (positive : 0 < bits)
    (short : bytes.length ≤ 16) :
    SplatLanes bits (fromLeBytes bytes) (.v128 (splat bits (lane bits (ofBytes bytes) 0))) := by
  refine ⟨_, rfl, fun index inside => ?_⟩
  rw [lane_splat positive inside, ofBytes_eq short, lane_ofNat (number_small short), Nat.zero_mul,
    Nat.pow_zero, Nat.div_one]

theorem laneReplaced_replaceLane {bits : Nat} (positive : 0 < bits) (vector : Vector128)
    (index number : Nat) :
    LaneReplaced bits vector index number
      (.v128 (replaceLane bits vector index (.ofNat bits number))) :=
  ⟨_, rfl, fun _ inside => lane_replaceLane positive inside⟩

/-- The loads of a number into the low bits of a vector. -/
theorem zeroLoad_obeys {arg : Memarg} {subopcode bits : Nat}
    (kind : (subopcode, bits) ∈ [(92, 32), (93, 64)])
    (found : state.store.memoryAt arg.memory = .ok memory)
    (small : memory.bytes.length ≤ 2 ^ 32)
    (typed : inst.module.memoryType arg.memory = some type)
    (holds : AddressOperand type.limits.memory64 address operand)
    (stackEq : state.stack = operand :: rest) :
    Obeys (address + arg.offset + bits / 8 ≤ memory.bytes.length)
      (· =
        { state with
          stack :=
            .v128 (.ofNat 128 (memory.numberAt (address + arg.offset) (bits / 8))) :: rest })
      (executeSimdMemory inst state subopcode arg) := by
  have extended {bits number : Nat} (fits : number < 2 ^ bits) (narrow : bits ≤ 128) :
      (BitVec.ofNat bits number).zeroExtend 128 = .ofNat 128 number := by
    apply BitVec.eq_of_toNat_eq
    have within : 2 ^ bits ≤ 2 ^ 128 := Nat.pow_le_pow_right (by decide) narrow
    rw [BitVec.toNat_setWidth, BitVec.toNat_ofNat, BitVec.toNat_ofNat, Nat.mod_eq_of_lt fits]
  simp only [List.mem_cons, Prod.mk.injEq, List.not_mem_nil, or_false] at kind
  rcases kind with ⟨rfl, rfl⟩ | ⟨rfl, rfl⟩
  all_goals
    rw [executeSimdMemory, if_neg (by decide), if_neg (by decide), stackEq]
    refine narrowAccess_obeys small (by decide) typed holds ?_
    rintro narrow rfl
    dsimp only
    rw [found, ok_bind]
  · rw [if_pos rfl]
    refine (load_unsigned small).bind fun _ loaded same => ⟨_, rfl, ?_⟩
    rw [same, extended (memory.numberAt_lt _ 4) (by decide)]
  · rw [if_neg (by decide)]
    refine (load_unsigned small).bind fun _ loaded same => ⟨_, rfl, ?_⟩
    rw [same, extended (memory.numberAt_lt _ 8) (by decide)]

theorem simdLoadLane_obeys {subopcode bits index displacement : Nat} {vector : Vector128}
    {narrow : BitVec 32} (kind : (subopcode, bits) ∈ [(84, 8), (85, 16), (86, 32), (87, 64)])
    (small : memory.bytes.length ≤ 2 ^ 32) :
    Obeys (narrow.toNat + displacement + bits / 8 ≤ memory.bytes.length)
      (· = replaceLane bits vector index
        (.ofNat bits (memory.numberAt (narrow.toNat + displacement) (bits / 8))))
      (simdLoadLane memory subopcode vector index narrow displacement) := by
  have truncated {bits number : Nat} (narrow : bits ≤ 32) :
      (BitVec.ofNat 32 number).truncate bits = .ofNat bits number := by
    apply BitVec.eq_of_toNat_eq
    rw [BitVec.truncate_eq_setWidth, BitVec.toNat_setWidth, BitVec.toNat_ofNat,
      BitVec.toNat_ofNat, Nat.mod_mod_of_dvd _ (Nat.pow_dvd_pow 2 narrow)]
  simp only [List.mem_cons, Prod.mk.injEq, List.not_mem_nil, or_false] at kind
  rcases kind with ⟨rfl, rfl⟩ | ⟨rfl, rfl⟩ | ⟨rfl, rfl⟩ | ⟨rfl, rfl⟩
  · refine (@load_unsigned _ narrow displacement 32 1 small).bind fun _ loaded same => ⟨_, rfl, ?_⟩
    rw [same, truncated (by decide)]
  · refine (@load_unsigned _ narrow displacement 32 2 small).bind fun _ loaded same => ⟨_, rfl, ?_⟩
    rw [same, truncated (by decide)]
  · refine (@load_unsigned _ narrow displacement 32 4 small).bind fun _ loaded same => ⟨_, rfl, ?_⟩
    rw [same]
  · refine (@load_unsigned _ narrow displacement 64 8 small).bind fun _ loaded same => ⟨_, rfl, ?_⟩
    rw [same]

/-- A load pushes what it reads at the sum of its address and its offset if the
memory reaches that far, and traps otherwise. -/
theorem load_obeys {instr : Plain} {access : LoadAccess} (loads : Loads instr access)
    (found : state.store.memoryAt access.arg.memory = .ok memory)
    (small : memory.bytes.length ≤ 2 ^ 32)
    (typed : inst.module.memoryType access.arg.memory = some type)
    (holds : AddressOperand type.limits.memory64 address operand)
    (stackEq : state.stack = access.above ++ operand :: rest) :
    Obeys (address + access.arg.offset + access.width ≤ memory.bytes.length)
      (access.Pushed memory address rest state) (executePlain inst localTypes state instr) := by
  cases loads with
  | scalar arg scalar =>
      exact (executeLoad_obeys scalar found small typed holds stackEq).mono
        fun _ after same => ⟨_, rfl, same⟩
  | v128 arg =>
      have loaded : Obeys (address + arg.offset + 16 ≤ memory.bytes.length) _
          (executeSimdMemory inst state 0 arg) :=
        simdLoad_obeys ofBytes (by decide) (fun _ _ => rfl) found small typed holds stackEq
      refine loaded.mono ?_
      rintro _ after ⟨bytes, read, length, same⟩
      refine ⟨_, rfl, ?_⟩
      rw [same, ofBytes_eq length.le, read]
      rfl
  | @widening subopcode bits signed arg kind =>
      have widened {subopcode bits : Nat} {signed : Bool} (low : subopcode ≤ 10)
          (load : ∀ address displacement,
            simdLoad memory subopcode address displacement = do
              return extendLanes bits signed 0
                (ofBytes (← memory.loadFixed 8 address displacement)))
          (width : bits = 8 ∨ bits = 16 ∨ bits = 32) :
          Obeys (address + arg.offset + 8 ≤ memory.bytes.length)
            (LoadAccess.Pushed ⟨arg, 8, [], WidenedLanes bits signed⟩ memory address rest state)
            (executeSimdMemory inst state subopcode arg) := by
        refine (simdLoad_obeys _ low load found small typed holds stackEq).mono ?_
        rintro _ after ⟨bytes, read, length, same⟩
        refine ⟨_, ?_, same⟩
        have short : bytes.length ≤ 16 := by omega
        have lanes := widenedLanes_extendLanes signed width short
        rw [read] at lanes ⊢
        exact lanes
      simp only [List.mem_cons, Prod.mk.injEq, List.not_mem_nil, or_false] at kind
      rcases kind with ⟨rfl, rfl, rfl⟩ | ⟨rfl, rfl, rfl⟩ | ⟨rfl, rfl, rfl⟩ | ⟨rfl, rfl, rfl⟩ |
        ⟨rfl, rfl, rfl⟩ | ⟨rfl, rfl, rfl⟩
      · exact @widened 1 8 true (by decide) (fun _ _ => rfl) (by decide)
      · exact @widened 2 8 false (by decide) (fun _ _ => rfl) (by decide)
      · exact @widened 3 16 true (by decide) (fun _ _ => rfl) (by decide)
      · exact @widened 4 16 false (by decide) (fun _ _ => rfl) (by decide)
      · exact @widened 5 32 true (by decide) (fun _ _ => rfl) (by decide)
      · exact @widened 6 32 false (by decide) (fun _ _ => rfl) (by decide)
  | @splat subopcode bits arg kind =>
      have splatted {subopcode bits : Nat} (low : subopcode ≤ 10)
          (load : ∀ address displacement,
            simdLoad memory subopcode address displacement = do
              return splat bits
                (lane bits (ofBytes (← memory.loadFixed (bits / 8) address displacement)) 0))
          (positive : 0 < bits) (narrow : bits ≤ 64) :
          Obeys (address + arg.offset + bits / 8 ≤ memory.bytes.length)
            (LoadAccess.Pushed ⟨arg, bits / 8, [], SplatLanes bits⟩ memory address rest state)
            (executeSimdMemory inst state subopcode arg) := by
        refine (simdLoad_obeys _ low load found small typed holds stackEq).mono ?_
        rintro _ after ⟨bytes, read, length, same⟩
        refine ⟨_, ?_, same⟩
        have short : bytes.length ≤ 16 := by omega
        have lanes := splatLanes_splat positive short
        rw [read] at lanes ⊢
        exact lanes
      simp only [List.mem_cons, Prod.mk.injEq, List.not_mem_nil, or_false] at kind
      rcases kind with ⟨rfl, rfl⟩ | ⟨rfl, rfl⟩ | ⟨rfl, rfl⟩ | ⟨rfl, rfl⟩
      · exact @splatted 7 8 (by decide) (fun _ _ => rfl) (by decide) (by decide)
      · exact @splatted 8 16 (by decide) (fun _ _ => rfl) (by decide) (by decide)
      · exact @splatted 9 32 (by decide) (fun _ _ => rfl) (by decide) (by decide)
      · exact @splatted 10 64 (by decide) (fun _ _ => rfl) (by decide) (by decide)
  | @zero subopcode bits arg kind =>
      have loaded : Obeys _ _ (executeSimdMemory inst state subopcode arg) :=
        zeroLoad_obeys kind found small typed holds stackEq
      exact loaded.mono fun _ after same => ⟨_, rfl, same⟩
  | @lane subopcode bits arg vector index kind =>
      have shape : 0 < bits / 8 ∧ 0 < bits ∧ subopcode ≤ 87 := by
        simp only [List.mem_cons, Prod.mk.injEq, List.not_mem_nil, or_false] at kind
        omega
      have popped : v128FromStack state.stack = .ok (vector, operand :: rest) := by
        rw [stackEq]
        rfl
      change Obeys _ _ (executeSimdMemoryLane inst state subopcode arg index)
      rw [executeSimdMemoryLane, popped, ok_bind]
      refine narrowAccess_obeys small shape.1 typed holds ?_
      rintro narrow rfl
      dsimp only
      rw [if_pos shape.2.2, found, ok_bind]
      refine (simdLoadLane_obeys kind small).bind fun _ loaded same => ?_
      refine ⟨_, rfl, _, laneReplaced_replaceLane shape.2.1 vector index _, ?_⟩
      rw [same]

/-! ## Stores -/

/-- The memory behind a store. -/
def StoreAccess.written (access : StoreAccess) (memory : LinearMemory) (address : Nat) :
    LinearMemory :=
  memory.writeBytes (address + access.arg.offset) (toLeBytes access.width access.number)

/-- The state behind a store. -/
def StoreAccess.after (access : StoreAccess) (memory : LinearMemory) (address : Nat)
    (rest : Stack) (before : PlainState σ) : PlainState σ :=
  { before with
    store := before.store.setMemoryAt access.arg.memory (access.written memory address)
    stack := rest }

theorem store_obeys {bits displacement width : Nat} {narrow : BitVec 32}
    (small : memory.bytes.length ≤ 2 ^ 32) (value : BitVec bits) :
    Obeys (narrow.toNat + displacement + width ≤ memory.bytes.length)
      (· = memory.writeBytes (narrow.toNat + displacement) (toLeBytes width value.toNat))
      (memory.store bits width narrow displacement value) := by
  refine (checkedRange_obeys small narrow displacement width).bind fun _ start same => ?_
  subst same
  exact ⟨_, rfl, rfl⟩

/-- The write of a memory through a 32-bit address. -/
theorem narrowStore_obeys (access : StoreAccess)
    (update : BitVec 32 → LinearMemory → Run LinearMemory) (positive : 0 < access.width)
    (writes : ∀ narrow : BitVec 32,
      Obeys (narrow.toNat + access.arg.offset + access.width ≤ memory.bytes.length)
        (· = access.written memory narrow.toNat) (update narrow memory))
    (found : state.store.memoryAt access.arg.memory = .ok memory)
    (small : memory.bytes.length ≤ 2 ^ 32)
    (typed : inst.module.memoryType access.arg.memory = some type)
    (holds : AddressOperand type.limits.memory64 address operand) :
    Obeys (address + access.arg.offset + access.width ≤ memory.bytes.length)
      (· = access.after memory address rest state)
      (do
        let (narrow, stack) ← popRuntimeMemoryAddress inst (operand :: rest) access.arg.memory
        let store ← state.store.withMemoryIndexMut access.arg.memory (update narrow)
        return { state with store, stack }) := by
  refine narrowAccess_obeys small positive typed holds ?_
  rintro narrow rfl
  dsimp only
  rw [Store.withMemoryIndexMut_found found, bind_assoc]
  refine (writes narrow).bind fun _ written same => ⟨_, rfl, ?_⟩
  rw [same]
  rfl

theorem executeStoreAs_obeys {bits width : Nat} {arg : Memarg} (positive : 0 < width)
    (found : state.store.memoryAt arg.memory = .ok memory)
    (small : memory.bytes.length ≤ 2 ^ 32)
    (typed : inst.module.memoryType arg.memory = some type)
    (holds : AddressOperand type.limits.memory64 address operand) (value : BitVec bits) :
    Obeys (address + arg.offset + width ≤ memory.bytes.length)
      (· = StoreAccess.after ⟨arg, width, value.toNat⟩ memory address rest state)
      (executeStoreAs inst state arg value (operand :: rest) fun memory =>
        memory.store bits width) :=
  narrowStore_obeys ⟨arg, width, value.toNat⟩
    (fun narrow memory => memory.store bits width narrow arg.offset value) positive
    (fun _ => store_obeys small value) found small typed holds

theorem executeStore_obeys {opcode width number : Nat} {value : Value} {arg : Memarg}
    (scalar : scalarStore opcode value = some (width, number))
    (found : state.store.memoryAt arg.memory = .ok memory)
    (small : memory.bytes.length ≤ 2 ^ 32)
    (typed : inst.module.memoryType arg.memory = some type)
    (holds : AddressOperand type.limits.memory64 address operand)
    (stackEq : state.stack = value :: operand :: rest) :
    Obeys (address + arg.offset + width ≤ memory.bytes.length)
      (· = StoreAccess.after ⟨arg, width, number⟩ memory address rest state)
      (executeStore inst state opcode arg) := by
  unfold scalarStore at scalar
  split at scalar <;> cases scalar <;> rw [executeStore, stackEq]
  · exact executeStoreAs_obeys (by decide) found small typed holds _
  · exact executeStoreAs_obeys (by decide) found small typed holds _
  · exact executeStoreAs_obeys (by decide) found small typed holds _
  · exact executeStoreAs_obeys (by decide) found small typed holds _
  · exact executeStoreAs_obeys (by decide) found small typed holds _
  · exact executeStoreAs_obeys (by decide) found small typed holds _
  · exact executeStoreAs_obeys (by decide) found small typed holds _
  · exact executeStoreAs_obeys (by decide) found small typed holds _
  · exact executeStoreAs_obeys (by decide) found small typed holds _

theorem simdStoreLane_obeys {subopcode bits index displacement : Nat} {vector : Vector128}
    {narrow : BitVec 32} (kind : (subopcode, bits) ∈ [(88, 8), (89, 16), (90, 32), (91, 64)])
    (small : memory.bytes.length ≤ 2 ^ 32) :
    Obeys (narrow.toNat + displacement + bits / 8 ≤ memory.bytes.length)
      (· = memory.writeBytes (narrow.toNat + displacement)
        (toLeBytes (bits / 8) (lane bits vector index).toNat))
      (simdStoreLane memory subopcode vector index narrow displacement) := by
  have extended {bits : Nat} (value : BitVec bits) (narrow : bits ≤ 32) :
      (value.zeroExtend 32).toNat = value.toNat := by
    rw [BitVec.toNat_setWidth]
    exact Nat.mod_eq_of_lt
      (Nat.lt_of_lt_of_le value.isLt (Nat.pow_le_pow_right (by decide) narrow))
  simp only [List.mem_cons, Prod.mk.injEq, List.not_mem_nil, or_false] at kind
  rcases kind with ⟨rfl, rfl⟩ | ⟨rfl, rfl⟩ | ⟨rfl, rfl⟩ | ⟨rfl, rfl⟩
  · rw [← extended (lane 8 vector index) (by decide)]
    exact store_obeys small _
  · rw [← extended (lane 16 vector index) (by decide)]
    exact store_obeys small _
  · exact store_obeys small _
  · exact store_obeys small _

/-- The store of a vector takes the 64-bit way. -/
theorem simdStore_obeys {arg : Memarg} {vector : Vector128}
    (found : state.store.memoryAt arg.memory = .ok memory)
    (small : memory.bytes.length ≤ 2 ^ 32)
    (typed : inst.module.memoryType arg.memory = some type)
    (holds : AddressOperand type.limits.memory64 address operand)
    (stackEq : state.stack = .v128 vector :: operand :: rest) :
    Obeys (address + arg.offset + 16 ≤ memory.bytes.length)
      (· = StoreAccess.after ⟨arg, 16, vector.toNat⟩ memory address rest state)
      (executeSimdMemory inst state 11 arg) := by
  have popped : v128FromStack (.v128 vector :: operand :: rest) = .ok (vector, operand :: rest) :=
    rfl
  have written : Obeys (address + arg.offset + 16 ≤ memory.bytes.length)
      (· = StoreAccess.written ⟨arg, 16, vector.toNat⟩ memory address)
      (memory.storeV128 address arg.offset (toBytes vector)) := by
    rw [LinearMemory.storeV128, ← bind_assoc]
    refine (effectiveRange_obeys small address arg.offset 16).bind fun _ start same => ?_
    refine ⟨_, rfl, ?_⟩
    rw [same, toBytes_eq]
    rfl
  rw [executeSimdMemory, if_neg (by decide), if_pos rfl, stackEq, popped, ok_bind]
  dsimp only
  rw [popRuntimeBulkMemoryAddress_operand typed holds, ok_bind]
  dsimp only
  rw [Store.withMemoryIndexMut_found found, bind_assoc]
  refine written.bind fun _ memory same => ⟨_, rfl, ?_⟩
  rw [same]
  rfl

/-- A store writes its number at the sum of its address and its offset if the
memory reaches that far, and traps otherwise. -/
theorem store_instr_obeys {instr : Plain} {value : Value} {access : StoreAccess}
    (stores : Stores instr value access)
    (found : state.store.memoryAt access.arg.memory = .ok memory)
    (small : memory.bytes.length ≤ 2 ^ 32)
    (typed : inst.module.memoryType access.arg.memory = some type)
    (holds : AddressOperand type.limits.memory64 address operand)
    (stackEq : state.stack = value :: operand :: rest) :
    Obeys (address + access.arg.offset + access.width ≤ memory.bytes.length)
      (· = access.after memory address rest state)
      (executePlain inst localTypes state instr) := by
  cases stores with
  | scalar arg scalar => exact executeStore_obeys scalar found small typed holds stackEq
  | v128 arg vector => exact simdStore_obeys found small typed holds stackEq
  | @lane subopcode bits arg vector index kind =>
      have shape : 0 < bits / 8 ∧ ¬ subopcode ≤ 87 := by
        simp only [List.mem_cons, Prod.mk.injEq, List.not_mem_nil, or_false] at kind
        omega
      have popped : v128FromStack state.stack = .ok (vector, operand :: rest) := by
        rw [stackEq]
        rfl
      have run : executeSimdMemoryLane inst state subopcode arg index = (do
          let (narrow, stack) ← popRuntimeMemoryAddress inst (operand :: rest) arg.memory
          let store ← state.store.withMemoryIndexMut arg.memory fun memory =>
            simdStoreLane memory subopcode vector index narrow arg.offset
          return { state with store, stack }) := by
        rw [executeSimdMemoryLane, popped, ok_bind]
        simp only [if_neg shape.2]
      change Obeys _ _ (executeSimdMemoryLane inst state subopcode arg index)
      rw [run]
      exact narrowStore_obeys ⟨arg, bits / 8, (lane bits vector index).toNat⟩
        (fun narrow memory => simdStoreLane memory subopcode vector index narrow arg.offset)
        shape.1 (fun _ => simdStoreLane_obeys kind small) found small typed holds

end Laws

end MiniWasm.Runtime
