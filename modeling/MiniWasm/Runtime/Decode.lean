import MiniWasm.Runtime.Memory
import MiniWasm.Syntax

/-!
# Immediates read by the interpreter

Every reader takes the program counter behind the opcode and returns the value
it read with the program counter behind the immediate.  `readPlain` collects
what the arms of the straight-line instructions read, and check about what they
read, before they touch the operand stack.
-/

namespace MiniWasm.Runtime

variable (code : List UInt8) (pc : Nat)

/-- Run a shared decoder at the program counter. -/
def readWith {α : Type} (decode : List UInt8 → Except ParseError (α × Nat)) :
    Run (α × Nat) :=
  match decode (code.drop pc) with
  | .ok (value, used) => .ok (value, pc + used)
  | .error err => .error (.decode err)

def readU32Immediate : Run (Nat × Nat) :=
  readWith code pc decodeU32

def readU64Immediate : Run (Nat × Nat) :=
  readWith code pc decodeU64

/-- `code.get(pc)` with the given error. -/
def readByte (missing : RuntimeError) : Run (UInt8 × Nat) :=
  match code[pc]? with
  | some byte => .ok (byte, pc + 1)
  | none => .error missing

/-- `code.get(pc..pc + width)` with the given error. -/
def readBytes (width : Nat) (missing : RuntimeError) : Run (List UInt8 × Nat) :=
  if pc + width ≤ code.length then
    .ok ((code.drop pc).take width, pc + width)
  else
    .error missing

def readFixedU32 : Run (BitVec 32 × Nat) := do
  let (bytes, pc) ← readBytes code pc 4 (.controlInvariant "truncated f32 immediate")
  return (BitVec.ofNat 32 (LinearMemory.fromLeBytes bytes), pc)

def readFixedU64 : Run (BitVec 64 × Nat) := do
  let (bytes, pc) ← readBytes code pc 8 (.controlInvariant "truncated f64 immediate")
  return (BitVec.ofNat 64 (LinearMemory.fromLeBytes bytes), pc)

def readMemarg : Run (Memarg × Nat) := do
  let (flags, pc) ← readU32Immediate code pc
  if 0x80 ≤ flags then
    .error (.controlInvariant "validated memarg flags exceed encoding range")
  else if flags &&& 0x40 ≠ 0 then
    let (memory, pc) ← readU32Immediate code pc
    let (displacement, pc) ← readU64Immediate code pc
    return (⟨flags &&& 0x3f, memory, displacement⟩, pc)
  else
    let (displacement, pc) ← readU64Immediate code pc
    return (⟨flags, 0, displacement⟩, pc)

def readTypedSelectType : Run (ValueType × Nat) := do
  let (count, pc) ← readU32Immediate code pc
  if count ≠ 1 then
    .error (.controlInvariant
      "validated typed select must declare exactly one result type")
  else
    let (tag, pc) ← readByte code pc
      (.controlInvariant "validated typed select result type is missing")
    if tag = 0x7f then return (.i32, pc)
    else if tag = 0x7e then return (.i64, pc)
    else if tag = 0x7d then return (.f32, pc)
    else if tag = 0x7c then return (.f64, pc)
    else if tag = 0x7b then return (.v128, pc)
    else if tag = 0x70 then return (.funcRef, pc)
    else
      .error (.controlInvariant "validated typed select result type is unsupported")

/-- The reference type byte of `ref.null`. -/
def readReferenceType : Run Nat := do
  let (referenceType, pc) ← readByte code pc (.unsupportedOpcode 0xd0)
  if referenceType ≠ 0x70 then .error (.unsupportedOpcode 0xd0) else return pc

def readBlockSignature (types : List FuncType) : Run (BlockSignature × Nat) := do
  let (first, next) ← readByte code pc (.controlInvariant "missing block type")
  if first = 0x40 then return (⟨[], []⟩, next)
  else if first = 0x7f then return (⟨[], [.i32]⟩, next)
  else if first = 0x7e then return (⟨[], [.i64]⟩, next)
  else if first = 0x7d then return (⟨[], [.f32]⟩, next)
  else if first = 0x7c then return (⟨[], [.f64]⟩, next)
  else
    let (raw, pc) ← readWith code pc decodeS33
    if raw < 0 then
      .error (.unsupportedBlockType first.toNat)
    else if 2 ^ 32 ≤ raw then
      .error (.controlInvariant "block type index exceeds u32")
    else
      match types[raw.toNat]? with
      | some type => return (⟨type.params, type.results⟩, pc)
      | none => .error (.blockTypeIndexOutOfBounds raw.toNat)

/-! ## Straight-line instructions -/

/-- One unsigned immediate. -/
def withU32 (instr : Nat → Plain) : Run (Plain × Nat) := do
  let (index, pc) ← readU32Immediate code pc
  return (instr index, pc)

/-- Two unsigned immediates. -/
def withU32Pair (instr : Nat → Nat → Plain) : Run (Plain × Nat) := do
  let (first, pc) ← readU32Immediate code pc
  let (second, pc) ← readU32Immediate code pc
  return (instr first second, pc)

variable (memoryCount : Nat)

def ensureRuntimeMemoryIndex (index : Nat) : Run Unit :=
  if index < memoryCount then .ok () else .error (.memoryIndexOutOfBounds index)

/-- A memory argument into one of the instance's memories. -/
def readRuntimeMemarg : Run (Memarg × Nat) := do
  let (arg, pc) ← readMemarg code pc
  ensureRuntimeMemoryIndex memoryCount arg.memory
  return (arg, pc)

/-- The name under which a lane arm reports a bad immediate. -/
def laneArm (subopcode : Nat) : String :=
  if 84 ≤ subopcode ∧ subopcode ≤ 87 then "SIMD lane-load"
  else if 88 ≤ subopcode ∧ subopcode ≤ 91 then "SIMD lane-store"
  else if subopcode = 21 ∨ subopcode = 22 then "i8x16.extract_lane"
  else if subopcode = 23 then "i8x16.replace_lane"
  else if subopcode = 24 ∨ subopcode = 25 then "i16x8.extract_lane"
  else if subopcode = 26 then "i16x8.replace_lane"
  else if subopcode = 27 then "i32x4.extract_lane"
  else if subopcode = 28 then "i32x4.replace_lane"
  else if subopcode = 29 then "i64x2.extract_lane"
  else if subopcode = 30 then "i64x2.replace_lane"
  else if subopcode = 31 then "f32x4.extract_lane"
  else if subopcode = 32 then "f32x4.replace_lane"
  else if subopcode = 33 then "f64x2.extract_lane"
  else "f64x2.replace_lane"

/-- A lane number below the limit. -/
def readLaneIndex (arm : String) (limit : Nat) : Run (Nat × Nat) := do
  let (lane, pc) ← readByte code pc
    (.controlInvariant ("validated " ++ arm ++ " immediate is missing"))
  if limit ≤ lane.toNat then
    .error (.controlInvariant ("validated " ++ arm ++ " lane is out of bounds"))
  else
    return (lane.toNat, pc)

/-- Lanes of the shape on which a lane arm works. -/
def laneLimit (subopcode : Nat) : Nat :=
  if subopcode ∈ [84, 88, 21, 22, 23] then 16
  else if subopcode ∈ [85, 89, 24, 25, 26] then 8
  else if subopcode ∈ [86, 90, 27, 28, 31, 32] then 4
  else 2

def readShuffleLanes : Run (List UInt8 × Nat) := do
  let (lanes, pc) ← readBytes code pc 16
    (.controlInvariant "validated i8x16.shuffle immediate is missing")
  if lanes.any (32 ≤ ·.toNat) then
    .error (.controlInvariant "validated i8x16.shuffle lane is out of bounds")
  else
    return (lanes, pc)

def readSimdImmediate (subopcode : Nat) : Run (SimdImmediate × Nat) := do
  if subopcode ≤ 11 ∨ subopcode = 92 ∨ subopcode = 93 then
    let (arg, pc) ← readRuntimeMemarg code pc memoryCount
    return (.memarg arg, pc)
  else if 84 ≤ subopcode ∧ subopcode ≤ 91 then
    let (arg, pc) ← readRuntimeMemarg code pc memoryCount
    let (lane, pc) ← readLaneIndex code pc (laneArm subopcode) (laneLimit subopcode)
    return (.memargLane arg lane, pc)
  else if subopcode = 12 then
    let (bytes, pc) ← readBytes code pc 16
      (.controlInvariant "validated v128.const immediate is missing")
    return (.bytes bytes, pc)
  else if subopcode = 13 then
    let (lanes, pc) ← readShuffleLanes code pc
    return (.shuffle lanes, pc)
  else if 21 ≤ subopcode ∧ subopcode ≤ 34 then
    let (lane, pc) ← readLaneIndex code pc (laneArm subopcode) (laneLimit subopcode)
    return (.lane lane, pc)
  else
    return (.none, pc)

def readSimd : Run (Plain × Nat) := do
  let (subopcode, pc) ← readU32Immediate code pc
  let (immediate, pc) ← readSimdImmediate code pc memoryCount subopcode
  return (.simd subopcode immediate, pc)

/-- The arms behind the prefix `0xfc`. -/
def readMisc : Run (Plain × Nat) := do
  let (subopcode, pc) ← readU32Immediate code pc
  if subopcode ≤ 7 then return (.truncSat subopcode, pc)
  else if subopcode = 8 then
    let (data, pc) ← readU32Immediate code pc
    let (memory, pc) ← readU32Immediate code pc
    ensureRuntimeMemoryIndex memoryCount memory
    return (.memoryInit data memory, pc)
  else if subopcode = 9 then withU32 code pc .dataDrop
  else if subopcode = 10 then
    let (destination, pc) ← readU32Immediate code pc
    let (source, pc) ← readU32Immediate code pc
    ensureRuntimeMemoryIndex memoryCount destination
    ensureRuntimeMemoryIndex memoryCount source
    return (.memoryCopy destination source, pc)
  else if subopcode = 11 then
    let (memory, pc) ← readU32Immediate code pc
    ensureRuntimeMemoryIndex memoryCount memory
    return (.memoryFill memory, pc)
  else if subopcode = 12 then withU32Pair code pc .tableInit
  else if subopcode = 13 then withU32 code pc .elemDrop
  else if subopcode = 14 then withU32Pair code pc .tableCopy
  else if subopcode = 15 then withU32 code pc .tableGrow
  else if subopcode = 16 then withU32 code pc .tableSize
  else if subopcode = 17 then withU32 code pc .tableFill
  else .error (.unsupportedPrefixedOpcode 0xfc subopcode)

/-- One of the instance's memories. -/
def readRuntimeMemoryIndex : Run (Nat × Nat) := do
  let (memory, pc) ← readU32Immediate code pc
  ensureRuntimeMemoryIndex memoryCount memory
  return (memory, pc)

def readPlain (opcode : Nat) : Run (Plain × Nat) := do
  if opcode = 0x01 then return (.nop, pc)
  else if opcode = 0x1a then return (.drop, pc)
  else if opcode = 0x1b then return (.select, pc)
  else if opcode = 0x1c then
    let (type, pc) ← readTypedSelectType code pc
    return (.selectTyped type, pc)
  else if opcode = 0x20 then withU32 code pc .localGet
  else if opcode = 0x21 then withU32 code pc .localSet
  else if opcode = 0x22 then withU32 code pc .localTee
  else if opcode = 0x23 then withU32 code pc .globalGet
  else if opcode = 0x24 then withU32 code pc .globalSet
  else if opcode = 0x25 then withU32 code pc .tableGet
  else if opcode = 0x26 then withU32 code pc .tableSet
  else if 0x28 ≤ opcode ∧ opcode ≤ 0x35 then
    let (arg, pc) ← readRuntimeMemarg code pc memoryCount
    return (.load opcode arg, pc)
  else if 0x36 ≤ opcode ∧ opcode ≤ 0x3e then
    let (arg, pc) ← readRuntimeMemarg code pc memoryCount
    return (.store opcode arg, pc)
  else if opcode = 0x3f then
    let (memory, pc) ← readRuntimeMemoryIndex code pc memoryCount
    return (.memorySize memory, pc)
  else if opcode = 0x40 then
    let (memory, pc) ← readRuntimeMemoryIndex code pc memoryCount
    return (.memoryGrow memory, pc)
  else if opcode = 0x41 then
    let (value, pc) ← readWith code pc decodeI32
    return (.i32Const (BitVec.ofInt 32 value), pc)
  else if opcode = 0x42 then
    let (value, pc) ← readWith code pc decodeI64
    return (.i64Const (BitVec.ofInt 64 value), pc)
  else if opcode = 0x43 then
    let (bits, pc) ← readFixedU32 code pc
    return (.f32Const bits, pc)
  else if opcode = 0x44 then
    let (bits, pc) ← readFixedU64 code pc
    return (.f64Const bits, pc)
  else if 0x45 ≤ opcode ∧ opcode ≤ 0xc4 then return (.numeric opcode, pc)
  else if opcode = 0xd0 then
    let pc ← readReferenceType code pc
    return (.refNull, pc)
  else if opcode = 0xd1 then return (.refIsNull, pc)
  else if opcode = 0xd2 then withU32 code pc .refFunc
  else if opcode = 0xfd then readSimd code pc memoryCount
  else if opcode = 0xfc then readMisc code pc memoryCount
  else .error (.unsupportedOpcode opcode)

end MiniWasm.Runtime
