import MiniWasm.Parser.Leb128
import MiniWasm.Syntax
import MiniWasm.Validator.Error

/-!
# Immediates read by the validator

Every reader takes the program counter behind the opcode and returns the value
it read with the program counter behind the immediate.
-/

namespace MiniWasm.Validator

/-- What the checker of one function body is called with. -/
structure CodeContext where
  module : Module
  /-- Index of the function in the module's function index space. -/
  function : Nat
  localTypes : List ValueType
  functionResults : List ValueType
  code : List UInt8
  deriving DecidableEq, Repr

abbrev Checked (α : Type) := Except ValidationError α

variable (cx : CodeContext) (offset pc : Nat)

def malformed {α : Type} : Checked α :=
  .error (.malformedImmediate cx.function offset)

/-- Run a shared decoder at the program counter; its errors are replaced by a
malformed-immediate error at the opcode. -/
def readWith {α : Type} (decode : List UInt8 → Except ParseError (α × Nat)) :
    Checked (α × Nat) :=
  match decode (cx.code.drop pc) with
  | .ok (value, used) => .ok (value, pc + used)
  | .error _ => malformed cx offset

def readU32 : Checked (Nat × Nat) :=
  readWith cx offset pc decodeU32

def readU64 : Checked (Nat × Nat) :=
  readWith cx offset pc decodeU64

def skipI32 : Checked Nat := do
  let (_, pc) ← readWith cx offset pc decodeI32
  return pc

def skipI64 : Checked Nat := do
  let (_, pc) ← readWith cx offset pc decodeI64
  return pc

def skipFixed (width : Nat) : Checked Nat :=
  if pc + width ≤ cx.code.length then .ok (pc + width) else malformed cx offset

def readByte : Checked (UInt8 × Nat) :=
  match cx.code[pc]? with
  | some byte => .ok (byte, pc + 1)
  | none => malformed cx offset

/-- A lane number below the limit. -/
def readLane (limit : Nat) : Checked Nat := do
  let (lane, pc) ← readByte cx offset pc
  if limit ≤ lane.toNat then malformed cx offset else return pc

/-- The sixteen lane numbers of a shuffle. -/
def readShuffle : Checked Nat :=
  if pc + 16 ≤ cx.code.length then
    if ((cx.code.drop pc).take 16).any (32 ≤ ·.toNat) then
      malformed cx offset
    else
      .ok (pc + 16)
  else
    malformed cx offset

def readTypedSelectType : Checked (ValueType × Nat) := do
  let (count, pc) ← readU32 cx offset pc
  if count ≠ 1 then malformed cx offset else
    let (tag, pc) ← readByte cx offset pc
    if tag = 0x7f then return (.i32, pc)
    else if tag = 0x7e then return (.i64, pc)
    else if tag = 0x7d then return (.f32, pc)
    else if tag = 0x7c then return (.f64, pc)
    else if tag = 0x7b then return (.v128, pc)
    else if tag = 0x70 then return (.funcRef, pc)
    else malformed cx offset

def readLocal : Checked (Nat × Nat) := do
  let (index, pc) ← readU32 cx offset pc
  if cx.localTypes.length ≤ index then
    .error (.localIndexOutOfBounds cx.function offset index)
  else
    return (index, pc)

def ensureMemory : Checked Unit :=
  if cx.module.memoryCount = 0 then
    .error (.memoryInstructionWithoutMemory cx.function offset)
  else
    .ok ()

/-- `memory_type(..).expect(..)`. -/
def memoryTypeAt (module : Module) (memory : Nat) : Checked MemoryType :=
  match module.memoryType memory with
  | some type => .ok type
  | none => .error .panicked

/-- Alignment and memory index: bit 6 of the flags announces an explicit index. -/
def readMemargMemory (flags : Nat) : Checked (Nat × Nat × Nat) :=
  if flags &&& 0x40 ≠ 0 then do
    let (memory, pc) ← readU32 cx offset pc
    return (flags &&& 0x3f, memory, pc)
  else
    return (flags, 0, pc)

/-- The checks on a memory argument that has been read. -/
def checkMemarg (maximumAlignment : Nat) (arg : Memarg) : Checked Unit :=
  if cx.module.memoryCount ≤ arg.memory then
    .error (.memoryIndexOutOfBounds cx.function offset arg.memory)
  else do
    let memoryType ← memoryTypeAt cx.module arg.memory
    if !memoryType.limits.memory64 && 2 ^ 32 - 1 < arg.offset then
      .error (.memoryOffsetOutOfBounds cx.function offset arg.memory arg.offset
        (2 ^ 32 - 1))
    else if maximumAlignment < arg.alignment then
      .error (.invalidMemoryAlignment cx.function offset arg.alignment maximumAlignment)
    else
      return ()

def readMemarg (maximumAlignment : Nat) : Checked (Memarg × Nat) := do
  let (flags, pc) ← readU32 cx offset pc
  if 0x80 ≤ flags then
    .error (.invalidMemoryAlignment cx.function offset flags maximumAlignment)
  else
    let (alignment, memory, pc) ← readMemargMemory cx offset pc flags
    let (displacement, pc) ← readU64 cx offset pc
    let arg : Memarg := ⟨alignment, memory, displacement⟩
    checkMemarg cx offset maximumAlignment arg
    return (arg, pc)

def readMemoryIndex : Checked (Nat × Nat) := do
  ensureMemory cx offset
  let (memory, pc) ← readU32 cx offset pc
  if cx.module.memoryCount ≤ memory then
    .error (.memoryIndexOutOfBounds cx.function offset memory)
  else
    return (memory, pc)

/-- The single-result shorthands of a block type. -/
def shorthandBlockType (first : UInt8) : Option ValueType :=
  if first = 0x7f then some .i32
  else if first = 0x7e then some .i64
  else if first = 0x7d then some .f32
  else if first = 0x7c then some .f64
  else none

def readBlockSignature : Checked (BlockSignature × Nat) := do
  let (first, next) ← readByte cx offset pc
  if first = 0x40 then
    return (⟨[], []⟩, next)
  else
    match shorthandBlockType first with
    | some result => return (⟨[], [result]⟩, next)
    | none =>
        let (raw, pc) ← readWith cx offset pc decodeS33
        if raw < 0 then
          .error (.unsupportedBlockType cx.function offset first.toNat)
        else if 2 ^ 32 ≤ raw then
          malformed cx offset
        else
          match cx.module.types[raw.toNat]? with
          | some type => return (⟨type.params, type.results⟩, pc)
          | none =>
              .error (.blockTypeIndexOutOfBounds cx.function offset raw.toNat)

end MiniWasm.Validator
