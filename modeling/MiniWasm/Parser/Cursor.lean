import MiniWasm.Library.Format
import MiniWasm.Parser.Leb128

/-!
# The cursor of the parser

A cursor reads values off the front of the bytes that remain.  The readers of names, types,
limits and constant expressions are shared by the sections.
-/

namespace MiniWasm.Parser

open Library

/-- A step of the parser: what it reads off the remaining bytes. -/
abbrev Cursor (α : Type) :=
  Reader UInt8 ParseError α

variable {α : Type}

def readU8 : Cursor UInt8 :=
  Reader.item .unexpectedEof

def readExact (length : Nat) : Cursor (List UInt8) :=
  Reader.block .unexpectedEof length

/-- Decode a number from the remaining bytes and move past it. -/
def readDecoded (decode : List UInt8 → Except ParseError (α × Nat)) : Cursor α :=
  fun remaining => do
    let (value, used) ← decode remaining
    return (value, remaining.drop used)

def readU32 : Cursor Nat :=
  readDecoded decodeU32

def readU64 : Cursor Nat :=
  readDecoded decodeU64

def readI32 : Cursor (BitVec 32) := do
  let value ← readDecoded decodeI32
  return .ofInt 32 value

def readI64 : Cursor (BitVec 64) := do
  let value ← readDecoded decodeI64
  return .ofInt 64 value

/-- `from_le_bytes`. -/
def fromLeBytes (bytes : List UInt8) : Nat :=
  bytes.foldr (fun byte rest => byte.toNat + 256 * rest) 0

def readU32Le : Cursor (BitVec 32) := do
  let bytes ← readExact 4
  return .ofNat 32 (fromLeBytes bytes)

def readU64Le : Cursor (BitVec 64) := do
  let bytes ← readExact 8
  return .ofNat 64 (fromLeBytes bytes)

/-- `str::from_utf8`. -/
def fromUtf8 (bytes : List UInt8) : Except ParseError String :=
  match String.fromUTF8? ⟨bytes.toArray⟩ with
  | some name => .ok name
  | none => .error .invalidUtf8

def readName : Cursor String := do
  let length ← readU32
  let bytes ← readExact length
  fromUtf8 bytes

/-- A count and that many values. -/
def readVec (reader : Cursor α) : Cursor (List α) := do
  let count ← readU32
  reader.many count

/-! ## Types -/

def readValueType : Cursor ValueType := do
  match ← readU8 with
  | 0x7f => return .i32
  | 0x7e => return .i64
  | 0x7d => return .f32
  | 0x7c => return .f64
  | 0x7b => return .v128
  | 0x70 => return .funcRef
  | other => throw (.unsupportedValueType other)

def readGlobalValueType : Cursor ValueType := do
  match ← readU8 with
  | 0x7f => return .i32
  | 0x7e => return .i64
  | 0x7d => return .f32
  | 0x7c => return .f64
  | 0x7b => return .v128
  | 0x70 => return .funcRef
  | other => throw (.unsupportedValueType other)

def readValueTypeVec : Cursor (List ValueType) :=
  readVec readValueType

def readMutability : Cursor Bool := do
  match ← readU8 with
  | 0 => return false
  | 1 => return true
  | other => throw (.invalidMutability other)

/-- The reference type of a table or of an element segment. -/
def readReferenceType : Cursor Unit := do
  let referenceType ← readU8
  if referenceType ≠ 0x70 then throw (.invalidReferenceType referenceType)

def readLimits : Cursor Limits := do
  let flags ← readU8
  let min ← readU32
  match flags with
  | 0x00 => return { min, max := none }
  | 0x01 =>
      let max ← readU32
      return { min, max := some max }
  | _ => throw (.invalidLimitsFlags flags)

def readMemoryLimits : Cursor MemoryLimits := do
  let flags ← readU8
  if flags &&& ~~~ 0x05 ≠ 0 then
    throw (.invalidLimitsFlags flags)
  let memory64 := flags &&& 0x04 != 0
  let hasMaximum := flags &&& 0x01 != 0
  let readSize := if memory64 then readU64 else readU32
  let min ← readSize
  if hasMaximum then
    let max ← readSize
    return { min, max := some max, memory64 }
  else
    return { min, max := none, memory64 }

/-! ## Constant expressions -/

def readConstant : Cursor Constant := do
  match ← readU8 with
  | 0x41 => return .i32 (← readI32)
  | 0x42 => return .i64 (← readI64)
  | 0x43 => return .f32 (← readU32Le)
  | 0x44 => return .f64 (← readU64Le)
  | 0xd0 =>
      readReferenceType
      return .funcRef none
  | 0xd2 => return .funcRef (some (← readU32))
  | other => throw (.invalidConstExprOpcode other)

/-- The byte that ends a constant expression; a missing one is reported in the same way. -/
def readConstExprEnd : Cursor Unit := do
  let terminator ← Reader.item .constExprMissingEnd
  if terminator ≠ 0x0b then throw .constExprMissingEnd

def readConstExpr : Cursor Constant := do
  let value ← readConstant
  readConstExprEnd
  return value

def readI32ConstExpr : Cursor (BitVec 32) := do
  match ← readConstExpr with
  | .i32 value => return value
  | other => throw (.constExprTypeMismatch .i32 other.valueType)

end MiniWasm.Parser
