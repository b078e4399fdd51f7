import Mathlib.Data.Nat.Bitwise
import MiniWasm.Parser.Module

/-!
# LEB128 integers

The variable-length integer decoders shared by the parser, the validator, the
control scanner and the interpreter.  Every decoder returns the value together
with the number of bytes it consumed.
-/

namespace MiniWasm

/-- The errors of the parser; the immediate decoders report three of them. -/
inductive ParseError where
  | unexpectedEof
  | invalidMagic (magic : List UInt8)
  | unsupportedVersion (version : List UInt8)
  | invalidLeb128
  | leb128Overflow
  | unsupportedSection (id : UInt8)
  | sectionOutOfOrder (previous current : UInt8)
  | duplicateSection (id : UInt8)
  | sectionLengthMismatch (id : UInt8)
  | invalidFunctionType (tag : UInt8)
  | unsupportedValueType (tag : UInt8)
  | invalidUtf8
  | invalidImportKind (kind : UInt8)
  | invalidExportKind (kind : UInt8)
  | invalidLimitsFlags (flags : UInt8)
  | invalidReferenceType (referenceType : UInt8)
  | invalidMutability (mutability : UInt8)
  | invalidElementKind (kind : UInt8)
  | unsupportedElementSegmentMode (mode : Nat)
  | unsupportedDataSegmentMode (mode : Nat)
  | invalidConstExprOpcode (opcode : UInt8)
  | constExprMissingEnd
  | constExprTypeMismatch (expected actual : ValueType)
  | functionBodyMissingEnd
  | functionCodeLengthMismatch (functions bodies : Nat)
  | dataCountMismatch (declared actual : Nat)
  deriving DecidableEq, Repr

/-- The part of a LEB128 byte that carries value bits. -/
def lebPayload (byte : UInt8) : Nat :=
  (byte &&& 0x7f).toNat

/-- Whether another LEB128 byte follows. -/
def lebContinues (byte : UInt8) : Bool :=
  byte &&& 0x80 != 0

/-- The loop of the unsigned decoders: `fuel` bytes may still be read, and the
payload of the last of them must not exceed `lastPayload`. -/
def decodeUnsigned (lastPayload : Nat) (input : List UInt8) :
    (fuel index result : Nat) → Except ParseError (Nat × Nat)
  | 0, _, _ => .error .invalidLeb128
  | fuel + 1, index, result =>
      match input[index]? with
      | none => .error .unexpectedEof
      | some byte =>
          let payload := lebPayload byte
          if fuel = 0 ∧ lastPayload < payload then
            .error .leb128Overflow
          else
            let result := result ||| payload <<< (index * 7)
            if lebContinues byte then
              decodeUnsigned lastPayload input fuel (index + 1) result
            else
              .ok (result, index + 1)

def decodeU32 (input : List UInt8) : Except ParseError (Nat × Nat) :=
  decodeUnsigned 0x0f input 5 0 0

def decodeU64 (input : List UInt8) : Except ParseError (Nat × Nat) :=
  decodeUnsigned 0x01 input 10 0 0

/-- Final step of the signed decoders: sign-extend from the last byte's bit 6
and require the value to lie in `[-bound, bound)`. -/
def finishSigned (bound : Int) (byte : UInt8) (result index : Nat) :
    Except ParseError (Int × Nat) :=
  let value : Int :=
    if byte &&& 0x40 != 0 then (result : Int) - 2 ^ ((index + 1) * 7) else result
  if -bound ≤ value ∧ value < bound then
    .ok (value, index + 1)
  else
    .error .leb128Overflow

/-- The loop of the signed decoders.  The bits of a full-length encoding's last
byte that `unusedBits` selects must be all zeros or all ones. -/
def decodeSigned (unusedBits : UInt8) (bound : Int) (input : List UInt8) :
    (fuel index result : Nat) → Except ParseError (Int × Nat)
  | 0, _, _ => .error .invalidLeb128
  | fuel + 1, index, result =>
      match input[index]? with
      | none => .error .unexpectedEof
      | some byte =>
          let result := result ||| lebPayload byte <<< (index * 7)
          if lebContinues byte then
            decodeSigned unusedBits bound input fuel (index + 1) result
          else
            let unused := byte &&& unusedBits
            if fuel = 0 ∧ unused ≠ 0 ∧ unused ≠ unusedBits then
              .error .leb128Overflow
            else
              finishSigned bound byte result index

def decodeI32 (input : List UInt8) : Except ParseError (Int × Nat) :=
  decodeSigned 0x70 (2 ^ 31) input 5 0 0

def decodeI64 (input : List UInt8) : Except ParseError (Int × Nat) :=
  decodeSigned 0x7e (2 ^ 63) input 10 0 0

/-- Signed 33-bit values, used by block types. -/
def decodeS33 (input : List UInt8) : Except ParseError (Int × Nat) :=
  decodeSigned 0x60 (2 ^ 32) input 5 0 0

example : decodeU32 [0xe5, 0x8e, 0x26] = .ok (624485, 3) := by decide

/-! ## Consumed lengths -/

end MiniWasm
