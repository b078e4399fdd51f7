import MiniWasm.Runtime.Float
import MiniWasm.Runtime.Value

/-!
# Numeric instructions

The comparisons, arithmetic, conversions and sign extensions `0x45 ..= 0xc4` and
the saturating truncations.  The 32-bit and 64-bit groups list the same
operations in the same order, so each group is one table applied to the position
of the opcode in the group.
-/

namespace MiniWasm.Runtime

def ofBool (condition : Bool) : Value :=
  .i32 (if condition then 1 else 0)

/-! ## Integers -/

/-- Relations of `compare_i32` and `compare_i64`, from `eq` to `ge_u`. -/
def compareInteger {width : Nat} (lhs rhs : BitVec width) (position : Nat) :
    Option Bool :=
  if position = 0 then some (lhs == rhs)
  else if position = 1 then some (lhs != rhs)
  else if position = 2 then some (lhs.slt rhs)
  else if position = 3 then some (lhs.ult rhs)
  else if position = 4 then some (rhs.slt lhs)
  else if position = 5 then some (rhs.ult lhs)
  else if position = 6 then some (lhs.sle rhs)
  else if position = 7 then some (lhs.ule rhs)
  else if position = 8 then some (rhs.sle lhs)
  else if position = 9 then some (rhs.ule lhs)
  else none

/-- Operations of `eval_i32` and `eval_i64`, from `add` to `rotr`. -/
def evalInteger {width : Nat} (lhs rhs : BitVec width) (opcode position : Nat) :
    Run (BitVec width) :=
  let shift := rhs.toNat % width
  if position = 0 then .ok (lhs + rhs)
  else if position = 1 then .ok (lhs - rhs)
  else if position = 2 then .ok (lhs * rhs)
  else if position = 3 then
    if rhs = 0 then .error .integerDivisionByZero
    else if lhs = BitVec.intMin width ∧ rhs = -1 then .error .integerOverflow
    else .ok (lhs.sdiv rhs)
  else if position = 4 then
    if rhs = 0 then .error .integerDivisionByZero else .ok (lhs.udiv rhs)
  else if position = 5 then
    if rhs = 0 then .error .integerDivisionByZero
    else if lhs = BitVec.intMin width ∧ rhs = -1 then .ok 0
    else .ok (lhs.srem rhs)
  else if position = 6 then
    if rhs = 0 then .error .integerDivisionByZero else .ok (lhs.umod rhs)
  else if position = 7 then .ok (lhs &&& rhs)
  else if position = 8 then .ok (lhs ||| rhs)
  else if position = 9 then .ok (lhs ^^^ rhs)
  else if position = 10 then .ok (lhs <<< shift)
  else if position = 11 then .ok (lhs.sshiftRight shift)
  else if position = 12 then .ok (lhs >>> shift)
  else if position = 13 then .ok (lhs.rotateLeft shift)
  else if position = 14 then .ok (lhs.rotateRight shift)
  else .error (.unsupportedOpcode opcode)

/-- The result of a table lookup that the opcode ranges make total. -/
def supported {α : Type} (opcode : Nat) (result : Option α) : Run α :=
  match result with
  | some value => .ok value
  | none => .error (.unsupportedOpcode opcode)

def compareI32 (stack : Stack) (opcode : Nat) : Run Stack :=
  if opcode = 0x45 then do
    let (value, stack) ← i32FromStack stack
    return ofBool (value == 0) :: stack
  else do
    let (rhs, stack) ← i32FromStack stack
    let (lhs, stack) ← i32FromStack stack
    let result ← supported opcode (compareInteger lhs rhs (opcode - 0x46))
    return ofBool result :: stack

def compareI64 (stack : Stack) (opcode : Nat) : Run Stack :=
  if opcode = 0x50 then do
    let (value, stack) ← i64FromStack stack
    return ofBool (value == 0) :: stack
  else do
    let (rhs, stack) ← i64FromStack stack
    let (lhs, stack) ← i64FromStack stack
    let result ← supported opcode (compareInteger lhs rhs (opcode - 0x51))
    return ofBool result :: stack

def unaryInteger (stack : Stack) (opcode : Nat) : Run Stack :=
  if opcode = 0x67 then do
    let (value, stack) ← i32FromStack stack
    return .i32 value.clz :: stack
  else if opcode = 0x68 then do
    let (value, stack) ← i32FromStack stack
    return .i32 value.ctz :: stack
  else if opcode = 0x69 then do
    let (value, stack) ← i32FromStack stack
    return .i32 value.cpop :: stack
  else if opcode = 0x79 then do
    let (value, stack) ← i64FromStack stack
    return .i64 value.clz :: stack
  else if opcode = 0x7a then do
    let (value, stack) ← i64FromStack stack
    return .i64 value.ctz :: stack
  else if opcode = 0x7b then do
    let (value, stack) ← i64FromStack stack
    return .i64 value.cpop :: stack
  else
    .error (.unsupportedOpcode opcode)

def binaryInteger (stack : Stack) (opcode : Nat) : Run Stack :=
  if 0x6a ≤ opcode ∧ opcode ≤ 0x78 then do
    let (rhs, stack) ← i32FromStack stack
    let (lhs, stack) ← i32FromStack stack
    let value ← evalInteger lhs rhs opcode (opcode - 0x6a)
    return .i32 value :: stack
  else if 0x7c ≤ opcode ∧ opcode ≤ 0x8a then do
    let (rhs, stack) ← i64FromStack stack
    let (lhs, stack) ← i64FromStack stack
    let value ← evalInteger lhs rhs opcode (opcode - 0x7c)
    return .i64 value :: stack
  else
    .error (.unsupportedOpcode opcode)

/-- Sign extension from the low `from` bits. -/
def signExtendFrom {width : Nat} (low : Nat) (value : BitVec width) : BitVec width :=
  (value.truncate low).signExtend width

def signExtend (stack : Stack) (opcode : Nat) : Run Stack :=
  if opcode = 0xc0 then do
    let (value, stack) ← i32FromStack stack
    return .i32 (signExtendFrom 8 value) :: stack
  else if opcode = 0xc1 then do
    let (value, stack) ← i32FromStack stack
    return .i32 (signExtendFrom 16 value) :: stack
  else if opcode = 0xc2 then do
    let (value, stack) ← i64FromStack stack
    return .i64 (signExtendFrom 8 value) :: stack
  else if opcode = 0xc3 then do
    let (value, stack) ← i64FromStack stack
    return .i64 (signExtendFrom 16 value) :: stack
  else if opcode = 0xc4 then do
    let (value, stack) ← i64FromStack stack
    return .i64 (signExtendFrom 32 value) :: stack
  else
    .error (.unsupportedOpcode opcode)

/-! ## Floats -/

def compareF32 (stack : Stack) (opcode : Nat) : Run Stack := do
  let (rhs, stack) ← f32FromStack stack
  let (lhs, stack) ← f32FromStack stack
  let result ← supported opcode (f32Format.compare lhs rhs (opcode - 0x5b))
  return ofBool result :: stack

def compareF64 (stack : Stack) (opcode : Nat) : Run Stack := do
  let (rhs, stack) ← f64FromStack stack
  let (lhs, stack) ← f64FromStack stack
  let result ← supported opcode (f64Format.compare lhs rhs (opcode - 0x61))
  return ofBool result :: stack

def unaryFloat (stack : Stack) (opcode : Nat) : Run Stack :=
  if 0x8b ≤ opcode ∧ opcode ≤ 0x91 then do
    let (value, stack) ← f32FromStack stack
    let result ← supported opcode (f32Format.evalUnary value (opcode - 0x8b))
    return .f32 result :: stack
  else if 0x99 ≤ opcode ∧ opcode ≤ 0x9f then do
    let (value, stack) ← f64FromStack stack
    let result ← supported opcode (f64Format.evalUnary value (opcode - 0x99))
    return .f64 result :: stack
  else
    .error (.unsupportedOpcode opcode)

def binaryFloat (stack : Stack) (opcode : Nat) : Run Stack :=
  if 0x92 ≤ opcode ∧ opcode ≤ 0x98 then do
    let (rhs, stack) ← f32FromStack stack
    let (lhs, stack) ← f32FromStack stack
    let result ← supported opcode (f32Format.evalBinary lhs rhs (opcode - 0x92))
    return .f32 result :: stack
  else if 0xa0 ≤ opcode ∧ opcode ≤ 0xa6 then do
    let (rhs, stack) ← f64FromStack stack
    let (lhs, stack) ← f64FromStack stack
    let result ← supported opcode (f64Format.evalBinary lhs rhs (opcode - 0xa0))
    return .f64 result :: stack
  else
    .error (.unsupportedOpcode opcode)

/-! ## Conversions -/

def truncToI32 (value : Float) (signed : Bool) : Run (BitVec 32) :=
  if value.isNaN then
    .error .invalidConversionToInteger
  else if !value.isFinite then
    .error .integerOverflow
  else
    let value : Float := f64Format.trunc value
    if signed then
      if -2147483648.0 ≤ value ∧ value < 2147483648.0 then .ok (castI32 value)
      else .error .integerOverflow
    else
      if 0.0 ≤ value ∧ value < 4294967296.0 then .ok (castU32 value)
      else .error .integerOverflow

def truncToI64 (value : Float) (signed : Bool) : Run (BitVec 64) :=
  if value.isNaN then
    .error .invalidConversionToInteger
  else if !value.isFinite then
    .error .integerOverflow
  else
    let value : Float := f64Format.trunc value
    if signed then
      if -9223372036854775808.0 ≤ value ∧ value < 9223372036854775808.0 then
        .ok (castI64 value)
      else .error .integerOverflow
    else
      if 0.0 ≤ value ∧ value < 18446744073709551616.0 then .ok (castU64 value)
      else .error .integerOverflow

/-- Pop an `f32` operand, widened. -/
def widenedF32FromStack (stack : Stack) : Run (Float × Stack) := do
  let (bits, stack) ← f32FromStack stack
  return ((f32Value bits).toFloat, stack)

def floatFromStack (stack : Stack) : Run (Float × Stack) := do
  let (bits, stack) ← f64FromStack stack
  return (f64Value bits, stack)

/-- Conversions whose result is an `i32`. -/
def convertToI32 (stack : Stack) (opcode : Nat) : Run Stack :=
  if opcode = 0xa7 then do
    let (value, stack) ← i64FromStack stack
    return .i32 (value.truncate 32) :: stack
  else if opcode = 0xa8 ∨ opcode = 0xa9 then do
    let (value, stack) ← widenedF32FromStack stack
    return .i32 (← truncToI32 value (opcode = 0xa8)) :: stack
  else do
    let (value, stack) ← floatFromStack stack
    return .i32 (← truncToI32 value (opcode = 0xaa)) :: stack

/-- Conversions whose result is an `i64`. -/
def convertToI64 (stack : Stack) (opcode : Nat) : Run Stack :=
  if opcode = 0xac then do
    let (value, stack) ← i32FromStack stack
    return .i64 (value.signExtend 64) :: stack
  else if opcode = 0xad then do
    let (value, stack) ← i32FromStack stack
    return .i64 (value.zeroExtend 64) :: stack
  else if opcode = 0xae ∨ opcode = 0xaf then do
    let (value, stack) ← widenedF32FromStack stack
    return .i64 (← truncToI64 value (opcode = 0xae)) :: stack
  else do
    let (value, stack) ← floatFromStack stack
    return .i64 (← truncToI64 value (opcode = 0xb0)) :: stack

/-- Conversions whose result is a float, and the reinterpretations. -/
def convertToFloat (stack : Stack) (opcode : Nat) : Run Stack :=
  if opcode = 0xb2 then do
    let (value, stack) ← i32FromStack stack
    return .f32 (f32Bits (Int32.ofBitVec value).toFloat32) :: stack
  else if opcode = 0xb3 then do
    let (value, stack) ← i32FromStack stack
    return .f32 (f32Bits (UInt32.ofBitVec value).toFloat32) :: stack
  else if opcode = 0xb4 then do
    let (value, stack) ← i64FromStack stack
    return .f32 (f32Bits (Int64.ofBitVec value).toFloat32) :: stack
  else if opcode = 0xb5 then do
    let (value, stack) ← i64FromStack stack
    return .f32 (f32Bits (UInt64.ofBitVec value).toFloat32) :: stack
  else if opcode = 0xb6 then do
    let (value, stack) ← f64FromStack stack
    return .f32 (f32Bits (f64Value value).toFloat32) :: stack
  else if opcode = 0xb7 then do
    let (value, stack) ← i32FromStack stack
    return .f64 (f64Bits (Int32.ofBitVec value).toFloat) :: stack
  else if opcode = 0xb8 then do
    let (value, stack) ← i32FromStack stack
    return .f64 (f64Bits (UInt32.ofBitVec value).toFloat) :: stack
  else if opcode = 0xb9 then do
    let (value, stack) ← i64FromStack stack
    return .f64 (f64Bits (Int64.ofBitVec value).toFloat) :: stack
  else if opcode = 0xba then do
    let (value, stack) ← i64FromStack stack
    return .f64 (f64Bits (UInt64.ofBitVec value).toFloat) :: stack
  else if opcode = 0xbb then do
    let (value, stack) ← f32FromStack stack
    return .f64 (f64Bits (f32Value value).toFloat) :: stack
  else if opcode = 0xbc then do
    let (value, stack) ← f32FromStack stack
    return .i32 value :: stack
  else if opcode = 0xbd then do
    let (value, stack) ← f64FromStack stack
    return .i64 value :: stack
  else if opcode = 0xbe then do
    let (value, stack) ← i32FromStack stack
    return .f32 value :: stack
  else if opcode = 0xbf then do
    let (value, stack) ← i64FromStack stack
    return .f64 value :: stack
  else
    .error (.unsupportedOpcode opcode)

def convert (stack : Stack) (opcode : Nat) : Run Stack :=
  if 0xa7 ≤ opcode ∧ opcode ≤ 0xab then convertToI32 stack opcode
  else if 0xac ≤ opcode ∧ opcode ≤ 0xb1 then convertToI64 stack opcode
  else convertToFloat stack opcode

def truncSatI32 (value : Float) (signed : Bool) : BitVec 32 :=
  if value.isNaN then 0
  else
    let value : Float := f64Format.trunc value
    if signed then
      if value ≤ -2147483648.0 then BitVec.intMin 32
      else if 2147483648.0 ≤ value then BitVec.intMax 32
      else castI32 value
    else
      if value ≤ 0.0 then 0
      else if 4294967296.0 ≤ value then -1
      else castU32 value

def truncSatI64 (value : Float) (signed : Bool) : BitVec 64 :=
  if value.isNaN then 0
  else
    let value : Float := f64Format.trunc value
    if signed then
      if value ≤ -9223372036854775808.0 then BitVec.intMin 64
      else if 9223372036854775808.0 ≤ value then BitVec.intMax 64
      else castI64 value
    else
      if value ≤ 0.0 then 0
      else if 18446744073709551616.0 ≤ value then -1
      else castU64 value

def truncSat (stack : Stack) (subopcode : Nat) : Run Stack :=
  if subopcode = 0 ∨ subopcode = 1 then do
    let (value, stack) ← widenedF32FromStack stack
    return .i32 (truncSatI32 value (subopcode = 0)) :: stack
  else if subopcode = 2 ∨ subopcode = 3 then do
    let (value, stack) ← floatFromStack stack
    return .i32 (truncSatI32 value (subopcode = 2)) :: stack
  else if subopcode = 4 ∨ subopcode = 5 then do
    let (value, stack) ← widenedF32FromStack stack
    return .i64 (truncSatI64 value (subopcode = 4)) :: stack
  else if subopcode = 6 ∨ subopcode = 7 then do
    let (value, stack) ← floatFromStack stack
    return .i64 (truncSatI64 value (subopcode = 6)) :: stack
  else
    .error (.unsupportedPrefixedOpcode 0xfc subopcode)

/-- The dispatch over `0x45 ..= 0xc4`. -/
def executeNumeric (stack : Stack) (opcode : Nat) : Run Stack :=
  if 0x45 ≤ opcode ∧ opcode ≤ 0x4f then compareI32 stack opcode
  else if 0x50 ≤ opcode ∧ opcode ≤ 0x5a then compareI64 stack opcode
  else if 0x5b ≤ opcode ∧ opcode ≤ 0x60 then compareF32 stack opcode
  else if 0x61 ≤ opcode ∧ opcode ≤ 0x66 then compareF64 stack opcode
  else if 0x67 ≤ opcode ∧ opcode ≤ 0x69 then unaryInteger stack opcode
  else if 0x6a ≤ opcode ∧ opcode ≤ 0x78 then binaryInteger stack opcode
  else if 0x79 ≤ opcode ∧ opcode ≤ 0x7b then unaryInteger stack opcode
  else if 0x7c ≤ opcode ∧ opcode ≤ 0x8a then binaryInteger stack opcode
  else if 0x8b ≤ opcode ∧ opcode ≤ 0x91 ∨ 0x99 ≤ opcode ∧ opcode ≤ 0x9f then
    unaryFloat stack opcode
  else if 0x92 ≤ opcode ∧ opcode ≤ 0x98 ∨ 0xa0 ≤ opcode ∧ opcode ≤ 0xa6 then
    binaryFloat stack opcode
  else if 0xa7 ≤ opcode ∧ opcode ≤ 0xbf then convert stack opcode
  else if 0xc0 ≤ opcode ∧ opcode ≤ 0xc4 then signExtend stack opcode
  else .error (.unsupportedOpcode opcode)

end MiniWasm.Runtime
