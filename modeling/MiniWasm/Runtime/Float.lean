import Mathlib.Tactic.Common

/-!
# Floating-point helpers of the interpreter

The two formats share every helper, so the helpers are written once over a
`FloatFormat`, which carries the machine operations of one format.  Values are
bit patterns; the sign operations work on them directly.
-/

namespace MiniWasm.Runtime

/-- The machine operations of one floating-point format. -/
structure FloatFormat where
  width : Nat
  Carrier : Type
  ofBits : BitVec width → Carrier
  toBits : Carrier → BitVec width
  add : Carrier → Carrier → Carrier
  sub : Carrier → Carrier → Carrier
  mul : Carrier → Carrier → Carrier
  div : Carrier → Carrier → Carrier
  neg : Carrier → Carrier
  abs : Carrier → Carrier
  sqrt : Carrier → Carrier
  floor : Carrier → Carrier
  ceil : Carrier → Carrier
  round : Carrier → Carrier
  eq : Carrier → Carrier → Bool
  lt : Carrier → Carrier → Bool
  le : Carrier → Carrier → Bool
  isNan : Carrier → Bool
  isInfinite : Carrier → Bool
  /-- The nearest value to a natural number. -/
  ofNat : Nat → Carrier
  /-- From here on every value is an integer. -/
  integral : Carrier
  sign : BitVec width
  canonicalNan : BitVec width

def f32Format : FloatFormat where
  width := 32
  Carrier := Float32
  ofBits bits := Float32.ofBits (UInt32.ofBitVec bits)
  toBits value := value.toBits.toBitVec
  add := (· + ·)
  sub := (· - ·)
  mul := (· * ·)
  div := (· / ·)
  neg := (- ·)
  abs := Float32.abs
  sqrt := Float32.sqrt
  floor := Float32.floor
  ceil := Float32.ceil
  round := Float32.round
  eq := (· == ·)
  lt left right := left < right
  le left right := left ≤ right
  isNan := Float32.isNaN
  isInfinite := Float32.isInf
  ofNat := Float32.ofNat
  integral := 8388608.0
  sign := 0x80000000
  canonicalNan := 0x7fc00000

def f64Format : FloatFormat where
  width := 64
  Carrier := Float
  ofBits bits := Float.ofBits (UInt64.ofBitVec bits)
  toBits value := value.toBits.toBitVec
  add := (· + ·)
  sub := (· - ·)
  mul := (· * ·)
  div := (· / ·)
  neg := (- ·)
  abs := Float.abs
  sqrt := Float.sqrt
  floor := Float.floor
  ceil := Float.ceil
  round := Float.round
  eq := (· == ·)
  lt left right := left < right
  le left right := left ≤ right
  isNan := Float.isNaN
  isInfinite := Float.isInf
  ofNat := Float.ofNat
  integral := 4503599627370496.0
  sign := 0x8000000000000000
  canonicalNan := 0x7ff8000000000000

namespace FloatFormat

variable (format : FloatFormat)

abbrev Bits := BitVec format.width

def zero : format.Carrier :=
  format.ofNat 0

def half : format.Carrier :=
  format.div (format.ofNat 1) (format.ofNat 2)

def isZero (value : format.Carrier) : Bool :=
  format.eq value format.zero

def isSignNegative (value : format.Carrier) : Bool :=
  (format.toBits value).msb

def trunc (value : format.Carrier) : format.Carrier :=
  if format.lt value format.zero then format.ceil value else format.floor value

/-- `directed_f32` and `directed_f64`. -/
def directed (operation : format.Carrier → format.Carrier) (bits : format.Bits) :
    format.Bits :=
  let value := format.ofBits bits
  if format.isNan value then format.canonicalNan
  else if format.isInfinite value || format.isZero value then bits
  else
    let result := operation value
    if format.isZero result && format.isSignNegative value then format.sign
    else format.toBits result

/-- An integral value is even. -/
def isEven (value : format.Carrier) : Bool :=
  let half := format.trunc (format.div value (format.ofNat 2))
  format.eq (format.mul half (format.ofNat 2)) value

/-- `nearest_f32` and `nearest_f64`. -/
def nearest (bits : format.Bits) : format.Bits :=
  let value := format.ofBits bits
  if format.isNan value then format.canonicalNan
  else if format.isInfinite value || format.isZero value ||
      format.le format.integral (format.abs value) then
    bits
  else
    let lower := format.floor value
    let fraction := format.sub value lower
    let upper := format.add lower (format.ofNat 1)
    let result :=
      if format.lt fraction format.half then lower
      else if format.lt format.half fraction then upper
      else if format.isEven lower then lower
      else upper
    if format.isZero result && format.isSignNegative value then format.sign
    else format.toBits result

/-- `sqrt_f32` and `sqrt_f64`. -/
def squareRoot (bits : format.Bits) : format.Bits :=
  let value := format.ofBits bits
  if format.isNan value || format.lt value format.zero then format.canonicalNan
  else if format.isZero value || format.isInfinite value then bits
  else format.toBits (format.sqrt value)

/-- `min_f32` and `min_f64`. -/
def minimum (lhsBits rhsBits : format.Bits) : format.Bits :=
  let lhs := format.ofBits lhsBits
  let rhs := format.ofBits rhsBits
  if format.isNan lhs || format.isNan rhs then format.canonicalNan
  else if format.isZero lhs && format.isZero rhs then
    if format.isSignNegative lhs || format.isSignNegative rhs then format.sign else 0
  else if format.le lhs rhs then lhsBits
  else rhsBits

/-- `max_f32` and `max_f64`. -/
def maximum (lhsBits rhsBits : format.Bits) : format.Bits :=
  let lhs := format.ofBits lhsBits
  let rhs := format.ofBits rhsBits
  if format.isNan lhs || format.isNan rhs then format.canonicalNan
  else if format.isZero lhs && format.isZero rhs then
    if !format.isSignNegative lhs || !format.isSignNegative rhs then 0 else format.sign
  else if format.le rhs lhs then lhsBits
  else rhsBits

/-- An arithmetic operation on bit patterns. -/
def lift (operation : format.Carrier → format.Carrier → format.Carrier)
    (lhs rhs : format.Bits) : format.Bits :=
  format.toBits (operation (format.ofBits lhs) (format.ofBits rhs))

/-- `eval_unary_f32` and `eval_unary_f64`, by the position of the opcode in its
group. -/
def evalUnary (bits : format.Bits) (position : Nat) : Option format.Bits :=
  if position = 0 then some (bits &&& ~~~format.sign)
  else if position = 1 then some (bits ^^^ format.sign)
  else if position = 2 then some (format.directed format.ceil bits)
  else if position = 3 then some (format.directed format.floor bits)
  else if position = 4 then some (format.directed format.trunc bits)
  else if position = 5 then some (format.nearest bits)
  else if position = 6 then some (format.squareRoot bits)
  else none

/-- `eval_binary_f32` and `eval_binary_f64`. -/
def evalBinary (lhs rhs : format.Bits) (position : Nat) : Option format.Bits :=
  if position = 0 then some (format.lift format.add lhs rhs)
  else if position = 1 then some (format.lift format.sub lhs rhs)
  else if position = 2 then some (format.lift format.mul lhs rhs)
  else if position = 3 then some (format.lift format.div lhs rhs)
  else if position = 4 then some (format.minimum lhs rhs)
  else if position = 5 then some (format.maximum lhs rhs)
  else if position = 6 then some ((lhs &&& ~~~format.sign) ||| (rhs &&& format.sign))
  else none

/-- The relations of `compare_f32` and `compare_f64`. -/
def compare (lhsBits rhsBits : format.Bits) (position : Nat) : Option Bool :=
  let lhs := format.ofBits lhsBits
  let rhs := format.ofBits rhsBits
  if position = 0 then some (format.eq lhs rhs)
  else if position = 1 then some (!format.eq lhs rhs)
  else if position = 2 then some (format.lt lhs rhs)
  else if position = 3 then some (format.lt rhs lhs)
  else if position = 4 then some (format.le lhs rhs)
  else if position = 5 then some (format.le rhs lhs)
  else none

end FloatFormat

/-! ## Conversions between the formats and to integers -/

def f32Value (bits : BitVec 32) : Float32 :=
  f32Format.ofBits bits

def f64Value (bits : BitVec 64) : Float :=
  f64Format.ofBits bits

def f32Bits (value : Float32) : BitVec 32 :=
  f32Format.toBits value

def f64Bits (value : Float) : BitVec 64 :=
  f64Format.toBits value

/-- `value as i32`, which truncates and saturates; the other casts likewise. -/
def castI32 (value : Float) : BitVec 32 :=
  value.toInt32.toBitVec

def castU32 (value : Float) : BitVec 32 :=
  value.toUInt32.toBitVec

def castI64 (value : Float) : BitVec 64 :=
  value.toInt64.toBitVec

def castU64 (value : Float) : BitVec 64 :=
  value.toUInt64.toBitVec

end MiniWasm.Runtime
