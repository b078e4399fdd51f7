import MiniWasm.Runtime.Float

/-!
# Vector lanes

A vector is a 128-bit value whose lane `i` of width `w` stands at bit `i * w`.  Here are its
lanes, its bytes, and the scalar operations of the float lanes.
-/

namespace MiniWasm.Runtime

abbrev Vector128 := BitVec 128

def lane (width : Nat) (vector : Vector128) (index : Nat) : BitVec width :=
  vector.extractLsb' (index * width) width

def fromLanes (width : Nat) (lanes : Nat → BitVec width) : Vector128 :=
  (List.range (128 / width)).foldl
    (fun vector index => vector ||| ((lanes index).zeroExtend 128 <<< (index * width))) 0

def replaceLane (width : Nat) (vector : Vector128) (index : Nat) (value : BitVec width) :
    Vector128 :=
  fromLanes width fun other => if other = index then value else lane width vector other

def splat (width : Nat) (value : BitVec width) : Vector128 :=
  fromLanes width fun _ => value

/-- A vector from its sixteen little-endian bytes. -/
def ofBytes (bytes : List UInt8) : Vector128 :=
  fromLanes 8 fun index => ((bytes[index]?).getD 0).toBitVec

def toBytes (vector : Vector128) : List UInt8 :=
  (List.range 16).map fun index => UInt8.ofBitVec (lane 8 vector index)

/-! ## Integer lanes -/

/-- The integer value of a lane. -/
def laneValue {width : Nat} (signed : Bool) (value : BitVec width) : Int :=
  if signed then value.toInt else value.toNat

/-- Widen half of the lanes; `start` is the first source lane. -/
def extendLanes (width : Nat) (signed : Bool) (start : Nat) (vector : Vector128) :
    Vector128 :=
  fromLanes (2 * width) fun index =>
    BitVec.ofInt (2 * width) (laneValue signed (lane width vector (start + index)))

/-! ## Float lanes -/

namespace FloatFormat

variable (format : FloatFormat)

def lift1 (operation : format.Carrier → format.Carrier) (bits : format.Bits) :
    format.Bits :=
  format.toBits (operation (format.ofBits bits))

/-- `round_ties_even_f32` and `round_ties_even_f64`. -/
def roundTiesEven (bits : format.Bits) : format.Bits :=
  let value := format.ofBits bits
  if format.isNan value || format.isInfinite value || format.isZero value then bits
  else
    let truncated := format.trunc value
    if format.eq (format.abs (format.sub value truncated)) format.half &&
        format.isEven truncated then
      format.toBits truncated
    else
      format.toBits (format.round value)

/-- `min` of the lane arms: NaN wins, and zeros join their signs. -/
def laneMin (lhsBits rhsBits : format.Bits) : format.Bits :=
  let lhs := format.ofBits lhsBits
  let rhs := format.ofBits rhsBits
  if format.isNan lhs || format.isNan rhs then format.canonicalNan
  else if format.isZero lhs && format.isZero rhs then lhsBits ||| rhsBits
  else if format.lt lhs rhs then lhsBits
  else rhsBits

def laneMax (lhsBits rhsBits : format.Bits) : format.Bits :=
  let lhs := format.ofBits lhsBits
  let rhs := format.ofBits rhsBits
  if format.isNan lhs || format.isNan rhs then format.canonicalNan
  else if format.isZero lhs && format.isZero rhs then lhsBits &&& rhsBits
  else if format.lt rhs lhs then lhsBits
  else rhsBits

/-- `min` of the relaxed `f32x4` arm, which keeps the left of two equal lanes. -/
def relaxedMin (lhsBits rhsBits : format.Bits) : format.Bits :=
  let lhs := format.ofBits lhsBits
  let rhs := format.ofBits rhsBits
  if format.isNan lhs || format.isNan rhs then format.canonicalNan
  else if format.eq lhs rhs then
    if format.isZero lhs then lhsBits ||| rhsBits else lhsBits
  else if format.lt lhs rhs then lhsBits
  else rhsBits

def relaxedMax (lhsBits rhsBits : format.Bits) : format.Bits :=
  let lhs := format.ofBits lhsBits
  let rhs := format.ofBits rhsBits
  if format.isNan lhs || format.isNan rhs then format.canonicalNan
  else if format.eq lhs rhs then
    if format.isZero lhs then lhsBits &&& rhsBits else lhsBits
  else if format.lt rhs lhs then lhsBits
  else rhsBits

def pseudoMin (lhsBits rhsBits : format.Bits) : format.Bits :=
  if format.lt (format.ofBits rhsBits) (format.ofBits lhsBits) then rhsBits else lhsBits

def pseudoMax (lhsBits rhsBits : format.Bits) : format.Bits :=
  if format.lt (format.ofBits lhsBits) (format.ofBits rhsBits) then rhsBits else lhsBits

/-- The unfused multiply-add of the relaxed arms. -/
def multiplyAdd (negate : Bool) (lhs rhs addend : format.Bits) : format.Bits :=
  let product := format.mul (format.ofBits lhs) (format.ofBits rhs)
  let product := if negate then format.neg product else product
  format.toBits (format.add product (format.ofBits addend))

/-- The binary arms from `add` to `pmax`. -/
def binaryLane (position : Nat) (lhs rhs : format.Bits) : format.Bits :=
  if position = 0 then format.lift format.add lhs rhs
  else if position = 1 then format.lift format.sub lhs rhs
  else if position = 2 then format.lift format.mul lhs rhs
  else if position = 3 then format.lift format.div lhs rhs
  else if position = 4 then format.laneMin lhs rhs
  else if position = 5 then format.laneMax lhs rhs
  else if position = 6 then format.pseudoMin lhs rhs
  else format.pseudoMax lhs rhs

end FloatFormat

end MiniWasm.Runtime
