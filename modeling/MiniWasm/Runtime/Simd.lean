import MiniWasm.Library.Integer
import MiniWasm.Runtime.Memory

/-!
# The vector arms

The arms behind the prefix `0xfd` that leave the memory alone.  They work on the
sixteen bytes of their operands: a loop reads lanes at byte offsets, computes
with the integer types of the source and copies each output into a result that
was zero.  Whatever can panic on the way is checked.
-/

namespace MiniWasm.Runtime

open Library Library.Integer LinearMemory

/-! ## Lanes of byte arrays -/

/-- `from_le_bytes` of `bytes[start..start + width / 8]`. -/
def readLane (width : Nat) (bytes : List UInt8) (start : Nat) : Run (BitVec width) :=
  if start + width / 8 ≤ bytes.length then
    return .ofNat width (fromLeBytes ((bytes.drop start).take (width / 8)))
  else .error .panicked

/-- `bytes[start..start + width / 8].copy_from_slice(&value.to_le_bytes())`. -/
def writeLane {width : Nat} (bytes : List UInt8) (start : Nat) (value : BitVec width) :
    Run (List UInt8) :=
  if start + width / 8 ≤ bytes.length then
    return overwrite bytes start (toLeBytes (width / 8) value.toNat)
  else .error .panicked

/-- The outputs for the lanes below `count`, copied into `[0u8; 16]`. -/
def laneLoop {width : Nat} (count : Nat) (output : Nat → Run (BitVec width)) :
    Run Vector128 := do
  let result ← (List.range count).foldlM (fun (result : List UInt8) lane => do
    writeLane result (lane * (width / 8)) (← output lane)) (List.replicate 16 0)
  return ofBytes result

def mapLanes (width : Nat) (operation : BitVec width → Run (BitVec width))
    (value : Vector128) : Run Vector128 :=
  laneLoop (128 / width) fun lane => do
    operation (← readLane width (toBytes value) (lane * (width / 8)))

def zipLanes (width : Nat) (operation : BitVec width → BitVec width → Run (BitVec width))
    (lhs rhs : Vector128) : Run Vector128 :=
  laneLoop (128 / width) fun lane => do
    let lhsLane ← readLane width (toBytes lhs) (lane * (width / 8))
    let rhsLane ← readLane width (toBytes rhs) (lane * (width / 8))
    operation lhsLane rhsLane

def zipLanes3 (width : Nat)
    (operation : BitVec width → BitVec width → BitVec width → Run (BitVec width))
    (first second third : Vector128) : Run Vector128 :=
  laneLoop (128 / width) fun lane => do
    let firstLane ← readLane width (toBytes first) (lane * (width / 8))
    let secondLane ← readLane width (toBytes second) (lane * (width / 8))
    let thirdLane ← readLane width (toBytes third) (lane * (width / 8))
    operation firstLane secondLane thirdLane

/-! ## Arithmetic as the source writes it -/

def orPanic {α : Type} : Option α → Run α
  | some value => return value
  | none => .error .panicked

/-- `left + right`, which panics when it overflows. -/
def plainAdd {width : Nat} (signed : Bool) (left right : BitVec width) : Run (BitVec width) :=
  orPanic (exactAdd signed left right)

def plainMul {width : Nat} (signed : Bool) (left right : BitVec width) : Run (BitVec width) :=
  orPanic (exactMul signed left right)

/-- `value >> count`, which panics when the count is not below the width. -/
def plainShr {width : Nat} (signed : Bool) (value : BitVec width) (count : Nat) :
    Run (BitVec width) :=
  if count < width then return shiftRight signed value count else .error .panicked

def plainShl {width : Nat} (value : BitVec width) (count : Nat) : Run (BitVec width) :=
  if count < width then return value <<< count else .error .panicked

def wrappingShl {width : Nat} (value : BitVec width) (count : Nat) : BitVec width :=
  value <<< (count % width)

/-- Division that rounds up. -/
def divCeil {width : Nat} (value divisor : BitVec width) : BitVec width :=
  if 0 < value % divisor then value / divisor + 1 else value / divisor

/-- `clamp` to the range of a smaller type, and the conversion to it. -/
def clampTo {width : Nat} (signed : Bool) (smaller : Nat) (value : BitVec width) :
    BitVec smaller :=
  (clamp value (.ofInt width (lowest signed smaller))
    (.ofInt width (highest signed smaller))).truncate smaller

/-! ## Integer lanes -/

/-- Comparison lanes are all ones or all zeros. -/
def maskLane (width : Nat) (condition : Bool) : BitVec width :=
  if condition then BitVec.allOnes width else 0

/-- Comparisons of the narrow lanes, from `eq` to `ge_u`. -/
def compareLane {width : Nat} (position : Nat) (lhs rhs : BitVec width) : BitVec width :=
  maskLane width <|
    if position = 0 then lhs == rhs
    else if position = 1 then lhs != rhs
    else if position = 2 then lhs.slt rhs
    else if position = 3 then lhs.ult rhs
    else if position = 4 then rhs.slt lhs
    else if position = 5 then rhs.ult lhs
    else if position = 6 then lhs.sle rhs
    else if position = 7 then lhs.ule rhs
    else if position = 8 then rhs.sle lhs
    else rhs.ule lhs

/-- Comparisons of the 64-bit lanes, all signed. -/
def compareWideLane (position : Nat) (lhs rhs : BitVec 64) : BitVec 64 :=
  maskLane 64 <|
    if position = 0 then lhs == rhs
    else if position = 1 then lhs != rhs
    else if position = 2 then lhs.slt rhs
    else if position = 3 then rhs.slt lhs
    else if position = 4 then lhs.sle rhs
    else rhs.sle lhs

/-- The integer arithmetic arms of one lane width: `position` counts from the
opcode of the wrapping addition. -/
def arithmeticLane (width position : Nat) :
    Option (BitVec width → BitVec width → BitVec width) :=
  if position = 0 then some (· + ·)
  else if position = 1 then some (saturatingAdd true)
  else if position = 2 then some (saturatingAdd false)
  else if position = 3 then some (· - ·)
  else if position = 4 then some (saturatingSub true)
  else if position = 5 then some (saturatingSub false)
  else none

/-- `i8x16.avgr_u`. -/
def averageLane8 (lhs rhs : BitVec 8) : Run (BitVec 8) := do
  let sum ← plainAdd false (widen false 16 lhs) (widen false 16 rhs)
  return (divCeil sum 2).truncate 8

/-- `i16x8.avgr_u`. -/
def averageLane16 (lhs rhs : BitVec 16) : Run (BitVec 16) := do
  let sum ← plainAdd false (widen false 32 lhs) (widen false 32 rhs)
  return (← plainShr false (← plainAdd false sum 1) 1).truncate 16

/-- `q15mulr_sat_s`. -/
def multiplyQ15 (lhs rhs : BitVec 16) : Run (BitVec 16) := do
  let product ← plainMul true (widen true 32 lhs) (widen true 32 rhs)
  let rounded ← plainShr true (← plainAdd true product 0x4000) 15
  return clampTo true 16 rounded

def shiftLane {width : Nat} (position count : Nat) (value : BitVec width) :
    Run (BitVec width) :=
  if position = 0 then return wrappingShl value count
  else if position = 1 then plainShr true value count
  else plainShr false value count

/-- Shift all lanes; the mask keeps the low bits of the amount. -/
def shiftLanes (width : Nat) (mask : BitVec 32) (position : Nat) (value : Vector128)
    (amount : BitVec 32) : Run Vector128 :=
  mapLanes width (shiftLane position (amount &&& mask).toNat) value

/-- Narrow the lanes of two vectors, one behind the other, with saturation. -/
def narrowLanes (width : Nat) (signed : Bool) (lhs rhs : Vector128) : Run Vector128 :=
  let sources := toBytes lhs ++ toBytes rhs
  laneLoop (128 / width) fun lane => do
    let raw ← readLane (2 * width) sources (lane * (2 * width / 8))
    return clampTo signed width raw

/-- Widen the lanes of the low or the high eight bytes. -/
def extendHalf (width : Nat) (signed high : Bool) (value : Vector128) : Run Vector128 :=
  let source := if high then (toBytes value).drop 8 else (toBytes value).take 8
  laneLoop (64 / width) fun lane => do
    return widen signed (2 * width) (← readLane width source (lane * (width / 8)))

/-- Widen half of the lanes; `sourceStart` is the first source lane. -/
def extendFrom (width : Nat) (signed : Bool) (sourceStart : Nat) (value : Vector128) :
    Run Vector128 :=
  laneLoop (128 / (2 * width)) fun lane => do
    let raw ← readLane width (toBytes value) ((sourceStart + lane) * (width / 8))
    return widen signed (2 * width) raw

/-- Multiply half of the lanes into lanes of double width. -/
def multiplyExtended (width : Nat) (signed : Bool) (sourceStart : Nat)
    (lhs rhs : Vector128) : Run Vector128 :=
  laneLoop (128 / (2 * width)) fun lane => do
    let lhsRaw ← readLane width (toBytes lhs) ((sourceStart + lane) * (width / 8))
    let rhsRaw ← readLane width (toBytes rhs) ((sourceStart + lane) * (width / 8))
    plainMul signed (widen signed (2 * width) lhsRaw) (widen signed (2 * width) rhsRaw)

/-- Add adjacent lanes into lanes of double width. -/
def addPairwise (width : Nat) (signed : Bool) (value : Vector128) : Run Vector128 :=
  laneLoop (128 / (2 * width)) fun lane => do
    let sourceStart := lane * (2 * width / 8)
    let first ← readLane width (toBytes value) sourceStart
    let second ← readLane width (toBytes value) (sourceStart + width / 8)
    plainAdd signed (widen signed (2 * width) first) (widen signed (2 * width) second)

/-- `i32x4.dot_i16x8_s`. -/
def dotLanes (lhs rhs : Vector128) : Run Vector128 :=
  laneLoop 4 fun lane => do
    let start := lane * 4
    let lhsFirst ← readLane 16 (toBytes lhs) start
    let lhsSecond ← readLane 16 (toBytes lhs) (start + 2)
    let rhsFirst ← readLane 16 (toBytes rhs) start
    let rhsSecond ← readLane 16 (toBytes rhs) (start + 2)
    let firstProduct ← plainMul true (widen true 32 lhsFirst) (widen true 32 rhsFirst)
    let secondProduct ← plainMul true (widen true 32 lhsSecond) (widen true 32 rhsSecond)
    return firstProduct + secondProduct

/-- The saturated sum of the products of two adjacent signed bytes. -/
def pairDot (lhs rhs : Vector128) (byte : Nat) : Run (BitVec 16) := do
  let lhs0 := widen true 32 (← readLane 8 (toBytes lhs) byte)
  let lhs1 := widen true 32 (← readLane 8 (toBytes lhs) (byte + 1))
  let rhs0 := widen true 32 (← readLane 8 (toBytes rhs) byte)
  let rhs1 := widen true 32 (← readLane 8 (toBytes rhs) (byte + 1))
  let dot ← plainAdd true (← plainMul true lhs0 rhs0) (← plainMul true lhs1 rhs1)
  return clampTo true 16 dot

/-- One lane of the relaxed dot product with accumulation. -/
def dotAccumulate (lhs rhs addend : Vector128) (lane : Nat) : Run (BitVec 32) := do
  let byte := lane * 4
  let first ← pairDot lhs rhs byte
  let second ← pairDot lhs rhs (byte + 2)
  let dot ← plainAdd true (widen true 32 first) (widen true 32 second)
  return dot + (← readLane 32 (toBytes addend) byte)

def bitselect (lhs rhs mask : Vector128) : Run Vector128 :=
  zipLanes3 8 (fun lhs rhs mask => return (lhs &&& mask) ||| (rhs &&& ~~~mask)) lhs rhs mask

/-- Out-of-range selectors give zero. -/
def swizzle (input indices : Vector128) : Run Vector128 :=
  laneLoop 16 fun index => do
    let lane ← readLane 8 (toBytes indices) index
    if lane.toNat < 16 then readLane 8 (toBytes input) lane.toNat else return 0

def shuffle (lanes : List UInt8) (lhs rhs : Vector128) : Run Vector128 :=
  laneLoop 16 fun index => do
    let lane ← readLane 8 lanes index
    if lane.toNat < 16 then readLane 8 (toBytes lhs) lane.toNat
    else readLane 8 (toBytes rhs) (lane.toNat - 16)

def anyTrue (value : Vector128) : Bool :=
  (toBytes value).any (· != 0)

def allTrue (width : Nat) (value : Vector128) : Run Bool :=
  (List.range (128 / width)).allM fun lane => do
    return (← readLane width (toBytes value) (lane * (width / 8))) != 0

/-- The lanes that are negative, as bits. -/
def bitmask (width : Nat) (negative : BitVec width → Bool) (value : Vector128) :
    Run (BitVec 32) :=
  (List.range (128 / width)).foldlM (fun (mask : BitVec 32) lane => do
    if negative (← readLane width (toBytes value) (lane * (width / 8))) then
      return mask ||| (← plainShl 1 lane)
    else return mask) 0

/-! ## The tables -/

/-- Lanes that are converted one by one, the first ones of the result. -/
def convertLanes {source target : Nat} (count : Nat)
    (operation : BitVec source → BitVec target) (value : Vector128) : Run Vector128 :=
  laneLoop count fun lane => do
    return operation (← readLane source (toBytes value) (lane * (source / 8)))

def mapPure (width : Nat) (operation : BitVec width → BitVec width) :
    Vector128 → Run Vector128 :=
  mapLanes width fun value => return operation value

def zipPure (width : Nat) (operation : BitVec width → BitVec width → BitVec width) :
    Vector128 → Vector128 → Run Vector128 :=
  zipLanes width fun lhs rhs => return operation lhs rhs

def zipPure3 (width : Nat)
    (operation : BitVec width → BitVec width → BitVec width → BitVec width) :
    Vector128 → Vector128 → Vector128 → Run Vector128 :=
  zipLanes3 width fun first second third => return operation first second third

/-- Arms with one vector operand and a vector result. -/
def simdUnary (subopcode : Nat) : Option (Vector128 → Run Vector128) :=
  if subopcode = 77 then some (mapPure 8 (~~~ ·))
  else if subopcode = 94 then some (convertLanes 2 fun x => f32Bits (f64Value x).toFloat32)
  else if subopcode = 95 then some (convertLanes 2 fun x => f64Bits (f32Value x).toFloat)
  else if subopcode = 96 then some (mapPure 8 wrappingAbs)
  else if subopcode = 97 then some (mapPure 8 (- ·))
  else if subopcode = 98 then some (mapPure 8 BitVec.cpop)
  else if subopcode = 103 then some (mapPure 32 (f32Format.lift1 f32Format.ceil))
  else if subopcode = 104 then some (mapPure 32 (f32Format.lift1 f32Format.floor))
  else if subopcode = 105 then some (mapPure 32 (f32Format.lift1 f32Format.trunc))
  else if subopcode = 106 then some (mapPure 32 f32Format.roundTiesEven)
  else if subopcode = 116 then some (mapPure 64 (f64Format.lift1 f64Format.ceil))
  else if subopcode = 117 then some (mapPure 64 (f64Format.lift1 f64Format.floor))
  else if subopcode = 122 then some (mapPure 64 (f64Format.lift1 f64Format.trunc))
  else if subopcode = 148 then some (mapPure 64 f64Format.roundTiesEven)
  else if subopcode = 124 ∨ subopcode = 125 then some (addPairwise 8 (subopcode = 124))
  else if subopcode = 126 ∨ subopcode = 127 then some (addPairwise 16 (subopcode = 126))
  else if subopcode = 128 then some (mapPure 16 wrappingAbs)
  else if subopcode = 129 then some (mapPure 16 (- ·))
  else if 135 ≤ subopcode ∧ subopcode ≤ 138 then
    some (extendHalf 8 (subopcode ≤ 136) (subopcode ∉ [135, 137]))
  else if subopcode = 160 then some (mapPure 32 wrappingAbs)
  else if subopcode = 161 then some (mapPure 32 (- ·))
  else if 167 ≤ subopcode ∧ subopcode ≤ 170 then
    some (extendHalf 16 (subopcode ≤ 168) (subopcode ∉ [167, 169]))
  else if subopcode = 192 then some (mapPure 64 wrappingAbs)
  else if subopcode = 193 then some (mapPure 64 (- ·))
  else if 199 ≤ subopcode ∧ subopcode ≤ 202 then
    some (extendFrom 32 (subopcode ∈ [199, 200]) (if subopcode ∈ [199, 201] then 0 else 2))
  else if subopcode = 224 then some (mapPure 32 (· &&& 0x7fffffff))
  else if subopcode = 225 then some (mapPure 32 (· ^^^ 0x80000000))
  else if subopcode = 227 then some (mapPure 32 (f32Format.lift1 f32Format.sqrt))
  else if subopcode = 236 then some (mapPure 64 (· &&& 0x7fffffffffffffff))
  else if subopcode = 237 then some (mapPure 64 (· ^^^ 0x8000000000000000))
  else if subopcode = 239 then some (mapPure 64 (f64Format.lift1 f64Format.sqrt))
  else if subopcode = 248 ∨ subopcode = 257 then
    some (convertLanes 4 fun x => castI32 (f32Value x).toFloat)
  else if subopcode = 249 ∨ subopcode = 258 then
    some (convertLanes 4 fun x => castU32 (f32Value x).toFloat)
  else if subopcode = 250 then
    some (mapPure 32 fun x => f32Bits (Int32.ofBitVec x).toFloat32)
  else if subopcode = 251 then
    some (mapPure 32 fun x => f32Bits (UInt32.ofBitVec x).toFloat32)
  else if subopcode = 252 ∨ subopcode = 259 then
    some (convertLanes 2 fun x => castI32 (f64Value x))
  else if subopcode = 253 ∨ subopcode = 260 then
    some (convertLanes 2 fun x => castU32 (f64Value x))
  else if subopcode = 254 then
    some (convertLanes 2 fun x => f64Bits (Int32.ofBitVec x).toFloat)
  else if subopcode = 255 then
    some (convertLanes 2 fun x => f64Bits (UInt32.ofBitVec x).toFloat)
  else none

/-- Arms with two vector operands and a vector result. -/
def simdBinary (subopcode : Nat) : Option (Vector128 → Vector128 → Run Vector128) :=
  if subopcode = 14 ∨ subopcode = 256 then some swizzle
  else if 35 ≤ subopcode ∧ subopcode ≤ 44 then some (zipPure 8 (compareLane (subopcode - 35)))
  else if 45 ≤ subopcode ∧ subopcode ≤ 54 then some (zipPure 16 (compareLane (subopcode - 45)))
  else if 55 ≤ subopcode ∧ subopcode ≤ 64 then some (zipPure 32 (compareLane (subopcode - 55)))
  else if 214 ≤ subopcode ∧ subopcode ≤ 219 then
    some (zipPure 64 (compareWideLane (subopcode - 214)))
  else if subopcode = 78 then some (zipPure 8 (· &&& ·))
  else if subopcode = 79 then some (zipPure 8 fun lhs rhs => lhs &&& ~~~rhs)
  else if subopcode = 80 then some (zipPure 8 (· ||| ·))
  else if subopcode = 81 then some (zipPure 8 (· ^^^ ·))
  else if subopcode = 101 ∨ subopcode = 102 then some (narrowLanes 8 (subopcode = 101))
  else if subopcode = 133 ∨ subopcode = 134 then some (narrowLanes 16 (subopcode = 133))
  else if 110 ≤ subopcode ∧ subopcode ≤ 115 then
    (arithmeticLane 8 (subopcode - 110)).map (zipPure 8)
  else if subopcode = 118 ∨ subopcode = 119 then some (zipPure 8 (minimum (subopcode = 118)))
  else if subopcode = 120 ∨ subopcode = 121 then some (zipPure 8 (maximum (subopcode = 120)))
  else if subopcode = 123 then some (zipLanes 8 averageLane8)
  else if subopcode = 130 ∨ subopcode = 273 then some (zipLanes 16 multiplyQ15)
  else if 142 ≤ subopcode ∧ subopcode ≤ 147 then
    (arithmeticLane 16 (subopcode - 142)).map (zipPure 16)
  else if subopcode = 149 then some (zipPure 16 (· * ·))
  else if subopcode = 150 ∨ subopcode = 151 then some (zipPure 16 (minimum (subopcode = 150)))
  else if subopcode = 152 ∨ subopcode = 153 then some (zipPure 16 (maximum (subopcode = 152)))
  else if subopcode = 155 then some (zipLanes 16 averageLane16)
  else if 156 ≤ subopcode ∧ subopcode ≤ 159 then
    some (multiplyExtended 8 (subopcode ∈ [156, 157])
      (if subopcode ∈ [156, 158] then 0 else 8))
  else if subopcode = 174 then some (zipPure 32 (· + ·))
  else if subopcode = 177 then some (zipPure 32 (· - ·))
  else if subopcode = 181 then some (zipPure 32 (· * ·))
  else if subopcode = 182 ∨ subopcode = 183 then some (zipPure 32 (minimum (subopcode = 182)))
  else if subopcode = 184 ∨ subopcode = 185 then some (zipPure 32 (maximum (subopcode = 184)))
  else if subopcode = 186 then some dotLanes
  else if 188 ≤ subopcode ∧ subopcode ≤ 191 then
    some (multiplyExtended 16 (subopcode ∈ [188, 189])
      (if subopcode ∈ [188, 190] then 0 else 4))
  else if subopcode = 206 then some (zipPure 64 (· + ·))
  else if subopcode = 209 then some (zipPure 64 (· - ·))
  else if subopcode = 213 then some (zipPure 64 (· * ·))
  else if 220 ≤ subopcode ∧ subopcode ≤ 223 then
    some (multiplyExtended 32 (subopcode ∈ [220, 221])
      (if subopcode ∈ [220, 222] then 0 else 2))
  else if 228 ≤ subopcode ∧ subopcode ≤ 235 then
    some (zipPure 32 (f32Format.binaryLane (subopcode - 228)))
  else if 240 ≤ subopcode ∧ subopcode ≤ 247 then
    some (zipPure 64 (f64Format.binaryLane (subopcode - 240)))
  else if subopcode = 269 then some (zipPure 32 f32Format.relaxedMin)
  else if subopcode = 270 then some (zipPure 32 f32Format.relaxedMax)
  else if subopcode = 271 then some (zipPure 64 f64Format.laneMin)
  else if subopcode = 272 then some (zipPure 64 f64Format.laneMax)
  else if subopcode = 274 then
    some fun lhs rhs => laneLoop 8 fun lane => pairDot lhs rhs (lane * 2)
  else none

/-- Arms with three vector operands and a vector result. -/
def simdTernary (subopcode : Nat) :
    Option (Vector128 → Vector128 → Vector128 → Run Vector128) :=
  if subopcode = 82 ∨ 265 ≤ subopcode ∧ subopcode ≤ 268 then some bitselect
  else if subopcode = 261 then some (zipPure3 32 (f32Format.multiplyAdd false))
  else if subopcode = 262 then some (zipPure3 32 (f32Format.multiplyAdd true))
  else if subopcode = 263 then some (zipPure3 64 (f64Format.multiplyAdd false))
  else if subopcode = 264 then some (zipPure3 64 (f64Format.multiplyAdd true))
  else if subopcode = 275 then
    some fun lhs rhs addend => laneLoop 4 (dotAccumulate lhs rhs addend)
  else none

/-- Arms with a vector operand and a shift amount. -/
def simdShift (subopcode : Nat) : Option (Vector128 → BitVec 32 → Run Vector128) :=
  if 107 ≤ subopcode ∧ subopcode ≤ 109 then some (shiftLanes 8 7 (subopcode - 107))
  else if 139 ≤ subopcode ∧ subopcode ≤ 141 then some (shiftLanes 16 15 (subopcode - 139))
  else if 171 ≤ subopcode ∧ subopcode ≤ 173 then some (shiftLanes 32 31 (subopcode - 171))
  else if 203 ≤ subopcode ∧ subopcode ≤ 205 then some (shiftLanes 64 63 (subopcode - 203))
  else none

/-- `i32::from` of a condition. -/
def ofCondition (condition : Bool) : BitVec 32 :=
  if condition then 1 else 0

/-- Arms with one vector operand and an `i32` result. -/
def simdTest (subopcode : Nat) : Option (Vector128 → Run (BitVec 32)) :=
  if subopcode = 83 then some fun v => return ofCondition (anyTrue v)
  else if subopcode = 99 then some fun v => return ofCondition (← allTrue 8 v)
  else if subopcode = 100 then some (bitmask 8 fun byte => byte &&& 0x80 != 0)
  else if subopcode = 131 then some fun v => return ofCondition (← allTrue 16 v)
  else if subopcode = 132 then some (bitmask 16 (·.slt 0))
  else if subopcode = 163 then some fun v => return ofCondition (← allTrue 32 v)
  else if subopcode = 164 then some (bitmask 32 (·.slt 0))
  else if subopcode = 195 then some fun v => return ofCondition (← allTrue 64 v)
  else if subopcode = 196 then some (bitmask 64 (·.slt 0))
  else none

/-! ## Lane immediates -/

/-- The result of a splat: one lane copied into every chunk. -/
def splatLanes {width : Nat} (lane : BitVec width) : Run Vector128 :=
  laneLoop (128 / width) fun _ => return lane

/-- `extract_lane` of the bits of a lane. -/
def extractLane (width : Nat) (vector : Vector128) (index : Nat) : Run (BitVec width) :=
  readLane width (toBytes vector) (index * (width / 8))

/-- `replace_lane` with the bits of a lane. -/
def insertLane {width : Nat} (vector : Vector128) (index : Nat) (lane : BitVec width) :
    Run Vector128 := do
  return ofBytes (← writeLane (toBytes vector) (index * (width / 8)) lane)

end MiniWasm.Runtime
