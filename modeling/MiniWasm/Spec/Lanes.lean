import MiniWasm.Library.Integer
import MiniWasm.Runtime.Value
import MiniWasm.Runtime.Vector
import MiniWasm.Syntax

/-!
# Integer lane instructions

The vector instructions on integer lanes, by the functions of integers that they apply lane by
lane, and the table of their opcodes.
-/

namespace MiniWasm.Spec

open Library.Integer MiniWasm.Runtime

/-! ## Scalar functions -/

inductive Comparison where
  | eq
  | ne
  | lt
  | gt
  | le
  | ge
  deriving DecidableEq, Repr

def Comparison.holds : Comparison → Int → Int → Bool
  | .eq, left, right => left = right
  | .ne, left, right => left ≠ right
  | .lt, left, right => left < right
  | .gt, left, right => left > right
  | .le, left, right => left ≤ right
  | .ge, left, right => left ≥ right

/-- Functions of one lane. -/
inductive UnaryLane where
  | abs
  | neg
  | popcnt
  deriving DecidableEq, Repr

/-- Functions of two lanes. -/
inductive BinaryLane where
  | compare (comparison : Comparison) (signed : Bool)
  | add
  | sub
  | mul
  | addSat (signed : Bool)
  | subSat (signed : Bool)
  | min (signed : Bool)
  | max (signed : Bool)
  | avgr
  | q15mulrSat
  deriving DecidableEq, Repr

section Scalars

variable {width : Nat}

def UnaryLane.apply : UnaryLane → BitVec width → BitVec width
  | .abs, bits => .ofInt width (valueOf true bits).natAbs
  | .neg, bits => .ofInt width (-valueOf true bits)
  | .popcnt, bits => .ofNat width ((List.range width).countP bits.getLsbD)

def BinaryLane.apply : BinaryLane → BitVec width → BitVec width → BitVec width
  | .compare comparison signed, left, right =>
      if comparison.holds (valueOf signed left) (valueOf signed right) then .allOnes width else 0
  | .add, left, right => .ofInt width (valueOf true left + valueOf true right)
  | .sub, left, right => .ofInt width (valueOf true left - valueOf true right)
  | .mul, left, right => .ofInt width (valueOf true left * valueOf true right)
  | .addSat signed, left, right =>
      saturate signed width (valueOf signed left + valueOf signed right)
  | .subSat signed, left, right =>
      saturate signed width (valueOf signed left - valueOf signed right)
  | .min signed, left, right =>
      .ofInt width (Min.min (valueOf signed left) (valueOf signed right))
  | .max signed, left, right =>
      .ofInt width (Max.max (valueOf signed left) (valueOf signed right))
  | .avgr, left, right => .ofInt width ((valueOf false left + valueOf false right + 1) / 2)
  | .q15mulrSat, left, right =>
      saturate true width ((valueOf true left * valueOf true right + 2 ^ 14) / 2 ^ 15)

end Scalars

/-! ## Instructions -/

/-- The half of the lanes that an instruction reads. -/
inductive Half where
  | low
  | high
  deriving DecidableEq, Repr

/-- The first lane of a half. -/
def Half.start (width : Nat) : Half → Nat
  | .low => 0
  | .high => 64 / width

/-- The instructions on integer lanes, with the width of the lanes that they read. -/
inductive LaneInstruction where
  | splat (width : Nat)
  | extractLane (width : Nat) (signed : Bool)
  | replaceLane (width : Nat)
  | shuffle
  | swizzle
  | not
  | and
  | andnot
  | or
  | xor
  | bitselect
  | anyTrue
  | allTrue (width : Nat)
  | bitmask (width : Nat)
  | unary (width : Nat) (operation : UnaryLane)
  | binary (width : Nat) (operation : BinaryLane)
  | shl (width : Nat)
  | shr (width : Nat) (signed : Bool)
  | narrow (width : Nat) (signed : Bool)
  | extend (width : Nat) (signed : Bool) (half : Half)
  | extmul (width : Nat) (signed : Bool) (half : Half)
  | extaddPairwise (width : Nat) (signed : Bool)
  | dot
  | relaxedDot
  | relaxedDotAdd
  deriving DecidableEq, Repr

/-- The type of the scalar that holds a lane. -/
def scalarType (width : Nat) : ValueType :=
  if width = 64 then .i64 else .i32

/-- The type that the operands have, the first one lowest on the stack. -/
def LaneInstruction.operands : LaneInstruction → List ValueType
  | .splat width => [scalarType width]
  | .extractLane .. | .not | .anyTrue | .allTrue _ | .bitmask _ | .unary .. | .extend ..
  | .extaddPairwise .. => [.v128]
  | .replaceLane width => [.v128, scalarType width]
  | .shl _ | .shr .. => [.v128, .i32]
  | .bitselect | .relaxedDotAdd => [.v128, .v128, .v128]
  | .shuffle | .swizzle | .and | .andnot | .or | .xor | .binary .. | .narrow .. | .extmul ..
  | .dot | .relaxedDot => [.v128, .v128]

def LaneInstruction.result : LaneInstruction → ValueType
  | .extractLane width _ => scalarType width
  | .anyTrue | .allTrue _ | .bitmask _ => .i32
  | _ => .v128

/-! ## Meaning -/

section Meaning

variable (width : Nat) (signed : Bool)

/-- A lane as an integer. -/
def laneAt (vector : Vector128) (index : Nat) : Int :=
  valueOf signed (lane width vector index)

/-- The sum of the products of two adjacent signed lanes. -/
def pairProduct (lhs rhs : Vector128) (index : Nat) : Int :=
  laneAt width true lhs (2 * index) * laneAt width true rhs (2 * index) +
    laneAt width true lhs (2 * index + 1) * laneAt width true rhs (2 * index + 1)

/-- A scalar with the low bits of an integer. -/
def scalarOf (value : Int) : Value :=
  if width = 64 then .i64 (.ofInt 64 value) else .i32 (.ofInt 32 value)

/-- The bits of a scalar that a lane takes. -/
def laneOf : Value → Option (BitVec width)
  | .i32 bits => if width = 64 then none else some (.ofInt width (valueOf false bits))
  | .i64 bits => if width = 64 then some (.ofInt width (valueOf false bits)) else none
  | _ => none

/-- The lane of a selector, or nothing behind the last lane of the vectors. -/
def selected (vectors : List Vector128) (selector : Nat) : BitVec 8 :=
  match vectors[selector / 16]? with
  | some vector => lane 8 vector (selector % 16)
  | none => 0

/-- The `i32` whose bit `i` is set when lane `i` is negative. -/
def signBits (vector : Vector128) : BitVec 32 :=
  (BitVec.ofBoolListLE
    ((List.range (128 / width)).map fun index => laneAt width true vector index < 0)).setWidth 32

def truth (condition : Bool) : Value :=
  .i32 (if condition then 1 else 0)

/-- The result of an instruction, from its immediate and its operands. -/
def LaneInstruction.evaluate :
    LaneInstruction → SimdImmediate → List Value → Option Value
  | .splat width, .none, [scalar] => do
      let bits ← laneOf width scalar
      return .v128 (fromLanes width fun _ => bits)
  | .extractLane width signed, .lane index, [.v128 vector] =>
      some (scalarOf width (laneAt width signed vector index))
  | .replaceLane width, .lane index, [.v128 vector, scalar] => do
      let bits ← laneOf width scalar
      return .v128 (fromLanes width fun other =>
        if other = index then bits else lane width vector other)
  | .shuffle, .shuffle lanes, [.v128 lhs, .v128 rhs] =>
      some (.v128 (fromLanes 8 fun index =>
        selected [lhs, rhs] ((lanes[index]?).getD 0).toNat))
  | .swizzle, .none, [.v128 vector, .v128 selectors] =>
      some (.v128 (fromLanes 8 fun index => selected [vector] (lane 8 selectors index).toNat))
  | .not, .none, [.v128 vector] => some (.v128 (~~~vector))
  | .and, .none, [.v128 lhs, .v128 rhs] => some (.v128 (lhs &&& rhs))
  | .andnot, .none, [.v128 lhs, .v128 rhs] => some (.v128 (lhs &&& ~~~rhs))
  | .or, .none, [.v128 lhs, .v128 rhs] => some (.v128 (lhs ||| rhs))
  | .xor, .none, [.v128 lhs, .v128 rhs] => some (.v128 (lhs ^^^ rhs))
  | .bitselect, .none, [.v128 lhs, .v128 rhs, .v128 mask] =>
      some (.v128 ((lhs &&& mask) ||| (rhs &&& ~~~mask)))
  | .anyTrue, .none, [.v128 vector] => some (truth (vector ≠ 0))
  | .allTrue width, .none, [.v128 vector] =>
      some (truth (∀ index < 128 / width, lane width vector index ≠ 0))
  | .bitmask width, .none, [.v128 vector] => some (.i32 (signBits width vector))
  | .unary width operation, .none, [.v128 vector] =>
      some (.v128 (fromLanes width fun index => operation.apply (lane width vector index)))
  | .binary width operation, .none, [.v128 lhs, .v128 rhs] =>
      some (.v128 (fromLanes width fun index =>
        operation.apply (lane width lhs index) (lane width rhs index)))
  | .shl width, .none, [.v128 vector, .i32 amount] =>
      some (.v128 (fromLanes width fun index =>
        .ofInt width (laneAt width false vector index * 2 ^ (amount.toNat % width))))
  | .shr width signed, .none, [.v128 vector, .i32 amount] =>
      some (.v128 (fromLanes width fun index =>
        .ofInt width (laneAt width signed vector index / 2 ^ (amount.toNat % width))))
  | .narrow width signed, .none, [.v128 lhs, .v128 rhs] =>
      some (.v128 (fromLanes width fun index =>
        saturate signed width
          (if index < 64 / width then laneAt (2 * width) true lhs index
          else laneAt (2 * width) true rhs (index - 64 / width))))
  | .extend width signed half, .none, [.v128 vector] =>
      some (.v128 (fromLanes (2 * width) fun index =>
        .ofInt (2 * width) (laneAt width signed vector (half.start width + index))))
  | .extmul width signed half, .none, [.v128 lhs, .v128 rhs] =>
      some (.v128 (fromLanes (2 * width) fun index =>
        .ofInt (2 * width) (laneAt width signed lhs (half.start width + index) *
          laneAt width signed rhs (half.start width + index))))
  | .extaddPairwise width signed, .none, [.v128 vector] =>
      some (.v128 (fromLanes (2 * width) fun index =>
        .ofInt (2 * width) (laneAt width signed vector (2 * index) +
          laneAt width signed vector (2 * index + 1))))
  | .dot, .none, [.v128 lhs, .v128 rhs] =>
      some (.v128 (fromLanes 32 fun index => .ofInt 32 (pairProduct 16 lhs rhs index)))
  | .relaxedDot, .none, [.v128 lhs, .v128 rhs] =>
      some (.v128 (fromLanes 16 fun index => saturate true 16 (pairProduct 8 lhs rhs index)))
  | .relaxedDotAdd, .none, [.v128 lhs, .v128 rhs, .v128 addend] =>
      some (.v128 (fromLanes 32 fun index =>
        .ofInt 32 (valueOf true (saturate true 16 (pairProduct 8 lhs rhs (2 * index))) +
          valueOf true (saturate true 16 (pairProduct 8 lhs rhs (2 * index + 1))) +
          laneAt 32 true addend index)))
  | _, _, _ => none

end Meaning

/-! ## Opcodes -/

/-- Instructions with consecutive opcodes behind the prefix `0xfd`. -/
def numbered (first : Nat) (instructions : List LaneInstruction) :
    List (Nat × LaneInstruction) :=
  instructions.mapIdx fun position instr => (first + position, instr)

/-- The comparisons of the narrow lanes. -/
def comparisons (width : Nat) : List LaneInstruction :=
  [.binary width (.compare .eq true), .binary width (.compare .ne true),
   .binary width (.compare .lt true), .binary width (.compare .lt false),
   .binary width (.compare .gt true), .binary width (.compare .gt false),
   .binary width (.compare .le true), .binary width (.compare .le false),
   .binary width (.compare .ge true), .binary width (.compare .ge false)]

def shifts (width : Nat) : List LaneInstruction :=
  [.shl width, .shr width true, .shr width false]

/-- Additions and subtractions of the lanes that have saturating ones. -/
def additions (width : Nat) : List LaneInstruction :=
  [.binary width .add, .binary width (.addSat true), .binary width (.addSat false),
   .binary width .sub, .binary width (.subSat true), .binary width (.subSat false)]

def extrema (width : Nat) : List LaneInstruction :=
  [.binary width (.min true), .binary width (.min false),
   .binary width (.max true), .binary width (.max false)]

def extensions (width : Nat) : List LaneInstruction :=
  [.extend width true .low, .extend width true .high,
   .extend width false .low, .extend width false .high]

def multiplications (width : Nat) : List LaneInstruction :=
  [.extmul width true .low, .extmul width true .high,
   .extmul width false .low, .extmul width false .high]

/-! ### The table -/

def moveInstructions : List (Nat × LaneInstruction) :=
  numbered 13 [.shuffle, .swizzle, .splat 8, .splat 16, .splat 32, .splat 64] ++
  numbered 21 [.extractLane 8 true, .extractLane 8 false, .replaceLane 8,
    .extractLane 16 true, .extractLane 16 false, .replaceLane 16,
    .extractLane 32 true, .replaceLane 32, .extractLane 64 true, .replaceLane 64]

def comparisonInstructions : List (Nat × LaneInstruction) :=
  numbered 35 (comparisons 8) ++ numbered 45 (comparisons 16) ++ numbered 55 (comparisons 32) ++
  numbered 214 [.binary 64 (.compare .eq true), .binary 64 (.compare .ne true),
    .binary 64 (.compare .lt true), .binary 64 (.compare .gt true),
    .binary 64 (.compare .le true), .binary 64 (.compare .ge true)]

def bitwiseInstructions : List (Nat × LaneInstruction) :=
  numbered 77 [.not, .and, .andnot, .or, .xor, .bitselect, .anyTrue]

def i8x16Instructions : List (Nat × LaneInstruction) :=
  numbered 96 [.unary 8 .abs, .unary 8 .neg, .unary 8 .popcnt, .allTrue 8, .bitmask 8,
    .narrow 8 true, .narrow 8 false] ++
  numbered 107 (shifts 8) ++ numbered 110 (additions 8) ++ numbered 118 (extrema 8) ++
  numbered 123 [.binary 8 .avgr]

def i16x8Instructions : List (Nat × LaneInstruction) :=
  numbered 124 [.extaddPairwise 8 true, .extaddPairwise 8 false] ++
  numbered 128 [.unary 16 .abs, .unary 16 .neg, .binary 16 .q15mulrSat, .allTrue 16,
    .bitmask 16, .narrow 16 true, .narrow 16 false] ++
  numbered 135 (extensions 8) ++ numbered 139 (shifts 16) ++ numbered 142 (additions 16) ++
  numbered 149 [.binary 16 .mul] ++ numbered 150 (extrema 16) ++
  numbered 155 [.binary 16 .avgr] ++ numbered 156 (multiplications 8)

def i32x4Instructions : List (Nat × LaneInstruction) :=
  numbered 126 [.extaddPairwise 16 true, .extaddPairwise 16 false] ++
  numbered 160 [.unary 32 .abs, .unary 32 .neg] ++ numbered 163 [.allTrue 32, .bitmask 32] ++
  numbered 167 (extensions 16) ++ numbered 171 (shifts 32) ++
  [(174, .binary 32 .add), (177, .binary 32 .sub), (181, .binary 32 .mul)] ++
  numbered 182 (extrema 32) ++ numbered 186 [.dot] ++ numbered 188 (multiplications 16)

def i64x2Instructions : List (Nat × LaneInstruction) :=
  numbered 192 [.unary 64 .abs, .unary 64 .neg] ++ numbered 195 [.allTrue 64, .bitmask 64] ++
  numbered 199 (extensions 32) ++ numbered 203 (shifts 64) ++
  [(206, .binary 64 .add), (209, .binary 64 .sub), (213, .binary 64 .mul)] ++
  numbered 220 (multiplications 32)

def relaxedInstructions : List (Nat × LaneInstruction) :=
  numbered 256 [.swizzle] ++ numbered 265 [.bitselect, .bitselect, .bitselect, .bitselect] ++
  numbered 273 [.binary 16 .q15mulrSat, .relaxedDot, .relaxedDotAdd]

/-- The instructions on integer lanes and their opcodes. -/
def laneInstructions : List (Nat × LaneInstruction) :=
  moveInstructions ++ comparisonInstructions ++ bitwiseInstructions ++ i8x16Instructions ++
  i16x8Instructions ++ i32x4Instructions ++ i64x2Instructions ++ relaxedInstructions

end MiniWasm.Spec
