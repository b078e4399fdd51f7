import Mathlib.Algebra.Group.Int.Defs
import Mathlib.Algebra.Group.Nat.Defs
import Mathlib.Order.MinMax
import Mathlib.Tactic.Common

/-!
# Fixed-width integers

The operations of machine integers, which wrap around, saturate or report an overflow, and what
each of them computes as a function of integers.
-/

namespace MiniWasm.Library.Integer

variable {width : Nat}

/-! ## The integers that bits stand for -/

def valueOf (signed : Bool) (bits : BitVec width) : Int :=
  if signed then bits.toInt else bits.toNat

def lowest (signed : Bool) (width : Nat) : Int :=
  if signed then -2 ^ (width - 1) else 0

def highest (signed : Bool) (width : Nat) : Int :=
  if signed then 2 ^ (width - 1) - 1 else 2 ^ width - 1

/-- The integer nearest to a value for which the width has room. -/
def saturate (signed : Bool) (width : Nat) (value : Int) : BitVec width :=
  BitVec.ofInt width (max (lowest signed width) (min value (highest signed width)))

theorem lowest_le_valueOf (signed : Bool) (bits : BitVec width) :
    lowest signed width ≤ valueOf signed bits := by
  cases signed with
  | true => exact bits.le_toInt
  | false => exact Int.natCast_nonneg _

theorem valueOf_le_highest (signed : Bool) (bits : BitVec width) :
    valueOf signed bits ≤ highest signed width := by
  cases signed with
  | true => exact BitVec.toInt_le
  | false =>
    have small := bits.isLt
    have power : ((2 ^ width : Nat) : Int) = 2 ^ width := Int.natCast_pow 2 width
    show (bits.toNat : Int) ≤ 2 ^ width - 1
    omega

theorem lowest_add_highest (width : Nat) : lowest true width + highest true width = -1 := by
  show -2 ^ (width - 1) + (2 ^ (width - 1) - 1) = (-1 : Int)
  omega

theorem lowest_le_highest (signed : Bool) (width : Nat) :
    lowest signed width ≤ highest signed width :=
  (lowest_le_valueOf signed (0 : BitVec width)).trans (valueOf_le_highest signed 0)

@[simp] theorem ofInt_valueOf (signed : Bool) (bits : BitVec width) :
    BitVec.ofInt width (valueOf signed bits) = bits := by
  cases signed with
  | true => exact BitVec.ofInt_toInt
  | false => simp [valueOf]

theorem valueOf_ofInt {signed : Bool} (positive : 0 < width) {value : Int}
    (above : lowest signed width ≤ value) (below : value ≤ highest signed width) :
    valueOf signed (BitVec.ofInt width value) = value := by
  cases signed with
  | true =>
    have below : value ≤ 2 ^ (width - 1) - 1 := below
    exact BitVec.toInt_ofInt_eq_self positive above (by omega)
  | false =>
    have above : 0 ≤ value := above
    have below : value ≤ 2 ^ width - 1 := below
    show ((BitVec.ofInt width value).toNat : Int) = value
    have power : ((2 ^ width : Nat) : Int) = 2 ^ width := Int.natCast_pow 2 width
    rw [BitVec.toNat_ofInt, power, Int.emod_eq_of_lt above (by omega), Int.toNat_of_nonneg above]

/-! ## Operations that wrap around -/

theorem add_eq (signed : Bool) (left right : BitVec width) :
    left + right = BitVec.ofInt width (valueOf signed left + valueOf signed right) := by
  rw [BitVec.ofInt_add, ofInt_valueOf, ofInt_valueOf]

theorem sub_eq (signed : Bool) (left right : BitVec width) :
    left - right = BitVec.ofInt width (valueOf signed left - valueOf signed right) := by
  rw [Int.sub_eq_add_neg, BitVec.ofInt_add, BitVec.ofInt_neg, ofInt_valueOf, ofInt_valueOf,
    BitVec.sub_eq_add_neg]

theorem mul_eq (signed : Bool) (left right : BitVec width) :
    left * right = BitVec.ofInt width (valueOf signed left * valueOf signed right) := by
  rw [BitVec.ofInt_mul, ofInt_valueOf, ofInt_valueOf]

theorem neg_eq (signed : Bool) (bits : BitVec width) :
    -bits = BitVec.ofInt width (-valueOf signed bits) := by
  rw [BitVec.ofInt_neg, ofInt_valueOf]

/-- The absolute value of a signed integer; the lowest one stays as it is. -/
def wrappingAbs (bits : BitVec width) : BitVec width :=
  if bits.slt 0 then -bits else bits

theorem wrappingAbs_eq (bits : BitVec width) :
    wrappingAbs bits = BitVec.ofInt width (valueOf true bits).natAbs := by
  unfold wrappingAbs
  split_ifs with negative
  · have below : valueOf true bits < 0 := by
      simpa [valueOf] using BitVec.slt_iff_toInt_lt.mp negative
    rw [neg_eq true, Int.ofNat_natAbs_of_nonpos below.le]
  · have above : 0 ≤ valueOf true bits := by
      have notBelow := mt BitVec.slt_iff_toInt_lt.mpr negative
      simpa [valueOf] using notBelow
    rw [Int.natAbs_of_nonneg above, ofInt_valueOf]

/-! ## Comparisons -/

def less (signed : Bool) (left right : BitVec width) : Bool :=
  if signed then left.slt right else left.ult right

theorem less_iff {signed : Bool} {left right : BitVec width} :
    less signed left right = true ↔ valueOf signed left < valueOf signed right := by
  cases signed with
  | true => exact BitVec.slt_iff_toInt_lt
  | false => exact BitVec.ult_iff_toNat_lt.trans Int.ofNat_lt.symm

def minimum (signed : Bool) (left right : BitVec width) : BitVec width :=
  if less signed right left then right else left

def maximum (signed : Bool) (left right : BitVec width) : BitVec width :=
  if less signed right left then left else right

theorem minimum_eq (signed : Bool) (left right : BitVec width) :
    minimum signed left right =
      BitVec.ofInt width (min (valueOf signed left) (valueOf signed right)) := by
  unfold minimum
  split_ifs with smaller
  · rw [min_eq_right (less_iff.mp smaller).le, ofInt_valueOf]
  · rw [min_eq_left (not_lt.mp (mt less_iff.mpr smaller)), ofInt_valueOf]

theorem maximum_eq (signed : Bool) (left right : BitVec width) :
    maximum signed left right =
      BitVec.ofInt width (max (valueOf signed left) (valueOf signed right)) := by
  unfold maximum
  split_ifs with smaller
  · rw [max_eq_left (less_iff.mp smaller).le, ofInt_valueOf]
  · rw [max_eq_right (not_lt.mp (mt less_iff.mpr smaller)), ofInt_valueOf]

/-! ## Overflow -/

/-- The width has room for the value. -/
def Fits (signed : Bool) (width : Nat) (value : Int) : Prop :=
  lowest signed width ≤ value ∧ value ≤ highest signed width

def addOverflow (signed : Bool) (left right : BitVec width) : Bool :=
  if signed then left.saddOverflow right else left.uaddOverflow right

def subOverflow (signed : Bool) (left right : BitVec width) : Bool :=
  if signed then left.ssubOverflow right else left.usubOverflow right

def mulOverflow (signed : Bool) (left right : BitVec width) : Bool :=
  if signed then left.smulOverflow right else left.umulOverflow right

theorem fits_valueOf (signed : Bool) (bits : BitVec width) :
    Fits signed width (valueOf signed bits) :=
  ⟨lowest_le_valueOf .., valueOf_le_highest ..⟩

theorem Fits.valueOf_ofInt {signed : Bool} {value : Int} (fits : Fits signed width value)
    (positive : 0 < width) : valueOf signed (BitVec.ofInt width value) = value :=
  Integer.valueOf_ofInt positive fits.1 fits.2

theorem fits_signed {value : Int} :
    Fits true width value ↔ ¬ (2 ^ (width - 1) ≤ value ∨ value < -2 ^ (width - 1)) := by
  show -2 ^ (width - 1) ≤ value ∧ value ≤ 2 ^ (width - 1) - 1 ↔ _
  generalize (2 : Int) ^ (width - 1) = bound
  omega

theorem fits_unsigned {value : Int} :
    Fits false width value ↔ 0 ≤ value ∧ value < (2 ^ width : Nat) := by
  rw [Int.natCast_pow]
  show 0 ≤ value ∧ value ≤ 2 ^ width - 1 ↔ 0 ≤ value ∧ value < 2 ^ width
  generalize (2 : Int) ^ width = bound
  omega

theorem addOverflow_iff {signed : Bool} {left right : BitVec width} :
    addOverflow signed left right = true ↔
      ¬ Fits signed width (valueOf signed left + valueOf signed right) := by
  cases signed with
  | true =>
    rw [fits_signed, not_not]
    simp [addOverflow, BitVec.saddOverflow, valueOf]
  | false =>
    simp only [addOverflow, BitVec.uaddOverflow, fits_unsigned, valueOf, Bool.false_eq_true,
      if_false, decide_eq_true_eq]
    omega

theorem subOverflow_iff {signed : Bool} {left right : BitVec width} :
    subOverflow signed left right = true ↔
      ¬ Fits signed width (valueOf signed left - valueOf signed right) := by
  cases signed with
  | true =>
    rw [fits_signed, not_not]
    simp [subOverflow, BitVec.ssubOverflow, valueOf]
  | false =>
    have small := left.isLt
    simp only [subOverflow, BitVec.usubOverflow, fits_unsigned, valueOf, Bool.false_eq_true,
      if_false, decide_eq_true_eq]
    omega

theorem mulOverflow_iff {signed : Bool} {left right : BitVec width} :
    mulOverflow signed left right = true ↔
      ¬ Fits signed width (valueOf signed left * valueOf signed right) := by
  cases signed with
  | true =>
    rw [fits_signed, not_not]
    simp [mulOverflow, BitVec.smulOverflow, valueOf]
  | false =>
    simp only [mulOverflow, BitVec.umulOverflow, fits_unsigned, valueOf, Bool.false_eq_true,
      if_false, decide_eq_true_eq, ← Int.natCast_mul]
    omega

/-- The sum, unless it overflows. -/
def exactAdd (signed : Bool) (left right : BitVec width) : Option (BitVec width) :=
  if addOverflow signed left right then none else some (left + right)

/-- The product, unless it overflows. -/
def exactMul (signed : Bool) (left right : BitVec width) : Option (BitVec width) :=
  if mulOverflow signed left right then none else some (left * right)

theorem exactAdd_of_fits {signed : Bool} {left right : BitVec width}
    (fits : Fits signed width (valueOf signed left + valueOf signed right)) :
    exactAdd signed left right =
      some (BitVec.ofInt width (valueOf signed left + valueOf signed right)) := by
  rw [exactAdd, if_neg (mt addOverflow_iff.mp (not_not_intro fits)), add_eq signed]

theorem exactMul_of_fits {signed : Bool} {left right : BitVec width}
    (fits : Fits signed width (valueOf signed left * valueOf signed right)) :
    exactMul signed left right =
      some (BitVec.ofInt width (valueOf signed left * valueOf signed right)) := by
  rw [exactMul, if_neg (mt mulOverflow_iff.mp (not_not_intro fits)), mul_eq signed]

/-! ## Operations that saturate -/

/-- The highest or the lowest integer of the width. -/
def extreme (signed high : Bool) (width : Nat) : BitVec width :=
  match signed, high with
  | true, true => BitVec.intMax width
  | true, false => BitVec.intMin width
  | false, true => BitVec.allOnes width
  | false, false => 0

def saturatingAdd (signed : Bool) (left right : BitVec width) : BitVec width :=
  if addOverflow signed left right then extreme signed (!(signed && left.slt 0)) width
  else left + right

def saturatingSub (signed : Bool) (left right : BitVec width) : BitVec width :=
  if subOverflow signed left right then extreme signed (signed && !left.slt 0) width
  else left - right

theorem ofInt_lowest (signed : Bool) (width : Nat) :
    BitVec.ofInt width (lowest signed width) = extreme signed false width := by
  cases signed with
  | true => exact BitVec.intMin_eq_neg_two_pow.symm
  | false => rfl

theorem ofInt_highest (signed : Bool) (width : Nat) :
    BitVec.ofInt width (highest signed width) = extreme signed true width := by
  have same : highest signed width = valueOf signed (extreme signed true width) := by
    cases signed with
    | true => exact BitVec.toInt_intMax.symm
    | false =>
      have positive : 0 < 2 ^ width := Nat.two_pow_pos width
      have power : ((2 ^ width : Nat) : Int) = 2 ^ width := Int.natCast_pow 2 width
      show 2 ^ width - 1 = ((BitVec.allOnes width).toNat : Int)
      rw [BitVec.toNat_allOnes]
      omega
  rw [same, ofInt_valueOf]

theorem saturate_of_fits {signed : Bool} {value : Int} (fits : Fits signed width value) :
    saturate signed width value = BitVec.ofInt width value := by
  rw [saturate, min_eq_left fits.2, max_eq_right fits.1]

theorem saturate_low {signed : Bool} {value : Int} (low : value ≤ lowest signed width) :
    saturate signed width value = extreme signed false width := by
  rw [saturate, max_eq_left ((min_le_left ..).trans low), ofInt_lowest]

theorem saturate_high {signed : Bool} {value : Int} (high : highest signed width ≤ value) :
    saturate signed width value = extreme signed true width := by
  rw [saturate, min_eq_right high, max_eq_right (lowest_le_highest ..), ofInt_highest]

theorem slt_zero_iff {bits : BitVec width} : bits.slt 0 = true ↔ valueOf true bits < 0 := by
  simpa [valueOf] using @BitVec.slt_iff_toInt_lt width bits 0

theorem saturatingAdd_eq (signed : Bool) (left right : BitVec width) :
    saturatingAdd signed left right =
      saturate signed width (valueOf signed left + valueOf signed right) := by
  have leftFits := fits_valueOf signed left
  have rightFits := fits_valueOf signed right
  unfold Fits at leftFits rightFits
  unfold saturatingAdd
  split_ifs with overflows
  · rw [addOverflow_iff, Fits] at overflows
    cases signed with
    | true =>
      cases negative : left.slt 0 with
      | true =>
        rw [slt_zero_iff] at negative
        exact (saturate_low (by omega)).symm
      | false =>
        rw [← Bool.not_eq_true, slt_zero_iff] at negative
        exact (saturate_high (by omega)).symm
    | false =>
      have zero : lowest false width = 0 := rfl
      exact (saturate_high (by omega)).symm
  · rw [addOverflow_iff, not_not] at overflows
    rw [saturate_of_fits overflows, add_eq signed]

theorem saturatingSub_eq (signed : Bool) (left right : BitVec width) :
    saturatingSub signed left right =
      saturate signed width (valueOf signed left - valueOf signed right) := by
  have leftFits := fits_valueOf signed left
  have rightFits := fits_valueOf signed right
  unfold Fits at leftFits rightFits
  unfold saturatingSub
  split_ifs with overflows
  · rw [subOverflow_iff, Fits] at overflows
    cases signed with
    | true =>
      have balance := lowest_add_highest width
      cases negative : left.slt 0 with
      | true =>
        rw [slt_zero_iff] at negative
        exact (saturate_low (by omega)).symm
      | false =>
        rw [← Bool.not_eq_true, slt_zero_iff] at negative
        exact (saturate_high (by omega)).symm
    | false =>
      have zero : lowest false width = 0 := rfl
      exact (saturate_low (by omega)).symm
  · rw [subOverflow_iff, not_not] at overflows
    rw [saturate_of_fits overflows, sub_eq signed]

/-! ## Changes of the width -/

/-- Lossless conversion to a larger width. -/
def widen (signed : Bool) (larger : Nat) (bits : BitVec width) : BitVec larger :=
  if signed then bits.signExtend larger else bits.zeroExtend larger

@[simp] theorem valueOf_widen {signed : Bool} {larger : Nat} (wide : width ≤ larger)
    (bits : BitVec width) : valueOf signed (widen signed larger bits) = valueOf signed bits := by
  cases signed with
  | true => exact BitVec.toInt_signExtend_of_le wide
  | false => exact congrArg Nat.cast (BitVec.toNat_setWidth_of_le wide)

theorem widen_eq {signed : Bool} {larger : Nat} (wide : width ≤ larger) (bits : BitVec width) :
    widen signed larger bits = BitVec.ofInt larger (valueOf signed bits) := by
  rw [← valueOf_widen wide, ofInt_valueOf]

theorem truncate_eq {smaller : Nat} (narrow : smaller ≤ width) (bits : BitVec width) :
    bits.truncate smaller = BitVec.ofInt smaller (valueOf true bits) := by
  apply BitVec.eq_of_toInt_eq
  rw [BitVec.toInt_ofInt]
  show (bits.setWidth smaller).toInt = bits.toInt.bmod (2 ^ smaller)
  rw [BitVec.toInt_setWidth, BitVec.toInt_eq_toNat_bmod,
    Int.bmod_bmod_of_dvd (Nat.pow_dvd_pow 2 narrow)]

/-- The double width has room for every sum. -/
theorem fits_add (positive : 0 < width) (signed : Bool) (left right : BitVec width) :
    Fits signed (2 * width) (valueOf signed left + valueOf signed right) := by
  cases signed with
  | true =>
    have leftFits := fits_signed.mp (fits_valueOf true left)
    have rightFits := fits_signed.mp (fits_valueOf true right)
    have room : (2 : Int) ^ (width - 1) * 2 ≤ 2 ^ (2 * width - 1) := by
      rw [← Int.pow_succ]
      exact_mod_cast Nat.pow_le_pow_right Nat.two_pos (show width - 1 + 1 ≤ 2 * width - 1 by omega)
    rw [fits_signed]
    omega
  | false =>
    have leftFits := fits_unsigned.mp (fits_valueOf false left)
    have rightFits := fits_unsigned.mp (fits_valueOf false right)
    have room : 2 ^ width * 2 ≤ 2 ^ (2 * width) := by
      rw [← Nat.pow_succ]
      exact Nat.pow_le_pow_right Nat.two_pos (by omega)
    rw [fits_unsigned]
    omega

/-- The double width has room for every product. -/
theorem fits_mul (positive : 0 < width) (signed : Bool) (left right : BitVec width) :
    Fits signed (2 * width) (valueOf signed left * valueOf signed right) := by
  cases signed with
  | true =>
    have below := @BitVec.toInt_mul_toInt_le width left right
    have above := @BitVec.le_toInt_mul_toInt width left right
    have room : (2 : Int) ^ (width * 2 - 2) * 2 = 2 ^ (2 * width - 1) := by
      rw [← Int.pow_succ]
      congr 1
      omega
    have some : (0 : Int) < 2 ^ (width * 2 - 2) := Int.pow_pos (by decide)
    rw [fits_signed]
    show ¬ (2 ^ (2 * width - 1) ≤ left.toInt * right.toInt ∨
      left.toInt * right.toInt < -2 ^ (2 * width - 1))
    omega
  | false =>
    have product := Nat.mul_lt_mul'' left.isLt right.isLt
    rw [← Nat.pow_add, ← Nat.two_mul] at product
    rw [fits_unsigned]
    exact ⟨Int.natCast_nonneg (left.toNat * right.toNat), Int.ofNat_lt.mpr product⟩

/-- The sum of two widened integers never overflows. -/
theorem exactAdd_widen (positive : 0 < width) (signed : Bool) (left right : BitVec width) :
    exactAdd signed (widen signed (2 * width) left) (widen signed (2 * width) right) =
      some (BitVec.ofInt (2 * width) (valueOf signed left + valueOf signed right)) := by
  have wide : width ≤ 2 * width := by omega
  rw [exactAdd_of_fits, valueOf_widen wide, valueOf_widen wide]
  rw [valueOf_widen wide, valueOf_widen wide]
  exact fits_add positive ..

/-- The product of two widened integers never overflows. -/
theorem exactMul_widen (positive : 0 < width) (signed : Bool) (left right : BitVec width) :
    exactMul signed (widen signed (2 * width) left) (widen signed (2 * width) right) =
      some (BitVec.ofInt (2 * width) (valueOf signed left * valueOf signed right)) := by
  have wide : width ≤ 2 * width := by omega
  rw [exactMul_of_fits, valueOf_widen wide, valueOf_widen wide]
  rw [valueOf_widen wide, valueOf_widen wide]
  exact fits_mul positive ..

/-! ## Clamping -/

/-- `clamp` on signed integers. -/
def clamp (bits low high : BitVec width) : BitVec width :=
  if bits.slt low then low else if high.slt bits then high else bits

theorem valueOf_clamp {bits low high : BitVec width}
    (ordered : valueOf true low ≤ valueOf true high) :
    valueOf true (clamp bits low high) =
      max (valueOf true low) (min (valueOf true bits) (valueOf true high)) := by
  have less (left right : BitVec width) :
      left.slt right = true ↔ valueOf true left < valueOf true right :=
    @less_iff width true left right
  unfold clamp
  split_ifs with low high
  · rw [less] at low
    omega
  · rw [less] at low high
    omega
  · rw [less] at low high
    omega

/-- A signed integer of a larger width may have every value of the smaller one. -/
theorem Fits.larger {signed : Bool} {smaller : Nat} (narrow : smaller < width) {value : Int}
    (fits : Fits signed smaller value) : Fits true width value := by
  have room : 2 ^ smaller ≤ 2 ^ (width - 1) := Nat.pow_le_pow_right Nat.two_pos (by omega)
  have half : 2 ^ (smaller - 1) ≤ 2 ^ smaller := Nat.pow_le_pow_right Nat.two_pos (by omega)
  have width_ : ((2 ^ (width - 1) : Nat) : Int) = 2 ^ (width - 1) := Int.natCast_pow ..
  have smaller_ : ((2 ^ (smaller - 1) : Nat) : Int) = 2 ^ (smaller - 1) := Int.natCast_pow ..
  rw [fits_signed]
  cases signed with
  | true =>
    rw [fits_signed] at fits
    omega
  | false =>
    rw [fits_unsigned] at fits
    omega

/-- Clamping to the range of a smaller width before the conversion to it. -/
theorem clamp_truncate {smaller : Nat} (signed : Bool) (narrow : smaller < width)
    (bits : BitVec width) :
    (clamp bits (BitVec.ofInt width (lowest signed smaller))
        (BitVec.ofInt width (highest signed smaller))).truncate smaller =
      saturate signed smaller (valueOf true bits) := by
  have ordered := lowest_le_highest signed smaller
  have kept {value : Int} (fits : Fits signed smaller value) :
      valueOf true (BitVec.ofInt width value) = value :=
    (fits.larger narrow).valueOf_ofInt (by omega)
  have low := kept ⟨le_refl _, ordered⟩
  have high := kept ⟨ordered, le_refl _⟩
  rw [truncate_eq narrow.le, valueOf_clamp, low, high, saturate]
  rw [low, high]
  exact ordered

/-! ## Shifts -/

def shiftRight (signed : Bool) (bits : BitVec width) (count : Nat) : BitVec width :=
  if signed then bits.sshiftRight count else bits >>> count

theorem shiftLeft_eq (signed : Bool) (bits : BitVec width) (count : Nat) :
    bits <<< count = BitVec.ofInt width (valueOf signed bits * 2 ^ count) := by
  have power : BitVec.ofInt width (2 ^ count) = BitVec.twoPow width count := by
    apply BitVec.eq_of_toNat_eq
    rw [BitVec.toNat_twoPow, ← BitVec.toNat_ofNat, ← BitVec.ofInt_natCast, Int.natCast_pow]
    rfl
  rw [BitVec.ofInt_mul, ofInt_valueOf, power, BitVec.shiftLeft_eq_mul_twoPow]

/-- Shifting to the right divides and rounds down. -/
theorem shiftRight_eq (signed : Bool) (bits : BitVec width) (count : Nat) :
    shiftRight signed bits count = BitVec.ofInt width (valueOf signed bits / 2 ^ count) := by
  cases signed with
  | true =>
    show BitVec.ofInt width (bits.toInt >>> count) = _
    rw [Int.shiftRight_eq_div_pow]
    rfl
  | false =>
    apply BitVec.eq_of_toNat_eq
    show (bits >>> count).toNat = (BitVec.ofInt width ((bits.toNat : Int) / 2 ^ count)).toNat
    have quotient : (bits.toNat : Int) / 2 ^ count = (bits.toNat / 2 ^ count : Nat) := by
      rw [Int.natCast_ediv, Int.natCast_pow]
      rfl
    have small := (Nat.div_le_self bits.toNat (2 ^ count)).trans_lt bits.isLt
    rw [quotient, BitVec.ofInt_natCast, BitVec.toNat_ofNat, BitVec.toNat_ushiftRight,
      Nat.shiftRight_eq_div_pow, Nat.mod_eq_of_lt small]

end MiniWasm.Library.Integer
