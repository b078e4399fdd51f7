import MiniWasm.Runtime.Simd
import MiniWasm.Spec.Lanes

/-!
# Scalar arithmetic of the lane arms

The arms that compare, average, multiply, shift and clamp single lanes compute functions of
integers, and none of their checked operations overflows.
-/

namespace MiniWasm.Runtime

open Library Library.Integer Spec

variable {width : Nat}

/-! ## Comparisons -/

section Comparisons

variable (signed : Bool) (left right : BitVec width)

/-- Signed or unsigned, bits are determined by their value. -/
theorem valueOf_inj : valueOf signed left = valueOf signed right ↔ left = right := by
  constructor
  · intro same
    rw [← ofInt_valueOf signed left, same, ofInt_valueOf]
  · intro same
    rw [same]

theorem eq_holds :
    (left == right) = Comparison.eq.holds (valueOf signed left) (valueOf signed right) := by
  rw [Bool.eq_iff_iff, beq_iff_eq, ← valueOf_inj signed]
  exact decide_eq_true_iff.symm

theorem ne_holds :
    (left != right) = Comparison.ne.holds (valueOf signed left) (valueOf signed right) := by
  rw [Bool.eq_iff_iff, bne_iff_ne, ne_eq, ← valueOf_inj signed]
  exact decide_eq_true_iff.symm

/-- The order of the lanes is the order of their values. -/
theorem less_holds :
    less signed left right =
      Comparison.lt.holds (valueOf signed left) (valueOf signed right) := by
  rw [Bool.eq_iff_iff, less_iff]
  exact decide_eq_true_iff.symm

theorem greater_holds :
    less signed right left =
      Comparison.gt.holds (valueOf signed left) (valueOf signed right) := by
  rw [Bool.eq_iff_iff, less_iff]
  exact decide_eq_true_iff.symm

theorem sle_holds :
    left.sle right = Comparison.le.holds (valueOf true left) (valueOf true right) := by
  rw [Bool.eq_iff_iff, BitVec.sle_iff_toInt_le]
  exact decide_eq_true_iff.symm

theorem ule_holds :
    left.ule right = Comparison.le.holds (valueOf false left) (valueOf false right) := by
  rw [Bool.eq_iff_iff, BitVec.ule_iff_toNat_le, ← Int.ofNat_le]
  exact decide_eq_true_iff.symm

theorem sge_holds :
    right.sle left = Comparison.ge.holds (valueOf true left) (valueOf true right) := by
  rw [Bool.eq_iff_iff, BitVec.sle_iff_toInt_le]
  exact decide_eq_true_iff.symm

theorem uge_holds :
    right.ule left = Comparison.ge.holds (valueOf false left) (valueOf false right) := by
  rw [Bool.eq_iff_iff, BitVec.ule_iff_toNat_le, ← Int.ofNat_le]
  exact decide_eq_true_iff.symm

end Comparisons

/-- A lane of a comparison is all ones or zero. -/
theorem maskLane_eq {condition signed : Bool} {comparison : Comparison}
    {left right : BitVec width}
    (same : condition = comparison.holds (valueOf signed left) (valueOf signed right)) :
    maskLane width condition = (BinaryLane.compare comparison signed).apply left right := by
  rw [same]
  rfl

/-! ## Checked operations that do not overflow -/

section Checked

variable (positive : 0 < width) (signed : Bool) (left right : BitVec width)
include positive

/-- Lanes of twice the width hold every sum, so the addition never panics. -/
theorem plainAdd_widen :
    plainAdd signed (widen signed (2 * width) left) (widen signed (2 * width) right) =
      .ok (.ofInt (2 * width) (valueOf signed left + valueOf signed right)) := by
  rw [plainAdd, exactAdd_widen positive]
  rfl

/-- They hold every product, too. -/
theorem plainMul_widen :
    plainMul signed (widen signed (2 * width) left) (widen signed (2 * width) right) =
      .ok (.ofInt (2 * width) (valueOf signed left * valueOf signed right)) := by
  rw [plainMul, exactMul_widen positive]
  rfl

end Checked

/-- An addition whose exact result fits is exact. -/
theorem plainAdd_ofInt {signed : Bool} {left : Int} {right : BitVec width} (positive : 0 < width)
    (leftFits : Fits signed width left) (fits : Fits signed width (left + valueOf signed right)) :
    plainAdd signed (.ofInt width left) right =
      .ok (.ofInt width (left + valueOf signed right)) := by
  have leftValue := leftFits.valueOf_ofInt positive
  rw [plainAdd, exactAdd_of_fits, leftValue]
  · rfl
  · rwa [leftValue]

/-- Reduced counts are below the width. -/
theorem plainShr_of_lt {signed : Bool} {count : Nat} (below : count < width)
    (bits : BitVec width) :
    plainShr signed bits count = .ok (.ofInt width (valueOf signed bits / 2 ^ count)) := by
  rw [plainShr, if_pos below, shiftRight_eq]
  rfl

/-- Clamping is saturation at the bounds of the narrower type. -/
theorem clampTo_eq {smaller : Nat} (signed : Bool) (narrow : smaller < width)
    (bits : BitVec width) :
    clampTo signed smaller bits = saturate signed smaller (valueOf true bits) :=
  clamp_truncate signed narrow bits

/-! ## Averages -/

/-- Half of a number, rounded up. -/
theorem divCeil_two (bits : BitVec 16) : (divCeil bits 2).toNat = (bits.toNat + 1) / 2 := by
  have small := bits.isLt
  rw [divCeil]
  split_ifs with odd
  · have remainder : 0 < bits.toNat % 2 := odd
    rw [BitVec.toNat_add, BitVec.toNat_udiv]
    show (bits.toNat / 2 + 1) % 2 ^ 16 = _
    omega
  · have remainder : ¬ 0 < bits.toNat % 2 := odd
    rw [BitVec.toNat_udiv]
    show bits.toNat / 2 = _
    omega

/-- The sum is computed in a wider type, where it cannot overflow. -/
theorem averageLane8_ok (lhs rhs : BitVec 8) :
    averageLane8 lhs rhs = .ok (BinaryLane.avgr.apply lhs rhs) := by
  have left := lhs.isLt
  have right := rhs.isLt
  have sum : (BitVec.ofInt 16 (valueOf false lhs + valueOf false rhs)).toNat =
      lhs.toNat + rhs.toNat := by
    show (BitVec.ofInt 16 ((lhs.toNat : Int) + rhs.toNat)).toNat = _
    rw [BitVec.toNat_ofInt]
    omega
  have average : BinaryLane.avgr.apply lhs rhs =
      BitVec.ofInt 8 ((lhs.toNat + rhs.toNat + 1) / 2 : Nat) := rfl
  have added : plainAdd false (widen false 16 lhs) (widen false 16 rhs) = _ :=
    plainAdd_widen (by decide) false lhs rhs
  rw [averageLane8, added, ok_bind, average, BitVec.ofInt_natCast]
  refine congrArg Except.ok (BitVec.eq_of_toNat_eq ?_)
  rw [BitVec.toNat_setWidth, divCeil_two, BitVec.toNat_ofNat, sum]

theorem averageLane16_ok (lhs rhs : BitVec 16) :
    averageLane16 lhs rhs = .ok (BinaryLane.avgr.apply lhs rhs) := by
  have left := lhs.isLt
  have right := rhs.isLt
  have nonneg : 0 ≤ valueOf false lhs + valueOf false rhs :=
    Int.natCast_nonneg (lhs.toNat + rhs.toNat)
  have below : valueOf false lhs + valueOf false rhs < 2 ^ 17 := by
    show (lhs.toNat : Int) + rhs.toNat < 2 ^ 17
    omega
  have one : valueOf false (1 : BitVec 32) = 1 := rfl
  have added : plainAdd false (widen false 32 lhs) (widen false 32 rhs) = _ :=
    plainAdd_widen (by decide) false lhs rhs
  have sumFits : Fits false 32 (valueOf false lhs + valueOf false rhs + 1) :=
    fits_unsigned.mpr (by omega)
  have halfFits : Fits true 32 ((valueOf false lhs + valueOf false rhs + 1) / 2) :=
    fits_signed.mpr (by omega)
  rw [averageLane16, added, ok_bind, plainAdd_ofInt (by decide) (fits_unsigned.mpr (by omega)),
    one, ok_bind, plainShr_of_lt (by decide),
    sumFits.valueOf_ofInt (by decide), ok_bind, pow_one, truncate_eq (by decide),
    halfFits.valueOf_ofInt (by decide)]
  · rfl
  · rwa [one]

/-- Only the product of the two lowest values saturates. -/
theorem multiplyQ15_ok (lhs rhs : BitVec 16) :
    multiplyQ15 lhs rhs = .ok (BinaryLane.q15mulrSat.apply lhs rhs) := by
  have below : valueOf true lhs * valueOf true rhs ≤ 2 ^ 30 :=
    @BitVec.toInt_mul_toInt_le 16 lhs rhs
  have above : -2 ^ 30 ≤ valueOf true lhs * valueOf true rhs :=
    @BitVec.le_toInt_mul_toInt 16 lhs rhs
  have half : valueOf true (0x4000 : BitVec 32) = 2 ^ 14 := rfl
  have fits {value : Int} (low : -2 ^ 31 ≤ value) (high : value < 2 ^ 31) :
      Fits true 32 value :=
    fits_signed.mpr (by omega)
  have multiplied : plainMul true (widen true 32 lhs) (widen true 32 rhs) = _ :=
    plainMul_widen (by decide) true lhs rhs
  have sumFits := @fits (valueOf true lhs * valueOf true rhs + 2 ^ 14) (by omega) (by omega)
  rw [multiplyQ15, multiplied, ok_bind, plainAdd_ofInt (by decide) (fits (by omega) (by omega)),
    half, ok_bind, plainShr_of_lt (by decide), sumFits.valueOf_ofInt (by decide), ok_bind,
    clampTo_eq true (by decide), (fits (by omega) (by omega)).valueOf_ofInt (by decide)]
  · rfl
  · rwa [half]

/-! ## Bits -/

theorem cpopNatRec_eq_countP (bits : BitVec width) (count : Nat) :
    bits.cpopNatRec count 0 = (List.range count).countP bits.getLsbD := by
  induction count with
  | zero => rfl
  | succ count ih =>
    rw [BitVec.cpopNatRec_succ, BitVec.cpopNatRec_eq, ih, List.range_succ, List.countP_append,
      List.countP_singleton]
    cases bits.getLsbD count with
    | true => rfl
    | false => rfl

/-- The count of ones, bit by bit. -/
theorem cpop_eq (bits : BitVec width) : bits.cpop = UnaryLane.popcnt.apply bits := by
  rw [BitVec.cpop, cpopNatRec_eq_countP]
  rfl

/-! ## Shifts -/

/-- A mask that is one below a power of two takes the remainder. -/
theorem and_mask {exponent : Nat} (small : exponent < 32) (amount : BitVec 32) :
    (amount &&& BitVec.ofNat 32 (2 ^ exponent - 1)).toNat = amount.toNat % 2 ^ exponent := by
  have power : 2 ^ exponent < 2 ^ 32 := Nat.pow_lt_pow_right (by decide) small
  rw [BitVec.toNat_and, BitVec.toNat_ofNat, Nat.mod_eq_of_lt (by omega),
    Nat.and_two_pow_sub_one_eq_mod]

section Shifts

variable {count : Nat} (below : count < width) (bits : BitVec width)
include below

theorem shiftLane_left :
    shiftLane 0 count bits = .ok (.ofInt width (valueOf false bits * 2 ^ count)) := by
  rw [shiftLane, if_pos rfl, wrappingShl, Nat.mod_eq_of_lt below, shiftLeft_eq false]
  rfl

theorem shiftLane_right :
    shiftLane 1 count bits = .ok (.ofInt width (valueOf true bits / 2 ^ count)) ∧
    shiftLane 2 count bits = .ok (.ofInt width (valueOf false bits / 2 ^ count)) :=
  ⟨plainShr_of_lt below bits, plainShr_of_lt below bits⟩

end Shifts

end MiniWasm.Runtime
