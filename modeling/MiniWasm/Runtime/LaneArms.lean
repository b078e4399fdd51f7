import MiniWasm.Runtime.LaneLoops
import MiniWasm.Runtime.LaneScalars

/-!
# Vector arithmetic of the lane arms

The arms that work on whole vectors return the vector that the integer functions of their lanes
give.
-/

namespace MiniWasm.Runtime

open Library Library.Integer LinearMemory Spec

/-! ## Bytes taken together -/

section Bitwise

variable {width : Nat} (known : LaneWidth width) (lhs rhs mask value : Vector128)

@[simp] theorem lane_and (index : Nat) :
    lane width (lhs &&& rhs) index = lane width lhs index &&& lane width rhs index :=
  BitVec.extractLsb'_and

@[simp] theorem lane_or (index : Nat) :
    lane width (lhs ||| rhs) index = lane width lhs index ||| lane width rhs index :=
  BitVec.extractLsb'_or

@[simp] theorem lane_xor (index : Nat) :
    lane width (lhs ^^^ rhs) index = lane width lhs index ^^^ lane width rhs index :=
  BitVec.extractLsb'_xor

@[simp] theorem lane_zero (index : Nat) : lane width 0 index = 0 := by
  apply BitVec.eq_of_toNat_eq
  rw [lane_toNat]
  simp

include known in
theorem LaneWidth.lane_not {index : Nat} (inside : index < 128 / width) :
    lane width (~~~value) index = ~~~lane width value index := by
  have room : index * width + width ≤ 128 := by
    rw [← Nat.succ_mul, ← Nat.div_mul_cancel known.fills]
    exact Nat.mul_le_mul_right _ inside
  apply BitVec.eq_of_getLsbD_eq
  intro position below
  have place : index * width + position < 128 := by omega
  simp [lane, below, place]

include known in
theorem LaneWidth.fromLanes_eq {lanes : Nat → BitVec width} {vector : Vector128}
    (same : ∀ index < 128 / width, lanes index = lane width vector index) :
    fromLanes width lanes = vector := by
  apply known.eq_of_lanes
  intro index inside
  rw [lane_fromLanes known.positive inside, same index inside]

theorem laneWidth8 : LaneWidth 8 :=
  ⟨by decide, by decide⟩

theorem not_ok : mapPure 8 (~~~ ·) value = .ok (~~~value) := by
  rw [mapPure_ok laneWidth8,
    laneWidth8.fromLanes_eq fun index inside => (laneWidth8.lane_not value inside).symm]

/-- The source takes bitwise operations byte by byte. -/
theorem bitwise_ok {operation : BitVec 8 → BitVec 8 → BitVec 8} {result : Vector128}
    (lanes : ∀ index < 16,
      operation (lane 8 lhs index) (lane 8 rhs index) = lane 8 result index) :
    zipPure 8 operation lhs rhs = .ok result := by
  rw [zipPure_ok laneWidth8, laneWidth8.fromLanes_eq lanes]

/-- The mask chooses bit by bit. -/
theorem bitselect_ok : bitselect lhs rhs mask = .ok ((lhs &&& mask) ||| (rhs &&& ~~~mask)) := by
  refine (zipLanes3_ok laneWidth8 (fun _ _ _ => rfl) lhs rhs mask).trans ?_
  rw [laneWidth8.fromLanes_eq]
  intro index inside
  rw [lane_or, lane_and, lane_and, laneWidth8.lane_not mask inside]

end Bitwise

/-! ## Tests -/

section Tests

variable {width : Nat} (known : LaneWidth width) (value : Vector128)

theorem anyTrue_eq : anyTrue value = decide (value ≠ 0) := by
  rw [anyTrue, toBytes, List.any_map, Bool.eq_iff_iff, List.any_eq_true, decide_eq_true_iff]
  constructor
  · rintro ⟨index, -, nonzero⟩ rfl
    rw [Function.comp_apply, lane_zero] at nonzero
    exact absurd rfl (bne_iff_ne.mp nonzero)
  · intro nonzero
    by_contra none
    refine nonzero (laneWidth8.eq_of_lanes fun index inside => ?_)
    rw [lane_zero]
    by_contra different
    refine none ⟨index, List.mem_range.mpr inside, bne_iff_ne.mpr fun zero => different ?_⟩
    exact congrArg UInt8.toBitVec zero

include known in
/-- The fold stops at the first lane that is zero. -/
theorem allTrue_ok :
    allTrue width value = .ok (decide (∀ index < 128 / width, lane width value index ≠ 0)) := by
  have lanes : allTrue width value =
      .ok ((List.range (128 / width)).all fun index => lane width value index != 0) := by
    refine allM_ok fun index member => ?_
    rw [known.readLane_toBytes value (List.mem_range.mp member), ok_bind]
    rfl
  rw [lanes]
  refine congrArg Except.ok ?_
  rw [Bool.eq_iff_iff, List.all_eq_true, decide_eq_true_iff]
  simp

/-- After some rounds, the mask holds the signs of the first lanes. -/
theorem bitmask_rounds (known : LaneWidth width) {negative : BitVec width → Bool}
    {count : Nat} (bounded : count ≤ 128 / width) (small : count ≤ 32) :
    ∃ mask : BitVec 32,
      (List.range count).foldlM (fun (mask : BitVec 32) lane => do
        if negative (← readLane width (toBytes value) (lane * (width / 8))) then
          return mask ||| (← plainShl 1 lane)
        else return mask) 0 = .ok mask ∧
      ∀ position, mask.getLsbD position =
        (decide (position < count) && negative (lane width value position)) := by
  induction count with
  | zero => exact ⟨0, rfl, fun position => by simp⟩
  | succ count ih =>
    obtain ⟨before, ran, bits⟩ := ih (by omega) (by omega)
    have read := known.readLane_toBytes value (Nat.lt_of_succ_le bounded)
    have step : (List.range (count + 1)).foldlM (fun (mask : BitVec 32) lane => do
        if negative (← readLane width (toBytes value) (lane * (width / 8))) then
          return mask ||| (← plainShl 1 lane)
        else return mask) 0 =
        if negative (lane width value count) then Except.ok (before ||| (1#32 <<< count))
        else .ok before := by
      rw [List.range_succ, List.foldlM_append, ran, ok_bind, List.foldlM_cons, read, ok_bind,
        plainShl, if_pos (Nat.lt_of_succ_le small)]
      cases negative (lane width value count) with
      | true => rfl
      | false => rfl
    cases sign : negative (lane width value count) with
    | true =>
      refine ⟨before ||| (1#32 <<< count), by rw [step, sign]; rfl, fun position => ?_⟩
      rw [BitVec.getLsbD_or, bits, BitVec.getLsbD_shiftLeft, BitVec.getLsbD_one]
      rcases Nat.lt_trichotomy position count with first | rfl | later
      · simp [first, Nat.lt_succ_of_lt first]
      · simp [sign, Nat.lt_of_succ_le small]
      · have outside : ¬ position < count := by omega
        have behind : ¬ position < count + 1 := by omega
        have apart : position - count ≠ 0 := by omega
        simp [outside, behind, apart]
    | false =>
      refine ⟨before, by rw [step, sign]; rfl, fun position => ?_⟩
      rw [bits]
      rcases Nat.lt_trichotomy position count with first | rfl | later
      · simp [first, Nat.lt_succ_of_lt first]
      · simp [sign]
      · have outside : ¬ position < count := by omega
        have behind : ¬ position < count + 1 := by omega
        simp [outside, behind]

/-- One bit of the result for each lane, set when the lane is negative. -/
theorem bitmask_ok (known : LaneWidth width) {negative : BitVec width → Bool}
    (sign : ∀ bits, negative bits = decide (valueOf true bits < 0)) :
    bitmask width negative value = .ok (signBits width value) := by
  have small : 128 / width ≤ 32 := by
    have wide := Nat.le_of_dvd known.positive known.bytes
    have narrow : 128 / width ≤ 128 / 8 := Nat.div_le_div_left wide (by decide)
    omega
  obtain ⟨mask, ran, bits⟩ := @bitmask_rounds _ value known negative _ (le_refl _) small
  have same : mask = signBits width value := by
    apply BitVec.eq_of_getLsbD_eq
    intro position below
    rw [bits, signBits, BitVec.getLsbD_setWidth, BitVec.getLsbD_ofBoolListLE,
      List.getD_eq_getElem?_getD, List.getElem?_map, decide_eq_true below]
    rcases Nat.lt_or_ge position (128 / width) with inside | outside
    · rw [List.getElem?_range inside, sign, decide_eq_true inside]
      rfl
    · rw [List.getElem?_eq_none (by simpa using outside)]
      simp [Nat.not_lt.mpr outside]
  rw [bitmask, ran, same]

end Tests

/-! ## Lanes of another width -/

section Widths

variable {width : Nat} (known : LaneWidth width) (wide : LaneWidth (2 * width))
variable (signed : Bool) (half : Half) (lhs rhs value : Vector128)

theorem count_half : 128 / (2 * width) = 64 / width :=
  Nat.mul_div_mul_left 64 width Nat.two_pos

include wide in
theorem LaneWidth.count_double : 128 / width = 2 * (64 / width) := by
  have fills : width ∣ 64 := Nat.dvd_of_mul_dvd_mul_left (by decide) wide.fills
  exact Nat.mul_div_assoc 2 fills

include known in
theorem LaneWidth.double_bytes : 2 * width / 8 = 2 * (width / 8) :=
  Nat.mul_div_assoc 2 known.bytes

include known wide in
theorem LaneWidth.half_bytes : 64 / width * (width / 8) = 8 := by
  have all := known.count_mul
  rw [wide.count_double, Nat.mul_assoc] at all
  omega

include wide in
theorem LaneWidth.start_lt {index : Nat} (inside : index < 64 / width) :
    half.start width + index < 128 / width := by
  rw [wide.count_double]
  cases half with
  | low =>
    show 0 + index < _
    omega
  | high =>
    show 64 / width + index < _
    omega

include known wide in
/-- The lanes of the low or the high eight bytes. -/
theorem readLane_half {index : Nat} (inside : index < 64 / width) :
    readLane width (if half = .high then (toBytes value).drop 8 else (toBytes value).take 8)
        (index * (width / 8)) =
      .ok (lane width value (half.start width + index)) := by
  rw [← known.readLane_toBytes value (wide.start_lt half inside)]
  cases half with
  | low =>
    have room : index * (width / 8) + width / 8 ≤ 8 := by
      have bytes := Nat.mul_le_mul_right (width / 8) inside
      rwa [known.half_bytes wide, Nat.succ_mul] at bytes
    rw [if_neg (by decide), readLane_take room]
    show _ = readLane width (toBytes value) ((0 + index) * (width / 8))
    rw [Nat.zero_add]
  | high =>
    have start : 8 + index * (width / 8) = (64 / width + index) * (width / 8) := by
      rw [Nat.add_mul, known.half_bytes wide]
    rw [if_pos rfl, readLane_drop (by rw [toBytes_length]; decide), start]
    rfl

include known wide in
/-- Half of the lanes, widened to the whole vector. -/
theorem extendHalf_ok :
    extendHalf width signed (half = .high) value =
      .ok (fromLanes (2 * width) fun index =>
        .ofInt (2 * width) (laneAt width signed value (half.start width + index))) := by
  refine laneLoop_ok wide count_half.symm fun index inside => ?_
  simp only [decide_eq_true_eq]
  rw [readLane_half known wide half value inside, ok_bind, widen_eq (by omega)]
  rfl

include known wide in
theorem extendFrom_ok :
    extendFrom width signed (half.start width) value =
      .ok (fromLanes (2 * width) fun index =>
        .ofInt (2 * width) (laneAt width signed value (half.start width + index))) := by
  refine laneLoop_ok wide rfl fun index inside => ?_
  rw [count_half] at inside
  rw [known.readLane_toBytes value (wide.start_lt half inside), ok_bind, widen_eq (by omega)]
  rfl

include known wide in
theorem multiplyExtended_ok :
    multiplyExtended width signed (half.start width) lhs rhs =
      .ok (fromLanes (2 * width) fun index =>
        .ofInt (2 * width) (laneAt width signed lhs (half.start width + index) *
          laneAt width signed rhs (half.start width + index))) := by
  refine laneLoop_ok wide rfl fun index inside => ?_
  rw [count_half] at inside
  have below := wide.start_lt half inside
  rw [known.readLane_toBytes lhs below, ok_bind, known.readLane_toBytes rhs below, ok_bind,
    plainMul_widen known.positive]
  rfl

/-! ### Adjacent lanes -/

include known wide in
/-- The two lanes that stand where one of the double width stands. -/
theorem readLane_pair {index : Nat} (inside : index < 64 / width) :
    readLane width (toBytes value) (index * (2 * width / 8)) =
        .ok (lane width value (2 * index)) ∧
      readLane width (toBytes value) (index * (2 * width / 8) + width / 8) =
        .ok (lane width value (2 * index + 1)) := by
  have count := wide.count_double
  have first : index * (2 * width / 8) = 2 * index * (width / 8) := by
    rw [known.double_bytes, Nat.mul_left_comm, Nat.mul_assoc]
  have second : index * (2 * width / 8) + width / 8 = (2 * index + 1) * (width / 8) := by
    rw [first, Nat.add_mul, Nat.one_mul]
  rw [second, first, known.readLane_toBytes value (by omega),
    known.readLane_toBytes value (by omega)]
  exact ⟨rfl, rfl⟩

include known wide in
theorem addPairwise_ok :
    addPairwise width signed value =
      .ok (fromLanes (2 * width) fun index =>
        .ofInt (2 * width) (laneAt width signed value (2 * index) +
          laneAt width signed value (2 * index + 1))) := by
  refine laneLoop_ok wide rfl fun index inside => ?_
  rw [count_half] at inside
  obtain ⟨first, second⟩ := readLane_pair known wide value inside
  simp only [first, second, ok_bind]
  rw [plainAdd_widen known.positive]
  rfl

include wide in
/-- A lane of double width in the bytes of two vectors, one behind the other. -/
theorem readLane_append {index : Nat} (inside : index < 128 / width) :
    readLane (2 * width) (toBytes lhs ++ toBytes rhs) (index * (2 * width / 8)) =
      .ok (if index < 64 / width then lane (2 * width) lhs index
        else lane (2 * width) rhs (index - 64 / width)) := by
  have count := wide.count_double
  have left : (toBytes lhs ++ toBytes rhs).take 16 = toBytes lhs :=
    List.take_left' (toBytes_length lhs)
  have right : (toBytes lhs ++ toBytes rhs).drop 16 = toBytes rhs :=
    List.drop_left' (toBytes_length lhs)
  split_ifs with first
  · have below : index < 128 / (2 * width) := by rwa [count_half]
    rw [← readLane_take (wide.le_of_lt_count below), left, wide.readLane_toBytes lhs below]
  · have below : index - 64 / width < 128 / (2 * width) := by
      rw [count_half]
      omega
    have start : index * (2 * width / 8) = 16 + (index - 64 / width) * (2 * width / 8) := by
      have all := wide.count_mul
      rw [count_half] at all
      rw [← all, ← Nat.add_mul]
      congr 1
      omega
    have room : 16 ≤ (toBytes lhs ++ toBytes rhs).length := by
      rw [List.length_append, toBytes_length, toBytes_length]
      decide
    rw [start, ← readLane_drop room, right, wide.readLane_toBytes rhs below]

include known wide in
/-- The lanes of the first operand come first. -/
theorem narrowLanes_ok :
    narrowLanes width signed lhs rhs =
      .ok (fromLanes width fun index =>
        saturate signed width
          (if index < 64 / width then laneAt (2 * width) true lhs index
          else laneAt (2 * width) true rhs (index - 64 / width))) := by
  have positive := known.positive
  refine laneLoop_ok known rfl fun index inside => ?_
  rw [readLane_append wide lhs rhs inside, ok_bind, clampTo_eq signed (by omega)]
  split_ifs with first
  · rfl
  · rfl

end Widths

/-! ## Dot products -/

section Products

variable (lhs rhs addend : Vector128)

theorem laneWidth16 : LaneWidth 16 :=
  ⟨by decide, by decide⟩

theorem laneWidth32 : LaneWidth 32 :=
  ⟨by decide, by decide⟩

theorem laneWidth64 : LaneWidth 64 :=
  ⟨by decide, by decide⟩

/-- Each product is exact, and their sum wraps. -/
theorem dotLanes_ok :
    dotLanes lhs rhs =
      .ok (fromLanes 32 fun index => .ofInt 32 (pairProduct 16 lhs rhs index)) := by
  refine laneLoop_ok laneWidth32 rfl fun index inside => ?_
  obtain ⟨lhsFirst, lhsSecond⟩ := readLane_pair laneWidth16 laneWidth32 lhs inside
  obtain ⟨rhsFirst, rhsSecond⟩ := readLane_pair laneWidth16 laneWidth32 rhs inside
  have product (left right : BitVec 16) :
      plainMul true (widen true 32 left) (widen true 32 right) =
        .ok (.ofInt 32 (valueOf true left * valueOf true right)) :=
    plainMul_widen (by decide) true left right
  rw [pairProduct, BitVec.ofInt_add]
  simp only [lhsFirst, lhsSecond, rhsFirst, rhsSecond, ok_bind, product]
  rfl

/-- The products of two pairs of signed bytes and their sum fit. -/
theorem pairDot_ok {index : Nat} (inside : index < 8) :
    pairDot lhs rhs (index * 2) = .ok (saturate true 16 (pairProduct 8 lhs rhs index)) := by
  obtain ⟨lhsFirst, lhsSecond⟩ := readLane_pair laneWidth8 laneWidth16 lhs inside
  obtain ⟨rhsFirst, rhsSecond⟩ := readLane_pair laneWidth8 laneWidth16 rhs inside
  have product (left right : BitVec 8) :
      -2 ^ 14 ≤ valueOf true left * valueOf true right ∧
        valueOf true left * valueOf true right ≤ 2 ^ 14 :=
    ⟨@BitVec.le_toInt_mul_toInt 8 left right, @BitVec.toInt_mul_toInt_le 8 left right⟩
  have fits {value : Int} (low : -2 ^ 15 ≤ value) (high : value ≤ 2 ^ 15) :
      Fits true 32 value :=
    fits_signed.mpr (by omega)
  have multiplied (left right : BitVec 8) :
      plainMul true (widen true 32 left) (widen true 32 right) =
        .ok (.ofInt 32 (valueOf true left * valueOf true right)) := by
    have bounds := product left right
    rw [plainMul, exactMul_of_fits, valueOf_widen (by decide), valueOf_widen (by decide)]
    · rfl
    · rw [valueOf_widen (by decide), valueOf_widen (by decide)]
      exact fits (by omega) (by omega)
  have first := product (lane 8 lhs (2 * index)) (lane 8 rhs (2 * index))
  have second := product (lane 8 lhs (2 * index + 1)) (lane 8 rhs (2 * index + 1))
  have firstFits := fits (by omega) (first.2.trans (by decide))
  have secondFits := fits (by omega) (second.2.trans (by decide))
  have sumFits := fits (Int.le_trans (by decide) (Int.add_le_add first.1 second.1))
    (Int.le_trans (Int.add_le_add first.2 second.2) (by decide))
  have added := plainAdd_ofInt (by decide) firstFits (by
    rwa [secondFits.valueOf_ofInt (by decide)])
  rw [secondFits.valueOf_ofInt (by decide)] at added
  simp only [pairDot, lhsFirst, lhsSecond, rhsFirst, rhsSecond, ok_bind, multiplied, added]
  rw [clampTo_eq true (by decide), sumFits.valueOf_ofInt (by decide)]
  rfl

theorem dotAccumulate_ok {index : Nat} (inside : index < 4) :
    dotAccumulate lhs rhs addend index =
      .ok (.ofInt 32 (valueOf true (saturate true 16 (pairProduct 8 lhs rhs (2 * index))) +
        valueOf true (saturate true 16 (pairProduct 8 lhs rhs (2 * index + 1))) +
        laneAt 32 true addend index)) := by
  have first : index * 4 = 2 * index * 2 := by omega
  have second : index * 4 + 2 = (2 * index + 1) * 2 := by omega
  have added (left right : BitVec 16) :
      plainAdd true (widen true 32 left) (widen true 32 right) =
        .ok (.ofInt 32 (valueOf true left + valueOf true right)) :=
    plainAdd_widen (by decide) true left right
  have addendLane : readLane 32 (toBytes addend) (index * 4) = .ok (lane 32 addend index) :=
    laneWidth32.readLane_toBytes addend inside
  rw [BitVec.ofInt_add, laneAt, ofInt_valueOf]
  simp only [dotAccumulate, second, addendLane]
  rw [first, pairDot_ok lhs rhs (by omega), pairDot_ok lhs rhs (by omega), ok_bind, ok_bind,
    added]
  rfl

end Products

/-! ## Selected lanes -/

section Selections

variable (lhs rhs : Vector128)

theorem readByte_toBytes (vector : Vector128) {index : Nat} (inside : index < 16) :
    readLane 8 (toBytes vector) index = .ok (lane 8 vector index) := by
  have read := laneWidth8.readLane_toBytes vector inside
  rwa [show index * (8 / 8) = index from Nat.mul_one index] at read

/-- An index outside the vector selects zero. -/
theorem swizzle_ok :
    swizzle lhs rhs =
      .ok (fromLanes 8 fun index => selected [lhs] (lane 8 rhs index).toNat) := by
  refine laneLoop_ok laneWidth8 rfl fun index inside => ?_
  rw [readByte_toBytes rhs inside, ok_bind, selected]
  split_ifs with below
  · rw [readByte_toBytes lhs below, Nat.div_eq_of_lt below, Nat.mod_eq_of_lt below]
    rfl
  · rw [List.getElem?_eq_none (by simp only [List.length_singleton]; omega)]
    rfl

/-- Indices from sixteen on select from the second operand. -/
theorem shuffle_ok {lanes : List UInt8} (full : lanes.length = 16)
    (bounded : ∀ lane ∈ lanes, lane.toNat < 32) :
    shuffle lanes lhs rhs =
      .ok (fromLanes 8 fun index => selected [lhs, rhs] ((lanes[index]?).getD 0).toNat) := by
  refine laneLoop_ok laneWidth8 rfl fun index inside => ?_
  have within : index < lanes.length := by rwa [full]
  have small := bounded lanes[index] (List.getElem_mem within)
  rw [readLane_byte within, ok_bind, List.getElem?_eq_getElem within, Option.getD_some,
    UInt8.toNat_toBitVec, selected]
  split_ifs with first
  · rw [readByte_toBytes lhs first, Nat.div_eq_of_lt first, Nat.mod_eq_of_lt first]
    rfl
  · have quotient : lanes[index].toNat / 16 = 1 := by omega
    have remainder : lanes[index].toNat % 16 = lanes[index].toNat - 16 := by omega
    rw [readByte_toBytes rhs (by omega), quotient, remainder]
    rfl

end Selections

/-! ## Lanes and scalars -/

section Insertions

variable {width : Nat} (known : LaneWidth width) (value : Vector128)
include known

theorem splatLanes_ok (bits : BitVec width) :
    splatLanes bits = .ok (fromLanes width fun _ => bits) :=
  laneLoop_ok known rfl fun _ _ => rfl

theorem insertLane_ok {index : Nat} (inside : index < 128 / width) (bits : BitVec width) :
    insertLane value index bits =
      .ok (fromLanes width fun other =>
        if other = index then bits else lane width value other) := by
  have fits := known.le_of_lt_count inside
  rw [← toBytes_length value] at fits
  rw [insertLane, writeLane, if_pos fits, pure_ok, ok_bind, pure_ok]
  refine congrArg Except.ok (known.eq_of_lanes fun other below => ?_)
  rw [lane_fromLanes known.positive below,
    known.lane_overwrite (toBytes_length value) inside below, ofBytes_toBytes]

end Insertions

end MiniWasm.Runtime
