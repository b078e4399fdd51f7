import MiniWasm.Runtime.Lanes
import MiniWasm.Runtime.Simd

/-!
# Loops over lanes

What the lane loops read are the lanes of their operands, and what they write are the lanes of
their result.
-/

namespace MiniWasm.Runtime

open Library LinearMemory

/-! ## Slices of little-endian numbers -/

namespace LinearMemory

theorem drop_toLeBytes (width value start : Nat) :
    (toLeBytes width value).drop start = toLeBytes (width - start) (value / 256 ^ start) := by
  induction start generalizing width value with
  | zero => simp
  | succ start ih =>
    cases width with
    | zero => simp [toLeBytes]
    | succ width =>
      rw [toLeBytes, List.drop_succ_cons, ih, Nat.div_div_eq_div_mul, ← Nat.pow_succ',
        Nat.succ_sub_succ]

theorem take_toLeBytes {width count : Nat} (value : Nat) (inside : count ≤ width) :
    (toLeBytes width value).take count = toLeBytes count value := by
  induction count generalizing width value with
  | zero => rfl
  | succ count ih =>
    cases width with
    | zero => omega
    | succ width =>
      rw [toLeBytes, toLeBytes, List.take_succ_cons, ih _ (Nat.le_of_succ_le_succ inside)]

/-- A slice of the bytes is a slice of the digits. -/
theorem fromLeBytes_slice {bytes : List UInt8} {start count : Nat}
    (inside : start + count ≤ bytes.length) :
    fromLeBytes ((bytes.drop start).take count) =
      fromLeBytes bytes / 256 ^ start % 256 ^ count := by
  have digits := toLeBytes_fromLeBytes bytes
  rw [← digits, drop_toLeBytes, take_toLeBytes _ (by omega), fromLeBytes_toLeBytes, digits]

end LinearMemory

/-! ## The bytes of a vector -/

@[simp] theorem toBytes_length (vector : Vector128) : (toBytes vector).length = 16 := by
  simp [toBytes]

@[simp] theorem fromLeBytes_toBytes (vector : Vector128) :
    fromLeBytes (toBytes vector) = vector.toNat := by
  rw [toBytes_eq, fromLeBytes_toLeBytes]
  exact Nat.mod_eq_of_lt vector.isLt

@[simp] theorem ofBytes_toBytes (vector : Vector128) : ofBytes (toBytes vector) = vector := by
  rw [ofBytes_eq (toBytes_length vector).le, fromLeBytes_toBytes, BitVec.ofNat_toNat,
    BitVec.setWidth_eq]

/-! ## Lanes of whole bytes -/

/-- Lanes of whole bytes that fill a vector. -/
structure LaneWidth (width : Nat) : Prop where
  bytes : 8 ∣ width
  fills : width ∣ 128

section Reads

variable {width index : Nat} {bytes : List UInt8}

namespace LaneWidth

variable (known : LaneWidth width)
include known

theorem positive : 0 < width :=
  Nat.pos_of_dvd_of_pos known.fills (by decide)

theorem bytes_mul : 8 * (width / 8) = width :=
  Nat.mul_div_cancel' known.bytes

/-- The bytes of all lanes. -/
theorem count_mul : 128 / width * (width / 8) = 16 := by
  have whole : 128 / width * (8 * (width / 8)) = 128 := by
    rw [known.bytes_mul]
    exact Nat.div_mul_cancel known.fills
  rw [Nat.mul_left_comm] at whole
  omega

theorem le_of_lt_count (inside : index < 128 / width) :
    index * (width / 8) + width / 8 ≤ 16 := by
  rw [← known.count_mul, ← Nat.succ_mul]
  exact Nat.mul_le_mul_right _ inside

theorem pow_bytes (count : Nat) : 256 ^ (count * (width / 8)) = 2 ^ (count * width) := by
  have base : 256 = 2 ^ 8 := rfl
  rw [base, ← Nat.pow_mul, Nat.mul_left_comm, known.bytes_mul]

/-- The lane of a vector is the little-endian number of its bytes. -/
theorem lane_eq (vector : Vector128) (index : Nat) :
    lane width vector index =
      .ofNat width (vector.toNat / 256 ^ (index * (width / 8)) % 256 ^ (width / 8)) := by
  have single := known.pow_bytes 1
  rw [Nat.one_mul, Nat.one_mul] at single
  apply BitVec.eq_of_toNat_eq
  rw [BitVec.toNat_ofNat, lane_toNat, known.pow_bytes, single, Nat.mod_mod]

theorem lane_ofBytes (full : bytes.length = 16) (inside : index < 128 / width) :
    lane width (ofBytes bytes) index =
      .ofNat width (fromLeBytes ((bytes.drop (index * (width / 8))).take (width / 8))) := by
  have fits := known.le_of_lt_count inside
  have small : fromLeBytes bytes < 2 ^ 128 := by
    have bound := fromLeBytes_lt bytes
    rwa [full] at bound
  rw [fromLeBytes_slice (by omega), known.lane_eq, ofBytes_eq full.le, BitVec.toNat_ofNat,
    Nat.mod_eq_of_lt small]

/-- Vectors with the same lanes are the same. -/
theorem eq_of_lanes {left right : Vector128}
    (same : ∀ index < 128 / width, lane width left index = lane width right index) :
    left = right := by
  apply BitVec.eq_of_getLsbD_eq
  intro position below
  have inside : position / width < 128 / width :=
    Nat.div_lt_div_of_lt_of_dvd known.fills below
  have bits := congrArg (·.getLsbD (position % width)) (same _ inside)
  have split : position / width * width + position % width = position := by
    rw [Nat.mul_comm]
    exact Nat.div_add_mod position width
  simpa [lane, Nat.mod_lt _ known.positive, split] using bits

/-! ### Writing -/

/-- What a lane write does to the lanes. -/
theorem lane_overwrite (full : bytes.length = 16) {other : Nat} (inside : index < 128 / width)
    (below : other < 128 / width) (bits : BitVec width) :
    lane width (ofBytes (overwrite bytes (index * (width / 8)) (toLeBytes (width / 8) bits.toNat)))
        other =
      if other = index then bits else lane width (ofBytes bytes) other := by
  have fits := known.le_of_lt_count inside
  have payload : (toLeBytes (width / 8) bits.toNat).length = width / 8 := toLeBytes_length ..
  have single := known.pow_bytes 1
  rw [Nat.one_mul, Nat.one_mul] at single
  rw [known.lane_ofBytes (by rw [overwrite_length, full]) below]
  split_ifs with same
  · have read := @take_drop_overwrite _ bytes (toLeBytes (width / 8) bits.toNat)
      (index * (width / 8)) (by rw [payload, full]; exact fits)
    rw [payload] at read
    rw [same, read, fromLeBytes_toLeBytes, single, Nat.mod_eq_of_lt bits.isLt,
      BitVec.ofNat_toNat, BitVec.setWidth_eq]
  · have apart : other * (width / 8) + width / 8 ≤ index * (width / 8) ∨
        index * (width / 8) + width / 8 ≤ other * (width / 8) := by
      rw [← Nat.succ_mul, ← Nat.succ_mul]
      rcases Nat.lt_or_gt_of_ne same with before | behind
      · exact .inl (Nat.mul_le_mul_right _ before)
      · exact .inr (Nat.mul_le_mul_right _ behind)
    rw [take_drop_overwrite_apart (by rwa [payload]), known.lane_ofBytes full below]

/-! ### Reading -/

theorem readLane_toBytes (vector : Vector128) (inside : index < 128 / width) :
    readLane width (toBytes vector) (index * (width / 8)) = .ok (lane width vector index) := by
  have fits : index * (width / 8) + width / 8 ≤ (toBytes vector).length := by
    rw [toBytes_length]
    exact known.le_of_lt_count inside
  rw [readLane, if_pos fits, fromLeBytes_slice fits, fromLeBytes_toBytes, ← known.lane_eq]
  rfl

end LaneWidth

theorem readLane_byte {start : Nat} (inside : start < bytes.length) :
    readLane 8 bytes start = .ok ((bytes[start]?).getD 0).toBitVec := by
  have fits : start + 8 / 8 ≤ bytes.length := inside
  have slice : (bytes.drop start).take 1 = [bytes[start]] := by
    rw [List.take_one, List.head?_drop, List.getElem?_eq_getElem inside]
    rfl
  rw [readLane, if_pos fits, slice, List.getElem?_eq_getElem inside]
  show Except.ok (BitVec.ofNat 8 (bytes[start].toNat + 256 * 0)) = _
  rw [Nat.mul_zero, Nat.add_zero, ← UInt8.toNat_toBitVec, BitVec.ofNat_toNat, BitVec.setWidth_eq]
  rfl

theorem readLane_take {start count : Nat} (inside : start + width / 8 ≤ count) :
    readLane width (bytes.take count) start = readLane width bytes start := by
  have slice : ((bytes.take count).drop start).take (width / 8) =
      (bytes.drop start).take (width / 8) := by
    rw [List.drop_take, List.take_take, Nat.min_eq_left (by omega)]
  have room : start + width / 8 ≤ (bytes.take count).length ↔
      start + width / 8 ≤ bytes.length := by
    rw [List.length_take]
    omega
  rw [readLane, readLane, slice]
  simp only [room]

theorem readLane_drop {start count : Nat} (inside : count ≤ bytes.length) :
    readLane width (bytes.drop count) start = readLane width bytes (count + start) := by
  have room : start + width / 8 ≤ (bytes.drop count).length ↔
      count + start + width / 8 ≤ bytes.length := by
    rw [List.length_drop]
    omega
  rw [readLane, readLane, List.drop_drop]
  simp only [room]

end Reads

/-! ## The loops -/

section Loops

variable {width count : Nat} (known : LaneWidth width)
include known

/-- After some rounds, their outputs stand in the first lanes. -/
theorem laneLoop_rounds {output : Nat → Run (BitVec width)} {lanes : Nat → BitVec width}
    (bounded : count ≤ 128 / width) (outputs : ∀ lane < count, output lane = .ok (lanes lane)) :
    ∃ result : List UInt8,
      (List.range count).foldlM (fun (result : List UInt8) lane => do
        writeLane result (lane * (width / 8)) (← output lane)) (List.replicate 16 0) =
          .ok result ∧
      result.length = 16 ∧
      ∀ index < count, lane width (ofBytes result) index = lanes index := by
  induction count with
  | zero => exact ⟨_, rfl, List.length_replicate, fun _ below => absurd below (Nat.not_lt_zero _)⟩
  | succ count ih =>
    obtain ⟨before, ran, full, written⟩ :=
      ih (by omega) fun lane below => outputs lane (Nat.lt_succ_of_lt below)
    have fits := known.le_of_lt_count (Nat.lt_of_succ_le bounded)
    rw [← full] at fits
    refine ⟨overwrite before (count * (width / 8)) (toLeBytes (width / 8) (lanes count).toNat),
      ?_, by rw [overwrite_length, full], fun index below => ?_⟩
    · rw [List.range_succ, List.foldlM_append, ran, ok_bind, List.foldlM_cons,
        outputs count (Nat.lt_succ_self _), ok_bind, writeLane, if_pos fits]
      rfl
    · rw [known.lane_overwrite full (by omega) (by omega)]
      split_ifs with last
      · rw [last]
      · exact written index (by omega)

/-- A loop over all lanes returns the vector of its outputs. -/
theorem laneLoop_ok {output : Nat → Run (BitVec width)} {lanes : Nat → BitVec width}
    (all : count = 128 / width) (outputs : ∀ lane < count, output lane = .ok (lanes lane)) :
    laneLoop count output = .ok (fromLanes width lanes) := by
  obtain ⟨result, ran, -, written⟩ := laneLoop_rounds known all.le outputs
  have same : ofBytes result = fromLanes width lanes := by
    apply known.eq_of_lanes
    intro index inside
    rw [written index (by rwa [all]), lane_fromLanes known.positive inside]
  rw [laneLoop, ran, ok_bind, same]
  rfl

theorem mapLanes_ok {operation : BitVec width → Run (BitVec width)}
    {function : BitVec width → BitVec width}
    (total : ∀ bits, operation bits = .ok (function bits)) (value : Vector128) :
    mapLanes width operation value =
      .ok (fromLanes width fun index => function (lane width value index)) := by
  refine laneLoop_ok known rfl fun index inside => ?_
  rw [known.readLane_toBytes value inside, ok_bind, total]

theorem zipLanes_ok {operation : BitVec width → BitVec width → Run (BitVec width)}
    {function : BitVec width → BitVec width → BitVec width}
    (total : ∀ left right, operation left right = .ok (function left right))
    (lhs rhs : Vector128) :
    zipLanes width operation lhs rhs =
      .ok (fromLanes width fun index =>
        function (lane width lhs index) (lane width rhs index)) := by
  refine laneLoop_ok known rfl fun index inside => ?_
  rw [known.readLane_toBytes lhs inside, ok_bind, known.readLane_toBytes rhs inside,
    ok_bind, total]

theorem zipLanes3_ok
    {operation : BitVec width → BitVec width → BitVec width → Run (BitVec width)}
    {function : BitVec width → BitVec width → BitVec width → BitVec width}
    (total : ∀ first second third,
      operation first second third = .ok (function first second third))
    (first second third : Vector128) :
    zipLanes3 width operation first second third =
      .ok (fromLanes width fun index =>
        function (lane width first index) (lane width second index) (lane width third index)) := by
  refine laneLoop_ok known rfl fun index inside => ?_
  rw [known.readLane_toBytes first inside, ok_bind,
    known.readLane_toBytes second inside, ok_bind,
    known.readLane_toBytes third inside, ok_bind, total]

/-! ### Operations that cannot fail -/

theorem mapPure_ok (operation : BitVec width → BitVec width) (value : Vector128) :
    mapPure width operation value =
      .ok (fromLanes width fun index => operation (lane width value index)) :=
  mapLanes_ok known (fun _ => rfl) value

theorem zipPure_ok (operation : BitVec width → BitVec width → BitVec width)
    (lhs rhs : Vector128) :
    zipPure width operation lhs rhs =
      .ok (fromLanes width fun index =>
        operation (lane width lhs index) (lane width rhs index)) :=
  zipLanes_ok known (fun _ _ => rfl) lhs rhs

end Loops

end MiniWasm.Runtime
