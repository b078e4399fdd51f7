import MiniWasm.Runtime.Memory

/-!
# Lanes and little-endian bytes

What stands in the lanes of a vector that was put together from lanes, and how
vectors and numbers correspond to their little-endian bytes.
-/

namespace MiniWasm.Runtime

open Library

/-! ## Lanes -/

section Lanes

variable {width : Nat} {lanes : Nat → BitVec width} {vector : Vector128}

/-- The first lanes of a vector, put together. -/
theorem getLsbD_foldLanes (positive : 0 < width) {count : Nat} (fits : count * width ≤ 128)
    {position : Nat} :
    ((List.range count).foldl
        (fun (vector : Vector128) index =>
          vector ||| ((lanes index).zeroExtend 128 <<< (index * width))) 0).getLsbD position =
      (decide (position / width < count) &&
        (lanes (position / width)).getLsbD (position % width)) := by
  induction count with
  | zero => simp
  | succ count ih =>
      rw [Nat.add_mul, Nat.one_mul] at fits
      rw [List.range_succ, List.foldl_append, List.foldl_cons, List.foldl_nil,
        BitVec.getLsbD_or, ih (by omega), BitVec.getLsbD_shiftLeft, BitVec.getLsbD_setWidth]
      have divided : position = width * (position / width) + position % width :=
        (Nat.div_add_mod position width).symm
      have below : position % width < width := Nat.mod_lt _ positive
      rcases Nat.lt_trichotomy (position / width) count with before | last | behind
      · have outside : position < count * width := by
          calc position < width * (position / width) + width := by omega
            _ = (position / width + 1) * width := by rw [Nat.add_mul, Nat.one_mul, Nat.mul_comm]
            _ ≤ count * width := Nat.mul_le_mul_right _ before
        simp [before, Nat.lt_succ_of_lt before, outside]
      · have start : count * width + position % width = position := by
          rw [← last, Nat.mul_comm]
          exact Nat.div_add_mod position width
        have inside : position < 128 := by omega
        have offset : position - count * width = position % width := by omega
        have notBefore : ¬ position < count * width := by omega
        have small : position % width < 128 := by omega
        simp [last, inside, offset, notBefore, small]
      · have wide : width ≤ position - count * width := by
          have product : (count + 1) * width ≤ position / width * width :=
            Nat.mul_le_mul_right _ behind
          rw [Nat.add_mul, Nat.one_mul, Nat.mul_comm (position / width)] at product
          omega
        have zero : (lanes count).getLsbD (position - count * width) = false :=
          BitVec.getLsbD_of_ge _ _ wide
        have notBefore : ¬ position / width < count := by omega
        have notLast : ¬ position / width < count + 1 := by omega
        simp [notBefore, notLast, zero]

theorem lane_fromLanes (positive : 0 < width) {index : Nat} (inside : index < 128 / width) :
    lane width (fromLanes width lanes) index = lanes index := by
  have fits : 128 / width * width ≤ 128 := Nat.div_mul_le_self ..
  apply BitVec.eq_of_getLsbD_eq
  intro position below
  have quotient : (index * width + position) / width = index := by
    rw [Nat.mul_comm, Nat.mul_add_div positive, Nat.div_eq_of_lt below, Nat.add_zero]
  have remainder : (index * width + position) % width = position := by
    rw [Nat.mul_comm, Nat.mul_add_mod, Nat.mod_eq_of_lt below]
  rw [lane, BitVec.getLsbD_extractLsb', fromLanes, getLsbD_foldLanes positive fits, quotient,
    remainder]
  simp [below, inside]

theorem lane_splat (positive : 0 < width) {value : BitVec width} {index : Nat}
    (inside : index < 128 / width) : lane width (splat width value) index = value :=
  lane_fromLanes positive inside

theorem lane_replaceLane (positive : 0 < width) {value : BitVec width} {index other : Nat}
    (inside : other < 128 / width) :
    lane width (replaceLane width vector index value) other =
      if other = index then value else lane width vector other :=
  lane_fromLanes positive inside

theorem lane_extendLanes (positive : 0 < width) {signed : Bool} {index : Nat}
    (inside : index < 128 / (2 * width)) :
    lane (2 * width) (extendLanes width signed 0 vector) index =
      BitVec.ofInt (2 * width) (laneValue signed (lane width vector index)) := by
  rw [extendLanes, lane_fromLanes (by omega) inside, Nat.zero_add]

theorem lane_toNat (width : Nat) (vector : Vector128) (index : Nat) :
    (lane width vector index).toNat = vector.toNat / 2 ^ (index * width) % 2 ^ width := by
  rw [lane, BitVec.extractLsb'_toNat, Nat.shiftRight_eq_div_pow]

end Lanes

/-! ## Little-endian numbers -/

namespace LinearMemory

theorem fromLeBytes_lt (bytes : List UInt8) : fromLeBytes bytes < 256 ^ bytes.length := by
  induction bytes with
  | nil => exact Nat.one_pos
  | cons byte rest ih =>
      have small : byte.toNat < 256 := byte.toNat_lt
      rw [fromLeBytes, List.length_cons, Nat.pow_succ]
      omega

theorem fromLeBytes_toLeBytes (width value : Nat) :
    fromLeBytes (toLeBytes width value) = value % 256 ^ width := by
  induction width generalizing value with
  | zero => rw [toLeBytes, fromLeBytes, Nat.pow_zero, Nat.mod_one]
  | succ width ih =>
      have low : (UInt8.ofNat value).toNat = value % 256 := by simp
      rw [toLeBytes, fromLeBytes, ih, low, Nat.pow_succ', Nat.mod_mul]

theorem toLeBytes_fromLeBytes (bytes : List UInt8) :
    toLeBytes bytes.length (fromLeBytes bytes) = bytes := by
  induction bytes with
  | nil => rfl
  | cons byte rest ih =>
      have small : byte.toNat < 256 := byte.toNat_lt
      have high : (byte.toNat + 256 * fromLeBytes rest) / 256 = fromLeBytes rest := by omega
      have low : UInt8.ofNat (byte.toNat + 256 * fromLeBytes rest) = byte := by
        apply UInt8.toNat_inj.mp
        rw [UInt8.toNat_ofNat']
        omega
      rw [List.length_cons, fromLeBytes, toLeBytes, high, low, ih]

theorem getElem?_toLeBytes (width value index : Nat) :
    (toLeBytes width value)[index]? =
      if index < width then some (UInt8.ofNat (value / 256 ^ index)) else none := by
  induction width generalizing value index with
  | zero => simp [toLeBytes]
  | succ width ih =>
      cases index with
      | zero => simp [toLeBytes]
      | succ index =>
          rw [toLeBytes, List.getElem?_cons_succ, ih, Nat.div_div_eq_div_mul, Nat.pow_succ']
          simp only [Nat.add_lt_add_iff_right]

end LinearMemory

open LinearMemory

/-! ## Vectors and their bytes -/

theorem toBytes_eq (vector : Vector128) : toBytes vector = toLeBytes 16 vector.toNat := by
  apply List.ext_getElem?
  intro index
  rw [getElem?_toLeBytes, toBytes, List.getElem?_map]
  split
  · next inside =>
      rw [List.getElem?_range inside, Option.map_some, Option.some.injEq]
      apply UInt8.toNat_inj.mp
      rw [UInt8.toNat_ofNat', UInt8.toNat_ofBitVec, lane_toNat, Nat.mul_comm index 8,
        Nat.pow_mul]
  · next outside =>
      rw [List.getElem?_eq_none (by simpa using Nat.le_of_not_lt outside)]
      rfl

/-- A vector is the little-endian number of its bytes. -/
theorem ofBytes_eq {bytes : List UInt8} (short : bytes.length ≤ 16) :
    ofBytes bytes = BitVec.ofNat 128 (fromLeBytes bytes) := by
  have small : fromLeBytes bytes < 2 ^ 128 := by
    calc fromLeBytes bytes < 256 ^ bytes.length := fromLeBytes_lt bytes
      _ ≤ 256 ^ 16 := Nat.pow_le_pow_right (by decide) short
      _ = 2 ^ 128 := by decide
  apply BitVec.eq_of_getLsbD_eq
  intro position below
  have bits := @getLsbD_foldLanes 8 (fun index => ((bytes[index]?).getD 0).toBitVec) (by decide)
    16 (by decide) position
  rw [ofBytes, fromLanes]
  refine bits.trans ?_
  have inside : position / 8 < 16 := by omega
  rw [decide_eq_true inside, Bool.true_and, BitVec.getLsbD_ofNat, decide_eq_true below,
    Bool.true_and]
  clear bits inside below small
  induction bytes generalizing position with
  | nil => simp [fromLeBytes]
  | cons byte rest ih =>
      have byteSmall : byte.toNat < 2 ^ 8 := byte.toNat_lt
      have split : fromLeBytes (byte :: rest) = 2 ^ 8 * fromLeBytes rest + byte.toNat := by
        rw [fromLeBytes, Nat.add_comm]
        rfl
      rw [split, Nat.testBit_two_pow_mul_add _ byteSmall]
      rcases Nat.lt_or_ge position 8 with first | later
      · have quotient : position / 8 = 0 := Nat.div_eq_of_lt first
        rw [quotient, Nat.mod_eq_of_lt first, if_pos first]
        rfl
      · have quotient : position / 8 = (position - 8) / 8 + 1 := by omega
        have remainder : position % 8 = (position - 8) % 8 := by omega
        rw [quotient, remainder, if_neg (Nat.not_lt.mpr later), List.getElem?_cons_succ]
        exact ih (Nat.le_of_succ_le short) (position - 8)

end MiniWasm.Runtime
