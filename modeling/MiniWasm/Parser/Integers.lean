import MiniWasm.Library.Leb128
import MiniWasm.Parser.Leb128

/-!
# What the integer decoders accept

A decoder returns a number exactly when the input starts with an encoding of it that is
not too long and the number is in range.
-/

namespace MiniWasm

open Library

/-! ## Bytes -/

/-- What holds of the 256 bytes. -/
theorem forall_byte {motive : UInt8 → Prop} (all : ∀ value : Fin 256, motive (.ofNat value.val))
    (byte : UInt8) : motive byte := by
  have checked := all ⟨byte.toNat, byte.toNat_lt⟩
  rwa [UInt8.ofNat_toNat] at checked

theorem lebContinues_iff (byte : UInt8) : lebContinues byte = true ↔ 128 ≤ byte.toNat :=
  forall_byte (motive := fun byte => lebContinues byte = true ↔ 128 ≤ byte.toNat)
    (by decide +kernel) byte

theorem lebPayload_eq (byte : UInt8) : lebPayload byte = byte.toNat % 128 :=
  forall_byte (motive := fun byte => lebPayload byte = byte.toNat % 128) (by decide +kernel) byte

theorem signBit_iff (byte : UInt8) : (byte &&& 0x40 != 0) = true ↔ 64 ≤ byte.toNat % 128 :=
  forall_byte (motive := fun byte => (byte &&& 0x40 != 0) = true ↔ 64 ≤ byte.toNat % 128)
    (by decide +kernel) byte

/-- Setting higher bits adds their value. -/
theorem or_shiftLeft {result : Nat} (index payload : Nat) (small : result < 128 ^ index) :
    result ||| payload <<< (index * 7) = result + 128 ^ index * payload := by
  have power : 128 ^ index = 2 ^ (index * 7) := by
    rw [Nat.mul_comm, Nat.pow_mul]
  rw [power] at small ⊢
  rw [Nat.or_comm, ← Nat.shiftLeft_add_eq_or_of_lt small, Nat.shiftLeft_eq, Nat.add_comm,
    Nat.mul_comm]

theorem digit_lt {result index payload : Nat} (small : result < 128 ^ index)
    (digit : payload < 128) : result + 128 ^ index * payload < 128 ^ (index + 1) := by
  have : 128 ^ index * payload ≤ 128 ^ index * 127 := Nat.mul_le_mul_left _ (by omega)
  rw [Nat.pow_succ]
  omega

/-- The byte at an index and what comes after it. -/
theorem drop_eq_cons {input : List UInt8} {index : Nat} {byte : UInt8}
    (found : input[index]? = some byte) : input.drop index = byte :: input.drop (index + 1) := by
  obtain ⟨inside, rfl⟩ := List.getElem?_eq_some_iff.mp found
  exact List.drop_eq_getElem_cons inside

theorem drop_eq_nil {input : List UInt8} {index : Nat} (missing : input[index]? = none) :
    input.drop index = [] :=
  List.drop_eq_nil_of_le (List.getElem?_eq_none_iff.mp missing)

theorem add_mul_div {payload digits : Nat} (small : payload < 128) (power : Nat) :
    (payload + 128 * digits) / 128 ^ (power + 1) = digits / 128 ^ power := by
  have first : (payload + 128 * digits) / 128 = digits := by omega
  rw [Nat.pow_succ', ← Nat.div_div_eq_div_mul, first]

/-! ## Unsigned numbers -/

/-- The encodings that the loop of the unsigned decoders accepts, from an index on. -/
structure Unsigned (lastPayload fuel index result : Nat) (bytes : List UInt8)
    (digits value used : Nat) : Prop where
  encoded : LebDigits bytes digits
  short : bytes.length ≤ fuel
  last : bytes.length = fuel → digits / 128 ^ (fuel - 1) ≤ lastPayload
  value : value = result + 128 ^ index * digits
  used : used = index + bytes.length

theorem unsigned_more {lastPayload fuel index result digits value used : Nat} {byte : UInt8}
    {bytes : List UInt8} (continues : 128 ≤ byte.toNat) (nonempty : 0 < bytes.length) :
    Unsigned lastPayload fuel (index + 1) (result + 128 ^ index * (byte.toNat - 128)) bytes digits
        value used ↔
      Unsigned lastPayload (fuel + 1) index result (byte :: bytes)
        (byte.toNat - 128 + 128 * digits) value used := by
  have bound := byte.toNat_lt
  have total : result + 128 ^ index * (byte.toNat - 128) + 128 ^ (index + 1) * digits =
      result + 128 ^ index * (byte.toNat - 128 + 128 * digits) := by
    rw [Nat.pow_succ, Nat.mul_add, Nat.mul_assoc, Nat.add_assoc]
  have lastDigit (full : bytes.length = fuel) :
      (byte.toNat - 128 + 128 * digits) / 128 ^ fuel = digits / 128 ^ (fuel - 1) := by
    obtain ⟨power, rfl⟩ : ∃ power, fuel = power + 1 := ⟨fuel - 1, by omega⟩
    exact add_mul_div (by omega) power
  constructor
  · rintro ⟨encoded, short, last, rfl, rfl⟩
    refine ⟨.more continues encoded, Nat.succ_le_succ short, fun full => ?_, total, ?_⟩
    · have ended : bytes.length = fuel := Nat.succ.inj full
      rw [Nat.add_sub_cancel, lastDigit ended]
      exact last ended
    · rw [List.length_cons]
      omega
  · rintro ⟨encoded, short, last, rfl, rfl⟩
    refine ⟨?_, Nat.le_of_succ_le_succ short, fun full => ?_, total.symm, ?_⟩
    · generalize same : byte.toNat - 128 + 128 * digits = number at encoded
      cases encoded with
      | last => cases nonempty
      | @more _ _ rest _ encoded =>
        have : digits = rest := by omega
        rwa [this]
    · have ended := last (congrArg Nat.succ full)
      rwa [Nat.add_sub_cancel, lastDigit full] at ended
    · rw [List.length_cons]
      omega

theorem decodeUnsigned_ok {lastPayload fuel index result value used : Nat} {input : List UInt8}
    (small : result < 128 ^ index) :
    decodeUnsigned lastPayload input fuel index result = .ok (value, used) ↔
      ∃ bytes rest digits, input.drop index = bytes ++ rest ∧
        Unsigned lastPayload fuel index result bytes digits value used := by
  induction fuel generalizing index result with
  | zero =>
    constructor
    · intro decoded
      cases decoded
    · rintro ⟨bytes, rest, digits, -, encodes⟩
      have := encodes.encoded.length_pos
      have := encodes.short
      omega
  | succ fuel ih =>
    unfold decodeUnsigned
    cases found : input[index]? with
    | none =>
      rw [drop_eq_nil found]
      constructor
      · intro decoded
        cases decoded
      · rintro ⟨bytes, rest, digits, empty, encodes⟩
        have := encodes.encoded.length_pos
        rw [(List.append_eq_nil_iff.mp empty.symm).1] at this
        cases this
    | some byte =>
      have bound := byte.toNat_lt
      rw [drop_eq_cons found]
      dsimp only
      rw [lebPayload_eq, or_shiftLeft index _ small]
      by_cases continues : lebContinues byte = true
      · rw [if_pos continues]
        rw [lebContinues_iff] at continues
        have payload : byte.toNat % 128 = byte.toNat - 128 := by omega
        have next := digit_lt small (show byte.toNat % 128 < 128 by omega)
        rw [payload] at next ⊢
        constructor
        · intro decoded
          split_ifs at decoded with overflows
          obtain ⟨bytes, rest, digits, split, encodes⟩ := (ih next).mp decoded
          refine ⟨byte :: bytes, rest, byte.toNat - 128 + 128 * digits, by rw [split]; rfl, ?_⟩
          exact (unsigned_more continues encodes.encoded.length_pos).mp encodes
        · rintro ⟨bytes, rest, digits, split, encodes⟩
          have encoded := encodes.encoded
          cases encoded with
          | last ends =>
            obtain ⟨rfl, -⟩ := List.cons.inj split
            omega
          | @more _ bytes digits _ encoded =>
            have tails := List.tail_eq_of_cons_eq split
            obtain rfl := List.head_eq_of_cons_eq split
            have nonempty := encoded.length_pos
            have room : ¬ (fuel = 0 ∧ lastPayload < byte.toNat - 128) := by
              have short := encodes.short
              rw [List.length_cons] at short
              omega
            rw [if_neg room]
            exact (ih next).mpr ⟨bytes, rest, digits, tails,
              (unsigned_more continues nonempty).mpr encodes⟩
      · rw [if_neg continues]
        rw [lebContinues_iff, Nat.not_le] at continues
        rw [Nat.mod_eq_of_lt continues]
        constructor
        · intro decoded
          split_ifs at decoded with overflows
          cases decoded
          refine ⟨[byte], input.drop (index + 1), byte.toNat, rfl, .last continues, ?_, ?_, rfl,
            rfl⟩
          · rw [List.length_singleton]
            omega
          · intro full
            rw [List.length_singleton] at full
            obtain rfl : fuel = 0 := by omega
            rw [Nat.pow_zero, Nat.div_one]
            omega
        · rintro ⟨bytes, rest, digits, split, encodes⟩
          have encoded := encodes.encoded
          cases encoded with
          | last ends =>
            obtain ⟨rfl, -⟩ := List.cons.inj split
            have room : ¬ (fuel = 0 ∧ lastPayload < byte.toNat) := by
              rintro ⟨rfl, large⟩
              have := encodes.last rfl
              rw [Nat.pow_zero, Nat.div_one] at this
              omega
            rw [if_neg room, encodes.value, encodes.used]
            rfl
          | more more =>
            obtain ⟨rfl, -⟩ := List.cons.inj split
            omega

theorem decodeU32_ok {input : List UInt8} {value used : Nat} :
    decodeU32 input = .ok (value, used) ↔
      ∃ bytes rest, input = bytes ++ rest ∧ unsignedLeb 32 bytes value ∧ used = bytes.length := by
  unfold decodeU32
  rw [decodeUnsigned_ok (by decide), List.drop_zero]
  constructor
  · rintro ⟨bytes, rest, digits, split, encoded, short, last, same, length⟩
    obtain rfl : value = digits := by omega
    have small := encoded.value_lt
    refine ⟨bytes, rest, split, ⟨encoded, by omega, ?_⟩, by omega⟩
    by_cases full : bytes.length = 5
    · have := last full
      omega
    · have : 128 ^ bytes.length ≤ 128 ^ 4 := Nat.pow_le_pow_right (by decide) (by omega)
      omega
  · rintro ⟨bytes, rest, split, ⟨encoded, short, range⟩, rfl⟩
    refine ⟨bytes, rest, value, split, encoded, by omega, fun _ => ?_, by omega, by omega⟩
    omega

theorem decodeU64_ok {input : List UInt8} {value used : Nat} :
    decodeU64 input = .ok (value, used) ↔
      ∃ bytes rest, input = bytes ++ rest ∧ unsignedLeb 64 bytes value ∧ used = bytes.length := by
  unfold decodeU64
  rw [decodeUnsigned_ok (by decide), List.drop_zero]
  constructor
  · rintro ⟨bytes, rest, digits, split, encoded, short, last, same, length⟩
    obtain rfl : value = digits := by omega
    have small := encoded.value_lt
    refine ⟨bytes, rest, split, ⟨encoded, by omega, ?_⟩, by omega⟩
    by_cases full : bytes.length = 10
    · have := last full
      omega
    · have : 128 ^ bytes.length ≤ 128 ^ 9 := Nat.pow_le_pow_right (by decide) (by omega)
      omega
  · rintro ⟨bytes, rest, split, ⟨encoded, short, range⟩, rfl⟩
    refine ⟨bytes, rest, value, split, encoded, by omega, fun _ => ?_, by omega, by omega⟩
    omega

/-! ## Signed numbers -/

/-- The encodings that the loop of the signed decoders accepts, from an index on. -/
structure Signed (bound : Int) (fuel index result : Nat) (bytes : List UInt8)
    (digits value : Int) (used : Nat) : Prop where
  encoded : SignedDigits bytes digits
  short : bytes.length ≤ fuel
  range : -bound ≤ value ∧ value < bound
  value : value = result + 128 ^ index * digits
  used : used = index + bytes.length

/-- The numbers in range leave the unused bits of a last byte alike. -/
def SpareBits (unusedBits : UInt8) (bound : Int) (size : Nat) : Prop :=
  ∀ byte : UInt8, byte.toNat < 128 →
    -bound < 128 ^ (size - 1) * signedDigit byte + 128 ^ (size - 1) →
      128 ^ (size - 1) * signedDigit byte < bound →
        byte &&& unusedBits = 0 ∨ byte &&& unusedBits = unusedBits

theorem finishSigned_ok {bound value : Int} {byte : UInt8} {result index used : Nat}
    (ends : byte.toNat < 128) :
    finishSigned bound byte (result + 128 ^ index * byte.toNat) index = .ok (value, used) ↔
      value = result + 128 ^ index * signedDigit byte ∧ (-bound ≤ value ∧ value < bound) ∧
        used = index + 1 := by
  have total : (if (byte &&& 0x40 != 0) = true then
      ((result + 128 ^ index * byte.toNat : Nat) : Int) - 2 ^ ((index + 1) * 7)
      else ((result + 128 ^ index * byte.toNat : Nat) : Int)) =
        result + 128 ^ index * signedDigit byte := by
    have power : (2 : Int) ^ ((index + 1) * 7) = 128 ^ index * 128 := by
      rw [Nat.mul_comm, Int.pow_mul, Int.pow_succ]
      rfl
    simp only [signBit_iff, Nat.mod_eq_of_lt ends, signedDigit, power]
    split_ifs with high low low
    · omega
    · push_cast
      rw [Int.mul_sub]
      omega
    · push_cast
      rfl
    · omega
  unfold finishSigned
  rw [total]
  dsimp only
  split_ifs with inside
  · constructor
    · intro finished
      cases finished
      exact ⟨rfl, inside, rfl⟩
    · rintro ⟨rfl, -, rfl⟩
      rfl
  · constructor
    · intro finished
      cases finished
    · rintro ⟨rfl, range, -⟩
      exact absurd range inside

theorem signed_more {bound : Int} {fuel index result : Nat} {digits value : Int} {used : Nat}
    {byte : UInt8} {bytes : List UInt8} (continues : 128 ≤ byte.toNat)
    (nonempty : 0 < bytes.length) :
    Signed bound fuel (index + 1) (result + 128 ^ index * (byte.toNat - 128)) bytes digits
        value used ↔
      Signed bound (fuel + 1) index result (byte :: bytes)
        (byte.toNat - 128 + 128 * digits) value used := by
  have total : ((result + 128 ^ index * (byte.toNat - 128) : Nat) : Int) +
      128 ^ (index + 1) * digits =
        result + 128 ^ index * (byte.toNat - 128 + 128 * digits) := by
    have payload : ((byte.toNat - 128 : Nat) : Int) = byte.toNat - 128 := Int.ofNat_sub continues
    push_cast [payload]
    rw [Int.pow_succ, Int.mul_add, Int.mul_assoc, Int.add_assoc]
  constructor
  · rintro ⟨encoded, short, range, rfl, rfl⟩
    refine ⟨.more continues encoded, Nat.succ_le_succ short, range, total, ?_⟩
    rw [List.length_cons]
    omega
  · rintro ⟨encoded, short, range, rfl, rfl⟩
    refine ⟨?_, Nat.le_of_succ_le_succ short, range, total.symm, ?_⟩
    · generalize same : (byte.toNat : Int) - 128 + 128 * digits = number at encoded
      cases encoded with
      | last => cases nonempty
      | @more _ _ rest _ encoded =>
        have : digits = rest := by omega
        rwa [this]
    · rw [List.length_cons]
      omega

theorem decodeSigned_ok {unusedBits : UInt8} {bound value : Int} {fuel index result used : Nat}
    {input : List UInt8} (spare : SpareBits unusedBits bound (index + fuel))
    (small : result < 128 ^ index) :
    decodeSigned unusedBits bound input fuel index result = .ok (value, used) ↔
      ∃ bytes rest digits, input.drop index = bytes ++ rest ∧
        Signed bound fuel index result bytes digits value used := by
  induction fuel generalizing index result with
  | zero =>
    constructor
    · intro decoded
      cases decoded
    · rintro ⟨bytes, rest, digits, -, encodes⟩
      have := encodes.encoded.length_pos
      have := encodes.short
      omega
  | succ fuel ih =>
    unfold decodeSigned
    cases found : input[index]? with
    | none =>
      rw [drop_eq_nil found]
      constructor
      · intro decoded
        cases decoded
      · rintro ⟨bytes, rest, digits, empty, encodes⟩
        have := encodes.encoded.length_pos
        rw [(List.append_eq_nil_iff.mp empty.symm).1] at this
        cases this
    | some byte =>
      have byteBound := byte.toNat_lt
      rw [drop_eq_cons found]
      dsimp only
      rw [lebPayload_eq, or_shiftLeft index _ small]
      by_cases continues : lebContinues byte = true
      · rw [if_pos continues]
        rw [lebContinues_iff] at continues
        have payload : byte.toNat % 128 = byte.toNat - 128 := by omega
        have next := digit_lt small (show byte.toNat % 128 < 128 by omega)
        have later : SpareBits unusedBits bound (index + 1 + fuel) := by
          rwa [Nat.add_right_comm]
        rw [payload] at next ⊢
        rw [ih later next]
        constructor
        · rintro ⟨bytes, rest, digits, split, encodes⟩
          refine ⟨byte :: bytes, rest, byte.toNat - 128 + 128 * digits, by rw [split]; rfl, ?_⟩
          exact (signed_more continues encodes.encoded.length_pos).mp encodes
        · rintro ⟨bytes, rest, digits, split, encodes⟩
          have encoded := encodes.encoded
          cases encoded with
          | last ends =>
            obtain ⟨rfl, -⟩ := List.cons.inj split
            omega
          | @more _ bytes digits _ encoded =>
            have tails := List.tail_eq_of_cons_eq split
            obtain rfl := List.head_eq_of_cons_eq split
            exact ⟨bytes, rest, digits, tails,
              (signed_more continues encoded.length_pos).mpr encodes⟩
      · rw [if_neg continues]
        rw [lebContinues_iff, Nat.not_le] at continues
        rw [Nat.mod_eq_of_lt continues]
        constructor
        · intro decoded
          split_ifs at decoded with overflows
          obtain ⟨total, range, rfl⟩ := (finishSigned_ok continues).mp decoded
          exact ⟨[byte], input.drop (index + 1), signedDigit byte, rfl, .last continues,
            Nat.le_add_left .., range, total, rfl⟩
        · rintro ⟨bytes, rest, digits, split, encodes⟩
          have encoded := encodes.encoded
          cases encoded with
          | last ends =>
            obtain ⟨rfl, -⟩ := List.cons.inj split
            have total := encodes.value
            have range := encodes.range
            have room : ¬ (fuel = 0 ∧ byte &&& unusedBits ≠ 0 ∧
                byte &&& unusedBits ≠ unusedBits) := by
              rintro ⟨rfl, nonzero, partly⟩
              have power : ((128 ^ index : Nat) : Int) = 128 ^ index := by push_cast; rfl
              have := spare byte ends (by
                rw [Nat.add_sub_cancel]
                omega) (by
                rw [Nat.add_sub_cancel]
                omega)
              exact this.elim nonzero partly
            rw [if_neg room]
            exact (finishSigned_ok continues).mpr ⟨total, range, encodes.used⟩
          | more more =>
            obtain ⟨rfl, -⟩ := List.cons.inj split
            omega

theorem decodeI32_ok {input : List UInt8} {value : Int} {used : Nat} :
    decodeI32 input = .ok (value, used) ↔
      ∃ bytes rest, input = bytes ++ rest ∧ signedLeb 32 bytes value ∧ used = bytes.length := by
  have spare : SpareBits 0x70 (2 ^ 31) (0 + 5) :=
    forall_byte (by unfold signedDigit; decide +kernel)
  unfold decodeI32
  rw [decodeSigned_ok spare (by decide), List.drop_zero]
  constructor
  · rintro ⟨bytes, rest, digits, split, encoded, short, range, same, length⟩
    obtain rfl : value = digits := by omega
    exact ⟨bytes, rest, split, ⟨encoded, by omega, range⟩, by omega⟩
  · rintro ⟨bytes, rest, split, ⟨encoded, short, range⟩, rfl⟩
    exact ⟨bytes, rest, value, split, encoded, by omega, range, by omega, by omega⟩

theorem decodeI64_ok {input : List UInt8} {value : Int} {used : Nat} :
    decodeI64 input = .ok (value, used) ↔
      ∃ bytes rest, input = bytes ++ rest ∧ signedLeb 64 bytes value ∧ used = bytes.length := by
  have spare : SpareBits 0x7e (2 ^ 63) (0 + 10) :=
    forall_byte (by unfold signedDigit; decide +kernel)
  unfold decodeI64
  rw [decodeSigned_ok spare (by decide), List.drop_zero]
  constructor
  · rintro ⟨bytes, rest, digits, split, encoded, short, range, same, length⟩
    obtain rfl : value = digits := by omega
    exact ⟨bytes, rest, split, ⟨encoded, by omega, range⟩, by omega⟩
  · rintro ⟨bytes, rest, split, ⟨encoded, short, range⟩, rfl⟩
    exact ⟨bytes, rest, value, split, encoded, by omega, range, by omega, by omega⟩

theorem decodeS33_ok {input : List UInt8} {value : Int} {used : Nat} :
    decodeS33 input = .ok (value, used) ↔
      ∃ bytes rest, input = bytes ++ rest ∧ signedLeb 33 bytes value ∧ used = bytes.length := by
  have spare : SpareBits 0x60 (2 ^ 32) (0 + 5) :=
    forall_byte (by unfold signedDigit; decide +kernel)
  unfold decodeS33
  rw [decodeSigned_ok spare (by decide), List.drop_zero]
  constructor
  · rintro ⟨bytes, rest, digits, split, encoded, short, range, same, length⟩
    obtain rfl : value = digits := by omega
    exact ⟨bytes, rest, split, ⟨encoded, by omega, range⟩, by omega⟩
  · rintro ⟨bytes, rest, split, ⟨encoded, short, range⟩, rfl⟩
    exact ⟨bytes, rest, value, split, encoded, by omega, range, by omega, by omega⟩

/-! ## Exact decoders -/

/-- A decoder that accepts the encodings of a format at the start of its input, refuses digits
that are not of the format and input in which no digits end, and takes the encoder's bytes,
which are the canonical ones, back to the value. -/
structure DecodesExactly {α : Type} (decode : List UInt8 → Except ParseError (α × Nat))
    (digits format : Format UInt8 α) (encode : α → List UInt8) (fits : α → Prop) : Prop where
  ok_iff : ∀ input value used, decode input = .ok (value, used) ↔
    used ≤ input.length ∧ format (input.take used) value
  unfit : ∀ bytes rest value, digits bytes value → ¬ format bytes value →
    ∃ err, decode (bytes ++ rest) = .error err
  truncated : ∀ input, (∀ byte ∈ input, 128 ≤ byte.toNat) → ∃ err, decode input = .error err
  canonical : ∀ value, fits value → ∀ bytes, Canonical format bytes value ↔ bytes = encode value
  roundTrip : ∀ value, fits value → ∀ rest,
    decode (encode value ++ rest) = .ok (value, (encode value).length)

theorem DecodesExactly.of_ok {α : Type} {decode : List UInt8 → Except ParseError (α × Nat)}
    {digits format : Format UInt8 α} {encode : α → List UInt8} {fits : α → Prop}
    (encodes : ∀ bytes value, format bytes value → digits bytes value)
    (determined : ∀ bytes value others again rest more, digits bytes value →
      digits others again → bytes ++ rest = others ++ more → bytes = others ∧ value = again)
    (ends : ∀ bytes value, digits bytes value → ∃ byte ∈ bytes, byte.toNat < 128)
    (ok : ∀ input value used, decode input = .ok (value, used) ↔
      ∃ bytes rest, input = bytes ++ rest ∧ format bytes value ∧ used = bytes.length)
    (canonical : ∀ value, fits value → ∀ bytes,
      Canonical format bytes value ↔ bytes = encode value) :
    DecodesExactly decode digits format encode fits := by
  have ok_iff (input : List UInt8) (value : α) (used : Nat) :
      decode input = .ok (value, used) ↔
        used ≤ input.length ∧ format (input.take used) value := by
    rw [ok]
    constructor
    · rintro ⟨bytes, rest, rfl, encoded, rfl⟩
      rw [List.take_left, List.length_append]
      exact ⟨Nat.le_add_right .., encoded⟩
    · rintro ⟨short, encoded⟩
      refine ⟨input.take used, input.drop used, (List.take_append_drop ..).symm, encoded, ?_⟩
      rw [List.length_take, Nat.min_eq_left short]
  refine ⟨ok_iff, fun bytes rest value digits unfit => ?_, fun input continues => ?_, canonical,
    fun value inRange rest => ?_⟩
  · cases decoded : decode (bytes ++ rest) with
    | error err => exact ⟨err, rfl⟩
    | ok result =>
      obtain ⟨others, more, split, encoded, -⟩ := (ok _ result.1 result.2).mp decoded
      obtain ⟨rfl, rfl⟩ := determined _ _ _ _ _ _ digits (encodes _ _ encoded) split
      exact absurd encoded unfit
  · cases decoded : decode input with
    | error err => exact ⟨err, rfl⟩
    | ok result =>
      obtain ⟨bytes, rest, rfl, encoded, -⟩ := (ok _ result.1 result.2).mp decoded
      obtain ⟨byte, member, small⟩ := ends _ _ (encodes _ _ encoded)
      have := continues byte (List.mem_append_left rest member)
      omega
  · have encoded := ((canonical value inRange (encode value)).mpr rfl).1
    exact (ok _ _ _).mpr ⟨encode value, rest, rfl, encoded, rfl⟩

/-- The encodings of an unsigned number of so many bits. -/
def unsignedEncoding (width : Nat) : Format UInt8 Nat :=
  fun bytes value => LebDigits bytes value ∧ bytes.length ≤ (width + 6) / 7 ∧
    value < 2 ^ width ∧ UnusedBitsClear width bytes

/-- The encodings of an integer of so many bits. -/
def signedEncoding (width : Nat) : Format UInt8 Int :=
  fun bytes value => SignedDigits bytes value ∧ bytes.length ≤ (width + 6) / 7 ∧
    (-(2 ^ (width - 1)) ≤ value ∧ value < 2 ^ (width - 1)) ∧ UnusedBitsSigned width bytes

theorem unsignedEncoding_eq (width : Nat) : unsignedEncoding width = unsignedLeb width := by
  funext bytes value
  refine propext ⟨fun ⟨digits, short, range, _⟩ => ⟨digits, by omega, range⟩, fun encoded => ?_⟩
  have unused := unsignedLeb_unusedBits encoded
  obtain ⟨digits, short, range⟩ := encoded
  exact ⟨digits, by omega, range, unused⟩

theorem signedEncoding_eq (width : Nat) : signedEncoding width = signedLeb width := by
  funext bytes value
  refine propext ⟨fun ⟨digits, short, range, _⟩ => ⟨digits, by omega, range⟩, fun encoded => ?_⟩
  have unused := signedLeb_unusedBits encoded
  obtain ⟨digits, short, range⟩ := encoded
  exact ⟨digits, by omega, range, unused⟩

theorem exact_unsigned {decode : List UInt8 → Except ParseError (Nat × Nat)} {width : Nat}
    (positive : 0 < width) (ok : ∀ input value used, decode input = .ok (value, used) ↔
      ∃ bytes rest, input = bytes ++ rest ∧ unsignedLeb width bytes value ∧
        used = bytes.length) :
    DecodesExactly decode LebDigits (unsignedEncoding width) lebEncode (· < 2 ^ width) := by
  rw [unsignedEncoding_eq]
  exact .of_ok (fun _ _ encoded => encoded.1)
    (fun _ _ _ _ _ _ digits again => digits.determined again) (fun _ _ digits => digits.ends) ok
    fun value => lebEncode_canonical positive

theorem exact_signed {decode : List UInt8 → Except ParseError (Int × Nat)} {width : Nat}
    (positive : 0 < width) (ok : ∀ input value used, decode input = .ok (value, used) ↔
      ∃ bytes rest, input = bytes ++ rest ∧ signedLeb width bytes value ∧
        used = bytes.length) :
    DecodesExactly decode SignedDigits (signedEncoding width) signedEncode
      fun value => -(2 ^ (width - 1)) ≤ value ∧ value < 2 ^ (width - 1) := by
  rw [signedEncoding_eq]
  exact .of_ok (fun _ _ encoded => encoded.1)
    (fun _ _ _ _ _ _ digits again => digits.determined again) (fun _ _ digits => digits.ends) ok
    fun value => signedEncode_canonical positive

/-- The decoders accept the encodings of the numbers of their widths and no others. -/
theorem decoders_exact :
    DecodesExactly decodeU32 LebDigits (unsignedEncoding 32) lebEncode (· < 2 ^ 32) ∧
    DecodesExactly decodeU64 LebDigits (unsignedEncoding 64) lebEncode (· < 2 ^ 64) ∧
    DecodesExactly decodeI32 SignedDigits (signedEncoding 32) signedEncode
      (fun value => -(2 ^ 31) ≤ value ∧ value < 2 ^ 31) ∧
    DecodesExactly decodeI64 SignedDigits (signedEncoding 64) signedEncode
      (fun value => -(2 ^ 63) ≤ value ∧ value < 2 ^ 63) ∧
    DecodesExactly decodeS33 SignedDigits (signedEncoding 33) signedEncode
      (fun value => -(2 ^ 32) ≤ value ∧ value < 2 ^ 32) :=
  ⟨exact_unsigned (by decide) fun _ _ _ => decodeU32_ok,
    exact_unsigned (by decide) fun _ _ _ => decodeU64_ok,
    exact_signed (by decide) fun _ _ _ => decodeI32_ok,
    exact_signed (by decide) fun _ _ _ => decodeI64_ok,
    exact_signed (by decide) fun _ _ _ => decodeS33_ok⟩

end MiniWasm
