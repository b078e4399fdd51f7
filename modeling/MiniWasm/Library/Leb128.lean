import Mathlib.Algebra.Group.Int.Defs
import Mathlib.Algebra.Group.Nat.Defs
import MiniWasm.Library.Format

/-!
# Numbers in base 128

A number as a string of bytes that carry seven bits each, lowest first; every byte but the
last has its high bit set.  A signed number takes its sign from the last byte.
-/

namespace MiniWasm.Library

/-- The bytes of a natural number. -/
inductive LebDigits : Format UInt8 Nat where
  | last {byte : UInt8} (ends : byte.toNat < 128) : LebDigits [byte] byte.toNat
  | more {byte : UInt8} {bytes : List UInt8} {value : Nat} (continues : 128 ≤ byte.toNat)
      (rest : LebDigits bytes value) :
      LebDigits (byte :: bytes) (byte.toNat - 128 + 128 * value)

/-- A byte of seven bits in two's complement. -/
def signedDigit (byte : UInt8) : Int :=
  if byte.toNat < 64 then byte.toNat else byte.toNat - 128

/-- The bytes of an integer. -/
inductive SignedDigits : Format UInt8 Int where
  | last {byte : UInt8} (ends : byte.toNat < 128) : SignedDigits [byte] (signedDigit byte)
  | more {byte : UInt8} {bytes : List UInt8} {value : Int} (continues : 128 ≤ byte.toNat)
      (rest : SignedDigits bytes value) :
      SignedDigits (byte :: bytes) (byte.toNat - 128 + 128 * value)

/-- A number of so many bits, in no more bytes than these bits can need. -/
def unsignedLeb (width : Nat) : Format UInt8 Nat :=
  fun used value => LebDigits used value ∧ 7 * used.length < width + 7 ∧ value < 2 ^ width

/-- An integer of so many bits, in no more bytes than these bits can need. -/
def signedLeb (width : Nat) : Format UInt8 Int :=
  fun used value => SignedDigits used value ∧ 7 * used.length < width + 7 ∧
    -(2 ^ (width - 1)) ≤ value ∧ value < 2 ^ (width - 1)

/-- The bits of the last byte that the number has no room for are zero. -/
def UnusedBitsClear (width : Nat) (bytes : List UInt8) : Prop :=
  ∀ init last, bytes = init ++ [last] → last.toNat < 2 ^ (width - 7 * init.length)

/-- The bits of the last byte that the number has no room for repeat its sign. -/
def UnusedBitsSigned (width : Nat) (bytes : List UInt8) : Prop :=
  ∀ init last, bytes = init ++ [last] →
    -(2 ^ (width - 1 - 7 * init.length)) ≤ signedDigit last ∧
      signedDigit last < 2 ^ (width - 1 - 7 * init.length)

/-- An encoding that is as short as any of the same value. -/
def Canonical {α : Type} (format : Format UInt8 α) (bytes : List UInt8) (value : α) : Prop :=
  format bytes value ∧ ∀ other, format other value → bytes.length ≤ other.length

/-- The shortest bytes of a natural number. -/
def lebEncode (value : Nat) : List UInt8 :=
  if value < 128 then
    [.ofNat value]
  else
    .ofNat (value % 128 + 128) :: lebEncode (value / 128)

/-- The shortest bytes of an integer. -/
def signedEncode (value : Int) : List UInt8 :=
  if -64 ≤ value ∧ value < 64 then
    [.ofNat (value % 128).toNat]
  else
    .ofNat ((value % 128).toNat + 128) :: signedEncode (value / 128)
termination_by value.natAbs
decreasing_by omega

namespace LebDigits

variable {bytes : List UInt8} {value : Nat}

theorem length_pos (digits : LebDigits bytes value) : 0 < bytes.length := by
  cases digits <;> simp

theorem value_lt (digits : LebDigits bytes value) : value < 128 ^ bytes.length := by
  induction digits with
  | last ends => simpa using ends
  | @more byte bytes value continues rest ih =>
    have := byte.toNat_lt
    rw [List.length_cons, Nat.pow_succ]
    omega

/-- The last byte is the highest digit. -/
theorem last_eq (digits : LebDigits bytes value) {init : List UInt8} {last : UInt8}
    (split : bytes = init ++ [last]) : last.toNat = value / 128 ^ init.length := by
  induction digits generalizing init with
  | last ends =>
    cases init with
    | nil =>
      cases split
      exact (Nat.div_one _).symm
    | cons first init => simp at split
  | @more byte bytes value continues rest ih =>
    cases init with
    | nil =>
      cases split
      cases rest
    | cons first init =>
      have tails : bytes = init ++ [last] := List.tail_eq_of_cons_eq split
      have := byte.toNat_lt
      have digit : (byte.toNat - 128 + 128 * value) / 128 = value := by omega
      rw [List.length_cons, Nat.pow_succ', ← Nat.div_div_eq_div_mul, digit]
      exact ih tails

/-- The bytes show where they end, and what they encode. -/
theorem determined (digits : LebDigits bytes value) {others rest more : List UInt8} {again : Nat}
    (other : LebDigits others again) (same : bytes ++ rest = others ++ more) :
    bytes = others ∧ value = again := by
  induction digits generalizing others again with
  | @last byte ends =>
    cases other with
    | last => exact ⟨congrArg (· :: []) (List.head_eq_of_cons_eq same),
        congrArg UInt8.toNat (List.head_eq_of_cons_eq same)⟩
    | more continues =>
      obtain rfl := List.head_eq_of_cons_eq same
      omega
  | @more byte bytes value continues _ ih =>
    cases other with
    | last ends =>
      obtain rfl := List.head_eq_of_cons_eq same
      omega
    | more _ other =>
      obtain ⟨rfl, rfl⟩ := ih other (List.tail_eq_of_cons_eq same)
      obtain rfl := List.head_eq_of_cons_eq same
      exact ⟨rfl, rfl⟩

theorem ends (digits : LebDigits bytes value) : ∃ byte ∈ bytes, byte.toNat < 128 := by
  induction digits with
  | last ends => exact ⟨_, List.mem_singleton_self _, ends⟩
  | more _ _ ih => exact ih.imp fun _ found => ⟨List.mem_cons_of_mem _ found.1, found.2⟩

/-- Bytes of one length encode different numbers. -/
theorem unique (digits : LebDigits bytes value) {others : List UInt8}
    (again : LebDigits others value) (length : bytes.length = others.length) :
    bytes = others := by
  induction digits generalizing others with
  | @last byte ends =>
    generalize same : byte.toNat = value at again
    cases again with
    | last => rw [UInt8.toNat_inj.mp same]
    | more continues rest =>
      have := rest.length_pos
      simp only [List.length_cons, List.length_nil] at length
      omega
  | @more byte bytes value continues rest ih =>
    generalize same : byte.toNat - 128 + 128 * value = total at again
    cases again with
    | last =>
      have := rest.length_pos
      simp only [List.length_cons, List.length_nil] at length
      omega
    | @more other others number more again =>
      have := byte.toNat_lt
      have := other.toNat_lt
      obtain rfl : value = number := by omega
      obtain rfl : byte = other := UInt8.toNat_inj.mp (by omega)
      rw [ih again (Nat.succ.inj length)]

end LebDigits

theorem lebEncode_digits (value : Nat) : LebDigits (lebEncode value) value := by
  induction value using lebEncode.induct with
  | case1 value small =>
    have byte : (UInt8.ofNat value).toNat = value :=
      UInt8.toNat_ofNat_of_lt' (show _ < 256 by omega)
    rw [lebEncode, if_pos small]
    have digits := @LebDigits.last (.ofNat value) (by omega)
    rwa [byte] at digits
  | case2 value large ih =>
    have byte : (UInt8.ofNat (value % 128 + 128)).toNat = value % 128 + 128 :=
      UInt8.toNat_ofNat_of_lt' (show _ < 256 by omega)
    rw [lebEncode, if_neg large]
    have digits := @LebDigits.more (.ofNat (value % 128 + 128)) _ _ (by omega) ih
    have total : value % 128 + 128 - 128 + 128 * (value / 128) = value := by omega
    rwa [byte, total] at digits

theorem lebEncode_shortest {value : Nat} {bytes : List UInt8} (digits : LebDigits bytes value) :
    (lebEncode value).length ≤ bytes.length := by
  induction digits with
  | last ends =>
    rw [lebEncode, if_pos ends]
    exact Nat.le_refl _
  | @more byte bytes value continues rest ih =>
    have := byte.toNat_lt
    rw [lebEncode]
    split_ifs
    · exact Nat.succ_le_succ (Nat.zero_le _)
    · have digit : (byte.toNat - 128 + 128 * value) / 128 = value := by omega
      rw [digit]
      exact Nat.succ_le_succ ih

theorem lebEncode_fits {value width : Nat} (positive : 0 < width) (fits : value < 2 ^ width) :
    7 * (lebEncode value).length < width + 7 := by
  induction value using lebEncode.induct generalizing width with
  | case1 value small =>
    rw [lebEncode, if_pos small, List.length_singleton]
    omega
  | case2 value large ih =>
    rw [lebEncode, if_neg large, List.length_cons]
    have wide : 7 < width := by
      by_contra narrow
      have : 2 ^ width ≤ 2 ^ 7 := Nat.pow_le_pow_right (by decide) (by omega)
      omega
    have split : 2 ^ width = 2 ^ (width - 7) * 128 := by
      rw [← Nat.pow_add 2 (width - 7) 7, Nat.sub_add_cancel (by omega)]
    have := @ih (width - 7) (by omega) (by omega)
    omega

theorem unsignedLeb_unusedBits {width value : Nat} {bytes : List UInt8}
    (encoded : unsignedLeb width bytes value) : UnusedBitsClear width bytes := by
  rintro init last rfl
  obtain ⟨digits, short, range⟩ := encoded
  rw [List.length_append, List.length_singleton] at short
  have split : 2 ^ width = 2 ^ (width - 7 * init.length) * 128 ^ init.length := by
    rw [show 128 ^ init.length = 2 ^ (7 * init.length) from (Nat.pow_mul 2 7 _).symm,
      ← Nat.pow_add, Nat.sub_add_cancel (by omega)]
  rw [digits.last_eq rfl, Nat.div_lt_iff_lt_mul (Nat.pow_pos (by decide)), ← split]
  exact range

/-- The encoder's bytes are the canonical ones. -/
theorem lebEncode_canonical {width value : Nat} (positive : 0 < width) (fits : value < 2 ^ width)
    (bytes : List UInt8) :
    Canonical (unsignedLeb width) bytes value ↔ bytes = lebEncode value := by
  have encoded : unsignedLeb width (lebEncode value) value :=
    ⟨lebEncode_digits value, lebEncode_fits positive fits, fits⟩
  constructor
  · rintro ⟨⟨digits, -⟩, shortest⟩
    refine digits.unique (lebEncode_digits value) ?_
    exact Nat.le_antisymm (shortest _ encoded) (lebEncode_shortest digits)
  · rintro rfl
    exact ⟨encoded, fun other found => lebEncode_shortest found.1⟩

namespace SignedDigits

variable {bytes : List UInt8} {value : Int}

theorem length_pos (digits : SignedDigits bytes value) : 0 < bytes.length := by
  cases digits <;> simp

/-- The last byte is the highest digit. -/
theorem last_eq (digits : SignedDigits bytes value) {init : List UInt8} {last : UInt8}
    (split : bytes = init ++ [last]) : signedDigit last = value / 128 ^ init.length := by
  induction digits generalizing init with
  | last ends =>
    cases init with
    | nil =>
      cases split
      exact (Int.ediv_one _).symm
    | cons first init => simp at split
  | @more byte bytes value continues rest ih =>
    cases init with
    | nil =>
      cases split
      cases rest
    | cons first init =>
      have tails : bytes = init ++ [last] := List.tail_eq_of_cons_eq split
      have := byte.toNat_lt
      have digit : ((byte.toNat : Int) - 128 + 128 * value) / 128 = value := by omega
      have power : (128 : Int) ^ (init.length + 1) = 128 * 128 ^ init.length := by
        rw [Int.pow_succ, Int.mul_comm]
      rw [List.length_cons, power, ← Int.ediv_ediv_of_nonneg (by decide), digit]
      exact ih tails

/-- The bytes show where they end, and what they encode. -/
theorem determined (digits : SignedDigits bytes value) {others rest more : List UInt8}
    {again : Int} (other : SignedDigits others again) (same : bytes ++ rest = others ++ more) :
    bytes = others ∧ value = again := by
  induction digits generalizing others again with
  | @last byte ends =>
    cases other with
    | last => exact ⟨congrArg (· :: []) (List.head_eq_of_cons_eq same),
        congrArg signedDigit (List.head_eq_of_cons_eq same)⟩
    | more continues =>
      obtain rfl := List.head_eq_of_cons_eq same
      omega
  | @more byte bytes value continues _ ih =>
    cases other with
    | last ends =>
      obtain rfl := List.head_eq_of_cons_eq same
      omega
    | more _ other =>
      obtain ⟨rfl, rfl⟩ := ih other (List.tail_eq_of_cons_eq same)
      obtain rfl := List.head_eq_of_cons_eq same
      exact ⟨rfl, rfl⟩

theorem ends (digits : SignedDigits bytes value) : ∃ byte ∈ bytes, byte.toNat < 128 := by
  induction digits with
  | last ends => exact ⟨_, List.mem_singleton_self _, ends⟩
  | more _ _ ih => exact ih.imp fun _ found => ⟨List.mem_cons_of_mem _ found.1, found.2⟩

/-- Bytes of one length encode different numbers. -/
theorem unique (digits : SignedDigits bytes value) {others : List UInt8}
    (again : SignedDigits others value) (length : bytes.length = others.length) :
    bytes = others := by
  induction digits generalizing others with
  | @last byte ends =>
    generalize same : signedDigit byte = value at again
    cases again with
    | @last other small =>
      unfold signedDigit at same
      have equal : byte.toNat = other.toNat := by split_ifs at same <;> omega
      rw [UInt8.toNat_inj.mp equal]
    | more continues rest =>
      have := rest.length_pos
      simp only [List.length_cons, List.length_nil] at length
      omega
  | @more byte bytes value continues rest ih =>
    generalize same : (byte.toNat : Int) - 128 + 128 * value = total at again
    cases again with
    | last =>
      have := rest.length_pos
      simp only [List.length_cons, List.length_nil] at length
      omega
    | @more other others number more again =>
      have := byte.toNat_lt
      have := other.toNat_lt
      obtain rfl : value = number := by omega
      obtain rfl : byte = other := UInt8.toNat_inj.mp (by omega)
      rw [ih again (Nat.succ.inj length)]

end SignedDigits

theorem signedEncode_digits (value : Int) : SignedDigits (signedEncode value) value := by
  induction value using signedEncode.induct with
  | case1 value small =>
    have byte : (UInt8.ofNat (value % 128).toNat).toNat = (value % 128).toNat :=
      UInt8.toNat_ofNat_of_lt' (show _ < 256 by omega)
    rw [signedEncode, if_pos small]
    have digits := @SignedDigits.last (.ofNat (value % 128).toNat) (by omega)
    have digit : signedDigit (.ofNat (value % 128).toNat) = value := by
      unfold signedDigit
      split_ifs <;> omega
    rwa [digit] at digits
  | case2 value large ih =>
    have byte : (UInt8.ofNat ((value % 128).toNat + 128)).toNat = (value % 128).toNat + 128 :=
      UInt8.toNat_ofNat_of_lt' (show _ < 256 by omega)
    rw [signedEncode, if_neg large]
    have digits := @SignedDigits.more (.ofNat ((value % 128).toNat + 128)) _ _ (by omega) ih
    have total : (((value % 128).toNat + 128 : Nat) : Int) - 128 + 128 * (value / 128) = value := by
      omega
    rwa [byte, total] at digits

theorem signedEncode_shortest {value : Int} {bytes : List UInt8}
    (digits : SignedDigits bytes value) : (signedEncode value).length ≤ bytes.length := by
  induction digits with
  | @last byte ends =>
    have small : -64 ≤ signedDigit byte ∧ signedDigit byte < 64 := by
      unfold signedDigit
      split_ifs <;> omega
    rw [signedEncode, if_pos small]
    exact Nat.le_refl _
  | @more byte bytes value continues rest ih =>
    have := byte.toNat_lt
    rw [signedEncode]
    split_ifs
    · exact Nat.succ_le_succ (Nat.zero_le _)
    · have digit : ((byte.toNat : Int) - 128 + 128 * value) / 128 = value := by omega
      rw [digit]
      exact Nat.succ_le_succ ih

theorem signedEncode_fits {value : Int} {width : Nat} (positive : 0 < width)
    (fits : -(2 ^ (width - 1)) ≤ value ∧ value < 2 ^ (width - 1)) :
    7 * (signedEncode value).length < width + 7 := by
  induction value using signedEncode.induct generalizing width with
  | case1 value small =>
    rw [signedEncode, if_pos small, List.length_singleton]
    omega
  | case2 value large ih =>
    rw [signedEncode, if_neg large, List.length_cons]
    have wide : 7 < width := by
      by_contra narrow
      have : (2 : Int) ^ (width - 1) ≤ 2 ^ 6 := by
        exact_mod_cast Nat.pow_le_pow_right (show 0 < 2 by decide) (show width - 1 ≤ 6 by omega)
      omega
    have split : (2 : Int) ^ (width - 1) = 2 ^ (width - 7 - 1) * 128 := by
      rw [show width - 1 = width - 7 - 1 + 7 by omega, Int.pow_add]
      rfl
    have := @ih (width - 7) (by omega) (by omega)
    omega

theorem signedLeb_unusedBits {width : Nat} {value : Int} {bytes : List UInt8}
    (encoded : signedLeb width bytes value) : UnusedBitsSigned width bytes := by
  rintro init last rfl
  obtain ⟨digits, short, low, high⟩ := encoded
  rw [List.length_append, List.length_singleton] at short
  have power : (128 : Int) ^ init.length = 2 ^ (7 * init.length) := by
    rw [Int.pow_mul]
    rfl
  have split : (2 : Int) ^ (width - 1) =
      2 ^ (width - 1 - 7 * init.length) * 128 ^ init.length := by
    rw [power, ← Int.pow_add, Nat.sub_add_cancel (by omega)]
  have positive : (0 : Int) < 128 ^ init.length := Int.pow_pos (by decide)
  rw [digits.last_eq rfl]
  rw [split] at low high
  rw [← Int.neg_mul] at low
  exact ⟨(Int.le_ediv_iff_mul_le positive).mpr low, (Int.ediv_lt_iff_lt_mul positive).mpr high⟩

/-- The encoder's bytes are the canonical ones. -/
theorem signedEncode_canonical {width : Nat} {value : Int} (positive : 0 < width)
    (fits : -(2 ^ (width - 1)) ≤ value ∧ value < 2 ^ (width - 1)) (bytes : List UInt8) :
    Canonical (signedLeb width) bytes value ↔ bytes = signedEncode value := by
  have encoded : signedLeb width (signedEncode value) value :=
    ⟨signedEncode_digits value, signedEncode_fits positive fits, fits⟩
  constructor
  · rintro ⟨⟨digits, -⟩, shortest⟩
    refine digits.unique (signedEncode_digits value) ?_
    exact Nat.le_antisymm (shortest _ encoded) (signedEncode_shortest digits)
  · rintro rfl
    exact ⟨encoded, fun other found => signedEncode_shortest found.1⟩

end MiniWasm.Library
