import Mathlib.Data.List.Basic

/-!
# Overwriting a range of a list

`copy_from_slice` into a range: the new values replace the old ones from a start
position on, and the length never changes.
-/

namespace MiniWasm.Library

variable {α : Type}

def overwrite (values : List α) (start : Nat) (payload : List α) : List α :=
  values.mapIdx fun index value =>
    if start ≤ index then (payload[index - start]?).getD value else value

@[simp] theorem overwrite_length (values : List α) (start : Nat) (payload : List α) :
    (overwrite values start payload).length = values.length :=
  List.length_mapIdx

theorem getElem?_overwrite (values : List α) (start index : Nat) (payload : List α) :
    (overwrite values start payload)[index]? =
      values[index]?.map fun value =>
        if start ≤ index then (payload[index - start]?).getD value else value :=
  List.getElem?_mapIdx

@[simp] theorem overwrite_nil (values : List α) (start : Nat) :
    overwrite values start [] = values := by
  apply List.ext_getElem?
  intro index
  rw [getElem?_overwrite]
  cases values[index]? with
  | none => rfl
  | some value => simp

/-- What was written can be read off, when all of it fits. -/
theorem overwrite_injective {values first second : List α} {start : Nat}
    (sameLength : first.length = second.length) (fits : start + first.length ≤ values.length)
    (same : overwrite values start first = overwrite values start second) : first = second := by
  apply List.ext_getElem sameLength
  intro index inFirst inSecond
  have entry := congrArg (·[start + index]?) same
  have inside : start + index < values.length := by omega
  simpa [getElem?_overwrite, List.getElem?_eq_getElem inside, List.getElem?_eq_getElem inFirst,
    List.getElem?_eq_getElem inSecond] using entry

theorem drop_overwrite {values payload : List α} {start : Nat}
    (fits : start + payload.length ≤ values.length) :
    (overwrite values start payload).drop start =
      payload ++ values.drop (start + payload.length) := by
  apply List.ext_getElem?
  intro index
  rw [List.getElem?_drop, getElem?_overwrite, List.getElem?_append]
  simp only [Nat.le_add_right, if_true, Nat.add_sub_cancel_left]
  by_cases inside : index < payload.length
  · have within : start + index < values.length := by omega
    rw [if_pos inside, List.getElem?_eq_getElem within, List.getElem?_eq_getElem inside]
    rfl
  · have place : start + payload.length + (index - payload.length) = start + index := by omega
    rw [if_neg inside, List.getElem?_drop, place, List.getElem?_eq_none (Nat.le_of_not_lt inside)]
    cases values[start + index]? with
    | none => rfl
    | some value => rfl

/-- What was written stands where it was written. -/
theorem take_drop_overwrite {values payload : List α} {start : Nat}
    (fits : start + payload.length ≤ values.length) :
    ((overwrite values start payload).drop start).take payload.length = payload := by
  rw [drop_overwrite fits, List.take_left]

/-- A range apart from what was written is as it was. -/
theorem take_drop_overwrite_apart {values payload : List α} {start other count : Nat}
    (apart : other + count ≤ start ∨ start + payload.length ≤ other) :
    ((overwrite values start payload).drop other).take count =
      (values.drop other).take count := by
  apply List.ext_getElem?
  intro index
  simp only [List.getElem?_take, List.getElem?_drop, getElem?_overwrite]
  split
  · next inside =>
      cases values[other + index]? with
      | none => rfl
      | some value =>
          rw [Option.map_some]
          split
          · rw [List.getElem?_eq_none (by omega)]
            rfl
          · rfl
  · rfl

/-- Every entry is an old one or comes from the payload. -/
theorem mem_of_mem_overwrite {values payload : List α} {start : Nat} {value : α}
    (member : value ∈ overwrite values start payload) : value ∈ values ∨ value ∈ payload := by
  obtain ⟨index, found⟩ := List.mem_iff_getElem?.mp member
  rw [getElem?_overwrite, Option.map_eq_some_iff] at found
  obtain ⟨old, oldFound, rfl⟩ := found
  split
  · cases new : payload[index - start]? with
    | none => exact .inl (List.mem_of_getElem? oldFound)
    | some value => exact .inr (List.mem_of_getElem? new)
  · exact .inl (List.mem_of_getElem? oldFound)

/-! ## Copying a range -/

/-- A range of the target holds what a range of the source held, and the rest of the
target is as it was. -/
structure Transferred (source target after : List α) (start destination count : Nat) : Prop where
  length : after.length = target.length
  inside : ∀ position < count, after[destination + position]? = source[start + position]?
  outside : ∀ position, position < destination ∨ destination + count ≤ position →
    after[position]? = target[position]?

theorem transferred_overwrite {source target : List α} {start destination count : Nat}
    (inSource : start + count ≤ source.length)
    (inTarget : destination + count ≤ target.length) :
    Transferred source target (overwrite target destination ((source.drop start).take count))
      start destination count where
  length := overwrite_length ..
  inside position inside := by
    have within : destination + position < target.length := by omega
    have present : start + position < source.length := by omega
    rw [getElem?_overwrite, List.getElem?_eq_getElem within, Option.map_some,
      if_pos (Nat.le_add_right ..), Nat.add_sub_cancel_left, List.getElem?_take, if_pos inside,
      List.getElem?_drop, List.getElem?_eq_getElem present]
    rfl
  outside position outside := by
    rw [getElem?_overwrite]
    cases target[position]? with
    | none => rfl
    | some value =>
        rw [Option.map_some]
        split
        · rw [List.getElem?_take, if_neg (by omega)]
          rfl
        · rfl

/-- The range determines the result. -/
theorem Transferred.unique {source target first second : List α}
    {start destination count : Nat}
    (one : Transferred source target first start destination count)
    (other : Transferred source target second start destination count) : first = second := by
  apply List.ext_getElem?
  intro position
  by_cases inside : destination ≤ position ∧ position < destination + count
  · obtain ⟨offset, rfl⟩ := Nat.exists_eq_add_of_le inside.1
    rw [one.inside offset (by omega), other.inside offset (by omega)]
  · rw [one.outside position (by omega), other.outside position (by omega)]

/-! ## Several writes -/

/-- What the last of several writes to cover a position puts there. -/
def lastWrite : (writes : List (Nat × List α)) → (position : Nat) → Option α
  | [], _ => none
  | (start, payload) :: later, position =>
      (lastWrite later position).or
        (if start ≤ position then payload[position - start]? else none)

/-- The values behind several writes, one after the other.  All of them lie within the
values, and a position holds what the last one to cover it puts there. -/
structure Overlaid (before : List α) (writes : List (Nat × List α)) (after : List α) :
    Prop where
  fits : ∀ write ∈ writes, write.1 + write.2.length ≤ before.length
  length : after.length = before.length
  entries : ∀ position : Nat,
    after[position]? = before[position]?.map fun value =>
      (lastWrite writes position).getD value

theorem Overlaid.nil (values : List α) : Overlaid values [] values where
  fits _ member := by cases member
  length := rfl
  entries position := by
    cases values[position]? <;> rfl

theorem Overlaid.cons {before after payload : List α} {start : Nat}
    {later : List (Nat × List α)} (inside : start + payload.length ≤ before.length)
    (rest : Overlaid (overwrite before start payload) later after) :
    Overlaid before ((start, payload) :: later) after where
  fits := by
    have others := rest.fits
    rw [overwrite_length] at others
    exact List.forall_mem_cons.mpr ⟨inside, others⟩
  length := rest.length.trans (overwrite_length ..)
  entries position := by
    rw [rest.entries, getElem?_overwrite, Option.map_map]
    congr 1
    funext value
    rw [Function.comp_apply, lastWrite]
    cases lastWrite later position with
    | some last => rfl
    | none =>
      rw [Option.getD_none, Option.none_or]
      split <;> rfl

/-- A position that a write covers lies within the values. -/
theorem lastWrite_lt {writes : List (Nat × List α)} {bound position : Nat} {value : α}
    (fits : ∀ write ∈ writes, write.1 + write.2.length ≤ bound)
    (found : lastWrite writes position = some value) : position < bound := by
  induction writes with
  | nil => cases found
  | cons write later ih =>
    obtain ⟨first, others⟩ := List.forall_mem_cons.mp fits
    rw [lastWrite] at found
    cases last : lastWrite later position with
    | some other =>
      rw [last, Option.some_or] at found
      exact ih others (last.trans found)
    | none =>
      rw [last, Option.none_or] at found
      split_ifs at found with starts
      have within := (List.getElem?_eq_some_iff.mp found).1
      omega

theorem Overlaid.covered {before after : List α} {writes : List (Nat × List α)}
    (overlaid : Overlaid before writes after) {position : Nat} {value : α}
    (found : lastWrite writes position = some value) : after[position]? = some value := by
  have inside := lastWrite_lt overlaid.fits found
  rw [overlaid.entries, List.getElem?_eq_getElem inside, found]
  rfl

/-- Writing one value in front of a run of them. -/
theorem overwrite_set {values payload : List α} {start : Nat} {value : α}
    (inside : start < values.length) :
    overwrite (values.set start value) (start + 1) payload =
      overwrite values start (value :: payload) := by
  apply List.ext_getElem?
  intro position
  rw [getElem?_overwrite, getElem?_overwrite]
  by_cases here : start = position
  · subst here
    have past : ¬ start + 1 ≤ start := Nat.not_succ_le_self start
    rw [List.getElem?_set_self inside, List.getElem?_eq_getElem inside, Option.map_some,
      Option.map_some, if_neg past, if_pos (Nat.le_refl start), Nat.sub_self]
    rfl
  rw [List.getElem?_set_ne here]
  cases values[position]? with
  | none => rfl
  | some old =>
    simp only [Option.map_some, Option.some.injEq]
    by_cases after : start + 1 ≤ position
    · have place : position - start = (position - (start + 1)) + 1 := by omega
      rw [if_pos after, if_pos (Nat.le_of_succ_le after), place, List.getElem?_cons_succ]
    · rw [if_neg after, if_neg (by omega)]

end MiniWasm.Library
