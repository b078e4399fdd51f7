import Mathlib.Data.List.AList
import Mathlib.Data.List.InsertIdx
import Mathlib.Data.List.Perm.Basic

/-!
# The first match in a list

A search that gives a position and a search that gives a value find the same entry,
and what changes at that position.
-/

namespace MiniWasm.Library

variable {α β : Type}

theorem getElem?_of_findIdx? {satisfies : α → Bool} {values : List α} {index : Nat}
    (found : values.findIdx? satisfies = some index) :
    values[index]? = values.find? satisfies := by
  induction values generalizing index with
  | nil => simp at found
  | cons head rest ih =>
    simp only [List.findIdx?_cons] at found
    by_cases holds : satisfies head = true
    · simp only [holds, if_true, Option.some.injEq] at found
      subst found
      simp [holds]
    · simp only [holds, Bool.false_eq_true, if_false, Option.map_eq_some_iff] at found
      obtain ⟨before, foundBefore, rfl⟩ := found
      simp [holds, ih foundBefore]

theorem exists_of_findIdx? {satisfies : α → Bool} {values : List α} {index : Nat}
    (found : values.findIdx? satisfies = some index) :
    ∃ value, values[index]? = some value ∧ satisfies value = true := by
  obtain ⟨inside, holds, -⟩ := List.findIdx?_eq_some_iff_getElem.mp found
  exact ⟨values[index], List.getElem?_eq_getElem inside, holds⟩

/-- A change that keeps the entry at the position keeps the list. -/
theorem modify_fixed {values : List α} {index : Nat} {value : α} {change : α → α}
    (found : values[index]? = some value) (fixed : change value = value) :
    values.modify index change = values := by
  apply List.ext_getElem?
  intro position
  rw [List.getElem?_modify]
  by_cases same : index = position
  · subst same
    simp [found, fixed]
  · simp [same]

theorem mem_modify_cases {values : List α} {index : Nat} {change : α → α} {value : α}
    (member : value ∈ values.modify index change) :
    ∃ old ∈ values, value = old ∨ value = change old := by
  obtain ⟨position, found⟩ := List.mem_iff_getElem?.mp member
  rw [List.getElem?_modify] at found
  cases original : values[position]? with
  | none => simp [original] at found
  | some old =>
    refine ⟨old, List.mem_of_getElem? original, ?_⟩
    by_cases here : index = position
    · right
      simpa [original, here] using found.symm
    · left
      simpa [original, here] using found.symm

/-- What a change at a position does not affect is mapped to the same list. -/
theorem map_modify {values : List α} {index : Nat} {change : α → α} {image : α → β}
    (same : ∀ value, image (change value) = image value) :
    (values.modify index change).map image = values.map image := by
  apply List.ext_getElem?
  intro position
  rw [List.getElem?_map, List.getElem?_map, List.getElem?_modify]
  cases values[position]? with
  | none => rfl
  | some value =>
    by_cases here : index = position
    · simp [here, same]
    · simp [here]

theorem count_eraseIdx [DecidableEq α] {values : List α} {index : Nat} {value : α}
    (found : values[index]? = some value) (counted : α) :
    values.count counted =
      (values.eraseIdx index).count counted + if value = counted then 1 else 0 := by
  obtain ⟨inside, rfl⟩ := List.getElem?_eq_some_iff.mp found
  rw [← (List.getElem_cons_eraseIdx_perm inside).count_eq counted, List.count_cons]
  simp only [beq_iff_eq]

/-! ## What a filter does not keep -/

theorem filter_append_dropped {keep : α → Bool} {values : List α} {value : α}
    (dropped : keep value = false) : (values ++ [value]).filter keep = values.filter keep := by
  simp [dropped]

theorem filter_modify_dropped {keep : α → Bool} {values : List α} {index : Nat} {value : α}
    {change : α → α} (found : values[index]? = some value) (dropped : keep value = false)
    (changedDropped : keep (change value) = false) :
    (values.modify index change).filter keep = values.filter keep := by
  induction values generalizing index with
  | nil => simp at found
  | cons head rest ih =>
    cases index with
    | zero =>
      simp only [List.getElem?_cons_zero, Option.some.injEq] at found
      subst found
      simp [List.modify_zero_cons, dropped, changedDropped]
    | succ index =>
      rw [List.modify_succ_cons, List.filter_cons, List.filter_cons,
        ih (by simpa using found)]

theorem filter_eraseIdx_dropped {keep : α → Bool} {values : List α} {index : Nat} {value : α}
    (found : values[index]? = some value) (dropped : keep value = false) :
    (values.eraseIdx index).filter keep = values.filter keep := by
  induction values generalizing index with
  | nil => simp at found
  | cons head rest ih =>
    cases index with
    | zero =>
      simp only [List.getElem?_cons_zero, Option.some.injEq] at found
      subst found
      simp [dropped]
    | succ index =>
      rw [List.eraseIdx_cons_succ, List.filter_cons, List.filter_cons,
        ih (by simpa using found)]

/-! ## Finite maps -/

theorem erase_of_notMem {entries : AList fun _ : Nat => α} {key : Nat} (missing : key ∉ entries) :
    entries.erase key = entries :=
  AList.ext (List.kerase_of_notMem_keys missing)

theorem lookup_insert_cases {entries : AList fun _ : Nat => α} {key other : Nat}
    {value found : α} (lookup : (entries.insert key value).lookup other = some found) :
    other = key ∧ found = value ∨ other ≠ key ∧ entries.lookup other = some found := by
  by_cases same : other = key
  · subst same
    rw [AList.lookup_insert, Option.some.injEq] at lookup
    exact .inl ⟨rfl, lookup.symm⟩
  · rw [AList.lookup_insert_ne same] at lookup
    exact .inr ⟨same, lookup⟩

theorem lookup_erase_some {entries : AList fun _ : Nat => α} {key other : Nat} {found : α}
    (lookup : (entries.erase key).lookup other = some found) :
    other ≠ key ∧ entries.lookup other = some found := by
  by_cases same : other = key
  · subst same
    simp at lookup
  · rw [AList.lookup_erase_ne same] at lookup
    exact ⟨same, lookup⟩

end MiniWasm.Library
