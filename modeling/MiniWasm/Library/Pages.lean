import Mathlib.Data.List.Basic
import Mathlib.Tactic.Common

/-!
# Listings in pages

A list of records that is handed out in pages.  Each page may end with a part of a record; the
reader keeps the complete ones and goes on from the last of them, until a page is empty.
-/

namespace MiniWasm.Library

/-- Cutting off a first part does not matter when the whole is cut off there. -/
theorem take_append_take {τ : Type} (count : Nat) (first second : List τ) :
    (first.take count ++ second).take count = (first ++ second).take count := by
  rw [List.take_append, List.take_append, List.take_take, Nat.min_self, List.length_take]
  rcases Nat.le_total first.length count with short | long
  · rw [Nat.min_eq_right short]
  · rw [Nat.min_eq_left long, Nat.sub_self, Nat.sub_eq_zero_of_le long]

/-! ## Records that fit -/

section Fitting

variable {α : Type} (size : α → Nat)

/-- The first records that fit into a room as a whole. -/
def fitting : (room : Nat) → List α → List α
  | _, [] => []
  | room, record :: records =>
      if size record ≤ room then record :: fitting (room - size record) records else []

theorem fitting_first (room : Nat) (records : List α) : fitting size room records <+: records := by
  induction records generalizing room with
  | nil => exact List.prefix_rfl
  | cons record records ih =>
    unfold fitting
    split_ifs
    · exact List.cons_prefix_cons.mpr ⟨rfl, ih _⟩
    · exact List.nil_prefix

theorem fitting_ne_nil {room : Nat} {record : α} {records : List α} (fits : size record ≤ room) :
    fitting size room (record :: records) ≠ [] := by
  simp [fitting, fits]

end Fitting

/-! ## Reading page by page -/

section Enumerates

variable {κ π ρ : Type}

/-- What a reader collects that starts at a cookie: it takes the complete records of a page and
resumes at the last of them. -/
inductive Enumerates (serves : κ → π → Prop) (empty : π) (complete : π → List ρ)
    (next : ρ → κ) : κ → List ρ → Prop where
  | done {cookie : κ} (served : serves cookie empty) :
      Enumerates serves empty complete next cookie []
  | page {cookie : κ} {page : π} {records rest : List ρ} {last : ρ} (served : serves cookie page)
      (returned : complete page = records ++ [last])
      (more : Enumerates serves empty complete next (next last) rest) :
      Enumerates serves empty complete next cookie (records ++ last :: rest)

/-- The pages come from one list: every page starts with the records at the position of its
cookie, with at least one of them while there are any, and is empty behind the last one. -/
structure Pages (serves : κ → π → Prop) (empty : π) (complete : π → List ρ) (next : ρ → κ)
    (all : List ρ) (cookieAt : Nat → κ) : Prop where
  nothing : complete empty = []
  answered : ∀ position ≤ all.length, ∃ page, serves (cookieAt position) page ∧
    complete page <+: all.drop position ∧ (position < all.length → complete page ≠ []) ∧
      (position = all.length → page = empty)
  determined : ∀ cookie first second, serves cookie first → serves cookie second → first = second
  resumes : ∀ position record, all[position]? = some record →
    next record = cookieAt (position + 1)

namespace Pages

variable {serves : κ → π → Prop} {empty : π} {complete : π → List ρ} {next : ρ → κ}
  {all : List ρ} {cookieAt : Nat → κ}

/-- The records of a page, and where the reader resumes. -/
theorem split_drop (pages : Pages serves empty complete next all cookieAt) {position : Nat}
    {records : List ρ} {last : ρ} (first : records ++ [last] <+: all.drop position) :
    all.drop position = records ++ last :: all.drop (position + records.length + 1) ∧
      next last = cookieAt (position + records.length + 1) ∧
        position + records.length + 1 ≤ all.length := by
  obtain ⟨rest, split⟩ := first
  have found : all[position + records.length]? = some last := by
    rw [← List.getElem?_drop, ← split, List.append_assoc,
      List.getElem?_append_right (Nat.le_refl _)]
    simp
  have tail := congrArg (List.drop (records ++ [last]).length) split
  rw [List.drop_left, List.drop_drop, List.length_append, List.length_singleton,
    ← Nat.add_assoc] at tail
  refine ⟨?_, pages.resumes _ _ found, (List.getElem?_eq_some_iff.mp found).1⟩
  rw [← split, ← tail, List.append_assoc]
  rfl

/-- A reader collects the records from its position on, each of them once. -/
theorem enumerates_iff (pages : Pages serves empty complete next all cookieAt) {position : Nat}
    (inside : position ≤ all.length) {records : List ρ} :
    Enumerates serves empty complete next (cookieAt position) records ↔
      records = all.drop position := by
  constructor
  · intro enumerates
    generalize same : cookieAt position = cookie at enumerates
    induction enumerates generalizing position with
    | done served =>
      subst same
      obtain ⟨page, serves, -, progress, -⟩ := pages.answered position inside
      obtain rfl := pages.determined _ _ _ serves served
      have ended : ¬ position < all.length := fun before => progress before pages.nothing
      rw [List.drop_eq_nil_of_le (Nat.le_of_not_lt ended)]
    | page served returned more ih =>
      subst same
      obtain ⟨page, serves, first, -, -⟩ := pages.answered position inside
      obtain rfl := pages.determined _ _ _ serves served
      rw [returned] at first
      obtain ⟨split, resumed, later⟩ := pages.split_drop first
      rw [split, ih later resumed.symm]
  · rintro rfl
    induction remaining : all.length - position using Nat.strongRecOn generalizing position with
    | ind remaining ih =>
      obtain ⟨page, serves, first, progress, ends⟩ := pages.answered position inside
      rcases Nat.lt_or_eq_of_le inside with before | ended
      · obtain ⟨records, last, returned⟩ : ∃ records last, complete page = records ++ [last] :=
          ⟨_, _, (List.dropLast_append_getLast (progress before)).symm⟩
        rw [returned] at first
        obtain ⟨split, resumed, later⟩ := pages.split_drop first
        rw [split]
        refine .page serves returned ?_
        rw [resumed]
        exact ih _ (by omega) later rfl
      · rw [List.drop_eq_nil_of_le (Nat.le_of_eq ended.symm)]
        exact .done (ends ended ▸ serves)

end Pages

end Enumerates

end MiniWasm.Library
