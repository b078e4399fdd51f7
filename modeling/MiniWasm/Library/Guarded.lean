import MiniWasm.Library.Result

/-!
# Computations that only a guard decides

A computation that succeeds with a postcondition when its guard holds, and is
refused with one of the given errors when it does not.
-/

namespace MiniWasm.Library

variable {ε α β : Type}

/-- The computation fails with one of the given errors. -/
def FailsWith (refuses : ε → Prop) (run : Except ε α) : Prop :=
  ∃ err, run = .error err ∧ refuses err

structure Guarded (refuses : ε → Prop) (guard : Prop) (post : α → Prop) (run : Except ε α) :
    Prop where
  succeeds : guard → ∃ value, run = .ok value ∧ post value
  traps : ¬ guard → FailsWith refuses run

variable {refuses : ε → Prop} {guard later : Prop} {run : Except ε α}

theorem FailsWith.bind (refused : FailsWith refuses run) (next : α → Except ε β) :
    FailsWith refuses (run >>= next) := by
  obtain ⟨err, failed, refusal⟩ := refused
  exact ⟨err, by rw [failed]; rfl, refusal⟩

theorem FailsWith.weaken {weaker : ε → Prop} (refused : FailsWith refuses run)
    (weaken : ∀ err, refuses err → weaker err) : FailsWith weaker run := by
  obtain ⟨err, failed, refusal⟩ := refused
  exact ⟨err, failed, weaken err refusal⟩

namespace Guarded

variable {post : α → Prop} {final : β → Prop} {next : α → Except ε β}

/-- Behind the guard nothing else fails. -/
theorem bind (guarded : Guarded refuses guard post run)
    (rest : guard → ∀ value, post value → ∃ result, next value = .ok result ∧ final result) :
    Guarded refuses guard final (run >>= next) where
  succeeds holds := by
    obtain ⟨value, returned, posted⟩ := guarded.succeeds holds
    obtain ⟨result, continued, finished⟩ := rest holds value posted
    exact ⟨result, by rw [returned, ok_bind, continued], finished⟩
  traps outside := (guarded.traps outside).bind next

/-- Two guards one after the other. -/
theorem andThen (guarded : Guarded refuses guard post run)
    (rest : guard → ∀ value, post value → Guarded refuses later final (next value)) :
    Guarded refuses (guard ∧ later) final (run >>= next) where
  succeeds holds := by
    obtain ⟨value, returned, posted⟩ := guarded.succeeds holds.1
    obtain ⟨result, continued, finished⟩ := (rest holds.1 value posted).succeeds holds.2
    exact ⟨result, by rw [returned, ok_bind, continued], finished⟩
  traps outside := by
    by_cases holds : guard
    · obtain ⟨value, returned, posted⟩ := guarded.succeeds holds
      rw [returned, ok_bind]
      exact (rest holds value posted).traps fun holdsLater => outside ⟨holds, holdsLater⟩
    · exact (guarded.traps holds).bind next

theorem mono {weaker : α → Prop} (guarded : Guarded refuses guard post run)
    (weaken : guard → ∀ value, post value → weaker value) : Guarded refuses guard weaker run where
  succeeds holds := by
    obtain ⟨value, returned, posted⟩ := guarded.succeeds holds
    exact ⟨value, returned, weaken holds value posted⟩
  traps := guarded.traps

theorem refusing {weaker : ε → Prop} (guarded : Guarded refuses guard post run)
    (weaken : ∀ err, refuses err → weaker err) : Guarded weaker guard post run where
  succeeds := guarded.succeeds
  traps outside := (guarded.traps outside).weaken weaken

/-- A computation whose result is converted. -/
theorem convert {value : α} (guarded : Guarded refuses guard (· = value) run) (convert : α → β) :
    Guarded refuses guard (· = convert value) (do return convert (← run)) :=
  guarded.bind fun _ returned same => ⟨convert returned, rfl, by rw [same]⟩

/-- A check that refuses, before the rest. -/
theorem check {err : ε} {condition : Prop} [Decidable condition] {rest : Except ε α}
    (refusal : refuses err) (guarded : ¬ condition → Guarded refuses guard post rest) :
    Guarded refuses (¬ condition ∧ guard) post (if condition then .error err else rest) where
  succeeds holds := by
    rw [if_neg holds.1]
    exact (guarded holds.1).succeeds holds.2
  traps outside := by
    by_cases holds : condition
    · rw [if_pos holds]
      exact ⟨err, rfl, refusal⟩
    · rw [if_neg holds]
      exact (guarded holds).traps fun inside => outside ⟨holds, inside⟩

theorem pure {value : α} (posted : post value) :
    Guarded refuses True post (Pure.pure value : Except ε α) where
  succeeds _ := ⟨value, rfl, posted⟩
  traps outside := absurd trivial outside

/-- The guard in other words. -/
theorem congr (guarded : Guarded refuses guard post run) (same : guard ↔ later) :
    Guarded refuses later post run where
  succeeds holds := guarded.succeeds (same.mpr holds)
  traps outside := guarded.traps fun holds => outside (same.mp holds)

end Guarded

end MiniWasm.Library
