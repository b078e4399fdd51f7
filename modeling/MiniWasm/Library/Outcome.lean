import MiniWasm.Library.Result

/-!
# Outcomes of fallible computations

A computation that can fail has two kinds of outcome.  A contract for it bounds
both: what holds of every result, and which errors there are.
-/

namespace MiniWasm.Library

variable {ε α β : Type}

/-- Every result satisfies the postcondition, and every error is an allowed one. -/
def Yields (allowed : ε → Prop) (post : α → Prop) (run : Except ε α) : Prop :=
  Ensures post run ∧ Raises allowed run

section Yields

variable {allowed : ε → Prop} {post : α → Prop}

@[simp] theorem yields_ok (value : α) :
    Yields allowed post (.ok value : Except ε α) ↔ post value := by
  simp [Yields]

@[simp] theorem yields_pure (value : α) :
    Yields allowed post (pure value : Except ε α) ↔ post value :=
  yields_ok value

@[simp] theorem yields_error (err : ε) :
    Yields allowed post (.error err : Except ε α) ↔ allowed err := by
  simp [Yields]

@[simp] theorem yields_bind {post : β → Prop} (first : Except ε α) (next : α → Except ε β) :
    Yields allowed post (first >>= next) ↔
      Yields allowed (fun value => Yields allowed post (next value)) first := by
  cases first <;> simp [ok_bind, error_bind]

@[simp] theorem yields_ite (condition : Prop) [Decidable condition] (yes no : Except ε α) :
    Yields allowed post (if condition then yes else no) ↔
      (condition → Yields allowed post yes) ∧ (¬ condition → Yields allowed post no) := by
  split_ifs with holds <;> simp [holds]

theorem Yields.ite {condition : Prop} [Decidable condition] {yes no : Except ε α}
    (first : condition → Yields allowed post yes)
    (second : ¬ condition → Yields allowed post no) :
    Yields allowed post (if condition then yes else no) :=
  (yields_ite ..).mpr ⟨first, second⟩

theorem Yields.mono {weaker : α → Prop} {run : Except ε α} (yields : Yields allowed post run)
    (weaken : ∀ value, post value → weaker value) : Yields allowed weaker run :=
  ⟨yields.1.mono weaken, yields.2⟩

theorem Yields.of_ok {run : Except ε α} {value : α} (returned : run = .ok value)
    (holds : post value) : Yields allowed post run := by
  rw [returned]
  exact (yields_ok value).mpr holds

theorem Yields.bind {post : β → Prop} {first : Except ε α} {next : α → Except ε β}
    {middle : α → Prop} (before : Yields allowed middle first)
    (after : ∀ value, middle value → Yields allowed post (next value)) :
    Yields allowed post (first >>= next) :=
  (yields_bind ..).mpr (before.mono after)

/-- The computation returns a result. -/
def Succeeds (run : Except ε α) : Prop :=
  ∃ value, run = .ok value

theorem Succeeds.of_ok {run : Except ε α} {value : α} (returned : run = .ok value) :
    Succeeds run :=
  ⟨value, returned⟩

theorem Succeeds.yields {run : Except ε α} (succeeds : Succeeds run)
    (each : ∀ value, post value) : Yields allowed post run := by
  obtain ⟨value, returned⟩ := succeeds
  exact .of_ok returned (each value)

end Yields

/-- What holds of any result of two optional steps. -/
theorem IfAny.bind {property : β → Prop} {first : Option α} {next : α → Option β}
    (each : ∀ value, first = some value → IfAny property (next value)) :
    IfAny property (first >>= next) := by
  intro result found
  obtain ⟨value, present, nextFound⟩ := bind_some.mp found
  exact each value present result nextFound

/-- A check whose outcome the result may rest on. -/
theorem IfAny.checked {property : α → Prop} {condition : Prop} [Decidable condition]
    {yes no : Option α} (whenYes : condition → IfAny property yes)
    (whenNo : ¬ condition → IfAny property no) :
    IfAny property (if condition then yes else no) := by
  split_ifs with holds
  · exact whenYes holds
  · exact whenNo holds

end MiniWasm.Library
