import MiniWasm.Library.Outcome

/-!
# Computations in lockstep

Two fallible computations run in lockstep when they fail with the same error or
return related results.  A computation that takes its operands off a stack runs, on
the upper part of the stack, in lockstep with itself on the whole, unless the part is
too short for it.
-/

namespace MiniWasm.Library

variable {ε α β γ δ : Type}

/-- Both computations fail with one error, or they return related results. -/
inductive Lockstep (related : α → β → Prop) : Except ε α → Except ε β → Prop where
  | ok {left : α} {right : β} : related left right → Lockstep related (.ok left) (.ok right)
  | error (err : ε) : Lockstep related (.error err) (.error err)

section Lockstep

variable {related : α → β → Prop} {left : Except ε α} {right : Except ε β}

theorem Lockstep.pure {leftValue : α} {rightValue : β} (holds : related leftValue rightValue) :
    Lockstep related (pure leftValue : Except ε α) (pure rightValue) :=
  .ok holds

theorem Lockstep.bind {after : γ → δ → Prop} {leftNext : α → Except ε γ}
    {rightNext : β → Except ε δ} (first : Lockstep related left right)
    (next : ∀ leftValue rightValue, related leftValue rightValue →
      Lockstep after (leftNext leftValue) (rightNext rightValue)) :
    Lockstep after (left >>= leftNext) (right >>= rightNext) := by
  cases first with
  | ok holds => exact next _ _ holds
  | error err => exact .error err

theorem Lockstep.same {related : α → α → Prop} (run : Except ε α)
    (each : ∀ value, related value value) : Lockstep related run run := by
  cases run with
  | ok value => exact .ok (each value)
  | error err => exact .error err

theorem Lockstep.ite {condition : Prop} [Decidable condition] {yes no : Except ε α}
    {yes' no' : Except ε β} (first : condition → Lockstep related yes yes')
    (second : ¬ condition → Lockstep related no no') :
    Lockstep related (if condition then yes else no) (if condition then yes' else no') := by
  split_ifs with holds
  · exact first holds
  · exact second holds

/-- A contract that the left computation keeps. -/
theorem Lockstep.and {allowed : ε → Prop} {post : α → Prop}
    (lockstep : Lockstep related left right) (yields : Yields allowed post left) :
    Lockstep (fun leftValue rightValue => related leftValue rightValue ∧ post leftValue)
      left right := by
  cases lockstep with
  | ok holds => exact .ok ⟨holds, (yields_ok _).mp yields⟩
  | error err => exact .error err

end Lockstep

/-! ## Parts of a stack -/

/-- The computation on the whole does what that on the part does, with its result grown by
what the part left out, unless the part was too short. -/
structure Framed (tooShort : ε) (grow : α → β) (part : Except ε α) (whole : Except ε β) :
    Prop where
  agrees : part ≠ .error tooShort → Lockstep (fun small large => grow small = large) part whole

section Framed

variable {tooShort : ε} {grow : α → β} {part : Except ε α} {whole : Except ε β}

theorem Framed.short : Framed tooShort grow (.error tooShort) whole :=
  ⟨fun enough => absurd rfl enough⟩

theorem Framed.error (err : ε) : Framed tooShort grow (.error err) (.error err) :=
  ⟨fun _ => .error err⟩

theorem Framed.pure {small : α} {large : β} (grown : grow small = large) :
    Framed tooShort grow (pure small) (pure large) :=
  ⟨fun _ => .ok grown⟩

theorem Framed.bind {growAfter : γ → δ} {next : α → Except ε γ} {nextWhole : β → Except ε δ}
    (first : Framed tooShort grow part whole)
    (each : ∀ value, Framed tooShort growAfter (next value) (nextWhole (grow value))) :
    Framed tooShort growAfter (part >>= next) (whole >>= nextWhole) := by
  refine ⟨fun enough => ?_⟩
  cases part with
  | error err =>
    cases first.agrees fun failed => enough (congrArg (· >>= next) failed)
    exact .error err
  | ok value =>
    have agrees := first.agrees (fun failed => by cases failed)
    cases agrees with
    | ok grown =>
      cases grown
      exact (each value).agrees enough

/-- A computation that both share comes first. -/
theorem Framed.after {growAfter : γ → δ} {next : α → Except ε γ} {nextWhole : α → Except ε δ}
    {run : Except ε α} (each : ∀ value, Framed tooShort growAfter (next value) (nextWhole value)) :
    Framed tooShort growAfter (run >>= next) (run >>= nextWhole) := by
  cases run with
  | ok value => exact each value
  | error err => exact .error err

theorem Framed.ite {condition : Prop} [Decidable condition] {yes no : Except ε α}
    {yes' no' : Except ε β} (first : Framed tooShort grow yes yes')
    (second : Framed tooShort grow no no') :
    Framed tooShort grow (if condition then yes else no) (if condition then yes' else no') := by
  split_ifs
  · exact first
  · exact second

/-- A part whose errors are all others is never too short. -/
theorem Framed.lockstep {allowed : ε → Prop} {post : α → Prop}
    (framed : Framed tooShort grow part whole) (yields : Yields allowed post part)
    (enough : ¬ allowed tooShort) :
    Lockstep (fun small large => grow small = large ∧ post small) part whole :=
  (framed.agrees fun failed => enough (yields.2 tooShort failed)).and yields

end Framed

end MiniWasm.Library
