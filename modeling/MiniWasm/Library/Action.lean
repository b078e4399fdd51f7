import Mathlib.Tactic.Common

/-!
# Actions

Computations that read and change a state and can fail.  A failure keeps the
changes made before it.  `Meets` is the weakest precondition of an action with
one postcondition for failures and one for results, `Returns` the one that excludes
failures, and `Agrees` says that an action cannot tell two related states apart.
-/

namespace MiniWasm.Library

def Action (σ ε α : Type) : Type :=
  σ → Except ε α × σ

namespace Action

variable {σ τ ε δ α β : Type}

instance : Monad (Action σ ε) where
  pure value := fun state => (.ok value, state)
  bind first next := fun state =>
    match first state with
    | (.ok value, state) => next value state
    | (.error err, state) => (.error err, state)

theorem pure_bind (value : α) (next : α → Action σ ε β) : pure value >>= next = next value :=
  rfl

theorem bind_assoc {γ : Type} (first : Action σ ε α) (next : α → Action σ ε β)
    (last : β → Action σ ε γ) :
    first >>= next >>= last = first >>= fun value => next value >>= last := by
  funext state
  simp only [bind]
  cases first state with
  | mk result after => cases result <;> rfl

def fail (err : ε) : Action σ ε α :=
  fun state => (.error err, state)

/-- Read the state. -/
def ask (query : σ → α) : Action σ ε α :=
  fun state => (.ok (query state), state)

theorem bind_of_ok {first : Action σ ε α} {next : α → Action σ ε β} {state after : σ} {value : α}
    (result : first state = (.ok value, after)) : (first >>= next) state = next value after := by
  simp only [bind, result]

theorem bind_of_error {first : Action σ ε α} {next : α → Action σ ε β} {state after : σ}
    {err : ε} (result : first state = (.error err, after)) :
    (first >>= next) state = (.error err, after) := by
  simp only [bind, result]

/-- A read that can fail. -/
def consult (query : σ → Except ε α) : Action σ ε α :=
  fun state => (query state, state)

def modify (update : σ → σ) : Action σ ε Unit :=
  fun state => (.ok (), update state)

/-- An action on a part of the state. -/
def zoom (project : τ → σ) (embed : σ → τ → τ) (convert : ε → δ) (action : Action σ ε α) :
    Action τ δ α :=
  fun state =>
    match action (project state) with
    | (.ok value, part) => (.ok value, embed part state)
    | (.error err, part) => (.error (convert err), embed part state)

/-! ## Weakest preconditions -/

/-- From the state, a failure and a result satisfy their postconditions. -/
def Meets (failed : ε → σ → Prop) (done : α → σ → Prop) (action : Action σ ε α)
    (state : σ) : Prop :=
  match action state with
  | (.ok value, after) => done value after
  | (.error err, after) => failed err after

section Meets

variable {failed : ε → σ → Prop} {done : α → σ → Prop} {state : σ}

@[simp] theorem meets_pure (value : α) :
    Meets failed done (pure value) state ↔ done value state :=
  Iff.rfl

@[simp] theorem meets_fail (err : ε) :
    Meets failed done (fail err) state ↔ failed err state :=
  Iff.rfl

@[simp] theorem meets_ask (query : σ → α) :
    Meets failed done (ask query) state ↔ done (query state) state :=
  Iff.rfl

@[simp] theorem meets_modify {done : Unit → σ → Prop} (update : σ → σ) :
    Meets failed done (modify update) state ↔ done () (update state) :=
  Iff.rfl

theorem meets_consult (query : σ → Except ε α) :
    Meets failed done (consult query) state ↔
      (∀ err, query state = .error err → failed err state) ∧
        ∀ value, query state = .ok value → done value state := by
  cases found : query state with
  | error err => simp [Meets, consult, found]
  | ok value => simp [Meets, consult, found]

/-- A read whose failures are converted. -/
theorem meets_consult_mapError {query : σ → Except δ α} {convert : δ → ε}
    (failures : ∀ err, query state = .error err → failed (convert err) state)
    (results : ∀ value, query state = .ok value → done value state) :
    Meets failed done (consult fun state => (query state).mapError convert) state := by
  simp only [Meets, consult]
  cases found : query state with
  | error err => exact failures err found
  | ok value => exact results value found

@[simp] theorem meets_bind {done : β → σ → Prop} (first : Action σ ε α)
    (next : α → Action σ ε β) :
    Meets failed done (first >>= next) state ↔
      Meets failed (fun value after => Meets failed done (next value) after) first state := by
  simp only [Meets, bind]
  rcases first state with ⟨result, after⟩
  cases result <;> rfl

theorem meets_ite (condition : Prop) [Decidable condition] (yes no : Action σ ε α) :
    Meets failed done (if condition then yes else no) state ↔
      (condition → Meets failed done yes state) ∧
        (¬ condition → Meets failed done no state) := by
  split_ifs with holds <;> simp [holds]

theorem meets_zoom {failed : δ → τ → Prop} {done : α → τ → Prop} {state : τ}
    (project : τ → σ) (embed : σ → τ → τ) (convert : ε → δ) (action : Action σ ε α) :
    Meets failed done (zoom project embed convert action) state ↔
      Meets (fun err part => failed (convert err) (embed part state))
        (fun value part => done value (embed part state)) action (project state) := by
  simp only [Meets, zoom]
  rcases action (project state) with ⟨result, after⟩
  cases result <;> rfl

theorem Meets.mono {weakFailed : ε → σ → Prop} {weakDone : α → σ → Prop}
    {action : Action σ ε α} (meets : Meets failed done action state)
    (failures : ∀ err after, failed err after → weakFailed err after)
    (results : ∀ value after, done value after → weakDone value after) :
    Meets weakFailed weakDone action state := by
  unfold Meets at meets ⊢
  generalize action state = outcome at meets ⊢
  obtain ⟨result, after⟩ := outcome
  cases result with
  | error err => exact failures err after meets
  | ok value => exact results value after meets

end Meets

theorem Meets.trivial (action : Action σ ε α) (state : σ) :
    Meets (fun _ _ => True) (fun _ _ => True) action state := by
  unfold Meets
  split <;> exact True.intro

theorem Meets.of_ok {action : Action σ ε α} {failed : ε → σ → Prop} {done : α → σ → Prop}
    {state : σ} {value : α} (meets : Meets failed done action state)
    (result : (action state).1 = .ok value) : done value (action state).2 := by
  unfold Meets at meets
  rcases outcome : action state with ⟨found, after⟩
  rw [outcome] at meets result
  cases result
  exact meets

/-- What holds after a failure and after a result holds afterwards. -/
theorem Meets.after {holds : σ → Prop} {action : Action σ ε α} {state : σ}
    (meets : Meets (fun _ after => holds after) (fun _ after => holds after) action state) :
    holds (action state).2 := by
  unfold Meets at meets
  rcases outcome : action state with ⟨result, after⟩
  rw [outcome] at meets
  cases result with
  | error err => exact meets
  | ok value => exact meets

/-- From the state, the action has no result. -/
abbrev Fails (action : Action σ ε α) (state : σ) : Prop :=
  Meets (fun _ _ => True) (fun _ _ => False) action state

theorem Fails.not_ok {action : Action σ ε α} {state : σ} (fails : Fails action state) (value : α) :
    (action state).1 ≠ .ok value := by
  intro result
  unfold Fails Meets at fails
  rcases outcome : action state with ⟨found, after⟩
  rw [outcome] at fails result
  cases result
  exact fails

/-! ## Results -/

/-- From the state, the action has a result, which satisfies the postcondition. -/
def Returns (done : α → σ → Prop) (action : Action σ ε α) (state : σ) : Prop :=
  Meets (fun _ _ => False) done action state

section Returns

variable {done : α → σ → Prop} {state : σ}

@[simp] theorem returns_pure (value : α) :
    Returns done (pure value : Action σ ε α) state ↔ done value state :=
  Iff.rfl

@[simp] theorem returns_fail (err : ε) : Returns done (fail err) state ↔ False :=
  Iff.rfl

@[simp] theorem returns_ask (query : σ → α) :
    Returns done (ask query : Action σ ε α) state ↔ done (query state) state :=
  Iff.rfl

@[simp] theorem returns_modify {done : Unit → σ → Prop} (update : σ → σ) :
    Returns done (modify update : Action σ ε Unit) state ↔ done () (update state) :=
  Iff.rfl

@[simp] theorem returns_bind {done : β → σ → Prop} (first : Action σ ε α)
    (next : α → Action σ ε β) :
    Returns done (first >>= next) state ↔
      Returns (fun value after => Returns done (next value) after) first state :=
  meets_bind first next

theorem returns_iff {action : Action σ ε α} :
    Returns done action state ↔
      ∃ value, (action state).1 = .ok value ∧ done value (action state).2 := by
  unfold Returns Meets
  rcases action state with ⟨result, after⟩
  cases result with
  | error err => simp
  | ok value => simp

theorem returns_consult {query : σ → Except ε α} :
    Returns done (consult query) state ↔
      ∃ value, query state = .ok value ∧ done value state :=
  returns_iff

theorem returns_consult_mapError {query : σ → Except δ α} {convert : δ → ε} :
    Returns done (consult fun state => (query state).mapError convert) state ↔
      ∃ value, query state = .ok value ∧ done value state := by
  rw [returns_consult]
  cases query state with
  | error err => simp [Except.mapError]
  | ok value => simp [Except.mapError]

/-- A check that fails unless its condition is false. -/
theorem returns_unless {condition : Prop} [Decidable condition] {err : ε}
    {next : Action σ ε α} :
    Returns done (if condition then fail err else next) state ↔
      ¬ condition ∧ Returns done next state := by
  split_ifs with holds <;> simp [holds]

theorem returns_zoom {done : α → τ → Prop} {state : τ} (project : τ → σ) (embed : σ → τ → τ)
    (convert : ε → δ) (action : Action σ ε α) :
    Returns done (zoom project embed convert action) state ↔
      Returns (fun value part => done value (embed part state)) action (project state) :=
  meets_zoom project embed convert action

theorem Returns.mono {weak : α → σ → Prop} {action : Action σ ε α}
    (returns : Returns done action state)
    (results : ∀ value after, done value after → weak value after) :
    Returns weak action state :=
  Meets.mono returns (fun _ _ impossible => impossible) results

end Returns

/-! ## Indistinguishable states -/

/-- The action does the same in related states, and leaves related states. -/
def Agrees (related : σ → σ → Prop) (action : Action σ ε α) : Prop :=
  ∀ left right, related left right →
    (action left).1 = (action right).1 ∧ related (action left).2 (action right).2

section Agrees

variable {related : σ → σ → Prop}

theorem agrees_pure (value : α) : Agrees related (pure value : Action σ ε α) :=
  fun _ _ same => ⟨rfl, same⟩

theorem agrees_fail (err : ε) : Agrees related (fail err : Action σ ε α) :=
  fun _ _ same => ⟨rfl, same⟩

theorem agrees_ask {query : σ → α}
    (same : ∀ left right, related left right → query left = query right) :
    Agrees related (ask query : Action σ ε α) :=
  fun left right states => ⟨congrArg Except.ok (same left right states), states⟩

theorem agrees_consult {query : σ → Except ε α}
    (same : ∀ left right, related left right → query left = query right) :
    Agrees related (consult query) :=
  fun left right states => ⟨same left right states, states⟩

theorem agrees_modify {update : σ → σ}
    (same : ∀ left right, related left right → related (update left) (update right)) :
    Agrees related (modify update : Action σ ε Unit) :=
  fun left right states => ⟨rfl, same left right states⟩

/-- The second action need only agree on results that the first can have. -/
theorem agrees_bind_result (possible : α → Prop) {first : Action σ ε α}
    {next : α → Action σ ε β} (firstAgrees : Agrees related first)
    (results : ∀ state, Meets (fun _ _ => True) (fun value _ => possible value) first state)
    (nextAgrees : ∀ value, possible value → Agrees related (next value)) :
    Agrees related (first >>= next) := by
  intro left right states
  obtain ⟨sameResult, sameAfter⟩ := firstAgrees left right states
  have result := results left
  unfold Meets at result
  simp only [bind]
  generalize first left = leftOutcome at sameResult sameAfter result ⊢
  generalize first right = rightOutcome at sameResult sameAfter ⊢
  obtain ⟨leftResult, leftAfter⟩ := leftOutcome
  obtain ⟨rightResult, rightAfter⟩ := rightOutcome
  cases sameResult
  cases leftResult with
  | error err => exact ⟨rfl, sameAfter⟩
  | ok value => exact nextAgrees value result _ _ sameAfter

/-- From two given states, the second action need only agree on the result of the first. -/
theorem agrees_bind_at {first : Action σ ε α} {next : α → Action σ ε β} {left right : σ}
    (states : related left right) (firstAgrees : Agrees related first)
    (nextAgrees : ∀ value after, first right = (.ok value, after) →
      Agrees related (next value)) :
    ((first >>= next) left).1 = ((first >>= next) right).1 ∧
      related ((first >>= next) left).2 ((first >>= next) right).2 := by
  obtain ⟨sameResult, sameAfter⟩ := firstAgrees left right states
  simp only [bind]
  cases outcome : first right with
  | mk result after =>
    generalize first left = leftOutcome at sameResult sameAfter ⊢
    obtain ⟨leftResult, leftAfter⟩ := leftOutcome
    rw [outcome] at sameResult sameAfter
    cases sameResult
    cases result with
    | error err => exact ⟨rfl, sameAfter⟩
    | ok value => exact nextAgrees value after outcome _ _ sameAfter

theorem agrees_bind {first : Action σ ε α} {next : α → Action σ ε β}
    (firstAgrees : Agrees related first) (nextAgrees : ∀ value, Agrees related (next value)) :
    Agrees related (first >>= next) :=
  agrees_bind_result (fun _ => True) firstAgrees (fun state => Meets.trivial first state)
    fun value _ => nextAgrees value

theorem agrees_ite {condition : Prop} [Decidable condition] {yes no : Action σ ε α}
    (yesAgrees : Agrees related yes) (noAgrees : Agrees related no) :
    Agrees related (if condition then yes else no) := by
  split_ifs
  · exact yesAgrees
  · exact noAgrees

theorem agrees_zoom {relatedWhole : τ → τ → Prop} {project : τ → σ} {embed : σ → τ → τ}
    {convert : ε → δ} {action : Action σ ε α}
    (parts : ∀ left right, relatedWhole left right → related (project left) (project right))
    (wholes : ∀ left right leftPart rightPart, relatedWhole left right →
      related leftPart rightPart →
      relatedWhole (embed leftPart left) (embed rightPart right))
    (agrees : Agrees related action) :
    Agrees relatedWhole (zoom project embed convert action) := by
  intro left right states
  obtain ⟨sameResult, samePart⟩ := agrees _ _ (parts left right states)
  simp only [zoom]
  generalize action (project left) = leftOutcome at sameResult samePart ⊢
  generalize action (project right) = rightOutcome at sameResult samePart ⊢
  obtain ⟨leftResult, leftPart⟩ := leftOutcome
  obtain ⟨rightResult, rightPart⟩ := rightOutcome
  cases sameResult
  cases leftResult with
  | error err => exact ⟨rfl, wholes left right _ _ states samePart⟩
  | ok value => exact ⟨rfl, wholes left right _ _ states samePart⟩

end Agrees

end Action

end MiniWasm.Library
