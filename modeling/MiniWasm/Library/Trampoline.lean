import Mathlib.Tactic.Common

/-!
# Trampolines

An evaluator whose activations call each other, in two forms.  The recursive
form evaluates a callee before it goes on with its caller.  The trampoline is a
loop with an explicit list of suspended callers.  Both reach the same results,
with the same effects, and the trampoline never holds more activations than the
language allows to start.
-/

namespace MiniWasm.Library.Trampoline

/-- What starting a callee leads to: an activation, or a result at once. -/
inductive Entered (Frame Result : Type) where
  | frame (frame : Frame)
  | result (result : Result)

/-- What an activation does next. -/
inductive Progress (Frame Callee Result : Type) where
  | running (frame : Frame)
  | return (result : Result)
  | tailCall (callee : Callee)
  | call (continuation : Frame) (callee : Callee)

structure Language (State Frame Callee Result Error : Type) where
  /-- Start a callee on top of the given number of suspended activations. -/
  enter : (suspended : Nat) → State → Callee → State × Except Error (Entered Frame Result)
  step : State → Frame → State × Except Error (Progress Frame Callee Result)
  /-- Hand the result of a call to the activation that made it. -/
  resume : Frame → Result → Frame

/-- What is evaluated: an activation, or a callee that has not started. -/
inductive Current (Frame Callee : Type) where
  | frame (frame : Frame)
  | callee (callee : Callee)

variable {State Frame Callee Result Error : Type}
variable (language : Language State Frame Callee Result Error)

/-! ## The recursive evaluator -/

/-- A call evaluates the callee on top of one more suspended activation; a tail
call goes on with the callee in the place of the activation. -/
def eval : (fuel suspended : Nat) → State → Current Frame Callee →
    Option (State × Except Error Result)
  | 0, _, _, _ => none
  | fuel + 1, suspended, state, .callee callee =>
      match language.enter suspended state callee with
      | (state, .error err) => some (state, .error err)
      | (state, .ok (.result result)) => some (state, .ok result)
      | (state, .ok (.frame frame)) => eval fuel suspended state (.frame frame)
  | fuel + 1, suspended, state, .frame frame =>
      match language.step state frame with
      | (state, .error err) => some (state, .error err)
      | (state, .ok (.running frame)) => eval fuel suspended state (.frame frame)
      | (state, .ok (.return result)) => some (state, .ok result)
      | (state, .ok (.tailCall callee)) => eval fuel suspended state (.callee callee)
      | (state, .ok (.call continuation callee)) =>
          match eval fuel (suspended + 1) state (.callee callee) with
          | none => none
          | some (state, .error err) => some (state, .error err)
          | some (state, .ok result) =>
              eval fuel suspended state (.frame (language.resume continuation result))

theorem eval_succ {fuel suspended : Nat} {state : State} {current : Current Frame Callee}
    {value : State × Except Error Result}
    (evaluated : eval language fuel suspended state current = some value) :
    eval language (fuel + 1) suspended state current = some value := by
  induction fuel generalizing suspended state current value with
  | zero => cases evaluated
  | succ fuel ih =>
      cases current with
      | callee callee =>
          rw [eval] at evaluated ⊢
          split at evaluated
          · exact evaluated
          · exact evaluated
          · exact ih evaluated
      | frame frame =>
          rw [eval] at evaluated ⊢
          split at evaluated
          · exact evaluated
          · exact ih evaluated
          · exact evaluated
          · exact ih evaluated
          · next state continuation callee _ =>
              cases called : eval language fuel (suspended + 1) state (.callee callee) with
              | none =>
                  rw [called] at evaluated
                  cases evaluated
              | some calleeValue =>
                  rw [ih called]
                  obtain ⟨state, result⟩ := calleeValue
                  rw [called] at evaluated
                  cases result with
                  | error err => exact evaluated
                  | ok result => exact ih evaluated

theorem eval_mono {fuel more suspended : Nat} {state : State}
    {current : Current Frame Callee} {value : State × Except Error Result}
    (enough : fuel ≤ more)
    (evaluated : eval language fuel suspended state current = some value) :
    eval language more suspended state current = some value := by
  induction enough with
  | refl => exact evaluated
  | step _ ih => exact eval_succ language ih

/-! ## The trampoline -/

inductive Config (State Frame Callee Result Error : Type) where
  | running (state : State) (current : Current Frame Callee) (callers : List Frame)
  | done (state : State) (result : Except Error Result)

/-- Hand a result to the innermost caller. -/
def returnTo (state : State) (result : Result) :
    List Frame → Config State Frame Callee Result Error
  | [] => .done state (.ok result)
  | caller :: callers => .running state (.frame (language.resume caller result)) callers

/-- How the loop goes on after a callee has been evaluated. -/
def afterwards (state : State) (callers : List Frame) :
    Except Error Result → Config State Frame Callee Result Error
  | .error err => .done state (.error err)
  | .ok result => returnTo language state result callers

def step : Config State Frame Callee Result Error → Config State Frame Callee Result Error
  | .done state result => .done state result
  | .running state (.callee callee) callers =>
      match language.enter callers.length state callee with
      | (state, .error err) => .done state (.error err)
      | (state, .ok (.result result)) => returnTo language state result callers
      | (state, .ok (.frame frame)) => .running state (.frame frame) callers
  | .running state (.frame frame) callers =>
      match language.step state frame with
      | (state, .error err) => .done state (.error err)
      | (state, .ok (.running frame)) => .running state (.frame frame) callers
      | (state, .ok (.return result)) => returnTo language state result callers
      | (state, .ok (.tailCall callee)) => .running state (.callee callee) callers
      | (state, .ok (.call continuation callee)) =>
          .running state (.callee callee) (continuation :: callers)

def run : (steps : Nat) → Config State Frame Callee Result Error →
    Config State Frame Callee Result Error
  | 0, config => config
  | steps + 1, config => run steps (step language config)

theorem run_add (first second : Nat) (config : Config State Frame Callee Result Error) :
    run language (first + second) config = run language second (run language first config) := by
  induction first generalizing config with
  | zero => rw [Nat.zero_add, run]
  | succ first ih => rw [Nat.succ_add, run, run, ih]

@[simp] theorem run_done (steps : Nat) (state : State) (result : Except Error Result) :
    run language steps (.done state result : Config State Frame Callee Result Error) =
      .done state result := by
  induction steps with
  | zero => rfl
  | succ steps ih => exact ih

/-- One configuration leads to another. -/
def Leads (source target : Config State Frame Callee Result Error) : Prop :=
  ∃ steps, run language steps source = target

variable {language}

theorem Leads.refl (config : Config State Frame Callee Result Error) :
    Leads language config config :=
  ⟨0, rfl⟩

theorem Leads.trans {first second third : Config State Frame Callee Result Error}
    (left : Leads language first second) (right : Leads language second third) :
    Leads language first third := by
  obtain ⟨leftSteps, rfl⟩ := left
  obtain ⟨rightSteps, rfl⟩ := right
  exact ⟨leftSteps + rightSteps, run_add language ..⟩

theorem Leads.head {first second third : Config State Frame Callee Result Error}
    (one : step language first = second) (rest : Leads language second third) :
    Leads language first third := by
  subst one
  obtain ⟨steps, rfl⟩ := rest
  exact ⟨steps + 1, rfl⟩

/-! ## Agreement -/

/-- The loop reaches what the evaluator computes, and hands a result to exactly
the callers below. -/
theorem leads_of_eval {fuel : Nat} {state after : State} {current : Current Frame Callee}
    {callers : List Frame} {result : Except Error Result}
    (evaluated : eval language fuel callers.length state current = some (after, result)) :
    Leads language (.running state current callers)
      (afterwards language after callers result) := by
  induction fuel generalizing state after current callers result with
  | zero => cases evaluated
  | succ fuel ih =>
      cases current with
      | callee callee =>
          rw [eval] at evaluated
          split at evaluated
          · next entered =>
              cases evaluated
              exact .head (by rw [step, entered]; rfl) (.refl _)
          · next entered =>
              cases evaluated
              exact .head (by rw [step, entered]; rfl) (.refl _)
          · next entered => exact .head (by rw [step, entered]) (ih evaluated)
      | frame frame =>
          rw [eval] at evaluated
          split at evaluated
          · next stepped =>
              cases evaluated
              exact .head (by rw [step, stepped]; rfl) (.refl _)
          · next stepped => exact .head (by rw [step, stepped]) (ih evaluated)
          · next stepped =>
              cases evaluated
              exact .head (by rw [step, stepped]; rfl) (.refl _)
          · next stepped => exact .head (by rw [step, stepped]) (ih evaluated)
          · next middle continuation callee stepped =>
              refine .head (by rw [step, stepped]) ?_
              have calleeLeads {after : State} {result : Except Error Result}
                  (called : eval language fuel (callers.length + 1) middle (.callee callee) =
                    some (after, result)) :
                  Leads language (.running middle (.callee callee) (continuation :: callers))
                    (afterwards language after (continuation :: callers) result) :=
                ih called
              split at evaluated
              · cases evaluated
              · next called =>
                  cases evaluated
                  exact calleeLeads called
              · next called => exact (calleeLeads called).trans (ih evaluated)

/-- A loop that ends has evaluated what it was working on, and has gone on with
the callers from there. -/
theorem eval_of_run {steps : Nat} {state final : State} {current : Current Frame Callee}
    {callers : List Frame} {result : Except Error Result}
    (ended : run language steps (.running state current callers) = .done final result) :
    ∃ fuel middle outcome rest,
      eval language fuel callers.length state current = some (middle, outcome) ∧
      rest ≤ steps ∧
      run language rest (afterwards language middle callers outcome) = .done final result := by
  induction steps using Nat.strongRecOn generalizing state current callers with
  | ind steps ih =>
  cases steps with
  | zero => cases ended
  | succ steps =>
      rw [run] at ended
      -- The step that ended the evaluation, if it did.
      have here {middle : State} {outcome : Except Error Result}
          (evaluated : eval language 1 callers.length state current = some (middle, outcome))
          (stepped : step language (.running state current callers) =
            afterwards language middle callers outcome) :
          ∃ fuel middle outcome rest,
            eval language fuel callers.length state current = some (middle, outcome) ∧
            rest ≤ steps + 1 ∧
            run language rest (afterwards language middle callers outcome) =
              .done final result :=
        ⟨1, middle, outcome, steps, evaluated, Nat.le_succ _, by rw [← stepped]; exact ended⟩
      -- The step led to another stage of the same activation.
      have later {next : Current Frame Callee} {after : State}
          (stepped : step language (.running state current callers) =
            .running after next callers)
          (evaluates : ∀ fuel, eval language (fuel + 1) callers.length state current =
            eval language fuel callers.length after next) :
          ∃ fuel middle outcome rest,
            eval language fuel callers.length state current = some (middle, outcome) ∧
            rest ≤ steps + 1 ∧
            run language rest (afterwards language middle callers outcome) =
              .done final result := by
        rw [stepped] at ended
        obtain ⟨fuel, middle, outcome, rest, evaluated, fewer, remaining⟩ :=
          ih steps (Nat.lt_succ_self _) ended
        exact ⟨fuel + 1, middle, outcome, rest, (evaluates fuel).trans evaluated,
          Nat.le_succ_of_le fewer, remaining⟩
      cases current with
      | callee callee =>
          cases entered : language.enter callers.length state callee with
          | mk after outcome =>
          cases outcome with
          | error err =>
              exact here (by rw [eval, entered]) (by rw [step, entered]; rfl)
          | ok entry =>
              cases entry with
              | result value =>
                  exact here (by rw [eval, entered]) (by rw [step, entered]; rfl)
              | frame frame =>
                  exact later (by rw [step, entered]) (fun _ => by rw [eval, entered])
      | frame frame =>
          cases stepped : language.step state frame with
          | mk after outcome =>
          cases outcome with
          | error err =>
              exact here (by rw [eval, stepped]) (by rw [step, stepped]; rfl)
          | ok progress =>
              cases progress with
              | «return» value =>
                  exact here (by rw [eval, stepped]) (by rw [step, stepped]; rfl)
              | running next =>
                  exact later (by rw [step, stepped]) (fun _ => by rw [eval, stepped])
              | tailCall callee =>
                  exact later (by rw [step, stepped]) (fun _ => by rw [eval, stepped])
              | call continuation callee =>
                  simp only [step, stepped] at ended
                  obtain ⟨fuel, middle, outcome, rest, called, fewer, remaining⟩ :=
                    ih steps (Nat.lt_succ_self _) ended
                  rw [List.length_cons] at called
                  cases outcome with
                  | error err =>
                      refine ⟨fuel + 1, middle, .error err, rest, ?_,
                        Nat.le_succ_of_le fewer, remaining⟩
                      simp only [eval, stepped, called]
                  | ok value =>
                      -- The callee has returned; the caller goes on in fewer steps.
                      obtain ⟨callerFuel, last, outcome, left, resumed, fewerLeft, remaining⟩ :=
                        ih rest (Nat.lt_succ_of_le fewer) remaining
                      refine ⟨max fuel callerFuel + 1, last, outcome, left, ?_, by omega,
                        remaining⟩
                      simp only [eval, stepped,
                        eval_mono language (Nat.le_max_left fuel callerFuel) called]
                      exact eval_mono language (Nat.le_max_right fuel callerFuel) resumed

/-- Without callers below, the loop ends exactly where the evaluator does. -/
theorem run_iff_eval {state final : State} {current : Current Frame Callee}
    {result : Except Error Result} :
    (∃ steps, run language steps (.running state current []) = .done final result) ↔
      ∃ fuel, eval language fuel 0 state current = some (final, result) := by
  have alone (middle : State) (outcome : Except Error Result) :
      afterwards language middle [] outcome = .done middle outcome := by
    cases outcome <;> rfl
  constructor
  · rintro ⟨steps, ended⟩
    obtain ⟨fuel, middle, outcome, rest, evaluated, -, remaining⟩ := eval_of_run ended
    rw [alone, run_done] at remaining
    cases remaining
    exact ⟨fuel, evaluated⟩
  · rintro ⟨fuel, evaluated⟩
    have leads : Leads language (.running state current [])
        (afterwards language final [] result) :=
      leads_of_eval evaluated
    rwa [alone] at leads

/-! ## How many activations there are -/

/-- Activations that have started and not ended. -/
def activations : Config State Frame Callee Result Error → Nat
  | .running _ (.frame _) callers => callers.length + 1
  | .running _ (.callee _) callers => callers.length
  | .done _ _ => 0

theorem activations_returnTo (state : State) (result : Result) (callers : List Frame) :
    activations (returnTo language state result callers) ≤ callers.length := by
  cases callers with
  | nil => exact Nat.le_refl _
  | cons caller callers => exact Nat.le_refl _

/-- A step starts an activation only where the language enters one. -/
theorem activations_step {limit : Nat}
    (bounded : ∀ suspended state callee after frame,
      language.enter suspended state callee = (after, .ok (.frame frame)) → suspended < limit)
    {config : Config State Frame Callee Result Error} (within : activations config ≤ limit) :
    activations (step language config) ≤ limit := by
  cases config with
  | done state result => exact within
  | running state current callers =>
      cases current with
      | callee callee =>
          rw [step]
          split
          · exact Nat.zero_le _
          · exact Nat.le_trans (activations_returnTo ..) within
          · next entered => exact bounded _ _ _ _ _ entered
      | frame frame =>
          have fewer : callers.length ≤ limit := Nat.le_of_succ_le within
          rw [step]
          split
          · exact Nat.zero_le _
          · exact within
          · exact Nat.le_trans (activations_returnTo ..) fewer
          · exact fewer
          · exact within

theorem activations_run {limit : Nat}
    (bounded : ∀ suspended state callee after frame,
      language.enter suspended state callee = (after, .ok (.frame frame)) → suspended < limit)
    {config : Config State Frame Callee Result Error} (within : activations config ≤ limit)
    (steps : Nat) : activations (run language steps config) ≤ limit := by
  induction steps generalizing config with
  | zero => exact within
  | succ steps ih => exact ih (activations_step bounded within)

/-! Only calls that suspend their caller make the list of callers longer. -/

def callers : Config State Frame Callee Result Error → List Frame
  | .running _ _ callers => callers
  | .done _ _ => []

/-- The next step suspends the activation that runs. -/
def suspends (language : Language State Frame Callee Result Error) :
    Config State Frame Callee Result Error → Bool
  | .running state (.frame frame) _ =>
      match language.step state frame with
      | (_, .ok (.call _ _)) => true
      | _ => false
  | _ => false

/-- Suspending calls among the given number of steps. -/
def suspensions (language : Language State Frame Callee Result Error) :
    (steps : Nat) → Config State Frame Callee Result Error → Nat
  | 0, _ => 0
  | steps + 1, config =>
      (suspends language config).toNat + suspensions language steps (step language config)

theorem callers_returnTo (state : State) (result : Result) (suspended : List Frame) :
    (callers (returnTo language state result suspended)).length ≤ suspended.length := by
  cases suspended with
  | nil => exact Nat.le_refl _
  | cons caller callers => exact Nat.le_succ _

theorem callers_step (config : Config State Frame Callee Result Error) :
    (callers (step language config)).length ≤
      (callers config).length + (suspends language config).toNat := by
  cases config with
  | done state result => exact Nat.zero_le _
  | running state current suspended =>
      cases current with
      | callee callee =>
          rw [step]
          split
          · exact Nat.zero_le _
          · exact callers_returnTo ..
          · exact Nat.le_refl _
      | frame frame =>
          rw [step]
          split
          · exact Nat.zero_le _
          · exact Nat.le_add_right ..
          · exact Nat.le_add_right_of_le (callers_returnTo ..)
          · exact Nat.le_add_right ..
          · next stepped =>
              have suspending : suspends language (.running state (.frame frame) suspended) =
                  true := by
                rw [suspends, stepped]
              rw [suspending]
              exact Nat.le_refl _

theorem callers_run (steps : Nat) (config : Config State Frame Callee Result Error) :
    (callers (run language steps config)).length ≤
      (callers config).length + suspensions language steps config := by
  induction steps generalizing config with
  | zero => exact Nat.le_refl _
  | succ steps ih =>
      have one : (callers (step language config)).length ≤
          (callers config).length + (suspends language config).toNat :=
        callers_step config
      have rest := ih (step language config)
      simp only [run, suspensions]
      omega

end MiniWasm.Library.Trampoline
