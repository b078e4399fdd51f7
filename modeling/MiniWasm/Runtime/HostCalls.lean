import MiniWasm.Runtime.Fuel

/-!
# Calls of the host

How often an invocation enters callbacks.  Every way to a host function, direct,
indirect, by a tail call or as the start function, leads through the same step
of the machine, so the count that the budget keeps is the count of the entries.
-/

namespace MiniWasm.Runtime

open Library

variable {σ : Type}

/-- The next step calls a callback: everything that comes before the callback in
`invoke_host` succeeds. -/
def Machine.entersHost (inst : Instance σ) (machine : Machine σ) : Bool :=
  match machine.current with
  | .frame _ => false
  | .function index args =>
      decide (index < inst.module.functionImportCount) &&
        (inst.prepareHost index args machine.budget).isOk

def InvokeState.entersHost (inst : Instance σ) : InvokeState σ → Bool
  | .running machine => machine.entersHost inst
  | .finished _ _ => false

/-- Entries of callbacks among the given number of steps. -/
def hostEntries (inst : Instance σ) : (steps : Nat) → InvokeState σ → Nat
  | 0, _ => 0
  | steps + 1, state => (state.entersHost inst).toNat + hostEntries inst steps (state.next inst)

@[simp] theorem hostEntries_finished (inst : Instance σ) (steps : Nat) (store : Store σ)
    (result : Run (List Value)) : hostEntries inst steps (.finished store result) = 0 := by
  induction steps with
  | zero => rfl
  | succ steps ih =>
      rw [hostEntries]
      exact (Nat.zero_add _).trans ih

/-! ## What a step does to the count -/

section Steps

variable {inst : Instance σ} {machine : Machine σ}

/-- If the machine goes on, its budget has counted as many host calls. -/
def InvokeState.Counted (count : Nat) : InvokeState σ → Prop
  | .running machine => machine.budget.hostCalls = count
  | .finished _ _ => True

theorem handleOutcome_counted (machine : Machine σ) (outcome : FunctionOutcome) :
    (machine.handleOutcome outcome).Counted machine.budget.hostCalls := by
  cases outcome with
  | «return» results =>
      unfold Machine.handleOutcome
      cases machine.callers with
      | nil => trivial
      | cons caller callers =>
          cases machine.depth with
          | zero => trivial
          | succ depth => rfl
  | tailCall function args => rfl
  | call continuation function args =>
      unfold Machine.handleOutcome
      dsimp only
      split
      · trivial
      · rfl

theorem consumeInstruction_hostCalls (budget : ExecutionBudget) :
    Ensures (fun after => after.hostCalls = budget.hostCalls) budget.consumeInstruction := by
  unfold ExecutionBudget.consumeInstruction
  split
  · exact (ensures_ok _).mpr rfl
  · exact ensures_error _
  · exact (ensures_ok _).mpr rfl

theorem frameStep_hostCalls (store : Store σ) (budget : ExecutionBudget) (frame : GuestFrame) :
    Ensures (fun after => after.2.1.hostCalls = budget.hostCalls)
      (frameStep inst store budget frame) := by
  unfold frameStep
  split
  · simp only [ensures_bind, ensures_pure]
    intro outcome _
    trivial
  · simp only [ensures_bind, ensures_pure]
    refine (consumeInstruction_hostCalls budget).mono fun paid same => ?_
    intro after _
    exact same

/-- A host call that the budget admits is counted, whatever the limit. -/
theorem consumeHostCall_ok {budget : ExecutionBudget} {limit : Nat} (bounded : limit < 2 ^ 64) :
    Ensures (fun after => after.hostCalls = budget.hostCalls + 1 ∧ budget.hostCalls < limit)
      (budget.consumeHostCall (some limit)) := by
  unfold ExecutionBudget.consumeHostCall
  dsimp only
  split
  · exact ensures_error _
  next below =>
  rw [ensures_ok]
  constructor
  · exact Nat.min_eq_left (by omega)
  · exact Nat.lt_of_not_le below

theorem prepareHost_hostCalls {limit index : Nat} {args : List Value}
    {budget : ExecutionBudget} (limited : inst.limits.maxHostCalls = some limit)
    (bounded : limit < 2 ^ 64) :
    Ensures (fun after => after.1.hostCalls = budget.hostCalls + 1 ∧ budget.hostCalls < limit)
      (inst.prepareHost index args budget) := by
  rw [Instance.prepareHost, limited, ensures_bind]
  refine (consumeHostCall_ok bounded).mono fun consumed counted => ?_
  split
  · exact ensures_error _
  split
  · exact ensures_error _
  split
  · exact ensures_error _
  rw [ensures_bind]
  intro _ _
  split
  · exact ensures_error _
  · exact (ensures_pure _).mpr counted

/-- What a step adds to the count of the budget is what it enters, and an entry
needs room under the limit. -/
theorem step_counted (machine : Machine σ) {limit : Nat}
    (limited : inst.limits.maxHostCalls = some limit)
    (bounded : limit < 2 ^ 64) :
    (machine.step inst).Counted
        (machine.budget.hostCalls + (machine.entersHost inst).toNat) ∧
      (machine.entersHost inst = true → machine.budget.hostCalls < limit) := by
  cases current : machine.current with
  | frame frame =>
      have entersNot : machine.entersHost inst = false := by
        unfold Machine.entersHost
        rw [current]
      rw [entersNot, step_frame current]
      refine ⟨?_, fun enters => by cases enters⟩
      cases round : frameStep inst machine.store machine.budget frame with
      | error err => trivial
      | ok after =>
          obtain ⟨store, budget, step⟩ := after
          have same := frameStep_hostCalls machine.store machine.budget frame _ round
          dsimp only at same
          cases step with
          | running next => exact same
          | outcome outcome =>
              have counted :=
                handleOutcome_counted { machine with store, budget } outcome
              rw [same] at counted
              exact counted
  | function index args =>
      have entersEq : machine.entersHost inst =
          (decide (index < inst.module.functionImportCount) &&
            (inst.prepareHost index args machine.budget).isOk) := by
        unfold Machine.entersHost
        rw [current]
      rw [step_function current, entersEq, Machine.enter]
      by_cases imported : index < inst.module.functionImportCount
      · rw [if_pos imported, decide_eq_true imported, Bool.true_and, Instance.invokeHost]
        cases prepared : inst.prepareHost index args machine.budget with
        | error err => exact ⟨trivial, fun enters => by cases enters⟩
        | ok after =>
            obtain ⟨budget, entry, type, host⟩ := after
            obtain ⟨counted, room⟩ := prepareHost_hostCalls limited bounded _ prepared
            refine ⟨?_, fun _ => room⟩
            dsimp only at counted ⊢
            cases hostResults entry type
                (host.callback machine.store.host (machine.store.hostView host.capabilities)
                  args).result with
            | error err => trivial
            | ok values =>
                have kept := handleOutcome_counted
                  { machine with
                    store := machine.store.afterHost host.capabilities
                      (host.callback machine.store.host
                        (machine.store.hostView host.capabilities) args)
                    budget }
                  (.return values)
                rw [counted] at kept
                exact kept
      · rw [if_neg imported, decide_eq_false imported, Bool.false_and]
        refine ⟨?_, fun enters => by cases enters⟩
        split
        · trivial
        · split
          · trivial
          · rfl

/-- A run enters no more callbacks than its budget leaves under the limit. -/
theorem hostEntries_le {limit : Nat} (limited : inst.limits.maxHostCalls = some limit)
    (bounded : limit < 2 ^ 64) (steps : Nat) (room : machine.budget.hostCalls ≤ limit) :
    machine.budget.hostCalls + hostEntries inst steps (.running machine) ≤ limit := by
  induction steps generalizing machine with
  | zero => exact room
  | succ steps ih =>
      obtain ⟨counted, entered⟩ := step_counted machine limited bounded
      have within : machine.budget.hostCalls + (machine.entersHost inst).toNat ≤ limit := by
        cases enters : machine.entersHost inst with
        | false => exact room
        | true => exact entered enters
      rw [hostEntries, InvokeState.next, InvokeState.entersHost]
      cases stepped : machine.step inst with
      | finished store result =>
          rw [hostEntries_finished]
          exact within
      | running next =>
          rw [stepped] at counted
          have rest := @ih next (by rw [counted]; exact within)
          rw [counted] at rest
          rw [← Nat.add_assoc]
          exact rest

end Steps

/-! ## Whole invocations -/

namespace Instance

variable (inst : Instance σ)

/-- Callbacks that an invocation enters in the given number of steps. -/
def hostEntriesOf (fuel : Option Nat) (store : Store σ) (invocation : Invocation)
    (steps : Nat) : Nat :=
  hostEntries (inst.withFuel fuel) steps ((inst.withFuel fuel).begin store invocation)

variable {inst}

/-- An invocation starts with nothing counted, if it starts at all. -/
theorem begin_counted (store : Store σ) (invocation : Invocation) :
    (inst.begin store invocation).Counted 0 := by
  cases invocation with
  | start function => rfl
  | «export» name args =>
      simp only [begin, startExport]
      split
      · trivial
      · rfl

/-- With fuel every invocation ends, whatever calls it makes, and with a limit
for host calls it enters no more callbacks than that. -/
theorem invocation_bounded (inst : Instance σ) (store : Store σ) (invocation : Invocation) :
    (∀ fuel, ∃ steps final result,
      inst.invokeWithFuel (some fuel) store invocation steps = .finished final result) ∧
    ∀ limit, inst.limits.maxHostCalls = some limit → limit < 2 ^ 64 →
      ∀ fuel steps, inst.hostEntriesOf fuel store invocation steps ≤ limit := by
  constructor
  · intro fuel
    have unlimited := @begin_unlimited σ inst store invocation
    obtain ⟨steps, ended⟩ :=
      Metering.exists_final (metered_lawful (inst.withFuel none))
        (metered_progresses (inst.withFuel none)) fuel unlimited
    rw [← invokeWithFuel_some] at ended
    cases reached : inst.invokeWithFuel (some fuel) store invocation steps with
    | running machine =>
        rw [reached] at ended
        cases ended
    | finished final result => exact ⟨steps, final, result, reached⟩
  · intro limit limited bounded fuel steps
    have counted := @begin_counted σ (inst.withFuel fuel) store invocation
    rw [hostEntriesOf]
    cases started : (inst.withFuel fuel).begin store invocation with
    | finished final result =>
        rw [hostEntries_finished]
        exact Nat.zero_le _
    | running machine =>
        rw [started] at counted
        have fresh : machine.budget.hostCalls = 0 := counted
        have within := @hostEntries_le σ (inst.withFuel fuel) machine _
          limited bounded steps (by rw [fresh]; exact Nat.zero_le _)
        rw [fresh, Nat.zero_add] at within
        exact within

/-- An instance whose start function is an imported one. -/
def hostStarted : Instance Nat where
  identity := 0
  module :=
    { types := [⟨[], []⟩], imports := [{ module := "m", name := "f", desc := .function 0 }]
      start := some 0 }
  controlMaps := []
  tables := []
  globals := []
  hosts :=
    { functions :=
        [(("m", "f"),
          { params := [], results := [], capabilities := .none
            callback := fun calls _ _ => { state := calls + 1, ops := [], result := .ok [] } })]
      globals := [], tables := [], memories := [] }
  limits := { maxCallDepth := 8, maxMemoryPages := 1, fuel := none, maxHostCalls := some 1 }

def blankStore : Store Nat where
  heap := .empty fun _ => true
  memories := []
  dataSegments := []
  elementSegments := []
  host := 0

theorem invocation_bounded_hostStarted :
    hostStarted.hostEntriesOf none blankStore (.start 0) 2 = 1 ∧
      hostStarted.hostEntriesOf none blankStore (.start 0) 2 ≤ 1 :=
  ⟨by decide, (invocation_bounded hostStarted blankStore (.start 0)).2 1 rfl (by decide) none 2⟩

end Instance

end MiniWasm.Runtime
