import MiniWasm.Library.Metering
import MiniWasm.Runtime.Instantiate

/-!
# Fuel

The invocation loop as a metered process: an instruction is paid for before it
has any effect, and nothing else reads the fuel.  So a run with fuel is the run
without, cut at the first instruction that the fuel does not pay for, and it
always ends.
-/

namespace MiniWasm.Runtime

open Library

variable {σ : Type}

def ExecutionBudget.withFuel (fuel : Option Nat) (budget : ExecutionBudget) :
    ExecutionBudget :=
  { budget with fuelRemaining := fuel }

def Machine.withFuel (fuel : Option Nat) (machine : Machine σ) : Machine σ :=
  { machine with budget := machine.budget.withFuel fuel }

/-- The same instance under another fuel limit. -/
def Instance.withFuel (fuel : Option Nat) (inst : Instance σ) : Instance σ :=
  { inst with limits := { inst.limits with fuel } }

/-- The machine is about to execute an instruction. -/
def Machine.executes (machine : Machine σ) : Bool :=
  match machine.current with
  | .frame frame => frame.code[frame.pc]?.isSome
  | .function _ _ => false

namespace InvokeState

def withFuel (fuel : Option Nat) : InvokeState σ → InvokeState σ
  | .running machine => .running (machine.withFuel fuel)
  | .finished store result => .finished store result

def store : InvokeState σ → Store σ
  | .running machine => machine.store
  | .finished store _ => store

def executes : InvokeState σ → Bool
  | .running machine => machine.executes
  | .finished _ _ => false

def Ended : InvokeState σ → Prop
  | .running _ => False
  | .finished _ _ => True

def next (inst : Instance σ) : InvokeState σ → InvokeState σ
  | .running machine => machine.step inst
  | .finished store result => .finished store result

/-- Suspended callers, and a function that is about to start, are what is left to
do without executing an instruction. -/
def pending : InvokeState σ → Nat
  | .finished _ _ => 0
  | .running machine =>
      2 * machine.callers.length +
        match machine.current with
        | .function _ _ => 1
        | .frame _ => 0

end InvokeState

def metered (inst : Instance σ) : Metering.Process (InvokeState σ) where
  next := .next inst
  charged := InvokeState.executes
  limited budget := .withFuel (some budget)
  exhausted state := .finished state.store (.error .fuelExhausted)
  unlimited state := state.withFuel none = state

/-- Instructions among the given number of steps of the machine. -/
def instructionsExecuted (inst : Instance σ) (steps : Nat) (state : InvokeState σ) : Nat :=
  Metering.spent (metered inst) steps state

theorem invokeFor_eq_run (inst : Instance σ) (steps : Nat) (state : InvokeState σ) :
    invokeFor inst steps state = Metering.run (metered inst) steps state := by
  induction steps generalizing state with
  | zero => rfl
  | succ steps ih =>
      rw [Metering.run_succ]
      cases state with
      | running machine => exact ih _
      | finished store result =>
          have stays := ih (.finished store result)
          rw [invokeFor_finished] at stays
          exact stays

/-! ## Nothing but the charge reads the fuel -/

section Charge

variable (inst : Instance σ) (fuel : Option Nat)

theorem invokeFor_withFuel (steps : Nat) (state : InvokeState σ) :
    invokeFor (inst.withFuel fuel) steps state = invokeFor inst steps state := by
  induction steps generalizing state with
  | zero => rfl
  | succ steps ih =>
      cases state with
      | finished store result => rfl
      | running machine => exact ih (machine.step inst)

theorem handleOutcome_withFuel (machine : Machine σ) (outcome : FunctionOutcome) :
    (machine.withFuel fuel).handleOutcome outcome =
      (machine.handleOutcome outcome).withFuel fuel := by
  cases outcome with
  | «return» results =>
      simp only [Machine.handleOutcome, Machine.withFuel]
      cases machine.callers with
      | nil => rfl
      | cons caller callers => cases machine.depth <;> rfl
  | tailCall function args => rfl
  | call continuation function args =>
      unfold Machine.handleOutcome
      dsimp only
      by_cases deep : 2 ^ 64 ≤ machine.depth + 1
      · have deepToo : 2 ^ 64 ≤ (machine.withFuel fuel).depth + 1 := deep
        rw [if_pos deep, if_pos deepToo]
        rfl
      · have shallowToo : ¬ 2 ^ 64 ≤ (machine.withFuel fuel).depth + 1 := deep
        rw [if_neg deep, if_neg shallowToo]
        rfl

theorem consumeHostCall_withFuel (budget : ExecutionBudget) (limit : Option Nat) :
    (budget.withFuel fuel).consumeHostCall limit =
      (budget.consumeHostCall limit).map (.withFuel fuel) := by
  cases limit with
  | none => rfl
  | some limit =>
      unfold ExecutionBudget.consumeHostCall
      dsimp only
      by_cases spent : limit ≤ budget.hostCalls
      · have spentToo : limit ≤ (budget.withFuel fuel).hostCalls := spent
        rw [if_pos spent, if_pos spentToo]
        rfl
      · have leftToo : ¬ limit ≤ (budget.withFuel fuel).hostCalls := spent
        rw [if_neg spent, if_neg leftToo]
        rfl

/-- A prepared host call under another budget. -/
def rebudgeted {α : Type} (fuel : Option Nat) (prepared : ExecutionBudget × α) :
    ExecutionBudget × α :=
  (prepared.1.withFuel fuel, prepared.2)

theorem prepareHost_withFuel (index : Nat) (args : List Value) (budget : ExecutionBudget) :
    inst.prepareHost index args (budget.withFuel fuel) =
      (inst.prepareHost index args budget).map (rebudgeted fuel) := by
  simp only [Instance.prepareHost, consumeHostCall_withFuel]
  cases budget.consumeHostCall inst.limits.maxHostCalls with
  | error err => rfl
  | ok budget =>
      simp only [Except.map, ok_bind]
      cases inst.module.functionImport index with
      | none => rfl
      | some entry =>
          dsimp only
          cases entry.functionTypeIndex with
          | none => rfl
          | some typeIndex =>
              dsimp only
              cases inst.module.types[typeIndex]? with
              | none => rfl
              | some type =>
                  dsimp only
                  cases validateValues type.params args with
                  | error err => rfl
                  | ok _ =>
                      simp only [ok_bind]
                      cases findKey inst.hosts.functions entry.key <;> rfl

theorem invokeHost_withFuel (store : Store σ) (budget : ExecutionBudget) (index : Nat)
    (args : List Value) :
    inst.invokeHost store (budget.withFuel fuel) index args =
      ((inst.invokeHost store budget index args).1,
        (inst.invokeHost store budget index args).2.map (rebudgeted fuel)) := by
  simp only [Instance.invokeHost, prepareHost_withFuel]
  cases inst.prepareHost index args budget with
  | error err => rfl
  | ok prepared =>
      obtain ⟨budget, entry, type, host⟩ := prepared
      simp only [Except.map, rebudgeted]
      cases hostResults entry type
        (host.callback store.host (store.hostView host.capabilities) args).result <;> rfl

theorem enter_withFuel (machine : Machine σ) (index : Nat) (args : List Value) :
    (machine.withFuel fuel).enter inst index args =
      (machine.enter inst index args).withFuel fuel := by
  unfold Machine.enter
  have invoked := invokeHost_withFuel inst fuel machine.store machine.budget index args
  by_cases imported : index < inst.module.functionImportCount
  · rw [if_pos imported, if_pos imported]
    simp only [Machine.withFuel, invoked]
    cases inst.invokeHost machine.store machine.budget index args with
    | mk after outcome =>
        cases outcome with
        | error err => rfl
        | ok values =>
            exact handleOutcome_withFuel fuel
              { machine with store := after, budget := values.1 } _
  rw [if_neg imported, if_neg imported]
  by_cases deep : Machine.callDepthLimit inst ≤ machine.depth
  · have deepToo : Machine.callDepthLimit inst ≤ (machine.withFuel fuel).depth := deep
    rw [if_pos deep, if_pos deepToo]
    rfl
  · have shallowToo : ¬ Machine.callDepthLimit inst ≤ (machine.withFuel fuel).depth := deep
    rw [if_neg deep, if_neg shallowToo]
    cases inst.prepareGuestFrame index args <;> rfl

/-- A round that is not about to execute an instruction leaves the loop. -/
theorem frameStep_left_withFuel (store : Store σ) (budget : ExecutionBudget)
    {frame : GuestFrame} (left : frame.code[frame.pc]? = none) :
    frameStep inst store budget frame =
      (finishFrame frame).map fun outcome => (store, budget, .outcome outcome) := by
  unfold frameStep
  rw [left]
  dsimp only
  cases finishFrame frame <;> rfl

/-- A round that executes an instruction, after the charge. -/
theorem frameStep_charged {frame : GuestFrame} {opcode : UInt8} (store : Store σ)
    (budget : ExecutionBudget) (here : frame.code[frame.pc]? = some opcode) :
    frameStep inst store budget frame =
      budget.consumeInstruction.bind fun budget =>
        (executeOp inst store { frame with pc := frame.pc + 1 } frame.pc opcode.toNat).map
          fun (store, step) => (store, budget, step) := by
  unfold frameStep
  rw [here]
  dsimp only
  cases budget.consumeInstruction with
  | error err => rfl
  | ok budget =>
      simp only [ok_bind, Except.bind]
      cases executeOp inst store { frame with pc := frame.pc + 1 } frame.pc opcode.toNat <;> rfl

end Charge

/-! ## The process keeps the law -/

section Law

variable {inst : Instance σ} {machine : Machine σ}

/-- What the machine does after an interpreter round. -/
def Machine.afterRound (machine : Machine σ) :
    Run (Store σ × ExecutionBudget × FrameStep) → InvokeState σ
  | .error err => .finished machine.store (.error err)
  | .ok (store, budget, .running frame) =>
      .running { machine with store, budget, current := .frame frame }
  | .ok (store, budget, .outcome outcome) =>
      { machine with store, budget }.handleOutcome outcome

theorem step_frame {frame : GuestFrame} (current : machine.current = .frame frame) :
    machine.step inst =
      machine.afterRound (frameStep inst machine.store machine.budget frame) := by
  cases round : frameStep inst machine.store machine.budget frame with
  | error err => simp only [Machine.step, Machine.afterRound, current, round]
  | ok values =>
      obtain ⟨store, budget, step⟩ := values
      cases step <;> simp only [Machine.step, Machine.afterRound, current, round]

theorem step_function {index : Nat} {args : List Value}
    (current : machine.current = .function index args) :
    machine.step inst = machine.enter inst index args := by
  unfold Machine.step
  rw [current]

theorem executes_frame {frame : GuestFrame} (current : machine.current = .frame frame) :
    machine.executes = frame.code[frame.pc]?.isSome := by
  unfold Machine.executes
  rw [current]

/-- A step without a charge is the same under every fuel. -/
theorem step_free (fuel : Option Nat) (free : machine.executes = false) :
    (machine.withFuel fuel).step inst = (machine.step inst).withFuel fuel := by
  cases current : machine.current with
  | function index args =>
      have limited : (machine.withFuel fuel).current = .function index args := current
      rw [step_function current, step_function limited]
      exact enter_withFuel inst fuel machine index args
  | frame frame =>
      rw [executes_frame current, Option.isSome_eq_false_iff, Option.isNone_iff_eq_none] at free
      have limited : (machine.withFuel fuel).current = .frame frame := current
      rw [step_frame current, step_frame limited,
        frameStep_left_withFuel inst _ _ free, frameStep_left_withFuel inst _ _ free]
      cases finishFrame frame with
      | error err => rfl
      | ok outcome => exact handleOutcome_withFuel fuel machine outcome

/-- With fuel left, an instruction takes one unit and does what it does without a
limit. -/
theorem step_paid (fuel : Nat) (unlimited : machine.withFuel none = machine)
    (charged : machine.executes = true) :
    (machine.withFuel (some (fuel + 1))).step inst =
      (machine.step inst).withFuel (some fuel) := by
  cases current : machine.current with
  | function index args =>
      unfold Machine.executes at charged
      rw [current] at charged
      cases charged
  | frame frame =>
      rw [executes_frame current, Option.isSome_iff_exists] at charged
      obtain ⟨opcode, here⟩ := charged
      have limited : (machine.withFuel (some (fuel + 1))).current = .frame frame := current
      rw [step_frame current, step_frame limited,
        frameStep_charged inst _ _ here, frameStep_charged inst _ _ here, ← unlimited]
      simp only [Machine.withFuel, ExecutionBudget.withFuel, ExecutionBudget.consumeInstruction,
        Except.bind]
      cases executeOp inst machine.store { frame with pc := frame.pc + 1 } frame.pc
          opcode.toNat with
      | error err => rfl
      | ok values =>
          obtain ⟨store, step⟩ := values
          cases step with
          | running next => rfl
          | outcome outcome =>
              exact handleOutcome_withFuel (some fuel)
                { machine with store, budget := machine.budget.withFuel none } outcome

/-- Without fuel an instruction fails before it has any effect. -/
theorem step_unpaid (charged : machine.executes = true) :
    (machine.withFuel (some 0)).step inst =
      .finished machine.store (.error .fuelExhausted) := by
  cases current : machine.current with
  | function index args =>
      unfold Machine.executes at charged
      rw [current] at charged
      cases charged
  | frame frame =>
      rw [executes_frame current, Option.isSome_iff_exists] at charged
      obtain ⟨opcode, here⟩ := charged
      have limited : (machine.withFuel (some 0)).current = .frame frame := current
      rw [step_frame limited, frameStep_charged inst _ _ here]
      rfl

theorem handleOutcome_unlimited (outcome : FunctionOutcome)
    (unlimited : machine.withFuel none = machine) :
    (machine.handleOutcome outcome).withFuel none = machine.handleOutcome outcome := by
  rw [← handleOutcome_withFuel, unlimited]

/-- A run without fuel limit stays one. -/
theorem step_unlimited (unlimited : machine.withFuel none = machine) :
    (machine.step inst).withFuel none = machine.step inst := by
  cases charged : machine.executes with
  | false => rw [← step_free none charged, unlimited]
  | true =>
      cases current : machine.current with
      | function index args =>
          unfold Machine.executes at charged
          rw [current] at charged
          cases charged
      | frame frame =>
          rw [executes_frame current, Option.isSome_iff_exists] at charged
          obtain ⟨opcode, here⟩ := charged
          rw [step_frame current, frameStep_charged inst _ _ here, ← unlimited]
          simp only [Machine.withFuel, ExecutionBudget.withFuel,
            ExecutionBudget.consumeInstruction, Except.bind]
          cases executeOp inst machine.store { frame with pc := frame.pc + 1 } frame.pc
              opcode.toNat with
          | error err => rfl
          | ok values =>
              obtain ⟨store, step⟩ := values
              cases step with
              | running next => rfl
              | outcome outcome => exact handleOutcome_unlimited outcome rfl

theorem metered_lawful (inst : Instance σ) : (metered inst).Lawful where
  next state unlimited := by
    cases state with
    | finished store result => rfl
    | running machine =>
        rw [metered] at unlimited
        exact step_unlimited (InvokeState.running.inj unlimited)
  free budget state unlimited free := by
    cases state with
    | finished store result => rfl
    | running machine => exact step_free (some budget) free
  paid budget state unlimited charged := by
    cases state with
    | finished store result => cases charged
    | running machine => exact step_paid budget (InvokeState.running.inj unlimited) charged
  unpaid state unlimited charged := by
    cases state with
    | finished store result => cases charged
    | running machine => exact step_unpaid charged
  ended state := rfl

/-! ## A run with fuel ends -/

theorem handleReturn_progresses (results : List Value) :
    (machine.handleOutcome (.return results)).Ended ∨
      (machine.handleOutcome (.return results)).pending < 2 * machine.callers.length := by
  unfold Machine.handleOutcome
  cases machine.callers with
  | nil => exact .inl trivial
  | cons caller callers =>
      cases machine.depth with
      | zero => exact .inl trivial
      | succ depth =>
          right
          simp only [InvokeState.pending, List.length_cons]
          omega

theorem finishFrame_returns (frame : GuestFrame) :
    Ensures (fun outcome => ∃ results, outcome = .return results) (finishFrame frame) := by
  unfold finishFrame
  split
  · exact ensures_error _
  · rw [ensures_bind]
    intro _ _
    rw [ensures_pure]
    exact ⟨_, rfl⟩

/-- A step that executes no instruction ends the invocation or leaves less to do. -/
theorem step_progresses (free : machine.executes = false) :
    (machine.step inst).Ended ∨
      (machine.step inst).pending < (InvokeState.running machine).pending := by
  cases current : machine.current with
  | function index args =>
      have here : (InvokeState.running machine).pending = 2 * machine.callers.length + 1 := by
        simp only [InvokeState.pending, current]
      rw [step_function current, here]
      unfold Machine.enter
      split
      · split
        · exact .inl trivial
        · next store budget results _ =>
            have returned : ({ machine with store, budget }.handleOutcome (.return results)).Ended ∨
                ({ machine with store, budget }.handleOutcome (.return results)).pending <
                  2 * machine.callers.length :=
              handleReturn_progresses results
            rcases returned with ended | closer
            · exact .inl ended
            · exact .inr (Nat.lt_succ_of_lt closer)
      · split
        · exact .inl trivial
        · split
          · exact .inl trivial
          · exact .inr (Nat.lt_succ_self _)
  | frame frame =>
      rw [executes_frame current, Option.isSome_eq_false_iff, Option.isNone_iff_eq_none] at free
      have here : (InvokeState.running machine).pending = 2 * machine.callers.length := by
        simp only [InvokeState.pending, current]
        rfl
      rw [step_frame current, frameStep_left_withFuel inst _ _ free, here]
      cases finished : finishFrame frame with
      | error err => exact .inl trivial
      | ok outcome =>
          obtain ⟨results, rfl⟩ := finishFrame_returns frame outcome finished
          exact handleReturn_progresses results

theorem metered_progresses (inst : Instance σ) :
    (metered inst).Progresses InvokeState.Ended InvokeState.pending where
  next state running free := by
    cases state with
    | finished store result => exact absurd trivial running
    | running machine => exact step_progresses free
  limited budget state := by cases state <;> rfl
  exhausted state := trivial

end Law

/-! ## The prefix cut -/

/-- What starts the invocation loop on an instance. -/
inductive Invocation where
  | «export» (name : String) (args : List Value)
  | start (function : Nat)

namespace Instance

variable (inst : Instance σ)

def begin (store : Store σ) : Invocation → InvokeState σ
  | .export name args => inst.startExport store name args
  | .start function => .running (.start store function [] 0 (.new inst.limits))

/-- The given number of steps of an invocation under a fuel limit. -/
def invokeWithFuel (fuel : Option Nat) (store : Store σ) (invocation : Invocation)
    (steps : Nat) : InvokeState σ :=
  invokeFor (inst.withFuel fuel) steps ((inst.withFuel fuel).begin store invocation)

/-- Instructions that the run without a limit executes in the given number of
steps. -/
def instructionsOf (store : Store σ) (invocation : Invocation) (steps : Nat) : Nat :=
  instructionsExecuted (inst.withFuel none) steps ((inst.withFuel none).begin store invocation)

variable {inst}

theorem begin_withFuel (fuel : Option Nat) (store : Store σ) (invocation : Invocation) :
    (inst.withFuel fuel).begin store invocation =
      ((inst.withFuel none).begin store invocation).withFuel fuel := by
  cases invocation with
  | start function => rfl
  | «export» name args =>
      simp only [begin, startExport]
      have same : ∀ fuel, (inst.withFuel fuel).exportedIndex name .function =
          inst.exportedIndex name .function := fun _ => rfl
      rw [same, same]
      cases inst.exportedIndex name .function with
      | error err => rfl
      | ok index =>
          simp only [ok_bind]
          have sameType : ∀ fuel, (inst.withFuel fuel).functionType index =
              inst.functionType index := fun _ => rfl
          rw [sameType, sameType]
          cases inst.functionType index with
          | error err => rfl
          | ok type =>
              simp only [ok_bind]
              cases validateEmbeddingArguments type.params args <;> rfl

theorem invokeWithFuel_none (store : Store σ) (invocation : Invocation) (steps : Nat) :
    inst.invokeWithFuel none store invocation steps =
      Metering.run (metered (inst.withFuel none)) steps
        ((inst.withFuel none).begin store invocation) :=
  invokeFor_eq_run ..

theorem invokeWithFuel_some (store : Store σ) (invocation : Invocation) (fuel steps : Nat) :
    inst.invokeWithFuel (some fuel) store invocation steps =
      Metering.run (metered (inst.withFuel none)) steps
        ((metered (inst.withFuel none)).limited fuel
          ((inst.withFuel none).begin store invocation)) := by
  rw [invokeWithFuel, begin_withFuel, ← invokeFor_eq_run, invokeFor_withFuel,
    invokeFor_withFuel]
  rfl

theorem begin_unlimited (store : Store σ) (invocation : Invocation) :
    (metered (inst.withFuel none)).unlimited ((inst.withFuel none).begin store invocation) :=
  (begin_withFuel none store invocation).symm

/-- With enough fuel a run does what it does without a limit. -/
theorem invokeWithFuel_enough {store : Store σ} {invocation : Invocation} {fuel steps : Nat}
    {final : Store σ} {result : Run (List Value)}
    (enough : inst.instructionsOf store invocation steps ≤ fuel)
    (finished : inst.invokeWithFuel none store invocation steps = .finished final result) :
    inst.invokeWithFuel (some fuel) store invocation steps = .finished final result := by
  rw [invokeWithFuel_none] at finished
  rw [invokeWithFuel_some]
  rcases Metering.run_limited (metered_lawful (inst.withFuel none)) fuel steps
      (begin_unlimited store invocation) with ⟨_, same⟩ | ⟨prior, before, cut, _⟩
  · rw [same, finished]
    rfl
  · exact absurd enough (Nat.not_le_of_lt (cut.lt_spent before))

/-- Fuel cuts an invocation off, and does nothing else to it.  With any amount of
fuel the invocation ends: with the store and the result of the run without a
limit, if that executes no more instructions than the fuel pays for, and
otherwise with an error in the state in which the run without a limit has
executed as many instructions and is about to execute the next.  A success
stays the same with more fuel. -/
theorem invokeWithFuel_prefix (inst : Instance σ) (store : Store σ) (invocation : Invocation)
    (fuel : Nat) :
    ∃ steps final result,
      inst.invokeWithFuel (some fuel) store invocation steps = .finished final result ∧
      ((inst.instructionsOf store invocation steps ≤ fuel ∧
          inst.invokeWithFuel none store invocation steps = .finished final result) ∨
        (fuel < inst.instructionsOf store invocation steps ∧
          result = .error .fuelExhausted ∧
          ∃ prior machine, prior < steps ∧
            inst.invokeWithFuel none store invocation prior = .running machine ∧
            inst.instructionsOf store invocation prior = fuel ∧
            machine.executes = true ∧ machine.store = final)) ∧
      ∀ values, result = .ok values → ∀ more, fuel ≤ more →
        inst.invokeWithFuel (some more) store invocation steps =
          .finished final (.ok values) := by
  have lawful := metered_lawful (inst.withFuel none)
  have unlimited :
      (metered (inst.withFuel none)).unlimited ((inst.withFuel none).begin store invocation) :=
    begin_unlimited store invocation
  obtain ⟨steps, ended⟩ :=
    Metering.exists_final lawful (metered_progresses (inst.withFuel none)) fuel unlimited
  rw [← invokeWithFuel_some] at ended
  cases reached : inst.invokeWithFuel (some fuel) store invocation steps with
  | running machine =>
      rw [reached] at ended
      cases ended
  | finished final result =>
      refine ⟨steps, final, result, reached, ?_⟩
      rw [invokeWithFuel_some] at reached
      rcases Metering.run_limited lawful fuel steps unlimited with
        ⟨within, same⟩ | ⟨prior, before, cut, same⟩
      · -- The fuel lasts.
        rw [reached, ← invokeWithFuel_none] at same
        have finished : inst.invokeWithFuel none store invocation steps =
            .finished final result := by
          cases free : inst.invokeWithFuel none store invocation steps with
          | running machine =>
              rw [free] at same
              cases same
          | finished freeFinal freeResult =>
              rw [free] at same
              exact same.symm
        refine ⟨.inl ⟨within, finished⟩, ?_⟩
        rintro values rfl more atLeast
        exact invokeWithFuel_enough (Nat.le_trans within atLeast) finished
      · -- The run stops where the fuel has run out.
        rw [reached, ← invokeWithFuel_none] at same
        have charged := cut.charged
        rw [← invokeWithFuel_none] at charged
        cases there : inst.invokeWithFuel none store invocation prior with
        | finished freeFinal freeResult =>
            rw [there] at charged
            cases charged
        | running machine =>
            rw [there] at same charged
            cases same
            refine ⟨.inr ⟨cut.lt_spent before, rfl, prior, machine, before, there, cut.spent,
              charged, rfl⟩, ?_⟩
            intro values succeeded
            cases succeeded

end Instance

end MiniWasm.Runtime
