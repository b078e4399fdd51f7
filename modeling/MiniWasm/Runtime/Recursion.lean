import MiniWasm.Library.Trampoline
import MiniWasm.Runtime.Errors

/-!
# Invocations as recursion

The invocation loop with its explicit callers is the trampoline of a recursive
evaluator: a call evaluates the callee before the caller goes on, and a tail
call goes on with the callee in the place of the activation.  The depth that
the loop counts is the number of its callers.
-/

namespace MiniWasm.Runtime

open Library

variable {σ : Type}

/-! ## The language of activations -/

section Language

variable (inst : Instance σ)

/-- Start a function on top of the given number of suspended activations. -/
def enterFunction (suspended : Nat) (state : Store σ × ExecutionBudget)
    (callee : Nat × List Value) :
    (Store σ × ExecutionBudget) ×
      Except RuntimeError (Trampoline.Entered GuestFrame (List Value)) :=
  let (store, budget) := state
  let (index, args) := callee
  if index < inst.module.functionImportCount then
    match inst.invokeHost store budget index args with
    | (store, .error err) => ((store, budget), .error err)
    | (store, .ok (budget, results)) => ((store, budget), .ok (.result results))
  else if Machine.callDepthLimit inst ≤ suspended then
    ((store, budget), .error (.callDepthExceeded (Machine.callDepthLimit inst)))
  else
    match inst.prepareGuestFrame index args with
    | .error err => ((store, budget), .error err)
    | .ok frame => ((store, budget), .ok (.frame frame))

/-- What the interpreter's loop leaves to whoever runs the frame. -/
def FrameStep.progress :
    FrameStep → Trampoline.Progress GuestFrame (Nat × List Value) (List Value)
  | .running frame => .running frame
  | .outcome (.return results) => .return results
  | .outcome (.tailCall function args) => .tailCall (function, args)
  | .outcome (.call continuation function args) => .call continuation (function, args)

def stepFrame (state : Store σ × ExecutionBudget) (frame : GuestFrame) :
    (Store σ × ExecutionBudget) ×
      Except RuntimeError (Trampoline.Progress GuestFrame (Nat × List Value) (List Value)) :=
  match frameStep inst state.1 state.2 frame with
  | .error err => (state, .error err)
  | .ok (store, budget, step) => ((store, budget), .ok step.progress)

def activationLanguage :
    Trampoline.Language (Store σ × ExecutionBudget) GuestFrame (Nat × List Value) (List Value)
      RuntimeError where
  enter := enterFunction inst
  step := stepFrame inst
  resume := GuestFrame.resume

/-- Recursive evaluation of a function on top of the given number of suspended
activations. -/
def evaluateFunction (fuel suspended : Nat) (store : Store σ) (budget : ExecutionBudget)
    (index : Nat) (args : List Value) :
    Option ((Store σ × ExecutionBudget) × Run (List Value)) :=
  Trampoline.eval (activationLanguage inst) fuel suspended (store, budget)
    (.callee (index, args))

/-- An activation starts only below the depth limit. -/
theorem enterFunction_frame {suspended : Nat} {state after : Store σ × ExecutionBudget}
    {callee : Nat × List Value} {frame : GuestFrame}
    (entered : enterFunction inst suspended state callee = (after, .ok (.frame frame))) :
    suspended < Machine.callDepthLimit inst := by
  unfold enterFunction at entered
  dsimp only at entered
  split_ifs at entered with host deep
  · split at entered <;> cases entered
  · cases entered
  · exact Nat.lt_of_not_le deep

end Language

/-! ## The machine is the trampoline -/

def Current.activation : Current → Trampoline.Current GuestFrame (Nat × List Value)
  | .frame started => .frame started
  | .function index args => .callee (index, args)

abbrev Config (σ : Type) :=
  Trampoline.Config (Store σ × ExecutionBudget) GuestFrame (Nat × List Value) (List Value)
    RuntimeError

/-- The state of the loop and the configuration of the trampoline agree, and the
depth counts the callers. -/
inductive Represents : InvokeState σ → Config σ → Prop where
  | running (store : Store σ) (budget : ExecutionBudget) (current : Current)
      (callers : List GuestFrame) :
      Represents (.running { store, budget, current, callers, depth := callers.length })
        (.running (store, budget) current.activation callers)
  | finished {store : Store σ} {budget : ExecutionBudget} {result : Run (List Value)} :
      Represents (.finished store result) (.done (store, budget) result)

/-- The guest frames that have started and not ended. -/
def Machine.activations (machine : Machine σ) : Nat :=
  match machine.current with
  | .frame _ => machine.callers.length + 1
  | .function _ _ => machine.callers.length

section Refinement

variable {inst : Instance σ}

theorem callDepthLimit_le (inst : Instance σ) : Machine.callDepthLimit inst ≤ maxCallDepth :=
  Nat.min_le_right ..

theorem represents_return (store : Store σ) (budget : ExecutionBudget) (current : Current)
    (callers : List GuestFrame) (results : List Value) :
    Represents
      (Machine.handleOutcome
        { store, budget, current, callers, depth := callers.length } (.return results))
      (Trampoline.returnTo (activationLanguage inst) (store, budget) results callers) := by
  cases callers with
  | nil => exact .finished
  | cons caller callers =>
      exact .running store budget (.frame (caller.resume results)) callers

/-- One round of the loop is one step of the trampoline. -/
theorem represents_step {machine : Machine σ} {config : Config σ}
    (represents : Represents (.running machine) config)
    (within : Trampoline.activations config ≤ Machine.callDepthLimit inst) :
    Represents (machine.step inst) (Trampoline.step (activationLanguage inst) config) := by
  cases represents with
  | running store budget current callers =>
  cases current with
  | function index args =>
      simp only [Machine.step, Machine.enter, Current.activation, Trampoline.step,
        activationLanguage, enterFunction]
      split_ifs with host deep
      · cases invoked : inst.invokeHost store budget index args with
        | mk after outcome =>
        cases outcome with
        | error err => exact .finished
        | ok values => exact represents_return after values.1 _ callers values.2
      · exact .finished
      · cases inst.prepareGuestFrame index args with
        | error err => exact .finished
        | ok frame => exact .running _ _ (.frame frame) _
  | frame frame =>
      simp only [Machine.step, Current.activation, Trampoline.step, activationLanguage,
        stepFrame]
      cases stepped : frameStep inst store budget frame with
      | error err => exact .finished
      | ok values =>
          obtain ⟨after, remaining, step⟩ := values
          cases step with
          | running next => exact .running _ _ (.frame next) _
          | outcome outcome =>
              cases outcome with
              | «return» results => exact represents_return after remaining _ callers results
              | tailCall function args => exact .running _ _ (.function function args) _
              | call continuation function args =>
                  have representable : ¬ 2 ^ 64 ≤ callers.length + 1 := by
                    have : callers.length + 1 ≤ Machine.callDepthLimit inst := within
                    have := callDepthLimit_le inst
                    unfold maxCallDepth at this
                    omega
                  simp only [FrameStep.progress, Machine.handleOutcome, if_neg representable]
                  exact .running _ _ (.function function args) (continuation :: callers)

theorem represents_run {state : InvokeState σ} {config : Config σ}
    (represents : Represents state config)
    (within : Trampoline.activations config ≤ Machine.callDepthLimit inst) (steps : Nat) :
    Represents (invokeFor inst steps state)
      (Trampoline.run (activationLanguage inst) steps config) := by
  induction steps generalizing state config with
  | zero => exact represents
  | succ steps ih =>
      cases represents with
      | finished =>
          rw [invokeFor_finished, Trampoline.run_done]
          exact .finished
      | running store budget current callers =>
          refine ih (represents_step (.running store budget current callers) within) ?_
          refine Trampoline.activations_step ?_ within
          intro suspended state callee after frame
          exact enterFunction_frame inst

/-! ## The depth limit -/

theorem handleOutcome_ne_callDepthExceeded (machine : Machine σ) (outcome : FunctionOutcome)
    (final : Store σ) (limit : Nat) :
    machine.handleOutcome outcome ≠ .finished final (.error (.callDepthExceeded limit)) := by
  cases outcome with
  | «return» results =>
      simp only [Machine.handleOutcome]
      split
      · simp
      · split <;> simp
  | tailCall function args => simp [Machine.handleOutcome]
  | call continuation function args =>
      simp only [Machine.handleOutcome]
      split_ifs <;> simp

/-- The loop reports an exhausted call stack exactly where it would start one
activation too many. -/
theorem step_callDepthExceeded {machine : Machine σ}
    (counted : machine.depth = machine.callers.length) {final : Store σ} {limit : Nat} :
    machine.step inst = .finished final (.error (.callDepthExceeded limit)) ↔
      ∃ index args, machine.current = .function index args ∧
        inst.module.functionImportCount ≤ index ∧
        Machine.callDepthLimit inst < machine.activations + 1 ∧
        limit = Machine.callDepthLimit inst ∧ final = machine.store := by
  unfold Machine.step
  cases current : machine.current with
  | frame frame =>
      simp only [reduceCtorEq, false_and, exists_false, iff_false]
      split
      · next err failed =>
          intro same
          cases same
          exact frameStep_notDepth _ _ _ _ _ failed
      · simp
      · exact handleOutcome_ne_callDepthExceeded _ _ final limit
  | function index args =>
      have activations : machine.activations = machine.depth := by
        rw [Machine.activations, current, counted]
      simp only [Current.function.injEq, Machine.enter, activations]
      split_ifs with host deep
      · have notDepth := invokeHost_notDepth inst machine.store index args machine.budget
        split
        · next err invoked =>
            rw [invoked] at notDepth
            simp only [InvokeState.finished.injEq, Except.error.injEq]
            constructor
            · rintro ⟨rfl, rfl⟩
              exact (notDepth _ rfl).elim
            · rintro ⟨_, _, ⟨rfl, rfl⟩, notHost, -⟩
              omega
        · simp only [handleOutcome_ne_callDepthExceeded, false_iff]
          rintro ⟨_, _, ⟨rfl, rfl⟩, notHost, -⟩
          omega
      · simp only [InvokeState.finished.injEq, Except.error.injEq,
          RuntimeError.callDepthExceeded.injEq]
        constructor
        · rintro ⟨rfl, rfl⟩
          exact ⟨index, args, ⟨rfl, rfl⟩, Nat.le_of_not_lt host, Nat.lt_succ_of_le deep, rfl,
            rfl⟩
        · rintro ⟨_, _, -, -, -, rfl, rfl⟩
          exact ⟨rfl, rfl⟩
      · have notDepth := prepareGuestFrame_notDepth inst index args
        split
        · next err failed =>
            simp only [InvokeState.finished.injEq, Except.error.injEq]
            constructor
            · rintro ⟨rfl, rfl⟩
              exact (notDepth _ failed).elim
            · rintro ⟨_, _, -, -, exceeded, -⟩
              omega
        · simp only [reduceCtorEq, false_iff]
          rintro ⟨_, _, -, -, exceeded, -⟩
          omega

/-- The only machine that represents a configuration in which a frame runs. -/
theorem represents_frame {state : InvokeState σ} {config : Config σ} {store : Store σ}
    {budget : ExecutionBudget} {frame : GuestFrame} {callers : List GuestFrame}
    (represents : Represents state config)
    (running : config = .running (store, budget) (.frame frame) callers) :
    state =
      .running
        { store, budget, current := .frame frame, callers, depth := callers.length } := by
  cases represents with
  | finished => cases running
  | running store budget current callers =>
      simp only [Trampoline.Config.running.injEq, Prod.mk.injEq] at running
      obtain ⟨⟨rfl, rfl⟩, same, rfl⟩ := running
      cases current with
      | function index args => cases same
      | frame frame =>
          cases same
          rfl

theorem represents_depth {machine : Machine σ} {config : Config σ}
    (represents : Represents (.running machine) config) :
    machine.depth = machine.callers.length := by
  cases represents
  rfl

theorem activations_eq {machine : Machine σ} {config : Config σ}
    (represents : Represents (.running machine) config) :
    Trampoline.activations config = machine.activations ∧
      Trampoline.callers config = machine.callers := by
  cases represents with
  | running store budget current callers => cases current <;> exact ⟨rfl, rfl⟩

end Refinement

/-- Calls among the given number of steps that suspend their caller; tail calls
and calls of host functions by a tail call do not. -/
def Machine.suspensions (inst : Instance σ) (steps : Nat) (machine : Machine σ) : Nat :=
  Trampoline.suspensions (activationLanguage inst) steps
    (.running (machine.store, machine.budget) machine.current.activation machine.callers)

/-! ## The instructions that call -/

section Calls

variable {inst : Instance σ} {store : Store σ} {frame : GuestFrame}

/-- `call` and `call_indirect`. -/
def callOpcodes : List Nat := [0x10, 0x11]

/-- `return_call` and `return_call_indirect`. -/
def tailCallOpcodes : List Nat := [0x12, 0x13]

theorem not_both : ∀ code ∈ callOpcodes, code ∉ tailCallOpcodes := by
  decide

/-- What a round of the interpreter's loop leaves to be done, by the opcode of the
instruction.  The first two calls leave their frame to be resumed behind the call,
the tail calls leave nothing of it, and no other instruction enters a function. -/
def FrameStep.Continues (frame : GuestFrame) (opcode : Option Nat) : FrameStep → Prop
  | .outcome (.call continuation _ _) =>
      (∃ code ∈ callOpcodes, opcode = some code) ∧
        ∃ pc stack, continuation = { frame with pc, stack }
  | .outcome (.tailCall _ _) => ∃ code ∈ tailCallOpcodes, opcode = some code
  | .running _ | .outcome (.return _) => ∀ code ∈ callOpcodes ++ tailCallOpcodes, opcode ≠ some code

def GuestFrame.opcode (frame : GuestFrame) : Option Nat :=
  frame.code[frame.pc]?.map (·.toNat)

theorem continues_running (next : GuestFrame) {opcode : Nat}
    (other : opcode ∉ callOpcodes ++ tailCallOpcodes) :
    (FrameStep.running next).Continues frame (some opcode) := by
  rintro code listed ⟨⟩
  exact other listed

theorem continues_return (results : List Value) {opcode : Nat}
    (other : opcode ∉ callOpcodes ++ tailCallOpcodes) :
    (FrameStep.outcome (.return results)).Continues frame (some opcode) := by
  rintro code listed ⟨⟩
  exact other listed

theorem executeCall_continues {pc : Nat} :
    Ensures (fun outcome => (FrameStep.outcome outcome).Continues frame (some 0x10))
      (executeCall inst { frame with pc }) := by
  simp only [executeCall, ensures_bind, ensures_pure]
  rintro ⟨callee, pc⟩ - type - ⟨args, stack⟩ -
  exact ⟨⟨0x10, by decide, rfl⟩, pc, stack, rfl⟩

theorem readIndirectCallee_continues {pc : Nat} :
    Ensures (fun callee => ∃ pc stack, callee.2.2 = { frame with pc, stack })
      (readIndirectCallee inst store { frame with pc }) := by
  simp only [readIndirectCallee, ensures_bind, ensures_pure]
  rintro ⟨type, pc⟩ - ⟨table, pc⟩ - ⟨element, stack⟩ - ⟨callee, calleeType⟩ -
  exact ⟨pc, stack, rfl⟩

theorem executeCallIndirect_continues {pc : Nat} :
    Ensures (fun outcome => (FrameStep.outcome outcome).Continues frame (some 0x11))
      (executeCallIndirect inst store { frame with pc }) := by
  simp only [executeCallIndirect, ensures_bind, ensures_pure]
  refine readIndirectCallee_continues.mono ?_
  rintro ⟨callee, type, continuation⟩ ⟨pc, below, rfl⟩ ⟨args, stack⟩ -
  exact ⟨⟨0x11, by decide, rfl⟩, pc, stack, rfl⟩

theorem executeReturnCall_continues {pc : Nat} :
    Ensures (fun outcome => (FrameStep.outcome outcome).Continues frame (some 0x12))
      (executeReturnCall inst { frame with pc }) := by
  simp only [executeReturnCall, ensures_bind]
  rintro ⟨callee, pc⟩ - type -
  refine .ite (ensures_error _) ?_
  simp only [ensures_bind, ensures_pure]
  rintro ⟨args, stack⟩ -
  exact ⟨0x12, by decide, rfl⟩

theorem executeReturnCallIndirect_continues {pc : Nat} :
    Ensures (fun outcome => (FrameStep.outcome outcome).Continues frame (some 0x13))
      (executeReturnCallIndirect inst store { frame with pc }) := by
  simp only [executeReturnCallIndirect, ensures_bind]
  rintro ⟨callee, type, continuation⟩ -
  refine .ite (ensures_error _) ?_
  simp only [ensures_bind, ensures_pure]
  rintro ⟨args, stack⟩ -
  exact ⟨0x13, by decide, rfl⟩

theorem executeEnd_continues {ending : GuestFrame} {offset opcode : Nat}
    (other : opcode ∉ callOpcodes ++ tailCallOpcodes) :
    Ensures (FrameStep.Continues frame (some opcode)) (executeEnd ending offset) := by
  unfold executeEnd
  split
  · exact ensures_error _
  · refine .ite (ensures_error _) ?_
    rw [ensures_bind]
    rintro controls -
    apply Ensures.ite
    · simp only [finishFrame, ensures_bind, ensures_ite, ensures_error, ensures_pure,
        implies_true, true_and]
      exact fun _ _ _ => continues_return _ other
    · exact (ensures_pure _).mpr (continues_running _ other)

theorem executeOp_continues {pc offset opcode : Nat} :
    Ensures (fun after => after.2.Continues frame (some opcode))
      (executeOp inst store { frame with pc } offset opcode) := by
  by_cases calls : opcode ∈ callOpcodes ++ tailCallOpcodes
  · simp only [callOpcodes, tailCallOpcodes, List.cons_append, List.nil_append, List.mem_cons,
      List.not_mem_nil, or_false] at calls
    rcases calls with rfl | rfl | rfl | rfl
    · simp only [executeOp, Nat.reduceEqDiff, if_false, if_true, ensures_bind, ensures_pure]
      exact executeCall_continues
    · simp only [executeOp, Nat.reduceEqDiff, if_false, if_true, ensures_bind, ensures_pure]
      exact executeCallIndirect_continues
    · simp only [executeOp, Nat.reduceEqDiff, if_false, if_true, ensures_bind, ensures_pure]
      exact executeReturnCall_continues
    · simp only [executeOp, Nat.reduceEqDiff, if_false, if_true, ensures_bind, ensures_pure]
      exact executeReturnCallIndirect_continues
  · have running (next : GuestFrame) : (FrameStep.running next).Continues frame (some opcode) :=
      continues_running next calls
    have leaves : Ensures (FrameStep.Continues frame (some opcode))
        (executeEnd { frame with pc } offset) := executeEnd_continues calls
    have anything {α : Type} (run : Run α) : Ensures (fun _ => True) run := fun _ _ => trivial
    simp only [callOpcodes, tailCallOpcodes, List.cons_append, List.nil_append, List.mem_cons,
      List.not_mem_nil, or_false, not_or] at calls
    obtain ⟨n10, n11, n12, n13⟩ := calls
    simp only [executeOp, if_neg n10, if_neg n11, if_neg n12, if_neg n13, executePlainOp,
      ensures_ite, ensures_bind, ensures_pure, ensures_error, running, leaves, anything,
      implies_true, and_self]

/-- What a round of the interpreter's loop leaves to be done, by its opcode. -/
theorem frameStep_continues {budget : ExecutionBudget} :
    Ensures (fun after => after.2.2.Continues frame frame.opcode)
      (frameStep inst store budget frame) := by
  unfold frameStep GuestFrame.opcode
  split
  next left =>
    simp only [left, finishFrame, ensures_bind, ensures_ite, ensures_error, ensures_pure,
      implies_true, true_and]
    rintro _ _ _ code listed ⟨⟩
  next opcode found =>
    simp only [found, Option.map_some, ensures_bind, ensures_pure]
    rintro budget -
    exact executeOp_continues

/-- A round that ends in a call puts the calling frame among the callers. -/
theorem step_call {machine next : Machine σ} (current : machine.current = .frame frame)
    (calls : ∃ code ∈ callOpcodes, frame.opcode = some code)
    (stepped : machine.step inst = .running next) :
    ∃ pc stack callee args, next.current = .function callee args ∧
      next.callers = { frame with pc, stack } :: machine.callers ∧
      next.depth = machine.depth + 1 := by
  obtain ⟨code, listed, opcode⟩ := calls
  simp only [Machine.step, current] at stepped
  split at stepped
  · cases stepped
  next after remaining running taken =>
    exact (frameStep_continues _ taken code (List.mem_append_left _ listed) opcode).elim
  next after remaining outcome taken =>
    have continues := frameStep_continues _ taken
    cases outcome with
    | «return» results =>
        exact (continues code (List.mem_append_left _ listed) opcode).elim
    | tailCall callee args =>
        obtain ⟨other, listedOther, same⟩ := continues
        cases opcode.symm.trans same
        exact (not_both code listed listedOther).elim
    | call continuation callee args =>
        obtain ⟨-, pc, stack, rfl⟩ := continues
        simp only [Machine.handleOutcome] at stepped
        split_ifs at stepped
        cases stepped
        exact ⟨pc, stack, callee, args, rfl, rfl, rfl⟩

/-- A round that ends in a tail call leaves the callers alone. -/
theorem step_tailCall {machine next : Machine σ} (current : machine.current = .frame frame)
    (calls : ∃ code ∈ tailCallOpcodes, frame.opcode = some code)
    (stepped : machine.step inst = .running next) :
    ∃ callee args, next.current = .function callee args ∧ next.callers = machine.callers ∧
      next.depth = machine.depth := by
  obtain ⟨code, listed, opcode⟩ := calls
  simp only [Machine.step, current] at stepped
  split at stepped
  · cases stepped
  next after remaining running taken =>
    exact (frameStep_continues _ taken code (List.mem_append_right _ listed) opcode).elim
  next after remaining outcome taken =>
    have continues := frameStep_continues _ taken
    cases outcome with
    | «return» results =>
        exact (continues code (List.mem_append_right _ listed) opcode).elim
    | tailCall callee args =>
        cases stepped
        exact ⟨callee, args, rfl, rfl, rfl⟩
    | call continuation callee args =>
        obtain ⟨⟨other, listedOther, same⟩, -⟩ := continues
        cases opcode.symm.trans same
        exact (not_both code listedOther listed).elim

/-- Only `call` and `call_indirect` suspend the frame that runs. -/
theorem suspends_opcode {machine : Machine σ} (suspends : 0 < machine.suspensions inst 1) :
    ∃ frame, machine.current = .frame frame ∧ ∃ code ∈ callOpcodes, frame.opcode = some code := by
  unfold Machine.suspensions Trampoline.suspensions Trampoline.suspensions at suspends
  cases current : machine.current with
  | function index args =>
      rw [current] at suspends
      cases suspends
  | frame frame =>
      refine ⟨frame, rfl, ?_⟩
      rw [current] at suspends
      simp only [Current.activation, Trampoline.suspends, activationLanguage, stepFrame]
        at suspends
      split at suspends
      next after callee continuation entered =>
        split at entered
        · cases entered
        next after remaining step taken =>
          have continues := frameStep_continues _ taken
          cases step with
          | running next => cases entered
          | outcome outcome =>
              cases outcome with
              | «return» results => cases entered
              | tailCall function args => cases entered
              | call continuation function args => exact continues.1
      · cases suspends

end Calls

/-- The invocation loop refines the recursive evaluator.  It ends in the same
results, store and errors; it keeps the number of guest activations within the
limit and reports an exhausted stack exactly where one more would exceed it; only
calls that suspend their caller make the list of callers longer; and the results
of a callee go, in order, to the frame that called it. -/
theorem invoke_refines_recursion (inst : Instance σ) (store : Store σ)
    (budget : ExecutionBudget) (index : Nat) (args : List Value) :
    let start : InvokeState σ := .running (Machine.start store index args 0 budget)
    (∀ final result,
      (∃ steps, invokeFor inst steps start = .finished final result) ↔
        ∃ fuel remaining, evaluateFunction inst fuel 0 store budget index args =
          some ((final, remaining), result)) ∧
    ∀ steps machine, invokeFor inst steps start = .running machine →
      machine.activations ≤ min inst.limits.maxCallDepth maxCallDepth ∧
      (∀ final limit,
        machine.step inst = .finished final (.error (.callDepthExceeded limit)) ↔
          ∃ callee calleeArgs, machine.current = .function callee calleeArgs ∧
            inst.module.functionImportCount ≤ callee ∧
            min inst.limits.maxCallDepth maxCallDepth < machine.activations + 1 ∧
            limit = min inst.limits.maxCallDepth maxCallDepth ∧ final = machine.store) ∧
      (∀ more later, invokeFor inst more (.running machine) = .running later →
        later.callers.length ≤ machine.callers.length + machine.suspensions inst more) ∧
      (∀ callee calleeArgs caller callers fuel after remaining results,
        machine.current = .function callee calleeArgs →
        machine.callers = caller :: callers →
        evaluateFunction inst fuel machine.callers.length machine.store machine.budget callee
          calleeArgs = some ((after, remaining), .ok results) →
        ∃ more, invokeFor inst more (.running machine) =
          .running
            { store := after, budget := remaining, callers, depth := callers.length
              current := .frame { caller with stack := results.reverse ++ caller.stack } }) := by
  intro start
  let first : Config σ := .running (store, budget) (.callee (index, args)) []
  have represents : Represents start first :=
    .running store budget (.function index args) []
  have within : Trampoline.activations first ≤ Machine.callDepthLimit inst := Nat.zero_le _
  constructor
  · intro final result
    constructor
    · rintro ⟨steps, ended⟩
      have reached := represents_run represents within steps
      rw [ended] at reached
      generalize configEq : Trampoline.run (activationLanguage inst) steps first = config
        at reached
      cases reached with
      | finished =>
          obtain ⟨fuel, evaluated⟩ := Trampoline.run_iff_eval.mp ⟨steps, configEq⟩
          exact ⟨fuel, _, evaluated⟩
    · rintro ⟨fuel, remaining, evaluated⟩
      obtain ⟨steps, ended⟩ := Trampoline.run_iff_eval.mpr ⟨fuel, evaluated⟩
      have reached := represents_run represents within steps
      rw [ended] at reached
      generalize stateEq : invokeFor inst steps start = state at reached
      cases reached with
      | finished => exact ⟨steps, stateEq⟩
  · intro steps machine running
    have reached := represents_run represents within steps
    rw [running] at reached
    have bounded : Trampoline.activations (Trampoline.run (activationLanguage inst) steps first) ≤
        Machine.callDepthLimit inst :=
      Trampoline.activations_run (fun _ _ _ _ _ => enterFunction_frame inst) within steps
    refine ⟨(activations_eq reached).1 ▸ bounded, ?_, ?_, ?_⟩
    · intro final limit
      exact step_callDepthExceeded (represents_depth reached)
    · intro more later continued
      have reachedLater := represents_run reached bounded more
      rw [continued] at reachedLater
      rw [← (activations_eq reachedLater).2, ← (activations_eq reached).2]
      refine Nat.le_trans (Trampoline.callers_run more _) (Nat.le_of_eq ?_)
      generalize Trampoline.run (activationLanguage inst) steps first = config at reached
      cases reached
      rfl
    · intro callee calleeArgs caller callers fuel after remaining results current below evaluated
      generalize Trampoline.run (activationLanguage inst) steps first = config at reached bounded
      cases reached with
      | running machineStore machineBudget machineCurrent machineCallers =>
      dsimp only at current below evaluated
      subst current below
      obtain ⟨more, led⟩ := Trampoline.leads_of_eval evaluated
      refine ⟨more, represents_frame (represents_run (.running ..) bounded more) ?_⟩
      exact led

/-- The first function calls the second, which hands over to the third by a tail call. -/
def tailCalling : Instance Unit where
  identity := 0
  module :=
    { types := [⟨[], [.i32]⟩], functionTypeIndices := [0, 0, 0]
      code := [⟨[], [0x10, 0x01, 0x0b]⟩, ⟨[], [0x12, 0x02, 0x0b]⟩, ⟨[], [0x41, 0x07, 0x0b]⟩] }
  controlMaps := [⟨[none, none, none]⟩, ⟨[none, none, none]⟩, ⟨[none, none, none]⟩]
  tables := []
  globals := []
  hosts := { functions := [], globals := [], tables := [], memories := [] }
  limits := { maxCallDepth := 2, maxMemoryPages := 0, fuel := some 8, maxHostCalls := none }

def unitStore : Store Unit where
  heap := .empty fun _ => true
  memories := []
  dataSegments := []
  elementSegments := []
  host := ()

/-- Three functions run although only two activations are allowed: the tail call keeps
the one caller, and the result of the third function goes to it. -/
theorem invoke_refines_recursion_tailCalling :
    let start : InvokeState Unit :=
      .running (Machine.start unitStore 0 [] 0 (.new tailCalling.limits))
    (∃ fuel remaining,
      evaluateFunction tailCalling fuel 0 unitStore (.new tailCalling.limits) 0 [] =
        some ((unitStore, remaining), .ok [.i32 7])) ∧
    ∃ before behind,
      invokeFor tailCalling 2 start = .running before ∧ before.current = .function 1 [] ∧
      invokeFor tailCalling 2 (.running before) = .running behind ∧
      behind.current = .function 2 [] ∧
      behind.callers.length ≤ before.callers.length ∧
      behind.activations ≤ 2 := by
  intro start
  have refines := invoke_refines_recursion tailCalling unitStore (.new tailCalling.limits) 0 []
  refine ⟨(refines.1 _ _).mp ⟨9, rfl⟩, _, _, rfl, rfl, rfl, rfl, ?_, ?_⟩
  · exact (refines.2 2 _ rfl).2.2.1 2 _ rfl
  · exact (refines.2 4 _ rfl).1

end MiniWasm.Runtime
