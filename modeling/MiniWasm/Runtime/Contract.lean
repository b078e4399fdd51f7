import MiniWasm.Runtime.Invoke

/-!
# Invariants of invocations

An invocation passes control between frames, functions that are about to start
and the host.  A contract says what each of them may rely on and must leave
behind; here the contracts of the parties are put together to what holds of the
machine in every state of every invocation.
-/

namespace MiniWasm.Runtime

open Library

variable {σ R : Type}

/-- What holds of the parts of a machine.  An activation promises results of some
kind `R`, and a suspended frame waits for results of one kind to promise its own. -/
structure Contract (σ R : Type) where
  store : Store σ → Prop
  frame : R → GuestFrame → Prop
  call : R → Nat → List Value → Prop
  waits : R → R → GuestFrame → Prop
  results : R → List Value → Prop
  error : RuntimeError → Prop

namespace Contract

variable (contract : Contract σ R)

/-- What a round of the interpreter's loop must leave in the place of a frame. -/
def Step (kind : R) : FrameStep → Prop
  | .running frame => contract.frame kind frame
  | .outcome (.return results) => contract.results kind results
  | .outcome (.tailCall function args) => contract.call kind function args
  | .outcome (.call continuation function args) =>
      ∃ inner, contract.call inner function args ∧ contract.waits inner kind continuation

/-- The suspended frames, innermost first, from the kind of results that the
innermost one waits for to the kind that the outermost one promises. -/
inductive Chain : R → List GuestFrame → R → Prop where
  | nil {kind : R} : Chain kind [] kind
  | cons {inner outer final : R} {caller : GuestFrame} {callers : List GuestFrame} :
      contract.waits inner outer caller → Chain outer callers final →
      Chain inner (caller :: callers) final

/-- What the machine works on keeps its part. -/
def Current (kind : R) : Current → Prop
  | .frame frame => contract.frame kind frame
  | .function index args => contract.call kind index args

/-- How deep the machine may be: a frame has started below the limit. -/
def depthOf (current : Runtime.Current) (depth : Nat) : Prop :=
  match current with
  | .frame _ => depth < maxCallDepth
  | .function _ _ => depth ≤ maxCallDepth

/-- Every part of the machine keeps the contract. -/
structure Machine (final : R) (machine : Machine σ) : Prop where
  store : contract.store machine.store
  parts : ∃ kind, contract.Current kind machine.current ∧
    contract.Chain kind machine.callers final
  callers : machine.callers.length ≤ machine.depth
  depth : depthOf machine.current machine.depth

/-- The contract in every state of an invocation. -/
def State (final : R) : InvokeState σ → Prop
  | .running machine => contract.Machine final machine
  | .finished store (.ok results) => contract.store store ∧ contract.results final results
  | .finished store (.error err) => contract.store store ∧ contract.error err

/-- A round from a frame. -/
structure Guest (inst : Instance σ) (kind : R) (store : Store σ) (budget : ExecutionBudget)
    (frame : GuestFrame) : Prop where
  ensures : Ensures (fun after => contract.store after.1 ∧ contract.Step kind after.2.2)
    (frameStep inst store budget frame)
  raises : Raises contract.error (frameStep inst store budget frame)

/-- The parties other than the frames keep the contract. -/
structure Environment (inst : Instance σ) : Prop where
  prepare : ∀ kind index args, contract.call kind index args →
    ¬ index < inst.module.functionImportCount →
    Ensures (contract.frame kind) (inst.prepareGuestFrame index args) ∧
      Raises contract.error (inst.prepareGuestFrame index args)
  host : ∀ kind store budget index args, contract.store store → contract.call kind index args →
    index < inst.module.functionImportCount →
    contract.store (inst.invokeHost store budget index args).1 ∧
      Ensures (fun after => contract.results kind after.2)
        (inst.invokeHost store budget index args).2 ∧
      Raises contract.error (inst.invokeHost store budget index args).2
  resume : ∀ inner kind frame results, contract.waits inner kind frame →
    contract.results inner results → contract.frame kind (frame.resume results)
  tooDeep : contract.error (.callDepthExceeded (Machine.callDepthLimit inst))

section Steps

variable {contract}
variable {inst : Instance σ} {machine : Runtime.Machine σ} {kind final : R}

/-- Results go to the innermost suspended frame, or end the invocation. -/
theorem handleReturn (environment : contract.Environment inst) {results : List Value}
    (store : contract.store machine.store) (promised : contract.results kind results)
    (chain : contract.Chain kind machine.callers final)
    (callers : machine.callers.length ≤ machine.depth) (depth : machine.depth ≤ maxCallDepth) :
    contract.State final (machine.handleOutcome (.return results)) := by
  unfold Runtime.Machine.handleOutcome
  cases waiting : machine.callers with
  | nil =>
      rw [waiting] at chain
      cases chain
      exact ⟨store, promised⟩
  | cons caller rest =>
      rw [waiting] at chain callers
      cases chain with
      | cons waits outer =>
          cases depthEq : machine.depth with
          | zero =>
              rw [depthEq] at callers
              cases callers
          | succ below =>
              rw [depthEq] at callers depth
              exact
                { store
                  parts := ⟨_, environment.resume _ _ _ _ waits promised, outer⟩
                  callers := Nat.le_of_succ_le_succ callers
                  depth := depth }

theorem handleOutcome (environment : contract.Environment inst) {outcome : FunctionOutcome}
    (store : contract.store machine.store) (left : contract.Step kind (.outcome outcome))
    (chain : contract.Chain kind machine.callers final)
    (callers : machine.callers.length ≤ machine.depth) (depth : machine.depth < maxCallDepth) :
    contract.State final (machine.handleOutcome outcome) := by
  cases outcome with
  | «return» results => exact handleReturn environment store left chain callers (Nat.le_of_lt depth)
  | tailCall function args =>
      exact ⟨store, ⟨kind, left, chain⟩, callers, Nat.le_of_lt depth⟩
  | call continuation function args =>
      obtain ⟨inner, called, waits⟩ := left
      have shallow : ¬ 2 ^ 64 ≤ machine.depth + 1 := by
        unfold maxCallDepth at depth
        omega
      unfold Runtime.Machine.handleOutcome
      simp only [if_neg shallow]
      exact ⟨store, ⟨inner, called, .cons waits chain⟩, Nat.succ_le_succ callers, depth⟩

/-- A function starts. -/
theorem enter (environment : contract.Environment inst) {index : Nat} {args : List Value}
    (store : contract.store machine.store) (called : contract.call kind index args)
    (chain : contract.Chain kind machine.callers final)
    (callers : machine.callers.length ≤ machine.depth) (depth : machine.depth ≤ maxCallDepth) :
    contract.State final (machine.enter inst index args) := by
  unfold Runtime.Machine.enter
  split
  · next imported =>
      obtain ⟨stored, ensured, raised⟩ :=
        environment.host kind machine.store machine.budget index args store called imported
      split
      · next hostStore err invoked =>
          rw [invoked] at stored raised
          exact ⟨stored, raised err rfl⟩
      · next hostStore budget results invoked =>
          rw [invoked] at stored ensured
          have promised : contract.results kind results := ensured (budget, results) rfl
          exact handleReturn environment stored promised chain callers depth
  next defined =>
  split
  · exact ⟨store, environment.tooDeep⟩
  next inLimit =>
  obtain ⟨ensured, raised⟩ := environment.prepare kind index args called defined
  split
  · next err failed => exact ⟨store, raised err failed⟩
  · next frame prepared =>
      refine ⟨store, ⟨kind, ensured frame prepared, chain⟩, callers, ?_⟩
      exact Nat.lt_of_lt_of_le (Nat.lt_of_not_le inLimit) (Nat.min_le_right ..)

/-- A step of the machine keeps the contract. -/
theorem Machine.step (environment : contract.Environment inst)
    (holds : contract.Machine final machine)
    (guest : ∀ kind frame, machine.current = .frame frame → contract.frame kind frame →
      contract.Guest inst kind machine.store machine.budget frame) :
    contract.State final (machine.step inst) := by
  obtain ⟨kind, current, chain⟩ := holds.parts
  have depth := holds.depth
  unfold Runtime.Machine.step
  cases running : machine.current with
  | function index args =>
      rw [running] at current depth
      exact enter environment holds.store current chain holds.callers depth
  | frame frame =>
      rw [running] at current depth
      have round := guest kind frame running current
      dsimp only
      split
      · next err failed => exact ⟨holds.store, round.raises err failed⟩
      · next store budget after stepped =>
          obtain ⟨stored, left⟩ := round.ensures _ stepped
          exact ⟨stored, ⟨kind, left, chain⟩, holds.callers, depth⟩
      · next store budget outcome stepped =>
          obtain ⟨stored, left⟩ := round.ensures _ stepped
          exact handleOutcome environment stored left chain holds.callers depth

/-- The contract in every state that an invocation reaches. -/
theorem State.run (environment : contract.Environment inst)
    (guest : ∀ kind store budget frame, contract.store store → contract.frame kind frame →
      contract.Guest inst kind store budget frame)
    {state : InvokeState σ} (holds : contract.State final state) (steps : Nat) :
    contract.State final (invokeFor inst steps state) := by
  induction steps generalizing state with
  | zero => exact holds
  | succ steps ih =>
      cases state with
      | finished store result => exact holds
      | running machine =>
          refine ih (Machine.step environment holds fun kind frame _ framed => ?_)
          exact guest kind _ _ frame holds.store framed

/-- The start of an invocation. -/
theorem State.start {index : Nat} {args : List Value} {budget : ExecutionBudget}
    {store : Store σ} (stored : contract.store store) (called : contract.call final index args) :
    contract.State final (.running (Runtime.Machine.start store index args 0 budget)) :=
  ⟨stored, ⟨final, called, .nil⟩, Nat.zero_le _, Nat.zero_le _⟩

end Steps

end Contract

end MiniWasm.Runtime
