import MiniWasm.Runtime.Evolution
import MiniWasm.Runtime.Invoke

/-!
# Where the references of an activation come from

What one instruction does to the store and to references, carried to rounds of
the interpreter's loop and to steps of the invocation loop.
-/

namespace MiniWasm.Runtime

open Library

variable {σ : Type}

/-! ## Frames -/

/-- Every reference that the frame holds was issued. -/
structure GuestFrame.Admitted (inst : Instance σ) (issued : FunctionRef → Prop)
    (frame : GuestFrame) : Prop where
  locals : AllAdmitted (inst.Admits issued) frame.locals
  stack : AllAdmitted (inst.Admits issued) frame.stack

/-- Every reference that leaves a frame was issued, and a function that it calls
exists. -/
def FunctionOutcome.Admitted (inst : Instance σ) (issued : FunctionRef → Prop) :
    FunctionOutcome → Prop
  | .return results => AllAdmitted (inst.Admits issued) results
  | .tailCall function args =>
      AllAdmitted (inst.Admits issued) args ∧ function < inst.module.functionCount
  | .call continuation function args =>
      continuation.Admitted inst issued ∧ AllAdmitted (inst.Admits issued) args ∧
        function < inst.module.functionCount

def FrameStep.Admitted (inst : Instance σ) (issued : FunctionRef → Prop) : FrameStep → Prop
  | .running frame => frame.Admitted inst issued
  | .outcome left => left.Admitted inst issued

/-- The reference that the instruction at the frame's position creates. -/
def GuestFrame.creates (frame : GuestFrame) (memoryCount : Nat) : Option Nat :=
  match frame.code[frame.pc]? with
  | none => none
  | some opcode =>
      match readPlain frame.code (frame.pc + 1) memoryCount opcode.toNat with
      | .ok (.refFunc function, _) => some function
      | _ => none

section Frames

variable {inst : Instance σ} {issued : FunctionRef → Prop} {store : Store σ}
variable {budget : ExecutionBudget} {frame : GuestFrame}

theorem AllAdmitted.subset {admitted : Nat → Prop} {values part : List Value}
    (allAdmitted : AllAdmitted admitted values) (within : ∀ value ∈ part, value ∈ values) :
    AllAdmitted admitted part :=
  fun value member => allAdmitted value (within value member)

theorem mem_of_mem_truncate {stack : Stack} {height : Nat} {value : Value}
    (member : value ∈ truncate stack height) : value ∈ stack :=
  List.mem_of_mem_drop member

theorem branchTo_admitted (frame : GuestFrame) (admitted : frame.Admitted inst issued)
    {depth : Nat} :
    Ensures (GuestFrame.Admitted inst issued) (branchTo frame depth) := by
  unfold branchTo
  split
  · exact ensures_error _
  split
  · exact ensures_error _
  refine .ite (ensures_error _) ?_
  simp only [ensures_bind, ensures_pure]
  rintro _ -
  refine ⟨admitted.locals, (allAdmitted_append ..).mpr ⟨?_, ?_⟩⟩
  · exact admitted.stack.subset fun value => List.mem_of_mem_take
  · exact admitted.stack.subset fun value => mem_of_mem_truncate

theorem executeBlock_admitted (admitted : frame.Admitted inst issued) {offset : Nat}
    {kind : ControlKind} :
    Ensures (GuestFrame.Admitted inst issued) (executeBlock inst frame offset kind) := by
  simp only [executeBlock, ensures_bind, ensures_pure]
  rintro ⟨signature, pc⟩ - info - _ - height -
  exact ⟨admitted.locals, admitted.stack⟩

theorem executeIf_admitted (admitted : frame.Admitted inst issued) {offset : Nat} :
    Ensures (GuestFrame.Admitted inst issued) (executeIf inst frame offset) := by
  simp only [executeIf, ensures_bind, ensures_i32FromStack]
  rintro ⟨signature, pc⟩ - condition stack stackEq info - _ - height -
  have stackAdmitted := (stackEq ▸ admitted.stack).tail
  refine .ite ((ensures_pure _).mpr ⟨admitted.locals, stackAdmitted⟩) ?_
  split
  · exact (ensures_pure _).mpr ⟨admitted.locals, stackAdmitted⟩
  · exact (ensures_pure _).mpr
      ⟨admitted.locals, stackAdmitted.subset fun value => mem_of_mem_truncate⟩

theorem executeElse_admitted (admitted : frame.Admitted inst issued) :
    Ensures (GuestFrame.Admitted inst issued) (executeElse frame) := by
  unfold executeElse
  split
  · exact ensures_error _
  · refine .ite (ensures_error _) ?_
    simp only [ensures_bind, ensures_pure]
    rintro controls -
    exact ⟨admitted.locals, admitted.stack⟩

theorem finishFrame_admitted (frame : GuestFrame) (admitted : frame.Admitted inst issued) :
    Ensures (FunctionOutcome.Admitted inst issued) (finishFrame frame) := by
  refine .ite (ensures_error _) ?_
  simp only [ensures_bind, ensures_pure]
  rintro _ -
  exact (allAdmitted_reverse _).mpr admitted.stack

theorem executeEnd_admitted (admitted : frame.Admitted inst issued) {offset : Nat} :
    Ensures (FrameStep.Admitted inst issued) (executeEnd frame offset) := by
  unfold executeEnd
  split
  · exact ensures_error _
  · refine .ite (ensures_error _) ?_
    rw [ensures_bind]
    rintro controls -
    apply Ensures.ite
    · simp only [ensures_bind, ensures_pure]
      exact finishFrame_admitted { frame with controls } ⟨admitted.locals, admitted.stack⟩
    · exact (ensures_pure _).mpr ⟨admitted.locals, admitted.stack⟩

theorem executeBr_admitted (admitted : frame.Admitted inst issued) :
    Ensures (GuestFrame.Admitted inst issued) (executeBr frame) := by
  simp only [executeBr, ensures_bind]
  rintro ⟨depth, pc⟩ -
  exact branchTo_admitted { frame with pc } ⟨admitted.locals, admitted.stack⟩

theorem executeBrIf_admitted (admitted : frame.Admitted inst issued) :
    Ensures (GuestFrame.Admitted inst issued) (executeBrIf frame) := by
  simp only [executeBrIf, ensures_bind, ensures_i32FromStack]
  rintro ⟨depth, pc⟩ - condition stack stackEq
  have stackAdmitted := (stackEq ▸ admitted.stack).tail
  exact .ite (branchTo_admitted { frame with pc, stack } ⟨admitted.locals, stackAdmitted⟩)
    ((ensures_pure _).mpr ⟨admitted.locals, stackAdmitted⟩)

theorem executeBrTable_admitted (admitted : frame.Admitted inst issued) :
    Ensures (GuestFrame.Admitted inst issued) (executeBrTable frame) := by
  simp only [executeBrTable, ensures_bind, ensures_i32FromStack]
  rintro ⟨count, pc⟩ - selector stack stackEq ⟨selected, pc⟩ - ⟨default, pc⟩ -
  exact branchTo_admitted { frame with pc, stack }
    ⟨admitted.locals, (stackEq ▸ admitted.stack).tail⟩

theorem executeReturn_admitted (admitted : frame.Admitted inst issued) :
    Ensures (GuestFrame.Admitted inst issued) (executeReturn frame) := by
  unfold executeReturn
  split
  · exact ensures_error _
  · exact branchTo_admitted frame admitted

theorem splitArgs_admitted {admitted : Nat → Prop} {stack : Stack} {paramCount : Nat}
    (stackAdmitted : AllAdmitted admitted stack) :
    Ensures (fun split => AllAdmitted admitted split.1 ∧ AllAdmitted admitted split.2)
      (splitArgs stack paramCount) := by
  refine .ite (ensures_error _) ((ensures_ok _).mpr ⟨?_, ?_⟩)
  · exact (allAdmitted_reverse _).mpr (stackAdmitted.subset fun value => List.mem_of_mem_take)
  · exact stackAdmitted.subset fun value => List.mem_of_mem_drop

theorem functionType_ensures {function : Nat} :
    Ensures (fun type => inst.module.functionType function = some type)
      (inst.functionType function) := by
  unfold Instance.functionType
  split
  · next type found => exact (ensures_ok _).mpr found
  · exact ensures_error _

theorem resolveIndirectCallee_ensures {type table element : Nat} :
    Ensures (fun callee => inst.module.functionType callee.1 = some callee.2 ∧
        inst.module.types[type]? = some callee.2 ∧
        inst.tableGet store table element = .ok (some callee.1))
      (inst.resolveIndirectCallee store type table element) := by
  unfold Instance.resolveIndirectCallee
  rw [ensures_bind]
  intro reference found
  split
  · exact ensures_error _
  · next callee =>
      split
      · exact ensures_error _
      · next expected typeFound =>
          rw [ensures_bind]
          refine functionType_ensures.mono fun actual actualFound => ?_
          refine ensures_ite .. |>.mpr ⟨fun _ => ensures_error _, fun same => ?_⟩
          rw [ensures_pure]
          exact ⟨Decidable.not_not.mp same ▸ actualFound, typeFound, found⟩

theorem executeCall_admitted (admitted : frame.Admitted inst issued) :
    Ensures (FunctionOutcome.Admitted inst issued) (executeCall inst frame) := by
  simp only [executeCall, ensures_bind, ensures_pure]
  rintro ⟨callee, pc⟩ -
  refine functionType_ensures.mono fun type found => ?_
  refine (splitArgs_admitted admitted.stack).mono fun split splitAdmitted => ?_
  exact ⟨⟨admitted.locals, splitAdmitted.2⟩, splitAdmitted.1,
    inst.module.functionType_lt found⟩

theorem readIndirectCallee_admitted (admitted : frame.Admitted inst issued) :
    Ensures (fun callee => callee.1 < inst.module.functionCount ∧
        callee.2.2.Admitted inst issued)
      (readIndirectCallee inst store frame) := by
  simp only [readIndirectCallee, ensures_bind, ensures_i32FromStack, ensures_pure]
  rintro ⟨type, pc⟩ - ⟨table, pc⟩ - element stack stackEq
  refine resolveIndirectCallee_ensures.mono fun callee found => ?_
  exact ⟨inst.module.functionType_lt found.1, admitted.locals, (stackEq ▸ admitted.stack).tail⟩

theorem executeCallIndirect_admitted (admitted : frame.Admitted inst issued) :
    Ensures (FunctionOutcome.Admitted inst issued) (executeCallIndirect inst store frame) := by
  simp only [executeCallIndirect, ensures_bind, ensures_pure]
  refine (readIndirectCallee_admitted admitted).mono ?_
  rintro ⟨callee, type, continuation⟩ ⟨exists_, continuationAdmitted⟩
  refine (splitArgs_admitted continuationAdmitted.stack).mono fun split splitAdmitted => ?_
  exact ⟨⟨continuationAdmitted.locals, splitAdmitted.2⟩, splitAdmitted.1, exists_⟩

theorem executeReturnCall_admitted (admitted : frame.Admitted inst issued) :
    Ensures (FunctionOutcome.Admitted inst issued) (executeReturnCall inst frame) := by
  simp only [executeReturnCall, ensures_bind]
  rintro ⟨callee, pc⟩ -
  refine functionType_ensures.mono fun type found => ?_
  refine .ite (ensures_error _) ?_
  simp only [ensures_bind, ensures_pure]
  refine (splitArgs_admitted admitted.stack).mono fun split splitAdmitted => ?_
  exact ⟨splitAdmitted.1, inst.module.functionType_lt found⟩

theorem executeReturnCallIndirect_admitted (admitted : frame.Admitted inst issued) :
    Ensures (FunctionOutcome.Admitted inst issued)
      (executeReturnCallIndirect inst store frame) := by
  simp only [executeReturnCallIndirect, ensures_bind]
  refine (readIndirectCallee_admitted admitted).mono ?_
  rintro ⟨callee, type, continuation⟩ ⟨exists_, continuationAdmitted⟩
  refine .ite (ensures_error _) ?_
  simp only [ensures_bind, ensures_pure]
  refine (splitArgs_admitted continuationAdmitted.stack).mono fun split splitAdmitted => ?_
  exact ⟨splitAdmitted.1, exists_⟩

/-- What a round does to the store, and what it leaves. -/
def RoundAdmitted (inst : Instance σ) (issued : FunctionRef → Prop) (store : Store σ)
    (after : Store σ) (step : FrameStep) : Prop :=
  store.Evolves inst issued after ∧ step.Admitted inst issued

theorem executePlainOp_evolves {opcode : Nat} (storeAdmitted : store.Admitted inst issued)
    (admitted : frame.Admitted inst issued)
    (created : ∀ function pc, readPlain frame.code frame.pc store.memories.length opcode =
      .ok (.refFunc function, pc) → inst.Admits issued function) :
    Ensures (fun after => RoundAdmitted inst issued store after.1 after.2)
      (executePlainOp inst store frame opcode) := by
  simp only [executePlainOp, ensures_bind, ensures_pure]
  rintro ⟨instr, pc⟩ read
  have start : PlainState.Admitted inst issued
      { store, locals := frame.locals, stack := frame.stack } :=
    ⟨storeAdmitted, admitted.locals, admitted.stack⟩
  have createdHere : ∀ function, instr = .refFunc function → inst.Admits issued function := by
    rintro function rfl
    exact created function pc read
  exact (executePlain_evolves start createdHere).mono fun state evolves =>
    ⟨evolves.store, evolves.locals, evolves.stack⟩

theorem roundAdmitted_of_running {run : Run GuestFrame}
    (ensured : Ensures (GuestFrame.Admitted inst issued) run) :
    Ensures (fun after : Store σ × FrameStep => RoundAdmitted inst issued store after.1 after.2)
      (do
        let frame ← run
        return (store, .running frame)) := by
  simp only [ensures_bind, ensures_pure]
  exact ensured.mono fun after admitted => ⟨.refl store, admitted⟩

theorem roundAdmitted_of_outcome {run : Run FunctionOutcome}
    (ensured : Ensures (FunctionOutcome.Admitted inst issued) run) :
    Ensures (fun after : Store σ × FrameStep => RoundAdmitted inst issued store after.1 after.2)
      (do
        let outcome ← run
        return (store, .outcome outcome)) := by
  simp only [ensures_bind, ensures_pure]
  exact ensured.mono fun after admitted => ⟨.refl store, admitted⟩

theorem executeOp_evolves (frame : GuestFrame) {offset opcode : Nat}
    (storeAdmitted : store.Admitted inst issued)
    (admitted : frame.Admitted inst issued)
    (created : ∀ function pc, readPlain frame.code frame.pc store.memories.length opcode =
      .ok (.refFunc function, pc) → inst.Admits issued function) :
    Ensures (fun after => RoundAdmitted inst issued store after.1 after.2)
      (executeOp inst store frame offset opcode) := by
  unfold executeOp
  refine .ite (ensures_error _) <|
    .ite (roundAdmitted_of_running (executeBlock_admitted admitted)) <|
    .ite (roundAdmitted_of_running (executeBlock_admitted admitted)) <|
    .ite (roundAdmitted_of_running (executeIf_admitted admitted)) <|
    .ite (roundAdmitted_of_running (executeElse_admitted admitted)) <|
    .ite ?_ <|
    .ite (roundAdmitted_of_running (executeBr_admitted admitted)) <|
    .ite (roundAdmitted_of_running (executeBrIf_admitted admitted)) <|
    .ite (roundAdmitted_of_running (executeBrTable_admitted admitted)) <|
    .ite (roundAdmitted_of_running (executeReturn_admitted admitted)) <|
    .ite (roundAdmitted_of_outcome (executeCall_admitted admitted)) <|
    .ite (roundAdmitted_of_outcome (executeCallIndirect_admitted admitted)) <|
    .ite (roundAdmitted_of_outcome (executeReturnCall_admitted admitted)) <|
    .ite (roundAdmitted_of_outcome (executeReturnCallIndirect_admitted admitted))
      (executePlainOp_evolves storeAdmitted admitted created)
  simp only [ensures_bind, ensures_pure]
  exact (executeEnd_admitted admitted).mono fun step stepAdmitted => ⟨.refl store, stepAdmitted⟩

/-- A round of the interpreter's loop changes the store as a guest step can, and
every reference that it leaves was issued. -/
theorem frameStep_evolves (storeAdmitted : store.Admitted inst issued)
    (admitted : frame.Admitted inst issued)
    (created : ∀ function, frame.creates store.memories.length = some function →
      inst.Admits issued function) :
    Ensures (fun after => RoundAdmitted inst issued store after.1 after.2.2)
      (frameStep inst store budget frame) := by
  unfold frameStep
  split
  · simp only [ensures_bind, ensures_pure]
    exact (finishFrame_admitted frame admitted).mono fun outcome outcomeAdmitted =>
      ⟨.refl store, outcomeAdmitted⟩
  · next opcode found =>
      simp only [ensures_bind, ensures_pure]
      rintro budget -
      refine executeOp_evolves { frame with pc := frame.pc + 1 } storeAdmitted
        ⟨admitted.locals, admitted.stack⟩ fun function pc read => created function ?_
      simp only [GuestFrame.creates, found, read]

end Frames

end MiniWasm.Runtime
