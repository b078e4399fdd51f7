import MiniWasm.Runtime.Layout
import MiniWasm.Runtime.Readiness

/-!
# Activations of defined functions

A frame is an activation of one function of the module: it starts at the
beginning of that function's body, and no round of the interpreter's loop
changes which function it is.
-/

namespace MiniWasm.Runtime

open Library

variable {σ : Type}

/-! ## The function of a frame -/

/-- What a frame knows about the function that it runs. -/
structure FrameFunction where
  code : List UInt8
  controlMap : ControlMap
  localTypes : List ValueType
  resultTypes : List ValueType
  deriving DecidableEq, Repr

def GuestFrame.function (frame : GuestFrame) : FrameFunction where
  code := frame.code
  controlMap := frame.controlMap
  localTypes := frame.localTypes
  resultTypes := frame.resultTypes

/-- Two frames run the same function. -/
def GuestFrame.SameFunction (frame after : GuestFrame) : Prop :=
  after.function = frame.function

section SameFunction

variable {inst : Instance σ} {store : Store σ} {budget : ExecutionBudget} {frame : GuestFrame}

theorem branchTo_sameFunction (frame : GuestFrame) {depth : Nat} :
    Ensures frame.SameFunction (branchTo frame depth) := by
  intro after branched
  obtain ⟨target, -, rfl⟩ := branchTo_ok branched
  exact rfl

theorem executeBlock_sameFunction {offset : Nat} {kind : ControlKind} :
    Ensures frame.SameFunction (executeBlock inst frame offset kind) := by
  simp only [executeBlock, ensures_bind, ensures_pure]
  rintro ⟨signature, pc⟩ - info - _ - height -
  exact rfl

theorem executeIf_sameFunction {offset : Nat} :
    Ensures frame.SameFunction (executeIf inst frame offset) := by
  simp only [executeIf, ensures_bind]
  rintro ⟨signature, pc⟩ - ⟨condition, stack⟩ - info - _ - height -
  refine .ite ((ensures_pure _).mpr rfl) ?_
  split
  · exact (ensures_pure _).mpr rfl
  · exact (ensures_pure _).mpr rfl

theorem executeElse_sameFunction : Ensures frame.SameFunction (executeElse frame) := by
  unfold executeElse
  split
  · exact ensures_error _
  · refine .ite (ensures_error _) ?_
    simp only [ensures_bind, ensures_pure]
    rintro controls -
    exact rfl

/-- The frames that a step leaves to be run again are activations of the same
function. -/
def FrameStep.KeepsFunction (frame : GuestFrame) (step : FrameStep) : Prop :=
  ∀ after ∈ step.frames, frame.SameFunction after

theorem keepsFunction_running {after : GuestFrame} (same : frame.SameFunction after) :
    (FrameStep.running after).KeepsFunction frame := by
  intro other member
  cases List.mem_singleton.mp member
  exact same

theorem keepsFunction_call {continuation : GuestFrame} {function : Nat} {args : List Value}
    (same : frame.SameFunction continuation) :
    (FrameStep.outcome (.call continuation function args)).KeepsFunction frame := by
  intro other member
  cases List.mem_singleton.mp member
  exact same

theorem keepsFunction_return {results : List Value} :
    (FrameStep.outcome (.return results)).KeepsFunction frame :=
  fun _ member => by cases member

theorem keepsFunction_tailCall {function : Nat} {args : List Value} :
    (FrameStep.outcome (.tailCall function args)).KeepsFunction frame :=
  fun _ member => by cases member

theorem finishFrame_keepsFunction {finished : GuestFrame} :
    Ensures (fun outcome => (FrameStep.outcome outcome).KeepsFunction frame)
      (finishFrame finished) := by
  refine .ite (ensures_error _) ?_
  simp only [ensures_bind, ensures_pure]
  rintro _ -
  exact keepsFunction_return

theorem executeEnd_keepsFunction {offset : Nat} :
    Ensures (FrameStep.KeepsFunction frame) (executeEnd frame offset) := by
  unfold executeEnd
  split
  · exact ensures_error _
  · refine .ite (ensures_error _) ?_
    rw [ensures_bind]
    rintro controls -
    apply Ensures.ite
    · simp only [ensures_bind, ensures_pure]
      exact finishFrame_keepsFunction
    · exact (ensures_pure _).mpr (keepsFunction_running rfl)

theorem executeBr_sameFunction : Ensures frame.SameFunction (executeBr frame) := by
  simp only [executeBr, ensures_bind]
  rintro ⟨depth, pc⟩ -
  exact branchTo_sameFunction { frame with pc }

theorem executeBrIf_sameFunction : Ensures frame.SameFunction (executeBrIf frame) := by
  simp only [executeBrIf, ensures_bind]
  rintro ⟨depth, pc⟩ - ⟨condition, stack⟩ -
  exact .ite (branchTo_sameFunction { frame with pc, stack })
    ((ensures_pure _).mpr rfl)

theorem executeBrTable_sameFunction : Ensures frame.SameFunction (executeBrTable frame) := by
  simp only [executeBrTable, ensures_bind]
  rintro ⟨count, pc⟩ - ⟨selector, stack⟩ - ⟨selected, pc⟩ - ⟨default, pc⟩ -
  exact branchTo_sameFunction { frame with pc, stack }

theorem executeReturn_sameFunction : Ensures frame.SameFunction (executeReturn frame) := by
  unfold executeReturn
  split
  · exact ensures_error _
  · exact branchTo_sameFunction frame

theorem executeCall_keepsFunction :
    Ensures (fun outcome => (FrameStep.outcome outcome).KeepsFunction frame)
      (executeCall inst frame) := by
  simp only [executeCall, ensures_bind, ensures_pure]
  rintro ⟨callee, pc⟩ - type - ⟨args, stack⟩ -
  exact keepsFunction_call rfl

theorem readIndirectCallee_sameFunction :
    Ensures (fun callee => frame.SameFunction callee.2.2)
      (readIndirectCallee inst store frame) := by
  simp only [readIndirectCallee, ensures_bind, ensures_pure]
  rintro ⟨type, pc⟩ - ⟨table, pc⟩ - ⟨element, stack⟩ - ⟨callee, calleeType⟩ -
  exact rfl

theorem executeCallIndirect_keepsFunction :
    Ensures (fun outcome => (FrameStep.outcome outcome).KeepsFunction frame)
      (executeCallIndirect inst store frame) := by
  simp only [executeCallIndirect, ensures_bind, ensures_pure]
  refine readIndirectCallee_sameFunction.mono ?_
  rintro ⟨callee, type, continuation⟩ same ⟨args, stack⟩ -
  have continues : frame.SameFunction { continuation with stack } := same
  exact keepsFunction_call continues

theorem executeReturnCall_keepsFunction :
    Ensures (fun outcome => (FrameStep.outcome outcome).KeepsFunction frame)
      (executeReturnCall inst frame) := by
  simp only [executeReturnCall, ensures_bind]
  rintro ⟨callee, pc⟩ - type -
  refine .ite (ensures_error _) ?_
  simp only [ensures_bind, ensures_pure]
  rintro ⟨args, stack⟩ -
  exact keepsFunction_tailCall

theorem executeReturnCallIndirect_keepsFunction :
    Ensures (fun outcome => (FrameStep.outcome outcome).KeepsFunction frame)
      (executeReturnCallIndirect inst store frame) := by
  simp only [executeReturnCallIndirect, ensures_bind]
  rintro ⟨callee, type, continuation⟩ -
  refine .ite (ensures_error _) ?_
  simp only [ensures_bind, ensures_pure]
  rintro ⟨args, stack⟩ -
  exact keepsFunction_tailCall

theorem executePlainOp_keepsFunction {opcode : Nat} :
    Ensures (fun after => after.2.KeepsFunction frame)
      (executePlainOp inst store frame opcode) := by
  simp only [executePlainOp, ensures_bind, ensures_pure]
  rintro ⟨instr, pc⟩ - state -
  exact keepsFunction_running rfl

/-- An arm that goes on in a frame. -/
theorem keepsFunction_of_running {run : Run GuestFrame} (ensured : Ensures frame.SameFunction run) :
    Ensures (fun after : Store σ × FrameStep => after.2.KeepsFunction frame) (do
      let frame ← run
      return (store, .running frame)) := by
  simp only [ensures_bind, ensures_pure]
  exact ensured.mono fun after same => keepsFunction_running same

/-- An arm that leaves the frame. -/
theorem keepsFunction_of_outcome {run : Run FunctionOutcome}
    (ensured : Ensures (fun outcome => (FrameStep.outcome outcome).KeepsFunction frame) run) :
    Ensures (fun after : Store σ × FrameStep => after.2.KeepsFunction frame) (do
      let outcome ← run
      return (store, .outcome outcome)) := by
  simp only [ensures_bind, ensures_pure]
  exact ensured

theorem executeOp_keepsFunction (frame : GuestFrame) {offset opcode : Nat} :
    Ensures (fun after => after.2.KeepsFunction frame)
      (executeOp inst store frame offset opcode) := by
  unfold executeOp
  refine .ite (ensures_error _) <|
    .ite (keepsFunction_of_running executeBlock_sameFunction) <|
    .ite (keepsFunction_of_running executeBlock_sameFunction) <|
    .ite (keepsFunction_of_running executeIf_sameFunction) <|
    .ite (keepsFunction_of_running executeElse_sameFunction) <|
    .ite ?_ <|
    .ite (keepsFunction_of_running executeBr_sameFunction) <|
    .ite (keepsFunction_of_running executeBrIf_sameFunction) <|
    .ite (keepsFunction_of_running executeBrTable_sameFunction) <|
    .ite (keepsFunction_of_running executeReturn_sameFunction) <|
    .ite (keepsFunction_of_outcome executeCall_keepsFunction) <|
    .ite (keepsFunction_of_outcome executeCallIndirect_keepsFunction) <|
    .ite (keepsFunction_of_outcome executeReturnCall_keepsFunction) <|
    .ite (keepsFunction_of_outcome executeReturnCallIndirect_keepsFunction)
      executePlainOp_keepsFunction
  simp only [ensures_bind, ensures_pure]
  exact executeEnd_keepsFunction

/-- A round of the interpreter's loop goes on in the same function. -/
theorem frameStep_keepsFunction :
    Ensures (fun after => after.2.2.KeepsFunction frame) (frameStep inst store budget frame) := by
  unfold frameStep
  split
  · simp only [ensures_bind, ensures_pure]
    exact finishFrame_keepsFunction
  · simp only [ensures_bind, ensures_pure]
    rintro budget -
    exact executeOp_keepsFunction { frame with pc := frame.pc + 1 }

end SameFunction

/-! ## Activations -/

/-- The frame runs a defined function of the instance, with that function's
control map. -/
def Activation (inst : Instance σ) (frame : GuestFrame) : Prop :=
  ∃ defined type body controlMap, Validator.Defined inst.module defined type body ∧
    inst.controlMaps[defined]? = some controlMap ∧
    frame.function =
      { code := body.code, controlMap
        localTypes := type.params ++ Validator.declaredTypes body.locals
        resultTypes := type.results }

theorem Activation.sameFunction {inst : Instance σ} {frame after : GuestFrame}
    (activation : Activation inst frame) (same : frame.SameFunction after) :
    Activation inst after := by
  unfold Activation
  rw [same]
  exact activation

section Located

variable {inst : Instance σ}

theorem Instance.Linked.controlMap (linked : inst.Linked) {defined : Nat} {body : FunctionBody}
    {controlMap : ControlMap} (bodyFound : inst.module.code[defined]? = some body)
    (mapFound : inst.controlMaps[defined]? = some controlMap) :
    buildControlMap body.code inst.module.types = .ok controlMap := by
  have pairs := linked.controlMaps
  generalize inst.module.code = bodies at bodyFound pairs
  generalize inst.controlMaps = controlMaps at mapFound pairs
  induction pairs generalizing defined with
  | nil => cases bodyFound
  | cons built _ ih =>
      cases defined with
      | zero =>
          cases bodyFound
          cases mapFound
          exact built
      | succ defined => exact ih bodyFound mapFound

/-- The control map of an activation is faithful to its body. -/
theorem Activation.faithful {frame : GuestFrame} (activation : Activation inst frame)
    (linked : inst.Linked) : frame.controlMap.Faithful inst.module.types frame.code := by
  obtain ⟨defined, type, body, controlMap, function, mapFound, same⟩ := activation
  obtain ⟨instrs, ended, endPc, checked⟩ := linked.accepted.bodyChecked function
  obtain ⟨controlMap, built, faithful⟩ := buildControlMap_of_encodesBody checked.encodes
  cases built.symm.trans (linked.controlMap function.body mapFound)
  have code : frame.code = body.code := congrArg FrameFunction.code same
  have map : frame.controlMap = controlMap := congrArg FrameFunction.controlMap same
  rw [code, map]
  exact faithful

/-- What `prepare_guest_frame` returns. -/
theorem prepareGuestFrame_ok {index : Nat} {args : List Value} {frame : GuestFrame}
    (prepared : inst.prepareGuestFrame index args = .ok frame) :
    ∃ defined typeIndex type body controlMap functionEnd,
      index = inst.module.functionImportCount + defined ∧
      inst.module.functionTypeIndices[defined]? = some typeIndex ∧
      inst.module.types[typeIndex]? = some type ∧ typesOf args = type.params ∧
      inst.module.code[defined]? = some body ∧ inst.controlMaps[defined]? = some controlMap ∧
      body.code.length = functionEnd + 1 ∧
      frame =
        { locals := args ++ (Instance.declaredLocals body.locals).map zero
          localTypes := type.params ++ Instance.declaredLocals body.locals
          stack := [], pc := 0, code := body.code, resultTypes := type.results
          controls :=
            [{ kind := .function, bodyPc := 0, endPc := functionEnd, stackHeight := 0
               paramTypes := [], resultTypes := type.results }]
          controlMap } := by
  unfold Instance.prepareGuestFrame at prepared
  dsimp only at prepared
  replace prepared := ite_cases prepared
  rcases prepared with ⟨-, failed⟩ | ⟨notImport, prepared⟩
  · cases failed
  split at prepared
  · cases prepared
  next typeIndex indexFound =>
  split at prepared
  · cases prepared
  next type typeFound =>
  obtain ⟨_, checked, prepared⟩ := bind_ok.mp prepared
  split at prepared
  case h_2 => cases prepared
  next body controlMap bodyFound mapFound =>
  split at prepared
  · cases prepared
  next functionEnd length =>
  cases prepared
  exact ⟨_, typeIndex, type, body, controlMap, functionEnd, by omega, indexFound, typeFound,
    validateValues_ok_iff.mp checked, bodyFound, mapFound, length, rfl⟩

/-- A new frame is an activation that stands at the start of its body. -/
theorem prepareGuestFrame_located (linked : inst.Linked) {index : Nat} {args : List Value} :
    Ensures (fun frame => Activation inst frame ∧
        Located inst (Validator.Passed inst.module) frame)
      (inst.prepareGuestFrame index args) := by
  intro frame prepared
  obtain ⟨defined, typeIndex, type, body, controlMap, functionEnd, -, indexFound, typeFound, -,
    bodyFound, mapFound, length, rfl⟩ := prepareGuestFrame_ok prepared
  have function : Validator.Defined inst.module defined type body :=
    ⟨⟨typeIndex, indexFound, typeFound⟩, bodyFound⟩
  have activation : Activation inst
      { locals := args ++ (Instance.declaredLocals body.locals).map zero
        localTypes := type.params ++ Instance.declaredLocals body.locals
        stack := [], pc := 0, code := body.code, resultTypes := type.results
        controls :=
          [{ kind := .function, bodyPc := 0, endPc := functionEnd, stackHeight := 0
             paramTypes := [], resultTypes := type.results }]
        controlMap } :=
    ⟨defined, type, body, controlMap, function, mapFound, rfl⟩
  obtain ⟨instrs, ended, endPc, checked⟩ := linked.accepted.bodyChecked function
  have encoded := checked.encodes
  have sameEnd : endPc = functionEnd := by
    have last : endPc + 1 = body.code.length := encoded.last
    omega
  subst sameEnd
  exact ⟨activation, .at (activation.faithful linked)
    (.function .here encoded.encodes encoded.endByte encoded.last rfl checked.every)⟩

end Located

end MiniWasm.Runtime
