import MiniWasm.Runtime.Dispatch

/-!
# Where a frame stands in its body

A running frame stands at a boundary of its body, and its control frames mirror
the blocks around that boundary.  Every round of the interpreter's loop keeps
this, whatever the operands are.
-/

namespace MiniWasm.Runtime

open Library

variable {σ : Type}

/-! ## Positions -/

/-- A control frame belongs to a block whose current sequence stops at `stop`. -/
structure ControlAt (types : List FuncType) (code : List UInt8) (known : Simple → Prop)
    (control : ExecControlFrame) (label : Label) (stop : Nat) : Prop where
  params : control.paramTypes = label.signature.params
  results : control.resultTypes = label.signature.results
  /-- A sequence stops at the `end` of its block, or at the `else` of an `if`. -/
  terminator : code[stop]? = some 0x0b ∧ control.endPc = stop ∨
    code[stop]? = some 0x05 ∧ control.kind = .if
  loop : label.loops = true → control.kind = .loop ∧
    Spec.Boundary types code control.bodyPc ∧
    Spec.Encodes types code control.bodyPc label.body control.endPc ∧
    code[control.endPc]? = some 0x0b ∧ label.body.Every known
  block : label.loops = false → control.kind = .block ∨ control.kind = .if

/-- `Placed types code known pc controls instrs labels`: from `pc` the body goes
on with `instrs`, inside blocks that go on with `labels`; the control frames are
those of the blocks and of the function.  All instructions are known ones. -/
inductive Placed (types : List FuncType) (code : List UInt8) (known : Simple → Prop) :
    Nat → List ExecControlFrame → Instrs → List Label → Prop where
  | function {pc : Nat} {control : ExecControlFrame} {instrs : Instrs} :
      Spec.Boundary types code pc →
      Spec.Encodes types code pc instrs control.endPc →
      code[control.endPc]? = some 0x0b →
      control.endPc + 1 = code.length →
      control.kind = .function →
      instrs.Every known →
      Placed types code known pc [control] instrs []
  | inside {pc stop : Nat} {control : ExecControlFrame} {controls : List ExecControlFrame}
      {instrs : Instrs} {label : Label} {labels : List Label} :
      Spec.Boundary types code pc →
      Spec.Encodes types code pc instrs stop →
      ControlAt types code known control label stop →
      instrs.Every known →
      Placed types code known (control.endPc + 1) controls label.next labels →
      Placed types code known pc (control :: controls) instrs (label :: labels)

namespace Placed

variable {types : List FuncType} {code : List UInt8} {known : Simple → Prop}
variable {pc : Nat} {controls : List ExecControlFrame} {instrs : Instrs} {labels : List Label}

theorem boundary (placed : Placed types code known pc controls instrs labels) :
    Spec.Boundary types code pc := by
  cases placed <;> assumption

theorem every (placed : Placed types code known pc controls instrs labels) :
    instrs.Every known := by
  cases placed <;> assumption

theorem controls_length (placed : Placed types code known pc controls instrs labels) :
    controls.length = labels.length + 1 := by
  induction placed with
  | function => rfl
  | inside _ _ _ _ _ ih => simp [ih]

/-- The sequence at a placed position, with its terminator. -/
theorem encodes (placed : Placed types code known pc controls instrs labels) :
    ∃ stop, Spec.Encodes types code pc instrs stop ∧ Spec.Terminator code stop := by
  cases placed with
  | function _ encodes endByte => exact ⟨_, encodes, .inr endByte⟩
  | inside _ encodes control =>
      rcases control.terminator with ⟨endByte, -⟩ | ⟨elseByte, -⟩
      · exact ⟨_, encodes, .inr endByte⟩
      · exact ⟨_, encodes, .inl elseByte⟩

/-- An instruction that is found at a placed position is a known one. -/
theorem known_of_simpleAt {instr : Simple} {pc' : Nat}
    (placed : Placed types code known pc controls instrs labels)
    (decoded : Spec.simpleAt code pc = some (instr, pc')) : known instr := by
  have every := placed.every
  obtain ⟨stop, encodes, terminator⟩ := placed.encodes
  cases encodes with
  | done => exact (Spec.simpleAt_notTerminator terminator decoded).elim
  | simple decoded' =>
      cases decoded.symm.trans decoded'
      exact every.1
  | block opcode => exact (Spec.simpleAt_notOpener opcode (Spec.blockOpcode_opens _) decoded).elim
  | ifThen opcode => exact (Spec.simpleAt_notOpener opcode (.inr (.inr rfl)) decoded).elim
  | ifElse opcode => exact (Spec.simpleAt_notOpener opcode (.inr (.inr rfl)) decoded).elim

/-- Going on with the rest of the current sequence. -/
theorem onwards {pc' : Nat} {instrs' : Instrs}
    (placed : Placed types code known pc controls instrs labels)
    (ahead : Spec.Walk types code pc pc')
    (rest : ∀ stop, Spec.Encodes types code pc instrs stop →
      Spec.Encodes types code pc' instrs' stop)
    (restKnown : instrs'.Every known) :
    Placed types code known pc' controls instrs' labels := by
  cases placed with
  | function boundary encodes endByte last isFunction _ =>
      exact .function (boundary.trans ahead) (rest _ encodes) endByte last isFunction restKnown
  | inside boundary encodes control _ outer =>
      exact .inside (boundary.trans ahead) (rest _ encodes) control restKnown outer

/-- The control frame of a label, and where a branch to it goes on. -/
theorem label_of_control {depth : Nat} {target : ExecControlFrame}
    (placed : Placed types code known pc controls instrs labels)
    (found : controls[depth]? = some target) :
    (depth = labels.length ∧ target.kind = .function) ∨
      ∃ label, labels[depth]? = some label ∧
        target.paramTypes = label.signature.params ∧
        target.resultTypes = label.signature.results ∧
        ((label.loops = true ∧ target.kind = .loop ∧
            Placed types code known target.bodyPc (controls.drop depth) label.body
              (labels.drop depth)) ∨
          (label.loops = false ∧ (target.kind = .block ∨ target.kind = .if) ∧
            Placed types code known (target.endPc + 1) (controls.drop (depth + 1)) label.next
              (labels.drop (depth + 1)))) := by
  induction placed generalizing depth with
  | function _ _ _ _ isFunction =>
      cases depth with
      | zero =>
          cases found
          exact .inl ⟨rfl, isFunction⟩
      | succ depth => cases found
  | @inside pc stop control controls instrs label labels boundary encodes controlAt every outer
      ih =>
      cases depth with
      | zero =>
          cases found
          refine .inr ⟨label, rfl, controlAt.params, controlAt.results, ?_⟩
          cases loops : label.loops with
          | true =>
              obtain ⟨isLoop, bodyBoundary, body, endByte, bodyKnown⟩ := controlAt.loop loops
              refine .inl ⟨rfl, isLoop, .inside bodyBoundary body ?_ bodyKnown outer⟩
              exact { controlAt with terminator := .inl ⟨endByte, rfl⟩ }
          | false => exact .inr ⟨rfl, controlAt.block loops, outer⟩
      | succ depth =>
          rcases ih found with ⟨depthEq, isFunction⟩ | ⟨label, labelFound, params, results, target⟩
          · exact .inl ⟨by simp [depthEq], isFunction⟩
          · exact .inr ⟨label, labelFound, params, results, target⟩

end Placed

/-! ## One position -/

section Position

variable {types : List FuncType} {code : List UInt8} {known : Simple → Prop}
variable {pc : Nat} {controls : List ExecControlFrame} {labels : List Label}

theorem Placed.atEnd (placed : Placed types code known pc controls .done []) :
    ∃ control, controls = [control] ∧ control.kind = .function ∧ control.endPc = pc ∧
      code[pc]? = some 0x0b ∧ pc + 1 = code.length := by
  cases placed with
  | @function _ control _ _ encodes endByte last isFunction =>
      generalize endPc : control.endPc = finish at encodes endByte last
      cases encodes
      exact ⟨control, rfl, isFunction, endPc, endByte, last⟩

theorem Placed.atTerminator {label : Label}
    (placed : Placed types code known pc controls .done (label :: labels)) :
    ∃ control outer, controls = control :: outer ∧
      control.resultTypes = label.signature.results ∧ control.kind ≠ .function ∧
      (code[pc]? = some 0x0b ∧ control.endPc = pc ∨
        code[pc]? = some 0x05 ∧ control.kind = .if) ∧
      Placed types code known (control.endPc + 1) outer label.next labels := by
  cases placed with
  | @inside _ _ control outer _ _ _ _ encodes controlAt _ outerPlaced =>
      cases encodes
      refine ⟨control, outer, rfl, controlAt.results, ?_, controlAt.terminator, outerPlaced⟩
      cases loops : label.loops with
      | true => rw [(controlAt.loop loops).1]; decide
      | false => rcases controlAt.block loops with isBlock | isIf <;> simp [*]

theorem Placed.atSimple {instr : Simple} {next : Instrs}
    (placed : Placed types code known pc controls (.simple instr next) labels) :
    ∃ pc', Spec.simpleAt code pc = some (instr, pc') ∧ known instr ∧
      Placed types code known pc' controls next labels := by
  obtain ⟨stop, encodes, -⟩ := placed.encodes
  cases encodes with
  | @simple _ pc' _ _ _ decoded rest =>
      refine ⟨pc', decoded, placed.every.1,
        placed.onwards (.step (Spec.instrEnd_simple decoded)) ?_ placed.every.2⟩
      intro stop encodes
      cases encodes with
      | simple decoded' rest' =>
          cases decoded.symm.trans decoded'
          exact rest'

/-- Behind a block the enclosing sequence goes on. -/
theorem Placed.afterBlock {instrs next : Instrs} {bodyPc endPc : Nat}
    (placed : Placed types code known pc controls instrs labels)
    (ends : Spec.instrEnd types code pc = some bodyPc)
    (walk : Spec.Walk types code bodyPc endPc) (endByte : code[endPc]? = some 0x0b)
    (rest : ∀ stop, Spec.Encodes types code pc instrs stop →
      Spec.Encodes types code (endPc + 1) next stop)
    (restKnown : next.Every known) :
    Placed types code known (endPc + 1) controls next labels :=
  placed.onwards
    (((Spec.Walk.step ends).trans walk).next (Spec.instrEnd_terminator (.inr endByte)))
    rest restKnown

theorem Placed.atBlock {loops : Bool} {signature : BlockSignature} {body next : Instrs}
    (placed : Placed types code known pc controls (.block loops signature body next) labels) :
    ∃ bodyPc endPc, code[pc]? = some (Spec.blockOpcode loops) ∧
      Spec.blockType code types (pc + 1) = some (signature, bodyPc) ∧
      Spec.BlockAt types code pc (.ofBlock loops) signature bodyPc none endPc ∧
      ∀ height, Placed types code known bodyPc
        (.ofBlock (.ofBlock loops) signature bodyPc endPc height :: controls) body
        ({ loops, signature, body, next } :: labels) := by
  obtain ⟨stop, encodes, -⟩ := placed.encodes
  cases encodes with
  | @block _ bodyPc endPc _ _ _ _ _ opcode decoded bodyEncodes endByte rest =>
      have ends := Spec.instrEnd_opener opcode (Spec.blockOpcode_opens _) decoded
      have bodyBoundary := placed.boundary.next ends
      have after : Placed types code known (endPc + 1) controls next labels := by
        refine placed.afterBlock ends bodyEncodes.walk endByte ?_ placed.every.2
        intro stop encodes
        cases encodes with
        | block opcode' decoded' body' endByte' rest' =>
            cases decoded.symm.trans decoded'
            obtain ⟨-, rfl⟩ := bodyEncodes.unique (.inr endByte) body' (.inr endByte')
            exact rest'
      refine ⟨bodyPc, endPc, opcode, decoded, .block opcode decoded bodyEncodes endByte, ?_⟩
      intro height
      refine .inside bodyBoundary bodyEncodes ?_ placed.every.1 after
      exact
        { params := rfl, results := rfl, terminator := .inl ⟨endByte, rfl⟩
          loop := by
            rintro rfl
            exact ⟨rfl, bodyBoundary, bodyEncodes, endByte, placed.every.1⟩
          block := by
            rintro rfl
            exact .inl rfl }

/-- The label of an arm of an `if`. -/
def armLabel (signature : BlockSignature) (next : Instrs) : Label where
  loops := false
  signature
  body := .done
  next

theorem Placed.atIfThen {signature : BlockSignature} {body next : Instrs}
    (placed : Placed types code known pc controls (.ifThen signature body next) labels) :
    ∃ bodyPc endPc, code[pc]? = some 0x04 ∧
      Spec.blockType code types (pc + 1) = some (signature, bodyPc) ∧
      Spec.BlockAt types code pc .if signature bodyPc none endPc ∧
      (∀ height, Placed types code known bodyPc
        (.ofBlock .if signature bodyPc endPc height :: controls) body
        (armLabel signature next :: labels)) ∧
      Placed types code known (endPc + 1) controls next labels := by
  obtain ⟨stop, encodes, -⟩ := placed.encodes
  cases encodes with
  | @ifThen _ bodyPc endPc _ _ _ _ opcode decoded bodyEncodes endByte rest =>
      have ends := Spec.instrEnd_opener opcode (.inr (.inr rfl)) decoded
      have bodyBoundary := placed.boundary.next ends
      have after : Placed types code known (endPc + 1) controls next labels := by
        refine placed.afterBlock ends bodyEncodes.walk endByte ?_ placed.every.2
        intro stop encodes
        cases encodes with
        | ifThen opcode' decoded' body' endByte' rest' =>
            cases decoded.symm.trans decoded'
            obtain ⟨-, rfl⟩ := bodyEncodes.unique (.inr endByte) body' (.inr endByte')
            exact rest'
      refine ⟨bodyPc, endPc, opcode, decoded, .ifThen opcode decoded bodyEncodes endByte, ?_,
        after⟩
      intro height
      refine .inside bodyBoundary bodyEncodes ?_ placed.every.1 after
      exact
        { params := rfl, results := rfl, terminator := .inl ⟨endByte, rfl⟩
          loop := fun loops => by cases loops
          block := fun _ => .inr rfl }

theorem Placed.atIfElse {signature : BlockSignature} {body alternative next : Instrs}
    (placed :
      Placed types code known pc controls (.ifElse signature body alternative next) labels) :
    ∃ bodyPc elsePc endPc, code[pc]? = some 0x04 ∧
      Spec.blockType code types (pc + 1) = some (signature, bodyPc) ∧
      Spec.BlockAt types code pc .if signature bodyPc (some elsePc) endPc ∧
      (∀ height, Placed types code known bodyPc
        (.ofBlock .if signature bodyPc endPc height :: controls) body
        (armLabel signature next :: labels)) ∧
      ∀ height, Placed types code known (elsePc + 1)
        (.ofBlock .if signature bodyPc endPc height :: controls) alternative
        (armLabel signature next :: labels) := by
  obtain ⟨stop, encodes, -⟩ := placed.encodes
  cases encodes with
  | @ifElse _ bodyPc elsePc endPc _ _ _ _ _ opcode decoded bodyEncodes elseByte otherEncodes
      endByte rest =>
      have ends := Spec.instrEnd_opener opcode (.inr (.inr rfl)) decoded
      have elseEnds : Spec.instrEnd types code elsePc = some (elsePc + 1) :=
        Spec.instrEnd_terminator (.inl elseByte)
      have bodyBoundary := placed.boundary.next ends
      have otherBoundary := (bodyBoundary.trans bodyEncodes.walk).next elseEnds
      have walk := (bodyEncodes.walk.next elseEnds).trans otherEncodes.walk
      have after : Placed types code known (endPc + 1) controls next labels := by
        refine placed.afterBlock ends walk endByte ?_ placed.every.2.2
        intro stop encodes
        cases encodes with
        | ifElse opcode' decoded' body' elseByte' other' endByte' rest' =>
            cases decoded.symm.trans decoded'
            obtain ⟨-, rfl⟩ := bodyEncodes.unique (.inl elseByte) body' (.inl elseByte')
            obtain ⟨-, rfl⟩ := otherEncodes.unique (.inr endByte) other' (.inr endByte')
            exact rest'
      refine ⟨bodyPc, elsePc, endPc, opcode, decoded,
        .ifElse opcode decoded bodyEncodes elseByte otherEncodes endByte, ?_, ?_⟩
      · intro height
        refine .inside bodyBoundary bodyEncodes ?_ placed.every.1 after
        exact
          { params := rfl, results := rfl, terminator := .inr ⟨elseByte, rfl⟩
            loop := fun loops => by cases loops
            block := fun _ => .inr rfl }
      · intro height
        refine .inside otherBoundary otherEncodes ?_ placed.every.2.1 after
        exact
          { params := rfl, results := rfl, terminator := .inl ⟨endByte, rfl⟩
            loop := fun loops => by cases loops
            block := fun _ => .inr rfl }

end Position

/-! ## Frames -/

/-- The frame stands in its body, or has left it by a branch. -/
structure Located (inst : Instance σ) (known : Simple → Prop) (frame : GuestFrame) : Prop where
  faithful : frame.controlMap.Faithful inst.module.types frame.code
  position : (∃ instrs labels, Placed inst.module.types frame.code known frame.pc
      frame.controls instrs labels) ∨
    frame.pc = frame.code.length ∧ frame.controls = []

/-- Frames that a round leaves to be run again. -/
def FrameStep.frames : FrameStep → List GuestFrame
  | .running frame => [frame]
  | .outcome (.call continuation _ _) => [continuation]
  | .outcome _ => []

section Located

variable {inst : Instance σ} {known : Simple → Prop} {frame : GuestFrame}

/-- A position is fetched from only at a boundary. -/
theorem Located.boundary {opcode : UInt8} (located : Located inst known frame)
    (fetched : frame.code[frame.pc]? = some opcode) :
    Spec.Boundary inst.module.types frame.code frame.pc := by
  rcases located.position with ⟨instrs, labels, placed⟩ | ⟨left, -⟩
  · exact placed.boundary
  · rw [left, List.getElem?_eq_none (Nat.le_refl _)] at fetched
    cases fetched

theorem Located.at {instrs : Instrs} {labels : List Label}
    (faithful : frame.controlMap.Faithful inst.module.types frame.code)
    (placed : Placed inst.module.types frame.code known frame.pc frame.controls instrs labels) :
    Located inst known frame :=
  ⟨faithful, .inl ⟨instrs, labels, placed⟩⟩

theorem branchTo_ok {depth : Nat} {after : GuestFrame}
    (branched : branchTo frame depth = .ok after) :
    ∃ target, frame.controls[depth]? = some target ∧
      after =
        { frame with
          stack := frame.stack.take target.labelTypes.length ++
            truncate frame.stack target.stackHeight
          controls := (branchTarget target frame.controls depth frame.code.length).1
          pc := (branchTarget target frame.controls depth frame.code.length).2 } := by
  unfold branchTo at branched
  split at branched
  · cases branched
  next target found =>
  split at branched
  · cases branched
  · dsimp only at branched
    replace branched := ite_cases branched
    rcases branched with ⟨-, failed⟩ | ⟨-, checked⟩
    · cases failed
    · obtain ⟨_, -, same⟩ := bind_ok.mp checked
      cases same
      exact ⟨target, found, rfl⟩

/-- A branch leads to the continuation of its label, or out of the body. -/
theorem branchTo_located {instrs : Instrs} {labels : List Label} {depth : Nat}
    (faithful : frame.controlMap.Faithful inst.module.types frame.code)
    (placed : Placed inst.module.types frame.code known frame.pc frame.controls instrs labels) :
    Ensures (Located inst known) (branchTo frame depth) := by
  intro after branched
  obtain ⟨target, found, rfl⟩ := branchTo_ok branched
  refine ⟨faithful, ?_⟩
  rcases placed.label_of_control found with ⟨-, isFunction⟩ |
    ⟨label, -, -, -, ⟨-, isLoop, again⟩ | ⟨-, isBlock | isIf, behind⟩⟩
  · simp only [branchTarget, isFunction]
    exact .inr ⟨trivial, trivial⟩
  · simp only [branchTarget, isLoop]
    exact .inl ⟨_, _, again⟩
  · simp only [branchTarget, isBlock]
    exact .inl ⟨_, _, behind⟩
  · simp only [branchTarget, isIf]
    exact .inl ⟨_, _, behind⟩

variable {store : Store σ} {budget : ExecutionBudget}

theorem executeSimple_located {instrs : Instrs} {labels : List Label} {instr : Simple}
    (faithful : frame.controlMap.Faithful inst.module.types frame.code)
    (placed : Placed inst.module.types frame.code known frame.pc frame.controls instrs labels) :
    Ensures (fun after => ∀ frame ∈ after.2.frames, Located inst known frame)
      (executeSimple inst store frame instr) := by
  have here (locals : List Value) (stack : Stack) :
      Located inst known { frame with locals, stack } := .at faithful placed
  have branches (stack : Stack) (depth : Nat) :
      Ensures (Located inst known) (branchTo { frame with stack } depth) :=
    branchTo_located faithful placed
  cases instr with
  | plain instr =>
      simp only [executeSimple, ensures_bind, ensures_pure]
      rintro state - after member
      cases List.mem_singleton.mp member
      exact here state.locals state.stack
  | unreachable => exact ensures_error _
  | br depth =>
      simp only [executeSimple, ensures_bind, ensures_pure]
      refine (branches frame.stack depth).mono fun after located other member => ?_
      cases List.mem_singleton.mp member
      exact located
  | brIf depth =>
      simp only [executeSimple, ensures_bind]
      rintro ⟨condition, stack⟩ -
      apply Ensures.ite
      · simp only [ensures_bind, ensures_pure]
        refine (branches stack depth).mono fun after located other member => ?_
        cases List.mem_singleton.mp member
        exact located
      · rw [ensures_pure]
        intro after member
        cases List.mem_singleton.mp member
        exact here frame.locals stack
  | brTable depths default =>
      simp only [executeSimple, ensures_bind, ensures_pure]
      rintro ⟨selector, stack⟩ -
      refine (branches stack _).mono fun after located other member => ?_
      cases List.mem_singleton.mp member
      exact located
  | «return» =>
      simp only [executeSimple, executeReturn, ensures_bind, ensures_pure]
      split
      · exact ensures_error _
      · refine (branches frame.stack _).mono fun after located other member => ?_
        cases List.mem_singleton.mp member
        exact located
  | call function =>
      simp only [executeSimple, ensures_bind, ensures_pure]
      rintro type - ⟨args, stack⟩ - after member
      cases List.mem_singleton.mp member
      exact here frame.locals stack
  | callIndirect type table =>
      simp only [executeSimple, ensures_bind, ensures_pure]
      rintro ⟨element, _⟩ - ⟨callee, calleeType⟩ - ⟨args, stack⟩ - after member
      cases List.mem_singleton.mp member
      exact here frame.locals stack
  | returnCall function =>
      simp only [executeSimple, ensures_bind]
      rintro type -
      refine .ite (ensures_error _) ?_
      simp only [ensures_bind, ensures_pure]
      rintro ⟨args, stack⟩ - after member
      cases member
  | returnCallIndirect type table =>
      simp only [executeSimple, ensures_bind]
      rintro ⟨element, _⟩ - ⟨callee, calleeType⟩ -
      refine .ite (ensures_error _) ?_
      simp only [ensures_bind, ensures_pure]
      rintro ⟨args, stack⟩ - after member
      cases member

theorem exitControlFrame_ok {control : ExecControlFrame} {outer after : List ExecControlFrame}
    {stack : Stack} (left : exitControlFrame (control :: outer) stack = .ok after) :
    after = outer ∧ stack.length = control.stackHeight + control.resultTypes.length ∧
      typesOf (operandsAbove stack control.stackHeight) = control.resultTypes := by
  unfold exitControlFrame at left
  dsimp only at left
  replace left := ite_cases left
  rcases left with ⟨-, failed⟩ | ⟨height, left⟩
  · cases failed
  · obtain ⟨_, checked, same⟩ := bind_ok.mp left
    cases same
    exact ⟨rfl, Decidable.not_not.mp height, validateValues_ok_iff.mp checked⟩

/-- Entering a block at a position inside it. -/
theorem enterBlock_located {kind : ControlKind} {signature : BlockSignature}
    {bodyPc endPc : Nat} {body : Instrs} {labels : List Label}
    (faithful : frame.controlMap.Faithful inst.module.types frame.code)
    (inside : ∀ height, Placed inst.module.types frame.code known bodyPc
      (.ofBlock kind signature bodyPc endPc height :: frame.controls) body labels) :
    Ensures (Located inst known) (enterBlock frame kind signature bodyPc endPc) := by
  simp only [enterBlock, ensures_bind, ensures_pure]
  rintro height -
  exact .at faithful (inside height)

/-- A round of the interpreter's loop keeps frames in their bodies. -/
theorem frameStep_located (located : Located inst known frame)
    (memories : ∀ instr, known instr → ∀ memory ∈ instr.memories,
      memory < store.memories.length) :
    Ensures (fun after => ∀ frame ∈ after.2.2.frames, Located inst known frame)
      (frameStep inst store budget frame) := by
  have faithful := located.faithful
  rcases located.position with ⟨instrs, labels, placed⟩ | ⟨left, -⟩
  case inr =>
    rw [frameStep_left left]
    simp only [ensures_bind, ensures_pure, finishFrame]
    refine .ite (ensures_error _) ?_
    simp only [ensures_bind, ensures_pure]
    rintro _ - after member
    cases member
  have running (run : Run GuestFrame) (ensured : Ensures (Located inst known) run) :
      Ensures (fun after : Store σ × ExecutionBudget × FrameStep =>
          ∀ frame ∈ after.2.2.frames, Located inst known frame) (do
        let budget ← budget.consumeInstruction
        let frame ← run
        return (store, budget, .running frame)) := by
    simp only [ensures_bind, ensures_pure]
    rintro budget -
    refine ensured.mono fun after located other member => ?_
    cases List.mem_singleton.mp member
    exact located
  cases instrs with
  | done =>
      cases labels with
      | nil =>
          obtain ⟨control, controls, isFunction, -, endByte, -⟩ := placed.atEnd
          rw [frameStep_end endByte]
          simp only [executeEnd, controls, ensures_bind, ensures_pure]
          rintro budget -
          refine .ite (ensures_error _) ?_
          simp only [ensures_bind, isFunction, if_true, ensures_pure, finishFrame]
          rintro _ -
          refine .ite (ensures_error _) ?_
          simp only [ensures_bind, ensures_pure]
          rintro _ - after member
          cases member
      | cons label labels =>
          obtain ⟨control, outer, controls, -, notFunction, terminator, behind⟩ :=
            placed.atTerminator
          rcases terminator with ⟨endByte, here⟩ | ⟨elseByte, isIf⟩
          · rw [frameStep_end endByte]
            simp only [executeEnd, controls, ensures_bind, ensures_pure]
            rintro budget -
            refine .ite (ensures_error _) ?_
            rw [ensures_bind]
            intro after left
            obtain ⟨rfl, -⟩ := exitControlFrame_ok left
            rw [if_neg notFunction, ensures_pure]
            intro other member
            cases List.mem_singleton.mp member
            exact .at faithful (here ▸ behind)
          · rw [frameStep_else elseByte]
            apply running
            simp only [executeElse, controls, isIf, ne_eq, not_true_eq_false, if_false,
              ensures_bind, ensures_pure]
            intro after left
            obtain ⟨rfl, -⟩ := exitControlFrame_ok left
            exact .at faithful behind
  | simple instr next =>
      obtain ⟨pc', decoded, instrKnown, rest⟩ := placed.atSimple
      rw [frameStep_simple decoded (memories instr instrKnown)]
      simp only [ensures_bind, ensures_pure]
      rintro budget -
      exact executeSimple_located faithful rest
  | block loops signature body next =>
      obtain ⟨bodyPc, endPc, opcode, decoded, block, inside⟩ := placed.atBlock
      rw [frameStep_block faithful placed.boundary opcode decoded block]
      exact running _ (enterBlock_located faithful inside)
  | ifThen signature body next =>
      obtain ⟨bodyPc, endPc, opcode, decoded, block, inside, behind⟩ := placed.atIfThen
      rw [frameStep_if faithful placed.boundary opcode decoded block]
      apply running
      simp only [enterIf, ensures_bind]
      rintro ⟨condition, stack⟩ -
      apply Ensures.ite
      · exact enterBlock_located faithful inside
      · simp only [ensures_bind, ensures_pure]
        rintro height -
        exact .at faithful behind
  | ifElse signature body alternative next =>
      obtain ⟨bodyPc, elsePc, endPc, opcode, decoded, block, inside, other⟩ := placed.atIfElse
      rw [frameStep_if faithful placed.boundary opcode decoded block]
      apply running
      simp only [enterIf, ensures_bind]
      rintro ⟨condition, stack⟩ -
      apply Ensures.ite
      · exact enterBlock_located faithful inside
      · simp only [ensures_bind, ensures_pure]
        rintro height -
        exact .at faithful (other height)

end Located

end MiniWasm.Runtime
