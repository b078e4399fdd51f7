import MiniWasm.Library.Reading
import MiniWasm.Spec.Boundaries
import MiniWasm.Validator.Simple

/-!
# The structure of an accepted body

The checker reads a body in one pass.  Here that pass is folded back into the
structured sequence that the body encodes: every opener is paired with the
terminators that the checker saw for its frame.
-/

namespace MiniWasm.Validator

open Library

variable {cx : CodeContext} {offset pc pc' : Nat}
variable {frame : ControlFrame} {outer : List ControlFrame}
variable {stack : OperandTypes} {state after : CheckState}

/-! ## Openers and terminators -/

theorem readBlockSignature_ok {signature : BlockSignature}
    (read : readBlockSignature cx offset pc = .ok (signature, pc')) :
    Spec.blockType cx.code cx.module.types pc = some (signature, pc') := by
  simp only [readBlockSignature, bind_ok, Prod.exists] at read
  obtain ⟨first, next, firstRead, read⟩ := read
  have firstAt := readByte_ok firstRead
  rcases ite_cases read with ⟨rfl, read⟩ | ⟨notEmpty, read⟩
  · cases read
    simp [Spec.blockType, firstAt]
  · unfold shorthandBlockType at read
    split at read
    · next result shorthand =>
        cases read
        simp only [Spec.blockType, firstAt, Option.bind_eq_bind, Option.bind_some,
          if_neg notEmpty]
        split_ifs at shorthand ⊢ <;> cases shorthand <;> rfl
    · next noShorthand =>
        simp only [bind_ok, Prod.exists] at read
        obtain ⟨raw, _, rawRead, read⟩ := read
        rcases ite_cases read with ⟨-, failed⟩ | ⟨nonnegative, read⟩
        · cases failed
        rcases ite_cases read with ⟨-, failed⟩ | ⟨small, read⟩
        · simp [malformed] at failed
        split at read
        · next type found =>
            cases read
            simp only [Spec.blockType, firstAt, Option.bind_eq_bind, Option.bind_some,
              if_neg notEmpty, readWith_ok rawRead, nonnegative, small, or_self, if_false, found]
            split_ifs at noShorthand ⊢
            rfl
        · cases read

/-- The frame that an opener pushes. -/
def openedFrame (kind : ControlKind) (signature : BlockSignature) (height : Nat) :
    ControlFrame where
  kind
  height
  paramTypes := signature.params
  endTypes := signature.results
  labelTypes := signature.labelTypes (kind = .loop)
  unreachable := false
  seenElse := false

/-- Operands that an opener takes, the first from the top. -/
def openerOperands (kind : ControlKind) (signature : BlockSignature) : List ValueType :=
  (if kind = .if then [.i32] else []) ++ signature.params.reverse

/-- An opener takes its operands and pushes a frame above the rest, with its
parameters. -/
structure Opened (cx : CodeContext) (frame : ControlFrame) (outer : List ControlFrame)
    (kind : ControlKind) (pc : Nat) (stack : OperandTypes) (inner : CheckState)
    (bodyPc : Nat) (signature : BlockSignature) (rest : OperandTypes) : Prop where
  decoded : Spec.blockType cx.code cx.module.types pc = some (signature, bodyPc)
  popped : Pops frame (openerOperands kind signature) stack rest
  inner : inner =
    { stack := signature.params.reverse ++ rest
      controls := openedFrame kind signature rest.length :: frame :: outer }

theorem pushControl_ok {below : OperandTypes} {kind : ControlKind}
    {signature : BlockSignature}
    (pushed : pushControl cx offset pc { stack := below, controls := frame :: outer } kind
      signature stack = .ok (after, pc')) :
    pc' = pc ∧ ∃ rest, Pops frame signature.params.reverse stack rest ∧
      after =
        { stack := signature.params.reverse ++ rest
          controls := openedFrame kind signature rest.length :: frame :: outer } := by
  simp only [pushControl, enterControl, bind_ok, Prod.exists, pure_ok, Except.ok.injEq,
    Prod.mk.injEq] at pushed
  obtain ⟨height, _, ⟨rest, popped, rfl, rfl⟩, rfl, rfl⟩ := pushed
  refine ⟨rfl, rest, popAll_ok popped, ?_⟩
  simp only [openedFrame, BlockSignature.labelTypes, decide_eq_true_eq]

theorem validateBlock_ok {kind : ControlKind} (notIf : kind ≠ .if)
    (step : validateBlock cx offset pc { stack, controls := frame :: outer } kind =
      .ok (after, pc')) :
    ∃ signature rest, Opened cx frame outer kind pc stack after pc' signature rest := by
  simp only [validateBlock, bind_ok, Prod.exists] at step
  obtain ⟨signature, next, signatureRead, pushed⟩ := step
  obtain ⟨rfl, rest, popped, inner⟩ := pushControl_ok pushed
  refine ⟨signature, rest, readBlockSignature_ok signatureRead, ?_, inner⟩
  rw [openerOperands, if_neg notIf]
  exact popped

theorem validateIf_ok
    (step : validateIf cx offset pc { stack, controls := frame :: outer } =
      .ok (after, pc')) :
    ∃ signature rest, Opened cx frame outer .if pc stack after pc' signature rest := by
  simp only [validateIf, bind_ok, Prod.exists] at step
  obtain ⟨signature, next, signatureRead, middle, condition, pushed⟩ := step
  obtain ⟨rfl, rest, popped, inner⟩ := pushControl_ok pushed
  exact ⟨signature, rest, readBlockSignature_ok signatureRead,
    (popExpect_ok condition).append popped, inner⟩

/-- What a frame requires of the operands at its terminator. -/
def Finishes (frame : ControlFrame) (stack : OperandTypes) : Prop :=
  frame.unreachable = true ∨
    stack.length = frame.height + frame.endTypes.length ∧
      stack.take frame.endTypes.length = frame.endTypes.reverse

theorem finishFrame_ok {rest : OperandTypes}
    (finished : finishFrame cx offset stack frame = .ok rest) :
    Finishes frame stack ∧ truncate rest frame.height = truncate stack frame.height := by
  unfold finishFrame at finished
  rcases ite_cases finished with ⟨unreachable, kept⟩ | ⟨-, checked⟩
  · cases kept
    refine ⟨.inl unreachable, truncate_of_le ?_⟩
    rw [truncate_length]
    exact Nat.min_le_right ..
  · rcases ite_cases checked with ⟨-, failed⟩ | ⟨height, checked⟩
    · cases failed
    · simp only [bind_ok, pure_ok, Except.ok.injEq] at checked
      obtain ⟨_, matched, rfl⟩ := checked
      have height := Decidable.not_not.mp height
      exact ⟨.inr ⟨height, take_of_matchTypes (by omega) matched⟩, rfl⟩

theorem validateEnd_ok
    (step : validateEnd cx offset pc { stack, controls := frame :: outer } =
      .ok (after, pc')) :
    (frame.kind = .if → frame.endTypes = [] ∨ frame.seenElse = true) ∧ Finishes frame stack ∧
      pc' = pc ∧ after.controls = outer ∧
      (frame.kind = .function → pc = cx.code.length) ∧
      (frame.kind ≠ .function →
        after.stack = frame.endTypes.reverse ++ truncate stack frame.height) := by
  unfold validateEnd at step
  rcases ite_cases step with ⟨-, failed⟩ | ⟨missing, checked⟩
  · cases failed
  have hasElse : frame.kind = .if → frame.endTypes = [] ∨ frame.seenElse = true := by
    intro isIf
    by_contra neither
    simp only [not_or, Bool.not_eq_true] at neither
    exact missing ⟨isIf, neither⟩
  simp only [bind_ok] at checked
  obtain ⟨rest, finished, popped⟩ := checked
  obtain ⟨finishes, below⟩ := finishFrame_ok finished
  rcases ite_cases popped with ⟨function, popped⟩ | ⟨notFunction, popped⟩
  · rcases ite_cases popped with ⟨-, failed⟩ | ⟨last, popped⟩
    · cases failed
    · cases popped
      exact ⟨hasElse, finishes, rfl, rfl, fun _ => Decidable.not_not.mp last,
        fun notFunction => absurd function notFunction⟩
  · cases popped
    exact ⟨hasElse, finishes, rfl, rfl, fun function => absurd function notFunction,
      fun _ => by rw [below]⟩

theorem transitionToElse_ok
    (switched : transitionToElse cx offset { stack, controls := frame :: outer } =
      .ok after) :
    frame.kind = .if ∧ frame.seenElse = false ∧ Finishes frame stack ∧
      after =
        { stack := frame.paramTypes.reverse ++ truncate stack frame.height
          controls := { frame with unreachable := false, seenElse := true } :: outer } := by
  unfold transitionToElse at switched
  rcases ite_cases switched with ⟨-, failed⟩ | ⟨kind, switched⟩
  · cases failed
  rcases ite_cases switched with ⟨-, failed⟩ | ⟨seen, switched⟩
  · cases failed
  simp only [bind_ok, pure_ok, Except.ok.injEq] at switched
  obtain ⟨rest, finished, rfl⟩ := switched
  obtain ⟨finishes, below⟩ := finishFrame_ok finished
  exact ⟨Decidable.not_not.mp kind, by simpa using seen, finishes, by rw [below]⟩

/-! ## Sequences -/

/-- One round of the checker's loop. -/
def Advances (cx : CodeContext) (state : CheckState) (pc : Nat) (after : CheckState)
    (pc' : Nat) : Prop :=
  ∃ opcode, cx.code[pc]? = some opcode ∧
    validateOp cx pc (pc + 1) state opcode.toNat = .ok (after, pc')

/-- The states that the checker's loop passes through. -/
abbrev Visited (cx : CodeContext) : CheckState → Nat → Prop :=
  Reaches cx.code (fun pc opcode state => validateOp cx pc (pc + 1) state opcode.toNat)
    (initialState cx)

theorem Visited.next (visited : Visited cx state pc) (advances : Advances cx state pc after pc') :
    Visited cx after pc' := by
  obtain ⟨opcode, found, step⟩ := advances
  exact Reaches.next visited found step

/-- The checker walks over a structured sequence, from the state before its first
instruction to the state before its terminator. -/
inductive SeqChecked (cx : CodeContext) :
    CheckState → Nat → Instrs → CheckState → Nat → Prop where
  | done {state : CheckState} {pc : Nat} : SeqChecked cx state pc .done state pc
  | simple {state after final : CheckState} {pc pc' finish : Nat} {instr : Simple}
      {next : Instrs} :
      Spec.simpleAt cx.code pc = some (instr, pc') →
      Advances cx state pc after pc' →
      SeqChecked cx after pc' next final finish →
      SeqChecked cx state pc (.simple instr next) final finish
  | block {state inner ended after final : CheckState} {pc bodyPc endPc finish : Nat}
      {loops : Bool} {signature : BlockSignature} {body next : Instrs} :
      cx.code[pc]? = some (Spec.blockOpcode loops) →
      Spec.blockType cx.code cx.module.types (pc + 1) = some (signature, bodyPc) →
      Advances cx state pc inner bodyPc →
      SeqChecked cx inner bodyPc body ended endPc →
      cx.code[endPc]? = some 0x0b →
      Advances cx ended endPc after (endPc + 1) →
      SeqChecked cx after (endPc + 1) next final finish →
      SeqChecked cx state pc (.block loops signature body next) final finish
  | ifThen {state inner ended after final : CheckState} {pc bodyPc endPc finish : Nat}
      {signature : BlockSignature} {body next : Instrs} :
      cx.code[pc]? = some 0x04 →
      Spec.blockType cx.code cx.module.types (pc + 1) = some (signature, bodyPc) →
      Advances cx state pc inner bodyPc →
      SeqChecked cx inner bodyPc body ended endPc →
      cx.code[endPc]? = some 0x0b →
      Advances cx ended endPc after (endPc + 1) →
      SeqChecked cx after (endPc + 1) next final finish →
      SeqChecked cx state pc (.ifThen signature body next) final finish
  | ifElse {state inner switching other ended after final : CheckState}
      {pc bodyPc elsePc endPc finish : Nat} {signature : BlockSignature}
      {body alternative next : Instrs} :
      cx.code[pc]? = some 0x04 →
      Spec.blockType cx.code cx.module.types (pc + 1) = some (signature, bodyPc) →
      Advances cx state pc inner bodyPc →
      SeqChecked cx inner bodyPc body switching elsePc →
      cx.code[elsePc]? = some 0x05 →
      Advances cx switching elsePc other (elsePc + 1) →
      SeqChecked cx other (elsePc + 1) alternative ended endPc →
      cx.code[endPc]? = some 0x0b →
      Advances cx ended endPc after (endPc + 1) →
      SeqChecked cx after (endPc + 1) next final finish →
      SeqChecked cx state pc (.ifElse signature body alternative next) final finish

theorem SeqChecked.encodes {final : CheckState} {finish : Nat} {instrs : Instrs}
    (checked : SeqChecked cx state pc instrs final finish) :
    Spec.Encodes cx.module.types cx.code pc instrs finish := by
  induction checked with
  | done => exact .done
  | simple decoded _ _ ih => exact .simple decoded ih
  | block opcode decoded _ _ endByte _ _ bodyIH nextIH =>
      exact .block opcode decoded bodyIH endByte nextIH
  | ifThen opcode decoded _ _ endByte _ _ bodyIH nextIH =>
      exact .ifThen opcode decoded bodyIH endByte nextIH
  | ifElse opcode decoded _ _ elseByte _ _ endByte _ _ bodyIH otherIH nextIH =>
      exact .ifElse opcode decoded bodyIH elseByte otherIH endByte nextIH

theorem SeqChecked.visited {final : CheckState} {finish : Nat} {instrs : Instrs}
    (checked : SeqChecked cx state pc instrs final finish)
    (visited : Visited cx state pc) : Visited cx final finish := by
  induction checked with
  | done => exact visited
  | simple _ advances _ ih => exact ih (visited.next advances)
  | block _ _ opens _ _ ends _ bodyIH nextIH =>
      exact nextIH ((bodyIH (visited.next opens)).next ends)
  | ifThen _ _ opens _ _ ends _ bodyIH nextIH =>
      exact nextIH ((bodyIH (visited.next opens)).next ends)
  | ifElse _ _ opens _ _ switches _ _ ends _ bodyIH otherIH nextIH =>
      exact nextIH ((otherIH ((bodyIH (visited.next opens)).next switches)).next ends)

/-! What a round does, by the kind of instruction at the program counter. -/

theorem Advances.simple {instr : Simple}
    (advances : Advances cx { stack, controls := frame :: outer } pc after pc')
    (decoded : Spec.simpleAt cx.code pc = some (instr, pc')) :
    SimpleChecked cx frame outer instr stack after := by
  obtain ⟨opcode, found, step⟩ := advances
  obtain ⟨instr', decoded', checked⟩ := validateOp_ok (Spec.simpleAt_notBlock found decoded) step
  simp only [Spec.simpleAt, Spec.byte, found, Option.map_some, Option.bind_eq_bind,
    Option.bind_some] at decoded
  cases decoded.symm.trans decoded'
  exact checked

theorem Advances.opened {loops : Bool} {bodyPc : Nat}
    (advances : Advances cx { stack, controls := frame :: outer } pc after bodyPc)
    (found : cx.code[pc]? = some (Spec.blockOpcode loops)) :
    ∃ signature rest,
      Opened cx frame outer (.ofBlock loops) (pc + 1) stack after bodyPc signature rest := by
  obtain ⟨opcode, found', step⟩ := advances
  cases found.symm.trans found'
  cases loops with
  | false => exact validateBlock_ok (by decide) step
  | true => exact validateBlock_ok (by decide) step

theorem Advances.openedIf {bodyPc : Nat}
    (advances : Advances cx { stack, controls := frame :: outer } pc after bodyPc)
    (found : cx.code[pc]? = some 0x04) :
    ∃ signature rest,
      Opened cx frame outer .if (pc + 1) stack after bodyPc signature rest := by
  obtain ⟨opcode, found', step⟩ := advances
  cases found.symm.trans found'
  exact validateIf_ok step

theorem Advances.ended
    (advances : Advances cx { stack, controls := frame :: outer } pc after pc')
    (found : cx.code[pc]? = some 0x0b) :
    (frame.kind = .if → frame.endTypes = [] ∨ frame.seenElse = true) ∧ Finishes frame stack ∧
      pc' = pc + 1 ∧ after.controls = outer ∧
      (frame.kind = .function → pc + 1 = cx.code.length) ∧
      (frame.kind ≠ .function →
        after.stack = frame.endTypes.reverse ++ truncate stack frame.height) := by
  obtain ⟨opcode, found', step⟩ := advances
  cases found.symm.trans found'
  exact validateEnd_ok step

theorem Advances.switched
    (advances : Advances cx { stack, controls := frame :: outer } pc after pc')
    (found : cx.code[pc]? = some 0x05) :
    pc' = pc + 1 ∧ frame.kind = .if ∧ frame.seenElse = false ∧ Finishes frame stack ∧
      after =
        { stack := frame.paramTypes.reverse ++ truncate stack frame.height
          controls := { frame with unreachable := false, seenElse := true } :: outer } := by
  obtain ⟨opcode, found', step⟩ := advances
  cases found.symm.trans found'
  have switched : (transitionToElse cx pc { stack, controls := frame :: outer } >>=
      fun switched => Except.ok (switched, pc + 1)) = .ok (after, pc') := step
  simp only [bind_ok, Except.ok.injEq, Prod.mk.injEq] at switched
  obtain ⟨_, switched, rfl, rfl⟩ := switched
  exact ⟨rfl, transitionToElse_ok switched⟩

/-- Over a sequence the checker keeps its frames, except that it may mark the
innermost one as unreachable. -/
theorem SeqChecked.controls {final : CheckState} {finish : Nat} {instrs : Instrs}
    (checked : SeqChecked cx state pc instrs final finish)
    (controls : state.controls = frame :: outer) :
    ∃ unreachable, final.controls = { frame with unreachable } :: outer := by
  induction checked generalizing frame outer with
  | done => exact ⟨frame.unreachable, controls⟩
  | @simple state _ _ _ _ _ _ _ decoded advances _ ih =>
      obtain ⟨stack, _⟩ := state
      subst controls
      obtain ⟨_, afterControls⟩ := (advances.simple decoded).controls
      have finalControls := ih afterControls
      exact finalControls
  | @block state _ ended _ _ _ _ _ _ _ _ _ _ opcode _ opens _ endByte ends _ bodyIH nextIH =>
      obtain ⟨stack, _⟩ := state
      subst controls
      obtain ⟨signature, rest, opened⟩ := opens.opened opcode
      obtain ⟨_, endControls⟩ := bodyIH (congrArg CheckState.controls opened.inner)
      obtain ⟨endStack, _⟩ := ended
      subst endControls
      exact nextIH (ends.ended endByte).2.2.2.1
  | @ifThen state _ ended _ _ _ _ _ _ _ _ _ opcode _ opens _ endByte ends _ bodyIH nextIH =>
      obtain ⟨stack, _⟩ := state
      subst controls
      obtain ⟨signature, rest, opened⟩ := opens.openedIf opcode
      obtain ⟨_, endControls⟩ := bodyIH (congrArg CheckState.controls opened.inner)
      obtain ⟨endStack, _⟩ := ended
      subst endControls
      exact nextIH (ends.ended endByte).2.2.2.1
  | @ifElse state _ switching _ ended _ _ _ _ _ _ _ _ _ _ _ opcode _ opens _ elseByte switches
      _ endByte ends _ bodyIH otherIH nextIH =>
      obtain ⟨stack, _⟩ := state
      subst controls
      obtain ⟨signature, rest, opened⟩ := opens.openedIf opcode
      obtain ⟨_, switchControls⟩ := bodyIH (congrArg CheckState.controls opened.inner)
      obtain ⟨switchStack, _⟩ := switching
      subst switchControls
      obtain ⟨-, -, -, -, other⟩ := switches.switched elseByte
      obtain ⟨_, endControls⟩ := otherIH (congrArg CheckState.controls other)
      obtain ⟨endStack, _⟩ := ended
      subst endControls
      exact nextIH (ends.ended endByte).2.2.2.1

/-! ## The run of the checker -/

theorem notBlockOpcode {opcode : UInt8} (notBlock : ¬ ∃ loops, opcode = Spec.blockOpcode loops)
    (notIf : opcode ≠ 0x04) (notElse : opcode ≠ 0x05) (notEnd : opcode ≠ 0x0b) :
    opcode.toNat ∉ Spec.blockOpcodes := by
  intro member
  simp only [Spec.blockOpcodes, List.mem_cons, List.not_mem_nil, or_false] at member
  rcases member with same | same | same | same | same
  · exact notBlock ⟨false, UInt8.toNat_inj.mp same⟩
  · exact notBlock ⟨true, UInt8.toNat_inj.mp same⟩
  · exact notIf (UInt8.toNat_inj.mp same)
  · exact notElse (UInt8.toNat_inj.mp same)
  · exact notEnd (UInt8.toNat_inj.mp same)

/-- While frames are open the loop has a round to do. -/
theorem validateFrom_round {rounds : Nat} {last : CheckState} {lastPc : Nat}
    (run : validateFrom cx rounds (state, pc) = .ok (last, lastPc))
    (closed : last.controls = []) (open_ : state.controls = frame :: outer) :
    ∃ left opcode after pc', rounds = left + 1 ∧ cx.code[pc]? = some opcode ∧
      validateOp cx pc (pc + 1) state opcode.toNat = .ok (after, pc') ∧
      validateFrom cx left (after, pc') = .ok (last, lastPc) := by
  have notLast : state ≠ last := by
    rintro rfl
    rw [closed] at open_
    cases open_
  cases rounds with
  | zero =>
      cases run
      exact absurd rfl notLast
  | succ left =>
      unfold validateFrom at run
      split at run
      · cases run
        exact absurd rfl notLast
      · next opcode found =>
          simp only [bind_ok, Prod.exists] at run
          obtain ⟨after, pc', step, rest⟩ := run
          exact ⟨left, opcode, after, pc', rfl, found, step, rest⟩

/-- From any state inside a frame, an accepting run walks over a sequence up to
the terminator of that frame. -/
theorem seqChecked_of_run {rounds : Nat} {last : CheckState} {lastPc : Nat}
    (run : validateFrom cx rounds (state, pc) = .ok (last, lastPc))
    (closed : last.controls = []) (open_ : state.controls = frame :: outer) :
    ∃ instrs ended endPc left, SeqChecked cx state pc instrs ended endPc ∧
      left ≤ rounds ∧ validateFrom cx left (ended, endPc) = .ok (last, lastPc) ∧
      (cx.code[endPc]? = some 0x05 ∨ cx.code[endPc]? = some 0x0b) := by
  induction rounds using Nat.strongRecOn generalizing state pc frame outer with
  | ind rounds ih =>
  obtain ⟨left, opcode, after, pc', rfl, found, step, rest⟩ :=
    validateFrom_round run closed open_
  have advances : Advances cx state pc after pc' := ⟨opcode, found, step⟩
  obtain ⟨stack, _⟩ := state
  subst open_
  -- After an inner block has ended, the walk goes on behind it.
  have onwards {ended : CheckState} {endPc more : Nat} {inner : ControlFrame}
      (controls : ended.controls = inner :: frame :: outer) (fewer : more ≤ left)
      (run : validateFrom cx more (ended, endPc) = .ok (last, lastPc))
      (endByte : cx.code[endPc]? = some 0x0b) :
      ∃ after next finished finish left', Advances cx ended endPc after (endPc + 1) ∧
        SeqChecked cx after (endPc + 1) next finished finish ∧ left' ≤ left + 1 ∧
        validateFrom cx left' (finished, finish) = .ok (last, lastPc) ∧
        (cx.code[finish]? = some 0x05 ∨ cx.code[finish]? = some 0x0b) := by
    obtain ⟨more, opcode, after, pc', rfl, found, step, rest⟩ :=
      validateFrom_round run closed controls
    have ends : Advances cx ended endPc after pc' := ⟨opcode, found, step⟩
    obtain ⟨endStack, _⟩ := ended
    subst controls
    obtain ⟨-, -, rfl, afterControls, -⟩ := ends.ended endByte
    obtain ⟨next, finished, finish, left', checked, fewer', rest, terminator⟩ :=
      ih more (by omega) rest afterControls
    exact ⟨after, next, finished, finish, left', ends, checked, by omega, rest, terminator⟩
  by_cases isElse : opcode = 0x05
  · subst isElse
    exact ⟨.done, _, pc, left + 1, .done, Nat.le_refl _, run, .inl found⟩
  by_cases isEnd : opcode = 0x0b
  · subst isEnd
    exact ⟨.done, _, pc, left + 1, .done, Nat.le_refl _, run, .inr found⟩
  by_cases isBlock : ∃ loops, opcode = Spec.blockOpcode loops
  · obtain ⟨loops, rfl⟩ := isBlock
    obtain ⟨signature, below, opened⟩ := advances.opened found
    have innerControls := congrArg CheckState.controls opened.inner
    obtain ⟨body, ended, endPc, more, bodyChecked, fewer, rest, terminator⟩ :=
      ih left (Nat.lt_succ_self _) rest innerControls
    obtain ⟨_, endControls⟩ := bodyChecked.controls innerControls
    rcases terminator with elseByte | endByte
    · obtain ⟨_, opcode, other, pc', rfl, found, step, -⟩ :=
        validateFrom_round rest closed endControls
      have switches : Advances cx ended endPc other pc' := ⟨opcode, found, step⟩
      obtain ⟨endStack, _⟩ := ended
      subst endControls
      obtain ⟨-, isIf, -⟩ := switches.switched elseByte
      cases loops <;> cases isIf
    · obtain ⟨after, next, finished, finish, left', ends, checked, fewer', rest, terminator⟩ :=
        onwards endControls fewer rest endByte
      exact ⟨_, finished, finish, left',
        .block found opened.decoded advances bodyChecked endByte ends checked, fewer', rest,
        terminator⟩
  by_cases isIf : opcode = 0x04
  · subst isIf
    obtain ⟨signature, below, opened⟩ := advances.openedIf found
    have innerControls := congrArg CheckState.controls opened.inner
    obtain ⟨body, ended, endPc, more, bodyChecked, fewer, rest, terminator⟩ :=
      ih left (Nat.lt_succ_self _) rest innerControls
    obtain ⟨_, endControls⟩ := bodyChecked.controls innerControls
    rcases terminator with elseByte | endByte
    · obtain ⟨more, opcode, other, pc', rfl, elseFound, step, rest⟩ :=
        validateFrom_round rest closed endControls
      have switches : Advances cx ended endPc other pc' := ⟨opcode, elseFound, step⟩
      obtain ⟨endStack, _⟩ := ended
      subst endControls
      obtain ⟨rfl, -, -, -, otherState⟩ := switches.switched elseByte
      have otherControls := congrArg CheckState.controls otherState
      obtain ⟨alternative, otherEnded, otherEnd, most, otherChecked, fewer', rest, terminator⟩ :=
        ih more (by omega) rest otherControls
      obtain ⟨_, otherEndControls⟩ := otherChecked.controls otherControls
      rcases terminator with secondElse | endByte
      · -- A second `else` is refused.
        obtain ⟨_, opcode, third, pc', rfl, found, step, -⟩ :=
          validateFrom_round rest closed otherEndControls
        have switchesAgain : Advances cx otherEnded otherEnd third pc' := ⟨opcode, found, step⟩
        obtain ⟨otherStack, _⟩ := otherEnded
        subst otherEndControls
        obtain ⟨-, -, unseen, -⟩ := switchesAgain.switched secondElse
        cases unseen
      · obtain ⟨after, next, finished, finish, left', ends, checked, fewer'', rest,
          terminator⟩ := onwards otherEndControls (by omega) rest endByte
        exact ⟨_, finished, finish, left',
          .ifElse found opened.decoded advances bodyChecked elseByte switches otherChecked
            endByte ends checked, fewer'', rest, terminator⟩
    · obtain ⟨after, next, finished, finish, left', ends, checked, fewer', rest, terminator⟩ :=
        onwards endControls fewer rest endByte
      exact ⟨_, finished, finish, left',
        .ifThen found opened.decoded advances bodyChecked endByte ends checked, fewer', rest,
        terminator⟩
  · have notBlock := notBlockOpcode isBlock isIf isElse isEnd
    obtain ⟨instr, decoded, checked⟩ := validateOp_ok notBlock step
    obtain ⟨_, afterControls⟩ := checked.controls
    obtain ⟨next, finished, finish, left', nextChecked, fewer, rest, terminator⟩ :=
      ih left (Nat.lt_succ_self _) rest afterControls
    refine ⟨.simple instr next, finished, finish, left', .simple ?_ advances nextChecked,
      by omega, rest, terminator⟩
    simp only [Spec.simpleAt, Spec.byte, found, Option.map_some, Option.bind_eq_bind,
      Option.bind_some, decoded]

/-! ## Bodies -/

/-- The checker's walk over a whole body, with the state before the last `end`. -/
structure BodyChecked (cx : CodeContext) (instrs : Instrs) (ended : CheckState)
    (endPc : Nat) : Prop where
  checked : SeqChecked cx (initialState cx) 0 instrs ended endPc
  endByte : cx.code[endPc]? = some 0x0b
  last : endPc + 1 = cx.code.length
  ends : ∃ after, Advances cx ended endPc after (endPc + 1)

theorem BodyChecked.encodes {instrs : Instrs} {ended : CheckState} {endPc : Nat}
    (body : BodyChecked cx instrs ended endPc) :
    Spec.EncodesBody cx.module.types cx.code instrs endPc :=
  ⟨body.checked.encodes, body.endByte, body.last⟩

theorem bodyChecked_of_validateCode (valid : validateCode cx = .ok ()) :
    ∃ instrs ended endPc, BodyChecked cx instrs ended endPc := by
  unfold validateCode at valid
  rcases ite_cases valid with ⟨-, failed⟩ | ⟨-, checked⟩
  · cases failed
  simp only [bind_ok, Prod.exists] at checked
  obtain ⟨last, lastPc, run, closed⟩ := checked
  rcases ite_cases closed with ⟨-, failed⟩ | ⟨closed, -⟩
  · cases failed
  have closed := Decidable.not_not.mp closed
  obtain ⟨instrs, ended, endPc, left, walked, -, rest, terminator⟩ :=
    seqChecked_of_run run closed rfl
  obtain ⟨_, controls⟩ := walked.controls rfl
  obtain ⟨_, opcode, after, pc', rfl, found, step, -⟩ :=
    validateFrom_round rest closed controls
  have ends : Advances cx ended endPc after pc' := ⟨opcode, found, step⟩
  obtain ⟨stack, _⟩ := ended
  subst controls
  rcases terminator with elseByte | endByte
  · obtain ⟨-, isIf, -⟩ := ends.switched elseByte
    cases isIf
  · obtain ⟨-, -, rfl, -, last, -⟩ := ends.ended endByte
    exact ⟨instrs, _, endPc, walked, endByte, last rfl, after, ends⟩

/-! ## Boundaries -/

/-- The innermost frame after a round: the same block still, an inner one that
was opened, or the enclosing one. -/
inductive NextControls (cx : CodeContext) (frame : ControlFrame) (outer : List ControlFrame)
    (pc' : Nat) : List ControlFrame → Prop where
  | same {next : ControlFrame} :
      next.kind = frame.kind → NextControls cx frame outer pc' (next :: outer)
  | opened {inner : ControlFrame} :
      inner.kind ≠ .function → NextControls cx frame outer pc' (inner :: frame :: outer)
  | ended : (frame.kind = .function → pc' = cx.code.length) → NextControls cx frame outer pc' outer

/-- A round inside a frame ends where the grammar says. -/
theorem Advances.inside
    (advances : Advances cx { stack, controls := frame :: outer } pc after pc') :
    Spec.instrEnd cx.module.types cx.code pc = some pc' ∧
      NextControls cx frame outer pc' after.controls := by
  obtain ⟨opcode, found, step⟩ := id advances
  by_cases isElse : opcode = 0x05
  · subst isElse
    obtain ⟨rfl, -, -, -, rfl⟩ := advances.switched found
    exact ⟨Spec.instrEnd_terminator (.inl found), .same rfl⟩
  by_cases isEnd : opcode = 0x0b
  · subst isEnd
    obtain ⟨-, -, rfl, controls, last, -⟩ := advances.ended found
    exact ⟨Spec.instrEnd_terminator (.inr found), controls ▸ .ended last⟩
  by_cases isBlock : ∃ loops, opcode = Spec.blockOpcode loops
  · obtain ⟨loops, rfl⟩ := isBlock
    obtain ⟨signature, below, opened⟩ := advances.opened found
    refine ⟨Spec.instrEnd_opener found (Spec.blockOpcode_opens _) opened.decoded, ?_⟩
    rw [opened.inner]
    exact .opened (by cases loops <;> simp [openedFrame, ControlKind.ofBlock])
  by_cases isIf : opcode = 0x04
  · subst isIf
    obtain ⟨signature, below, opened⟩ := advances.openedIf found
    refine ⟨Spec.instrEnd_opener found (.inr (.inr rfl)) opened.decoded, ?_⟩
    rw [opened.inner]
    exact .opened (by simp [openedFrame])
  · obtain ⟨instr, decoded, checked⟩ :=
      validateOp_ok (notBlockOpcode isBlock isIf isElse isEnd) step
    obtain ⟨unreachable, controls⟩ := checked.controls
    have decodedAt : Spec.simpleAt cx.code pc = some (instr, pc') := by
      simp only [Spec.simpleAt, Spec.byte, found, Option.map_some, Option.bind_eq_bind,
        Option.bind_some, decoded]
    exact ⟨Spec.instrEnd_simple decodedAt, controls ▸ .same rfl⟩

/-- The outermost frame, and no other, is that of the function. -/
def Rooted (controls : List ControlFrame) : Prop :=
  ∃ inner root, controls = inner ++ [root] ∧ root.kind = .function ∧
    ∀ frame ∈ inner, frame.kind ≠ .function

theorem NextControls.rooted {controls : List ControlFrame}
    (rooted : Rooted (frame :: outer)) (next : NextControls cx frame outer pc' controls) :
    Rooted controls ∨ pc' = cx.code.length := by
  obtain ⟨inner, root, same, isFunction, blocks⟩ := rooted
  cases next with
  | @same next kind =>
      cases inner with
      | nil =>
          cases same
          exact .inl ⟨[], next, rfl, kind.trans isFunction, fun _ member => by cases member⟩
      | cons _ inner =>
          cases same
          refine .inl ⟨next :: inner, root, rfl, isFunction, ?_⟩
          rw [List.forall_mem_cons] at blocks ⊢
          exact ⟨kind ▸ blocks.1, blocks.2⟩
  | @opened opened notFunction =>
      refine .inl ⟨opened :: inner, root, by rw [same]; rfl, isFunction, ?_⟩
      exact List.forall_mem_cons.mpr ⟨notFunction, blocks⟩
  | ended last =>
      cases inner with
      | nil =>
          cases same
          exact .inr (last isFunction)
      | cons _ inner =>
          cases same
          exact .inl ⟨inner, root, rfl, isFunction, (List.forall_mem_cons.mp blocks).2⟩

/-- While there is an opcode to fetch, the function's frame is open. -/
theorem Visited.rooted (visited : Visited cx state pc) :
    Rooted state.controls ∨ pc = cx.code.length := by
  induction visited with
  | start => exact .inl ⟨[], _, rfl, rfl, fun _ member => by cases member⟩
  | @next state after pc pc' opcode _ found step ih =>
      have inside := (List.getElem?_eq_some_iff.mp found).1
      rcases ih with rooted | last
      · obtain ⟨stack, controls⟩ := state
        obtain ⟨frame, outer, rfl⟩ : ∃ frame outer, controls = frame :: outer := by
          obtain ⟨inner, root, rfl, -⟩ := rooted
          cases inner <;> exact ⟨_, _, rfl⟩
        have advances : Advances cx { stack, controls := frame :: outer } pc after pc' :=
          ⟨opcode, found, step⟩
        exact advances.inside.2.rooted rooted
      · omega

/-- Every round of the checker ends where the grammar says. -/
theorem Visited.agrees (visited : Visited cx state pc)
    (advances : Advances cx state pc after pc') :
    Spec.instrEnd cx.module.types cx.code pc = some pc' := by
  obtain ⟨stack, controls⟩ := state
  obtain ⟨opcode, found, -⟩ := id advances
  have inside := (List.getElem?_eq_some_iff.mp found).1
  rcases visited.rooted with ⟨inner, root, same, -⟩ | last
  · dsimp only at same
    subst same
    cases inner with
    | nil => exact advances.inside.1
    | cons => exact advances.inside.1
  · omega

theorem validateFrom_eq_readLoop (rounds : Nat) (current : CheckState × Nat) :
    validateFrom cx rounds current =
      readLoop cx.code (fun pc opcode state => validateOp cx pc (pc + 1) state opcode.toNat)
        rounds current := by
  induction rounds generalizing current with
  | zero => rfl
  | succ rounds ih =>
      unfold validateFrom readLoop
      cases cx.code[current.2]? with
      | none => rfl
      | some opcode =>
          dsimp only
          exact congrArg _ (funext ih)

/-- The checker visits exactly the instruction boundaries of an accepted body. -/
theorem visited_iff_boundary (valid : validateCode cx = .ok ()) :
    (∃ state, Visited cx state pc) ↔ Spec.Boundary cx.module.types cx.code pc := by
  unfold validateCode at valid
  rcases ite_cases valid with ⟨-, failed⟩ | ⟨-, checked⟩
  · cases failed
  simp only [bind_ok, validateFrom_eq_readLoop] at checked
  obtain ⟨last, run, -⟩ := checked
  rw [Spec.boundary_iff]
  exact exists_reaches_iff run
    (fun visited found step => Visited.agrees visited ⟨_, found, step⟩)
    fun ended => ⟨Spec.instrEnd_lt ended, Spec.instrEnd_inside ended⟩

end MiniWasm.Validator
