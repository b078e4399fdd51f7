import MiniWasm.Validator.Typing

/-!
# Bodies that follow the rules of the language

The typing rules of the language also cover code that cannot be reached, from any stack
type.  The checker knows only a part of such a stack.  Where a body follows the rules, what
the checker knows is always the top of what the rules give, and no instruction takes an
operand from below its block.
-/

namespace MiniWasm.Validator

open Library

variable {cx : CodeContext} {pc pc' : Nat}
variable {frame : ControlFrame} {outer : List ControlFrame}
variable {stack : OperandTypes} {state after : CheckState}

/-! ## Known operands -/

/-- The operands that the check knows of, above those of the frames around, are the top ones
of those that the typing rules give, and all of them where the frame can be reached. -/
def Knows (frame : ControlFrame) (lower : List ValueType) (stack : OperandTypes)
    (ins : List ValueType) : Prop :=
  ∃ known more, stack = known ++ lower ∧ ins = known ++ more ∧
    (frame.unreachable = false → more = [])

section Knows

variable {lower ins types rest : List ValueType}

theorem Knows.live (knows : Knows frame lower stack ins) (live : frame.unreachable = false) :
    stack = ins ++ lower := by
  obtain ⟨known, more, rfl, rfl, all⟩ := knows
  rw [all live, List.append_nil]

theorem Knows.push (knows : Knows frame lower stack ins) (types : List ValueType) :
    Knows frame lower (types ++ stack) (types ++ ins) := by
  obtain ⟨known, more, rfl, rfl, all⟩ := knows
  exact ⟨types ++ known, more, (List.append_assoc ..).symm, (List.append_assoc ..).symm, all⟩

theorem Knows.leave (knows : Knows frame lower stack ins) (height : frame.height = lower.length)
    (outs : List ValueType) :
    ∃ stack', markUnreachable { stack, controls := frame :: outer } =
        { stack := stack', controls := { frame with unreachable := true } :: outer } ∧
      Knows { frame with unreachable := true } lower stack' outs := by
  obtain ⟨known, more, rfl, -, -⟩ := knows
  exact ⟨lower, markUnreachable_append height, [], outs, rfl, rfl, fun live => by cases live⟩

theorem Pops.knows (pops : Pops frame types stack rest) (height : frame.height = lower.length)
    (knows : Knows frame lower stack (types ++ ins)) : Knows frame lower rest ins := by
  induction pops with
  | nil => exact knows
  | @bottom type types stack rest polymorphic _ ih =>
      refine ih ?_
      obtain ⟨known, more, rfl, -, -⟩ := knows
      simp only [ControlFrame.polymorphicAt, height, List.length_append, Bool.and_eq_true,
        beq_iff_eq, Nat.add_eq_right, List.length_eq_zero_iff] at polymorphic
      obtain ⟨rfl, isDead⟩ := polymorphic
      exact ⟨[], types ++ ins, rfl, rfl, fun live => by rw [isDead] at live; cases live⟩
  | @top type types stack rest concrete _ ih =>
      refine ih ?_
      obtain ⟨known, more, stackEq, insEq, all⟩ := knows
      cases known with
      | nil =>
          have same : (type :: stack).length = frame.height := by rw [stackEq, height]; rfl
          have live : frame.unreachable = false := by
            simpa [ControlFrame.polymorphicAt, same] using concrete
          rw [all live] at insEq
          cases insEq
      | cons operand known =>
          cases stackEq
          exact ⟨known, more, rfl, (List.cons.inj insEq).2, all⟩

/-- Popping an operand of any type, where the rules give one of a type. -/
theorem PopsAny.knows {type : Option ValueType} {operand : ValueType}
    (pops : PopsAny frame type stack rest) (height : frame.height = lower.length)
    (knows : Knows frame lower stack (operand :: ins)) :
    Knows frame lower rest ins ∧ (type = some operand ∨
      type = none ∧ rest = lower ∧ frame.unreachable = true) := by
  cases pops with
  | bottom polymorphic =>
      have bottom : Pops frame [operand] stack stack := .bottom polymorphic .nil
      refine ⟨bottom.knows height knows, .inr ⟨rfl, ?_⟩⟩
      obtain ⟨known, more, rfl, -, -⟩ := knows
      simp only [ControlFrame.polymorphicAt, height, List.length_append, Bool.and_eq_true,
        beq_iff_eq, Nat.add_eq_right, List.length_eq_zero_iff] at polymorphic
      obtain ⟨rfl, isDead⟩ := polymorphic
      exact ⟨rfl, isDead⟩
  | @top actual _ concrete =>
      obtain ⟨known, more, stackEq, insEq, all⟩ := id knows
      have same : actual = operand := by
        cases known with
        | nil =>
            have same : (actual :: rest).length = frame.height := by rw [stackEq, height]; rfl
            have live : frame.unreachable = false := by
              simpa [ControlFrame.polymorphicAt, same] using concrete
            rw [all live] at insEq
            cases insEq
        | cons first known =>
            cases stackEq
            exact (List.cons.inj insEq).1.symm
      subst same
      have top : Pops frame [actual] (actual :: rest) rest := .top concrete .nil
      exact ⟨top.knows height knows, .inl rfl⟩

/-- An instruction takes operands that the rules give. -/
theorem takes_le {strict : Bool} {labels : List (List ValueType)} {instr : Simple}
    {outs : List ValueType} (typed : Spec.SimpleTyped strict cx.spec labels instr ins outs) :
    cx.takes instr ≤ ins.length := by
  cases typed with
  | plain plainTyped =>
      rw [List.length_append]
      cases plainTyped with
      | drop | select => exact Nat.le_add_right ..
      | fixed found =>
          rw [CodeContext.takes, found]
          exact Nat.le_add_right ..
  | unreachable | br | «return» => exact Nat.zero_le _
  | brIf | brTable => exact Nat.succ_le_succ (Nat.zero_le _)
  | call found | returnCall found =>
      have found : cx.module.functionType _ = some _ := found
      simp [CodeContext.takes, found]
  | callIndirect _ found | returnCallIndirect _ found =>
      have found : cx.module.types[_]? = some _ := found
      simp only [CodeContext.takes, found, Option.map_some, Option.getD_some, List.length_append,
        List.length_cons, List.length_reverse]
      omega

/-- What the check knows behind an instruction to which the rules give the results `outs`. -/
def KnowsAfter (frame : ControlFrame) (outer : List ControlFrame) (lower : List ValueType)
    (instr : Simple) (after : CheckState) (outs : List ValueType) : Prop :=
  ∃ stack', after =
      { stack := stack'
        controls := { frame with unreachable := frame.unreachable || instr.leaves } :: outer } ∧
    Knows { frame with unreachable := frame.unreachable || instr.leaves } lower stack' outs

theorem Knows.stays {instr : Simple} (knows : Knows frame lower stack ins)
    (stays : instr.leaves = false) :
    KnowsAfter frame outer lower instr { stack, controls := frame :: outer } ins := by
  rw [KnowsAfter, stays, Bool.or_false]
  exact ⟨stack, rfl, knows⟩

theorem Knows.leaves {instr : Simple} {outs : List ValueType} (knows : Knows frame lower stack ins)
    (height : frame.height = lower.length) (leaves : instr.leaves = true) :
    KnowsAfter frame outer lower instr (markUnreachable { stack, controls := frame :: outer })
      outs := by
  rw [KnowsAfter, leaves, Bool.or_true]
  exact knows.leave height outs

/-- The check of an instruction that follows the rules. -/
theorem SimpleChecked.knows {labels : List (List ValueType)} {instr : Simple}
    {outs : List ValueType} (checked : SimpleChecked cx frame outer instr stack after)
    (typed : Spec.SimpleTyped true cx.spec labels instr ins outs)
    (height : frame.height = lower.length) (knows : Knows frame lower stack ins) :
    KnowsAfter frame outer lower instr after outs := by
  cases checked with
  | @effect instr signature _ rest found pops =>
      cases typed with
      | plain plainTyped =>
          cases plainTyped with
          | drop | select => cases found
          | fixed same =>
              cases found.symm.trans same
              exact ((pops.knows height knows).push _).stays rfl
  | @localTee index type _ rest found pops =>
      have signature : Spec.plainSignature cx.spec (.localTee index) = some ⟨[type], [type]⟩ := by
        rw [Spec.plainSignature, CodeContext.spec_locals, found]
        rfl
      cases typed with
      | plain plainTyped =>
          cases plainTyped with
          | fixed same =>
              cases signature.symm.trans same
              exact knows.stays rfl
  | drop pops =>
      cases typed with
      | plain plainTyped =>
          cases plainTyped with
          | drop => exact (pops.knows height knows).1.stays rfl
          | fixed same => cases same
  | @select first second _ selecting middle rest condition secondPops firstPops agree =>
      cases typed with
      | plain plainTyped =>
          cases plainTyped with
          | fixed same => cases same
          | select type =>
              have selecting := condition.knows height knows
              obtain ⟨middle, right⟩ := secondPops.knows height selecting
              obtain ⟨rest, left⟩ := firstPops.knows height middle
              refine Knows.stays ?_ rfl
              rcases left with rfl | ⟨rfl, atBottom, isDead⟩
              · exact rest.push [type]
              rcases right with rfl | ⟨rfl, -, -⟩
              · exact rest.push [type]
              · exact ⟨[], _, atBottom, rfl, fun live => by rw [isDead] at live; cases live⟩
  | unreachable => exact knows.leaves height rfl
  | br found ready => exact knows.leaves height rfl
  | brIf pops found ready =>
      cases typed with
      | brIf => exact (pops.knows height knows).stays rfl
  | brTable found pops ready =>
      cases typed with
      | brTable => exact (pops.knows height knows).leaves height rfl
  | «return» found ready => exact knows.leaves height rfl
  | call found pops =>
      cases typed with
      | call same =>
          cases found.symm.trans same
          exact ((pops.knows height knows).push _).stays rfl
  | callIndirect inside found pops =>
      cases typed with
      | callIndirect _ same =>
          cases found.symm.trans same
          exact ((pops.knows height knows).push _).stays rfl
  | returnCall found results pops =>
      cases typed with
      | returnCall same =>
          cases found.symm.trans same
          exact (pops.knows height knows).leaves height rfl
  | returnCallIndirect inside found results pops =>
      cases typed with
      | returnCallIndirect _ same =>
          cases found.symm.trans same
          exact (pops.knows height knows).leaves height rfl

end Knows

/-! ## Rounds on the way -/

/-- Any number of rounds of the check. -/
def Rounds (cx : CodeContext) : CheckState × Nat → CheckState × Nat → Prop :=
  Relation.ReflTransGen fun before after => Advances cx before.1 before.2 after.1 after.2

/-- No round up to a state takes an operand from below its block. -/
def AboveUntil (cx : CodeContext) (start goal : CheckState × Nat) : Prop :=
  ∀ last, Rounds cx start last → AboveAt cx last.1 last.2 ∨ Rounds cx goal last

theorem Visited.rounds (visited : Visited cx state pc) :
    Rounds cx (initialState cx, 0) (state, pc) := by
  induction visited with
  | start => exact .refl
  | next _ found step ih => exact ih.tail ⟨_, found, step⟩

theorem AboveUntil.refl (current : CheckState × Nat) : AboveUntil cx current current :=
  fun _ rounds => .inr rounds

theorem AboveUntil.trans {first second third : CheckState × Nat}
    (before : AboveUntil cx first second) (behind : AboveUntil cx second third) :
    AboveUntil cx first third := by
  intro last rounds
  rcases before last rounds with above | rounds
  · exact .inl above
  · exact behind last rounds

/-- A round has one outcome. -/
theorem AboveUntil.round (advances : Advances cx state pc after pc')
    (above : AboveAt cx state pc) : AboveUntil cx (state, pc) (after, pc') := by
  intro last rounds
  rcases Relation.ReflTransGen.cases_head rounds with rfl | ⟨⟨other, otherPc⟩, step, rest⟩
  · exact .inl above
  · obtain ⟨opcode, found, step⟩ := step
    obtain ⟨opcode', found', step'⟩ := advances
    cases found.symm.trans found'
    cases step.symm.trans step'
    exact .inr rest

section Walks

variable {lower ins outs : List ValueType} {instrs : Instrs} {final : CheckState} {finish : Nat}
variable {labels : List (List ValueType)}

theorem Knows.aboveAt (knows : Knows frame lower state.stack ins)
    (controls : state.controls = frame :: outer) (height : frame.height = lower.length)
    (enough : cx.operandsAt pc ≤ ins.length) : AboveAt cx state pc := by
  intro other others same live
  cases controls.symm.trans same
  rw [knows.live live, height, List.length_append]
  omega

theorem Knows.all (frame : ControlFrame) (ins lower : List ValueType) :
    Knows frame lower (ins ++ lower) ins :=
  ⟨ins, [], rfl, (List.append_nil _).symm, fun _ => rfl⟩

/-- A block ends with its results in the place of its operands. -/
theorem Knows.ended {kind : ControlKind} {signature : BlockSignature}
    {rest : OperandTypes} {unreachable seenElse : Bool} {ended : CheckState} {endPc : Nat}
    (knows : Knows { openedFrame kind signature rest.length with unreachable, seenElse } rest
      ended.stack outs)
    (notFunction : kind ≠ .function)
    (controls : ended.controls =
      { openedFrame kind signature rest.length with unreachable, seenElse } :: outer)
    (endByte : cx.code[endPc]? = some 0x0b)
    (ends : Advances cx ended endPc after (endPc + 1)) :
    AboveAt cx ended endPc ∧
      after = { stack := signature.results.reverse ++ rest, controls := outer } := by
  refine ⟨knows.aboveAt controls rfl (operandsAt_terminator (.inr endByte) ▸ Nat.zero_le _), ?_⟩
  obtain ⟨stack, _⟩ := ended
  subst controls
  obtain ⟨-, -, -, controls, -, stackEq⟩ := ends.ended endByte
  have stackEq := stackEq notFunction
  obtain ⟨known, more, rfl, -, -⟩ := knows
  have below : truncate (known ++ rest) rest.length = rest := truncate_append ..
  obtain ⟨_, _⟩ := after
  rw [CheckState.mk.injEq]
  exact ⟨stackEq.trans (congrArg _ below), controls⟩

theorem Knows.switched {signature : BlockSignature} {rest : OperandTypes} {unreachable : Bool}
    {switching : CheckState} {elsePc : Nat}
    (knows : Knows { openedFrame .if signature rest.length with unreachable } rest
      switching.stack outs)
    (controls : switching.controls =
      { openedFrame .if signature rest.length with unreachable } :: outer)
    (elseByte : cx.code[elsePc]? = some 0x05)
    (switches : Advances cx switching elsePc after (elsePc + 1)) :
    AboveAt cx switching elsePc ∧ after =
      { stack := signature.params.reverse ++ rest
        controls := { openedFrame .if signature rest.length with seenElse := true } :: outer } := by
  refine ⟨knows.aboveAt controls rfl (operandsAt_terminator (.inl elseByte) ▸ Nat.zero_le _), ?_⟩
  obtain ⟨stack, _⟩ := switching
  subst controls
  obtain ⟨-, -, -, -, afterEq⟩ := switches.switched elseByte
  obtain ⟨known, more, rfl, -, -⟩ := knows
  have below : truncate (known ++ rest) rest.length = rest := truncate_append ..
  rw [afterEq, CheckState.mk.injEq]
  exact ⟨congrArg _ below, rfl⟩

/-- The check of a sequence that follows the rules. -/
theorem SeqChecked.above (checked : SeqChecked cx state pc instrs final finish)
    (typed : Spec.SeqTyped true cx.spec labels instrs ins outs)
    (controls : state.controls = frame :: outer) (height : frame.height = lower.length)
    (knows : Knows frame lower state.stack ins) :
    AboveUntil cx (state, pc) (final, finish) ∧ ∃ unreachable,
      final.controls = { frame with unreachable } :: outer ∧
      Knows { frame with unreachable } lower final.stack outs := by
  induction checked generalizing frame outer labels lower ins outs with
  | done =>
      cases typed
      exact ⟨.refl _, frame.unreachable, controls, knows⟩
  | @simple state after final pc pc' finish instr next decoded advances _ ih =>
      cases typed with
      | simple instrTyped nextTyped =>
          have here : AboveAt cx state pc :=
            knows.aboveAt controls height (operandsAt_simple decoded ▸ takes_le instrTyped)
          obtain ⟨stack, _⟩ := state
          subst controls
          obtain ⟨stack', rfl, afterKnows⟩ :=
            (advances.simple decoded).knows instrTyped height knows
          obtain ⟨untilFinal, kept⟩ := ih (nextTyped (.inl rfl)) rfl height afterKnows
          exact ⟨(AboveUntil.round advances here).trans untilFinal, kept⟩
  | @block state inner ended after final pc bodyPc endPc finish loops signature body next opcode
      decoded opens bodyChecked endByte ends _ bodyIH nextIH =>
      cases typed with
      | block bodyTyped nextTyped =>
          have here : AboveAt cx state pc := knows.aboveAt controls height (by
            rw [operandsAt_block opcode decoded, List.length_append, List.length_reverse]
            exact Nat.le_add_right ..)
          obtain ⟨stack, _⟩ := state
          subst controls
          obtain ⟨signature, rest, opened⟩ := opens.opened opcode
          cases decoded.symm.trans opened.decoded
          obtain ⟨-, popped, rfl⟩ := opened
          have operands : openerOperands (.ofBlock loops) signature = signature.params.reverse := by
            cases loops <;> rfl
          rw [operands] at popped
          have below := popped.knows height knows
          obtain ⟨untilEnd, _, endControls, endKnows⟩ :=
            bodyIH bodyTyped rfl rfl (.all ..)
          obtain ⟨atEnd, rfl⟩ := endKnows.ended (by cases loops <;> decide) endControls endByte ends
          obtain ⟨untilFinal, kept⟩ := nextIH nextTyped rfl height (below.push _)
          exact ⟨(((AboveUntil.round opens here).trans untilEnd).trans (.round ends atEnd)).trans
            untilFinal, kept⟩
  | @ifThen state inner ended after final pc bodyPc endPc finish signature body next opcode
      decoded opens bodyChecked endByte ends _ bodyIH nextIH =>
      cases typed with
      | ifThen _ _ bodyTyped nextTyped =>
          have here : AboveAt cx state pc := knows.aboveAt controls height (by
            rw [operandsAt_if opcode decoded, List.length_append, List.length_cons,
              List.length_reverse]
            exact Nat.le_add_right ..)
          obtain ⟨stack, _⟩ := state
          subst controls
          obtain ⟨signature, rest, opened⟩ := opens.openedIf opcode
          cases decoded.symm.trans opened.decoded
          obtain ⟨-, popped, rfl⟩ := opened
          have below := popped.knows height knows
          obtain ⟨untilEnd, _, endControls, endKnows⟩ :=
            bodyIH bodyTyped rfl rfl (.all ..)
          obtain ⟨atEnd, rfl⟩ := endKnows.ended (by decide) endControls endByte ends
          obtain ⟨untilFinal, kept⟩ := nextIH nextTyped rfl height (below.push _)
          exact ⟨(((AboveUntil.round opens here).trans untilEnd).trans (.round ends atEnd)).trans
            untilFinal, kept⟩
  | @ifElse state inner switching other ended after final pc bodyPc elsePc endPc finish signature
      body alternative next opcode decoded opens bodyChecked elseByte switches otherChecked endByte
      ends _ bodyIH otherIH nextIH =>
      cases typed with
      | ifElse bodyTyped otherTyped nextTyped =>
          have here : AboveAt cx state pc := knows.aboveAt controls height (by
            rw [operandsAt_if opcode decoded, List.length_append, List.length_cons,
              List.length_reverse]
            exact Nat.le_add_right ..)
          obtain ⟨stack, _⟩ := state
          subst controls
          obtain ⟨signature, rest, opened⟩ := opens.openedIf opcode
          cases decoded.symm.trans opened.decoded
          obtain ⟨-, popped, rfl⟩ := opened
          have below := popped.knows height knows
          obtain ⟨untilElse, _, elseControls, elseKnows⟩ :=
            bodyIH bodyTyped rfl rfl (.all ..)
          obtain ⟨atElse, rfl⟩ := elseKnows.switched elseControls elseByte switches
          obtain ⟨untilEnd, _, endControls, endKnows⟩ :=
            otherIH otherTyped rfl rfl (.all ..)
          have notFunction : ControlKind.if ≠ .function := by decide
          obtain ⟨atEnd, rfl⟩ := endKnows.ended notFunction endControls endByte ends
          obtain ⟨untilFinal, kept⟩ := nextIH nextTyped rfl height (below.push _)
          exact ⟨(((((AboveUntil.round opens here).trans untilElse).trans
            (.round switches atElse)).trans untilEnd).trans (.round ends atEnd)).trans
            untilFinal, kept⟩

end Walks

/-- The check of a body that follows the rules of the language stays above. -/
theorem BodyChecked.staysAbove {instrs : Instrs} {ended : CheckState} {endPc : Nat}
    (body : BodyChecked cx instrs ended endPc) (typed : Spec.BodyTyped true cx.spec instrs) :
    StaysAbove cx := by
  obtain ⟨untilEnd, _, controls, knows⟩ :=
    body.checked.above typed rfl rfl ⟨[], [], rfl, rfl, fun _ => rfl⟩
  obtain ⟨last, ends⟩ := body.ends
  have atEnd : AboveAt cx ended endPc :=
    knows.aboveAt controls rfl (operandsAt_terminator (.inr body.endByte) ▸ Nat.zero_le _)
  have closed : last.controls = [] := by
    obtain ⟨stack, _⟩ := ended
    subst controls
    exact (ends.ended body.endByte).2.2.2.1
  intro state pc visited
  rcases untilEnd.trans (.round ends atEnd) (state, pc) visited.rounds with above | rounds
  · exact above
  -- Behind the body there is nothing to check.
  rcases Relation.ReflTransGen.cases_head rounds with same | ⟨_, ⟨opcode, found, -⟩, -⟩
  · cases same
    intro frame outer controls
    rw [closed] at controls
    cases controls
  · rw [body.last, List.getElem?_eq_none (Nat.le_refl _)] at found
    cases found

/-- What acceptance means for types.  Where no round of the check takes an operand from below
its block, the bodies of an accepted module are typed as the interpreter needs them; and no
round does where the bodies follow the rules of the language. -/
theorem accepted_bodies_typed {module : Module} (accepted : Accepted module) :
    (BodiesStayAbove module → BodiesTyped false module) ∧
      (BodiesTyped true module → BodiesStayAbove module) := by
  refine ⟨accepted.bodiesTyped, fun typed defined type body function => ?_⟩
  obtain ⟨instrs, endPc, encoded, bodyTyped⟩ := typed defined type body function
  obtain ⟨instrs', ended, endPc', checked⟩ := accepted.bodyChecked function
  obtain ⟨rfl, rfl⟩ := encoded.encodes.unique (.inr encoded.endByte) checked.encodes.encodes
    (.inr checked.encodes.endByte)
  exact checked.staysAbove bodyTyped

/-! A module whose exported function adds to the result of another, in a block. -/

def sevens : Module where
  types := [{ params := [], results := [.i32] }]
  functionTypeIndices := [0, 0]
  exports := [{ name := "seven", kind := .function, index := 0 }]
  code := [{ locals := [], code := [0x02, 0x7f, 0x10, 0x01, 0x41, 0x03, 0x6a, 0x0b, 0x0b] },
    { locals := [], code := [0x41, 0x04, 0x0b] }]

/-- `i32.const` and `i32.add`. -/
theorem sevens_simpleTyped (strict : Bool) (cx : Spec.Context) (labels : List (List ValueType)) :
    (∀ value rest, Spec.SimpleTyped strict cx labels (.plain (.i32Const value)) rest
      (.i32 :: rest)) ∧
    Spec.SimpleTyped strict cx labels (.plain (.numeric 0x6a)) [.i32, .i32] [.i32] :=
  ⟨fun _ rest => @Spec.SimpleTyped.plain strict cx labels _ ⟨[], [.i32]⟩ rest (.fixed rfl),
    @Spec.SimpleTyped.plain strict cx labels _ ⟨[.i32, .i32], [.i32]⟩ [] (.fixed rfl)⟩

theorem sevens_bodiesTyped (strict : Bool) : BodiesTyped strict sevens := by
  rintro defined type body ⟨⟨typeIndex, indexFound, listed⟩, bodyFound⟩
  have typeIndexZero : typeIndex = 0 := by
    rcases List.mem_pair.mp (List.mem_of_getElem? indexFound) with rfl | rfl <;> rfl
  subst typeIndexZero
  obtain rfl := List.mem_singleton.mp (List.mem_of_getElem? listed)
  rcases List.mem_pair.mp (List.mem_of_getElem? bodyFound) with rfl | rfl
  · refine ⟨.block false ⟨[], [.i32]⟩ (.simple (.call 1) (.simple (.plain (.i32Const 3))
      (.simple (.plain (.numeric 0x6a)) .done))) .done, 8,
      ⟨.block rfl rfl (.simple rfl (.simple rfl (.simple rfl .done))) rfl .done, rfl, rfl⟩, ?_⟩
    have call (cx : Spec.Context) (labels : List (List ValueType))
        (found : cx.module.functionType 1 = some ⟨[], [.i32]⟩) :
        Spec.SimpleTyped strict cx labels (.call 1) [] [.i32] :=
      @Spec.SimpleTyped.call strict cx labels 1 ⟨[], [.i32]⟩ [] found
    exact @Spec.SeqTyped.block strict _ _ false ⟨[], [.i32]⟩ _ .done [] _
      (.simple (call _ _ rfl) fun _ => .simple ((sevens_simpleTyped strict _ _).1 3 [.i32])
        fun _ => .simple (sevens_simpleTyped strict _ _).2 fun _ => .done) .done
  · refine ⟨.simple (.plain (.i32Const 4)) .done, 2, ⟨.simple rfl .done, rfl, rfl⟩, ?_⟩
    exact .simple ((sevens_simpleTyped strict _ _).1 4 []) fun _ => .done

theorem accepted_bodies_typed_sevens : BodiesStayAbove sevens ∧ BodiesTyped false sevens := by
  have accepted : Accepted sevens := accepted_of_validate rfl
  have above := (accepted_bodies_typed accepted).2 (sevens_bodiesTyped true)
  exact ⟨above, (accepted_bodies_typed accepted).1 above⟩

end MiniWasm.Validator
