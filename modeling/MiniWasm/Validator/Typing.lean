import MiniWasm.Validator.Bodies

/-!
# What acceptance means for types

Below the operands of the innermost block the checker keeps those of the blocks around
it, and nothing stops an instruction from popping them.  An accepted body whose
instructions never do follows the typing rules that the interpreter relies on.
-/

namespace MiniWasm.Validator

open Library

variable {cx : CodeContext} {offset pc pc' : Nat}
variable {frame : ControlFrame} {outer : List ControlFrame}
variable {stack : OperandTypes} {state after : CheckState}

/-- Every body of the module follows the typing rules, of either strength. -/
def BodiesTyped (strict : Bool) (module : Module) : Prop :=
  ∀ defined type body, Defined module defined type body →
    ∃ instrs endPc, Spec.EncodesBody module.types body.code instrs endPc ∧
      Spec.BodyTyped strict (bodyContext module defined type body).spec instrs

/-! ## Operands of a round -/

/-- How many operands an instruction takes off the stack. -/
def CodeContext.takes (cx : CodeContext) : Simple → Nat
  | .plain instr =>
      match Spec.plainSignature cx.spec instr with
      | some signature => signature.ins.length
      | none => if instr = .select then 3 else 1
  | .brIf _ | .brTable _ _ => 1
  | .call function | .returnCall function =>
      ((cx.module.functionType function).map fun type => type.params.length).getD 0
  | .callIndirect typeIndex _ | .returnCallIndirect typeIndex _ =>
      (cx.module.types[typeIndex]?.map fun type => type.params.length).getD 0 + 1
  | .unreachable | .br _ | .return => 0

/-- How many operands a round at the position takes. -/
def CodeContext.operandsAt (cx : CodeContext) (pc : Nat) : Nat :=
  match cx.code[pc]? with
  | none => 0
  | some opcode =>
      if opcode = 0x02 ∨ opcode = 0x03 ∨ opcode = 0x04 then
        match Spec.blockType cx.code cx.module.types (pc + 1) with
        | none => 0
        | some (signature, _) =>
            (openerOperands (if opcode = 0x04 then .if else .block) signature).length
      else
        match Spec.simpleAt cx.code pc with
        | none => 0
        | some (instr, _) => cx.takes instr

/-- A round in a frame that is not marked as unreachable takes only operands that the frame
has above those of the frames around it. -/
def AboveAt (cx : CodeContext) (state : CheckState) (pc : Nat) : Prop :=
  ∀ frame outer, state.controls = frame :: outer → frame.unreachable = false →
    frame.height + cx.operandsAt pc ≤ state.stack.length

/-- No round of the check takes an operand from below its block. -/
def StaysAbove (cx : CodeContext) : Prop :=
  ∀ state pc, Visited cx state pc → AboveAt cx state pc

/-- The same of every body of the module. -/
def BodiesStayAbove (module : Module) : Prop :=
  ∀ defined type body, Defined module defined type body →
    StaysAbove (bodyContext module defined type body)

theorem operandsAt_simple {instr : Simple}
    (decoded : Spec.simpleAt cx.code pc = some (instr, pc')) :
    cx.operandsAt pc = cx.takes instr := by
  obtain ⟨opcode, found, notBlock, -⟩ := Spec.simpleAt_opcode decoded
  have notOpener : ¬ (opcode = 0x02 ∨ opcode = 0x03 ∨ opcode = 0x04) := by
    rintro (rfl | rfl | rfl) <;> exact notBlock (by decide)
  rw [CodeContext.operandsAt, found]
  dsimp only
  rw [if_neg notOpener, decoded]

theorem operandsAt_block {loops : Bool} {signature : BlockSignature}
    (found : cx.code[pc]? = some (Spec.blockOpcode loops))
    (decoded : Spec.blockType cx.code cx.module.types (pc + 1) = some (signature, pc')) :
    cx.operandsAt pc = signature.params.length := by
  rw [CodeContext.operandsAt, found]
  dsimp only
  rw [decoded]
  cases loops <;> simp [openerOperands, Spec.blockOpcode]

theorem operandsAt_if {signature : BlockSignature} (found : cx.code[pc]? = some 0x04)
    (decoded : Spec.blockType cx.code cx.module.types (pc + 1) = some (signature, pc')) :
    cx.operandsAt pc = signature.params.length + 1 := by
  rw [CodeContext.operandsAt, found]
  dsimp only
  rw [decoded]
  simp [openerOperands]

theorem operandsAt_terminator (terminator : Spec.Terminator cx.code pc) :
    cx.operandsAt pc = 0 := by
  have undecoded : Spec.simpleAt cx.code pc = none := by
    cases decoded : Spec.simpleAt cx.code pc with
    | none => rfl
    | some result => exact (Spec.simpleAt_notTerminator terminator decoded).elim
  rw [CodeContext.operandsAt, undecoded]
  rcases terminator with found | found <;> rw [found] <;> rfl

/-! ## Popping -/

section Popping

variable {types upper lower rest : List ValueType}

theorem polymorphicAt_live (live : frame.unreachable = false) :
    frame.polymorphicAt stack = false := by
  rw [ControlFrame.polymorphicAt, live, Bool.and_false]

theorem Pops.live (pops : Pops frame types stack rest) (live : frame.unreachable = false) :
    stack = types ++ rest := by
  induction pops with
  | nil => rfl
  | bottom polymorphic =>
      rw [polymorphicAt_live live] at polymorphic
      cases polymorphic
  | top _ _ ih => rw [ih, List.cons_append]

/-- What a pop leaves of the operands above the frame's height. -/
theorem Pops.keeps (pops : Pops frame types (upper ++ lower) rest)
    (height : frame.height = lower.length)
    (enough : frame.unreachable = false → types.length ≤ upper.length) :
    ∃ upper', rest = upper' ++ lower ∧ (frame.unreachable = false → upper = types ++ upper') := by
  cases isLive : frame.unreachable with
  | false =>
      have split := pops.live isLive
      rcases List.append_eq_append_iff.mp split with ⟨more, rfl, rfl⟩ | ⟨more, rfl, rfl⟩
      · have none : more = [] := by
          have := enough isLive
          rw [List.length_append] at this
          exact List.length_eq_zero_iff.mp (by omega)
        subst none
        exact ⟨[], rfl, fun _ => by rw [List.append_nil, List.append_nil]⟩
      · exact ⟨more, rfl, fun _ => rfl⟩
  | true =>
      suffices ∃ upper', rest = upper' ++ lower from
        this.imp fun _ split => ⟨split, fun isDead => by cases isDead⟩
      clear enough
      generalize stackEq : upper ++ lower = stack at pops
      induction pops generalizing upper with
      | nil => exact ⟨upper, stackEq.symm⟩
      | bottom _ _ ih => exact ih stackEq
      | top concrete _ ih =>
          cases upper with
          | nil =>
              subst stackEq
              simp [ControlFrame.polymorphicAt, height, isLive] at concrete
          | cons operand upper =>
              cases stackEq
              exact ih rfl

theorem PopsAny.pops {type : Option ValueType} (pops : PopsAny frame type stack rest) :
    ∃ operand, Pops frame [operand] stack rest ∧
      (frame.unreachable = false → type = some operand) := by
  cases pops with
  | bottom polymorphic =>
      refine ⟨.i32, .bottom polymorphic .nil, fun live => ?_⟩
      rw [polymorphicAt_live live] at polymorphic
      cases polymorphic
  | top concrete => exact ⟨_, .top concrete .nil, fun _ => rfl⟩

theorem LabelReady.live {labelTypes : List ValueType}
    (ready : LabelReady frame (upper ++ lower) labelTypes) (height : frame.height = lower.length)
    (live : frame.unreachable = false) : ∃ more, upper = labelTypes.reverse ++ more := by
  rcases ready with polymorphic | ⟨enough, same⟩
  · rw [polymorphicAt_live live] at polymorphic
    cases polymorphic
  · rw [height, List.length_append, Nat.add_sub_cancel] at enough
    rw [List.take_append_of_le_length enough] at same
    exact ⟨upper.drop labelTypes.length, by rw [← same, List.take_append_drop]⟩

end Popping

/-! ## One instruction -/

/-- The operands that the labels take, innermost first and top first. -/
def labelsOf (controls : List ControlFrame) : List (List ValueType) :=
  controls.map fun frame => frame.labelTypes.reverse

theorem labelsOf_getElem? {controls : List ControlFrame} {depth : Nat} {target : ControlFrame}
    (found : controls[depth]? = some target) :
    (labelsOf controls)[depth]? = some target.labelTypes.reverse := by
  rw [labelsOf, List.getElem?_map, found]
  rfl

/-- The frame of the function is the last one. -/
def RootLabel (cx : CodeContext) (controls : List ControlFrame) : Prop :=
  (labelsOf controls).getLast? = some cx.functionResults.reverse

section Simple

variable {upper lower : List ValueType} {instr : Simple}

theorem markUnreachable_append (height : frame.height = lower.length) :
    markUnreachable { stack := upper ++ lower, controls := frame :: outer } =
      { stack := lower, controls := { frame with unreachable := true } :: outer } := by
  rw [markUnreachable]
  dsimp only
  rw [height, truncate_append]

/-- What an instruction leaves above the frame's height, and its typing where the frame can be
reached. -/
structure SimpleTypes (cx : CodeContext) (frame : ControlFrame) (outer : List ControlFrame)
    (instr : Simple) (upper lower : List ValueType) (after : CheckState)
    (upper' : List ValueType) : Prop where
  after : after =
    { stack := upper' ++ lower
      controls := { frame with unreachable := frame.unreachable || instr.leaves } :: outer }
  typed : frame.unreachable = false → ∀ middle, (instr.leaves = false → middle = upper') →
    Spec.SimpleTyped false cx.spec (labelsOf (frame :: outer)) instr upper middle

/-- An instruction behind which the check goes on. -/
theorem SimpleTypes.stays {upper' : List ValueType} (stays : instr.leaves = false)
    (typed : frame.unreachable = false →
      Spec.SimpleTyped false cx.spec (labelsOf (frame :: outer)) instr upper upper') :
    SimpleTypes cx frame outer instr upper lower
      { stack := upper' ++ lower, controls := frame :: outer } upper' where
  after := by rw [stays, Bool.or_false]
  typed live middle same := same stays ▸ typed live

/-- An instruction that control leaves. -/
theorem SimpleTypes.leaves (leaves : instr.leaves = true) (height : frame.height = lower.length)
    (kept : List ValueType)
    (typed : frame.unreachable = false → ∀ middle,
      Spec.SimpleTyped false cx.spec (labelsOf (frame :: outer)) instr upper middle) :
    SimpleTypes cx frame outer instr upper lower
      (markUnreachable { stack := kept ++ lower, controls := frame :: outer }) [] where
  after := by rw [markUnreachable_append height, leaves, Bool.or_true, List.nil_append]
  typed live middle _ := typed live middle

/-- The checker's step for an instruction follows the typing rules. -/
theorem SimpleChecked.typed
    (checked : SimpleChecked cx frame outer instr (upper ++ lower) after)
    (height : frame.height = lower.length)
    (enough : frame.unreachable = false → cx.takes instr ≤ upper.length)
    (root : RootLabel cx (frame :: outer)) :
    ∃ upper', SimpleTypes cx frame outer instr upper lower after upper' := by
  generalize stackEq : upper ++ lower = stack at checked
  cases checked with
  | @effect instr signature _ rest found pops =>
      subst stackEq
      rw [CodeContext.takes, found] at enough
      obtain ⟨upper', rfl, live⟩ := pops.keeps height enough
      refine ⟨signature.outs ++ upper', ?_⟩
      rw [← List.append_assoc]
      refine .stays rfl fun isLive => ?_
      rw [live isLive]
      exact .plain (.fixed found)
  | @localTee index type _ rest found pops =>
      subst stackEq
      have signature : Spec.plainSignature cx.spec (.localTee index) = some ⟨[type], [type]⟩ := by
        rw [Spec.plainSignature, CodeContext.spec_locals, found]
        rfl
      rw [CodeContext.takes, signature] at enough
      obtain ⟨upper', rfl, live⟩ := pops.keeps height enough
      refine ⟨upper, .stays rfl fun isLive => ?_⟩
      rw [live isLive]
      exact @Spec.SimpleTyped.plain _ _ _ _ ⟨[type], [type]⟩ upper' (.fixed signature)
  | drop pops =>
      subst stackEq
      obtain ⟨operand, pops, -⟩ := pops.pops
      obtain ⟨upper', rfl, live⟩ := pops.keeps height enough
      refine ⟨upper', .stays rfl fun isLive => ?_⟩
      rw [live isLive]
      exact @Spec.SimpleTyped.plain _ _ _ _ ⟨[operand], []⟩ upper' (.drop operand)
  | @select first second _ selecting middle rest condition secondPops firstPops agree =>
      subst stackEq
      obtain ⟨right, rightPops, isRight⟩ := secondPops.pops
      obtain ⟨left, leftPops, isLeft⟩ := firstPops.pops
      have pops := (condition.append rightPops).append leftPops
      obtain ⟨upper', rfl, live⟩ := pops.keeps height enough
      refine ⟨(first.or second).toList ++ upper', ?_⟩
      rw [← List.append_assoc]
      refine .stays rfl fun isLive => ?_
      have same := agree left right (isLeft isLive) (isRight isLive)
      rw [live isLive, isLeft isLive, same]
      exact @Spec.SimpleTyped.plain _ _ _ _ ⟨[.i32, right, right], [right]⟩ upper'
        (.select right fun strict => by cases strict)
  | unreachable =>
      subst stackEq
      exact ⟨[], .leaves rfl height _ fun _ _ => .unreachable⟩
  | br found ready =>
      subst stackEq
      refine ⟨[], .leaves rfl height _ fun isLive middle => ?_⟩
      obtain ⟨more, rfl⟩ := ready.live height isLive
      exact .br (labelsOf_getElem? found)
  | brIf pops found ready =>
      subst stackEq
      obtain ⟨upper', rfl, live⟩ := pops.keeps height enough
      refine ⟨upper', .stays rfl fun isLive => ?_⟩
      obtain ⟨more, rfl⟩ := ready.live height isLive
      rw [live isLive, List.singleton_append, ← List.cons_append]
      exact .brIf (labelsOf_getElem? found)
  | brTable found pops ready =>
      subst stackEq
      obtain ⟨upper', rfl, live⟩ := pops.keeps height enough
      refine ⟨[], .leaves rfl height _ fun isLive middle => ?_⟩
      obtain ⟨more, rfl⟩ := ready.live height isLive
      rw [live isLive, List.singleton_append, ← List.cons_append]
      refine .brTable fun depth member => ?_
      obtain ⟨target, isTarget, rfl⟩ := found depth member
      exact labelsOf_getElem? isTarget
  | @«return» target _ found ready =>
      subst stackEq
      refine ⟨[], .leaves rfl height _ fun isLive middle => ?_⟩
      obtain ⟨more, rfl⟩ := ready.live height isLive
      have last := labelsOf_getElem? found
      rw [RootLabel, List.getLast?_eq_getElem?, labelsOf, List.length_map] at root
      rw [← Option.some.inj (root.symm.trans last)]
      exact .return
  | @call _ type _ _ found pops =>
      subst stackEq
      rw [CodeContext.takes, found] at enough
      obtain ⟨upper', rfl, live⟩ := pops.keeps height (by simpa using enough)
      refine ⟨type.results.reverse ++ upper', ?_⟩
      rw [← List.append_assoc]
      refine .stays rfl fun isLive => ?_
      rw [live isLive]
      exact .call found
  | @callIndirect _ _ type _ _ inside found pops =>
      subst stackEq
      rw [CodeContext.takes, found] at enough
      obtain ⟨upper', rfl, live⟩ := pops.keeps height (by simpa using enough)
      refine ⟨type.results.reverse ++ upper', ?_⟩
      rw [← List.append_assoc]
      refine .stays rfl fun isLive => ?_
      rw [live isLive]
      exact .callIndirect inside found
  | returnCall found results pops =>
      subst stackEq
      rw [CodeContext.takes, found] at enough
      obtain ⟨upper', rfl, live⟩ := pops.keeps height (by simpa using enough)
      refine ⟨[], .leaves rfl height _ fun isLive middle => ?_⟩
      rw [live isLive]
      exact .returnCall found results
  | returnCallIndirect inside found results pops =>
      subst stackEq
      rw [CodeContext.takes, found] at enough
      obtain ⟨upper', rfl, live⟩ := pops.keeps height (by simpa using enough)
      refine ⟨[], .leaves rfl height _ fun isLive middle => ?_⟩
      rw [live isLive]
      exact .returnCallIndirect inside found results

end Simple

/-! ## Sequences -/

section Sequences

variable {upper lower : List ValueType} {instrs : Instrs} {final : CheckState} {finish : Nat}

/-- A state whose innermost frame has the operands `upper` above its height. -/
structure Stacked (state : CheckState) (frame : ControlFrame) (outer : List ControlFrame)
    (upper lower : List ValueType) : Prop where
  stack : state.stack = upper ++ lower
  controls : state.controls = frame :: outer
  height : frame.height = lower.length

theorem Stacked.eq (stacked : Stacked state frame outer upper lower) :
    state = { stack := upper ++ lower, controls := frame :: outer } := by
  obtain ⟨stack, controls⟩ := state
  obtain ⟨rfl, rfl, -⟩ := stacked
  rfl

theorem Stacked.enough (stacked : Stacked state frame outer upper lower)
    (above : AboveAt cx state pc) (live : frame.unreachable = false) :
    cx.operandsAt pc ≤ upper.length := by
  have := above frame outer stacked.controls live
  rw [stacked.stack, stacked.height, List.length_append] at this
  omega

/-- What the check of a sequence leaves of a frame, and the typing of the sequence where the
frame can be reached. -/
structure SeqTypes (cx : CodeContext) (frame : ControlFrame) (outer : List ControlFrame)
    (instrs : Instrs) (upper lower : List ValueType) (final : CheckState) (left : Bool)
    (upper' : List ValueType) : Prop where
  final : Stacked final { frame with unreachable := frame.unreachable || left } outer upper' lower
  typed : frame.unreachable = false → ∀ outs, (left = false → outs = upper') →
    Spec.SeqTyped false cx.spec (labelsOf (frame :: outer)) instrs upper outs

theorem Stacked.behind {signature : BlockSignature} {kept : List ValueType}
    (stacked : Stacked state frame outer upper lower)
    (afterEq : after =
      { stack := signature.results.reverse ++ (kept ++ lower), controls := frame :: outer }) :
    Stacked after frame outer (signature.results.reverse ++ kept) lower := by
  rw [afterEq]
  exact ⟨(List.append_assoc ..).symm, rfl, stacked.height⟩

/-- The typing of a sequence up to the terminator of the block that an opener pushed. -/
theorem SeqTypes.finished {kind : ControlKind} {signature : BlockSignature} {seenElse left : Bool}
    {rest upper' : List ValueType} {ended : CheckState}
    (types : SeqTypes cx { openedFrame kind signature rest.length with seenElse } outer instrs
      signature.params.reverse rest ended left upper')
    (finishes : Finishes
      { openedFrame kind signature rest.length with unreachable := left, seenElse }
      (upper' ++ rest)) :
    Spec.SeqTyped false cx.spec
      (labelsOf ({ openedFrame kind signature rest.length with seenElse } :: outer)) instrs
      signature.params.reverse signature.results.reverse := by
  refine types.typed rfl _ fun goesOn => ?_
  rcases finishes with isLeft | ⟨length, taken⟩
  · rw [goesOn] at isLeft
    cases isLeft
  · have length : (upper' ++ rest).length = rest.length + signature.results.length := length
    have taken : (upper' ++ rest).take signature.results.length = signature.results.reverse :=
      taken
    rw [List.length_append] at length
    rw [← taken, List.take_append_of_le_length (by omega), List.take_of_length_le (by omega)]

/-- The end of a block that an opener pushed, behind the typing of its sequence. -/
theorem SeqTypes.ended {kind : ControlKind} {signature : BlockSignature} {seenElse left : Bool}
    {rest upper' : List ValueType} {ended : CheckState} {endPc : Nat}
    (types : SeqTypes cx { openedFrame kind signature rest.length with seenElse } outer instrs
      signature.params.reverse rest ended left upper')
    (notFunction : kind ≠ .function) (endByte : cx.code[endPc]? = some 0x0b)
    (ends : Advances cx ended endPc after (endPc + 1)) :
    after = { stack := signature.results.reverse ++ rest, controls := outer } ∧
      (kind = .if → signature.results = [] ∨ seenElse = true) ∧
      Spec.SeqTyped false cx.spec
        (labelsOf ({ openedFrame kind signature rest.length with seenElse } :: outer)) instrs
        signature.params.reverse signature.results.reverse := by
  obtain ⟨typeOfIf, finishes, -, controls, -, stackEq⟩ := (types.final.eq ▸ ends).ended endByte
  have stackEq := stackEq notFunction
  have below : truncate (upper' ++ rest) rest.length = rest := truncate_append ..
  refine ⟨?_, typeOfIf, types.finished finishes⟩
  obtain ⟨_, _⟩ := after
  rw [CheckState.mk.injEq]
  exact ⟨stackEq.trans (congrArg _ below), controls⟩

/-- The `else` of a block that an opener pushed, behind the typing of its first arm. -/
theorem SeqTypes.switched {signature : BlockSignature} {left : Bool}
    {rest upper' : List ValueType} {switching : CheckState} {elsePc : Nat}
    (types : SeqTypes cx (openedFrame .if signature rest.length) outer instrs
      signature.params.reverse rest switching left upper')
    (elseByte : cx.code[elsePc]? = some 0x05)
    (switches : Advances cx switching elsePc after (elsePc + 1)) :
    Stacked after { openedFrame .if signature rest.length with seenElse := true } outer
        signature.params.reverse rest ∧
      Spec.SeqTyped false cx.spec (labelsOf (openedFrame .if signature rest.length :: outer)) instrs
        signature.params.reverse signature.results.reverse := by
  obtain ⟨-, -, -, finishes, afterEq⟩ := (types.final.eq ▸ switches).switched elseByte
  have below : truncate (upper' ++ rest) rest.length = rest := truncate_append ..
  refine ⟨?_, SeqTypes.finished types finishes⟩
  rw [afterEq]
  exact ⟨congrArg _ below, rfl, rfl⟩

theorem rootLabel_opened {inner : ControlFrame} (root : RootLabel cx (frame :: outer)) :
    RootLabel cx (inner :: frame :: outer) := by
  rw [RootLabel, labelsOf, List.map_cons, List.map_cons, List.getLast?_cons_cons]
  exact root

/-- An opener leaves a state in the new block and what was below its operands. -/
theorem Opened.stacked {kind : ControlKind} {signature : BlockSignature}
    {rest : OperandTypes} {bodyPc : Nat} {inner : CheckState}
    (opened : Opened cx frame outer kind pc stack inner bodyPc signature rest) :
    Stacked inner (openedFrame kind signature rest.length) (frame :: outer)
      signature.params.reverse rest := by
  rw [opened.inner]
  exact ⟨rfl, rfl, rfl⟩

/-- Where no round takes an operand from below its block, the check of a sequence follows
the typing rules. -/
theorem SeqChecked.typed (checked : SeqChecked cx state pc instrs final finish)
    (above : StaysAbove cx) (visited : Visited cx state pc)
    (stacked : Stacked state frame outer upper lower) (root : RootLabel cx (frame :: outer)) :
    ∃ left upper', SeqTypes cx frame outer instrs upper lower final left upper' := by
  induction checked generalizing frame outer upper lower with
  | @done state pc =>
      refine ⟨false, upper, ?_, fun _ outs same => ?_⟩
      · rwa [Bool.or_false]
      · rw [same rfl]
        exact .done
  | @simple state after final pc pc' finish instr next decoded advances _ ih =>
      have enough := stacked.enough (above state pc visited)
      rw [operandsAt_simple decoded] at enough
      have instrChecked := (stacked.eq ▸ advances).simple decoded
      obtain ⟨middle, types⟩ := instrChecked.typed stacked.height enough root
      have stackedAfter : Stacked after
          { frame with unreachable := frame.unreachable || instr.leaves } outer middle lower := by
        rw [types.after]
        exact ⟨rfl, rfl, stacked.height⟩
      obtain ⟨left, upper', rest⟩ := ih (visited.next advances) stackedAfter root
      refine ⟨instr.leaves || left, upper', ?_, fun live outs same => ?_⟩
      · have final := rest.final
        rwa [Bool.or_assoc] at final
      · refine .simple (types.typed live middle fun _ => rfl) fun goesOn => ?_
        have stays : instr.leaves = false := goesOn.resolve_left (by decide)
        refine rest.typed ?_ outs fun notLeft => same ?_
        · dsimp only
          rw [live, stays, Bool.or_false]
        · rw [stays, notLeft, Bool.or_false]
  | @block state inner ended after final pc bodyPc endPc finish loops signature body next opcode
      decoded opens bodyChecked endByte ends _ bodyIH nextIH =>
      have enough := stacked.enough (above state pc visited)
      rw [operandsAt_block opcode decoded] at enough
      obtain ⟨signature, rest, opened⟩ := (stacked.eq ▸ opens).opened opcode
      cases decoded.symm.trans opened.decoded
      have operands : openerOperands (.ofBlock loops) signature = signature.params.reverse := by
        cases loops <;> rfl
      have popped := opened.popped
      rw [operands] at popped
      obtain ⟨kept, rfl, live⟩ := popped.keeps stacked.height (by rwa [List.length_reverse])
      obtain ⟨_, _, bodyTypes⟩ :=
        bodyIH (visited.next opens) opened.stacked (rootLabel_opened root)
      obtain ⟨afterEq, -, bodyTyped⟩ :=
        bodyTypes.ended (by cases loops <;> decide) endByte ends
      obtain ⟨left, upper', types⟩ := nextIH
        ((bodyChecked.visited (visited.next opens)).next ends) (stacked.behind afterEq) root
      refine ⟨left, upper', types.final, fun isLive outs same => ?_⟩
      rw [live isLive]
      refine .block ?_ (types.typed isLive outs same)
      cases loops <;> exact bodyTyped
  | @ifThen state inner ended after final pc bodyPc endPc finish signature body next opcode
      decoded opens bodyChecked endByte ends _ bodyIH nextIH =>
      have enough := stacked.enough (above state pc visited)
      rw [operandsAt_if opcode decoded] at enough
      obtain ⟨signature, rest, opened⟩ := (stacked.eq ▸ opens).openedIf opcode
      cases decoded.symm.trans opened.decoded
      obtain ⟨kept, rfl, live⟩ := opened.popped.keeps stacked.height
        (by simpa [openerOperands] using enough)
      obtain ⟨_, _, bodyTypes⟩ :=
        bodyIH (visited.next opens) opened.stacked (rootLabel_opened root)
      obtain ⟨afterEq, noElse, bodyTyped⟩ := bodyTypes.ended (by decide) endByte ends
      obtain ⟨left, upper', types⟩ := nextIH
        ((bodyChecked.visited (visited.next opens)).next ends) (stacked.behind afterEq) root
      refine ⟨left, upper', types.final, fun isLive outs same => ?_⟩
      rw [live isLive]
      refine .ifThen (fun strict => by cases strict) (fun _ => ?_) bodyTyped
        (types.typed isLive outs same)
      exact (noElse rfl).resolve_right (by decide)
  | @ifElse state inner switching other ended after final pc bodyPc elsePc endPc finish signature
      body alternative next opcode decoded opens bodyChecked elseByte switches otherChecked endByte
      ends _ bodyIH otherIH nextIH =>
      have enough := stacked.enough (above state pc visited)
      rw [operandsAt_if opcode decoded] at enough
      obtain ⟨signature, rest, opened⟩ := (stacked.eq ▸ opens).openedIf opcode
      cases decoded.symm.trans opened.decoded
      obtain ⟨kept, rfl, live⟩ := opened.popped.keeps stacked.height
        (by simpa [openerOperands] using enough)
      have visitedBody := bodyChecked.visited (visited.next opens)
      obtain ⟨_, _, bodyTypes⟩ :=
        bodyIH (visited.next opens) opened.stacked (rootLabel_opened root)
      obtain ⟨stackedOther, bodyTyped⟩ := bodyTypes.switched elseByte switches
      obtain ⟨_, _, otherTypes⟩ :=
        otherIH (visitedBody.next switches) stackedOther (rootLabel_opened root)
      obtain ⟨afterEq, -, otherTyped⟩ := otherTypes.ended (by decide) endByte ends
      obtain ⟨left, upper', types⟩ := nextIH
        ((otherChecked.visited (visitedBody.next switches)).next ends) (stacked.behind afterEq) root
      refine ⟨left, upper', types.final, fun isLive outs same => ?_⟩
      rw [live isLive]
      exact .ifElse bodyTyped otherTyped (types.typed isLive outs same)

theorem BodyChecked.typed {endPc : Nat} (body : BodyChecked cx instrs final endPc)
    (above : StaysAbove cx) : Spec.BodyTyped false cx.spec instrs := by
  have stacked : Stacked (initialState cx)
      (openedFrame .function { params := [], results := cx.functionResults } 0) [] [] [] :=
    ⟨rfl, rfl, rfl⟩
  obtain ⟨left, upper', types⟩ := body.checked.typed above .start stacked rfl
  obtain ⟨after, ends⟩ := body.ends
  obtain ⟨-, finishes, -⟩ := (types.final.eq ▸ ends).ended body.endByte
  exact SeqTypes.finished types finishes

end Sequences

/-- The bodies of an accepted module are typed where no round takes an operand from below
its block. -/
theorem Accepted.bodiesTyped {module : Module} (accepted : Accepted module)
    (above : BodiesStayAbove module) : BodiesTyped false module := by
  intro defined type body function
  obtain ⟨instrs, ended, endPc, checked⟩ := accepted.bodyChecked function
  exact ⟨instrs, endPc, checked.encodes, checked.typed (above defined type body function)⟩

end MiniWasm.Validator
