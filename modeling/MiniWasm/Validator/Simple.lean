import MiniWasm.Validator.Decoding

/-!
# What the checker does with one instruction

The arms of the checker for the instructions that open no block, without their
decoding: which operands they take from the innermost frame, and what they leave.
-/

namespace MiniWasm.Validator

open Library

variable {cx : CodeContext} {offset pc pc' : Nat}
variable {frame : ControlFrame} {outer : List ControlFrame}

/-! ## Operands -/

/-- Popping operands of the listed types, the first from the top.  At the entry
height of an unreachable frame a pop takes nothing. -/
inductive Pops (frame : ControlFrame) :
    List ValueType → OperandTypes → OperandTypes → Prop where
  | nil {stack : OperandTypes} : Pops frame [] stack stack
  | bottom {type : ValueType} {types : List ValueType} {stack rest : OperandTypes} :
      frame.polymorphicAt stack = true → Pops frame types stack rest →
      Pops frame (type :: types) stack rest
  | top {type : ValueType} {types : List ValueType} {stack rest : OperandTypes} :
      frame.polymorphicAt (type :: stack) = false → Pops frame types stack rest →
      Pops frame (type :: types) (type :: stack) rest

/-- Popping an operand of any type. -/
inductive PopsAny (frame : ControlFrame) :
    Option ValueType → OperandTypes → OperandTypes → Prop where
  | bottom {stack : OperandTypes} :
      frame.polymorphicAt stack = true → PopsAny frame none stack stack
  | top {type : ValueType} {stack : OperandTypes} :
      frame.polymorphicAt (type :: stack) = false →
      PopsAny frame (some type) (type :: stack) stack

/-- The operands that a branch to a label takes are there. -/
def LabelReady (frame : ControlFrame) (stack : OperandTypes)
    (labelTypes : List ValueType) : Prop :=
  frame.polymorphicAt stack = true ∨
    labelTypes.length ≤ stack.length - frame.height ∧
      stack.take labelTypes.length = labelTypes.reverse

theorem popExpect_ok {stack rest : OperandTypes} {type : ValueType}
    (popped : popExpect cx offset (frame :: outer) stack type = .ok rest) :
    Pops frame [type] stack rest := by
  unfold popExpect at popped
  dsimp only at popped
  split_ifs at popped with polymorphic
  · cases popped
    exact .bottom polymorphic .nil
  · cases stack with
    | nil => cases popped
    | cons actual stack =>
        dsimp only at popped
        split_ifs at popped with same
        cases popped
        subst same
        exact .top (by simpa using polymorphic) .nil

theorem Pops.append {types more : List ValueType} {stack middle rest : OperandTypes}
    (first : Pops frame types stack middle) (second : Pops frame more middle rest) :
    Pops frame (types ++ more) stack rest := by
  induction first with
  | nil => exact second
  | bottom polymorphic _ ih => exact .bottom polymorphic (ih second)
  | top concrete _ ih => exact .top concrete (ih second)

theorem popAll_ok {types : List ValueType} {stack rest : OperandTypes}
    (popped : popAll cx offset (frame :: outer) types stack = .ok rest) :
    Pops frame types stack rest := by
  induction types generalizing stack with
  | nil =>
      cases popped
      exact .nil
  | cons type types ih =>
      simp only [popAll, bind_ok] at popped
      obtain ⟨middle, first, others⟩ := popped
      exact (popExpect_ok first).append (ih others)

theorem popAny_ok {stack rest : OperandTypes} {type : Option ValueType}
    (popped : popAny cx offset (frame :: outer) stack = .ok (type, rest)) :
    PopsAny frame type stack rest := by
  unfold popAny at popped
  dsimp only at popped
  split_ifs at popped with polymorphic
  · cases popped
    exact .bottom polymorphic
  · cases stack with
    | nil => cases popped
    | cons actual stack =>
        cases popped
        exact .top (by simpa using polymorphic)

theorem peekExpect_ok {stack : OperandTypes} {type : ValueType}
    (peeked : peekExpect cx offset (frame :: outer) stack type = .ok ()) :
    ∃ rest, Pops frame [type] stack rest := by
  unfold peekExpect at peeked
  dsimp only at peeked
  split_ifs at peeked with polymorphic
  · exact ⟨stack, .bottom polymorphic .nil⟩
  · cases stack with
    | nil => cases peeked
    | cons actual stack =>
        dsimp only at peeked
        split_ifs at peeked with same
        subst same
        exact ⟨stack, .top (by simpa using polymorphic) .nil⟩

theorem matchTypes_ok {actuals expected : List ValueType}
    (lengthEq : actuals.length = expected.length)
    (matched : matchTypes cx offset actuals expected = .ok ()) : actuals = expected := by
  induction actuals generalizing expected with
  | nil =>
      cases expected with
      | nil => rfl
      | cons type types => cases lengthEq
  | cons actual actuals ih =>
      cases expected with
      | nil => cases lengthEq
      | cons type types =>
          simp only [matchTypes] at matched
          split_ifs at matched with same
          rw [same, ih (by simpa using lengthEq) matched]

/-- The types at the top of a stack, read in source order. -/
theorem take_of_matchTypes {stack : OperandTypes} {types : List ValueType}
    (enough : types.length ≤ stack.length)
    (matched : matchTypes cx offset (stack.take types.length).reverse types = .ok ()) :
    stack.take types.length = types.reverse := by
  have := matchTypes_ok (by simp [enough]) matched
  rw [← this, List.reverse_reverse, List.length_reverse, List.length_take,
    Nat.min_eq_left enough]

theorem controlAtDepth_ok {controls : List ControlFrame} {depth : Nat}
    {target : ControlFrame} (found : controlAtDepth cx offset controls depth = .ok target) :
    controls[depth]? = some target := by
  unfold controlAtDepth at found
  split at found
  · next present =>
      cases found
      exact present
  · cases found

theorem requireLabelValues_ok {stack : OperandTypes} {depth : Nat}
    (required : requireLabelValues cx offset (frame :: outer) stack depth = .ok ()) :
    ∃ target, (frame :: outer)[depth]? = some target ∧
      LabelReady frame stack target.labelTypes := by
  simp only [requireLabelValues, bind_ok] at required
  obtain ⟨target, found, ready⟩ := required
  refine ⟨target, controlAtDepth_ok found, ?_⟩
  split_ifs at ready with polymorphic missing
  · exact .inl polymorphic
  · cases ready
  · exact .inr ⟨Nat.le_of_not_lt missing, take_of_matchTypes (by omega) ready⟩

/-! ## Instructions -/

/-- The checker's step for an instruction that opens no block, from the operands
`stack` in the frame `frame` inside `outer`. -/
inductive SimpleChecked (cx : CodeContext) (frame : ControlFrame)
    (outer : List ControlFrame) : Simple → OperandTypes → CheckState → Prop where
  | effect {instr : Plain} {signature : Spec.Signature} {stack rest : OperandTypes} :
      Spec.plainSignature cx.spec instr = some signature →
      Pops frame signature.ins stack rest →
      SimpleChecked cx frame outer (.plain instr) stack
        { stack := signature.outs ++ rest, controls := frame :: outer }
  | localTee {index : Nat} {type : ValueType} {stack rest : OperandTypes} :
      cx.localTypes[index]? = some type →
      Pops frame [type] stack rest →
      SimpleChecked cx frame outer (.plain (.localTee index)) stack
        { stack, controls := frame :: outer }
  | drop {type : Option ValueType} {stack rest : OperandTypes} :
      PopsAny frame type stack rest →
      SimpleChecked cx frame outer (.plain .drop) stack
        { stack := rest, controls := frame :: outer }
  | select {first second : Option ValueType} {stack selecting middle rest : OperandTypes} :
      Pops frame [.i32] stack selecting →
      PopsAny frame second selecting middle →
      PopsAny frame first middle rest →
      (∀ left right, first = some left → second = some right → left = right) →
      SimpleChecked cx frame outer (.plain .select) stack
        { stack := (first.or second).toList ++ rest, controls := frame :: outer }
  | unreachable {stack : OperandTypes} :
      SimpleChecked cx frame outer .unreachable stack
        (markUnreachable { stack, controls := frame :: outer })
  | br {depth : Nat} {target : ControlFrame} {stack : OperandTypes} :
      (frame :: outer)[depth]? = some target →
      LabelReady frame stack target.labelTypes →
      SimpleChecked cx frame outer (.br depth) stack
        (markUnreachable { stack, controls := frame :: outer })
  | brIf {depth : Nat} {target : ControlFrame} {stack rest : OperandTypes} :
      Pops frame [.i32] stack rest →
      (frame :: outer)[depth]? = some target →
      LabelReady frame rest target.labelTypes →
      SimpleChecked cx frame outer (.brIf depth) stack
        { stack := rest, controls := frame :: outer }
  | brTable {depths : List Nat} {default : Nat} {labelTypes : List ValueType}
      {stack rest : OperandTypes} :
      (∀ depth ∈ default :: depths, ∃ target,
        (frame :: outer)[depth]? = some target ∧ target.labelTypes = labelTypes) →
      Pops frame [.i32] stack rest →
      LabelReady frame rest labelTypes →
      SimpleChecked cx frame outer (.brTable depths default) stack
        (markUnreachable { stack := rest, controls := frame :: outer })
  | return {target : ControlFrame} {stack : OperandTypes} :
      (frame :: outer)[outer.length]? = some target →
      LabelReady frame stack target.labelTypes →
      SimpleChecked cx frame outer .return stack
        (markUnreachable { stack, controls := frame :: outer })
  | call {function : Nat} {type : FuncType} {stack rest : OperandTypes} :
      cx.module.functionType function = some type →
      Pops frame type.params.reverse stack rest →
      SimpleChecked cx frame outer (.call function) stack
        { stack := type.results.reverse ++ rest, controls := frame :: outer }
  | callIndirect {typeIndex table : Nat} {type : FuncType} {stack rest : OperandTypes} :
      table < cx.module.tableCount →
      cx.module.types[typeIndex]? = some type →
      Pops frame (.i32 :: type.params.reverse) stack rest →
      SimpleChecked cx frame outer (.callIndirect typeIndex table) stack
        { stack := type.results.reverse ++ rest, controls := frame :: outer }
  | returnCall {function : Nat} {type : FuncType} {stack rest : OperandTypes} :
      cx.module.functionType function = some type →
      type.results = cx.functionResults →
      Pops frame type.params.reverse stack rest →
      SimpleChecked cx frame outer (.returnCall function) stack
        (markUnreachable { stack := rest, controls := frame :: outer })
  | returnCallIndirect {typeIndex table : Nat} {type : FuncType}
      {stack rest : OperandTypes} :
      table < cx.module.tableCount →
      cx.module.types[typeIndex]? = some type →
      type.results = cx.functionResults →
      Pops frame (.i32 :: type.params.reverse) stack rest →
      SimpleChecked cx frame outer (.returnCallIndirect typeIndex table) stack
        (markUnreachable { stack := rest, controls := frame :: outer })

/-- The loop over the listed targets of a branch table. -/
theorem readTargets_ok {controls : List ControlFrame} {count start next : Nat}
    {common final : Option (List ValueType)}
    (read : readTargets cx offset controls count start common = .ok (final, next)) :
    ∃ depths, Spec.targets cx.code count start = some (depths, next) ∧
      (∀ types, common = some types → final = some types) ∧
      ∀ depth ∈ depths, ∃ target, controls[depth]? = some target ∧
        final = some target.labelTypes := by
  induction count generalizing start common with
  | zero =>
      cases read
      exact ⟨[], rfl, fun _ same => same, fun _ member => by cases member⟩
  | succ count ih =>
      simp only [readTargets, bind_ok, Prod.exists] at read
      obtain ⟨depth, middle, depthRead, target, targetFound, _, checked, rest⟩ := read
      obtain ⟨depths, restRead, kept, listed⟩ := ih rest
      have final : final = some (common.getD target.labelTypes) := kept _ rfl
      refine ⟨depth :: depths, ?_, ?_, ?_⟩
      · simp [Spec.targets, readU32_ok depthRead, restRead]
      · rintro types rfl
        exact final
      · intro other member
        rcases List.mem_cons.mp member with rfl | member
        · refine ⟨target, controlAtDepth_ok targetFound, ?_⟩
          rw [final]
          cases common with
          | none => rfl
          | some types =>
              simp only [checkCommonLabel] at checked
              split_ifs at checked with same
              simp [same]
        · exact listed other member

/-- What an arm of the checker reads and does. -/
def ChecksSimple (cx : CodeContext) (frame : ControlFrame) (outer : List ControlFrame)
    (decoded : Option (Simple × Nat)) (stack : OperandTypes) (after : CheckState)
    (pc' : Nat) : Prop :=
  ∃ instr, decoded = some (instr, pc') ∧ SimpleChecked cx frame outer instr stack after

section Arms

variable {stack : OperandTypes} {after : CheckState}

theorem validateBr_ok
    (step : validateBr cx offset pc { stack, controls := frame :: outer } =
      .ok (after, pc')) :
    ChecksSimple cx frame outer (Spec.simpleImmediates cx.code 0x0c pc) stack after pc' := by
  simp only [validateBr, bind_ok, Prod.exists, pure_ok, Except.ok.injEq, Prod.mk.injEq] at step
  obtain ⟨depth, _, depthRead, _, required, rfl, rfl⟩ := step
  obtain ⟨target, found, ready⟩ := requireLabelValues_ok required
  refine ⟨.br depth, ?_, .br found ready⟩
  simp [Spec.simpleImmediates, readU32_ok depthRead]

theorem validateBrIf_ok
    (step : validateBrIf cx offset pc { stack, controls := frame :: outer } =
      .ok (after, pc')) :
    ChecksSimple cx frame outer (Spec.simpleImmediates cx.code 0x0d pc) stack after pc' := by
  simp only [validateBrIf, bind_ok, Prod.exists, pure_ok, Except.ok.injEq, Prod.mk.injEq]
    at step
  obtain ⟨depth, _, depthRead, rest, popped, _, required, rfl, rfl⟩ := step
  obtain ⟨target, found, ready⟩ := requireLabelValues_ok required
  refine ⟨.brIf depth, ?_, .brIf (popExpect_ok popped) found ready⟩
  simp [Spec.simpleImmediates, readU32_ok depthRead]

theorem validateBrTable_ok
    (step : validateBrTable cx offset pc { stack, controls := frame :: outer } =
      .ok (after, pc')) :
    ChecksSimple cx frame outer (Spec.simpleImmediates cx.code 0x0e pc) stack after pc' := by
  simp only [validateBrTable, bind_ok, Prod.exists, pure_ok, Except.ok.injEq,
    Prod.mk.injEq] at step
  obtain ⟨count, _, countRead, common, _, targetsRead, default, _, defaultRead, target,
    targetFound, _, checked, rest, popped, _, required, rfl, rfl⟩ := step
  obtain ⟨depths, listed, -, agree⟩ := readTargets_ok targetsRead
  obtain ⟨target', found, ready⟩ := requireLabelValues_ok required
  cases (controlAtDepth_ok targetFound).symm.trans found
  refine ⟨.brTable depths default, ?_, .brTable ?_ (popExpect_ok popped) ready⟩
  · simp [Spec.simpleImmediates, readU32_ok countRead, listed, readU32_ok defaultRead]
  · intro depth member
    rcases List.mem_cons.mp member with rfl | member
    · exact ⟨target, found, rfl⟩
    · obtain ⟨other, otherFound, commonEq⟩ := agree depth member
      refine ⟨other, otherFound, ?_⟩
      simp only [commonEq, checkCommonLabel] at checked
      split_ifs at checked with same
      exact same

theorem validateReturn_ok
    (step : validateReturn cx offset pc { stack, controls := frame :: outer } =
      .ok (after, pc')) :
    ChecksSimple cx frame outer (Spec.simpleImmediates cx.code 0x0f pc) stack after pc' := by
  simp only [validateReturn, List.length_cons, bind_ok, pure_ok, Except.ok.injEq,
    Prod.mk.injEq] at step
  obtain ⟨_, required, rfl, rfl⟩ := step
  obtain ⟨target, found, ready⟩ := requireLabelValues_ok required
  exact ⟨.return, rfl, .return found ready⟩

theorem readCallee_ok {type : FuncType}
    (read : readCallee cx offset pc = .ok (type, pc')) :
    ∃ function, Spec.u32 cx.code pc = some (function, pc') ∧
      cx.module.functionType function = some type := by
  simp only [readCallee, bind_ok, Prod.exists] at read
  obtain ⟨function, _, functionRead, found⟩ := read
  split at found
  · next typeFound =>
      cases found
      exact ⟨function, readU32_ok functionRead, typeFound⟩
  · cases found

theorem readIndirectCallee_ok {type : FuncType}
    (read : readIndirectCallee cx offset pc = .ok (type, pc')) :
    ∃ typeIndex middle table, Spec.u32 cx.code pc = some (typeIndex, middle) ∧
      Spec.u32 cx.code middle = some (table, pc') ∧ table < cx.module.tableCount ∧
      cx.module.types[typeIndex]? = some type := by
  simp only [readIndirectCallee, bind_ok, Prod.exists] at read
  obtain ⟨typeIndex, middle, typeRead, table, _, tableRead, found⟩ := read
  obtain ⟨tableAt, tableLt⟩ := readTable_ok tableRead
  split at found
  · next typeFound =>
      cases found
      exact ⟨typeIndex, middle, table, readU32_ok typeRead, tableAt, tableLt, typeFound⟩
  · cases found

theorem applyCallSignature_ok {rest : OperandTypes} {type : FuncType}
    (applied : applyCallSignature cx offset (frame :: outer) stack type = .ok rest) :
    ∃ below, Pops frame type.params.reverse stack below ∧
      rest = type.results.reverse ++ below := by
  simp only [applyCallSignature, bind_ok, pure_ok, Except.ok.injEq] at applied
  obtain ⟨below, popped, rfl⟩ := applied
  exact ⟨below, popAll_ok popped, rfl⟩

theorem applyTailCallSignature_ok {type : FuncType}
    (applied : applyTailCallSignature cx offset { stack, controls := frame :: outer } type =
      .ok after) :
    type.results = cx.functionResults ∧
      ∃ below, Pops frame type.params.reverse stack below ∧
        after = markUnreachable { stack := below, controls := frame :: outer } := by
  unfold applyTailCallSignature at applied
  split_ifs at applied with results
  simp only [bind_ok, pure_ok, Except.ok.injEq] at applied
  obtain ⟨below, popped, rfl⟩ := applied
  exact ⟨Decidable.not_not.mp results, below, popAll_ok popped, rfl⟩

theorem validateCall_ok
    (step : validateCall cx offset pc { stack, controls := frame :: outer } =
      .ok (after, pc')) :
    ChecksSimple cx frame outer (Spec.simpleImmediates cx.code 0x10 pc) stack after pc' := by
  simp only [validateCall, bind_ok, Prod.exists, pure_ok, Except.ok.injEq, Prod.mk.injEq]
    at step
  obtain ⟨type, _, calleeRead, _, applied, rfl, rfl⟩ := step
  obtain ⟨function, functionAt, found⟩ := readCallee_ok calleeRead
  obtain ⟨below, popped, rfl⟩ := applyCallSignature_ok applied
  refine ⟨.call function, ?_, .call found popped⟩
  simp [Spec.simpleImmediates, functionAt]

theorem validateCallIndirect_ok
    (step : validateCallIndirect cx offset pc { stack, controls := frame :: outer } =
      .ok (after, pc')) :
    ChecksSimple cx frame outer (Spec.simpleImmediates cx.code 0x11 pc) stack after pc' := by
  simp only [validateCallIndirect, bind_ok, Prod.exists, pure_ok, Except.ok.injEq,
    Prod.mk.injEq] at step
  obtain ⟨type, _, calleeRead, middle, selector, _, applied, rfl, rfl⟩ := step
  obtain ⟨typeIndex, _, table, typeAt, tableAt, tableLt, found⟩ :=
    readIndirectCallee_ok calleeRead
  obtain ⟨below, popped, rfl⟩ := applyCallSignature_ok applied
  refine ⟨.callIndirect typeIndex table, ?_,
    .callIndirect tableLt found ((popExpect_ok selector).append popped)⟩
  simp [Spec.simpleImmediates, typeAt, tableAt]

theorem validateReturnCall_ok
    (step : validateReturnCall cx offset pc { stack, controls := frame :: outer } =
      .ok (after, pc')) :
    ChecksSimple cx frame outer (Spec.simpleImmediates cx.code 0x12 pc) stack after pc' := by
  simp only [validateReturnCall, bind_ok, Prod.exists, pure_ok, Except.ok.injEq,
    Prod.mk.injEq] at step
  obtain ⟨type, _, calleeRead, _, applied, rfl, rfl⟩ := step
  obtain ⟨function, functionAt, found⟩ := readCallee_ok calleeRead
  obtain ⟨results, below, popped, rfl⟩ := applyTailCallSignature_ok applied
  refine ⟨.returnCall function, ?_, .returnCall found results popped⟩
  simp [Spec.simpleImmediates, functionAt]

theorem validateReturnCallIndirect_ok
    (step : validateReturnCallIndirect cx offset pc { stack, controls := frame :: outer } =
      .ok (after, pc')) :
    ChecksSimple cx frame outer (Spec.simpleImmediates cx.code 0x13 pc) stack after pc' := by
  simp only [validateReturnCallIndirect, bind_ok, Prod.exists, pure_ok, Except.ok.injEq,
    Prod.mk.injEq] at step
  obtain ⟨type, _, calleeRead, middle, selector, _, applied, rfl, rfl⟩ := step
  obtain ⟨typeIndex, _, table, typeAt, tableAt, tableLt, found⟩ :=
    readIndirectCallee_ok calleeRead
  obtain ⟨results, below, popped, rfl⟩ := applyTailCallSignature_ok applied
  refine ⟨.returnCallIndirect typeIndex table, ?_,
    .returnCallIndirect tableLt found results ((popExpect_ok selector).append popped)⟩
  simp [Spec.simpleImmediates, typeAt, tableAt]

theorem validateDrop_ok
    (step : validateDrop cx offset pc { stack, controls := frame :: outer } =
      .ok (after, pc')) :
    ChecksSimple cx frame outer (Spec.simpleImmediates cx.code 0x1a pc) stack after pc' := by
  simp only [validateDrop, bind_ok, Prod.exists, pure_ok, Except.ok.injEq, Prod.mk.injEq]
    at step
  obtain ⟨type, rest, popped, rfl, rfl⟩ := step
  exact ⟨.plain .drop, rfl, .drop (popAny_ok popped)⟩

theorem validateSelect_ok
    (step : validateSelect cx offset pc { stack, controls := frame :: outer } =
      .ok (after, pc')) :
    ChecksSimple cx frame outer (Spec.simpleImmediates cx.code 0x1b pc) stack after pc' := by
  simp only [validateSelect, bind_ok, Prod.exists] at step
  obtain ⟨selecting, condition, second, middle, secondPopped, first, rest, firstPopped,
    selected⟩ := step
  have typed (agree : ∀ left right, first = some left → second = some right → left = right) :
      SimpleChecked cx frame outer (.plain .select) stack
        { stack := (first.or second).toList ++ rest, controls := frame :: outer } :=
    .select (popExpect_ok condition) (popAny_ok secondPopped) (popAny_ok firstPopped) agree
  refine ⟨.plain .select, ?_, ?_⟩
  · cases first <;> cases second <;> simp only [pure_ok] at selected
    · cases selected
      rfl
    · cases selected
      rfl
    · cases selected
      rfl
    · split_ifs at selected
      cases selected
      rfl
  · cases first with
    | none =>
        cases second with
        | none =>
            cases selected
            exact typed (fun _ _ none => by cases none)
        | some type =>
            cases selected
            exact typed (fun _ _ none => by cases none)
    | some left =>
        cases second with
        | none =>
            cases selected
            exact typed (fun _ _ _ none => by cases none)
        | some right =>
            dsimp only at selected
            split_ifs at selected with different
            cases selected
            refine typed (fun _ _ leftEq rightEq => ?_)
            cases leftEq
            cases rightEq
            exact Decidable.not_not.mp different

theorem validateLocalTee_ok
    (step : validateLocalTee cx offset pc { stack, controls := frame :: outer } =
      .ok (after, pc')) :
    ChecksSimple cx frame outer (Spec.simpleImmediates cx.code 0x22 pc) stack after pc' := by
  simp only [validateLocalTee, bind_ok, Prod.exists, pure_ok, Except.ok.injEq,
    Prod.mk.injEq] at step
  obtain ⟨index, _, indexRead, type, found, _, peeked, rfl, rfl⟩ := step
  obtain ⟨rest, popped⟩ := peekExpect_ok peeked
  refine ⟨.plain (.localTee index), ?_, .localTee (localType_ok found) popped⟩
  have decoded : Spec.withU32 cx.code .localTee pc = _ := withU32_eq (readLocal_ok indexRead)
  simp [Spec.simpleImmediates, Spec.plainImmediates, decoded]

theorem validateEffect_ok {opcode : Nat}
    (other : opcode ∉ [0x00, 0x0c, 0x0d, 0x0e, 0x0f, 0x10, 0x11, 0x12, 0x13])
    (step : validateEffect cx offset pc { stack, controls := frame :: outer } opcode =
      .ok (after, pc')) :
    ChecksSimple cx frame outer (Spec.simpleImmediates cx.code opcode pc) stack after pc' := by
  simp only [validateEffect, bind_ok, Prod.exists, pure_ok, Except.ok.injEq, Prod.mk.injEq]
    at step
  obtain ⟨effect, _, effectRead, rest, popped, rfl, rfl⟩ := step
  obtain ⟨instr, decoded, signature⟩ := readEffect_ok effectRead
  refine ⟨.plain instr, ?_, .effect signature (popAll_ok popped)⟩
  simp only [List.mem_cons, List.not_mem_nil, or_false, not_or] at other
  obtain ⟨h0, h1, h2, h3, h4, h5, h6, h7, h8⟩ := other
  simp [Spec.simpleImmediates, h0, h1, h2, h3, h4, h5, h6, h7, h8, decoded]

/-- The checker's step decodes an instruction by the grammar and does to the
stacks what the instruction calls for. -/
theorem validateOp_ok {opcode : Nat} (simple : opcode ∉ Spec.blockOpcodes)
    (step : validateOp cx offset pc { stack, controls := frame :: outer } opcode =
      .ok (after, pc')) :
    ChecksSimple cx frame outer (Spec.simpleImmediates cx.code opcode pc) stack after pc' := by
  simp only [Spec.blockOpcodes, List.mem_cons, List.not_mem_nil, or_false, not_or] at simple
  obtain ⟨noBlock, noLoop, noIf, noElse, noEnd⟩ := simple
  simp only [validateOp, if_neg noBlock, if_neg noLoop, if_neg noIf, if_neg noElse,
    if_neg noEnd] at step
  replace step := ite_cases step
  rcases step with ⟨rfl, step⟩ | ⟨n0, step⟩
  · cases step
    exact ⟨.unreachable, rfl, .unreachable⟩
  replace step := ite_cases step
  rcases step with ⟨rfl, step⟩ | ⟨n1, step⟩
  · exact validateBr_ok step
  replace step := ite_cases step
  rcases step with ⟨rfl, step⟩ | ⟨n2, step⟩
  · exact validateBrIf_ok step
  replace step := ite_cases step
  rcases step with ⟨rfl, step⟩ | ⟨n3, step⟩
  · exact validateBrTable_ok step
  replace step := ite_cases step
  rcases step with ⟨rfl, step⟩ | ⟨n4, step⟩
  · exact validateReturn_ok step
  replace step := ite_cases step
  rcases step with ⟨rfl, step⟩ | ⟨n5, step⟩
  · exact validateCall_ok step
  replace step := ite_cases step
  rcases step with ⟨rfl, step⟩ | ⟨n6, step⟩
  · exact validateCallIndirect_ok step
  replace step := ite_cases step
  rcases step with ⟨rfl, step⟩ | ⟨n7, step⟩
  · exact validateReturnCall_ok step
  replace step := ite_cases step
  rcases step with ⟨rfl, step⟩ | ⟨n8, step⟩
  · exact validateReturnCallIndirect_ok step
  replace step := ite_cases step
  rcases step with ⟨rfl, step⟩ | ⟨-, step⟩
  · exact validateDrop_ok step
  replace step := ite_cases step
  rcases step with ⟨rfl, step⟩ | ⟨-, step⟩
  · exact validateSelect_ok step
  replace step := ite_cases step
  rcases step with ⟨rfl, step⟩ | ⟨-, step⟩
  · exact validateLocalTee_ok step
  exact validateEffect_ok (by simp [n0, n1, n2, n3, n4, n5, n6, n7, n8]) step

end Arms

/-- The step keeps every frame, except that it may mark the innermost one as
unreachable. -/
theorem SimpleChecked.controls {instr : Simple} {stack : OperandTypes} {after : CheckState}
    (checked : SimpleChecked cx frame outer instr stack after) :
    ∃ unreachable, after.controls = { frame with unreachable } :: outer := by
  cases checked with
  | effect | localTee | drop | select | brIf | call | callIndirect =>
      exact ⟨frame.unreachable, rfl⟩
  | unreachable | br | brTable | «return» | returnCall | returnCallIndirect =>
      exact ⟨true, rfl⟩

end MiniWasm.Validator
