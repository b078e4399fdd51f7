import MiniWasm.Runtime.Activation
import MiniWasm.Runtime.PlainTyping

/-!
# Typed frames

A frame stands in its body with operands of the types that the body has there.  The
operands below the innermost block belong to the blocks around it, and a round of the
interpreter's loop never looks at them.
-/

namespace MiniWasm.Runtime

open Library

variable {σ : Type}

/-! ## Stacks in blocks -/

/-- The operand types of the labels around a position, the function's last. -/
def labelStacks (cx : Spec.Context) (labels : List Label) : List (List ValueType) :=
  labels.map (fun label => label.types.reverse) ++ [cx.results.reverse]

/-- `StackTyped cx controls instrs labels upper lower`: the operands of the innermost
block have the types `upper`, with which its sequence goes on, and those below have the
types `lower`, with which the sequences around it go on. -/
inductive StackTyped (cx : Spec.Context) :
    List ExecControlFrame → Instrs → List Label → List ValueType → List ValueType → Prop where
  | function {control : ExecControlFrame} {instrs : Instrs} {upper : List ValueType} :
      Spec.SeqTyped false cx (labelStacks cx []) instrs upper cx.results.reverse →
      control.stackHeight = 0 → control.resultTypes = cx.results →
      StackTyped cx [control] instrs [] upper []
  | inside {control : ExecControlFrame} {controls : List ExecControlFrame} {instrs : Instrs}
      {label : Label} {labels : List Label} {upper rest lower : List ValueType} :
      Spec.SeqTyped false cx (labelStacks cx (label :: labels)) instrs upper
        label.signature.results.reverse →
      (label.loops = true →
        Spec.SeqTyped false cx (labelStacks cx (label :: labels)) label.body
          label.signature.params.reverse label.signature.results.reverse) →
      control.stackHeight = (rest ++ lower).length →
      StackTyped cx controls label.next labels (label.signature.results.reverse ++ rest) lower →
      StackTyped cx (control :: controls) instrs (label :: labels) upper (rest ++ lower)

namespace StackTyped

variable {cx : Spec.Context} {controls : List ExecControlFrame} {instrs : Instrs}
variable {labels : List Label} {upper lower : List ValueType}

/-- The innermost block starts above the operands of the others. -/
theorem height (typed : StackTyped cx controls instrs labels upper lower) :
    ∃ control outer, controls = control :: outer ∧ control.stackHeight = lower.length := by
  cases typed with
  | function _ height => exact ⟨_, _, rfl, height⟩
  | inside _ _ height => exact ⟨_, _, rfl, height⟩

/-- The sequence of a position. -/
theorem seq (typed : StackTyped cx controls instrs labels upper lower) :
    ∃ outs, Spec.SeqTyped false cx (labelStacks cx labels) instrs upper outs ∧
      ∀ (instrs' : Instrs) (upper' : List ValueType),
        Spec.SeqTyped false cx (labelStacks cx labels) instrs' upper' outs →
        StackTyped cx controls instrs' labels upper' lower := by
  cases typed with
  | function seq height results =>
    exact ⟨_, seq, fun _ _ other => .function other height results⟩
  | inside seq loop height outer =>
    exact ⟨_, seq, fun _ _ other => .inside other loop height outer⟩

theorem atSimple {instr : Simple} {next : Instrs}
    (typed : StackTyped cx controls (.simple instr next) labels upper lower) :
    ∃ middle, Spec.SimpleTyped false cx (labelStacks cx labels) instr upper middle ∧
      (instr.leaves = false → StackTyped cx controls next labels middle lower) := by
  obtain ⟨outs, seq, others⟩ := typed.seq
  cases seq with
  | simple instrTyped next => exact ⟨_, instrTyped, fun stays => others _ _ (next (.inr stays))⟩

/-- At the end of the function. -/
theorem atEnd (typed : StackTyped cx controls .done [] upper lower) :
    upper = cx.results.reverse ∧ lower = [] ∧
      ∃ control, controls = [control] ∧ control.stackHeight = 0 ∧
        control.resultTypes = cx.results := by
  cases typed with
  | function seq height results =>
    cases seq
    exact ⟨rfl, rfl, _, rfl, height, results⟩

/-- At the end of a block: its results replace what it found. -/
theorem atTerminator {label : Label}
    (typed : StackTyped cx controls .done (label :: labels) upper lower) :
    ∃ control outer rest lower', controls = control :: outer ∧ lower = rest ++ lower' ∧
      upper = label.signature.results.reverse ∧ control.stackHeight = lower.length ∧
      StackTyped cx outer label.next labels (label.signature.results.reverse ++ rest) lower' := by
  cases typed with
  | inside seq _ height outer =>
    cases seq
    exact ⟨_, _, _, _, rfl, rfl, rfl, height, outer⟩

/-- Where a branch to a label of a block goes on. -/
theorem target {depth : Nat} {target : ExecControlFrame} {label : Label}
    (typed : StackTyped cx controls instrs labels upper lower)
    (found : controls[depth]? = some target) (labelFound : labels[depth]? = some label) :
    ∃ between rest base, lower = between ++ (rest ++ base) ∧
      target.stackHeight = (rest ++ base).length ∧
      (label.loops = true →
        StackTyped cx (controls.drop depth) label.body (labels.drop depth)
          label.signature.params.reverse (rest ++ base)) ∧
      StackTyped cx (controls.drop (depth + 1)) label.next (labels.drop (depth + 1))
        (label.signature.results.reverse ++ rest) base := by
  induction typed generalizing depth with
  | function => cases labelFound
  | @inside control controls instrs inner labels upper rest lower seq loop height outer ih =>
    cases depth with
    | zero =>
      cases found
      cases labelFound
      exact ⟨[], rest, lower, rfl, height,
        fun loops => .inside (loop loops) loop height outer, outer⟩
    | succ depth =>
      obtain ⟨between, kept, base, rfl, targetHeight, again, behind⟩ := ih found labelFound
      exact ⟨rest ++ between, kept, base, by simp only [List.append_assoc], targetHeight, again,
        behind⟩

/-- The frame of the function, which a branch to the last label leaves. -/
theorem root {target : ExecControlFrame}
    (typed : StackTyped cx controls instrs labels upper lower)
    (found : controls[labels.length]? = some target) :
    target.stackHeight = 0 ∧ target.resultTypes = cx.results := by
  induction typed with
  | function _ height results =>
    cases found
    exact ⟨height, results⟩
  | inside _ _ _ _ ih => exact ih found

end StackTyped

/-! ## Frames -/

/-- The context in which the body of a frame is typed. -/
def GuestFrame.context (inst : Instance σ) (frame : GuestFrame) : Spec.Context where
  module := inst.module
  locals := frame.localTypes
  results := frame.resultTypes

/-- The frame stands in its body with operands and locals of the types there, or has left
the body with its results. -/
structure Stands (inst : Instance σ) (frame : GuestFrame) : Prop where
  locals : typesOf frame.locals = frame.localTypes
  position : (∃ instrs labels upper lower,
      Placed inst.module.types frame.code (Validator.Passed inst.module) frame.pc frame.controls
        instrs labels ∧
      StackTyped (frame.context inst) frame.controls instrs labels upper lower ∧
      typesOf frame.stack = upper ++ lower) ∨
    frame.pc = frame.code.length ∧ frame.controls = [] ∧
      typesOf frame.stack = frame.resultTypes.reverse

/-- A call of a function with arguments of its parameter types. -/
def Calls (inst : Instance σ) (results : List ValueType) (function : Nat) (args : List Value) :
    Prop :=
  ∃ type, inst.module.functionType function = some type ∧ typesOf args = type.params ∧
    type.results = results

/-- What a round leaves in the place of a frame with the result types. -/
def StepTyped (inst : Instance σ) (results : List ValueType) : FrameStep → Prop
  | .running frame => Stands inst frame
  | .outcome (.return values) => typesOf values = results
  | .outcome (.tailCall function args) => Calls inst results function args
  | .outcome (.call continuation function args) =>
      ∃ inner, Calls inst inner function args ∧
        ∀ values, typesOf values = inner → Stands inst (continuation.resume values)

/-! ## Control -/

section Control

variable {stack : Stack} {params results lower : List ValueType}

theorem take_typed {upper : List ValueType} (typed : typesOf stack = upper ++ lower) :
    typesOf (stack.take upper.length) = upper ∧ typesOf (stack.drop upper.length) = lower := by
  obtain ⟨above, below, rfl, rfl, rfl⟩ := typesOf_eq_append typed
  rw [typesOf_length, List.take_left, List.drop_left]
  exact ⟨rfl, rfl⟩

theorem truncate_typed {upper : List ValueType} {height : Nat}
    (typed : typesOf stack = upper ++ lower) (heightEq : height = lower.length) :
    typesOf (truncate stack height) = lower := by
  obtain ⟨above, below, rfl, rfl, rfl⟩ := typesOf_eq_append typed
  rw [heightEq, typesOf_length, truncate_append]

theorem operandsAbove_typed {height : Nat} (typed : typesOf stack = results.reverse ++ lower)
    (heightEq : height = lower.length) : typesOf (operandsAbove stack height) = results := by
  obtain ⟨above, below, rfl, aboveTyped, rfl⟩ := typesOf_eq_append typed
  have length : (above ++ below).length - height = above.length := by
    rw [heightEq, typesOf_length, List.length_append]
    omega
  rw [operandsAbove, length, List.take_left, typesOf_reverse, aboveTyped, List.reverse_reverse]

theorem stack_length (typed : typesOf stack = params.reverse ++ lower) :
    stack.length = params.length + lower.length := by
  have length := congrArg List.length typed
  rwa [typesOf_length, List.length_append, List.length_reverse] at length

theorem controlEntryHeight_typed (typed : typesOf stack = params.reverse ++ lower) :
    controlEntryHeight stack params = .ok lower.length := by
  have length := stack_length typed
  have height : stack.length - params.length = lower.length := by omega
  unfold controlEntryHeight
  rw [if_neg (by omega), height]
  dsimp only
  rw [validateValues_ok_iff.mpr (operandsAbove_typed typed rfl), ok_bind, pure_ok]

theorem exitControlFrame_typed {control : ExecControlFrame} {outer : List ExecControlFrame}
    (typed : typesOf stack = control.resultTypes.reverse ++ lower)
    (height : control.stackHeight = lower.length) :
    exitControlFrame (control :: outer) stack = .ok outer := by
  have length := stack_length typed
  unfold exitControlFrame
  dsimp only
  rw [if_neg (by omega), validateValues_ok_iff.mpr (operandsAbove_typed typed height), ok_bind,
    pure_ok]

theorem splitArgs_typed (typed : typesOf stack = params.reverse ++ lower) :
    Safe (fun split => typesOf split.1 = params ∧ typesOf split.2 = lower)
      (splitArgs stack params.length) := by
  have length := stack_length typed
  obtain ⟨taken, dropped⟩ := take_typed typed
  rw [List.length_reverse] at taken dropped
  unfold splitArgs
  rw [if_neg (by omega)]
  exact ok_safe ⟨by rw [typesOf_reverse, taken, List.reverse_reverse], dropped⟩

/-- The operands that a branch keeps. -/
theorem branchStack_typed {types between base : List ValueType} {height : Nat}
    (typed : typesOf stack = types.reverse ++ (between ++ base)) (heightEq : height = base.length) :
    typesOf (stack.take types.length ++ truncate stack height) = types.reverse ++ base := by
  have taken := (take_typed typed).1
  rw [List.length_reverse] at taken
  rw [← List.append_assoc] at typed
  rw [typesOf_append, taken, truncate_typed typed heightEq]

/-- A branch whose operands are there. -/
theorem branchTo_typed {frame : GuestFrame} {depth : Nat} {target current : ExecControlFrame}
    {outer : List ExecControlFrame} {rest : List ValueType}
    (found : frame.controls[depth]? = some target) (controls : frame.controls = current :: outer)
    (height : current.stackHeight = lower.length)
    (typed : typesOf frame.stack = target.labelTypes.reverse ++ (rest ++ lower)) :
    branchTo frame depth = .ok
      { frame with
        stack := frame.stack.take target.labelTypes.length ++
          truncate frame.stack target.stackHeight
        controls := (branchTarget target frame.controls depth frame.code.length).1
        pc := (branchTarget target frame.controls depth frame.code.length).2 } := by
  have length := stack_length typed
  rw [List.length_append] at length
  have taken := (take_typed typed).1
  rw [List.length_reverse] at taken
  unfold branchTo
  rw [found]
  dsimp only
  rw [controls] at found ⊢
  dsimp only
  rw [if_neg (by omega), validateValues_ok_iff.mpr
    (by rw [typesOf_reverse, taken, List.reverse_reverse]), ok_bind]
  rfl

end Control

/-! ## Instructions that open no block -/

section Simples

variable {inst : Instance σ} {frame : GuestFrame} {labels : List Label}
variable {lower upper : List ValueType} {instrs instrs' : Instrs} {store : Store σ}

/-- A frame that is at a position. -/
theorem Stands.at {frame : GuestFrame} (locals : typesOf frame.locals = frame.localTypes)
    (placed : Placed inst.module.types frame.code (Validator.Passed inst.module) frame.pc
      frame.controls instrs labels)
    (typed : StackTyped (frame.context inst) frame.controls instrs labels upper lower)
    (stackTyped : typesOf frame.stack = upper ++ lower) : Stands inst frame :=
  ⟨locals, .inl ⟨instrs, labels, upper, lower, placed, typed, stackTyped⟩⟩

/-- The label that a depth names, with the operands that it takes. -/
theorem labelStacks_cases {cx : Spec.Context} {depth : Nat} {types : List ValueType}
    (found : (labelStacks cx labels)[depth]? = some types) :
    (depth = labels.length ∧ types = cx.results.reverse) ∨
      ∃ label, labels[depth]? = some label ∧ types = label.types.reverse := by
  unfold labelStacks at found
  rcases Nat.lt_or_ge depth labels.length with inside | outside
  · rw [List.getElem?_append_left (by rwa [List.length_map]), List.getElem?_map] at found
    obtain ⟨label, labelFound, rfl⟩ := Option.map_eq_some_iff.mp found
    exact .inr ⟨label, labelFound, rfl⟩
  · rw [List.getElem?_append_right (by rwa [List.length_map]), List.length_map] at found
    have last : depth - labels.length = 0 := by
      by_contra later
      rw [List.getElem?_eq_none (by rw [List.length_singleton]; omega)] at found
      cases found
    rw [last] at found
    cases found
    exact .inl ⟨by omega, rfl⟩

section Branches

variable {depth : Nat} {rest : List ValueType} {target : ExecControlFrame}
variable (locals : typesOf frame.locals = frame.localTypes)
variable (placed : Placed inst.module.types frame.code (Validator.Passed inst.module) frame.pc
  frame.controls instrs labels)
variable (typed : StackTyped (frame.context inst) frame.controls instrs' labels upper lower)
include locals placed typed

/-- A branch to the function leaves the body with the results. -/
theorem branchTo_function (found : frame.controls[labels.length]? = some target)
    (stackTyped : typesOf frame.stack = frame.resultTypes.reverse ++ (rest ++ lower)) :
    Safe (Stands inst) (branchTo frame labels.length) := by
  obtain ⟨current, outer, controls, height⟩ := typed.height
  obtain ⟨root, resultTypes⟩ := typed.root found
  have isFunction : target.kind = .function := by
    rcases placed.label_of_control found with ⟨-, isFunction⟩ | ⟨_, missing, -⟩
    · exact isFunction
    · rw [List.getElem?_eq_none (Nat.le_refl _)] at missing
      cases missing
  have labelTypes : target.labelTypes = frame.resultTypes := by
    rw [ExecControlFrame.labelTypes, isFunction, if_neg (by decide)]
    exact resultTypes
  have branch := stackTyped
  rw [← labelTypes] at branch
  refine .of_ok (branchTo_typed found controls height branch) ⟨locals, .inr ?_⟩
  rw [branchTarget, isFunction, labelTypes]
  refine ⟨rfl, rfl, ?_⟩
  rw [← List.append_nil (rest ++ lower)] at stackTyped
  rw [branchStack_typed stackTyped root, List.append_nil]

/-- A branch to a block goes on in its body or behind it. -/
theorem branchTo_label {label : Label} (found : frame.controls[depth]? = some target)
    (labelFound : labels[depth]? = some label)
    (stackTyped : typesOf frame.stack = label.types.reverse ++ (rest ++ lower)) :
    Safe (Stands inst) (branchTo frame depth) := by
  obtain ⟨current, outer, controls, height⟩ := typed.height
  obtain ⟨between, kept, base, rfl, targetHeight, again, behind⟩ := typed.target found labelFound
  rcases placed.label_of_control found with ⟨rfl, -⟩ |
    ⟨_, sameLabel, params, results, goesOn⟩
  · rw [List.getElem?_eq_none (Nat.le_refl _)] at labelFound
    cases labelFound
  cases labelFound.symm.trans sameLabel
  have labelTypes : target.labelTypes = label.types := by
    rw [ExecControlFrame.labelTypes, Label.types, BlockSignature.labelTypes]
    rcases goesOn with ⟨loops, isLoop, -⟩ | ⟨leaves, isBlock, -⟩
    · rw [if_pos isLoop, if_pos loops]
      exact params
    · rw [if_neg (by rcases isBlock with is | is <;> rw [is] <;> decide), if_neg (by simp [leaves])]
      exact results
  have branch := stackTyped
  rw [← labelTypes] at branch
  refine .of_ok (branchTo_typed found controls height branch) ?_
  rw [← List.append_assoc rest] at stackTyped
  have kept := branchStack_typed stackTyped targetHeight
  rcases goesOn with ⟨loops, isLoop, placedAgain⟩ | ⟨leaves, isBlock, placedBehind⟩
  · have types : label.types = label.signature.params := if_pos loops
    rw [types] at kept
    simp only [branchTarget, isLoop, labelTypes, types]
    exact .at locals placedAgain (again loops) kept
  · have types : label.types = label.signature.results := if_neg (by simp [leaves])
    rw [types, ← List.append_assoc] at kept
    have target : branchTarget target frame.controls depth frame.code.length =
        (frame.controls.drop (depth + 1), target.endPc + 1) := by
      rcases isBlock with is | is <;> rw [branchTarget, is]
    rw [target, labelTypes, types]
    exact .at locals placedBehind behind kept

/-- A branch goes to the continuation of its label with the operands that it takes,
whatever follows it. -/
theorem branchTo_safe {types : List ValueType}
    (label : (labelStacks (frame.context inst) labels)[depth]? = some types)
    (stackTyped : typesOf frame.stack = types ++ (rest ++ lower)) :
    Safe (Stands inst) (branchTo frame depth) := by
  have inside : depth < frame.controls.length := by
    have bound := (List.getElem?_eq_some_iff.mp label).1
    rw [labelStacks, List.length_append, List.length_map, List.length_singleton] at bound
    rwa [placed.controls_length]
  have found := List.getElem?_eq_getElem inside
  rcases labelStacks_cases label with ⟨rfl, rfl⟩ | ⟨label, labelFound, rfl⟩
  · exact branchTo_function locals placed typed found stackTyped
  · exact branchTo_label locals placed typed found labelFound stackTyped

end Branches

section Calls

variable {types rest : List ValueType} {type : FuncType}

theorem functionType_ok_iff {function : Nat} :
    inst.functionType function = .ok type ↔ inst.module.functionType function = some type := by
  unfold Instance.functionType
  cases inst.module.functionType function <;> simp

/-- The callee that a table holds has the type that the call expects. -/
theorem resolveIndirectCallee_safe (linked : inst.Linked) {typeIndex table : Nat}
    (inside : table < inst.module.tableCount)
    (listed : inst.module.types[typeIndex]? = some type) (element : Nat) :
    Safe (fun resolved => resolved.2 = type ∧
        inst.module.functionType resolved.1 = some type)
      (inst.resolveIndirectCallee store typeIndex table element) := by
  refine (tableGet_safe linked inside store element).bind fun reference _ => ?_
  cases reference with
  | none => exact trap_safe trivial
  | some callee =>
    dsimp only
    rw [listed]
    dsimp only
    unfold Instance.functionType
    cases found : inst.module.functionType callee with
    | none => exact trap_safe trivial
    | some actual =>
      rw [ok_bind]
      refine .ite (fun _ => trap_safe trivial) fun same => ?_
      exact (yields_pure _).mpr ⟨rfl, by rw [found, Decidable.not_not.mp same]⟩

/-- A call leaves a frame that waits for the results of the callee. -/
theorem call_safe {continuation : GuestFrame} {function : Nat} {stack : Stack}
    (found : inst.module.functionType function = some type)
    (typed : typesOf stack = type.params.reverse ++ (rest ++ lower))
    (waits : ∀ (stack : Stack), typesOf stack = type.results.reverse ++ (rest ++ lower) →
      Stands inst { continuation with stack }) :
    Safe (fun after : Store σ × FrameStep => StepTyped inst types after.2) (do
      let (args, stack) ← splitArgs stack type.params.length
      return (store, .outcome (.call { continuation with stack } function args))) := by
  refine (splitArgs_typed typed).bind ?_
  rintro ⟨args, stack⟩ ⟨argsTyped, stackTyped⟩
  refine (yields_pure _).mpr ⟨type.results, ⟨type, found, argsTyped, rfl⟩, fun values typed => ?_⟩
  refine waits _ ?_
  rw [typesOf_append, typesOf_reverse, typed, stackTyped]

/-- A tail call leaves nothing behind. -/
theorem tailCall_safe {function : Nat} {stack : Stack}
    (found : inst.module.functionType function = some type) (results : type.results = types)
    (typed : typesOf stack = type.params.reverse ++ (rest ++ lower)) :
    Safe (fun after : Store σ × FrameStep => StepTyped inst types after.2) (do
      let (args, _) ← splitArgs stack type.params.length
      return (store, .outcome (.tailCall function args))) := by
  refine (splitArgs_typed typed).bind ?_
  rintro ⟨args, stack⟩ ⟨argsTyped, -⟩
  exact (yields_pure _).mpr ⟨type, found, argsTyped, results⟩

end Calls

/-- A round at an instruction that opens no block. -/
theorem executeSimple_safe {instr : Simple} {next : Instrs} (linked : inst.Linked)
    (serves : store.Serves inst) (locals : typesOf frame.locals = frame.localTypes)
    (placed : Placed inst.module.types frame.code (Validator.Passed inst.module) frame.pc
      frame.controls next labels)
    (encodable : ∀ plain, instr = .plain plain → Spec.Encodable plain)
    (typed : StackTyped (frame.context inst) frame.controls (.simple instr next) labels upper
      lower)
    (stackTyped : typesOf frame.stack = upper ++ lower) :
    Safe (fun after => StepTyped inst frame.resultTypes after.2)
      (executeSimple inst store frame instr) := by
  obtain ⟨middle, instrTyped, goesOn⟩ := typed.atSimple
  -- Where the frame goes on behind an instruction that does not leave.
  have behind (stays : instr.leaves = false) {locals : List Value} {stack : Stack}
      (localsTyped : typesOf locals = frame.localTypes)
      (typed : typesOf stack = middle ++ lower) : Stands inst { frame with locals, stack } :=
    .at localsTyped placed (goesOn stays) typed
  -- The label of a branch is that of the position, whatever comes next.
  have branches {depth : Nat} {types rest : List ValueType} {stack : Stack}
      (label : (labelStacks (frame.context inst) labels)[depth]? = some types)
      (stackTyped : typesOf stack = types ++ (rest ++ lower)) :
      Safe (Stands inst) (branchTo { frame with stack } depth) :=
    @branchTo_safe _ _ { frame with stack } _ _ _ _ _ _ _ locals placed typed _ label stackTyped
  cases instrTyped with
  | @plain instr signature rest plainTyped =>
    rw [List.append_assoc] at stackTyped
    have executed : Safe (Leaves (signature.outs ++ (rest ++ lower)) _)
        (executePlain inst (frame.context inst).locals
          { store, locals := frame.locals, stack := frame.stack } instr) :=
      executePlain_safe linked serves rfl locals (encodable _ rfl) plainTyped stackTyped
    refine executed.bind fun after left => ?_
    refine (yields_pure _).mpr (behind rfl (left.2.trans locals) ?_)
    rw [left.1, List.append_assoc]
  | unreachable => exact trap_safe trivial
  | br label =>
    rw [List.append_assoc] at stackTyped
    exact (branches label stackTyped).bind fun after stands => (yields_pure _).mpr stands
  | @brIf depth label rest labelFound =>
    rw [List.cons_append, List.cons_append, List.append_assoc] at stackTyped
    refine (i32FromStack_safe stackTyped).bind ?_
    rintro ⟨condition, stack⟩ typed
    refine .ite (fun _ => ?_) fun _ => ?_
    · exact (branches labelFound typed).bind fun after stands => (yields_pure _).mpr stands
    · refine (yields_pure _).mpr (behind rfl locals ?_)
      rw [typed, List.append_assoc]
  | @brTable depths default label rest outs labelsFound =>
    rw [List.cons_append, List.cons_append, List.append_assoc] at stackTyped
    refine (i32FromStack_safe stackTyped).bind ?_
    rintro ⟨selector, stack⟩ typed
    have chosen : depths[selector.toNat]?.getD default ∈ default :: depths := by
      cases listed : depths[selector.toNat]? with
      | none => exact List.mem_cons_self
      | some depth => exact List.mem_cons_of_mem _ (List.mem_of_getElem? listed)
    exact (branches (labelsFound _ chosen) typed).bind fun after stands =>
      (yields_pure _).mpr stands
  | «return» =>
    rw [List.append_assoc] at stackTyped
    have length := placed.controls_length
    have root : (labelStacks (frame.context inst) labels)[labels.length]? =
        some frame.resultTypes.reverse := by
      rw [labelStacks, List.getElem?_append_right (by rw [List.length_map]), List.length_map,
        Nat.sub_self]
      rfl
    have returns : executeReturn frame = branchTo frame labels.length := by
      rw [executeReturn, length]
    rw [executeSimple, returns]
    exact (branches root stackTyped).bind fun after stands => (yields_pure _).mpr stands
  | @call function type rest found =>
    rw [List.append_assoc] at stackTyped
    rw [executeSimple, functionType_ok_iff.mpr found, ok_bind]
    refine call_safe found stackTyped fun stack typed => behind rfl locals ?_
    rw [typed, List.append_assoc]
  | @callIndirect typeIndex table type rest inside listed =>
    rw [List.cons_append, List.cons_append, List.append_assoc] at stackTyped
    refine (i32FromStack_safe stackTyped).bind ?_
    rintro ⟨element, stack⟩ typed
    refine (resolveIndirectCallee_safe linked inside listed _).bind ?_
    rintro ⟨callee, _⟩ ⟨rfl, found⟩
    refine call_safe found typed fun stack typed => behind rfl locals ?_
    rw [typed, List.append_assoc]
  | @returnCall function type rest outs found results =>
    rw [List.append_assoc] at stackTyped
    rw [executeSimple, functionType_ok_iff.mpr found, ok_bind]
    refine .ite (fun differ => absurd results differ) fun _ => ?_
    exact tailCall_safe found results stackTyped
  | @returnCallIndirect typeIndex table type rest outs inside listed results =>
    rw [List.cons_append, List.cons_append, List.append_assoc] at stackTyped
    refine (i32FromStack_safe stackTyped).bind ?_
    rintro ⟨element, stack⟩ typed
    refine (resolveIndirectCallee_safe linked inside listed _).bind ?_
    rintro ⟨callee, _⟩ ⟨rfl, found⟩
    refine .ite (fun differ => absurd results differ) fun _ => ?_
    exact tailCall_safe found results typed

end Simples

/-! ## One round -/

section Rounds

variable {inst : Instance σ} {frame : GuestFrame} {store : Store σ} {budget : ExecutionBudget}
variable {labels : List Label} {lower upper : List ValueType}

theorem consumeInstruction_safe : Safe (fun _ => True) budget.consumeInstruction := by
  unfold ExecutionBudget.consumeInstruction
  split
  · exact ok_safe trivial
  · exact trap_safe trivial
  · exact ok_safe trivial

/-- A round that goes on in a frame. -/
theorem running_safe {results : List ValueType} {run : Run GuestFrame}
    (safe : Safe (Stands inst) run) :
    Safe (fun after => StepTyped inst results after.2.2) (do
      let budget ← budget.consumeInstruction
      let frame ← run
      return (store, budget, .running frame)) :=
  consumeInstruction_safe.bind fun _ _ => safe.bind fun _ stands => (yields_pure _).mpr stands

theorem finishFrame_typed (typed : typesOf frame.stack = frame.resultTypes.reverse) :
    finishFrame frame = .ok (.return frame.stack.reverse) ∧
      typesOf frame.stack.reverse = frame.resultTypes := by
  have results : typesOf frame.stack.reverse = frame.resultTypes := by
    rw [typesOf_reverse, typed, List.reverse_reverse]
  have length : frame.stack.length = frame.resultTypes.length := by
    rw [← List.length_reverse, ← typesOf_length, results]
  refine ⟨?_, results⟩
  rw [finishFrame, if_neg (not_not.mpr length), validateValues_ok_iff.mpr results, ok_bind,
    pure_ok]

/-- A block is entered with its parameters, and what was below them stays below. -/
theorem enterBlock_safe {kind : ControlKind} {signature : BlockSignature} {bodyPc endPc : Nat}
    {body next : Instrs} {loops : Bool} {labelBody : Instrs} {rest : List ValueType}
    (locals : typesOf frame.locals = frame.localTypes)
    (inside : ∀ height, Placed inst.module.types frame.code (Validator.Passed inst.module) bodyPc
      (.ofBlock kind signature bodyPc endPc height :: frame.controls) body
      ({ loops, signature, body := labelBody, next } :: labels))
    (bodyTyped : Spec.SeqTyped false (frame.context inst)
      (labelStacks (frame.context inst) ({ loops, signature, body := labelBody, next } :: labels))
      body signature.params.reverse signature.results.reverse)
    (again : loops = true → labelBody = body)
    (behind : StackTyped (frame.context inst) frame.controls next labels
      (signature.results.reverse ++ rest) lower)
    (stackTyped : typesOf frame.stack = signature.params.reverse ++ (rest ++ lower)) :
    Safe (Stands inst) (enterBlock frame kind signature bodyPc endPc) := by
  rw [enterBlock, controlEntryHeight_typed stackTyped, ok_bind]
  refine (yields_pure _).mpr (.at locals (inside _) (.inside bodyTyped ?_ rfl behind) stackTyped)
  intro loops
  exact again loops ▸ bodyTyped

section Positions

variable (locals : typesOf frame.locals = frame.localTypes)
variable (stackTyped : typesOf frame.stack = upper ++ lower)
include stackTyped

/-- At the end of the body the frame returns. -/
theorem endFunction_safe
    (placed : Placed inst.module.types frame.code (Validator.Passed inst.module) frame.pc
      frame.controls .done [])
    (typed : StackTyped (frame.context inst) frame.controls .done [] upper lower) :
    Safe (fun after => StepTyped inst frame.resultTypes after.2.2)
      (frameStep inst store budget frame) := by
  obtain ⟨control, controls, isFunction, endPc, endByte, -⟩ := placed.atEnd
  obtain ⟨rfl, rfl, other, same, height, resultTypes⟩ := typed.atEnd
  cases controls.symm.trans same
  have results : typesOf frame.stack = frame.resultTypes.reverse := by
    rw [stackTyped, List.append_nil]
    rfl
  have left : exitControlFrame [control] frame.stack = .ok [] := by
    have lowest : control.stackHeight = ([] : List ValueType).length := height
    refine exitControlFrame_typed ?_ lowest
    rw [resultTypes]
    exact stackTyped
  obtain ⟨finished, resultsTyped⟩ :=
    @finishFrame_typed { frame with pc := frame.pc + 1, controls := [] } results
  rw [frameStep_end endByte]
  refine consumeInstruction_safe.bind fun budget _ => ?_
  rw [executeEnd, controls]
  dsimp only
  rw [if_neg (not_not.mpr endPc), left, ok_bind, if_pos isFunction, finished, ok_bind]
  exact (yields_pure _).mpr resultsTyped

include locals

/-- At the end of a block the frame goes on behind it. -/
theorem endBlock_safe {label : Label}
    (placed : Placed inst.module.types frame.code (Validator.Passed inst.module) frame.pc
      frame.controls .done (label :: labels))
    (typed : StackTyped (frame.context inst) frame.controls .done (label :: labels) upper lower) :
    Safe (fun after => StepTyped inst frame.resultTypes after.2.2)
      (frameStep inst store budget frame) := by
  obtain ⟨control, outer, controls, resultTypes, notFunction, terminator, behind⟩ :=
    placed.atTerminator
  obtain ⟨other, others, rest, base, same, rfl, rfl, height, outerTyped⟩ := typed.atTerminator
  cases controls.symm.trans same
  have left : exitControlFrame (control :: outer) frame.stack = .ok outer := by
    refine exitControlFrame_typed ?_ height
    rw [resultTypes]
    exact stackTyped
  rw [← List.append_assoc] at stackTyped
  rcases terminator with ⟨endByte, here⟩ | ⟨elseByte, isIf⟩
  · rw [frameStep_end endByte]
    refine consumeInstruction_safe.bind fun budget _ => ?_
    rw [executeEnd, controls]
    dsimp only
    rw [if_neg (not_not.mpr here), left, ok_bind, if_neg notFunction]
    exact (yields_pure _).mpr (.at locals (here ▸ behind) outerTyped stackTyped)
  · rw [frameStep_else elseByte]
    refine running_safe ?_
    rw [executeElse, controls]
    dsimp only
    rw [if_neg (not_not.mpr isIf), left, ok_bind]
    exact (yields_pure _).mpr (.at locals behind outerTyped stackTyped)

end Positions

/-- A round from a frame that stands in its body goes on there, calls, or returns results
of the frame's types, unless it traps. -/
theorem frameStep_safe (linked : inst.Linked) (serves : store.Serves inst)
    (faithful : frame.controlMap.Faithful inst.module.types frame.code)
    (stands : Stands inst frame) :
    Safe (fun after => StepTyped inst frame.resultTypes after.2.2)
      (frameStep inst store budget frame) := by
  have locals := stands.locals
  rcases stands.position with ⟨instrs, labels, upper, lower, placed, typed, stackTyped⟩ |
    ⟨left, -, results⟩
  case inr =>
    obtain ⟨finished, resultsTyped⟩ := finishFrame_typed results
    rw [frameStep_left left, finished, ok_bind]
    exact (yields_pure _).mpr resultsTyped
  obtain ⟨outs, seq, others⟩ := typed.seq
  cases instrs with
  | done =>
    cases labels with
    | nil => exact endFunction_safe stackTyped placed typed
    | cons label labels => exact endBlock_safe locals stackTyped placed typed
  | simple instr next =>
    obtain ⟨pc', decoded, passed, rest⟩ := placed.atSimple
    have memories : ∀ memory ∈ instr.memories, memory < store.memories.length := by
      intro memory named
      rw [serves.fits.memoryCount]
      exact passed.memories memory named
    rw [frameStep_simple decoded memories]
    refine consumeInstruction_safe.bind fun budget _ => ?_
    have executed : Safe (fun after => StepTyped inst frame.resultTypes after.2)
        (executeSimple inst store { frame with pc := pc' } instr) :=
      executeSimple_safe linked serves locals rest (Spec.simpleAt_encodable _ decoded) typed
        stackTyped
    exact executed.bind fun after stepTyped => (yields_pure _).mpr stepTyped
  | block loops signature body next =>
    obtain ⟨bodyPc, endPc, opcode, decoded, block, inside⟩ := placed.atBlock
    rw [frameStep_block faithful placed.boundary opcode decoded block]
    cases seq with
    | @block _ _ _ _ _ rest _ bodyTyped nextTyped =>
      rw [List.append_assoc] at stackTyped
      exact running_safe (enterBlock_safe locals inside bodyTyped (fun _ => rfl)
        (others _ _ nextTyped) stackTyped)
  | ifThen signature body next =>
    obtain ⟨bodyPc, endPc, opcode, decoded, block, inside, behind⟩ := placed.atIfThen
    rw [frameStep_if faithful placed.boundary opcode decoded block]
    cases seq with
    | @ifThen _ _ _ _ rest _ _ noResults bodyTyped nextTyped =>
      rw [List.cons_append, List.cons_append, List.append_assoc] at stackTyped
      refine running_safe ((i32FromStack_safe stackTyped).bind ?_)
      rintro ⟨condition, stack⟩ typed
      refine .ite (fun _ => ?_) fun _ => ?_
      · exact enterBlock_safe locals inside bodyTyped (fun loops => by cases loops)
          (others _ _ nextTyped) typed
      · -- without an alternative the parameters are dropped, and there are no results
        rw [controlEntryHeight_typed typed, ok_bind]
        refine (yields_pure _).mpr (.at locals behind (others _ _ nextTyped) ?_)
        rw [noResults rfl, truncate_typed typed rfl]
        rfl
  | ifElse signature body alternative next =>
    obtain ⟨bodyPc, elsePc, endPc, opcode, decoded, block, inside, other⟩ := placed.atIfElse
    rw [frameStep_if faithful placed.boundary opcode decoded block]
    cases seq with
    | @ifElse _ _ _ _ _ rest _ bodyTyped otherTyped nextTyped =>
      rw [List.cons_append, List.cons_append, List.append_assoc] at stackTyped
      refine running_safe ((i32FromStack_safe stackTyped).bind ?_)
      rintro ⟨condition, stack⟩ typed
      refine .ite (fun _ => ?_) fun _ => ?_
      · exact enterBlock_safe locals inside bodyTyped (fun loops => by cases loops)
          (others _ _ nextTyped) typed
      · rw [controlEntryHeight_typed typed, ok_bind]
        exact (yields_pure _).mpr (.at locals (other _)
          (.inside otherTyped (fun loops => by cases loops) rfl (others _ _ nextTyped)) typed)

end Rounds

end MiniWasm.Runtime
