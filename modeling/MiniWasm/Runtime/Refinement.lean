import MiniWasm.Runtime.Locality
import MiniWasm.Runtime.Soundness
import MiniWasm.Runtime.Structured

/-!
# The interpreter refines structured execution

The interpreter runs bytes with a program counter, a control map, one operand stack and a
stack of control frames with heights.  In well-typed bodies each of its rounds is one
reduction of the structured semantics: the same operands, locals and store, the same calls,
the same results and the same traps.  Nothing but an exhausted fuel budget tells the two
apart.
-/

namespace MiniWasm.Runtime

open Library
open Structured (Continuation Block)
open Validator (BodiesTyped)

variable {σ : Type}

/-! ## Positions determine sequences -/

section Unique

variable {types : List FuncType} {code : List UInt8} {known : Simple → Prop}
variable {control : ExecControlFrame} {label label' : Label} {stop stop' : Nat}

theorem ControlAt.signature (controlAt : ControlAt types code known control label stop) :
    label.signature = ⟨control.paramTypes, control.resultTypes⟩ := by
  rw [controlAt.params, controlAt.results]

/-- A control frame knows what a branch to it leads to, but for what follows its block. -/
theorem ControlAt.continuation (controlAt : ControlAt types code known control label stop)
    (other : ControlAt types code known control label' stop')
    (next : label.next = label'.next) : Continuation.ofLabel label = .ofLabel label' := by
  have again : (if label.loops then some label.body else none) =
      if label'.loops then some label'.body else none := by
    cases loops : label.loops <;> cases loops' : label'.loops
    · rfl
    · have isLoop := (other.loop loops').1
      rcases controlAt.block loops with isBlock | isIf <;> simp_all
    · have isLoop := (controlAt.loop loops).1
      rcases other.block loops' with isBlock | isIf <;> simp_all
    · obtain ⟨-, -, body, endByte, -⟩ := controlAt.loop loops
      obtain ⟨-, -, body', endByte', -⟩ := other.loop loops'
      rw [(body.unique (.inr endByte) body' (.inr endByte')).1]
  simp only [Continuation.ofLabel, again, next, controlAt.signature, other.signature]

theorem ControlAt.stop_terminator (controlAt : ControlAt types code known control label stop) :
    Spec.Terminator code stop := by
  rcases controlAt.terminator with ⟨endByte, -⟩ | ⟨elseByte, -⟩
  · exact .inr endByte
  · exact .inl elseByte

theorem ControlAt.notFunction (controlAt : ControlAt types code known control label stop) :
    control.kind ≠ .function := by
  cases loops : label.loops with
  | true => rw [(controlAt.loop loops).1]; decide
  | false => rcases controlAt.block loops with isBlock | isIf <;> simp [*]

/-- The position and the control frames determine the sequences. -/
theorem Placed.unique {pc : Nat} {controls : List ExecControlFrame} {instrs instrs' : Instrs}
    {labels labels' : List Label} (placed : Placed types code known pc controls instrs labels)
    (other : Placed types code known pc controls instrs' labels') :
    instrs = instrs' ∧ labels.map Continuation.ofLabel = labels'.map .ofLabel := by
  induction placed generalizing instrs' labels' with
  | function _ encodes endByte _ isFunction =>
    cases other with
    | function _ encodes' endByte' =>
      exact ⟨(encodes.unique (.inr endByte) encodes' (.inr endByte')).1, rfl⟩
    | inside _ _ controlAt => exact absurd isFunction controlAt.notFunction
  | inside _ encodes controlAt _ outer ih =>
    cases other with
    | function _ _ _ _ isFunction => exact absurd isFunction controlAt.notFunction
    | inside _ encodes' controlAt' _ outer' =>
      obtain ⟨next, rest⟩ := ih outer'
      refine ⟨(encodes.unique controlAt.stop_terminator encodes' controlAt'.stop_terminator).1,
        ?_⟩
      rw [List.map_cons, List.map_cons, controlAt.continuation controlAt' next, rest]

end Unique

/-! ## Heights -/

/-- Where the operands of each block start, and those of the function. -/
def Structured.heights : List Block → List Nat
  | [] => [0]
  | block :: blocks => ((block :: blocks).flatMap Block.below).length :: heights blocks

section Heights

variable {blocks blocks' : List Block}

theorem heights_head (blocks : List Block) :
    (Structured.heights blocks).head? = some (blocks.flatMap Block.below).length := by
  cases blocks <;> rfl

theorem heights_drop {depth : Nat} (inside : depth ≤ blocks.length) :
    (Structured.heights blocks).drop depth = Structured.heights (blocks.drop depth) := by
  induction blocks generalizing depth with
  | nil =>
    obtain rfl := Nat.le_zero.mp inside
    rfl
  | cons block blocks ih =>
    cases depth with
    | zero => rfl
    | succ depth => exact ih (Nat.le_of_succ_le_succ inside)

/-- Heights and labels tell blocks apart that hold the same operands. -/
theorem blocks_unique (labels : blocks.map Block.label = blocks'.map Block.label)
    (heights : Structured.heights blocks = Structured.heights blocks')
    (below : blocks.flatMap Block.below = blocks'.flatMap Block.below) : blocks = blocks' := by
  induction blocks generalizing blocks' with
  | nil =>
    cases blocks' with
    | nil => rfl
    | cons => cases labels
  | cons block blocks ih =>
    cases blocks' with
    | nil => cases labels
    | cons block' blocks' =>
      have rest : Structured.heights blocks = Structured.heights blocks' :=
        (List.cons.inj heights).2
      have lengths : (blocks.flatMap Block.below).length =
          (blocks'.flatMap Block.below).length := by
        have heads := congrArg List.head? rest
        rw [heights_head, heights_head] at heads
        exact Option.some.inj heads
      rw [List.flatMap_cons, List.flatMap_cons] at below
      obtain ⟨own, others⟩ := List.append_inj' below lengths
      obtain ⟨label, labels⟩ := List.cons.inj labels
      obtain rfl := ih labels rest others
      obtain ⟨label, below⟩ := block
      obtain ⟨label', below'⟩ := block'
      cases label
      cases own
      rfl

end Heights

/-! ## Mirrored frames -/

/-- The control frames stand where the blocks start, and their labels agree. -/
structure SameBlocks (controls : List ExecControlFrame) (labels : List Label)
    (blocks : List Block) : Prop where
  labels : labels.map Continuation.ofLabel = blocks.map Block.label
  heights : controls.map ExecControlFrame.stackHeight = Structured.heights blocks

/-- The frames hold the same data. -/
structure SameData (flat : GuestFrame) (frame : Structured.Frame) : Prop where
  locals : flat.locals = frame.locals
  localTypes : flat.localTypes = frame.localTypes
  results : flat.resultTypes = frame.results
  stack : flat.stack = frame.stack

/-- The interpreter's frame stands where the structured one does: its bytes go on with the
sequence, inside the same blocks, over the same operands.  A frame that has branched out of
its body has only its results left. -/
structure Mirrors (inst : Instance σ) (flat : GuestFrame) (frame : Structured.Frame) :
    Prop where
  data : SameData flat frame
  position : (∃ labels,
      Placed inst.module.types flat.code (Validator.Passed inst.module) flat.pc flat.controls
        frame.instrs labels ∧
      SameBlocks flat.controls labels frame.blocks) ∨
    flat.pc = flat.code.length ∧ flat.controls = [] ∧ frame.instrs = .done ∧ frame.blocks = []

inductive StepMirrors (inst : Instance σ) : FrameStep → Structured.Step → Prop where
  | running {flat : GuestFrame} {frame : Structured.Frame} :
      Mirrors inst flat frame → StepMirrors inst (.running flat) (.running frame)
  | return (results : List Value) :
      StepMirrors inst (.outcome (.return results)) (.outcome (.return results))
  | tailCall (function : Nat) (args : List Value) :
      StepMirrors inst (.outcome (.tailCall function args)) (.outcome (.tailCall function args))
  | call {flat : GuestFrame} {frame : Structured.Frame} (function : Nat) (args : List Value) :
      Mirrors inst flat frame →
      StepMirrors inst (.outcome (.call flat function args)) (.outcome (.call frame function args))

section Frames

variable {inst : Instance σ} {flat : GuestFrame} {frame other : Structured.Frame}
variable {labels : List Label}

theorem SameBlocks.length {controls : List ExecControlFrame} {blocks : List Block}
    (same : SameBlocks controls labels blocks) : blocks.length = labels.length := by
  have length := congrArg List.length same.labels
  rw [List.length_map, List.length_map] at length
  exact length.symm

theorem SameBlocks.drop {controls : List ExecControlFrame} {blocks : List Block} {depth : Nat}
    (same : SameBlocks controls labels blocks) (inside : depth ≤ blocks.length) :
    SameBlocks (controls.drop depth) (labels.drop depth) (blocks.drop depth) where
  labels := by rw [List.map_drop, List.map_drop, same.labels]
  heights := by rw [List.map_drop, same.heights, heights_drop inside]

theorem SameBlocks.height {controls : List ExecControlFrame} {blocks : List Block}
    {control : ExecControlFrame} {depth : Nat} (same : SameBlocks controls labels blocks)
    (inside : depth ≤ blocks.length) (found : controls[depth]? = some control) :
    control.stackHeight = ((blocks.drop depth).flatMap Block.below).length := by
  have dropped := (same.drop inside).heights
  have heads := congrArg List.head? dropped
  rw [heights_head, List.map_drop, List.head?_drop, List.getElem?_map, found] at heads
  exact Option.some.inj heads

/-- The interpreter's frame determines the structured one. -/
theorem Mirrors.unique (mirrors : Mirrors inst flat frame) (mirrors' : Mirrors inst flat other) :
    frame = other := by
  have instrs : frame.instrs = other.instrs ∧ frame.blocks = other.blocks ∧
      frame.operands = other.operands := by
    have stack : frame.stack = other.stack := mirrors.data.stack.symm.trans mirrors'.data.stack
    rcases mirrors.position with ⟨labels, placed, same⟩ | ⟨-, noControls, done, noBlocks⟩ <;>
    rcases mirrors'.position with ⟨labels', placed', same'⟩ | ⟨-, noControls', done', noBlocks'⟩
    · obtain ⟨instrs, labelsEq⟩ := placed.unique placed'
      have heights : Structured.heights frame.blocks = Structured.heights other.blocks :=
        same.heights.symm.trans same'.heights
      have below : (frame.blocks.flatMap Block.below).length =
          (other.blocks.flatMap Block.below).length := by
        have heads := congrArg List.head? heights
        rw [heights_head, heights_head] at heads
        exact Option.some.inj heads
      obtain ⟨operands, below⟩ := List.append_inj' stack below
      refine ⟨instrs, blocks_unique ?_ heights below, operands⟩
      rw [← same.labels, labelsEq, same'.labels]
    · have length := placed.controls_length
      rw [noControls'] at length
      cases length
    · have length := placed'.controls_length
      rw [noControls] at length
      cases length
    · refine ⟨done.trans done'.symm, noBlocks.trans noBlocks'.symm, ?_⟩
      rwa [Structured.Frame.stack, Structured.Frame.stack, noBlocks, noBlocks',
        List.flatMap_nil, List.append_nil, List.append_nil] at stack
  have locals := mirrors.data.locals.symm.trans mirrors'.data.locals
  have localTypes := mirrors.data.localTypes.symm.trans mirrors'.data.localTypes
  have results := mirrors.data.results.symm.trans mirrors'.data.results
  obtain ⟨instrs, blocks, operands⟩ := instrs
  cases frame
  cases other
  simp_all

/-- A caller gets the results of a call on top of its operands. -/
theorem Mirrors.resume (mirrors : Mirrors inst flat frame) (results : List Value) :
    Mirrors inst (flat.resume results) (frame.resume results) where
  data :=
    { mirrors.data with
      stack := by
        rw [Structured.Frame.stack, Structured.Frame.resume, List.append_assoc]
        exact congrArg (results.reverse ++ ·) mirrors.data.stack }
  position := mirrors.position

end Frames

/-! ## Control -/

/-- A run on typed operands does the same on a larger stack. -/
theorem Local.typed {α β : Type} {grow : α → β} {part : Run α} {whole : Run β} {post : α → Prop}
    (framed : Local grow part whole) (safe : Safe post part) :
    Lockstep (fun small large => grow small = large ∧ post small) part whole :=
  framed.lockstep safe id

theorem splitArgs_local (stack below : Stack) (count : Nat) :
    Local (onto below) (splitArgs stack count) (splitArgs (stack ++ below) count) := by
  unfold splitArgs
  by_cases short : stack.length < count
  · rw [if_pos short]
    exact .short
  · have enough : count ≤ stack.length := Nat.le_of_not_lt short
    have enoughToo : ¬ (stack ++ below).length < count := by
      rw [List.length_append]
      omega
    rw [if_neg short, if_neg enoughToo, List.take_append_of_le_length enough,
      List.drop_append_of_le_length enough]
    exact .pure rfl

theorem splitTop_typed {operands : Stack} {types rest : List ValueType}
    (typed : typesOf operands = types.reverse ++ rest) :
    Structured.splitTop operands types.length =
      .ok (operands.take types.length, operands.drop types.length) := by
  have length := stack_length typed
  exact if_neg (by omega)

/-- The operands that are left when a branch gives up the blocks above its target. -/
theorem branch_stack {operands : Stack} {blocks : List Block} {count depth height : Nat}
    (enough : count ≤ operands.length)
    (heightEq : height = ((blocks.drop depth).flatMap Block.below).length) :
    (operands ++ blocks.flatMap Block.below).take count ++
        truncate (operands ++ blocks.flatMap Block.below) height =
      operands.take count ++ (blocks.drop depth).flatMap Block.below := by
  have split : blocks.flatMap Block.below =
      (blocks.take depth).flatMap Block.below ++ (blocks.drop depth).flatMap Block.below := by
    rw [← List.flatMap_append, List.take_append_drop]
  rw [List.take_append_of_le_length enough, split, ← List.append_assoc, heightEq,
    truncate_append]

/-- The operands that are left when the parameters are dropped. -/
theorem waiting_stack {operands others : Stack} {params rest lower : List ValueType}
    (typed : typesOf operands = params.reverse ++ rest) (below : typesOf others = lower) :
    truncate (operands ++ others) (rest ++ lower).length =
      operands.drop params.length ++ others := by
  have waiting := (take_typed typed).2
  rw [List.length_reverse] at waiting
  have split : operands ++ others =
      operands.take params.length ++ (operands.drop params.length ++ others) := by
    rw [← List.append_assoc, List.take_append_drop]
  rw [split]
  exact truncate_eq_of_append
    (by rw [← waiting, ← below, ← typesOf_append, typesOf_length])

theorem takes_ofLabel (label : Label) : (Continuation.ofLabel label).takes = label.types := by
  unfold Continuation.takes Continuation.ofLabel Label.types BlockSignature.labelTypes
  cases label.loops <;> rfl

section Control

variable {inst : Instance σ} {flat : GuestFrame} {frame : Structured.Frame}
variable {labels : List Label} {instrs instrs' : Instrs} {upper lower rest : List ValueType}

/-- The interpreter's frame and the structured one after a step that both take. -/
abbrev Mirrored (inst : Instance σ) (frame : Structured.Frame) (flat : GuestFrame) : Prop :=
  Mirrors inst flat frame

theorem Mirrors.at (data : SameData flat frame)
    (placed : Placed inst.module.types flat.code (Validator.Passed inst.module) flat.pc
      flat.controls frame.instrs labels)
    (same : SameBlocks flat.controls labels frame.blocks) : Mirrors inst flat frame :=
  ⟨data, .inl ⟨labels, placed, same⟩⟩

section Branches

variable {depth : Nat} {target : ExecControlFrame}
variable (data : SameData flat frame)
variable (placed : Placed inst.module.types flat.code (Validator.Passed inst.module) flat.pc
  flat.controls instrs labels)
variable (same : SameBlocks flat.controls labels frame.blocks)
variable (typed : StackTyped (flat.context inst) flat.controls instrs' labels upper lower)
variable (below : typesOf (frame.blocks.flatMap Block.below) = lower)
include data placed same typed below

/-- A branch to the function. -/
theorem branch_function (found : flat.controls[labels.length]? = some target)
    (operands : typesOf frame.operands = flat.resultTypes.reverse ++ rest) :
    Lockstep (Mirrored inst) (frame.branch labels.length) (branchTo flat labels.length) := by
  obtain ⟨current, outer, controls, height⟩ := typed.height
  obtain ⟨root, resultTypes⟩ := typed.root found
  have isFunction : target.kind = .function := by
    rcases placed.label_of_control found with ⟨-, isFunction⟩ | ⟨_, missing, -⟩
    · exact isFunction
    · rw [List.getElem?_eq_none (Nat.le_refl _)] at missing
      cases missing
  have labelTypes : target.labelTypes = flat.resultTypes := by
    rw [ExecControlFrame.labelTypes, isFunction, if_neg (by decide)]
    exact resultTypes
  have stack : flat.stack = frame.operands ++ frame.blocks.flatMap Block.below := data.stack
  have stackTyped : typesOf flat.stack = target.labelTypes.reverse ++ (rest ++ lower) := by
    rw [stack, typesOf_append, operands, below, labelTypes, List.append_assoc]
  have enough := stack_length operands
  have noBlock : frame.blocks[labels.length]? = none :=
    List.getElem?_eq_none (Nat.le_of_eq same.length)
  rw [branchTo_typed found controls height stackTyped, Structured.Frame.branch, noBlock]
  dsimp only
  rw [if_neg (not_not.mpr same.length.symm), ← data.results, splitTop_typed operands, ok_bind]
  refine .ok ⟨⟨data.locals, data.localTypes, rfl, ?_⟩, .inr ?_⟩
  · have gone : (frame.blocks.drop frame.blocks.length).flatMap Block.below = [] := by
      rw [List.drop_length, List.flatMap_nil]
    have kept := @branch_stack frame.operands frame.blocks flat.resultTypes.length
      frame.blocks.length target.stackHeight (by omega) (by rw [gone]; exact root)
    rw [gone] at kept
    rw [labelTypes, stack, kept]
    rfl
  · simp only [branchTarget, isFunction]
    exact ⟨trivial, trivial, trivial, trivial⟩

/-- A branch to a block. -/
theorem branch_label {label : Label} (found : flat.controls[depth]? = some target)
    (labelFound : labels[depth]? = some label)
    (operands : typesOf frame.operands = label.types.reverse ++ rest) :
    Lockstep (Mirrored inst) (frame.branch depth) (branchTo flat depth) := by
  obtain ⟨current, outer, controls, height⟩ := typed.height
  have inside : depth < labels.length := (List.getElem?_eq_some_iff.mp labelFound).1
  rw [← same.length] at inside
  obtain ⟨block, blockFound⟩ : ∃ block, frame.blocks[depth]? = some block :=
    ⟨_, List.getElem?_eq_getElem inside⟩
  have blockLabel : block.label = .ofLabel label := by
    have mapped := congrArg (·[depth]?) same.labels
    simp only [List.getElem?_map, labelFound, blockFound, Option.map_some] at mapped
    exact (Option.some.inj mapped).symm
  rcases placed.label_of_control found with ⟨outermost, -⟩ |
    ⟨_, sameLabel, params, results, goesOn⟩
  · rw [outermost, ← same.length] at inside
    exact absurd inside (Nat.lt_irrefl _)
  cases labelFound.symm.trans sameLabel
  have labelTypes : target.labelTypes = label.types := by
    rw [ExecControlFrame.labelTypes, Label.types, BlockSignature.labelTypes]
    rcases goesOn with ⟨loops, isLoop, -⟩ | ⟨leaves, isBlock, -⟩
    · rw [if_pos isLoop, if_pos loops]
      exact params
    · rw [if_neg (by rcases isBlock with is | is <;> rw [is] <;> decide), if_neg (by simp [leaves])]
      exact results
  have stack : flat.stack = frame.operands ++ frame.blocks.flatMap Block.below := data.stack
  have stackTyped : typesOf flat.stack = target.labelTypes.reverse ++ (rest ++ lower) := by
    rw [stack, typesOf_append, operands, below, labelTypes, List.append_assoc]
  have enough := stack_length operands
  have kept := @branch_stack frame.operands frame.blocks label.types.length depth
    target.stackHeight (by omega) (same.height (Nat.le_of_lt inside) found)
  rw [branchTo_typed found controls height stackTyped, Structured.Frame.branch, blockFound]
  dsimp only
  rw [blockLabel, takes_ofLabel, splitTop_typed operands, ok_bind, labelTypes, stack, kept]
  rcases goesOn with ⟨loops, isLoop, placedAgain⟩ | ⟨leaves, isBlock, placedBehind⟩
  · have again : (Continuation.ofLabel label).again = some label.body := if_pos loops
    rw [again]
    simp only [branchTarget, isLoop]
    exact .ok (.at ⟨data.locals, data.localTypes, data.results, rfl⟩ placedAgain
      (same.drop (Nat.le_of_lt inside)))
  · have behind : (Continuation.ofLabel label).again = none := if_neg (by simp [leaves])
    have target : branchTarget target flat.controls depth flat.code.length =
        (flat.controls.drop (depth + 1), target.endPc + 1) := by
      rcases isBlock with is | is <;> rw [branchTarget, is]
    rw [behind, target]
    refine .ok (.at ⟨data.locals, data.localTypes, data.results, ?_⟩ placedBehind
      (same.drop inside))
    obtain ⟨bound, rfl⟩ := List.getElem?_eq_some_iff.mp blockFound
    rw [List.drop_eq_getElem_cons bound, List.flatMap_cons, ← List.append_assoc]
    rfl

theorem branch_mirrors {types : List ValueType}
    (label : (labelStacks (flat.context inst) labels)[depth]? = some types)
    (operands : typesOf frame.operands = types ++ rest) :
    Lockstep (Mirrored inst) (frame.branch depth) (branchTo flat depth) := by
  have inside : depth < flat.controls.length := by
    have bound := (List.getElem?_eq_some_iff.mp label).1
    rw [labelStacks, List.length_append, List.length_map, List.length_singleton] at bound
    rwa [placed.controls_length]
  have found := List.getElem?_eq_getElem inside
  rcases labelStacks_cases label with ⟨rfl, rfl⟩ | ⟨label, labelFound, rfl⟩
  · exact branch_function data placed same typed below found operands
  · exact branch_label data placed same typed below found labelFound operands

end Branches

/-- A block is entered with its parameters, and the other operands wait below.  The `else`
arm of an `if` starts elsewhere than the body that its control frame names. -/
theorem enter_mirrors {kind : ControlKind} {label : Label} {body : Instrs}
    {pc bodyPc endPc : Nat} (data : SameData flat frame)
    (same : SameBlocks flat.controls labels frame.blocks)
    (inside : ∀ height, Placed inst.module.types flat.code (Validator.Passed inst.module) pc
      (.ofBlock kind label.signature bodyPc endPc height :: flat.controls) body
      (label :: labels))
    (operands : typesOf frame.operands = label.signature.params.reverse ++ rest) :
    Lockstep (Mirrored inst) (frame.enter (.ofLabel label) body) (do
      let stackHeight ← controlEntryHeight flat.stack label.signature.params
      return { flat with
                pc
                controls := .ofBlock kind label.signature bodyPc endPc stackHeight ::
                  flat.controls }) := by
  have stack : flat.stack = frame.operands ++ frame.blocks.flatMap Block.below := data.stack
  have stackTyped : typesOf flat.stack = label.signature.params.reverse ++
      (rest ++ typesOf (frame.blocks.flatMap Block.below)) := by
    rw [stack, typesOf_append, operands, List.append_assoc]
  have waiting : typesOf (frame.operands.drop label.signature.params.length) = rest := by
    have dropped := (take_typed operands).2
    rwa [List.length_reverse] at dropped
  have split : Structured.splitTop frame.operands
      (Continuation.ofLabel label).signature.params.length = _ := splitTop_typed operands
  rw [controlEntryHeight_typed stackTyped, ok_bind, Structured.Frame.enter, split, ok_bind]
  refine .ok (.at ⟨data.locals, data.localTypes, data.results, ?_⟩ (inside _) ⟨?_, ?_⟩)
  · rw [stack, Structured.Frame.stack, List.flatMap_cons, ← List.append_assoc]
    exact congrArg (· ++ _) (List.take_append_drop _ _).symm
  · rw [List.map_cons, List.map_cons, same.labels]
  · rw [List.map_cons, same.heights, Structured.heights, List.flatMap_cons]
    refine congrArg (· :: _) ?_
    rw [← waiting, ← typesOf_append, typesOf_length]
    rfl

/-- The frames with other operands of the innermost block. -/
theorem SameData.withOperands (data : SameData flat frame) (operands : Stack) :
    SameData { flat with stack := operands ++ frame.blocks.flatMap Block.below }
      { frame with operands } :=
  ⟨data.locals, data.localTypes, data.results, rfl⟩

/-- Both frames take the same condition, and the same operands are left over what waits. -/
theorem SameData.condition {types : List ValueType} (data : SameData flat frame)
    (operandsTyped : typesOf frame.operands = .i32 :: types) :
    Lockstep
      (fun small large => onto (frame.blocks.flatMap Block.below) small = large ∧
        typesOf small.2 = types)
      (i32FromStack frame.operands) (i32FromStack flat.stack) := by
  have stack : flat.stack = frame.operands ++ frame.blocks.flatMap Block.below := data.stack
  rw [stack]
  exact (i32FromStack_local ..).typed (i32FromStack_safe operandsTyped)

/-- An arm of an `if`, behind its condition. -/
theorem enterArm_mirrors {signature : BlockSignature} {body next : Instrs}
    {pc bodyPc endPc : Nat} {operands : Stack} (data : SameData flat frame)
    (same : SameBlocks flat.controls labels frame.blocks)
    (inside : ∀ height, Placed inst.module.types flat.code (Validator.Passed inst.module) pc
      (.ofBlock .if signature bodyPc endPc height :: flat.controls) body
      (armLabel signature next :: labels))
    (operandsTyped : typesOf operands = signature.params.reverse ++ rest) :
    Lockstep (Mirrored inst)
      ({ frame with operands }.enter { again := none, signature, next } body) (do
        let stackHeight ←
          controlEntryHeight (operands ++ frame.blocks.flatMap Block.below) signature.params
        return { flat with
                  stack := operands ++ frame.blocks.flatMap Block.below, pc
                  controls := .ofBlock .if signature bodyPc endPc stackHeight ::
                    flat.controls }) :=
  @enter_mirrors σ inst { flat with stack := operands ++ frame.blocks.flatMap Block.below }
    { frame with operands } labels rest .if (armLabel signature next) body pc bodyPc endPc
    (data.withOperands operands) same inside operandsTyped

end Control

/-! ## Rounds -/

/-- The store and the frame that a reduction and the round for it leave. -/
structure AfterMirrors (inst : Instance σ) (after : Store σ × Structured.Step)
    (flat : Store σ × FrameStep) : Prop where
  store : flat.1 = after.1
  step : StepMirrors inst flat.2 after.2

/-- The same for a whole round, which also charges for the instruction. -/
structure RoundMirrors (inst : Instance σ) (budget : ExecutionBudget)
    (after : Store σ × Structured.Step) (flat : Store σ × ExecutionBudget × FrameStep) :
    Prop where
  store : flat.1 = after.1
  hostCalls : flat.2.1.hostCalls = budget.hostCalls
  step : StepMirrors inst flat.2.2 after.2

section Simples

variable {inst : Instance σ} {flat : GuestFrame} {frame : Structured.Frame} {store : Store σ}
variable {labels : List Label} {next : Instrs} {upper lower : List ValueType}

/-- A step that goes on in the frame. -/
theorem running_mirrors {run : Run Structured.Frame} {flatRun : Run GuestFrame}
    (lockstep : Lockstep (Mirrored inst) run flatRun) :
    Lockstep (AfterMirrors inst) (do return (store, .running (← run)))
      (do return (store, .running (← flatRun))) :=
  lockstep.bind fun _ _ mirrors => .pure ⟨rfl, .running mirrors⟩

section Calls

variable {params rest : List ValueType} {operands : Stack}

/-- A call of the frame takes the same arguments, and the frames that wait for it agree. -/
theorem calls_mirrors {function : Nat} (data : SameData flat frame)
    (placed : Placed inst.module.types flat.code (Validator.Passed inst.module) flat.pc
      flat.controls frame.instrs labels)
    (same : SameBlocks flat.controls labels frame.blocks)
    (operandsTyped : typesOf operands = params.reverse ++ rest) :
    Lockstep (AfterMirrors inst)
      (do
        let split ← splitArgs operands params.length
        return (store, .outcome (.call { frame with operands := split.2 } function split.1)))
      (do
        let split ← splitArgs (operands ++ frame.blocks.flatMap Block.below) params.length
        return (store, .outcome (.call { flat with stack := split.2 } function split.1))) := by
  refine ((splitArgs_local operands _ _).typed (splitArgs_typed operandsTyped)).bind ?_
  rintro ⟨args, operands⟩ _ ⟨rfl, -⟩
  exact .pure ⟨rfl, .call function args (.at (data.withOperands operands) placed same)⟩

theorem tailCalls_mirrors {function : Nat} {waiting : Stack}
    (operandsTyped : typesOf operands = params.reverse ++ rest) :
    Lockstep (AfterMirrors inst)
      (do
        let split ← splitArgs operands params.length
        return (store, .outcome (.tailCall function split.1)))
      (do
        let split ← splitArgs (operands ++ waiting) params.length
        return (store, .outcome (.tailCall function split.1))) := by
  refine ((splitArgs_local operands _ _).typed (splitArgs_typed operandsTyped)).bind ?_
  rintro ⟨args, operands⟩ _ ⟨rfl, -⟩
  exact .pure ⟨rfl, .tailCall function args⟩

end Calls

/-- A round at an instruction that opens no block is the reduction of the instruction. -/
theorem executeSimple_mirrors {instr : Simple} (linked : inst.Linked)
    (serves : store.Serves inst) (locals : typesOf flat.locals = flat.localTypes)
    (encodable : ∀ plain, instr = .plain plain → Spec.Encodable plain)
    (data : SameData flat frame)
    (placed : Placed inst.module.types flat.code (Validator.Passed inst.module) flat.pc
      flat.controls frame.instrs labels)
    (same : SameBlocks flat.controls labels frame.blocks)
    (typed : StackTyped (flat.context inst) flat.controls (.simple instr next) labels upper lower)
    (operands : typesOf frame.operands = upper)
    (below : typesOf (frame.blocks.flatMap Block.below) = lower) :
    Lockstep (AfterMirrors inst) (Structured.reduceSimple inst store frame instr)
      (executeSimple inst store flat instr) := by
  obtain ⟨middle, instrTyped, -⟩ := typed.atSimple
  have stack : flat.stack = frame.operands ++ frame.blocks.flatMap Block.below := data.stack
  have branches {depth : Nat} {types rest : List ValueType} {operands : Stack}
      (label : (labelStacks (flat.context inst) labels)[depth]? = some types)
      (operandsTyped : typesOf operands = types ++ rest) :
      Lockstep (Mirrored inst) ({ frame with operands }.branch depth)
        (branchTo { flat with stack := operands ++ frame.blocks.flatMap Block.below } depth) :=
    @branch_mirrors _ _ { flat with stack := operands ++ frame.blocks.flatMap Block.below }
      { frame with operands } _ _ _ _ _ _ _ (data.withOperands operands) placed same typed below _
      label operandsTyped
  cases instrTyped with
  | @plain instr signature rest plainTyped =>
    have executed := executePlain_local inst
      { store, locals := frame.locals, stack := frame.operands }
      (frame.blocks.flatMap Block.below) frame.localTypes instr
    have safe := @executePlain_safe σ inst
      { store, locals := frame.locals, stack := frame.operands } (flat.context inst) instr
      signature rest _ linked serves rfl (data.locals ▸ locals) (encodable _ rfl) plainTyped
      operands
    have context : (flat.context inst).locals = frame.localTypes := data.localTypes
    rw [context] at safe
    rw [Structured.reduceSimple, executeSimple, stack, data.locals, data.localTypes]
    refine (executed.typed safe).bind ?_
    rintro after _ ⟨rfl, -⟩
    exact .pure ⟨rfl, .running
      (.at ⟨rfl, rfl, data.results, rfl⟩ placed same)⟩
  | unreachable => exact .error _
  | br label =>
    have branched := branches label operands
    rw [← stack] at branched
    exact running_mirrors branched
  | @brIf depth label rest labelFound =>
    refine (data.condition operands).bind ?_
    rintro ⟨condition, operands⟩ _ ⟨rfl, operandsTyped⟩
    refine .ite (fun _ => running_mirrors (branches labelFound operandsTyped)) fun _ => ?_
    exact .pure ⟨rfl, .running (.at (data.withOperands operands) placed same)⟩
  | @brTable depths default label rest outs labelsFound =>
    refine (data.condition operands).bind ?_
    rintro ⟨selector, operands⟩ _ ⟨rfl, operandsTyped⟩
    have chosen : depths[selector.toNat]?.getD default ∈ default :: depths := by
      cases listed : depths[selector.toNat]? with
      | none => exact List.mem_cons_self
      | some depth => exact List.mem_cons_of_mem _ (List.mem_of_getElem? listed)
    exact running_mirrors (branches (labelsFound _ chosen) operandsTyped)
  | «return» =>
    have root : (labelStacks (flat.context inst) labels)[labels.length]? =
        some flat.resultTypes.reverse := by
      rw [labelStacks, List.getElem?_append_right (by rw [List.length_map]), List.length_map,
        Nat.sub_self]
      rfl
    have returns : executeReturn flat = branchTo flat labels.length := by
      rw [executeReturn, placed.controls_length]
    have branched := branches root operands
    rw [← stack] at branched
    rw [Structured.reduceSimple, executeSimple, returns, same.length]
    exact running_mirrors branched
  | @call function type rest found =>
    rw [Structured.reduceSimple, executeSimple, functionType_ok_iff.mpr found, ok_bind, ok_bind,
      stack]
    exact calls_mirrors data placed same operands
  | @callIndirect typeIndex table type rest inside listed =>
    refine (data.condition operands).bind ?_
    rintro ⟨element, operands⟩ _ ⟨rfl, operandsTyped⟩
    have resolved := @resolveIndirectCallee_safe σ inst store type linked typeIndex table inside
      listed element.toNat
    refine ((Lockstep.same _ fun _ => rfl).and resolved).bind ?_
    rintro ⟨callee, _⟩ _ ⟨rfl, rfl, -⟩
    exact calls_mirrors data placed same operandsTyped
  | @returnCall function type rest outs found results =>
    have sameResults : ¬ type.results ≠ flat.resultTypes := not_not.mpr results
    rw [Structured.reduceSimple, executeSimple, functionType_ok_iff.mpr found, ok_bind, ok_bind,
      if_neg sameResults, stack]
    exact tailCalls_mirrors operands
  | @returnCallIndirect typeIndex table type rest outs inside listed results =>
    refine (data.condition operands).bind ?_
    rintro ⟨element, operands⟩ _ ⟨rfl, operandsTyped⟩
    have resolved := @resolveIndirectCallee_safe σ inst store type linked typeIndex table inside
      listed element.toNat
    have sameResults : ¬ type.results ≠ flat.resultTypes := not_not.mpr results
    refine ((Lockstep.same _ fun _ => rfl).and resolved).bind ?_
    rintro ⟨callee, _⟩ _ ⟨rfl, rfl, -⟩
    dsimp only
    rw [if_neg sameResults]
    exact tailCalls_mirrors operandsTyped

end Simples

/-- The round has run out of fuel, or it is the reduction. -/
def Reduces (inst : Instance σ) (budget : ExecutionBudget) (run : Run (Store σ × Structured.Step))
    (round : Run (Store σ × ExecutionBudget × FrameStep)) : Prop :=
  round = .error .fuelExhausted ∨ Lockstep (RoundMirrors inst budget) run round

section Rounds

variable {inst : Instance σ} {flat : GuestFrame} {frame : Structured.Frame} {store : Store σ}
variable {budget : ExecutionBudget} {labels : List Label} {upper lower : List ValueType}

/-- A round that has been charged for. -/
theorem charged_reduces {run : Run (Store σ × Structured.Step)}
    {next : ExecutionBudget → Run (Store σ × ExecutionBudget × FrameStep)}
    (each : ∀ after : ExecutionBudget, after.hostCalls = budget.hostCalls →
      Lockstep (RoundMirrors inst budget) run (next after)) :
    Reduces inst budget run (budget.consumeInstruction >>= next) := by
  unfold ExecutionBudget.consumeInstruction
  split
  · exact .inr (each budget rfl)
  · exact .inl rfl
  · exact .inr (each _ rfl)

/-- A charged round that goes on in the frame. -/
theorem running_round {run : Run Structured.Frame} {flatRun : Run GuestFrame}
    {after : ExecutionBudget} (hostCalls : after.hostCalls = budget.hostCalls)
    (lockstep : Lockstep (Mirrored inst) run flatRun) :
    Lockstep (RoundMirrors inst budget) (do return (store, .running (← run)))
      (do return (store, after, .running (← flatRun))) :=
  lockstep.bind fun _ _ mirrors => .pure ⟨rfl, hostCalls, .running mirrors⟩

theorem running_reduces {run : Run Structured.Frame} {flatRun : Run GuestFrame}
    (lockstep : Lockstep (Mirrored inst) run flatRun) :
    Reduces inst budget (do return (store, .running (← run))) (do
      let budget ← budget.consumeInstruction
      let frame ← flatRun
      return (store, budget, .running frame)) :=
  charged_reduces fun _ hostCalls => running_round hostCalls lockstep

section Positions

variable (data : SameData flat frame) (same : SameBlocks flat.controls labels frame.blocks)
include data same

/-- The operands of the innermost block are those that its sequence works on. -/
theorem operands_typed {cx : Spec.Context} {instrs : Instrs}
    (typed : StackTyped cx flat.controls instrs labels upper lower)
    (stackTyped : typesOf flat.stack = upper ++ lower) :
    typesOf frame.operands = upper ∧ typesOf (frame.blocks.flatMap Block.below) = lower := by
  obtain ⟨control, outer, controls, height⟩ := typed.height
  have heights := same.heights
  have heads := congrArg List.head? heights
  rw [controls, heights_head, List.map_cons, List.head?_cons, height] at heads
  rw [data.stack, Structured.Frame.stack, typesOf_append] at stackTyped
  refine List.append_inj' stackTyped ?_
  rw [typesOf_length]
  exact (Option.some.inj heads).symm

variable (stackTyped : typesOf flat.stack = upper ++ lower)
include stackTyped

/-- The `end` of the body returns. -/
theorem endFunction_mirrors (instrs : frame.instrs = .done) (noLabels : labels = [])
    (placed : Placed inst.module.types flat.code (Validator.Passed inst.module) flat.pc
      flat.controls .done labels)
    (typed : StackTyped (flat.context inst) flat.controls .done labels upper lower) :
    Reduces inst budget (Structured.reduce inst store frame)
      (frameStep inst store budget flat) := by
  subst noLabels
  obtain ⟨control, controls, isFunction, endPc, endByte, -⟩ := placed.atEnd
  obtain ⟨rfl, rfl, other, sameControls, height, resultTypes⟩ := typed.atEnd
  cases controls.symm.trans sameControls
  have noBlocks : frame.blocks = [] := List.eq_nil_of_length_eq_zero same.length
  have results : typesOf flat.stack = flat.resultTypes.reverse := by
    rw [stackTyped, List.append_nil]
    rfl
  have left : exitControlFrame [control] flat.stack = .ok [] := by
    have lowest : control.stackHeight = ([] : List ValueType).length := height
    refine exitControlFrame_typed ?_ lowest
    rw [resultTypes]
    exact stackTyped
  obtain ⟨finished, -⟩ :=
    @finishFrame_typed { flat with pc := flat.pc + 1, controls := [] } results
  have stack : flat.stack = frame.operands := by
    rw [data.stack, Structured.Frame.stack, noBlocks, List.flatMap_nil, List.append_nil]
  rw [frameStep_end endByte, Structured.reduce_finished instrs noBlocks]
  refine charged_reduces fun budget hostCalls => ?_
  rw [executeEnd, controls]
  dsimp only
  rw [if_neg (not_not.mpr endPc), left, ok_bind, if_pos isFunction, finished, ok_bind, stack]
  exact .ok ⟨rfl, hostCalls, .return _⟩

/-- The `end` of a block, or the `else` behind the arm of an `if`, joins its results to what
has waited below. -/
theorem endBlock_mirrors {label : Label} {outerLabels : List Label}
    (instrs : frame.instrs = .done) (someLabel : labels = label :: outerLabels)
    (placed : Placed inst.module.types flat.code (Validator.Passed inst.module) flat.pc
      flat.controls .done labels)
    (typed : StackTyped (flat.context inst) flat.controls .done labels upper lower) :
    Reduces inst budget (Structured.reduce inst store frame)
      (frameStep inst store budget flat) := by
  subst someLabel
  obtain ⟨control, outer, controls, resultTypes, notFunction, terminator, behind⟩ :=
    placed.atTerminator
  obtain ⟨other, others, rest, base, sameControls, rfl, rfl, height, -⟩ := typed.atTerminator
  cases controls.symm.trans sameControls
  have left : exitControlFrame (control :: outer) flat.stack = .ok outer := by
    refine exitControlFrame_typed ?_ height
    rw [resultTypes]
    exact stackTyped
  obtain ⟨block, blocks, blocksEq⟩ := List.exists_cons_of_length_eq_add_one same.length
  obtain ⟨labelsEq, heights⟩ := same
  rw [blocksEq, List.map_cons, List.map_cons] at labelsEq
  rw [blocksEq, controls, List.map_cons, Structured.heights] at heights
  obtain ⟨blockLabel, outerLabelsEq⟩ := List.cons.inj labelsEq
  have next : label.next = block.label.next := congrArg Continuation.next blockLabel
  have stack : flat.stack =
      (frame.operands ++ block.below) ++ blocks.flatMap Block.below := by
    rw [data.stack, Structured.Frame.stack, blocksEq, List.flatMap_cons, List.append_assoc]
  have mirrors {pc : Nat} (here : pc = control.endPc + 1) : Mirrors inst
      { flat with pc, controls := outer }
      { frame with
        instrs := block.label.next, operands := frame.operands ++ block.below, blocks } := by
    refine .at ⟨data.locals, data.localTypes, data.results, stack⟩ ?_
      ⟨outerLabelsEq, (List.cons.inj heights).2⟩
    rw [here, ← next]
    exact behind
  rw [Structured.reduce_done instrs blocksEq]
  rcases terminator with ⟨endByte, here⟩ | ⟨elseByte, isIf⟩
  · rw [frameStep_end endByte]
    refine charged_reduces fun budget hostCalls => ?_
    rw [executeEnd, controls]
    dsimp only
    rw [if_neg (not_not.mpr here), left, ok_bind, if_neg notFunction]
    exact .ok ⟨rfl, hostCalls, .running (mirrors (congrArg (· + 1) here.symm))⟩
  · rw [frameStep_else elseByte]
    refine charged_reduces fun budget hostCalls => ?_
    rw [executeElse, controls]
    dsimp only
    rw [if_neg (not_not.mpr isIf), left, ok_bind]
    exact .ok ⟨rfl, hostCalls, .running (mirrors rfl)⟩

end Positions

/-- A round of a typed frame is the reduction of the structured frame that it mirrors. -/
theorem frameStep_mirrors (linked : inst.Linked) (serves : store.Serves inst)
    (faithful : flat.controlMap.Faithful inst.module.types flat.code)
    (stands : Stands inst flat) (mirrors : Mirrors inst flat frame) :
    Reduces inst budget (Structured.reduce inst store frame)
      (frameStep inst store budget flat) := by
  have locals := stands.locals
  have data := mirrors.data
  rcases stands.position with ⟨instrs, labels, upper, lower, placed, typed, stackTyped⟩ |
    ⟨left, noControls, results⟩ <;>
  rcases mirrors.position with ⟨labels', placed', same⟩ | ⟨left', noControls', done, noBlocks⟩
  case inl.inr =>
    have length := placed.controls_length
    rw [noControls'] at length
    cases length
  case inr.inl =>
    have length := placed'.controls_length
    rw [noControls] at length
    cases length
  case inr.inr =>
    obtain ⟨finished, -⟩ := finishFrame_typed results
    have stack : flat.stack = frame.operands := by
      rw [data.stack, Structured.Frame.stack, noBlocks, List.flatMap_nil, List.append_nil]
    rw [frameStep_left left, finished, ok_bind, Structured.reduce_finished done noBlocks, stack]
    exact .inr (.ok ⟨rfl, rfl, .return _⟩)
  obtain ⟨rfl, labelsEq⟩ := placed.unique placed'
  replace same : SameBlocks flat.controls labels frame.blocks :=
    ⟨labelsEq.trans same.labels, same.heights⟩
  obtain ⟨operands, below⟩ := operands_typed data same typed stackTyped
  obtain ⟨outs, seq, -⟩ := typed.seq
  have stack : flat.stack = frame.operands ++ frame.blocks.flatMap Block.below := data.stack
  cases instrs : frame.instrs with
  | done =>
    rw [instrs] at placed typed
    cases labelsCases : labels with
    | nil => exact endFunction_mirrors data same stackTyped instrs labelsCases placed typed
    | cons label outer =>
      exact endBlock_mirrors data same stackTyped instrs labelsCases placed typed
  | simple instr next =>
    rw [instrs] at placed typed
    obtain ⟨pc', decoded, passed, rest⟩ := placed.atSimple
    have memories : ∀ memory ∈ instr.memories, memory < store.memories.length := by
      intro memory named
      rw [serves.fits.memoryCount]
      exact passed.memories memory named
    rw [frameStep_simple decoded memories, Structured.reduce_simple instrs]
    refine charged_reduces fun budget hostCalls => ?_
    have reduced : Lockstep (AfterMirrors inst)
        (Structured.reduceSimple inst store { frame with instrs := next } instr)
        (executeSimple inst store { flat with pc := pc' } instr) :=
      executeSimple_mirrors linked serves locals (Spec.simpleAt_encodable _ decoded)
        ⟨data.locals, data.localTypes, data.results, stack⟩ rest same typed operands below
    rw [← bind_pure (Structured.reduceSimple inst store { frame with instrs := next } instr)]
    exact reduced.bind fun _ _ after => .pure ⟨after.store, hostCalls, after.step⟩
  | block loops signature body next =>
    rw [instrs] at placed typed seq
    obtain ⟨bodyPc, endPc, opcode, decoded, block, inside⟩ := placed.atBlock
    rw [frameStep_block faithful placed.boundary opcode decoded block,
      Structured.reduce_block instrs]
    cases seq with
    | block bodyTyped nextTyped =>
      exact running_reduces (enter_mirrors data same inside operands)
  | ifThen signature body next =>
    rw [instrs] at placed typed seq
    obtain ⟨bodyPc, endPc, opcode, decoded, block, inside, behind⟩ := placed.atIfThen
    rw [frameStep_if faithful placed.boundary opcode decoded block,
      Structured.reduce_ifThen instrs]
    cases seq with
    | @ifThen _ _ _ _ rest _ _ noResults bodyTyped nextTyped =>
      refine charged_reduces fun budget hostCalls => ?_
      have popped : typesOf frame.operands = .i32 :: (signature.params.reverse ++ rest) := operands
      rw [enterIf, bind_assoc]
      refine (data.condition popped).bind ?_
      rintro ⟨condition, operands⟩ _ ⟨rfl, operandsTyped⟩
      by_cases taken : condition ≠ 0
      · dsimp only [onto]
        rw [if_pos taken, if_pos taken]
        have entered := enterArm_mirrors data same inside operandsTyped
        exact running_round hostCalls entered
      · have stackTyped : typesOf (operands ++ frame.blocks.flatMap Block.below) =
            signature.params.reverse ++ (rest ++ lower) := by
          rw [typesOf_append, operandsTyped, below, List.append_assoc]
        have kept := waiting_stack operandsTyped below
        dsimp only [onto]
        rw [if_neg taken, if_neg taken, splitTop_typed operandsTyped,
          controlEntryHeight_typed stackTyped]
        simp only [ok_bind, pure_bind, kept]
        exact .pure ⟨rfl, hostCalls, .running (.at
          ⟨data.locals, data.localTypes, data.results, rfl⟩ behind same)⟩
  | ifElse signature body alternative next =>
    rw [instrs] at placed typed seq
    obtain ⟨bodyPc, elsePc, endPc, opcode, decoded, block, inside, other⟩ := placed.atIfElse
    rw [frameStep_if faithful placed.boundary opcode decoded block,
      Structured.reduce_ifElse instrs]
    cases seq with
    | @ifElse _ _ _ _ _ rest _ bodyTyped otherTyped nextTyped =>
      refine charged_reduces fun budget hostCalls => ?_
      have popped : typesOf frame.operands = .i32 :: (signature.params.reverse ++ rest) := operands
      rw [enterIf, bind_assoc]
      refine (data.condition popped).bind ?_
      rintro ⟨condition, operands⟩ _ ⟨rfl, operandsTyped⟩
      by_cases taken : condition ≠ 0
      · dsimp only [onto]
        rw [if_pos taken, if_pos taken]
        have entered := enterArm_mirrors data same inside operandsTyped
        exact running_round hostCalls entered
      · dsimp only [onto]
        rw [if_neg taken, if_neg taken]
        have entered := enterArm_mirrors data same other operandsTyped
        exact running_round hostCalls entered

end Rounds

/-! ## Invocations -/

inductive CurrentMirrors (inst : Instance σ) : Current → Structured.Current → Prop where
  | frame {flat : GuestFrame} {frame : Structured.Frame} :
      Mirrors inst flat frame → CurrentMirrors inst (.frame flat) (.frame frame)
  | function (index : Nat) (args : List Value) :
      CurrentMirrors inst (.function index args) (.function index args)

/-- The machines have one store, have made as many host calls, and their frames mirror each
other, the running one and the callers. -/
structure MachineMirrors (inst : Instance σ) (flat : Machine σ)
    (machine : Structured.Machine σ) : Prop where
  store : flat.store = machine.store
  hostCalls : flat.budget.hostCalls = machine.hostCalls
  depth : flat.depth = machine.callers.length
  current : CurrentMirrors inst flat.current machine.current
  callers : List.Forall₂ (Mirrors inst) flat.callers machine.callers

inductive StateMirrors (inst : Instance σ) : InvokeState σ → Structured.State σ → Prop where
  | running {flat : Machine σ} {machine : Structured.Machine σ} :
      MachineMirrors inst flat machine → StateMirrors inst (.running flat) (.running machine)
  | finished (store : Store σ) (result : Run (List Value)) :
      StateMirrors inst (.finished store result) (.finished store result)

/-- The invocation has run out of fuel. -/
def InvokeState.Starved (state : InvokeState σ) : Prop :=
  ∃ store, state = .finished store (.error .fuelExhausted)

section Invocations

variable {inst : Instance σ} {flat : Machine σ} {machine other : Structured.Machine σ}
variable {program : List Instrs}

/-- The machine determines the structured one. -/
theorem MachineMirrors.unique (mirrors : MachineMirrors inst flat machine)
    (mirrors' : MachineMirrors inst flat other) : machine = other := by
  have store := mirrors.store.symm.trans mirrors'.store
  have hostCalls := mirrors.hostCalls.symm.trans mirrors'.hostCalls
  have current : machine.current = other.current := by
    have first := mirrors.current
    have second := mirrors'.current
    generalize flat.current = shown at first second
    generalize machine.current = left at first ⊢
    generalize other.current = right at second ⊢
    cases first with
    | frame frame =>
      cases second with
      | frame frame' => exact congrArg _ (frame.unique frame')
    | function =>
      cases second
      rfl
  have callers : machine.callers = other.callers := by
    have first := mirrors.callers
    have second := mirrors'.callers
    generalize flat.callers = shown at first second
    generalize machine.callers = left at first ⊢
    generalize other.callers = right at second ⊢
    induction first generalizing right with
    | nil =>
      cases second
      rfl
    | cons head _ ih =>
      cases second with
      | cons head' rest => rw [head.unique head', ih _ rest]
  cases machine
  cases other
  simp_all

/-- Results go to the caller, or end the invocation. -/
theorem handleReturn_mirrors (mirrors : MachineMirrors inst flat machine)
    (results : List Value) :
    StateMirrors inst (flat.handleOutcome (.return results))
      (machine.handle (.return results)) := by
  have depth := mirrors.depth
  have callers := mirrors.callers
  unfold Machine.handleOutcome Structured.Machine.handle
  cases waiting : machine.callers with
  | nil =>
    rw [waiting] at callers
    rw [List.forall₂_nil_right_iff.mp callers, mirrors.store]
    exact .finished _ _
  | cons caller rest =>
    rw [waiting] at callers depth
    obtain ⟨flatCaller, flatRest, head, tail, same⟩ := List.forall₂_cons_right_iff.mp callers
    rw [same, depth]
    exact .running ⟨mirrors.store, mirrors.hostCalls, rfl, .frame (head.resume results), tail⟩

/-- What a frame leaves goes to its caller, or starts another function. -/
theorem handleOutcome_mirrors {outcome : FunctionOutcome} {left : Structured.Outcome}
    (mirrors : MachineMirrors inst flat machine)
    (step : StepMirrors inst (.outcome outcome) (.outcome left))
    (shallow : flat.depth < maxCallDepth) :
    StateMirrors inst (flat.handleOutcome outcome) (machine.handle left) := by
  cases step with
  | «return» results => exact handleReturn_mirrors mirrors results
  | tailCall function args =>
    exact .running ⟨mirrors.store, mirrors.hostCalls, mirrors.depth, .function function args,
      mirrors.callers⟩
  | call function args continuation =>
    have inRange : ¬ 2 ^ 64 ≤ flat.depth + 1 := by
      unfold maxCallDepth at shallow
      omega
    unfold Machine.handleOutcome Structured.Machine.handle
    simp only [if_neg inRange]
    exact .running ⟨mirrors.store, mirrors.hostCalls, congrArg (· + 1) mirrors.depth,
      .function function args, .cons continuation mirrors.callers⟩

/-- The frame of a defined function starts with the tree that its body encodes. -/
theorem Started.mirrors {results : List ValueType} {index : Nat} {args : List Value}
    {type : FuncType} {body : FunctionBody} {instrs : Instrs} {frame : GuestFrame}
    (started : Started inst results index args type body instrs frame)
    (decodes : Structured.Decodes inst.module program) :
    ∃ structured, Structured.Machine.startFrame inst program index args = .ok structured ∧
      Mirrors inst frame structured := by
  have placed := started.placed
  obtain ⟨controlMap, endPc, rfl, -, encoded⟩ := started.frame
  obtain ⟨instrs', listed, endPc', encoded'⟩ := forall₂_at decodes started.function.body
  obtain ⟨rfl, -⟩ := encoded.encodes.unique (.inr encoded.endByte) encoded'.encodes
    (.inr encoded'.endByte)
  let structured : Structured.Frame :=
    { locals := args ++ (Instance.declaredLocals body.locals).map zero
      localTypes := type.params ++ Instance.declaredLocals body.locals
      results := type.results, instrs, operands := [], blocks := [] }
  refine ⟨structured, ?_, .at ⟨rfl, rfl, rfl, rfl⟩ placed ⟨rfl, rfl⟩⟩
  unfold Structured.Machine.startFrame
  dsimp only
  rw [started.typeFound, started.function.body, listed]

/-- A function that is about to run. -/
theorem enterFunction_mirrors {results : List ValueType} {index : Nat} {args : List Value}
    (linked : inst.Linked) (bodies : BodiesTyped false inst.module)
    (decodes : Structured.Decodes inst.module program)
    (calls : Calls inst results index args) (mirrors : MachineMirrors inst flat machine) :
    StateMirrors inst (flat.enter inst index args) (machine.enter inst program index args) := by
  unfold Machine.enter Structured.Machine.enter
  by_cases isImport : index < inst.module.functionImportCount
  · rw [if_pos isImport, if_pos isImport]
    have invoked := invokeHost_withFuel inst none flat.store flat.budget index args
    have unlimited : flat.budget.withFuel none = ⟨none, machine.hostCalls⟩ := by
      rw [← mirrors.hostCalls]
      rfl
    rw [unlimited, mirrors.store] at invoked
    rw [invoked, mirrors.store]
    cases inst.invokeHost machine.store flat.budget index args with
    | mk store reply =>
      cases reply with
      | error err => exact .finished _ _
      | ok answer =>
        have answered : MachineMirrors inst { flat with store, budget := answer.1 }
            { machine with store, hostCalls := answer.1.hostCalls } :=
          ⟨rfl, rfl, mirrors.depth, mirrors.current, mirrors.callers⟩
        exact handleReturn_mirrors answered answer.2
  rw [if_neg isImport, if_neg isImport, mirrors.depth]
  by_cases deep : Machine.callDepthLimit inst ≤ machine.callers.length
  · rw [if_pos deep, if_pos deep, mirrors.store]
    exact .finished _ _
  · rw [if_neg deep, if_neg deep]
    obtain ⟨type, body, instrs, frame, started, prepared⟩ :=
      prepareGuestFrame_started linked bodies calls isImport
    obtain ⟨structured, startsToo, same⟩ := started.mirrors decodes
    rw [prepared, startsToo]
    exact .running ⟨mirrors.store, mirrors.hostCalls, rfl, .frame same, mirrors.callers⟩

/-- A step of a typed machine is the step of the structured machine that it mirrors. -/
theorem step_mirrors {results : List ValueType} (linked : inst.Linked)
    (bodies : BodiesTyped false inst.module)
    (decodes : Structured.Decodes inst.module program)
    (typed : (typings inst).Machine results flat) (mirrors : MachineMirrors inst flat machine) :
    (flat.step inst).Starved ∨
      StateMirrors inst (flat.step inst) (machine.step inst program) := by
  obtain ⟨inner, keeps, -⟩ := typed.parts
  have depth := typed.depth
  have current := mirrors.current
  unfold Structured.Machine.step
  cases running : flat.current with
  | function index args =>
    rw [running] at keeps current
    generalize machine.current = right at current ⊢
    cases current
    rw [step_function running]
    exact .inr (enterFunction_mirrors linked bodies decodes keeps mirrors)
  | frame frame =>
    rw [running] at keeps current depth
    generalize machine.current = right at current ⊢
    cases current with
    | @frame _ structured same =>
      rw [step_frame running]
      have framed : FrameTyped inst inner frame := keeps
      have rounds := @frameStep_mirrors σ inst frame structured flat.store flat.budget linked
        typed.store (framed.activation.faithful linked) framed.stands same
      rw [mirrors.store] at rounds ⊢
      rcases rounds with starved | lockstep
      · rw [starved]
        exact .inl ⟨_, rfl⟩
      refine .inr ?_
      generalize frameStep inst machine.store flat.budget frame = round at lockstep ⊢
      dsimp only
      generalize Structured.reduce inst machine.store structured = reduced at lockstep ⊢
      cases lockstep with
      | error err =>
        rw [Machine.afterRound, mirrors.store]
        exact .finished _ _
      | @ok after flatAfter agrees =>
        obtain ⟨store, left⟩ := after
        obtain ⟨flatStore, budget, flatLeft⟩ := flatAfter
        obtain ⟨rfl, hostCalls, step⟩ := agrees
        have advanced : MachineMirrors inst { flat with store := flatStore, budget }
            { machine with store := flatStore } :=
          ⟨rfl, hostCalls.trans mirrors.hostCalls, mirrors.depth, mirrors.current,
            mirrors.callers⟩
        cases step with
        | running again =>
          exact .running ⟨rfl, advanced.hostCalls, mirrors.depth, .frame again, mirrors.callers⟩
        | «return» results => exact handleOutcome_mirrors advanced (.return results) depth
        | tailCall function args =>
          exact handleOutcome_mirrors advanced (.tailCall function args) depth
        | call function args continuation =>
          exact handleOutcome_mirrors advanced (.call function args continuation) depth

theorem start_mirrors (inst : Instance σ) (store : Store σ) (index : Nat) (args : List Value)
    (limits : RuntimeLimits) :
    MachineMirrors inst (.start store index args 0 (.new limits))
      (Structured.Machine.start store index args) :=
  ⟨rfl, rfl, rfl, .function index args, .nil⟩

/-- A run of any length. -/
theorem run_mirrors {results : List ValueType} (linked : inst.Linked)
    (registered : inst.Registered) (bodies : BodiesTyped false inst.module)
    (decodes : Structured.Decodes inst.module program)
    (typed : (typings inst).Machine results flat) (mirrors : MachineMirrors inst flat machine)
    (steps : Nat) :
    (invokeFor inst steps (.running flat)).Starved ∨
      StateMirrors inst (invokeFor inst steps (.running flat))
        (Structured.runFor inst program steps (.running machine)) := by
  induction steps generalizing flat machine with
  | zero => exact .inr (.running mirrors)
  | succ steps ih =>
    rw [invokeFor, Structured.runFor]
    have next := typings_step linked registered bodies typed
    rcases step_mirrors linked bodies decodes typed mirrors with ⟨store, starved⟩ | stepped
    · rw [starved, invokeFor_finished]
      exact .inl ⟨store, rfl⟩
    · generalize flat.step inst = after at next stepped
      generalize machine.step inst program = structured at stepped
      cases stepped with
      | running again => exact ih next again
      | finished store result =>
        rw [invokeFor_finished]
        cases steps <;> exact .inr (.finished store result)

end Invocations

/-! ## Histories -/

namespace World

/-- Every invocation under way in a typed instance mirrors a structured one. -/
def Mirrored (world : World σ) (tenant : Tenant σ) : Prop :=
  BodiesTyped false tenant.inst.module → ∀ program,
    Structured.Decodes tenant.inst.module program → ∀ activity, tenant.activity = some activity →
      ∃ structured, MachineMirrors tenant.inst (activity.machine (world.store tenant)) structured

section Mirrored

variable {world after : World σ} {tenant : Tenant σ}

/-- What others do does not matter. -/
theorem Mirrored.elsewhere (mirrored : world.Mirrored tenant) : after.Mirrored tenant := by
  intro bodies program decodes activity active
  obtain ⟨structured, mirrors⟩ := mirrored bodies program decodes activity active
  exact ⟨{ structured with store := after.store tenant }, rfl, mirrors.hostCalls, mirrors.depth,
    mirrors.current, mirrors.callers⟩

/-- Behind a step of the tenant itself. -/
theorem Mirrored.advance {index : Nat} {state : InvokeState σ}
    (mirrors : BodiesTyped false tenant.inst.module → ∀ program,
      Structured.Decodes tenant.inst.module program → ∀ machine, state = .running machine →
        ∃ structured, MachineMirrors tenant.inst machine structured) :
    (world.advance index tenant state).Mirrored (tenant.after state) := by
  cases state with
  | finished store result =>
    intro bodies program decodes activity active
    cases active
  | running machine =>
    intro bodies program decodes activity active
    cases active
    exact mirrors bodies program decodes machine rfl

end Mirrored

theorem Step.mirrored {before after : World σ} (step : Step before after)
    (keeps : ∀ tenant ∈ before.tenants, before.Keeps tenant)
    (mirrored : ∀ tenant ∈ before.tenants, before.Mirrored tenant) :
    ∀ tenant ∈ after.tenants, after.Mirrored tenant := by
  intro tenant member
  have other (old : tenant ∈ before.tenants) : after.Mirrored tenant :=
    (mirrored tenant old).elsewhere
  cases step with
  | handle | host | refuse => exact other member
  | @instantiate module hosts limits inst store known ready =>
    rcases List.mem_append.mp member with old | new
    · exact other old
    · obtain rfl := List.mem_singleton.mp new
      intro bodies program decodes activity active
      obtain ⟨machine, started, rfl⟩ := Option.map_eq_some_iff.mp active
      obtain ⟨start, -, rfl⟩ := Option.map_eq_some_iff.mp started
      exact ⟨_, start_mirrors inst store start [] inst.limits⟩
  | @writeMemory index memoryIndex address idle bytes store found inactive written =>
    rcases List.mem_or_eq_of_mem_set member with old | rfl
    · exact other old
    · intro bodies program decodes activity active
      cases active
  | @invoke index idle name args found inactive =>
    rcases List.mem_or_eq_of_mem_set member with old | rfl
    · exact other old
    · refine .advance fun _ _ _ machine started => ?_
      obtain ⟨function, type, -, -, -, rfl⟩ := startExport_running started
      exact ⟨_, start_mirrors ..⟩
  | @resume index running activity found active =>
    rcases List.mem_or_eq_of_mem_set member with old | rfl
    · exact other old
    · refine .advance fun bodies program decodes machine stepped => ?_
      have runningMember := List.mem_of_getElem? found
      have runningKeeps := keeps running runningMember
      obtain ⟨results, typed⟩ := runningKeeps.running bodies activity active
      obtain ⟨structured, mirrors⟩ :=
        mirrored running runningMember bodies program decodes activity active
      have next := step_mirrors runningKeeps.linked bodies decodes typed mirrors
      rw [stepped] at next
      rcases next with ⟨store, starved⟩ | same
      · cases starved
      · generalize structured.step running.inst program = stepped at same
        cases same with
        | running again => exact ⟨_, again⟩
  | drop => exact other (List.mem_of_mem_eraseIdx member)

theorem Reachable.mirrored {world : World σ} (reachable : world.Reachable) :
    ∀ tenant ∈ world.tenants, world.Mirrored tenant := by
  have both : ∀ tenant ∈ world.tenants, world.Keeps tenant ∧ world.Mirrored tenant := by
    refine @Reachable.induct σ
      (fun world => ∀ tenant ∈ world.tenants, world.Keeps tenant ∧ world.Mirrored tenant) ?_ ?_
      world reachable
    · intro granted host tenant member
      cases member
    · intro before after step holds tenant member
      have keeps := fun tenant member => (holds tenant member).1
      exact ⟨step.keeps keeps tenant member,
        step.mirrored keeps (fun tenant member => (holds tenant member).2) tenant member⟩
  exact fun tenant member => (both tenant member).2

end World

/-- The interpreter refines the structured semantics, in all histories of a world.  In an
instance with well-typed bodies every invocation under way mirrors exactly one structured
invocation, and each of its steps is the step of that invocation, unless it runs out of fuel;
an invocation of an export, run for any number of steps, mirrors the structured run. -/
theorem flat_refines_structured {world : World σ} (reachable : world.Reachable)
    {tenant : Tenant σ} (member : tenant ∈ world.tenants)
    (bodies : BodiesTyped false tenant.inst.module) {program : List Instrs}
    (decodes : Structured.Decodes tenant.inst.module program) :
    (∀ machine, world.Runs tenant machine →
      ∃ structured, (∀ other, MachineMirrors tenant.inst machine other ↔ other = structured) ∧
        ((machine.step tenant.inst).Starved ∨
          StateMirrors tenant.inst (machine.step tenant.inst)
            (structured.step tenant.inst program))) ∧
    ∀ name args machine,
      tenant.inst.startExport (world.store tenant) name args = .running machine →
      ∃ index, tenant.inst.exportedIndex name .function = .ok index ∧
        ∀ steps, (invokeFor tenant.inst steps (.running machine)).Starved ∨
          StateMirrors tenant.inst (invokeFor tenant.inst steps (.running machine))
            (Structured.runFor tenant.inst program steps
              (.running (.start (world.store tenant) index args))) := by
  have keeps := reachable.keeps tenant member
  refine ⟨fun machine runs => ?_, fun name args machine started => ?_⟩
  · obtain ⟨activity, active, rfl⟩ := runs.running
    obtain ⟨results, typed⟩ := keeps.running bodies activity active
    obtain ⟨structured, mirrors⟩ :=
      reachable.mirrored tenant member bodies program decodes activity active
    refine ⟨structured, fun other => ⟨fun same => same.unique mirrors, ?_⟩,
      step_mirrors keeps.linked bodies decodes typed mirrors⟩
    rintro rfl
    exact mirrors
  · obtain ⟨index, type, exported, -, -, typed⟩ := World.startExport_typed keeps started
    obtain ⟨_, _, exported', -, -, rfl⟩ := startExport_running started
    cases exported.symm.trans exported'
    exact ⟨index, exported, run_mirrors keeps.linked keeps.registered bodies decodes typed
      (start_mirrors ..)⟩

/-! A function that branches out of a block with its result. -/

def leavingBody : Instrs :=
  .block false ⟨[], [.i32]⟩ (.simple (.plain (.i32Const 7)) (.simple (.br 0) .done)) .done

def leaving : Module :=
  { Validator.sevens with
    functionTypeIndices := [0]
    code := [{ locals := [], code := [0x02, 0x7f, 0x41, 0x07, 0x0c, 0x00, 0x0b, 0x0b] }] }

theorem leaving_encodes :
    Spec.EncodesBody leaving.types [0x02, 0x7f, 0x41, 0x07, 0x0c, 0x00, 0x0b, 0x0b] leavingBody
      7 :=
  ⟨.block rfl rfl (.simple rfl (.simple rfl .done)) rfl .done, rfl, rfl⟩

theorem leaving_bodiesTyped : BodiesTyped false leaving := by
  rintro defined type body ⟨⟨typeIndex, indexFound, listed⟩, bodyFound⟩
  obtain rfl := List.mem_singleton.mp (List.mem_of_getElem? bodyFound)
  obtain rfl := List.mem_singleton.mp (List.mem_of_getElem? indexFound)
  obtain rfl := List.mem_singleton.mp (List.mem_of_getElem? listed)
  refine ⟨leavingBody, 7, leaving_encodes, ?_⟩
  have const (cx : Spec.Context) (labels : List (List ValueType)) :
      Spec.SimpleTyped false cx labels (.plain (.i32Const 7)) [] [.i32] :=
    @Spec.SimpleTyped.plain false cx labels _ ⟨[], [.i32]⟩ [] (.fixed rfl)
  have br (cx : Spec.Context) (labels : List (List ValueType)) :
      Spec.SimpleTyped false cx ([.i32] :: labels) (.br 0) [.i32] [.i32] :=
    @Spec.SimpleTyped.br false cx _ 0 [.i32] [] [.i32] rfl
  exact @Spec.SeqTyped.block false _ _ false ⟨[], [.i32]⟩ _ .done [] _
    (.simple (const _ _) fun _ => .simple (br _ _) fun _ => .done) .done

theorem flat_refines_structured_leaving :
    ∃ (world : World Unit) (tenant : Tenant Unit) (machine : Machine Unit),
      tenant ∈ world.tenants ∧
      tenant.inst.startExport (world.store tenant) "seven" [] = .running machine ∧
      ∀ steps, (invokeFor tenant.inst steps (.running machine)).Starved ∨
        StateMirrors tenant.inst (invokeFor tenant.inst steps (.running machine))
          (Structured.runFor tenant.inst [leavingBody] steps
            (.running (.start (world.store tenant) 0 []))) := by
  let hosts : HostRegistry Unit := { functions := [], globals := [], tables := [], memories := [] }
  have known : hosts.Known (World.start (fun _ => true) ()).heap := by
    refine ⟨?_, ?_, ?_⟩ <;> intro entry listed <;> cases listed
  obtain ⟨inst, store, machine, ready, same, exported, started⟩ :
      ∃ inst store machine, instantiate leaving hosts ⟨26, 1, none, none⟩
          (World.start (fun _ => true) ()).heap () = .ready inst store ∧
        inst.module = leaving ∧ inst.exportedIndex "seven" .function = .ok 0 ∧
        inst.startExport store "seven" [] = .running machine :=
    ⟨_, _, _, rfl, rfl, rfl, rfl⟩
  let tenant := Tenant.ofStore inst store ((startFunction inst store).map Machine.activity)
  let world : World Unit := { heap := store.heap, host := store.host, tenants := [tenant] }
  have steps : World.Steps (World.start (fun _ => true) ()) world :=
    .single (.instantiate known ready)
  have member : tenant ∈ world.tenants := List.mem_singleton_self _
  have bodies : BodiesTyped false tenant.inst.module := same ▸ leaving_bodiesTyped
  have decodes : Structured.Decodes tenant.inst.module [leavingBody] :=
    same ▸ .cons ⟨7, leaving_encodes⟩ .nil
  obtain ⟨index, exported', runs⟩ :=
    (flat_refines_structured ⟨_, _, steps⟩ member bodies decodes).2 "seven" [] machine started
  cases exported.symm.trans exported'
  exact ⟨world, tenant, machine, member, started, runs⟩

end MiniWasm.Runtime
