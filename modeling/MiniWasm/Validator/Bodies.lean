import MiniWasm.Validator.Module
import MiniWasm.Validator.Structure

/-!
# The bodies of an accepted module

Acceptance of a module, one body at a time: the context in which each defined
function was checked, and what the checker let pass in it.
-/

namespace MiniWasm.Validator

open Library

variable {module : Module}

/-! ## Defined functions -/

/-- A defined function of the module, with its type and its body. -/
structure Defined (module : Module) (defined : Nat) (type : FuncType) (body : FunctionBody) :
    Prop where
  type : ∃ typeIndex, module.functionTypeIndices[defined]? = some typeIndex ∧
    module.types[typeIndex]? = some type
  body : module.code[defined]? = some body

/-- Types of the declared locals of a body. -/
def declaredTypes (groups : List (Nat × ValueType)) : List ValueType :=
  groups.flatMap fun (count, type) => List.replicate count type

theorem resizeLocals_ok {function : Nat} {groups : List (Nat × ValueType)}
    {localTypes final : List ValueType}
    (resized : resizeLocals function localTypes groups = .ok final) :
    final = localTypes ++ declaredTypes groups := by
  induction groups generalizing localTypes with
  | nil =>
      cases resized
      simp [declaredTypes]
  | cons group groups ih =>
      obtain ⟨count, type⟩ := group
      unfold resizeLocals at resized
      rcases ite_cases resized with ⟨-, failed⟩ | ⟨-, rest⟩
      · cases failed
      · rw [ih rest, List.append_assoc]
        rfl

/-- The context in which a defined function is checked. -/
def bodyContext (module : Module) (defined : Nat) (type : FuncType) (body : FunctionBody) :
    CodeContext where
  module
  function := module.functionImportCount + defined
  localTypes := type.params ++ declaredTypes body.locals
  functionResults := type.results
  code := body.code

variable {defined : Nat} {type : FuncType} {body : FunctionBody}

theorem Accepted.validateCode (accepted : Accepted module)
    (function : Defined module defined type body) :
    validateCode (bodyContext module defined type body) = .ok () := by
  obtain ⟨typeIndex, indexFound, typeFound⟩ := function.type
  have checked := checkEach_ok_iff.mp accepted.functions defined typeIndex indexFound
  simp only [validateFunction, Nat.zero_add, typeFound, function.body, bind_ok] at checked
  obtain ⟨localTypes, resized, valid⟩ := checked
  cases resizeLocals_ok resized
  exact valid

/-- Every body belongs to a defined function. -/
theorem Accepted.definedOfCode (accepted : Accepted module)
    (found : module.code[defined]? = some body) : ∃ type, Defined module defined type body := by
  have lengths := accepted.codeLength
  unfold validateCodeLength at lengths
  rcases ite_cases lengths with ⟨-, failed⟩ | ⟨same, -⟩
  · cases failed
  have inside : defined < module.functionTypeIndices.length := by
    rw [Decidable.not_not.mp same]
    exact (List.getElem?_eq_some_iff.mp found).1
  have indexFound := List.getElem?_eq_getElem inside
  have checked := checkEach_ok_iff.mp accepted.functionTypes defined _ indexFound
  rcases ite_cases checked with ⟨-, failed⟩ | ⟨typeInside, -⟩
  · cases failed
  exact ⟨_, ⟨_, indexFound, List.getElem?_eq_getElem (Nat.lt_of_not_le typeInside)⟩, found⟩

/-- Every body of an accepted module is a structured sequence over which the
checker walked. -/
theorem Accepted.bodyChecked (accepted : Accepted module)
    (function : Defined module defined type body) :
    ∃ instrs ended endPc,
      BodyChecked (bodyContext module defined type body) instrs ended endPc :=
  bodyChecked_of_validateCode (accepted.validateCode function)

/-! ## Instructions that were let pass -/

/-- The checker let the instruction pass somewhere in the module. -/
def Passed (module : Module) (instr : Simple) : Prop :=
  ∃ cx frame outer stack after, cx.module = module ∧
    SimpleChecked cx frame outer instr stack after

theorem Passed.memories {instr : Simple} (passed : Passed module instr) :
    ∀ memory ∈ instr.memories, memory < module.memoryCount := by
  obtain ⟨cx, frame, outer, stack, after, rfl, checked⟩ := passed
  cases checked with
  | effect signature => exact Spec.plainSignature_memories signature
  | _ => exact fun _ named => by cases named

theorem SeqChecked.every {cx : CodeContext} {state final : CheckState} {pc finish : Nat}
    {instrs : Instrs} {frame : ControlFrame} {outer : List ControlFrame}
    (checked : SeqChecked cx state pc instrs final finish)
    (controls : state.controls = frame :: outer) : instrs.Every (Passed cx.module) := by
  induction checked generalizing frame outer with
  | done => trivial
  | @simple state _ _ _ _ _ _ _ decoded advances _ ih =>
      obtain ⟨stack, _⟩ := state
      subst controls
      have passed := advances.simple decoded
      obtain ⟨_, afterControls⟩ := passed.controls
      exact ⟨⟨cx, _, _, _, _, rfl, passed⟩, ih afterControls⟩
  | @block state _ ended _ _ _ _ _ _ _ _ _ _ opcode _ opens body endByte ends _ bodyIH nextIH =>
      obtain ⟨stack, _⟩ := state
      subst controls
      obtain ⟨signature, rest, opened⟩ := opens.opened opcode
      have innerControls := congrArg CheckState.controls opened.inner
      obtain ⟨_, endControls⟩ := body.controls innerControls
      obtain ⟨endStack, _⟩ := ended
      subst endControls
      exact ⟨bodyIH innerControls, nextIH (ends.ended endByte).2.2.2.1⟩
  | @ifThen state _ ended _ _ _ _ _ _ _ _ _ opcode _ opens body endByte ends _ bodyIH nextIH =>
      obtain ⟨stack, _⟩ := state
      subst controls
      obtain ⟨signature, rest, opened⟩ := opens.openedIf opcode
      have innerControls := congrArg CheckState.controls opened.inner
      obtain ⟨_, endControls⟩ := body.controls innerControls
      obtain ⟨endStack, _⟩ := ended
      subst endControls
      exact ⟨bodyIH innerControls, nextIH (ends.ended endByte).2.2.2.1⟩
  | @ifElse state _ switching _ ended _ _ _ _ _ _ _ _ _ _ _ opcode _ opens body elseByte switches
      other endByte ends _ bodyIH otherIH nextIH =>
      obtain ⟨stack, _⟩ := state
      subst controls
      obtain ⟨signature, rest, opened⟩ := opens.openedIf opcode
      have innerControls := congrArg CheckState.controls opened.inner
      obtain ⟨_, switchControls⟩ := body.controls innerControls
      obtain ⟨switchStack, _⟩ := switching
      subst switchControls
      obtain ⟨-, -, -, -, otherState⟩ := switches.switched elseByte
      have otherControls := congrArg CheckState.controls otherState
      obtain ⟨_, endControls⟩ := other.controls otherControls
      obtain ⟨endStack, _⟩ := ended
      subst endControls
      exact ⟨bodyIH innerControls, otherIH otherControls, nextIH (ends.ended endByte).2.2.2.1⟩

theorem BodyChecked.every {cx : CodeContext} {instrs : Instrs} {ended : CheckState} {endPc : Nat}
    (body : BodyChecked cx instrs ended endPc) : instrs.Every (Passed cx.module) :=
  body.checked.every rfl

end MiniWasm.Validator
