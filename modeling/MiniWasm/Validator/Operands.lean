import MiniWasm.Library.Truncate
import MiniWasm.Validator.Immediates

/-!
# Operand and control stacks of the code checker

The checker keeps one flat stack of operand types and a stack of control
frames, each of which remembers the operand height at its entry.  Both stacks
are lists with the top, or the innermost frame, at the head; the type lists
inside a frame keep source order.
-/

namespace MiniWasm.Validator

open Library

structure ControlFrame where
  kind : ControlKind
  height : Nat
  paramTypes : List ValueType
  endTypes : List ValueType
  labelTypes : List ValueType
  unreachable : Bool
  seenElse : Bool
  deriving DecidableEq, Repr

abbrev OperandTypes := List ValueType

variable (cx : CodeContext) (offset : Nat)

def underflow {α : Type} : Checked α :=
  .error (.operandStackUnderflow cx.function offset)

/-- The stack is at the entry height of an unreachable frame, where every pop
succeeds without an operand. -/
def ControlFrame.polymorphicAt (frame : ControlFrame) (stack : OperandTypes) : Bool :=
  stack.length == frame.height && frame.unreachable

def popExpect (controls : List ControlFrame) (stack : OperandTypes)
    (expected : ValueType) : Checked OperandTypes :=
  match controls with
  | [] => underflow cx offset
  | frame :: _ =>
      if frame.polymorphicAt stack then
        .ok stack
      else
        match stack with
        | [] => underflow cx offset
        | actual :: rest =>
            if actual = expected then
              .ok rest
            else
              .error (.typeMismatch cx.function offset expected actual)

def popAny (controls : List ControlFrame) (stack : OperandTypes) :
    Checked (Option ValueType × OperandTypes) :=
  match controls with
  | [] => underflow cx offset
  | frame :: _ =>
      if frame.polymorphicAt stack then
        .ok (none, stack)
      else
        match stack with
        | [] => underflow cx offset
        | actual :: rest => .ok (some actual, rest)

def peekExpect (controls : List ControlFrame) (stack : OperandTypes)
    (expected : ValueType) : Checked Unit :=
  match controls with
  | [] => underflow cx offset
  | frame :: _ =>
      if frame.polymorphicAt stack then
        .ok ()
      else
        match stack with
        | [] => underflow cx offset
        | actual :: _ =>
            if actual = expected then
              .ok ()
            else
              .error (.typeMismatch cx.function offset expected actual)

/-- Pop the given types in order, the first of them from the top. -/
def popAll (controls : List ControlFrame) :
    List ValueType → OperandTypes → Checked OperandTypes
  | [], stack => .ok stack
  | expected :: rest, stack => do
      let stack ← popExpect cx offset controls stack expected
      popAll controls rest stack

/-- Pop the parameters of a block and push them again above its height. -/
def enterControl (controls : List ControlFrame) (stack : OperandTypes)
    (params : List ValueType) : Checked (Nat × OperandTypes) := do
  let stack ← popAll cx offset controls params.reverse stack
  return (stack.length, params.reverse ++ stack)

def applyCallSignature (controls : List ControlFrame) (stack : OperandTypes)
    (type : FuncType) : Checked OperandTypes := do
  let stack ← popAll cx offset controls type.params.reverse stack
  return type.results.reverse ++ stack

def controlAtDepth (controls : List ControlFrame) (depth : Nat) :
    Checked ControlFrame :=
  match controls[depth]? with
  | some frame => .ok frame
  | none => .error (.branchDepthOutOfBounds cx.function offset depth)

/-- The comparison loop over a slice of the stack and the expected types, both
in source order. -/
def matchTypes : List ValueType → List ValueType → Checked Unit
  | actual :: actuals, expected :: rest =>
      if actual = expected then
        matchTypes actuals rest
      else
        .error (.typeMismatch cx.function offset expected actual)
  | _, _ => .ok ()

def requireLabelValues (controls : List ControlFrame) (stack : OperandTypes)
    (depth : Nat) : Checked Unit := do
  let target ← controlAtDepth cx offset controls depth
  match controls with
  | [] => underflow cx offset
  | current :: _ =>
      if current.polymorphicAt stack then
        return ()
      else if stack.length - current.height < target.labelTypes.length then
        underflow cx offset
      else
        matchTypes cx offset (stack.take target.labelTypes.length).reverse
          target.labelTypes

/-- The operand and control stacks between two instructions. -/
structure CheckState where
  stack : OperandTypes
  controls : List ControlFrame
  deriving DecidableEq, Repr

def markUnreachable (state : CheckState) : CheckState :=
  match state.controls with
  | [] => state
  | frame :: outer =>
      { stack := truncate state.stack frame.height
        controls := { frame with unreachable := true } :: outer }

def applyTailCallSignature (state : CheckState) (type : FuncType) : Checked CheckState :=
  if type.results ≠ cx.functionResults then
    .error (.tailCallResultTypeMismatch cx.function offset cx.functionResults
      type.results)
  else do
    let stack ← popAll cx offset state.controls type.params.reverse state.stack
    return markUnreachable { state with stack }

/-- Check the operands a frame leaves behind.  An unreachable frame is only cut
back to its height. -/
def finishFrame (stack : OperandTypes) (frame : ControlFrame) :
    Checked OperandTypes :=
  if frame.unreachable then
    .ok (truncate stack frame.height)
  else
    let expected := frame.height + frame.endTypes.length
    if stack.length ≠ expected then
      .error (.stackHeightMismatch cx.function offset expected stack.length)
    else do
      matchTypes cx offset (stack.take frame.endTypes.length).reverse frame.endTypes
      return stack

def transitionToElse (state : CheckState) : Checked CheckState :=
  match state.controls with
  | [] => .error (.unexpectedElse cx.function offset)
  | frame :: outer =>
      if frame.kind ≠ .if then
        .error (.unexpectedElse cx.function offset)
      else if frame.seenElse then
        .error (.duplicateElse cx.function offset)
      else do
        let stack ← finishFrame cx offset state.stack frame
        return {
          stack := frame.paramTypes.reverse ++ truncate stack frame.height
          controls := { frame with unreachable := false, seenElse := true } :: outer }

end MiniWasm.Validator
