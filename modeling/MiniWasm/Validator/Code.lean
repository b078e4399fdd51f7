import MiniWasm.Validator.Effects

/-!
# The code checker

One pass over the bytes of a function body.  `validateOp` is the body of the
checker's loop: it handles the instruction whose opcode stands at `offset` and
returns the stacks and the program counter behind it.
-/

namespace MiniWasm.Validator

open Library

variable (cx : CodeContext) (offset pc : Nat) (state : CheckState)

abbrev Step := Checked (CheckState × Nat)

/-- Enter a block, loop or if whose signature has been read and whose condition,
if it has one, has been popped. -/
def pushControl (kind : ControlKind) (signature : BlockSignature)
    (stack : OperandTypes) : Step := do
  let (height, stack) ← enterControl cx offset state.controls stack signature.params
  let labelTypes := if kind = .loop then signature.params else signature.results
  let frame : ControlFrame :=
    { kind, height, paramTypes := signature.params, endTypes := signature.results
      labelTypes, unreachable := false, seenElse := false }
  return ({ stack, controls := frame :: state.controls }, pc)

def validateBlock (kind : ControlKind) : Step := do
  let (signature, pc) ← readBlockSignature cx offset pc
  pushControl cx offset pc state kind signature state.stack

def validateIf : Step := do
  let (signature, pc) ← readBlockSignature cx offset pc
  let stack ← popExpect cx offset state.controls state.stack .i32
  pushControl cx offset pc state .if signature stack

def validateEnd : Step :=
  match state.controls with
  | [] => .error (.unexpectedEnd cx.function offset)
  | frame :: outer =>
      if frame.kind = .if ∧ frame.endTypes ≠ [] ∧ frame.seenElse = false then
        .error (.missingElseForResult cx.function offset)
      else do
        let stack ← finishFrame cx offset state.stack frame
        if frame.kind = .function then
          if pc ≠ cx.code.length then
            .error (.unexpectedEnd cx.function offset)
          else
            return ({ stack, controls := outer }, pc)
        else
          return ({ stack := frame.endTypes.reverse ++ truncate stack frame.height
                    controls := outer }, pc)

def validateBr : Step := do
  let (depth, pc) ← readU32 cx offset pc
  requireLabelValues cx offset state.controls state.stack depth
  return (markUnreachable state, pc)

def validateBrIf : Step := do
  let (depth, pc) ← readU32 cx offset pc
  let stack ← popExpect cx offset state.controls state.stack .i32
  requireLabelValues cx offset state.controls stack depth
  return ({ state with stack }, pc)

/-- The check that the label types of a branch table agree. -/
def checkCommonLabel (common : Option (List ValueType)) (labelTypes : List ValueType) :
    Checked Unit :=
  match common with
  | none => .ok ()
  | some expected =>
      if expected = labelTypes then
        .ok ()
      else
        .error (.branchTableTypeMismatch cx.function offset expected labelTypes)

/-- The loop over the listed targets of a branch table. -/
def readTargets (controls : List ControlFrame) :
    (count pc : Nat) → Option (List ValueType) →
      Checked (Option (List ValueType) × Nat)
  | 0, pc, common => .ok (common, pc)
  | count + 1, pc, common => do
      let (depth, pc) ← readU32 cx offset pc
      let target ← controlAtDepth cx offset controls depth
      checkCommonLabel cx offset common target.labelTypes
      readTargets controls count pc (some (common.getD target.labelTypes))

def validateBrTable : Step := do
  let (targetCount, pc) ← readU32 cx offset pc
  let (common, pc) ← readTargets cx offset state.controls targetCount pc none
  let (defaultDepth, pc) ← readU32 cx offset pc
  let target ← controlAtDepth cx offset state.controls defaultDepth
  checkCommonLabel cx offset common target.labelTypes
  let stack ← popExpect cx offset state.controls state.stack .i32
  requireLabelValues cx offset state.controls stack defaultDepth
  return (markUnreachable { state with stack }, pc)

/-- The cast of the outermost depth to 32 bits is dropped: a body shorter than
`2 ^ 32` bytes cannot open that many frames. -/
def validateReturn : Step :=
  match state.controls.length with
  | 0 => .error .panicked
  | outermost + 1 => do
      requireLabelValues cx offset state.controls state.stack outermost
      return (markUnreachable state, pc)

def readCallee : Checked (FuncType × Nat) := do
  let (target, pc) ← readU32 cx offset pc
  match cx.module.functionType target with
  | some type => return (type, pc)
  | none => .error (.callTargetOutOfBounds cx.function offset target)

def readIndirectCallee : Checked (FuncType × Nat) := do
  let (typeIndex, pc) ← readU32 cx offset pc
  let (_, pc) ← readTable cx offset pc
  match cx.module.types[typeIndex]? with
  | some type => return (type, pc)
  | none => .error (.indirectTypeIndexOutOfBounds cx.function offset typeIndex)

def validateCall : Step := do
  let (type, pc) ← readCallee cx offset pc
  let stack ← applyCallSignature cx offset state.controls state.stack type
  return ({ state with stack }, pc)

def validateCallIndirect : Step := do
  let (type, pc) ← readIndirectCallee cx offset pc
  let stack ← popExpect cx offset state.controls state.stack .i32
  let stack ← applyCallSignature cx offset state.controls stack type
  return ({ state with stack }, pc)

def validateReturnCall : Step := do
  let (type, pc) ← readCallee cx offset pc
  return (← applyTailCallSignature cx offset state type, pc)

def validateReturnCallIndirect : Step := do
  let (type, pc) ← readIndirectCallee cx offset pc
  let stack ← popExpect cx offset state.controls state.stack .i32
  return (← applyTailCallSignature cx offset { state with stack } type, pc)

def validateDrop : Step := do
  let (_, stack) ← popAny cx offset state.controls state.stack
  return ({ state with stack }, pc)

def validateSelect : Step := do
  let stack ← popExpect cx offset state.controls state.stack .i32
  let (second, stack) ← popAny cx offset state.controls stack
  let (first, stack) ← popAny cx offset state.controls stack
  match first, second with
  | some first, some second =>
      if first ≠ second then
        .error (.typeMismatch cx.function offset first second)
      else
        return ({ state with stack := first :: stack }, pc)
  | some first, none => return ({ state with stack := first :: stack }, pc)
  | none, some second => return ({ state with stack := second :: stack }, pc)
  | none, none => return ({ state with stack }, pc)

def validateLocalTee : Step := do
  let (index, pc) ← readLocal cx offset pc
  let type ← localType cx index
  peekExpect cx offset state.controls state.stack type
  return (state, pc)

/-- An arm with a fixed stack effect. -/
def validateEffect (opcode : Nat) : Step := do
  let (effect, pc) ← readEffect cx offset pc opcode
  let stack ← popAll cx offset state.controls effect.pops state.stack
  return ({ state with stack := effect.pushes ++ stack }, pc)

def validateOp (opcode : Nat) : Step :=
  if opcode = 0x00 then
    .ok (markUnreachable state, pc)
  else if opcode = 0x02 then
    validateBlock cx offset pc state .block
  else if opcode = 0x03 then
    validateBlock cx offset pc state .loop
  else if opcode = 0x04 then
    validateIf cx offset pc state
  else if opcode = 0x05 then do
    return (← transitionToElse cx offset state, pc)
  else if opcode = 0x0b then
    validateEnd cx offset pc state
  else if opcode = 0x0c then
    validateBr cx offset pc state
  else if opcode = 0x0d then
    validateBrIf cx offset pc state
  else if opcode = 0x0e then
    validateBrTable cx offset pc state
  else if opcode = 0x0f then
    validateReturn cx offset pc state
  else if opcode = 0x10 then
    validateCall cx offset pc state
  else if opcode = 0x11 then
    validateCallIndirect cx offset pc state
  else if opcode = 0x12 then
    validateReturnCall cx offset pc state
  else if opcode = 0x13 then
    validateReturnCallIndirect cx offset pc state
  else if opcode = 0x1a then
    validateDrop cx offset pc state
  else if opcode = 0x1b then
    validateSelect cx offset pc state
  else if opcode = 0x22 then
    validateLocalTee cx offset pc state
  else
    validateEffect cx offset pc state opcode

/-- The checker's loop.  Every instruction takes at least its opcode byte, so
`cx.code.length` rounds reach the end of the body. -/
def validateFrom : (rounds : Nat) → CheckState × Nat → Step
  | 0, current => .ok current
  | rounds + 1, (state, pc) =>
      match cx.code[pc]? with
      | none => .ok (state, pc)
      | some opcode => do
          let current ← validateOp cx pc (pc + 1) state opcode.toNat
          validateFrom rounds current

/-- The stacks at the first instruction of a body. -/
def initialState : CheckState where
  stack := []
  controls :=
    [{ kind := .function, height := 0, paramTypes := []
       endTypes := cx.functionResults, labelTypes := cx.functionResults
       unreachable := false, seenElse := false }]

def validateCode : Checked Unit :=
  if cx.code.getLast? ≠ some 0x0b then
    .error (.missingFunctionEnd cx.function)
  else do
    let (state, _) ← validateFrom cx cx.code.length (initialState cx, 0)
    if state.controls ≠ [] then
      .error (.missingFunctionEnd cx.function)
    else
      return ()

end MiniWasm.Validator
