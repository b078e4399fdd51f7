import MiniWasm.Library.Truncate
import MiniWasm.Runtime.Execute

/-!
# Guest frames

One iteration of the interpreter's loop over a function body.  The operand and
control stacks of a frame are lists with the top, or the innermost frame, at the
head; argument and result lists keep source order.
-/

namespace MiniWasm.Runtime

open Library

structure ExecControlFrame where
  kind : ControlKind
  bodyPc : Nat
  endPc : Nat
  stackHeight : Nat
  paramTypes : List ValueType
  resultTypes : List ValueType
  deriving DecidableEq, Repr

def ExecControlFrame.labelTypes (frame : ExecControlFrame) : List ValueType :=
  if frame.kind = .loop then frame.paramTypes else frame.resultTypes

structure GuestFrame where
  locals : List Value
  localTypes : List ValueType
  stack : Stack
  pc : Nat
  code : List UInt8
  resultTypes : List ValueType
  controls : List ExecControlFrame
  controlMap : ControlMap
  deriving DecidableEq, Repr

inductive FunctionOutcome where
  | return (results : List Value)
  | tailCall (function : Nat) (args : List Value)
  | call (continuation : GuestFrame) (function : Nat) (args : List Value)
  deriving DecidableEq, Repr

/-- A frame after one iteration: still in its loop, or left with an outcome. -/
inductive FrameStep where
  | running (frame : GuestFrame)
  | outcome (outcome : FunctionOutcome)
  deriving DecidableEq, Repr

/-! ## Control frames -/

/-- Operands above a height, in source order. -/
def operandsAbove (stack : Stack) (height : Nat) : List Value :=
  (stack.take (stack.length - height)).reverse

def controlEntryHeight (stack : Stack) (params : List ValueType) : Run Nat :=
  if stack.length < params.length then
    .error .stackUnderflow
  else do
    let height := stack.length - params.length
    validateValues params (operandsAbove stack height)
    return height

def ensureControlInfo (info : ControlInfo) (kind : ControlKind)
    (signature : BlockSignature) : Run Unit :=
  if info.kind ≠ kind ∨ info.signature ≠ signature then
    .error (.controlInvariant "control metadata disagrees with instruction stream")
  else
    .ok ()

def exitControlFrame (controls : List ExecControlFrame) (stack : Stack) :
    Run (List ExecControlFrame) :=
  match controls with
  | [] => .error (.controlInvariant "attempted to leave missing control frame")
  | frame :: outer => do
      let expected := frame.stackHeight + frame.resultTypes.length
      if stack.length ≠ expected then
        .error (.controlStackMismatch expected stack.length)
      else
        validateValues frame.resultTypes (operandsAbove stack frame.stackHeight)
        return outer

/-- Where a branch to a frame resumes, and the control frames that remain. -/
def branchTarget (target : ExecControlFrame) (controls : List ExecControlFrame)
    (depth codeLength : Nat) : List ExecControlFrame × Nat :=
  match target.kind with
  | .loop => (controls.drop depth, target.bodyPc)
  | .block => (controls.drop (depth + 1), target.endPc + 1)
  | .if => (controls.drop (depth + 1), target.endPc + 1)
  | .function => ([], codeLength)

def branchTo (frame : GuestFrame) (depth : Nat) : Run GuestFrame :=
  match frame.controls[depth]? with
  | none => .error (.branchDepthOutOfBounds depth)
  | some target =>
      match frame.controls with
      | [] =>
          .error (.controlInvariant "branch executed without active control frame")
      | current :: _ =>
          let labelArity := target.labelTypes.length
          if frame.stack.length - current.stackHeight < labelArity then
            .error .stackUnderflow
          else do
            let labelValues := frame.stack.take labelArity
            validateValues target.labelTypes labelValues.reverse
            let (controls, pc) := branchTarget target frame.controls depth frame.code.length
            return { frame with
                      stack := labelValues ++ truncate frame.stack target.stackHeight
                      controls, pc }

/-! ## The control arms

Each takes the frame with its program counter behind the opcode.
-/

variable {σ : Type} (inst : Instance σ) (store : Store σ)

/-- `block` and `loop`. -/
def executeBlock (frame : GuestFrame) (offset : Nat) (kind : ControlKind) :
    Run GuestFrame := do
  let (signature, pc) ← readBlockSignature frame.code frame.pc inst.module.types
  let info ← frame.controlMap.info offset
  ensureControlInfo info kind signature
  let stackHeight ← controlEntryHeight frame.stack signature.params
  let control : ExecControlFrame :=
    { kind, bodyPc := info.bodyPc, endPc := info.endPc, stackHeight
      paramTypes := signature.params, resultTypes := signature.results }
  return { frame with pc, controls := control :: frame.controls }

def executeIf (frame : GuestFrame) (offset : Nat) : Run GuestFrame := do
  let (signature, pc) ← readBlockSignature frame.code frame.pc inst.module.types
  let (condition, stack) ← i32FromStack frame.stack
  let info ← frame.controlMap.info offset
  ensureControlInfo info .if signature
  let stackHeight ← controlEntryHeight stack signature.params
  let control : ExecControlFrame :=
    { kind := .if, bodyPc := info.bodyPc, endPc := info.endPc, stackHeight
      paramTypes := signature.params, resultTypes := signature.results }
  if condition ≠ 0 then
    return { frame with stack, pc, controls := control :: frame.controls }
  else
    match info.elsePc with
    | some elsePc =>
        return { frame with stack, pc := elsePc + 1, controls := control :: frame.controls }
    | none =>
        return { frame with stack := truncate stack stackHeight, pc := info.endPc + 1 }

def executeElse (frame : GuestFrame) : Run GuestFrame :=
  match frame.controls with
  | [] => .error (.controlInvariant "else encountered without active control frame")
  | control :: _ =>
      if control.kind ≠ .if then
        .error (.controlInvariant "else encountered outside active if")
      else do
        let controls ← exitControlFrame frame.controls frame.stack
        return { frame with controls, pc := control.endPc + 1 }

/-- What follows the loop: the operands left are the results. -/
def finishFrame (frame : GuestFrame) : Run FunctionOutcome :=
  if frame.stack.length ≠ frame.resultTypes.length then
    .error (.resultArityMismatch frame.resultTypes.length frame.stack.length)
  else do
    validateValues frame.resultTypes frame.stack.reverse
    return .return frame.stack.reverse

def executeEnd (frame : GuestFrame) (offset : Nat) : Run FrameStep :=
  match frame.controls with
  | [] => .error (.controlInvariant "end encountered without active control frame")
  | control :: _ =>
      if control.endPc ≠ offset then
        .error (.controlInvariant "end offset does not match active control frame")
      else do
        let controls ← exitControlFrame frame.controls frame.stack
        if control.kind = .function then
          return .outcome (← finishFrame { frame with controls })
        else
          return .running { frame with controls }

def executeBr (frame : GuestFrame) : Run GuestFrame := do
  let (depth, pc) ← readU32Immediate frame.code frame.pc
  branchTo { frame with pc } depth

def executeBrIf (frame : GuestFrame) : Run GuestFrame := do
  let (depth, pc) ← readU32Immediate frame.code frame.pc
  let (condition, stack) ← i32FromStack frame.stack
  if condition ≠ 0 then
    branchTo { frame with pc, stack } depth
  else
    return { frame with pc, stack }

/-- The loop over the listed targets of a branch table. -/
def selectTarget (code : List UInt8) (selector : Nat) :
    (count index pc : Nat) → Option Nat → Run (Option Nat × Nat)
  | 0, _, pc, selected => .ok (selected, pc)
  | count + 1, index, pc, selected => do
      let (depth, pc) ← readU32Immediate code pc
      let selected := if index = selector then some depth else selected
      selectTarget code selector count (index + 1) pc selected

def executeBrTable (frame : GuestFrame) : Run GuestFrame := do
  let (targetCount, pc) ← readU32Immediate frame.code frame.pc
  let (selector, stack) ← i32FromStack frame.stack
  let (selected, pc) ← selectTarget frame.code selector.toNat targetCount 0 pc none
  let (defaultDepth, pc) ← readU32Immediate frame.code pc
  branchTo { frame with pc, stack } (selected.getD defaultDepth)

def executeReturn (frame : GuestFrame) : Run GuestFrame :=
  match frame.controls.length with
  | 0 => .error (.controlInvariant "return executed without function frame")
  | outermost + 1 => branchTo frame outermost

/-- Split the arguments of a call off the operand stack. -/
def splitArgs (stack : Stack) (paramCount : Nat) : Run (List Value × Stack) :=
  if stack.length < paramCount then
    .error .stackUnderflow
  else
    .ok ((stack.take paramCount).reverse, stack.drop paramCount)

def executeCall (frame : GuestFrame) : Run FunctionOutcome := do
  let (callee, pc) ← readU32Immediate frame.code frame.pc
  let type ← inst.functionType callee
  let (args, stack) ← splitArgs frame.stack type.params.length
  return .call { frame with pc, stack } callee args

/-- The reads and the table lookup that the two indirect calls share. -/
def readIndirectCallee (frame : GuestFrame) : Run (Nat × FuncType × GuestFrame) := do
  let (typeIndex, pc) ← readU32Immediate frame.code frame.pc
  let (tableIndex, pc) ← readU32Immediate frame.code pc
  let (element, stack) ← i32FromStack frame.stack
  let (callee, type) ← inst.resolveIndirectCallee store typeIndex tableIndex element.toNat
  return (callee, type, { frame with pc, stack })

def executeCallIndirect (frame : GuestFrame) : Run FunctionOutcome := do
  let (callee, type, frame) ← readIndirectCallee inst store frame
  let (args, stack) ← splitArgs frame.stack type.params.length
  return .call { frame with stack } callee args

def executeReturnCall (frame : GuestFrame) : Run FunctionOutcome := do
  let (callee, _) ← readU32Immediate frame.code frame.pc
  let type ← inst.functionType callee
  if type.results ≠ frame.resultTypes then
    .error (.controlInvariant "validated return_call result type mismatch")
  else
    let (args, _) ← splitArgs frame.stack type.params.length
    return .tailCall callee args

def executeReturnCallIndirect (frame : GuestFrame) : Run FunctionOutcome := do
  let (callee, type, frame) ← readIndirectCallee inst store frame
  if type.results ≠ frame.resultTypes then
    .error (.controlInvariant "validated return_call_indirect result type mismatch")
  else
    let (args, _) ← splitArgs frame.stack type.params.length
    return .tailCall callee args

/-! ## One iteration -/

/-- Read and execute a plain instruction. -/
def executePlainOp (frame : GuestFrame) (opcode : Nat) : Run (Store σ × FrameStep) := do
  let (instr, pc) ← readPlain frame.code frame.pc store.memories.length opcode
  let state : PlainState σ := { store, locals := frame.locals, stack := frame.stack }
  let state ← executePlain inst frame.localTypes state instr
  return (state.store, .running { frame with pc, locals := state.locals, stack := state.stack })

/-- The instruction at `offset`, whose opcode the frame's program counter is
already behind. -/
def executeOp (frame : GuestFrame) (offset opcode : Nat) : Run (Store σ × FrameStep) := do
  if opcode = 0x00 then .error .unreachable
  else if opcode = 0x02 then return (store, .running (← executeBlock inst frame offset .block))
  else if opcode = 0x03 then return (store, .running (← executeBlock inst frame offset .loop))
  else if opcode = 0x04 then return (store, .running (← executeIf inst frame offset))
  else if opcode = 0x05 then return (store, .running (← executeElse frame))
  else if opcode = 0x0b then return (store, ← executeEnd frame offset)
  else if opcode = 0x0c then return (store, .running (← executeBr frame))
  else if opcode = 0x0d then return (store, .running (← executeBrIf frame))
  else if opcode = 0x0e then return (store, .running (← executeBrTable frame))
  else if opcode = 0x0f then return (store, .running (← executeReturn frame))
  else if opcode = 0x10 then return (store, .outcome (← executeCall inst frame))
  else if opcode = 0x11 then return (store, .outcome (← executeCallIndirect inst store frame))
  else if opcode = 0x12 then return (store, .outcome (← executeReturnCall inst frame))
  else if opcode = 0x13 then
    return (store, .outcome (← executeReturnCallIndirect inst store frame))
  else executePlainOp inst store frame opcode

structure ExecutionBudget where
  fuelRemaining : Option Nat
  hostCalls : Nat
  deriving DecidableEq, Repr

namespace ExecutionBudget

def new (limits : RuntimeLimits) : ExecutionBudget where
  fuelRemaining := limits.fuel
  hostCalls := 0

def consumeInstruction (budget : ExecutionBudget) : Run ExecutionBudget :=
  match budget.fuelRemaining with
  | none => .ok budget
  | some 0 => .error .fuelExhausted
  | some (remaining + 1) => .ok { budget with fuelRemaining := some remaining }

/-- The count saturates at the largest 64-bit number. -/
def consumeHostCall (budget : ExecutionBudget) (limit : Option Nat) :
    Run ExecutionBudget :=
  match limit with
  | some limit =>
      if limit ≤ budget.hostCalls then
        .error (.hostCallLimitExceeded limit)
      else
        .ok { budget with hostCalls := min (budget.hostCalls + 1) (2 ^ 64 - 1) }
  | none => .ok { budget with hostCalls := min (budget.hostCalls + 1) (2 ^ 64 - 1) }

end ExecutionBudget

/-- One round of the loop in `execute_guest_frame`, or what follows the loop. -/
def frameStep (budget : ExecutionBudget) (frame : GuestFrame) :
    Run (Store σ × ExecutionBudget × FrameStep) :=
  match frame.code[frame.pc]? with
  | none => do return (store, budget, .outcome (← finishFrame frame))
  | some opcode => do
      let budget ← budget.consumeInstruction
      let (store, step) ←
        executeOp inst store { frame with pc := frame.pc + 1 } frame.pc opcode.toNat
      return (store, budget, step)

end MiniWasm.Runtime
