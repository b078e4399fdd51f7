import MiniWasm.Runtime.Invoke
import MiniWasm.Spec.Grammar

/-!
# Structured execution

The meaning of a function body as an instruction tree: a reduction semantics with
labels, in which every block has operands of its own.  There are no bytes here, no
program counter, no heights of a stack and no positions to jump to.  The interpreter is
compared with this semantics; the two share what the plain instructions do to the store,
the locals and their operands, and what a host function does.
-/

namespace MiniWasm.Runtime.Structured

variable {σ : Type}

/-! ## Frames -/

/-- What a branch to a block leads to: a loop starts over with its parameters, any other
block is left with its results. -/
structure Continuation where
  again : Option Instrs
  signature : BlockSignature
  next : Instrs
  deriving DecidableEq, Repr

namespace Continuation

/-- Operands that a branch takes along. -/
def takes (continuation : Continuation) : List ValueType :=
  if continuation.again.isSome then continuation.signature.params
  else continuation.signature.results

def ofLabel (label : Label) : Continuation where
  again := if label.loops then some label.body else none
  signature := label.signature
  next := label.next

end Continuation

/-- A block around the current sequence, with the operands that wait below its own. -/
structure Block where
  label : Continuation
  below : Stack
  deriving DecidableEq, Repr

/-- An activation of a function: the rest of the current sequence, the operands of the
innermost block, and the blocks around, innermost first. -/
structure Frame where
  locals : List Value
  localTypes : List ValueType
  results : List ValueType
  instrs : Instrs
  operands : Stack
  blocks : List Block
  deriving DecidableEq, Repr

inductive Outcome where
  | return (results : List Value)
  | tailCall (function : Nat) (args : List Value)
  | call (continuation : Frame) (function : Nat) (args : List Value)
  deriving DecidableEq, Repr

inductive Step where
  | running (frame : Frame)
  | outcome (outcome : Outcome)
  deriving DecidableEq, Repr

/-- Split the upper operands off. -/
def splitTop (operands : Stack) (count : Nat) : Run (Stack × Stack) :=
  if operands.length < count then
    .error .stackUnderflow
  else
    .ok (operands.take count, operands.drop count)

namespace Frame

variable (frame : Frame)

/-- All operands of the frame. -/
def stack : Stack :=
  frame.operands ++ frame.blocks.flatMap Block.below

/-- The frame goes on with a block, which takes its parameters and nothing else. -/
def enter (label : Continuation) (body : Instrs) : Run Frame := do
  let (args, below) ← splitTop frame.operands label.signature.params.length
  return { frame with
            instrs := body, operands := args, blocks := { label, below } :: frame.blocks }

/-- A branch gives up the operands of the blocks that it leaves, but for those that the
label takes.  The label behind the last block is the function. -/
def branch (depth : Nat) : Run Frame :=
  match frame.blocks[depth]? with
  | some block => do
      let (kept, _) ← splitTop frame.operands block.label.takes.length
      match block.label.again with
      | some body =>
          return { frame with
                    instrs := body, operands := kept, blocks := frame.blocks.drop depth }
      | none =>
          return { frame with
                    instrs := block.label.next, operands := kept ++ block.below
                    blocks := frame.blocks.drop (depth + 1) }
  | none =>
      if depth ≠ frame.blocks.length then
        .error (.branchDepthOutOfBounds depth)
      else do
        let (kept, _) ← splitTop frame.operands frame.results.length
        return { frame with instrs := .done, operands := kept, blocks := [] }

/-- A caller with the results of the function that it has called. -/
def resume (results : List Value) : Frame :=
  { frame with operands := results.reverse ++ frame.operands }

end Frame

/-! ## Reductions -/

section Reductions

variable (inst : Instance σ) (store : Store σ)

/-- An instruction that opens no block; the frame goes on behind it. -/
def reduceSimple (frame : Frame) : Simple → Run (Store σ × Step)
  | .plain instr => do
      let state ← executePlain inst frame.localTypes
        { store, locals := frame.locals, stack := frame.operands } instr
      return (state.store,
        .running { frame with locals := state.locals, operands := state.stack })
  | .unreachable => .error .unreachable
  | .br depth => do return (store, .running (← frame.branch depth))
  | .brIf depth => do
      let (condition, operands) ← i32FromStack frame.operands
      if condition ≠ 0 then
        return (store, .running (← { frame with operands }.branch depth))
      else
        return (store, .running { frame with operands })
  | .brTable depths default => do
      let (selector, operands) ← i32FromStack frame.operands
      let depth := depths[selector.toNat]?.getD default
      return (store, .running (← { frame with operands }.branch depth))
  | .return => do return (store, .running (← frame.branch frame.blocks.length))
  | .call function => do
      let type ← inst.functionType function
      let (args, operands) ← splitArgs frame.operands type.params.length
      return (store, .outcome (.call { frame with operands } function args))
  | .callIndirect type table => do
      let (element, operands) ← i32FromStack frame.operands
      let (callee, calleeType) ← inst.resolveIndirectCallee store type table element.toNat
      let (args, operands) ← splitArgs operands calleeType.params.length
      return (store, .outcome (.call { frame with operands } callee args))
  | .returnCall function => do
      let type ← inst.functionType function
      let (args, _) ← splitArgs frame.operands type.params.length
      return (store, .outcome (.tailCall function args))
  | .returnCallIndirect type table => do
      let (element, operands) ← i32FromStack frame.operands
      let (callee, calleeType) ← inst.resolveIndirectCallee store type table element.toNat
      let (args, _) ← splitArgs operands calleeType.params.length
      return (store, .outcome (.tailCall callee args))

def reduce (frame : Frame) : Run (Store σ × Step) :=
  match frame.instrs with
  | .simple instr next => reduceSimple inst store { frame with instrs := next } instr
  | .block loops signature body next => do
      let again := if loops then some body else none
      return (store, .running (← frame.enter { again, signature, next } body))
  | .ifThen signature body next => do
      let (condition, operands) ← i32FromStack frame.operands
      if condition ≠ 0 then
        let label : Continuation := { again := none, signature, next }
        return (store, .running (← { frame with operands }.enter label body))
      else
        -- The arm that is missing would take the parameters and leave nothing.
        let (_, operands) ← splitTop operands signature.params.length
        return (store, .running { frame with instrs := next, operands })
  | .ifElse signature body alternative next => do
      let (condition, operands) ← i32FromStack frame.operands
      let label : Continuation := { again := none, signature, next }
      let arm := if condition ≠ 0 then body else alternative
      return (store, .running (← { frame with operands }.enter label arm))
  | .done =>
      match frame.blocks with
      | block :: blocks =>
          -- The results of a block join the operands that have waited below it.
          .ok (store, .running { frame with
                instrs := block.label.next, operands := frame.operands ++ block.below, blocks })
      | [] => .ok (store, .outcome (.return frame.operands.reverse))

variable {inst store} {frame : Frame} {signature : BlockSignature} {body next : Instrs}

theorem reduce_simple {instr : Simple} (here : frame.instrs = .simple instr next) :
    reduce inst store frame = reduceSimple inst store { frame with instrs := next } instr := by
  rw [reduce, here]

theorem reduce_block {loops : Bool} (here : frame.instrs = .block loops signature body next) :
    reduce inst store frame = (do
      let entered ← frame.enter (.ofLabel { loops, signature, body, next }) body
      return (store, .running entered)) := by
  rw [reduce, here]
  rfl

theorem reduce_ifThen (here : frame.instrs = .ifThen signature body next) :
    reduce inst store frame = (do
      let (condition, operands) ← i32FromStack frame.operands
      if condition ≠ 0 then
        let label : Continuation := { again := none, signature, next }
        return (store, .running (← { frame with operands }.enter label body))
      else
        let (_, operands) ← splitTop operands signature.params.length
        return (store, .running { frame with instrs := next, operands })) := by
  rw [reduce, here]

theorem reduce_ifElse {alternative : Instrs}
    (here : frame.instrs = .ifElse signature body alternative next) :
    reduce inst store frame = (do
      let (condition, operands) ← i32FromStack frame.operands
      let label : Continuation := { again := none, signature, next }
      let arm := if condition ≠ 0 then body else alternative
      return (store, .running (← { frame with operands }.enter label arm))) := by
  rw [reduce, here]

theorem reduce_done {block : Block} {blocks : List Block} (here : frame.instrs = .done)
    (inside : frame.blocks = block :: blocks) :
    reduce inst store frame = .ok (store, .running { frame with
      instrs := block.label.next, operands := frame.operands ++ block.below, blocks }) := by
  rw [reduce, here, inside]

theorem reduce_finished (here : frame.instrs = .done) (outside : frame.blocks = []) :
    reduce inst store frame = .ok (store, .outcome (.return frame.operands.reverse)) := by
  rw [reduce, here, outside]

end Reductions

/-! ## Invocations -/

inductive Current where
  | frame (frame : Frame)
  | function (index : Nat) (args : List Value)
  deriving DecidableEq, Repr

/-- An invocation under way.  The call depth is the number of callers. -/
structure Machine (σ : Type) where
  store : Store σ
  hostCalls : Nat
  current : Current
  callers : List Frame

inductive State (σ : Type) where
  | running (machine : Machine σ)
  | finished (store : Store σ) (result : Run (List Value))

namespace Machine

variable (inst : Instance σ) (program : List Instrs) (machine : Machine σ)

def handle : Outcome → State σ
  | .return results =>
      match machine.callers with
      | [] => .finished machine.store (.ok results)
      | caller :: callers =>
          .running { machine with current := .frame (caller.resume results), callers }
  | .tailCall function args => .running { machine with current := .function function args }
  | .call continuation function args =>
      .running
        { machine with
          current := .function function args, callers := continuation :: machine.callers }

/-- The frame in which a defined function starts, by the program. -/
def startFrame (index : Nat) (args : List Value) : Run Frame :=
  let defined := index - inst.module.functionImportCount
  match inst.module.functionType index, inst.module.code[defined]?, program[defined]? with
  | some type, some body, some instrs =>
      let declared := Instance.declaredLocals body.locals
      .ok
        { locals := args ++ declared.map zero, localTypes := type.params ++ declared
          results := type.results, instrs, operands := [], blocks := [] }
  | _, _, _ => .error (.functionOutOfBounds index)

def enter (index : Nat) (args : List Value) : State σ :=
  if index < inst.module.functionImportCount then
    match inst.invokeHost machine.store ⟨none, machine.hostCalls⟩ index args with
    | (store, .error err) => .finished store (.error err)
    | (store, .ok (budget, results)) =>
        { machine with store, hostCalls := budget.hostCalls }.handle (.return results)
  else if Runtime.Machine.callDepthLimit inst ≤ machine.callers.length then
    .finished machine.store (.error (.callDepthExceeded (Runtime.Machine.callDepthLimit inst)))
  else
    match startFrame inst program index args with
    | .error err => .finished machine.store (.error err)
    | .ok frame => .running { machine with current := .frame frame }

def step : State σ :=
  match machine.current with
  | .function index args => machine.enter inst program index args
  | .frame frame =>
      match reduce inst machine.store frame with
      | .error err => .finished machine.store (.error err)
      | .ok (store, .running frame) => .running { machine with store, current := .frame frame }
      | .ok (store, .outcome outcome) => { machine with store }.handle outcome

/-- The start of an invocation. -/
def start (store : Store σ) (index : Nat) (args : List Value) : Machine σ :=
  { store, hostCalls := 0, current := .function index args, callers := [] }

end Machine

/-- The invocation after the given number of steps, or its end. -/
def runFor (inst : Instance σ) (program : List Instrs) : (steps : Nat) → State σ → State σ
  | 0, state => state
  | _ + 1, .finished store result => .finished store result
  | steps + 1, .running machine => runFor inst program steps (machine.step inst program)

/-- The program that the bodies of the module encode. -/
def Decodes (module : Module) (program : List Instrs) : Prop :=
  List.Forall₂
    (fun body instrs => ∃ endPc, Spec.EncodesBody module.types body.code instrs endPc)
    module.code program

end MiniWasm.Runtime.Structured
