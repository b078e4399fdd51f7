import MiniWasm.Runtime.Frame

/-!
# Invocations

The loop of `invoke_function` with its explicit stack of callers.  A `Machine`
is the state of that loop between two rounds of the loop that is innermost at
the time: the interpreter's loop while a guest frame runs, and the invocation
loop otherwise.
-/

namespace MiniWasm.Runtime

variable {σ : Type}

def maxCallDepth : Nat :=
  26

/-! ## Host calls -/

namespace Store

variable (store : Store σ)

/-- What a callback with the given capabilities can read. -/
def hostView (capabilities : HostCapabilities) : HostView where
  memoryCount := store.memories.length
  memories :=
    if capabilities.memoryRead then store.memories.map store.linearMemory else []
  heap := store.heap

/-- `HostContext::write_memory_at`; a call that fails changes nothing. -/
def hostWrite (capabilities : HostCapabilities) (memoryIndex address : Nat)
    (bytes : List UInt8) : Store σ :=
  if capabilities.memoryWrite = false then store
  else
    match store.memoryAt memoryIndex with
    | .error _ => store
    | .ok memory =>
        match memory.checkedHostRange address bytes.length with
        | .ok start => store.setMemoryAt memoryIndex (memory.writeBytes start bytes)
        | .error _ => store

def applyHostOp (capabilities : HostCapabilities) (store : Store σ) : HostOp → Store σ
  | .writeMemoryAt memoryIndex address bytes =>
      store.hostWrite capabilities memoryIndex address bytes
  | .handle op => { store with heap := op.apply store.heap }

/-- The store behind a callback. -/
def afterHost (capabilities : HostCapabilities) (reply : HostReply σ) : Store σ :=
  reply.ops.foldl (applyHostOp capabilities) { store with host := reply.state }

end Store

/-- The comparison loop over the results of a host function. -/
def checkHostResults (entry : Import) : List ValueType → List Value → Run Unit
  | expected :: types, value :: values =>
      if value.valueType ≠ expected then
        .error (.hostResultTypeMismatch entry.module entry.name expected value.valueType)
      else
        checkHostResults entry types values
  | _, _ => .ok ()

def hostResults (entry : Import) (type : FuncType) (result : Except HostError (List Value)) :
    Run (List Value) :=
  match result with
  | .error err => .error (.hostCallFailed entry.module entry.name err)
  | .ok values =>
      if values.length ≠ type.results.length then
        .error (.hostResultArityMismatch entry.module entry.name type.results.length
          values.length)
      else do
        checkHostResults entry type.results values
        return values

namespace Instance

variable (inst : Instance σ)

/-- Everything that `invoke_host` does before it calls the callback. -/
def prepareHost (importIndex : Nat) (args : List Value) (budget : ExecutionBudget) :
    Run (ExecutionBudget × Import × FuncType × HostFunction σ) := do
  let budget ← budget.consumeHostCall inst.limits.maxHostCalls
  match inst.module.functionImport importIndex with
  | none => .error (.functionOutOfBounds importIndex)
  | some entry =>
      match entry.functionTypeIndex with
      | none => .error (.functionOutOfBounds importIndex)
      | some typeIndex =>
          match inst.module.types[typeIndex]? with
          | none => .error .panicked
          | some type =>
              validateValues type.params args
              match findKey inst.hosts.functions entry.key with
              | none => .error (.unresolvedImport entry.module entry.name)
              | some host => return (budget, entry, type, host)

/-- The callback may have changed the store even when the call fails. -/
def invokeHost (store : Store σ) (budget : ExecutionBudget) (importIndex : Nat)
    (args : List Value) : Store σ × Run (ExecutionBudget × List Value) :=
  match inst.prepareHost importIndex args budget with
  | .error err => (store, .error err)
  | .ok (budget, entry, type, host) =>
      let reply := host.callback store.host (store.hostView host.capabilities) args
      (store.afterHost host.capabilities reply, do
        let values ← hostResults entry type reply.result
        return (budget, values))

/-! ## Guest frames -/

/-- Initial values of the declared locals. -/
def declaredLocals (groups : List (Nat × ValueType)) : List ValueType :=
  groups.flatMap fun (count, type) => List.replicate count type

def prepareGuestFrame (functionIndex : Nat) (args : List Value) : Run GuestFrame :=
  let imported := inst.module.functionImportCount
  if functionIndex < imported then
    .error (.functionOutOfBounds functionIndex)
  else
    let defined := functionIndex - imported
    match inst.module.functionTypeIndices[defined]? with
    | none => .error (.functionOutOfBounds functionIndex)
    | some typeIndex =>
        match inst.module.types[typeIndex]? with
        | none => .error .panicked
        | some type => do
            validateValues type.params args
            match inst.module.code[defined]?, inst.controlMaps[defined]? with
            | some body, some controlMap =>
                let declared := declaredLocals body.locals
                match body.code.length with
                | 0 => .error (.controlInvariant "function body is empty")
                | functionEnd + 1 =>
                    let control : ExecControlFrame :=
                      { kind := .function, bodyPc := 0, endPc := functionEnd
                        stackHeight := 0, paramTypes := []
                        resultTypes := type.results }
                    return {
                      locals := args ++ declared.map zero
                      localTypes := type.params ++ declared
                      stack := [], pc := 0, code := body.code
                      resultTypes := type.results, controls := [control], controlMap }
            | _, _ => .error .panicked

end Instance

/-! ## The machine -/

/-- What the invocation loop works on: a frame that has started, or a function
that is about to. -/
inductive Current where
  | frame (frame : GuestFrame)
  | function (index : Nat) (args : List Value)
  deriving DecidableEq, Repr

structure Machine (σ : Type) where
  store : Store σ
  budget : ExecutionBudget
  current : Current
  callers : List GuestFrame
  depth : Nat

inductive InvokeState (σ : Type) where
  | running (machine : Machine σ)
  | finished (store : Store σ) (result : Run (List Value))

/-- The caller's frame with a callee's results appended to its operands. -/
def GuestFrame.resume (frame : GuestFrame) (results : List Value) : GuestFrame :=
  { frame with stack := results.reverse ++ frame.stack }

namespace Machine

variable (inst : Instance σ) (machine : Machine σ)

def callDepthLimit : Nat :=
  min inst.limits.maxCallDepth maxCallDepth

/-- The `match` on the outcome of a function. -/
def handleOutcome : FunctionOutcome → InvokeState σ
  | .return results =>
      match machine.callers with
      | [] => .finished machine.store (.ok results)
      | caller :: callers =>
          match machine.depth with
          | 0 =>
              .finished machine.store
                (.error (.controlInvariant "guest call stack depth underflow"))
          | depth + 1 =>
              .running
                { machine with current := .frame (caller.resume results), callers, depth }
  | .tailCall function args =>
      .running { machine with current := .function function args }
  | .call continuation function args =>
      if 2 ^ 64 ≤ machine.depth + 1 then
        .finished machine.store
          (.error (.controlInvariant "guest call stack depth overflow"))
      else
        .running
          { machine with
            current := .function function args
            callers := continuation :: machine.callers
            depth := machine.depth + 1 }

/-- Start a function that is not yet running. -/
def enter (index : Nat) (args : List Value) : InvokeState σ :=
  if index < inst.module.functionImportCount then
    match inst.invokeHost machine.store machine.budget index args with
    | (store, .error err) => .finished store (.error err)
    | (store, .ok (budget, results)) =>
        { machine with store, budget }.handleOutcome (.return results)
  else if callDepthLimit inst ≤ machine.depth then
    .finished machine.store (.error (.callDepthExceeded (callDepthLimit inst)))
  else
    match inst.prepareGuestFrame index args with
    | .error err => .finished machine.store (.error err)
    | .ok frame => .running { machine with current := .frame frame }

def step : InvokeState σ :=
  match machine.current with
  | .function index args => machine.enter inst index args
  | .frame frame =>
      match frameStep inst machine.store machine.budget frame with
      | .error err => .finished machine.store (.error err)
      | .ok (store, budget, .running frame) =>
          .running { machine with store, budget, current := .frame frame }
      | .ok (store, budget, .outcome outcome) =>
          { machine with store, budget }.handleOutcome outcome

/-- The start of `invoke_function`. -/
def start (store : Store σ) (functionIndex : Nat) (args : List Value) (depth : Nat)
    (budget : ExecutionBudget) : Machine σ :=
  { store, budget, current := .function functionIndex args, callers := [], depth }

end Machine

/-- The machine after the given number of steps, or its end. -/
def invokeFor (inst : Instance σ) : (steps : Nat) → InvokeState σ → InvokeState σ
  | 0, state => state
  | _ + 1, .finished store result => .finished store result
  | steps + 1, .running machine => invokeFor inst steps (machine.step inst)

@[simp] theorem invokeFor_finished (inst : Instance σ) (steps : Nat) (store : Store σ)
    (result : Run (List Value)) :
    invokeFor inst steps (.finished store result) = .finished store result := by
  cases steps <;> rfl

namespace Instance

variable (inst : Instance σ)

/-! ## The embedding interface -/

def exportKindError (name : String) : ExportKind → RuntimeError
  | .function => .exportNotFunction name
  | .memory => .exportNotMemory name
  | .global => .exportNotGlobal name
  | .table => .exportNotTable name

def exportedIndex (name : String) (kind : ExportKind) : Run Nat :=
  match inst.module.exports.find? (·.name = name) with
  | none => .error (.exportNotFound name)
  | some entry =>
      if entry.kind ≠ kind then .error (exportKindError name kind) else .ok entry.index

def validateEmbeddingArguments (types : List ValueType) (values : List Value) :
    Run Unit := do
  validateValues types values
  let unowned := (types.zip values).any fun (expected, value) =>
    expected = .funcRef && (value matches .funcRef (some _))
  if unowned then
    .error .unownedFunctionReferenceArgument
  else
    return ()

/-- `invoke_export_values` up to the start of the invocation. -/
def startExport (store : Store σ) (name : String) (args : List Value) :
    InvokeState σ :=
  let prepared : Run Nat := do
    let functionIndex ← inst.exportedIndex name .function
    let type ← inst.functionType functionIndex
    validateEmbeddingArguments type.params args
    return functionIndex
  match prepared with
  | .error err => .finished store (.error err)
  | .ok functionIndex =>
      .running (Machine.start store functionIndex args 0 (.new inst.limits))

end Instance

end MiniWasm.Runtime
