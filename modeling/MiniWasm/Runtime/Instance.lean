import MiniWasm.Runtime.Control
import MiniWasm.Runtime.Heap

/-!
# Instances and their stores

The program keeps an instance in one record.  Here the fields that never change
after instantiation form `Instance`, and those that do form `Store`, together
with the shared heap and the state of the host callbacks.

A host callback is a function of that state, of what it can see, and of its
arguments.  What it does through handles, and through the context it is given,
is the list of operations in its reply.
-/

namespace MiniWasm.Runtime

/-! ## Host functions -/

structure HostCapabilities where
  memoryRead : Bool
  memoryWrite : Bool
  deriving DecidableEq, Repr

/-! The three sets of capabilities that functions are registered with. -/

def HostCapabilities.none : HostCapabilities :=
  { memoryRead := false, memoryWrite := false }

def HostCapabilities.readOnly : HostCapabilities :=
  { memoryRead := true, memoryWrite := false }

def HostCapabilities.readWrite : HostCapabilities :=
  { memoryRead := true, memoryWrite := true }

inductive HostOp where
  /-- `HostContext::write_memory_at`. -/
  | writeMemoryAt (memoryIndex address : Nat) (bytes : List UInt8)
  | handle (op : HandleOp)
  deriving DecidableEq, Repr

/-- What a callback can read: the instance's memories only with the capability
to read them. -/
structure HostView where
  memoryCount : Nat
  memories : List LinearMemory
  heap : Heap

structure HostReply (σ : Type) where
  state : σ
  ops : List HostOp
  result : Except HostError (List Value)

structure HostFunction (σ : Type) where
  params : List ValueType
  results : List ValueType
  capabilities : HostCapabilities
  callback : σ → HostView → List Value → HostReply σ

structure HostRegistry (σ : Type) where
  functions : List ((String × String) × HostFunction σ)
  globals : List ((String × String) × GlobalHandle)
  tables : List ((String × String) × TableHandle)
  memories : List ((String × String) × MemoryHandle)

/-- `HashMap::get`. -/
def findKey {α : Type} (entries : List ((String × String) × α)) (key : String × String) :
    Option α :=
  (entries.find? (·.1 = key)).map Prod.snd

structure RuntimeLimits where
  maxCallDepth : Nat
  maxMemoryPages : Nat
  fuel : Option Nat
  maxHostCalls : Option Nat
  deriving DecidableEq, Repr

/-! ## Instances -/

inductive RuntimeMemory where
  | owned (memory : LinearMemory)
  | imported (handle : MemoryHandle)
  deriving DecidableEq, Repr

structure Instance (σ : Type) where
  identity : Identity
  module : Module
  controlMaps : List ControlMap
  tables : List TableHandle
  globals : List GlobalHandle
  hosts : HostRegistry σ
  limits : RuntimeLimits

structure Store (σ : Type) where
  heap : Heap
  memories : List RuntimeMemory
  dataSegments : List (List UInt8)
  elementSegments : List (List Nat)
  host : σ

variable {σ : Type}

namespace Store

variable (store : Store σ)

def linearMemory : RuntimeMemory → LinearMemory
  | .owned memory => memory
  | .imported handle => (store.heap.memory handle).memory

/-- `with_memory_index`, without the function that is applied to the memory. -/
def memoryAt (index : Nat) : Run LinearMemory :=
  match store.memories[index]? with
  | some memory => .ok (store.linearMemory memory)
  | none => .error (.memoryIndexOutOfBounds index)

/-- Write back a memory that `with_memory_index_mut` handed out. -/
def setMemoryAt (index : Nat) (memory : LinearMemory) : Store σ :=
  match store.memories[index]? with
  | some (.owned _) =>
      { store with memories := store.memories.set index (.owned memory) }
  | some (.imported handle) =>
      { store with heap := store.heap.setLinearMemory handle memory }
  | none => store

def withMemoryIndexMut (index : Nat) (update : LinearMemory → Run LinearMemory) :
    Run (Store σ) := do
  let memory ← store.memoryAt index
  return store.setMemoryAt index (← update memory)

/-! ## Bulk memory -/

def memoryInit (dataIndex memoryIndex destination : Nat) (source length : BitVec 32) :
    Run (Store σ) := do
  let width := length.toNat
  let sourceStart := source.toNat
  let sourceEnd := sourceStart + width
  match store.dataSegments[dataIndex]? with
  | none => .error (.dataIndexOutOfBounds dataIndex)
  | some segment =>
      if segment.length < sourceEnd then
        .error (.dataSegmentSourceOutOfBounds dataIndex sourceStart width)
      else
        let payload := (segment.drop sourceStart).take width
        store.withMemoryIndexMut memoryIndex fun memory => do
          let start ← memory.checkedBulkRange destination width
          return memory.writeBytes start payload

def memoryCopy (destinationMemory sourceMemory destination source length : Nat) :
    Run (Store σ) := do
  let memory ← store.memoryAt sourceMemory
  let start ← memory.checkedBulkRange source length
  let payload := memory.readBytes start length
  store.withMemoryIndexMut destinationMemory fun memory => do
    let start ← memory.checkedBulkRange destination length
    return memory.writeBytes start payload

def dataDrop (dataIndex : Nat) : Run (Store σ) :=
  if dataIndex < store.dataSegments.length then
    .ok { store with dataSegments := store.dataSegments.set dataIndex [] }
  else
    .error (.dataIndexOutOfBounds dataIndex)

def elemDrop (elementIndex : Nat) : Run (Store σ) :=
  if elementIndex < store.elementSegments.length then
    .ok { store with elementSegments := store.elementSegments.set elementIndex [] }
  else
    .error (.elementIndexOutOfBounds elementIndex)

end Store

/-! ## Tables -/

def mapTableElementError (error : TableHandleError) (index : Nat) : RuntimeError :=
  match error with
  | .outOfBounds _ _ => .tableElementOutOfBounds index
  | .foreignFunctionReference _ => .foreignTableFunctionReference index
  | .alreadyBound =>
      .controlInvariant "table binding changed while instance is live"
  | .allocationFailed elements => .tableAllocationFailed elements
  | .invalidLimits _ _ => .controlInvariant "table handle has inconsistent limits"

/-- `map_err(map_table_element_error)`. -/
def tableResult {α : Type} (index : Nat) : Except TableHandleError α → Run α
  | .ok value => .ok value
  | .error err => .error (mapTableElementError err index)

namespace Instance

variable (inst : Instance σ) (store : Store σ)

def tableHandle (tableIndex : Nat) : Run TableHandle :=
  match inst.tables[tableIndex]? with
  | some handle => .ok handle
  | none => .error (.tableIndexOutOfBounds tableIndex)

def globalHandle (globalIndex : Nat) : Run GlobalHandle :=
  match inst.globals[globalIndex]? with
  | some handle => .ok handle
  | none => .error (.globalOutOfBounds globalIndex)

/-- A reference that the instance creates. -/
def functionRef (functionIndex : Nat) : FunctionRef where
  owner := inst.identity
  functionIndex

/-- The slots that `table.init` writes from the listed function indices. -/
def elementSlots (functions : List Nat) : List (Option FunctionRef) :=
  functions.map fun functionIndex =>
    if functionIndex = nullFuncrefIndex then none
    else some (inst.functionRef functionIndex)

def tableInit (elementIndex tableIndex : Nat) (destination source length : BitVec 32) :
    Run (Store σ) := do
  let width := length.toNat
  let sourceStart := source.toNat
  match store.elementSegments[elementIndex]? with
  | none => .error (.elementIndexOutOfBounds elementIndex)
  | some segment =>
      if segment.length < sourceStart + width then
        .error (.elementSegmentSourceOutOfBounds elementIndex sourceStart width)
      else
        let functions := (segment.drop sourceStart).take width
        let handle ← inst.tableHandle tableIndex
        let cell := store.heap.table handle
        if cell.slots.length < destination.toNat + width then
          .error (.tableElementOutOfBounds destination.toNat)
        else
          let cell := cell.writeSlots destination.toNat (inst.elementSlots functions)
          return { store with heap := store.heap.setTable handle cell }

def tableCopy (destinationTable sourceTable : Nat)
    (destination source length : BitVec 32) : Run (Store σ) := do
  let width := length.toNat
  let sourceHandle ← inst.tableHandle sourceTable
  let destinationHandle ← inst.tableHandle destinationTable
  let sourceCell := store.heap.table sourceHandle
  let destinationCell := store.heap.table destinationHandle
  if sourceCell.len < source.toNat + width then
    .error (.tableElementOutOfBounds source.toNat)
  else if destinationCell.len < destination.toNat + width then
    .error (.tableElementOutOfBounds destination.toNat)
  else
    let copied := (sourceCell.slots.drop source.toNat).take width
    let cell := destinationCell.writeSlots destination.toNat copied
    return { store with heap := store.heap.setTable destinationHandle cell }

def tableFill (tableIndex : Nat) (destination : BitVec 32) (value : Option Nat)
    (length : BitVec 32) : Run (Store σ) := do
  let width := length.toNat
  let handle ← inst.tableHandle tableIndex
  let cell := store.heap.table handle
  if cell.len < destination.toNat + width then
    .error (.tableElementOutOfBounds destination.toNat)
  else
    let slots := List.replicate width (value.map inst.functionRef)
    let cell := cell.writeSlots destination.toNat slots
    return { store with heap := store.heap.setTable handle cell }

def tableSize (tableIndex : Nat) : Run (BitVec 32) := do
  let handle ← inst.tableHandle tableIndex
  return BitVec.ofNat 32 (store.heap.table handle).len

/-- `table.get`. -/
def tableGet (tableIndex elementIndex : Nat) : Run (Option Nat) := do
  let handle ← inst.tableHandle tableIndex
  tableResult elementIndex
    ((store.heap.table handle).functionIndexForInstance store.heap.live elementIndex
      inst.identity)

/-- `table.set`. -/
def tableSet (tableIndex elementIndex : Nat) (reference : Option Nat) :
    Run (Store σ) := do
  let handle ← inst.tableHandle tableIndex
  let cell ← tableResult elementIndex
    ((store.heap.table handle).set elementIndex (reference.map inst.functionRef))
  return { store with heap := store.heap.setTable handle cell }

/-- `table.grow`. -/
def tableGrow (tableIndex : Nat) (delta : BitVec 32) (reference : Option Nat) :
    Run (BitVec 32 × Store σ) := do
  let handle ← inst.tableHandle tableIndex
  let (previous, cell) :=
    (store.heap.table handle).grow (store.heap.granted 0) delta.toNat
      (reference.map inst.functionRef)
  return (previous, { store with heap := store.heap.tick.setTable handle cell })

/-! ## Globals -/

def globalGet (globalIndex : Nat) : Run Value := do
  let handle ← inst.globalHandle globalIndex
  return (store.heap.global handle).value

def mapGlobalError (globalIndex : Nat) : GlobalHandleError → RuntimeError
  | .immutable => .immutableGlobalSet globalIndex
  | .typeMismatch expected actual => .valueTypeMismatch expected actual

/-- The part of `global.set` behind the pop. -/
def globalSet (globalIndex : Nat) (value : Value) : Run (Store σ) := do
  let handle ← inst.globalHandle globalIndex
  match (store.heap.global handle).set value with
  | .ok cell => return { store with heap := store.heap.setGlobal handle cell }
  | .error err => .error (mapGlobalError globalIndex err)

/-! ## Functions -/

def functionType (functionIndex : Nat) : Run FuncType :=
  match inst.module.functionType functionIndex with
  | some type => .ok type
  | none => .error (.functionOutOfBounds functionIndex)

def resolveIndirectCallee (expectedTypeIndex tableIndex elementIndex : Nat) :
    Run (Nat × FuncType) := do
  match ← inst.tableGet store tableIndex elementIndex with
  | none => .error (.uninitializedTableElement elementIndex)
  | some callee =>
      match inst.module.types[expectedTypeIndex]? with
      | none => .error (.controlInvariant "validated call_indirect type is missing")
      | some expectedType =>
          let actualType ← inst.functionType callee
          if actualType ≠ expectedType then
            .error (.indirectCallTypeMismatch expectedTypeIndex callee)
          else
            return (callee, expectedType)

end Instance

end MiniWasm.Runtime
