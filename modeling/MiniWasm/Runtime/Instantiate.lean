import MiniWasm.Runtime.Invoke
import MiniWasm.Validator.Module

/-!
# Instantiation

`Instance::with_config` up to the start function.  Every stage threads the heap,
because binding a table and allocating a memory, a table or a global change it;
an identity that was created is dropped again when a later stage fails.
-/

namespace MiniWasm.Runtime

variable {σ : Type}

/-- A stage that may fail and hands the heap on in either case. -/
abbrev Stage (α : Type) := Heap × Run α

/-! ## Host bindings -/

section Bindings

variable (entry : Import)

def validateMemoryAddressWidth (expectedMemory64 : Bool) (cell : MemoryCell) : Run Unit :=
  if cell.memory64 = expectedMemory64 then
    .ok ()
  else
    .error (.hostMemoryAddressWidthMismatch entry.module entry.name expectedMemory64
      cell.memory64)

def validateMemoryLimits (expectedMinimum : Nat) (expectedMaximum : Option Nat)
    (cell : MemoryCell) : Run Unit :=
  let maximumMatches :=
    match expectedMaximum with
    | none => true
    | some expected => cell.maximum.any (· ≤ expected)
  if expectedMinimum ≤ cell.minimum && maximumMatches then
    .ok ()
  else if 2 ^ 32 - 1 < expectedMinimum || expectedMaximum.any (2 ^ 32 - 1 < ·) then
    .error (.hostMemoryLimitWidthOverflow entry.module entry.name)
  else
    .error (.hostMemoryLimitsMismatch entry.module entry.name expectedMinimum
      expectedMaximum cell.minimum cell.maximum)

def validateMemoryRuntimeLimit (cell : MemoryCell) (runtimeLimit : Nat) : Run Unit :=
  let runtimeLimit := min runtimeLimit maxMemoryPages
  let memoryLimit := cell.maximum.getD maxMemoryPages
  if cell.memory.sizePages ≤ runtimeLimit ∧ memoryLimit ≤ runtimeLimit then
    .ok ()
  else
    .error (.hostMemoryRuntimeLimitMismatch entry.module entry.name memoryLimit
      runtimeLimit)

def validateTableLimits (expectedMinimum : Nat) (expectedMaximum : Option Nat)
    (cell : TableCell) : Run Unit :=
  let maximumMatches :=
    match expectedMaximum with
    | none => true
    | some expected => cell.maximum.any (· ≤ expected)
  if expectedMinimum ≤ cell.len && maximumMatches then
    .ok ()
  else
    .error (.hostTableLimitsMismatch entry.module entry.name expectedMinimum
      expectedMaximum cell.len cell.maximum)

def validateGlobalBinding (type : GlobalType) (cell : GlobalCell) : Run Unit :=
  if cell.valueType ≠ type.valueType then
    .error (.hostGlobalTypeMismatch entry.module entry.name type.valueType cell.valueType)
  else if cell.mutable ≠ type.mutable then
    .error (.hostGlobalMutabilityMismatch entry.module entry.name type.mutable
      cell.mutable)
  else
    .ok ()

end Bindings

section Lookup

variable (hosts : HostRegistry σ) (heap : Heap) (limits : RuntimeLimits) (entry : Import)

def importedTable (type : TableType) : Run TableHandle :=
  match findKey hosts.tables entry.key with
  | none => .error (.unresolvedTableImport entry.module entry.name)
  | some handle => do
      validateTableLimits entry type.limits.min type.limits.max (heap.table handle)
      return handle

def importedMemory (type : MemoryType) : Run MemoryHandle :=
  match findKey hosts.memories entry.key with
  | none => .error (.unresolvedMemoryImport entry.module entry.name)
  | some handle => do
      let cell := heap.memory handle
      validateMemoryAddressWidth entry type.limits.memory64 cell
      validateMemoryLimits entry type.limits.min type.limits.max cell
      validateMemoryRuntimeLimit entry cell limits.maxMemoryPages
      return handle

def importedGlobal (type : GlobalType) : Run GlobalHandle :=
  match findKey hosts.globals entry.key with
  | none => .error (.unresolvedGlobalImport entry.module entry.name)
  | some handle => do
      validateGlobalBinding entry type (heap.global handle)
      return handle

def validateFunctionBinding (module : Module) (entry : Import) : Run Unit :=
  match findKey hosts.functions entry.key with
  | none => .error (.unresolvedImport entry.module entry.name)
  | some host =>
      match entry.functionTypeIndex.bind (module.types[·]?) with
      | none => .error .panicked
      | some declared =>
          if host.params ≠ declared.params ∨ host.results ≠ declared.results then
            .error (.hostSignatureMismatch entry.module entry.name)
          else
            .ok ()

end Lookup

/-- Apply a fallible check to every entry of a list. -/
def forEach {α : Type} (check : α → Run Unit) : List α → Run Unit
  | [] => .ok ()
  | value :: rest => do
      check value
      forEach check rest

/-- Collect the results of a fallible function. -/
def collect {α β : Type} (convert : α → Run β) : List α → Run (List β)
  | [] => .ok []
  | value :: rest => do
      let first ← convert value
      let others ← collect convert rest
      return first :: others

/-- The imports of one kind with what they declare. -/
def importsOf {α : Type} (module : Module) (declared : Import → Option α) :
    List (Import × α) :=
  module.imports.filterMap fun entry => (declared entry).map (entry, ·)

def validateHostBindings (module : Module) (hosts : HostRegistry σ) (heap : Heap)
    (limits : RuntimeLimits) : Run Unit := do
  forEach (validateFunctionBinding hosts module) module.functionImports
  forEach (fun (entry, type) => do let _ ← importedTable hosts heap entry type)
    (importsOf module Import.tableType)
  forEach (fun (entry, type) => do let _ ← importedMemory hosts heap limits entry type)
    (importsOf module Import.memoryType)
  forEach (fun (entry, type) => do let _ ← importedGlobal hosts heap entry type)
    (importsOf module Import.globalType)

/-! ## Memories -/

def LinearMemory.new (granted : Bool) (minPages : Nat) (declaredMax : Option Nat)
    (runtimeMax : Nat) : Run LinearMemory :=
  let runtimeMax := min runtimeMax maxMemoryPages
  if runtimeMax < minPages then
    .error (.memoryLimitExceeded (min minPages (2 ^ 32 - 1)) runtimeMax)
  else if granted then
    .ok
      { bytes := List.replicate (minPages * wasmPageSize) 0
        maxPages := min (declaredMax.getD runtimeMax) runtimeMax }
  else
    .error (.memoryAllocationFailed minPages)

def instantiateOwnedMemories (limits : RuntimeLimits) :
    List MemoryType → Heap → Stage (List RuntimeMemory)
  | [], heap => (heap, .ok [])
  | type :: rest, heap =>
      match LinearMemory.new (heap.granted 0) type.limits.min type.limits.max
        limits.maxMemoryPages with
      | .error err => (heap.tick, .error err)
      | .ok memory =>
          let (heap, memories) := instantiateOwnedMemories limits rest heap.tick
          (heap, memories.map (.owned memory :: ·))

def instantiateMemories (module : Module) (hosts : HostRegistry σ) (limits : RuntimeLimits)
    (heap : Heap) : Stage (List RuntimeMemory) :=
  match collect (fun (entry, type) => importedMemory hosts heap limits entry type)
    (importsOf module Import.memoryType) with
  | .error err => (heap, .error err)
  | .ok handles =>
      let (heap, owned) := instantiateOwnedMemories limits module.memories heap
      (heap, owned.map (handles.map .imported ++ ·))

/-! ## Tables -/

/-- `bind`, with the error that the caller maps it to. -/
def bindTable (heap : Heap) (handle : TableHandle) (identity : Identity)
    (mapError : TableHandleError → RuntimeError) : Run Heap :=
  match (heap.table handle).bind heap.live identity with
  | .ok cell => .ok (heap.setTable handle cell)
  | .error err => .error (mapError err)

def alreadyBoundError (entry : Import) : TableHandleError → RuntimeError
  | .alreadyBound => .hostTableAlreadyBound entry.module entry.name
  | other => mapTableElementError other 0

def instantiateImportedTables (hosts : HostRegistry σ) (identity : Identity) :
    List (Import × TableType) → Heap → Stage (List TableHandle)
  | [], heap => (heap, .ok [])
  | (entry, type) :: rest, heap =>
      match importedTable hosts heap entry type with
      | .error err => (heap, .error err)
      | .ok handle =>
          match bindTable heap handle identity (alreadyBoundError entry) with
          | .error err => (heap, .error err)
          | .ok heap =>
              let (heap, handles) := instantiateImportedTables hosts identity rest heap
              (heap, handles.map (handle :: ·))

/-- The error of a defined table whose handle cannot be created. -/
def definedTableError : TableHandleError → RuntimeError
  | .allocationFailed elements => .tableAllocationFailed elements
  | .invalidLimits _ _ =>
      .controlInvariant "validated defined table has inconsistent limits"
  | other => mapTableElementError other 0

def instantiateDefinedTables (identity : Identity) :
    List TableType → Heap → Stage (List TableHandle)
  | [], heap => (heap, .ok [])
  | type :: rest, heap =>
      match TableCell.new (heap.granted 0) type.limits.min type.limits.max with
      | .error err => (heap.tick, .error (definedTableError err))
      | .ok cell =>
          let (handle, heap) := heap.tick.newTable cell
          match bindTable heap handle identity (fun _ => .controlInvariant
            "fresh defined table is unexpectedly already bound") with
          | .error err => (heap, .error err)
          | .ok heap =>
              let (heap, handles) := instantiateDefinedTables identity rest heap
              (heap, handles.map (handle :: ·))

def instantiateTables (module : Module) (hosts : HostRegistry σ) (identity : Identity)
    (heap : Heap) : Stage (List TableHandle) :=
  match instantiateImportedTables hosts identity (importsOf module Import.tableType) heap with
  | (heap, .error err) => (heap, .error err)
  | (heap, .ok imported) =>
      let (heap, defined) := instantiateDefinedTables identity module.tables heap
      (heap, defined.map (imported ++ ·))

/-! ## Globals -/

def instantiateDefinedGlobals : List Global → Heap → Heap × List GlobalHandle
  | [], heap => (heap, [])
  | definition :: rest, heap =>
      let cell := GlobalCell.new (valueFromConstant definition.init) definition.type.mutable
      let (handle, heap) := heap.newGlobal cell
      let (heap, handles) := instantiateDefinedGlobals rest heap
      (heap, handle :: handles)

def instantiateGlobals (module : Module) (hosts : HostRegistry σ) (heap : Heap) :
    Stage (List GlobalHandle) :=
  match collect (fun (entry, type) => importedGlobal hosts heap entry type)
    (importsOf module Import.globalType) with
  | .error err => (heap, .error err)
  | .ok imported =>
      let (heap, defined) := instantiateDefinedGlobals module.globals heap
      (heap, .ok (imported ++ defined))

/-! ## Segments -/

def passiveData (segment : DataSegment) : List UInt8 :=
  match segment.mode with
  | .passive => segment.bytes
  | .active _ _ => []

def passiveElements (segment : ElementSegment) : List Nat :=
  match segment.mode with
  | .passive => segment.functionIndices
  | .active _ _ => []
  | .declarative => []

section Segments

variable (inst : Instance σ)

def preflightElementSegment (heap : Heap) (index : Nat) (segment : ElementSegment) :
    Run Unit :=
  match segment.mode with
  | .active tableIndex offset => do
      let length := segment.functionIndices.length
      let handle ← inst.tableHandle tableIndex
      if (heap.table handle).len < offset.toNat + length then
        .error (.elementSegmentOutOfBounds index offset.toNat length)
      else
        return ()
  | _ => return ()

def preflightElementSegments (heap : Heap) : Run Unit :=
  Library.checkEach (preflightElementSegment inst heap) 0 inst.module.elements

def preflightDataSegment (store : Store σ) (index : Nat) (segment : DataSegment) :
    Run Unit :=
  match segment.mode with
  | .active memoryIndex offset =>
      let length := segment.bytes.length
      if 2 ^ 64 ≤ offset + length then
        .error (.dataSegmentOutOfBounds index offset length)
      else do
        let memory ← store.memoryAt memoryIndex
        if memory.bytes.length < offset + length then
          .error (.dataSegmentOutOfBounds index offset length)
        else
          return ()
  | .passive => return ()

/-- Copy an active segment into its memory.  A range that left the memory would
panic. -/
def writeDataSegment (store : Store σ) (segment : DataSegment) : Run (Store σ) :=
  match segment.mode with
  | .active memoryIndex offset =>
      store.withMemoryIndexMut memoryIndex fun memory =>
        if memory.bytes.length < offset + segment.bytes.length then
          .error .panicked
        else
          .ok (memory.writeBytes offset segment.bytes)
  | .passive => return store

/-- A stage over the store that keeps what was written before it failed. -/
def writeEach {α : Type} (write : Store σ → α → Run (Store σ)) :
    List α → Store σ → Store σ × Run Unit
  | [], store => (store, .ok ())
  | value :: rest, store =>
      match write store value with
      | .error err => (store, .error err)
      | .ok store => writeEach write rest store

def initializeDataSegments (store : Store σ) : Store σ × Run Unit :=
  match Library.checkEach (preflightDataSegment store) 0 inst.module.data with
  | .error err => (store, .error err)
  | .ok _ => writeEach writeDataSegment inst.module.data store

/-- Set one slot of an active element segment. -/
def writeElementSlot (handle : TableHandle) (store : Store σ) (entry : Nat × Nat) :
    Run (Store σ) :=
  let (index, functionIndex) := entry
  if 2 ^ 32 ≤ index then
    .error (.controlInvariant "preflighted element segment index no longer fits u32")
  else do
    let cell := store.heap.table handle
    let cell ← tableResult index <|
      if functionIndex = nullFuncrefIndex then cell.set index none
      else cell.setForInstance store.heap.live index functionIndex inst.identity
    return { store with heap := store.heap.setTable handle cell }

/-- The slots of a segment with the function indices they receive. -/
def slotEntries : (start : Nat) → List Nat → List (Nat × Nat)
  | _, [] => []
  | start, functionIndex :: rest => (start, functionIndex) :: slotEntries (start + 1) rest

def writeElementSegment (store : Store σ) (segment : ElementSegment) :
    Store σ × Run Unit :=
  match segment.mode with
  | .active tableIndex offset =>
      match inst.tableHandle tableIndex with
      | .error err => (store, .error err)
      | .ok handle =>
          writeEach (writeElementSlot inst handle)
            (slotEntries offset.toNat segment.functionIndices) store
  | _ => (store, .ok ())

def writeElementSegments : List ElementSegment → Store σ → Store σ × Run Unit
  | [], store => (store, .ok ())
  | segment :: rest, store =>
      match writeElementSegment inst store segment with
      | (store, .error err) => (store, .error err)
      | (store, .ok _) => writeElementSegments rest store

def initializeElementSegments (store : Store σ) : Store σ × Run Unit :=
  match preflightElementSegments inst store.heap with
  | .error err => (store, .error err)
  | .ok _ => writeElementSegments inst inst.module.elements store

end Segments

/-! ## The stages together -/

/-- What instantiation leaves behind: the heap and the host state in any case,
and the instance with its store when every stage before the start function
succeeded. -/
inductive Instantiated (σ : Type) where
  | failed (heap : Heap) (error : RuntimeError)
  | ready (inst : Instance σ) (store : Store σ)

/-- The segments of an assembled instance. -/
def initializeSegments (inst : Instance σ) (store : Store σ) : Store σ × Run Unit :=
  match preflightElementSegments inst store.heap with
  | .error err => (store, .error err)
  | .ok _ =>
      match initializeDataSegments inst store with
      | (store, .error err) => (store, .error err)
      | (store, .ok _) => initializeElementSegments inst store

/-- Instantiation up to the start function. -/
def instantiate (module : Module) (hosts : HostRegistry σ) (limits : RuntimeLimits)
    (heap : Heap) (host : σ) : Instantiated σ :=
  match Validator.validate module with
  | .error err => .failed heap (.validation err)
  | .ok _ =>
  match validateHostBindings module hosts heap limits with
  | .error err => .failed heap err
  | .ok _ =>
  match collect (fun body => buildControlMap body.code module.types) module.code with
  | .error err => .failed heap err
  | .ok controlMaps =>
  match instantiateMemories module hosts limits heap with
  | (heap, .error err) => .failed heap err
  | (heap, .ok memories) =>
  let (identity, heap) := heap.newIdentity
  match instantiateTables module hosts identity heap with
  | (heap, .error err) => .failed (heap.dropIdentity identity) err
  | (heap, .ok tables) =>
  match instantiateGlobals module hosts heap with
  | (heap, .error err) => .failed (heap.dropIdentity identity) err
  | (heap, .ok globals) =>
  let inst : Instance σ := { identity, module, controlMaps, tables, globals, hosts, limits }
  let store : Store σ :=
    { heap, memories, host
      dataSegments := module.data.map passiveData
      elementSegments := module.elements.map passiveElements }
  match initializeSegments inst store with
  | (store, .error err) => .failed (store.heap.dropIdentity identity) err
  | (store, .ok _) => .ready inst store

/-- The invocation of the start function, if there is one. -/
def startFunction (inst : Instance σ) (store : Store σ) : Option (Machine σ) :=
  inst.module.start.map fun start =>
    Machine.start store start [] 0 (.new inst.limits)

end MiniWasm.Runtime
