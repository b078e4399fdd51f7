import MiniWasm.Library.Arena
import MiniWasm.Library.Result
import MiniWasm.Runtime.Memory

/-!
# Shared handles

Memories, tables and globals that several instances and the embedder can reach.
A handle is an address into the heap; the data that every copy of a handle
shares, its declared type and limits included, stands in the cell.

An instance is known by its identity.  Function references name their creator
weakly: they upgrade only while the creator is live.
-/

namespace MiniWasm.Runtime

open Library

abbrev Identity := Nat

structure FunctionRef where
  owner : Identity
  functionIndex : Nat
  deriving DecidableEq, Repr

structure MemoryHandle where
  address : Nat
  deriving DecidableEq, Repr

structure TableHandle where
  address : Nat
  deriving DecidableEq, Repr

structure GlobalHandle where
  address : Nat
  deriving DecidableEq, Repr

/-! ## Globals -/

/-- A global of a fixed type. -/
structure GlobalCell where
  value : Value
  valueType : ValueType
  mutable : Bool
  typed : value.valueType = valueType

inductive GlobalHandleError where
  | immutable
  | typeMismatch (expected actual : ValueType)
  deriving DecidableEq, Repr

def GlobalCell.new (value : Value) (mutable : Bool) : GlobalCell where
  value
  valueType := value.valueType
  mutable
  typed := rfl

def GlobalCell.set (cell : GlobalCell) (value : Value) :
    Except GlobalHandleError GlobalCell :=
  if cell.mutable = false then
    .error .immutable
  else if typed : value.valueType = cell.valueType then
    .ok { cell with value, typed }
  else
    .error (.typeMismatch cell.valueType value.valueType)

theorem GlobalCell.set_ok {cell next : GlobalCell} {value : Value}
    (stored : cell.set value = .ok next) :
    cell.mutable = true ∧ next.value = value ∧ next.valueType = cell.valueType ∧
      next.mutable = cell.mutable := by
  unfold set at stored
  split_ifs at stored with immutable typed
  cases stored
  exact ⟨by simpa using immutable, rfl, rfl, rfl⟩

/-! ## Tables -/

inductive TableHandleError where
  | invalidLimits (minimum maximum : Nat)
  | allocationFailed (elements : Nat)
  | outOfBounds (index length : Nat)
  | foreignFunctionReference (index : Nat)
  | alreadyBound
  deriving DecidableEq, Repr

/-- A table, whose length is a 32-bit number. -/
structure TableCell where
  slots : List (Option FunctionRef)
  maximum : Option Nat
  owner : Option Identity
  bounded : slots.length < 2 ^ 32
  deriving DecidableEq, Repr

namespace TableCell

variable (cell : TableCell)

/-- The table that a handle is created with.  The minimum is a 32-bit number;
a larger one is refused like a failed allocation. -/
def new (granted : Bool) (minimum : Nat) (maximum : Option Nat) :
    Except TableHandleError TableCell :=
  if maximum.any (· < minimum) then
    .error (.invalidLimits minimum (maximum.getD 0))
  else if fits : minimum < 2 ^ 32 ∧ granted = true then
    .ok
      { slots := List.replicate minimum none, maximum, owner := none
        bounded := by simpa using fits.1 }
  else
    .error (.allocationFailed minimum)

def len : Nat :=
  cell.slots.length

def get (index : Nat) : Except TableHandleError (Option FunctionRef) :=
  match cell.slots[index]? with
  | some slot => .ok slot
  | none => .error (.outOfBounds index cell.len)

def set (index : Nat) (function : Option FunctionRef) :
    Except TableHandleError TableCell :=
  if index < cell.slots.length then
    .ok
      { cell with
        slots := cell.slots.set index function
        bounded := by simpa using cell.bounded }
  else
    .error (.outOfBounds index cell.len)

/-- Previous length, or `-1`, with the table after the call. -/
def grow (granted : Bool) (delta : Nat) (fill : Option FunctionRef) :
    BitVec 32 × TableCell :=
  let previous := cell.len
  let newLength := previous + delta
  if large : 2 ^ 32 ≤ newLength then (-1, cell)
  else if cell.maximum.any (· < newLength) then (-1, cell)
  else if delta = 0 then (BitVec.ofNat 32 previous, cell)
  else if granted then
    (BitVec.ofNat 32 previous,
      { cell with
        slots := cell.slots ++ List.replicate delta fill
        bounded := by
          rw [List.length_append, List.length_replicate]
          exact Nat.lt_of_not_le large })
  else (-1, cell)

/-- Overwrite a run of slots. -/
def writeSlots (start : Nat) (slots : List (Option FunctionRef)) : TableCell :=
  { cell with
    slots := overwrite cell.slots start slots
    bounded := by simpa using cell.bounded }

/-- The owner, if it is still live. -/
def liveOwner (live : List Identity) : Option Identity :=
  cell.owner.filter (· ∈ live)

def bind (live : List Identity) (identity : Identity) :
    Except TableHandleError TableCell :=
  match cell.liveOwner live with
  | some existing =>
      if existing = identity then .ok cell else .error .alreadyBound
  | none => .ok { cell with owner := some identity }

def setForInstance (live : List Identity) (index functionIndex : Nat)
    (identity : Identity) : Except TableHandleError TableCell := do
  let cell ← cell.bind live identity
  cell.set index (some { owner := identity, functionIndex })

def functionIndexForInstance (live : List Identity) (index : Nat)
    (identity : Identity) : Except TableHandleError (Option Nat) := do
  match ← cell.get index with
  | none => return none
  | some function =>
      if function.owner ∉ live then
        .error (.foreignFunctionReference index)
      else if function.owner ≠ identity then
        .error (.foreignFunctionReference index)
      else
        return some function.functionIndex

/-- A reference obtained through a slot was created by the instance itself. -/
theorem functionIndexForInstance_ok {cell : TableCell} {live : List Identity}
    {index function : Nat} {identity : Identity}
    (found : cell.functionIndexForInstance live index identity = .ok (some function)) :
    cell.slots[index]? = some (some ⟨identity, function⟩) ∧ identity ∈ live := by
  unfold functionIndexForInstance get at found
  cases slot : cell.slots[index]? with
  | none =>
      simp only [slot, error_bind] at found
      cases found
  | some content =>
      simp only [slot, ok_bind] at found
      cases content with
      | none => cases found
      | some reference =>
          dsimp only at found
          split_ifs at found with dead foreign
          obtain ⟨owner, functionIndex⟩ := reference
          simp only [not_not] at dead foreign
          simp only [pure_ok, Except.ok.injEq, Option.some.injEq] at found
          subst found foreign
          exact ⟨rfl, dead⟩

end TableCell

/-! ## The heap -/

structure MemoryCell where
  memory : LinearMemory
  minimum : Nat
  maximum : Option Nat
  memory64 : Bool
  deriving DecidableEq, Repr

/-- `granted` answers the coming requests to the allocator.  No identity is handed
out twice. -/
structure Heap where
  memories : Arena MemoryCell
  tables : Arena TableCell
  globals : Arena GlobalCell
  /-- Instances that have not been dropped. -/
  live : List Identity
  nextIdentity : Identity
  /-- References that the embedder has taken out of tables. -/
  held : List FunctionRef
  granted : Nat → Bool
  fresh : ∀ identity ∈ live, identity < nextIdentity

namespace Heap

/-- The heap before anything was created. -/
def empty (granted : Nat → Bool) : Heap where
  memories := .empty
    { memory := { bytes := [], maxPages := 0 }, minimum := 0, maximum := none
      memory64 := false }
  tables := .empty { slots := [], maximum := none, owner := none, bounded := by decide }
  globals := .empty (.new (.i32 0) false)
  live := []
  nextIdentity := 0
  held := []
  granted
  fresh _ member := by cases member

variable (heap : Heap)

def memory (handle : MemoryHandle) : MemoryCell :=
  heap.memories.get handle.address

def table (handle : TableHandle) : TableCell :=
  heap.tables.get handle.address

def global (handle : GlobalHandle) : GlobalCell :=
  heap.globals.get handle.address

def setLinearMemory (handle : MemoryHandle) (memory : LinearMemory) : Heap :=
  { heap with
    memories := heap.memories.set handle.address { heap.memory handle with memory } }

def setTable (handle : TableHandle) (cell : TableCell) : Heap :=
  { heap with tables := heap.tables.set handle.address cell }

def setGlobal (handle : GlobalHandle) (cell : GlobalCell) : Heap :=
  { heap with globals := heap.globals.set handle.address cell }

/-- The allocator has answered a request. -/
def tick : Heap :=
  { heap with granted := fun request => heap.granted (request + 1) }

def newMemory (cell : MemoryCell) : MemoryHandle × Heap :=
  let (address, memories) := heap.memories.alloc cell
  (⟨address⟩, { heap with memories })

def newTable (cell : TableCell) : TableHandle × Heap :=
  let (address, tables) := heap.tables.alloc cell
  (⟨address⟩, { heap with tables })

def newGlobal (cell : GlobalCell) : GlobalHandle × Heap :=
  let (address, globals) := heap.globals.alloc cell
  (⟨address⟩, { heap with globals })

/-- A new live instance. -/
def newIdentity : Identity × Heap :=
  (heap.nextIdentity,
    { heap with
      live := heap.nextIdentity :: heap.live
      nextIdentity := heap.nextIdentity + 1
      fresh := by
        intro identity member
        rcases List.mem_cons.mp member with rfl | old
        · exact Nat.lt_succ_self _
        · exact Nat.lt_succ_of_lt (heap.fresh identity old) })

def dropIdentity (identity : Identity) : Heap :=
  { heap with
    live := heap.live.filter (· ≠ identity)
    fresh := fun other member => heap.fresh other (List.mem_of_mem_filter member) }

end Heap

/-! ## What the embedder does with handles

Each operation is one call of the embedding interface.  A call that fails
changes nothing.
-/

inductive HandleOp where
  | setGlobal (handle : GlobalHandle) (value : Value)
  | newGlobal (value : Value) (mutable : Bool)
  /-- Take a reference out of a table. -/
  | getTable (handle : TableHandle) (index : Nat)
  /-- Put `none`, or a reference taken out before, into a table. -/
  | setTable (handle : TableHandle) (index : Nat) (reference : Option Nat)
  | newTable (minimum : Nat) (maximum : Option Nat)
  | writeMemory (handle : MemoryHandle) (address : Nat) (bytes : List UInt8)
  | growMemory (handle : MemoryHandle) (deltaPages : Nat)
  | newMemory (minimum : Nat) (maximum : Option Nat) (memory64 : Bool)
  deriving DecidableEq, Repr

/-- `MemoryHandle::new` and `MemoryHandle::new64`. -/
def MemoryCell.new (granted : Bool) (minimum : Nat) (maximum : Option Nat)
    (memory64 : Bool) : Option MemoryCell :=
  if maximum.any (fun maximum => maximum < minimum || maxMemoryPages < maximum) then none
  else if maxMemoryPages < minimum then none
  else if granted then
    some
      { memory :=
          { bytes := List.replicate (minimum * wasmPageSize) 0
            maxPages := maximum.getD maxMemoryPages }
        minimum, maximum, memory64 }
  else none

namespace HandleOp

/-- The reference that a `setTable` call passes, if the embedder has it. -/
def heldReference (heap : Heap) : Option Nat → Option (Option FunctionRef)
  | none => some none
  | some position => (heap.held[position]?).map some

def apply (heap : Heap) : HandleOp → Heap
  | setGlobal handle value =>
      match (heap.global handle).set value with
      | .ok cell => heap.setGlobal handle cell
      | .error _ => heap
  | newGlobal value mutable => (heap.newGlobal (GlobalCell.new value mutable)).2
  | getTable handle index =>
      match (heap.table handle).get index with
      | .ok (some reference) => { heap with held := heap.held ++ [reference] }
      | _ => heap
  | setTable handle index reference =>
      match heldReference heap reference with
      | none => heap
      | some function =>
          match (heap.table handle).set index function with
          | .ok cell => heap.setTable handle cell
          | .error _ => heap
  | newTable minimum maximum =>
      match TableCell.new (heap.granted 0) minimum maximum with
      | .ok cell => (heap.tick.newTable cell).2
      | .error _ => heap.tick
  | writeMemory handle address bytes =>
      let memory := (heap.memory handle).memory
      match memory.checkedHostRange address bytes.length with
      | .ok start => heap.setLinearMemory handle (memory.writeBytes start bytes)
      | .error _ => heap
  | growMemory handle deltaPages =>
      let memory := (heap.memory handle).memory
      heap.tick.setLinearMemory handle (memory.grow (heap.granted 0) deltaPages).2
  | newMemory minimum maximum memory64 =>
      match MemoryCell.new (heap.granted 0) minimum maximum memory64 with
      | some cell => (heap.tick.newMemory cell).2
      | none => heap.tick

end HandleOp

end MiniWasm.Runtime
