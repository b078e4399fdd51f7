import MiniWasm.Runtime.Instantiate

/-!
# Failed instantiations

The stages of an instantiation touch what existed before only by binding tables
to the new instance, until the first segment is written; and once every segment
has passed its check, no write fails.  A failed instantiation therefore leaves
every shared memory, table and global as it was, and a table that it bound is
free again once its identity is dropped.
-/

namespace MiniWasm.Runtime

open Library

variable {σ : Type}

/-! ## Heaps that differ in bindings only -/

/-- What existed in `before` stands in `after` as it was, except that tables
without a live owner may have been bound to `identity`. -/
structure Heap.BindsOnly (identity : Identity) (before after : Heap) : Prop where
  live : after.live = before.live
  memoriesGrow : before.memories.size ≤ after.memories.size
  tablesGrow : before.tables.size ≤ after.tables.size
  globalsGrow : before.globals.size ≤ after.globals.size
  memories : ∀ address, address < before.memories.size →
    after.memories.get address = before.memories.get address
  globals : ∀ address, address < before.globals.size →
    after.globals.get address = before.globals.get address
  slots : ∀ address, address < before.tables.size →
    (after.tables.get address).slots = (before.tables.get address).slots
  maximum : ∀ address, address < before.tables.size →
    (after.tables.get address).maximum = (before.tables.get address).maximum
  owner : ∀ address, address < before.tables.size →
    (after.tables.get address).owner = (before.tables.get address).owner ∨
      (after.tables.get address).owner = some identity ∧
        (before.tables.get address).liveOwner before.live = none
  stayBound : ∀ address, (before.tables.get address).owner = some identity →
    (after.tables.get address).owner = some identity

namespace Heap.BindsOnly

variable {identity : Identity} {first second third : Heap}

theorem refl (identity : Identity) (heap : Heap) : heap.BindsOnly identity heap where
  live := rfl
  memoriesGrow := Nat.le_refl _
  tablesGrow := Nat.le_refl _
  globalsGrow := Nat.le_refl _
  memories _ _ := rfl
  globals _ _ := rfl
  slots _ _ := rfl
  maximum _ _ := rfl
  owner _ _ := .inl rfl
  stayBound _ bound := bound

theorem trans (left : first.BindsOnly identity second)
    (right : second.BindsOnly identity third) : first.BindsOnly identity third where
  live := right.live.trans left.live
  memoriesGrow := Nat.le_trans left.memoriesGrow right.memoriesGrow
  tablesGrow := Nat.le_trans left.tablesGrow right.tablesGrow
  globalsGrow := Nat.le_trans left.globalsGrow right.globalsGrow
  memories address existed :=
    (right.memories address (Nat.lt_of_lt_of_le existed left.memoriesGrow)).trans
      (left.memories address existed)
  globals address existed :=
    (right.globals address (Nat.lt_of_lt_of_le existed left.globalsGrow)).trans
      (left.globals address existed)
  slots address existed :=
    (right.slots address (Nat.lt_of_lt_of_le existed left.tablesGrow)).trans
      (left.slots address existed)
  maximum address existed :=
    (right.maximum address (Nat.lt_of_lt_of_le existed left.tablesGrow)).trans
      (left.maximum address existed)
  owner address existed := by
    have existedLater := Nat.lt_of_lt_of_le existed left.tablesGrow
    rcases right.owner address existedLater with same | ⟨bound, free⟩
    · rw [same]
      exact left.owner address existed
    · rcases left.owner address existed with same | ⟨-, free⟩
      · refine .inr ⟨bound, ?_⟩
        rwa [TableCell.liveOwner, same, left.live] at free
      · exact .inr ⟨bound, free⟩
  stayBound address bound := right.stayBound address (left.stayBound address bound)

theorem tick (heap : Heap) : heap.BindsOnly identity heap.tick :=
  { refl identity heap with }

theorem newGlobal (heap : Heap) (cell : GlobalCell) :
    heap.BindsOnly identity (heap.newGlobal cell).2 :=
  { refl identity heap with
    globalsGrow := Nat.le_succ _
    globals := fun _ existed => heap.globals.get_alloc_of_lt cell existed }

end Heap.BindsOnly

/-! ## Binding a table -/

theorem TableCell.bind_ok {cell next : TableCell} {live : List Identity}
    {identity : Identity} (bound : cell.bind live identity = .ok next) :
    next.slots = cell.slots ∧ next.maximum = cell.maximum ∧ next.owner = some identity ∧
      (cell.owner = some identity ∨ cell.liveOwner live = none) := by
  unfold TableCell.bind at bound
  cases owned : cell.liveOwner live with
  | none =>
      simp only [owned, Except.ok.injEq] at bound
      subst bound
      exact ⟨rfl, rfl, rfl, .inr rfl⟩
  | some existing =>
      simp only [owned] at bound
      split_ifs at bound with same
      cases bound
      have owner : cell.owner = some existing := (Option.filter_eq_some_iff.mp owned).1
      exact ⟨rfl, rfl, same ▸ owner, .inl (same ▸ owner)⟩

/-- A table that has no live owner can be bound. -/
theorem TableCell.bind_of_free {cell : TableCell} {live : List Identity}
    (identity : Identity) (free : cell.liveOwner live = none) :
    cell.bind live identity = .ok { cell with owner := some identity } := by
  simp only [TableCell.bind, free]

/-- Binding once more to the owner changes nothing. -/
theorem TableCell.bind_of_owned {cell : TableCell} {live : List Identity}
    {identity : Identity} (owned : cell.owner = some identity) (isLive : identity ∈ live) :
    cell.bind live identity = .ok cell := by
  have liveOwner : cell.liveOwner live = some identity :=
    Option.filter_eq_some_iff.mpr ⟨owned, decide_eq_true isLive⟩
  simp only [TableCell.bind, liveOwner, ↓reduceIte]

theorem bindTable_ok {heap after : Heap} {handle : TableHandle} {identity : Identity}
    {mapError : TableHandleError → RuntimeError}
    (bound : bindTable heap handle identity mapError = .ok after) :
    heap.BindsOnly identity after ∧ (after.table handle).owner = some identity := by
  unfold bindTable at bound
  cases result : (heap.table handle).bind heap.live identity with
  | error err =>
      simp only [result] at bound
      cases bound
  | ok cell =>
      simp only [result, Except.ok.injEq] at bound
      subst bound
      obtain ⟨slots, maximum, owner, free⟩ := TableCell.bind_ok result
      have table (address : Nat) :
          (heap.setTable handle cell).tables.get address =
            if address = handle.address then cell else heap.tables.get address :=
        heap.tables.get_set ..
      constructor
      · exact
          { Heap.BindsOnly.refl identity heap with
            slots := fun address _ => by
              rw [table]
              split_ifs with same
              · exact same ▸ slots
              · rfl
            maximum := fun address _ => by
              rw [table]
              split_ifs with same
              · exact same ▸ maximum
              · rfl
            owner := fun address _ => by
              rw [table]
              split_ifs with same
              · rw [same]
                rcases free with owned | free
                · exact .inl (owner.trans owned.symm)
                · exact .inr ⟨owner, free⟩
              · exact .inl rfl
            stayBound := fun address owned => by
              rw [table]
              split_ifs
              · exact owner
              · exact owned }
      · rw [Heap.table, table, if_pos rfl]
        exact owner

/-! ## The stages before the segments -/

section Stages

variable {module : Module} {hosts : HostRegistry σ} {limits : RuntimeLimits}
variable {identity : Identity}

/-- The memories of a new instance are not shared: only the allocator is asked. -/
theorem instantiateOwnedMemories_heap (memoryTypes : List MemoryType) (heap : Heap) :
    ∃ granted, (instantiateOwnedMemories limits memoryTypes heap).1 =
      { heap with granted } := by
  induction memoryTypes generalizing heap with
  | nil => exact ⟨heap.granted, rfl⟩
  | cons type rest ih =>
      unfold instantiateOwnedMemories
      split
      · exact ⟨_, rfl⟩
      · obtain ⟨granted, same⟩ := ih heap.tick
        exact ⟨granted, same⟩

theorem instantiateMemories_heap (heap : Heap) :
    ∃ granted, (instantiateMemories module hosts limits heap).1 =
      { heap with granted } := by
  unfold instantiateMemories
  split
  · exact ⟨heap.granted, rfl⟩
  · exact instantiateOwnedMemories_heap module.memories heap

/-- What a stage over tables guarantees about the heap and the handles it returns. -/
def TablesBound (identity : Identity) (before : Heap) (stage : Stage (List TableHandle)) :
    Prop :=
  before.BindsOnly identity stage.1 ∧
    ∀ handles, stage.2 = .ok handles →
      ∀ handle ∈ handles, (stage.1.table handle).owner = some identity

/-- A table has been bound in front of a stage. -/
theorem TablesBound.cons {before middle : Heap} {handle : TableHandle}
    {stage : Stage (List TableHandle)}
    (bindsOnly : before.BindsOnly identity middle)
    (bound : (middle.table handle).owner = some identity)
    (rest : TablesBound identity middle stage) :
    TablesBound identity before (stage.1, stage.2.map (handle :: ·)) := by
  refine ⟨bindsOnly.trans rest.1, ?_⟩
  rintro handles result other member
  cases restResult : stage.2 with
  | error err =>
      simp only [restResult, Except.map] at result
      cases result
  | ok others =>
      simp only [restResult, Except.map, Except.ok.injEq] at result
      subst result
      rcases List.mem_cons.mp member with rfl | member
      · exact rest.1.stayBound _ bound
      · exact rest.2 others restResult other member

theorem TablesBound.error {before after : Heap} {err : RuntimeError}
    (bindsOnly : before.BindsOnly identity after) :
    TablesBound identity before (after, .error err) :=
  ⟨bindsOnly, fun _ result => by cases result⟩

theorem TablesBound.nil (heap : Heap) : TablesBound identity heap (heap, .ok []) :=
  ⟨.refl identity heap, fun _ result _ member => by cases result; cases member⟩

theorem instantiateImportedTables_bound (hosts : HostRegistry σ)
    (imports : List (Import × TableType)) (heap : Heap) :
    TablesBound identity heap (instantiateImportedTables hosts identity imports heap) := by
  induction imports generalizing heap with
  | nil => exact .nil heap
  | cons first rest ih =>
      obtain ⟨entry, type⟩ := first
      unfold instantiateImportedTables
      split
      · exact .error (.refl identity heap)
      · split
        · exact .error (.refl identity heap)
        · next handle _ _ middle bound =>
            obtain ⟨bindsOnly, owned⟩ := bindTable_ok bound
            exact .cons bindsOnly owned (ih middle)

/-- A new table is bound without touching what existed before. -/
theorem bindTable_newTable {heap after : Heap} {cell : TableCell}
    {mapError : TableHandleError → RuntimeError}
    (bound : bindTable (heap.tick.newTable cell).2 (heap.tick.newTable cell).1 identity
      mapError = .ok after) :
    heap.BindsOnly identity after ∧
      (after.table (heap.tick.newTable cell).1).owner = some identity := by
  obtain ⟨bindsOnly, owned⟩ := bindTable_ok bound
  have older (address : Nat) (existed : address < heap.tables.size) :
      (heap.tick.newTable cell).2.tables.get address = heap.tables.get address :=
    heap.tables.get_alloc_of_lt cell existed
  refine ⟨?_, owned⟩
  exact
    { bindsOnly with
      tablesGrow := Nat.le_trans (Nat.le_succ _) bindsOnly.tablesGrow
      slots := fun address existed =>
        (bindsOnly.slots address (Nat.lt_succ_of_lt existed)).trans
          (congrArg _ (older address existed))
      maximum := fun address existed =>
        (bindsOnly.maximum address (Nat.lt_succ_of_lt existed)).trans
          (congrArg _ (older address existed))
      owner := fun address existed => by
        have := bindsOnly.owner address (Nat.lt_succ_of_lt existed)
        rwa [older address existed] at this
      stayBound := fun address bound => by
        by_cases isNew : address = heap.tables.size
        · subst isNew
          exact owned
        · refine bindsOnly.stayBound address ?_
          have same : (heap.tick.newTable cell).2.tables.get address =
              heap.tables.get address :=
            (heap.tables.get_alloc address cell).trans (if_neg isNew)
          rw [same]
          exact bound }

theorem TableCell.new_free {granted : Bool} {minimum : Nat} {maximum : Option Nat}
    {cell : TableCell} (created : TableCell.new granted minimum maximum = .ok cell) :
    cell.owner = none := by
  unfold TableCell.new at created
  split_ifs at created
  cases created
  rfl

theorem instantiateDefinedTables_bound (tableTypes : List TableType) (heap : Heap) :
    TablesBound identity heap (instantiateDefinedTables identity tableTypes heap) := by
  induction tableTypes generalizing heap with
  | nil => exact .nil heap
  | cons type rest ih =>
      unfold instantiateDefinedTables
      split
      · exact .error (.tick heap)
      · next cell created =>
          dsimp only
          split
          · next failed =>
              have free : ((heap.tick.newTable cell).2.table
                  (heap.tick.newTable cell).1).liveOwner (heap.tick.newTable cell).2.live =
                    none := by
                have isNew : (heap.tick.newTable cell).2.table
                    (heap.tick.newTable cell).1 = cell :=
                  (heap.tables.get_alloc ..).trans (if_pos rfl)
                rw [isNew, TableCell.liveOwner, TableCell.new_free created, Option.filter_none]
              rw [bindTable, TableCell.bind_of_free identity free] at failed
              cases failed
          · next middle bound =>
              obtain ⟨bindsOnly, owned⟩ := bindTable_newTable bound
              exact .cons bindsOnly owned (ih middle)

theorem instantiateTables_bound (heap : Heap) :
    TablesBound identity heap (instantiateTables module hosts identity heap) := by
  have importedBound : TablesBound identity heap _ :=
    instantiateImportedTables_bound hosts (importsOf module Import.tableType) heap
  unfold instantiateTables
  split
  · next middle err imported =>
      rw [imported] at importedBound
      exact .error importedBound.1
  · next middle handles imported =>
      rw [imported] at importedBound
      have definedBound : TablesBound identity middle _ :=
        instantiateDefinedTables_bound module.tables middle
      refine ⟨importedBound.1.trans definedBound.1, ?_⟩
      intro all result handle member
      dsimp only at result
      cases defined : (instantiateDefinedTables identity module.tables middle).2 with
      | error err =>
          rw [defined] at result
          cases result
      | ok others =>
          rw [defined] at result
          cases result
          rcases List.mem_append.mp member with member | member
          · exact definedBound.1.stayBound _ (importedBound.2 handles rfl handle member)
          · exact definedBound.2 others defined handle member

theorem instantiateDefinedGlobals_bindsOnly (globals : List Global) (heap : Heap) :
    heap.BindsOnly identity (instantiateDefinedGlobals globals heap).1 := by
  induction globals generalizing heap with
  | nil => exact .refl identity heap
  | cons definition rest ih => exact (Heap.BindsOnly.newGlobal heap _).trans (ih _)

theorem instantiateGlobals_bindsOnly (heap : Heap) :
    heap.BindsOnly identity (instantiateGlobals module hosts heap).1 := by
  unfold instantiateGlobals
  split
  · exact .refl identity heap
  · exact instantiateDefinedGlobals_bindsOnly module.globals heap

end Stages

/-! ## Writes that have been checked -/

/-- A loop of writes succeeds when each of them succeeds under an invariant. -/
theorem writeEach_of_invariant {α : Type} {write : Store σ → α → Run (Store σ)}
    (invariant : Store σ → Prop) {values : List α} {store : Store σ}
    (each : ∀ value ∈ values, ∀ store, invariant store →
      ∃ after, write store value = .ok after ∧ invariant after)
    (holds : invariant store) :
    ∃ after, writeEach write values store = (after, .ok ()) ∧ invariant after := by
  induction values generalizing store with
  | nil => exact ⟨store, rfl, holds⟩
  | cons value rest ih =>
      obtain ⟨middle, written, kept⟩ := each value List.mem_cons_self store holds
      obtain ⟨after, rest, kept⟩ :=
        ih (fun other member => each other (List.mem_cons_of_mem _ member)) kept
      refine ⟨after, ?_, kept⟩
      simp only [writeEach, written]
      exact rest

/-- The size of a memory, if there is one at the index. -/
def Store.memoryLength (store : Store σ) (index : Nat) : Option Nat :=
  store.memories[index]?.map fun memory => (store.linearMemory memory).bytes.length

theorem Store.memoryAt_ok_iff {store : Store σ} {index : Nat} {memory : LinearMemory} :
    store.memoryAt index = .ok memory ↔
      store.memories[index]?.map store.linearMemory = some memory := by
  unfold Store.memoryAt
  cases store.memories[index]? <;> simp

theorem Store.memoryLength_of_memoryAt {store : Store σ} {index : Nat}
    {memory : LinearMemory} (found : store.memoryAt index = .ok memory) :
    store.memoryLength index = some memory.bytes.length := by
  have := congrArg (Option.map fun memory => memory.bytes.length)
    (Store.memoryAt_ok_iff.mp found)
  rw [Option.map_map] at this
  exact this

theorem Store.memoryAt_of_memoryLength {store : Store σ} {index length : Nat}
    (found : store.memoryLength index = some length) :
    ∃ memory, store.memoryAt index = .ok memory ∧ memory.bytes.length = length := by
  obtain ⟨memory, present, lengthEq⟩ := Option.map_eq_some_iff.mp found
  refine ⟨store.linearMemory memory, Store.memoryAt_ok_iff.mpr ?_, lengthEq⟩
  rw [present]
  rfl

/-- Writing back a memory of the same size changes no memory's size, also when
several indices name the same shared memory. -/
theorem Store.memoryLength_setMemoryAt {store : Store σ} {index : Nat}
    {old memory : LinearMemory} (found : store.memoryAt index = .ok old)
    (sameLength : memory.bytes.length = old.bytes.length) (other : Nat) :
    (store.setMemoryAt index memory).memoryLength other = store.memoryLength other := by
  have present := Store.memoryAt_ok_iff.mp found
  obtain ⟨entry, entryFound, rfl⟩ := Option.map_eq_some_iff.mp present
  unfold Store.setMemoryAt
  cases entry with
  | owned current =>
      simp only [entryFound, Store.memoryLength]
      by_cases same : other = index
      · subst same
        rw [List.getElem?_set_self (List.getElem?_eq_some_iff.mp entryFound).1, entryFound]
        exact congrArg some sameLength
      · rw [List.getElem?_set_ne (Ne.symm same)]
        rfl
  | imported handle =>
      simp only [entryFound, Store.memoryLength]
      cases store.memories[other]? with
      | none => rfl
      | some aliased =>
          cases aliased with
          | owned memory => rfl
          | imported otherHandle =>
              simp only [Option.map_some, Option.some.injEq, Store.linearMemory, Heap.memory,
                Heap.setLinearMemory, Arena.get_set]
              split_ifs with same
              · rw [sameLength, same]
                rfl
              · rfl

@[simp] theorem Store.setMemoryAt_tables (store : Store σ) (index : Nat)
    (memory : LinearMemory) :
    (store.setMemoryAt index memory).heap.tables = store.heap.tables := by
  unfold Store.setMemoryAt
  split <;> rfl

@[simp] theorem Store.setMemoryAt_live (store : Store σ) (index : Nat)
    (memory : LinearMemory) :
    (store.setMemoryAt index memory).heap.live = store.heap.live := by
  unfold Store.setMemoryAt
  split <;> rfl

/-- The range of an active data segment lies in its memory. -/
def DataSegmentFits (store : Store σ) (segment : DataSegment) : Prop :=
  match segment.mode with
  | .active memoryIndex offset =>
      ∃ length, store.memoryLength memoryIndex = some length ∧
        offset + segment.bytes.length ≤ length
  | .passive => True

theorem preflightDataSegment_ok {store : Store σ} {index : Nat} {segment : DataSegment}
    (passed : preflightDataSegment store index segment = .ok ()) :
    DataSegmentFits store segment := by
  unfold preflightDataSegment at passed
  unfold DataSegmentFits
  cases mode : segment.mode with
  | passive => trivial
  | active memoryIndex offset =>
      simp only [mode] at passed
      split_ifs at passed
      obtain ⟨memory, found, checked⟩ := bind_ok.mp passed
      refine ⟨memory.bytes.length, Store.memoryLength_of_memoryAt found, ?_⟩
      split_ifs at checked with outside
      exact Nat.le_of_not_lt outside

/-- What the writes of data segments keep. -/
structure DataWritten (start store : Store σ) : Prop where
  memoryLength : ∀ index, store.memoryLength index = start.memoryLength index
  tables : store.heap.tables = start.heap.tables
  live : store.heap.live = start.heap.live

theorem writeDataSegment_of_fits {start store : Store σ} {segment : DataSegment}
    (fits : DataSegmentFits start segment) (written : DataWritten start store) :
    ∃ after, writeDataSegment store segment = .ok after ∧ DataWritten start after := by
  unfold DataSegmentFits at fits
  unfold writeDataSegment
  cases mode : segment.mode with
  | passive => exact ⟨store, rfl, written⟩
  | active memoryIndex offset =>
      simp only [mode] at fits
      obtain ⟨length, lengthFound, inside⟩ := fits
      rw [← written.memoryLength] at lengthFound
      obtain ⟨memory, found, rfl⟩ := Store.memoryAt_of_memoryLength lengthFound
      refine ⟨store.setMemoryAt memoryIndex (memory.writeBytes offset segment.bytes), ?_, ?_⟩
      · simp only [Store.withMemoryIndexMut, found, ok_bind, if_neg (Nat.not_lt.mpr inside)]
        rfl
      · constructor
        · intro index
          rw [Store.memoryLength_setMemoryAt found (memory.writeBytes_length ..)]
          exact written.memoryLength index
        · rw [Store.setMemoryAt_tables]
          exact written.tables
        · rw [Store.setMemoryAt_live]
          exact written.live

section Segments

variable {inst : Instance σ}

theorem initializeDataSegments_of_preflight {store : Store σ}
    (passed : checkEach (preflightDataSegment store) 0 inst.module.data = .ok ()) :
    ∃ after, initializeDataSegments inst store = (after, .ok ()) ∧ DataWritten store after := by
  simp only [initializeDataSegments, passed]
  refine writeEach_of_invariant (DataWritten store) ?_ ⟨fun _ => rfl, rfl, rfl⟩
  intro segment member current written
  obtain ⟨index, found⟩ := List.mem_iff_getElem?.mp member
  have fits := preflightDataSegment_ok (checkEach_ok_iff.mp passed index segment found)
  exact writeDataSegment_of_fits fits written

/-- Data initialization writes nothing or succeeds. -/
theorem initializeDataSegments_cases (inst : Instance σ) (store : Store σ) :
    (∃ err, initializeDataSegments inst store = (store, .error err)) ∨
      ∃ after, initializeDataSegments inst store = (after, .ok ()) ∧
        DataWritten store after := by
  cases passed : checkEach (preflightDataSegment store) 0 inst.module.data with
  | error err => exact .inl ⟨err, by simp only [initializeDataSegments, passed]⟩
  | ok _ => exact .inr (initializeDataSegments_of_preflight passed)

/-- The tables of an instance are bound to it, and it is live. -/
structure OwnsTables (inst : Instance σ) (heap : Heap) : Prop where
  owner : ∀ handle ∈ inst.tables, (heap.table handle).owner = some inst.identity
  live : inst.identity ∈ heap.live

theorem preflightElementSegments_congr {first second : Heap}
    (tables : first.tables = second.tables) :
    preflightElementSegments inst first = preflightElementSegments inst second := by
  have same : preflightElementSegment inst first = preflightElementSegment inst second := by
    unfold preflightElementSegment Heap.table
    rw [tables]
  rw [preflightElementSegments, preflightElementSegments, same]

/-- The range of an active element segment lies in its table. -/
def ElementSegmentFits (inst : Instance σ) (heap : Heap) (segment : ElementSegment) : Prop :=
  match segment.mode with
  | .active tableIndex offset =>
      ∃ handle, inst.tableHandle tableIndex = .ok handle ∧
        offset.toNat + segment.functionIndices.length ≤ (heap.table handle).slots.length
  | _ => True

theorem preflightElementSegment_ok {heap : Heap} {index : Nat} {segment : ElementSegment}
    (passed : preflightElementSegment inst heap index segment = .ok ()) :
    ElementSegmentFits inst heap segment := by
  unfold preflightElementSegment at passed
  unfold ElementSegmentFits
  cases mode : segment.mode with
  | passive => trivial
  | declarative => trivial
  | active tableIndex offset =>
      simp only [mode] at passed
      obtain ⟨handle, found, checked⟩ := bind_ok.mp passed
      refine ⟨handle, found, ?_⟩
      split_ifs at checked with outside
      exact Nat.le_of_not_lt outside

/-- What the writes of element segments keep. -/
structure ElementsWritten (inst : Instance σ) (start : Heap) (store : Store σ) : Prop where
  length : ∀ handle,
    (store.heap.table handle).slots.length = (start.table handle).slots.length
  owns : OwnsTables inst store.heap

theorem mem_slotEntries {start : Nat} {functions : List Nat} {entry : Nat × Nat}
    (member : entry ∈ slotEntries start functions) :
    start ≤ entry.1 ∧ entry.1 < start + functions.length := by
  induction functions generalizing start with
  | nil => cases member
  | cons function rest ih =>
      rcases List.mem_cons.mp member with rfl | member
      · simp
      · have := ih member
        simp only [List.length_cons]
        omega

/-- A table of the same length and owner in the place of an old one. -/
theorem ElementsWritten.setTable {start : Heap} {store : Store σ} {handle : TableHandle}
    {cell : TableCell} (written : ElementsWritten inst start store)
    (length : cell.slots.length = (store.heap.table handle).slots.length)
    (owner : cell.owner = (store.heap.table handle).owner) :
    ElementsWritten inst start
      { store with heap := store.heap.setTable handle cell } := by
  have table (other : TableHandle) :
      (store.heap.setTable handle cell).table other =
        if other.address = handle.address then cell else store.heap.table other :=
    store.heap.tables.get_set ..
  constructor
  · intro other
    rw [table, ← written.length other]
    split_ifs with same
    · rw [length, Heap.table, Heap.table, same]
    · rfl
  · refine ⟨fun other member => ?_, written.owns.live⟩
    rw [table, ← written.owns.owner other member]
    split_ifs with same
    · rw [owner, Heap.table, Heap.table, same]
    · rfl

theorem TableCell.set_of_lt {cell : TableCell} {index : Nat}
    (function : Option FunctionRef) (inside : index < cell.slots.length) :
    ∃ next, cell.set index function = .ok next ∧
      next.slots.length = cell.slots.length ∧ next.owner = cell.owner := by
  refine ⟨_, if_pos inside, ?_, rfl⟩
  exact List.length_set

theorem writeElementSlot_of_fits {start : Heap} {store : Store σ} {handle : TableHandle}
    {entry : Nat × Nat} (known : handle ∈ inst.tables)
    (inside : entry.1 < (start.table handle).slots.length)
    (written : ElementsWritten inst start store) :
    ∃ after, writeElementSlot inst handle store entry = .ok after ∧
      ElementsWritten inst start after := by
  obtain ⟨index, functionIndex⟩ := entry
  rw [← written.length handle] at inside
  have representable : ¬ 2 ^ 32 ≤ index :=
    Nat.not_le.mpr (Nat.lt_trans inside (store.heap.table handle).bounded)
  have bound := TableCell.bind_of_owned (written.owns.owner handle known) written.owns.live
  unfold writeElementSlot
  simp only [if_neg representable]
  split_ifs
  · obtain ⟨cell, stored, length, owner⟩ := TableCell.set_of_lt none inside
    rw [stored]
    exact ⟨_, rfl, written.setTable length owner⟩
  · obtain ⟨cell, stored, length, owner⟩ :=
      TableCell.set_of_lt (some ⟨inst.identity, functionIndex⟩) inside
    rw [TableCell.setForInstance, bound, ok_bind, stored]
    exact ⟨_, rfl, written.setTable length owner⟩

theorem writeElementSegment_of_fits {start : Heap} {store : Store σ}
    {segment : ElementSegment} (fits : ElementSegmentFits inst start segment)
    (written : ElementsWritten inst start store) :
    ∃ after, writeElementSegment inst store segment = (after, .ok ()) ∧
      ElementsWritten inst start after := by
  unfold ElementSegmentFits at fits
  unfold writeElementSegment
  cases mode : segment.mode with
  | passive => exact ⟨store, rfl, written⟩
  | declarative => exact ⟨store, rfl, written⟩
  | active tableIndex offset =>
      simp only [mode] at fits
      obtain ⟨handle, found, inside⟩ := fits
      have known : handle ∈ inst.tables := by
        unfold Instance.tableHandle at found
        split at found
        · next present =>
            cases found
            exact List.mem_of_getElem? present
        · cases found
      simp only [found]
      refine writeEach_of_invariant (ElementsWritten inst start) ?_ written
      intro entry member current written
      have range := mem_slotEntries member
      exact writeElementSlot_of_fits known (by omega) written

theorem writeElementSegments_of_fits {start : Heap} {store : Store σ}
    {segments : List ElementSegment}
    (fits : ∀ segment ∈ segments, ElementSegmentFits inst start segment)
    (written : ElementsWritten inst start store) :
    ∃ after, writeElementSegments inst segments store = (after, .ok ()) := by
  induction segments generalizing store with
  | nil => exact ⟨store, rfl⟩
  | cons segment rest ih =>
      obtain ⟨middle, first, written⟩ :=
        writeElementSegment_of_fits (fits segment List.mem_cons_self) written
      simp only [writeElementSegments, first]
      exact ih (fun other member => fits other (List.mem_cons_of_mem _ member)) written

theorem initializeElementSegments_of_preflight {store : Store σ}
    (owns : OwnsTables inst store.heap)
    (passed : preflightElementSegments inst store.heap = .ok ()) :
    ∃ after, initializeElementSegments inst store = (after, .ok ()) := by
  simp only [initializeElementSegments, passed]
  refine writeElementSegments_of_fits ?_ ⟨fun _ => rfl, owns⟩
  intro segment member
  obtain ⟨index, found⟩ := List.mem_iff_getElem?.mp member
  exact preflightElementSegment_ok (checkEach_ok_iff.mp passed index segment found)

/-- Once the first segment is written, no later one fails. -/
theorem initializeSegments_error {store after : Store σ} {err : RuntimeError}
    (owns : OwnsTables inst store.heap)
    (failed : initializeSegments inst store = (after, .error err)) : after = store := by
  unfold initializeSegments at failed
  cases passed : preflightElementSegments inst store.heap with
  | error _ =>
      simp only [passed, Prod.mk.injEq] at failed
      exact failed.1.symm
  | ok _ =>
      simp only [passed] at failed
      rcases initializeDataSegments_cases inst store with
        ⟨_, data⟩ | ⟨middle, data, written⟩
      · simp only [data, Prod.mk.injEq] at failed
        exact failed.1.symm
      · simp only [data] at failed
        have ownsMiddle : OwnsTables inst middle.heap := by
          refine ⟨fun handle member => ?_, written.live ▸ owns.live⟩
          rw [Heap.table, written.tables]
          exact owns.owner handle member
        obtain ⟨finished, elements⟩ :=
          initializeElementSegments_of_preflight ownsMiddle
            ((preflightElementSegments_congr written.tables).trans passed)
        rw [elements] at failed
        cases failed

end Segments

/-! ## The whole instantiation -/

/-- What existed in `before`, and which instances are live and own which tables,
is the same in `after`. -/
structure Heap.Unharmed (before after : Heap) : Prop where
  live : after.live = before.live
  memories : ∀ address, address < before.memories.size →
    after.memories.get address = before.memories.get address
  globals : ∀ address, address < before.globals.size →
    after.globals.get address = before.globals.get address
  slots : ∀ address, address < before.tables.size →
    (after.tables.get address).slots = (before.tables.get address).slots
  maximum : ∀ address, address < before.tables.size →
    (after.tables.get address).maximum = (before.tables.get address).maximum
  liveOwner : ∀ address, address < before.tables.size →
    (after.tables.get address).liveOwner after.live =
      (before.tables.get address).liveOwner before.live

theorem Heap.Unharmed.withGranted (heap : Heap) (granted : Nat → Bool) :
    heap.Unharmed { heap with granted } :=
  ⟨rfl, fun _ _ => rfl, fun _ _ => rfl, fun _ _ => rfl, fun _ _ => rfl, fun _ _ => rfl⟩

theorem Heap.Unharmed.of_granted {heap after : Heap} {granted : Nat → Bool}
    (unharmed : Heap.Unharmed { heap with granted } after) : heap.Unharmed after :=
  ⟨unharmed.live, unharmed.memories, unharmed.globals, unharmed.slots, unharmed.maximum,
    unharmed.liveOwner⟩

theorem Heap.nextIdentity_not_live (heap : Heap) : heap.nextIdentity ∉ heap.live :=
  fun member => Nat.lt_irrefl _ (heap.fresh _ member)

theorem TableCell.liveOwner_cons_eq_none {cell : TableCell} {live : List Identity}
    {identity : Identity} (free : cell.liveOwner (identity :: live) = none) :
    cell.liveOwner live = none := by
  rw [liveOwner, Option.filter_eq_none_iff] at free ⊢
  intro owner owned member
  exact free owner owned (by simpa using Or.inr (by simpa using member))

/-- Dropping a new identity releases the tables that were bound to it. -/
theorem Heap.BindsOnly.unharmed {heap middle : Heap}
    (bindsOnly : heap.newIdentity.2.BindsOnly heap.nextIdentity middle) :
    heap.Unharmed (middle.dropIdentity heap.nextIdentity) := by
  have live : (middle.dropIdentity heap.nextIdentity).live = heap.live := by
    simp only [dropIdentity, bindsOnly.live, newIdentity, ne_eq, decide_not,
      List.filter_cons, decide_true, Bool.not_true, Bool.false_eq_true, ↓reduceIte]
    rw [List.filter_eq_self]
    intro identity member
    have : identity ≠ heap.nextIdentity := fun same =>
      heap.nextIdentity_not_live (same ▸ member)
    simpa using this
  refine ⟨live, bindsOnly.memories, bindsOnly.globals, bindsOnly.slots, bindsOnly.maximum, ?_⟩
  intro address existed
  rw [live]
  rcases bindsOnly.owner address existed with same | ⟨bound, free⟩
  · exact congrArg (Option.filter _) same
  · have released : (middle.tables.get address).liveOwner heap.live = none := by
      rw [TableCell.liveOwner, bound, Option.filter_eq_none_iff]
      intro owner same
      cases same
      simpa using heap.nextIdentity_not_live
    exact released.trans (TableCell.liveOwner_cons_eq_none free).symm

section Instantiate

variable {module : Module} {hosts : HostRegistry σ} {limits : RuntimeLimits}
variable {heap after : Heap} {host : σ} {err : RuntimeError}

theorem instantiateMemories_error {hosts : HostRegistry σ}
    (failed : instantiateMemories module hosts limits heap = (after, .error err)) :
    heap.Unharmed after := by
  obtain ⟨granted, same⟩ := instantiateMemories_heap heap
  rw [failed] at same
  cases same
  exact .withGranted heap granted

/-- The stages behind the creation of an identity. -/
theorem instantiate_failed
    (failed : instantiate module hosts limits heap host = .failed after err) :
    heap.Unharmed after := by
  have untouched : heap.Unharmed heap := .withGranted heap heap.granted
  unfold instantiate at failed
  split at failed
  · cases failed
    exact untouched
  split at failed
  · cases failed
    exact untouched
  split at failed
  · cases failed
    exact untouched
  split at failed
  · next memoriesFailed =>
      cases failed
      exact instantiateMemories_error memoriesFailed
  next middle memories instantiated =>
  suffices middle.Unharmed after by
    obtain ⟨granted, same⟩ : ∃ granted, _ = { heap with granted } :=
      instantiated ▸ instantiateMemories_heap heap
    cases same
    exact .of_granted this
  have tablesBound : TablesBound _ _
      (instantiateTables module hosts middle.nextIdentity middle.newIdentity.2) :=
    instantiateTables_bound _
  -- From here on every failure drops the new identity.
  simp only [Heap.newIdentity] at failed tablesBound
  split at failed
  · next tablesFailed =>
      rw [tablesFailed] at tablesBound
      cases failed
      exact tablesBound.1.unharmed
  next bound tables tablesReady =>
  rw [tablesReady] at tablesBound
  have globalsBound : bound.BindsOnly middle.nextIdentity
      (instantiateGlobals module hosts bound).1 :=
    instantiateGlobals_bindsOnly bound
  split at failed
  · next globalsFailed =>
      rw [globalsFailed] at globalsBound
      cases failed
      exact (tablesBound.1.trans globalsBound).unharmed
  next assembled globals globalsReady =>
  rw [globalsReady] at globalsBound
  have bindsOnly := tablesBound.1.trans globalsBound
  split at failed
  · next store _ segmentsFailed =>
      have written := initializeSegments_error ?_ segmentsFailed
      · cases failed
        rw [written]
        exact bindsOnly.unharmed
      · refine ⟨fun handle member => ?_, ?_⟩
        · exact globalsBound.stayBound _ (tablesBound.2 tables rfl handle member)
        · rw [bindsOnly.live]
          exact List.mem_cons_self
  · cases failed

/-- A table without a live owner can be bound by the next instance. -/
theorem bindTable_of_free {handle : TableHandle}
    (free : (heap.table handle).liveOwner heap.live = none)
    (mapError : TableHandleError → RuntimeError) :
    ∃ bound, bindTable heap.newIdentity.2 handle heap.newIdentity.1 mapError = .ok bound := by
  unfold bindTable TableCell.bind
  cases owned : (heap.table handle).liveOwner (heap.nextIdentity :: heap.live) with
  | none =>
      have same : (heap.newIdentity.2.table handle).liveOwner heap.newIdentity.2.live = none :=
        owned
      simp only [same]
      exact ⟨_, rfl⟩
  | some owner =>
      obtain ⟨ownedBy, member⟩ := Option.filter_eq_some_iff.mp owned
      rcases List.mem_cons.mp (of_decide_eq_true member) with isNew | older
      · have same : (heap.newIdentity.2.table handle).liveOwner heap.newIdentity.2.live =
            some heap.newIdentity.1 :=
          owned.trans (congrArg some isNew)
        simp only [same, ↓reduceIte]
        exact ⟨_, rfl⟩
      · rw [TableCell.liveOwner, Option.filter_eq_none_iff] at free
        exact absurd (decide_eq_true older) (free owner ownedBy)

/-- A failed instantiation leaves every memory, table and global that the host
shares as it was, and an imported table without a live owner can be bound by a
later instantiation. -/
theorem instantiate_atomic
    (failed : instantiate module hosts limits heap host = .failed after err) :
    (∀ handle : MemoryHandle, handle.address < heap.memories.size →
      after.memory handle = heap.memory handle) ∧
    (∀ handle : TableHandle, handle.address < heap.tables.size →
      (after.table handle).slots = (heap.table handle).slots ∧
        (after.table handle).maximum = (heap.table handle).maximum) ∧
    (∀ handle : GlobalHandle, handle.address < heap.globals.size →
      after.global handle = heap.global handle) ∧
    (∀ handle : TableHandle, handle.address < heap.tables.size →
      (heap.table handle).liveOwner heap.live = none →
      ∀ mapError, ∃ bound,
        bindTable after.newIdentity.2 handle after.newIdentity.1 mapError = .ok bound) := by
  have unharmed := instantiate_failed failed
  refine ⟨fun handle shared => unharmed.memories handle.address shared,
    fun handle shared => ⟨unharmed.slots handle.address shared,
      unharmed.maximum handle.address shared⟩,
    fun handle shared => unharmed.globals handle.address shared, ?_⟩
  intro handle shared free mapError
  have freeAfter : (after.table handle).liveOwner after.live = none :=
    (unharmed.liveOwner handle.address shared).trans free
  exact bindTable_of_free freeAfter mapError

end Instantiate

/-! An imported table is bound before the only data segment turns out to leave
the imported memory. -/

def segmentOutsideMemory : Module where
  imports :=
    [{ module := "host", name := "table", desc := .table ⟨⟨0, none⟩⟩ },
      { module := "host", name := "memory", desc := .memory ⟨⟨0, none, false⟩⟩ }]
  data := [{ mode := .active 0 0, bytes := [1] }]

def sharedTableAndMemory : Heap :=
  let table : TableCell := { slots := [none], maximum := none, owner := none, bounded := by decide }
  let memory : MemoryCell :=
    { memory := { bytes := [], maxPages := 1 }, minimum := 0, maximum := some 1
      memory64 := false }
  ((Heap.empty fun _ => true).newTable table).2.newMemory memory |>.2

def sharedRegistry : HostRegistry Unit where
  functions := []
  globals := []
  tables := [(("host", "table"), ⟨0⟩)]
  memories := [(("host", "memory"), ⟨0⟩)]

theorem instantiate_atomic_segmentOutsideMemory :
    ∃ after, instantiate segmentOutsideMemory sharedRegistry ⟨26, 1, none, none⟩
        sharedTableAndMemory () = .failed after (.dataSegmentOutOfBounds 0 0 1) ∧
      (after.table ⟨0⟩).owner = some 0 ∧
      (after.table ⟨0⟩).slots = [none] ∧
      ∃ bound, bindTable after.newIdentity.2 ⟨0⟩ after.newIdentity.1
        (fun _ => .controlInvariant "") = .ok bound := by
  have failed : instantiate segmentOutsideMemory sharedRegistry ⟨26, 1, none, none⟩
      sharedTableAndMemory () = .failed _ (.dataSegmentOutOfBounds 0 0 1) := rfl
  have atomic := instantiate_atomic failed
  refine ⟨_, failed, rfl, (atomic.2.1 ⟨0⟩ (by decide)).1, ?_⟩
  exact atomic.2.2.2 ⟨0⟩ (by decide) rfl _

end MiniWasm.Runtime
