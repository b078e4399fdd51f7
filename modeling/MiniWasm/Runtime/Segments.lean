import MiniWasm.Library.Overwrite
import MiniWasm.Runtime.Writing

/-!
# What the segments of an instance write

Instantiation applies the active segments in the order of the module.  A memory, or a table,
that several indices name receives the writes for all of them.
-/

namespace MiniWasm.Runtime

open Library

variable {σ : Type}

/-! ## Data segments -/

namespace Store

instance (store : Store σ) (first second : Nat) : Decidable (store.SameMemory first second) :=
  match equation : store.memories[first]? with
  | some (.imported handle) =>
      decidable_of_iff (first = second ∨ store.memories[second]? = some (.imported handle)) <| by
        unfold SameMemory
        rw [equation]
        simp
  | some (.owned memory) =>
      decidable_of_iff (first = second) <| by
        unfold SameMemory
        rw [equation]
        simp
  | none =>
      decidable_of_iff (first = second) <| by
        unfold SameMemory
        rw [equation]
        simp

/-- What an active segment writes to a memory: its bytes, if it is for the memory. -/
def dataWrite (store : Store σ) (index : Nat) (segment : DataSegment) :
    Option (Nat × List UInt8) :=
  match segment.mode with
  | .active memory offset =>
      if store.SameMemory memory index then some (offset, segment.bytes) else none
  | .passive => none

variable {store after : Store σ}

/-- Writing a memory leaves which indices name which shared memory. -/
theorem setMemoryAt_imported (store : Store σ) (index other : Nat) (memory : LinearMemory)
    (handle : MemoryHandle) :
    (store.setMemoryAt index memory).memories[other]? = some (.imported handle) ↔
      store.memories[other]? = some (.imported handle) := by
  unfold setMemoryAt
  split
  · next owned found =>
    by_cases same : index = other
    · subst same
      have inside := (List.getElem?_eq_some_iff.mp found).1
      rw [List.getElem?_set_self inside, found]
      simp
    · rw [List.getElem?_set_ne same]
  · exact Iff.rfl
  · exact Iff.rfl

theorem setMemoryAt_sameMemory (store : Store σ) (index : Nat) (memory : LinearMemory)
    (first second : Nat) :
    (store.setMemoryAt index memory).SameMemory first second ↔ store.SameMemory first second := by
  simp only [SameMemory, setMemoryAt_imported]

theorem dataWrite_congr (same : ∀ first second,
      after.SameMemory first second ↔ store.SameMemory first second) :
    after.dataWrite = store.dataWrite := by
  funext index segment
  unfold dataWrite
  split
  · simp only [same]
  · rfl

theorem SameMemory.memoryAt {first second : Nat} (same : store.SameMemory first second) :
    store.memoryAt first = store.memoryAt second := by
  obtain rfl | ⟨handle, one, other⟩ := same
  · rfl
  · rw [Store.memoryAt, Store.memoryAt, one, other]

end Store

section Data

variable {store after : Store σ}

theorem writeDataSegment_active {segment : DataSegment} {target offset : Nat}
    (mode : segment.mode = .active target offset)
    (written : writeDataSegment store segment = .ok after) :
    ∃ memory, store.memoryAt target = .ok memory ∧
      offset + segment.bytes.length ≤ memory.bytes.length ∧
      after = store.setMemoryAt target (memory.writeBytes offset segment.bytes) := by
  unfold writeDataSegment at written
  rw [mode] at written
  obtain ⟨memory, found, written⟩ := bind_ok.mp written
  obtain ⟨result, updated, returned⟩ := bind_ok.mp written
  dsimp only at updated
  split_ifs at updated with outside
  cases updated
  cases returned
  exact ⟨memory, found, Nat.le_of_not_lt outside, rfl⟩

/-- Behind the writes of data segments a memory holds what it held, overlaid with those that
are for it. -/
theorem writeData_overlaid {segments : List DataSegment}
    (written : writeEach writeDataSegment segments store = (after, .ok ())) :
    (∀ first second, after.SameMemory first second ↔ store.SameMemory first second) ∧
      ∀ index memory, store.memoryAt index = .ok memory →
        ∃ result, after.memoryAt index = .ok result ∧
          Overlaid memory.bytes (segments.filterMap (store.dataWrite index)) result.bytes := by
  induction segments generalizing store with
  | nil =>
    cases written
    exact ⟨fun _ _ => Iff.rfl, fun index memory found => ⟨memory, found, .nil memory.bytes⟩⟩
  | cons segment rest ih =>
    simp only [writeEach] at written
    split at written
    · cases written
    next next first =>
    obtain ⟨sameAfter, overlaid⟩ := ih written
    cases mode : segment.mode with
    | passive =>
      have same : next = store := by
        unfold writeDataSegment at first
        rw [mode] at first
        cases first
        rfl
      subst same
      refine ⟨sameAfter, fun index memory found => ?_⟩
      rw [List.filterMap_cons, Store.dataWrite, mode]
      exact overlaid index memory found
    | active target offset =>
      obtain ⟨before, present, inside, rfl⟩ := writeDataSegment_active mode first
      have same := store.setMemoryAt_sameMemory target (before.writeBytes offset segment.bytes)
      refine ⟨fun one other => (sameAfter one other).trans (same one other),
        fun index memory found => ?_⟩
      have memories := Store.memoryWritten_setMemoryAt present
        (before.writeBytes offset segment.bytes)
      rw [List.filterMap_cons, Store.dataWrite, mode]
      rw [Store.dataWrite_congr same] at overlaid
      dsimp only
      split_ifs with here
      · -- The segment goes to this memory.
        obtain rfl : before = memory := by
          rw [here.memoryAt, found] at present
          exact (Except.ok.inj present).symm
        obtain ⟨result, kept, others⟩ := overlaid index _ (memories.same index here)
        exact ⟨result, kept, .cons inside others⟩
      · exact overlaid index memory ((memories.others index here).trans found)

end Data

/-! ## Element segments -/

/-- The content of a slot that a number of an element segment stands for. -/
def Instance.elementSlot (inst : Instance σ) (functionIndex : Nat) : Option FunctionRef :=
  if functionIndex = nullFuncrefIndex then none else some (inst.functionRef functionIndex)

/-- What an active segment writes to a table: its items, if it is for the table. -/
def Instance.elementWrite (inst : Instance σ) (handle : TableHandle) (segment : ElementSegment) :
    Option (Nat × List (Option FunctionRef)) :=
  match segment.mode with
  | .active table offset =>
      if inst.tables[table]? = some handle then
        some (offset.toNat, segment.functionIndices.map inst.elementSlot)
      else
        none
  | _ => none

section Elements

variable {inst : Instance σ} {store after : Store σ} {handle : TableHandle}

theorem Heap.table_setTable (heap : Heap) (handle : TableHandle) (cell : TableCell) :
    (heap.setTable handle cell).table handle = cell :=
  heap.tables.get_set_self handle.address cell

theorem TableCell.set_slots {cell next : TableCell} {index : Nat} {function : Option FunctionRef}
    (stored : cell.set index function = .ok next) :
    index < cell.slots.length ∧ next.slots = cell.slots.set index function ∧
      next.maximum = cell.maximum := by
  unfold TableCell.set at stored
  split_ifs at stored with inside
  cases stored
  exact ⟨inside, rfl, rfl⟩

/-- The write of a slot changes the one table, and there the one slot. -/
theorem writeElementSlot_cell {index functionIndex : Nat}
    (written : writeElementSlot inst handle store (index, functionIndex) = .ok after) :
    ∃ cell, after = { store with heap := store.heap.setTable handle cell } ∧
      index < (store.heap.table handle).slots.length ∧
      cell.slots = (store.heap.table handle).slots.set index (inst.elementSlot functionIndex) ∧
      cell.maximum = (store.heap.table handle).maximum := by
  unfold writeElementSlot at written
  dsimp only at written
  split_ifs at written with large null
  · obtain ⟨cell, stored, returned⟩ := bind_ok.mp written
    obtain ⟨inside, slots, maximum⟩ := TableCell.set_slots (tableResult_ok stored)
    cases returned
    rw [Instance.elementSlot, if_pos null]
    exact ⟨cell, rfl, inside, slots, maximum⟩
  · obtain ⟨cell, stored, returned⟩ := bind_ok.mp written
    obtain ⟨bound, binds, stored⟩ := bind_ok.mp (tableResult_ok stored)
    obtain ⟨sameSlots, sameMaximum, -⟩ := TableCell.bind_ok binds
    obtain ⟨inside, slots, maximum⟩ := TableCell.set_slots stored
    cases returned
    rw [sameSlots] at inside slots
    rw [Instance.elementSlot, if_neg null]
    exact ⟨cell, rfl, inside, slots, maximum.trans sameMaximum⟩

theorem Heap.table_setTable_of_ne (heap : Heap) {handle other : TableHandle} (cell : TableCell)
    (different : other ≠ handle) : (heap.setTable handle cell).table other = heap.table other := by
  refine Arena.get_set_of_ne _ _ fun same => different ?_
  cases other
  cases handle
  exact congrArg TableHandle.mk same

/-- The writes of a segment overwrite a range of the one table. -/
theorem writeSlots_slots {functions : List Nat} {start : Nat}
    (written : writeEach (writeElementSlot inst handle) (slotEntries start functions) store =
      (after, .ok ())) :
    (after.heap.table handle).slots =
        overwrite (store.heap.table handle).slots start (functions.map inst.elementSlot) ∧
      (∀ index < functions.length, start + index < (store.heap.table handle).slots.length) ∧
      ∀ other, other ≠ handle → after.heap.table other = store.heap.table other := by
  induction functions generalizing start store with
  | nil =>
    cases written
    exact ⟨(overwrite_nil ..).symm, fun _ inside => absurd inside (Nat.not_lt_zero _),
      fun _ _ => rfl⟩
  | cons first rest ih =>
    simp only [slotEntries, writeEach] at written
    split at written
    · cases written
    · rename_i next slot
      obtain ⟨cell, rfl, inside, stored, -⟩ := writeElementSlot_cell slot
      obtain ⟨slots, within, others⟩ := ih written
      rw [Heap.table_setTable, stored, List.length_set] at within
      refine ⟨?_, ?_, ?_⟩
      · rw [slots, Heap.table_setTable, stored, overwrite_set inside, List.map_cons]
      · intro index listed
        cases index with
        | zero => exact inside
        | succ index =>
          have := within index (Nat.lt_of_succ_lt_succ listed)
          omega
      · intro other different
        rw [others other different]
        exact store.heap.table_setTable_of_ne cell different

theorem Instance.tableHandle_ok {table : Nat} :
    inst.tableHandle table = .ok handle ↔ inst.tables[table]? = some handle := by
  unfold Instance.tableHandle
  cases inst.tables[table]? <;> simp

/-- Behind the application of an active segment each of its slots holds what its number
stands for. -/
theorem writeElementSegment_slots {segment : ElementSegment} {table : Nat} {offset : BitVec 32}
    (mode : segment.mode = .active table offset) (found : inst.tableHandle table = .ok handle)
    (written : writeElementSegment inst store segment = (after, .ok ())) :
    (after.heap.table handle).slots = overwrite (store.heap.table handle).slots offset.toNat
        (segment.functionIndices.map inst.elementSlot) ∧
      (∀ index < segment.functionIndices.length,
        offset.toNat + index < (store.heap.table handle).slots.length) ∧
      ∀ other, other ≠ handle → after.heap.table other = store.heap.table other := by
  unfold writeElementSegment at written
  rw [mode] at written
  dsimp only at written
  rw [found] at written
  exact writeSlots_slots written

theorem ElementSegmentFits.of_length {before after : Heap} {segment : ElementSegment}
    (length : ∀ handle, (after.table handle).slots.length = (before.table handle).slots.length)
    (fits : ElementSegmentFits inst before segment) : ElementSegmentFits inst after segment := by
  unfold ElementSegmentFits at fits ⊢
  split at fits
  · obtain ⟨handle, found, inside⟩ := fits
    exact ⟨handle, found, (length handle).symm ▸ inside⟩
  · trivial

/-- Behind the writes of element segments a table holds what it held, overlaid with those that
are for it. -/
theorem writeElements_overlaid {segments : List ElementSegment}
    (fits : ∀ segment ∈ segments, ElementSegmentFits inst store.heap segment)
    (written : writeElementSegments inst segments store = (after, .ok ()))
    (handle : TableHandle) :
    Overlaid (store.heap.table handle).slots (segments.filterMap (inst.elementWrite handle))
      (after.heap.table handle).slots := by
  induction segments generalizing store with
  | nil =>
    cases written
    exact .nil _
  | cons segment rest ih =>
    obtain ⟨here, others⟩ := List.forall_mem_cons.mp fits
    unfold writeElementSegments at written
    split at written
    · cases written
    next next _ first =>
    cases mode : segment.mode with
    | active table offset =>
      rw [ElementSegmentFits, mode] at here
      obtain ⟨target, found, inside⟩ := here
      obtain ⟨slots, -, untouched⟩ := writeElementSegment_slots mode found first
      have length (other : TableHandle) :
          (next.heap.table other).slots.length = (store.heap.table other).slots.length := by
        by_cases same : other = target
        · rw [same, slots, overwrite_length]
        · rw [untouched other same]
      have later := ih (fun other member => (others other member).of_length length) written
      rw [List.filterMap_cons, Instance.elementWrite, mode]
      dsimp only
      rw [Instance.tableHandle_ok] at found
      rw [found]
      split_ifs with same
      · -- The segment goes to this table.
        obtain rfl := Option.some.inj same
        rw [slots] at later
        exact .cons (by rwa [List.length_map]) later
      · rw [untouched handle fun equal => same (congrArg some equal.symm)] at later
        exact later
    | passive | declarative =>
      rw [writeElementSegment, mode] at first
      cases first
      rw [List.filterMap_cons, Instance.elementWrite, mode]
      exact ih others written

end Elements

/-! ## All segments -/

/-- What the memories and tables of an instance hold behind its segments. -/
structure SegmentsApplied (inst : Instance σ) (before after : Store σ) : Prop where
  sameMemory : ∀ first second, after.SameMemory first second ↔ before.SameMemory first second
  memories : ∀ index memory, before.memoryAt index = .ok memory →
    ∃ result, after.memoryAt index = .ok result ∧
      Overlaid memory.bytes (inst.module.data.filterMap (before.dataWrite index)) result.bytes
  tables : ∀ handle, Overlaid (before.heap.table handle).slots
    (inst.module.elements.filterMap (inst.elementWrite handle)) (after.heap.table handle).slots

theorem writeElementSegments_sameMemories (inst : Instance σ) (segments : List ElementSegment)
    (store : Store σ) :
    (writeElementSegments inst segments store).1.memories = store.memories ∧
      (writeElementSegments inst segments store).1.heap.memories = store.heap.memories := by
  refine @writeElementSegments_lift σ (fun before after =>
    after.memories = before.memories ∧ after.heap.memories = before.heap.memories)
    (fun _ => ⟨rfl, rfl⟩) (fun before after => ⟨after.1.trans before.1, after.2.trans before.2⟩)
    inst ?_ segments store
  rintro handle ⟨index, functionIndex⟩ store after written
  obtain ⟨cell, rfl, -⟩ := writeElementSlot_cell written
  exact ⟨rfl, rfl⟩

theorem initializeSegments_applied {inst : Instance σ} {store after : Store σ}
    (initialized : initializeSegments inst store = (after, .ok ())) :
    SegmentsApplied inst store after := by
  unfold initializeSegments at initialized
  split at initialized
  · cases initialized
  split at initialized
  · cases initialized
  next preflighted _ middle _ data =>
  have dataTables : middle.heap.tables = store.heap.tables := by
    obtain ⟨err, failed⟩ | ⟨_, succeeded, written⟩ := initializeDataSegments_cases inst store
    · rw [failed] at data
      cases data
    · rw [succeeded] at data
      cases data
      exact written.tables
  unfold initializeDataSegments at data
  split at data
  · cases data
  obtain ⟨sameMemory, memories⟩ := writeData_overlaid data
  unfold initializeElementSegments at initialized
  split at initialized
  · cases initialized
  next checked =>
  have elements := writeElementSegments_sameMemories inst inst.module.elements middle
  rw [initialized] at elements
  obtain ⟨sameEntries, sameCells⟩ := elements
  have sameContents (index : Nat) : after.memoryAt index = middle.memoryAt index := by
    unfold Store.memoryAt Store.linearMemory Heap.memory
    rw [sameEntries, sameCells]
  refine ⟨fun first second => ?_, fun index memory found => ?_, fun handle => ?_⟩
  · rw [← sameMemory]
    unfold Store.SameMemory
    rw [sameEntries]
  · rw [sameContents]
    exact memories index memory found
  · have fits : ∀ segment ∈ inst.module.elements, ElementSegmentFits inst middle.heap segment := by
      intro segment member
      obtain ⟨position, at_⟩ := List.getElem?_of_mem member
      exact preflightElementSegment_ok (checkEach_ok_iff.mp checked position segment at_)
    have overlaid := writeElements_overlaid fits initialized handle
    rw [Heap.table, dataTables] at overlaid
    exact overlaid

theorem instantiate_applied {module : Module} {hosts : HostRegistry σ} {limits : RuntimeLimits}
    {heap : Heap} {host : σ} {inst : Instance σ} {store : Store σ}
    (ready : instantiate module hosts limits heap host = .ready inst store) :
    ∃ before, SegmentsApplied inst before store ∧ inst.module = module := by
  obtain ⟨_, _, _, _, _, _, rfl, initialized⟩ := instantiate_ready ready
  exact ⟨_, initializeSegments_applied initialized, rfl⟩

end MiniWasm.Runtime
