import MiniWasm.Runtime.AccessLaw
import MiniWasm.Runtime.Bulk

/-!
# The law of bulk operations

As steps of a running machine the bulk operations trap exactly if a range leaves
its source or its target, and otherwise copy the source as it was before.  A
dropped segment is an empty source from then on.
-/

namespace MiniWasm.Runtime

open Library

variable {σ : Type}

/-! ## Writing a table -/

/-- The store behind the write of a table: the slots of one table, which every index
with its handle sees, and nothing else. -/
structure Store.TableWritten (before after : Store σ) (handle : TableHandle)
    (written : TableCell) : Prop where
  table : after.heap.table handle = written
  others : ∀ other, other ≠ handle → after.heap.table other = before.heap.table other
  rest : ∃ tables, after = { before with heap := { before.heap with tables } }

theorem tableWritten_setTable (store : Store σ) (handle : TableHandle) (written : TableCell) :
    store.TableWritten { store with heap := store.heap.setTable handle written } handle
      written where
  table := Arena.get_set_self ..
  others other different := by
    refine Arena.get_set_of_ne _ _ fun same => different ?_
    cases other
    cases handle
    exact congrArg TableHandle.mk same
  rest := ⟨_, rfl⟩

/-! ## The operations -/

section Laws

variable (inst : Instance σ) (machine : Machine σ) (frame : GuestFrame) (instr : Plain)
variable (pc : Nat) (budget : ExecutionBudget)

/-- What a bulk operation on a memory does. -/
def BulkMemoryLaw : Prop :=
  ∀ operands bulk memory rest, MemoryBulk inst machine.store instr operands bulk →
    machine.store.memoryAt bulk.target = .ok memory → frame.stack = operands ++ rest →
    (machine.Refuses inst BoundsTrap ↔
      bulk.source.length < bulk.start + bulk.length ∨
        memory.bytes.length < bulk.destination + bulk.length) ∧
    (bulk.InSource → bulk.InTarget memory.bytes → ∃ after written,
      machine.step inst =
        .running (machine.afterPlain frame pc budget
          { machine.plainState frame with store := after, stack := rest }) ∧
      bulk.Applied memory.bytes written.bytes ∧ written.maxPages = memory.maxPages ∧
      machine.store.MemoryWritten after bulk.target written)

/-- What a bulk operation on a table does. -/
def BulkTableLaw : Prop :=
  ∀ operands bulk handle rest, TableBulk inst machine.store instr operands bulk →
    inst.tables[bulk.target]? = some handle → frame.stack = operands ++ rest →
    (machine.Refuses inst BoundsTrap ↔
      bulk.source.length < bulk.start + bulk.length ∨
        (machine.store.heap.table handle).slots.length < bulk.destination + bulk.length) ∧
    (bulk.InSource → bulk.InTarget (machine.store.heap.table handle).slots → ∃ after written,
      machine.step inst =
        .running (machine.afterPlain frame pc budget
          { machine.plainState frame with store := after, stack := rest }) ∧
      bulk.Applied (machine.store.heap.table handle).slots written.slots ∧
      written.maximum = (machine.store.heap.table handle).maximum ∧
      written.owner = (machine.store.heap.table handle).owner ∧
      machine.store.TableWritten after handle written)

/-- What the drops do: the segment is empty, and nothing else changes. -/
def DropLaw : Prop :=
  (∀ data, instr = .dataDrop data → data < machine.store.dataSegments.length →
    machine.step inst =
      .running (machine.afterPlain frame pc budget
        { machine.plainState frame with
          store :=
            { machine.store with
              dataSegments := machine.store.dataSegments.set data [] } })) ∧
  ∀ element, instr = .elemDrop element → element < machine.store.elementSegments.length →
    machine.step inst =
      .running (machine.afterPlain frame pc budget
        { machine.plainState frame with
          store :=
            { machine.store with
              elementSegments := machine.store.elementSegments.set element [] } })

variable {inst machine frame instr pc budget}

theorem not_fits {first second third fourth : Nat} :
    ¬ (first ≤ second ∧ third ≤ fourth) ↔ second < first ∨ fourth < third := by
  rw [not_and_or, Nat.not_le, Nat.not_le]

theorem bulkMemoryLaw (ready : machine.AtPlain frame instr pc budget)
    (small : ∀ index memory, machine.store.memoryAt index = .ok memory →
      memory.bytes.length ≤ 2 ^ 32) :
    BulkMemoryLaw inst machine frame instr pc budget := by
  intro operands bulk memory rest bulks found stackEq
  have obeys : Guarded BoundsTrap (bulk.InSource ∧ bulk.InTarget memory.bytes)
      (· = bulk.afterMemory memory rest (machine.plainState frame))
      (executePlain inst frame.localTypes (machine.plainState frame) instr) :=
    memoryBulk_guarded bulks found small stackEq
  obtain ⟨traps, succeeds⟩ := ready.guarded obeys
  refine ⟨traps.trans not_fits, fun inSource inTarget => ?_⟩
  obtain ⟨after, rfl, stepped⟩ := succeeds ⟨inSource, inTarget⟩
  exact ⟨_, bulk.writtenMemory memory, stepped, transferred_overwrite inSource inTarget, rfl,
    Store.memoryWritten_setMemoryAt found _⟩

theorem bulkTableLaw (ready : machine.AtPlain frame instr pc budget) :
    BulkTableLaw inst machine frame instr pc budget := by
  intro operands bulk handle rest bulks found stackEq
  have obeys : Guarded BoundsTrap
      (bulk.InSource ∧ bulk.InTarget (machine.store.heap.table handle).slots)
      (· = bulk.afterTable handle rest (machine.plainState frame))
      (executePlain inst frame.localTypes (machine.plainState frame) instr) :=
    @tableBulk_guarded σ inst (machine.plainState frame) _ handle rest _ _ _ bulks found stackEq
  obtain ⟨traps, succeeds⟩ := ready.guarded obeys
  refine ⟨traps.trans not_fits, fun inSource inTarget => ?_⟩
  obtain ⟨after, rfl, stepped⟩ := succeeds ⟨inSource, inTarget⟩
  exact ⟨_, (machine.store.heap.table handle).writeSlots bulk.destination bulk.payload, stepped,
    transferred_overwrite inSource inTarget, rfl, rfl,
    tableWritten_setTable machine.store handle _⟩

theorem dropLaw (ready : machine.AtPlain frame instr pc budget) :
    DropLaw inst machine frame instr pc budget := by
  constructor
  · rintro data rfl inside
    refine ready.step_ok ?_
    have dropped : machine.store.dataDrop data = .ok
        { machine.store with dataSegments := machine.store.dataSegments.set data [] } :=
      if_pos inside
    change (do
      let store ← machine.store.dataDrop data
      return { machine.plainState frame with store }) = _
    rw [dropped]
    rfl
  · rintro element rfl inside
    refine ready.step_ok ?_
    have dropped : machine.store.elemDrop element = .ok
        { machine.store with elementSegments := machine.store.elementSegments.set element [] } :=
      if_pos inside
    change (do
      let store ← machine.store.elemDrop element
      return { machine.plainState frame with store }) = _
    rw [dropped]
    rfl

end Laws

/-! ## Empty segments -/

/-- Segments that are not passive are empty. -/
structure Tenant.Settled (tenant : Tenant σ) : Prop where
  data : ∀ (index : Nat) (segment : DataSegment),
    tenant.inst.module.data[index]? = some segment → segment.mode ≠ .passive →
    tenant.dataSegments[index]? = some []
  elements : ∀ (index : Nat) (segment : ElementSegment),
    tenant.inst.module.elements[index]? = some segment → segment.mode ≠ .passive →
    tenant.elementSegments[index]? = some []

theorem Tenant.Drained.settled {tenant : Tenant σ} (drained : tenant.Drained) :
    tenant.Settled where
  data index segment found notPassive := by
    refine drained.data.empty ?_
    rw [List.getElem?_map, found, Option.map_some, passiveData]
    split
    · next passive => exact absurd passive notPassive
    · rfl
  elements index segment found notPassive := by
    refine drained.elements.empty ?_
    rw [List.getElem?_map, found, Option.map_some, passiveElements]
    split
    · next passive => exact absurd passive notPassive
    · rfl
    · rfl

/-- The segments that are empty stay empty. -/
structure Tenant.StaysEmpty (before after : Tenant σ) : Prop where
  data : ∀ index : Nat, before.dataSegments[index]? = some [] →
    after.dataSegments[index]? = some []
  elements : ∀ index : Nat, before.elementSegments[index]? = some [] →
    after.elementSegments[index]? = some []

/-! ## The law -/

/-- The law of bulk operations: each traps if and only if a range leaves its source or
its target, and then changes nothing, or puts the old contents of the source range
into the target range and changes nothing else; dropped, active and declarative
segments are empty sources in every state that follows. -/
theorem bulk_operation_law {world : World σ} {tenant : Tenant σ} {machine : Machine σ}
    (runs : world.Runs tenant machine) :
    (∀ frame instr pc budget, machine.AtPlain frame instr pc budget →
      BulkMemoryLaw tenant.inst machine frame instr pc budget ∧
      BulkTableLaw tenant.inst machine frame instr pc budget ∧
      DropLaw tenant.inst machine frame instr pc budget) ∧
    tenant.Settled ∧
    ∀ later, World.Steps world later → ∀ survivor ∈ later.tenants,
      survivor.inst.identity = tenant.inst.identity → tenant.StaysEmpty survivor := by
  refine ⟨fun frame instr pc budget ready => ⟨?_, bulkTableLaw ready, dropLaw ready⟩, ?_, ?_⟩
  · exact bulkMemoryLaw ready fun index memory found => (runs.memory found).1
  · exact (runs.reachable.drained tenant runs.member).settled
  · intro later steps survivor survives same
    have evolved := steps.survivor runs.reachable.sized runs.member survives same
    exact ⟨fun index empty => evolved.data.empty empty,
      fun index empty => evolved.elements.empty empty⟩

/-- A function that copies no bytes to a place behind an empty memory. -/
def copyingModule : Module where
  types := [⟨[], []⟩]
  functionTypeIndices := [0]
  memories := [⟨⟨0, none, false⟩⟩]
  exports := [⟨"run", .function, 0⟩]
  code := [⟨[], [0x41, 0x01, 0x41, 0x00, 0x41, 0x00, 0xfc, 0x0a, 0x00, 0x00, 0x0b]⟩]

/-- The function comes to its copy. -/
theorem copying_runs : ∃ (world : World Unit) (tenant : Tenant Unit) (machine : Machine Unit)
    (frame : GuestFrame),
    world.Runs tenant machine ∧ machine.AtPlain frame (.memoryCopy 0 0) 10 ⟨none, 0⟩ ∧
      MemoryBulk tenant.inst machine.store (.memoryCopy 0 0) [.i32 0, .i32 0, .i32 1]
        ⟨0, [], 0, 1, 0⟩ ∧
      machine.store.memoryAt 0 = .ok ⟨[], 1⟩ ∧ frame.stack = [.i32 0, .i32 0, .i32 1] := by
  have ready : instantiate copyingModule noHosts ⟨26, 1, none, none⟩
      (Heap.empty fun _ => true) () = .ready _ _ := rfl
  have known : noHosts.Known (Heap.empty fun _ => true) := by
    constructor <;> intro entry member <;> cases member
  have instantiated : World.Step (World.start (fun _ => true) ()) _ := .instantiate known ready
  have invoked := (Relation.ReflTransGen.single instantiated).tail
    (@World.Step.invoke Unit _ 0 _ "run" [] rfl rfl)
  have entered := invoked.tail (@World.Step.resume Unit _ 0 _ _ rfl rfl)
  have first := entered.tail (@World.Step.resume Unit _ 0 _ _ rfl rfl)
  have second := first.tail (@World.Step.resume Unit _ 0 _ _ rfl rfl)
  have third := second.tail (@World.Step.resume Unit _ 0 _ _ rfl rfl)
  refine ⟨_, _, _, _, ⟨⟨_, _, third⟩, List.mem_singleton.mpr rfl, _, rfl, rfl⟩,
    ⟨rfl, rfl, by decide, rfl⟩, ?_, rfl, rfl⟩
  exact @MemoryBulk.copy Unit _ _ 0 0 0 1 0 ⟨[], 1⟩ _ _ _ _ _ rfl rfl rfl (.narrow 0) (.narrow 0)
    (.narrow 1)

/-- A function that moves two of the three slots of a table up by one. -/
def shiftingModule : Module where
  types := [⟨[], []⟩]
  functionTypeIndices := [0]
  tables := [⟨⟨3, none⟩⟩]
  elements := [⟨.active 0 0, [0]⟩]
  exports := [⟨"run", .function, 0⟩]
  code := [⟨[], [0x41, 0x01, 0x41, 0x00, 0x41, 0x02, 0xfc, 0x0e, 0x00, 0x00, 0x0b]⟩]

/-- The function comes to its copy, from the slots 0 and 1 to the slots 1 and 2. -/
theorem shifting_runs : ∃ (world : World Unit) (tenant : Tenant Unit) (machine : Machine Unit)
    (frame : GuestFrame) (handle : TableHandle) (reference : FunctionRef),
    world.Runs tenant machine ∧ machine.AtPlain frame (.tableCopy 0 0) 10 ⟨none, 0⟩ ∧
      tenant.inst.tables[0]? = some handle ∧
      (machine.store.heap.table handle).slots = [some reference, none, none] ∧
      frame.stack = [.i32 2, .i32 0, .i32 1] := by
  have ready : instantiate shiftingModule noHosts ⟨26, 1, none, none⟩
      (Heap.empty fun _ => true) () = .ready _ _ := rfl
  have known : noHosts.Known (Heap.empty fun _ => true) := by
    constructor <;> intro entry member <;> cases member
  have instantiated : World.Step (World.start (fun _ => true) ()) _ := .instantiate known ready
  have invoked := (Relation.ReflTransGen.single instantiated).tail
    (@World.Step.invoke Unit _ 0 _ "run" [] rfl rfl)
  have entered := invoked.tail (@World.Step.resume Unit _ 0 _ _ rfl rfl)
  have first := entered.tail (@World.Step.resume Unit _ 0 _ _ rfl rfl)
  have second := first.tail (@World.Step.resume Unit _ 0 _ _ rfl rfl)
  have third := second.tail (@World.Step.resume Unit _ 0 _ _ rfl rfl)
  exact ⟨_, _, _, _, _, _, ⟨⟨_, _, third⟩, List.mem_singleton.mpr rfl, _, rfl, rfl⟩,
    ⟨rfl, rfl, by decide, rfl⟩, rfl, rfl, rfl⟩

/-- One function traps, although it would copy nothing; the other moves the slots as they
were before, although the ranges overlap. -/
theorem bulk_operation_law_copying :
    (∃ (tenant : Tenant Unit) (machine : Machine Unit),
      machine.Refuses tenant.inst BoundsTrap) ∧
    ∃ (tenant : Tenant Unit) (machine next : Machine Unit) (handle : TableHandle)
      (reference : FunctionRef),
      (machine.store.heap.table handle).slots = [some reference, none, none] ∧
        machine.step tenant.inst = .running next ∧
        (next.store.heap.table handle).slots = [some reference, some reference, none] := by
  constructor
  · obtain ⟨world, tenant, machine, frame, runs, ready, bulks, found, stackEq⟩ := copying_runs
    obtain ⟨operations, -⟩ := bulk_operation_law runs
    have law := (operations _ _ _ _ ready).1 _ _ _ [] bulks found stackEq
    exact ⟨tenant, machine, law.1.mpr (.inr (by decide))⟩
  obtain ⟨world, tenant, machine, frame, handle, reference, runs, ready, found, slots,
    stackEq⟩ := shifting_runs
  obtain ⟨operations, -⟩ := bulk_operation_law runs
  have bulks : TableBulk tenant.inst machine.store (.tableCopy 0 0) [.i32 2, .i32 0, .i32 1]
      ⟨0, (machine.store.heap.table handle).slots, 0, 1, 2⟩ := .copy 1 0 2 found
  obtain ⟨-, succeeds⟩ := (operations _ _ _ _ ready).2.1 _ _ _ [] bulks found stackEq
  rw [slots] at succeeds
  obtain ⟨after, written, stepped, applied, -, -, wrote⟩ := succeeds (Nat.le_succ 2) le_rfl
  refine ⟨tenant, machine, _, handle, reference, slots, stepped, ?_⟩
  change (after.heap.table handle).slots = _
  rw [wrote.table]
  apply List.ext_getElem?
  intro position
  match position with
  | 0 => exact applied.outside 0 (.inl Nat.zero_lt_one)
  | 1 => exact applied.inside 0 Nat.zero_lt_two
  | 2 => exact applied.inside 1 Nat.one_lt_two
  | more + 3 => exact applied.outside (more + 3) (.inr (Nat.le_add_left 3 more))
end MiniWasm.Runtime
