import MiniWasm.Runtime.Agreement
import MiniWasm.Runtime.Sharing
import MiniWasm.Runtime.Writing

/-!
# Who owns a table

A table is bound to the instance that uses it until that instance is dropped, and
a function reference names the instance that created it.  This module follows
both through every history of a world.
-/

namespace MiniWasm.Runtime

open Library

variable {σ : Type}

/-! ## Owners -/

/-- Nobody is dropped, and a table that has a live owner keeps it. -/
structure Heap.OwnersKept (before after : Heap) : Prop where
  tableCount : before.tables.size ≤ after.tables.size
  live : ∀ identity ∈ before.live, identity ∈ after.live
  owner : ∀ address, address < before.tables.size → ∀ identity ∈ before.live,
    (before.tables.get address).owner = some identity →
      (after.tables.get address).owner = some identity

namespace Heap.OwnersKept

variable {first second third heap : Heap}

theorem ofSame {before after : Heap} (live : after.live = before.live)
    (tables : after.tables = before.tables) : before.OwnersKept after where
  tableCount := tables ▸ Nat.le_refl _
  live _ member := live ▸ member
  owner _ _ _ _ owned := tables ▸ owned

theorem refl (heap : Heap) : heap.OwnersKept heap :=
  .ofSame rfl rfl

theorem trans (before : first.OwnersKept second) (after : second.OwnersKept third) :
    first.OwnersKept third where
  tableCount := Nat.le_trans before.tableCount after.tableCount
  live identity member := after.live identity (before.live identity member)
  owner address existed identity member owned :=
    after.owner address (Nat.lt_of_lt_of_le existed before.tableCount) identity
      (before.live identity member) (before.owner address existed identity member owned)

/-- A step of an instance leaves the owners alone. -/
theorem ofEvolves {inst : Instance σ} {issued : FunctionRef → Prop} {before after : Heap}
    (evolves : before.Evolves inst issued after) : before.OwnersKept after where
  tableCount := evolves.tableCount.ge
  live _ member := evolves.live ▸ member
  owner address _ _ _ owned := (evolves.tableOwner ⟨address⟩).trans owned

/-- Binding takes only tables without a live owner. -/
theorem ofBindsOnly {identity : Identity} {before after : Heap}
    (binds : before.BindsOnly identity after) : before.OwnersKept after where
  tableCount := binds.tablesGrow
  live _ member := binds.live ▸ member
  owner address existed other member owned := by
    rcases binds.owner address existed with same | ⟨-, free⟩
    · exact same.trans owned
    · rw [TableCell.liveOwner, owned] at free
      simp [member] at free

theorem ofUnharmed {before after : Heap} (unharmed : before.Unharmed after)
    (tableCount : before.tables.size ≤ after.tables.size) : before.OwnersKept after where
  tableCount := tableCount
  live _ member := unharmed.live ▸ member
  owner address existed identity member owned := by
    have liveOwner : (before.tables.get address).liveOwner before.live = some identity :=
      Option.filter_eq_some_iff.mpr ⟨owned, decide_eq_true member⟩
    rw [← unharmed.liveOwner address existed] at liveOwner
    exact (Option.filter_eq_some_iff.mp liveOwner).1

theorem setTable {handle : TableHandle} {cell : TableCell}
    (owner : cell.owner = (heap.table handle).owner) :
    heap.OwnersKept (heap.setTable handle cell) where
  tableCount := Nat.le_refl _
  live _ member := member
  owner address _ identity _ owned := by
    simp only [Heap.setTable, Arena.get_set]
    split_ifs with same
    · subst same
      exact owner.trans owned
    · exact owned

theorem newTable (cell : TableCell) : heap.OwnersKept (heap.newTable cell).2 where
  tableCount := Nat.le_succ _
  live _ member := member
  owner address existed identity _ owned := by
    have same : (heap.newTable cell).2.tables.get address = heap.tables.get address :=
      heap.tables.get_alloc_of_lt cell existed
    rw [same]
    exact owned

end Heap.OwnersKept

section Steps

variable {inst : Instance σ}

theorem HandleOp.apply_owners (heap : Heap) (op : HandleOp) : heap.OwnersKept (op.apply heap) := by
  unfold HandleOp.apply
  cases op with
  | setTable handle index reference =>
      dsimp only
      split
      · exact .refl heap
      split
      · next stored => exact .setTable (TableCell.set_ok stored).1
      · exact .refl heap
  | newTable minimum maximum =>
      dsimp only
      split
      · next cell _ =>
          have ticked : heap.OwnersKept heap.tick := .ofSame rfl rfl
          exact ticked.trans (.newTable cell)
      · exact .ofSame rfl rfl
  | setGlobal | getTable | writeMemory | newMemory =>
      dsimp only
      split <;> exact .ofSame rfl rfl
  | newGlobal | growMemory => exact .ofSame rfl rfl

theorem setMemoryAt_owners (store : Store σ) (index : Nat) (memory : LinearMemory) :
    store.heap.OwnersKept (store.setMemoryAt index memory).heap := by
  unfold Store.setMemoryAt
  split <;> exact .ofSame rfl rfl

theorem applyHostOp_owners (capabilities : HostCapabilities) (store : Store σ) (op : HostOp) :
    store.heap.OwnersKept (Store.applyHostOp capabilities store op).heap := by
  cases op with
  | writeMemoryAt memoryIndex address bytes =>
      unfold Store.applyHostOp Store.hostWrite
      dsimp only
      split
      · exact .refl _
      split
      · exact .refl _
      split
      · exact setMemoryAt_owners ..
      · exact .refl _
  | handle op => exact op.apply_owners _

theorem afterHost_owners (capabilities : HostCapabilities) (store : Store σ)
    (reply : HostReply σ) :
    store.heap.OwnersKept (store.afterHost capabilities reply).heap := by
  unfold Store.afterHost
  have first : store.heap.OwnersKept ({ store with host := reply.state } : Store σ).heap :=
    .refl _
  refine first.trans ?_
  generalize ({ store with host := reply.state } : Store σ) = current
  induction reply.ops generalizing current with
  | nil => exact .refl current.heap
  | cons op rest ih => exact (applyHostOp_owners capabilities current op).trans (ih _)

/-- A step of an invocation changes no owner. -/
theorem Machine.step_owners (machine : Machine σ) :
    machine.store.heap.OwnersKept (machine.step inst).store.heap := by
  rcases machine.step_store inst with same | ⟨index, args, same⟩ | ⟨frame, after, ran, same⟩
  · rw [same]
    exact .refl _
  · rw [same]
    unfold Instance.invokeHost
    split
    · exact .refl _
    · exact afterHost_owners ..
  · rw [same]
    have evolves : machine.store.Evolves inst (fun _ => True) after.1 :=
      (frameStep_evolves machine.store.admitted_true frame.admitted_true (fun _ _ => trivial)
        after ran).1
    exact .ofEvolves evolves.heap

end Steps

/-! ## New instances -/

section Instantiation

variable {module : Module} {hosts : HostRegistry σ} {limits : RuntimeLimits} {host : σ}
variable {heap : Heap} {inst : Instance σ} {store : Store σ}

/-- A new instance takes only tables without a live owner, and owns all of its own. -/
theorem Ready.owners (ready : Ready module hosts limits heap host inst store) :
    heap.OwnersKept store.heap ∧ OwnsTables inst store.heap := by
  cases ready with
  | @intro _ allocated bound assembled memories tables globals _ _ _ _ _ memoriesReady
      tablesReady globalsReady same segments =>
      have owns : OwnsTables inst assembled :=
        assembled_owns tablesReady globalsReady (by rw [same]) (by rw [same])
      have everyElement : inst.ElementsIssued fun _ => True := fun _ _ _ _ _ => trivial
      have evolves := initializeSegments_evolves owns everyElement segments
      obtain ⟨granted, sameHeap⟩ := @instantiateMemories_heap σ module hosts limits heap
      have allocatedHeap : allocated = { heap with granted } :=
        (congrArg Prod.fst memoriesReady).symm.trans sameHeap
      have identified : heap.OwnersKept allocated.newIdentity.2 := by
        rw [allocatedHeap]
        exact ⟨Nat.le_refl _, fun _ member => List.mem_cons_of_mem _ member,
          fun _ _ _ _ owned => owned⟩
      have tablesBound : TablesBound allocated.nextIdentity _
          (instantiateTables module hosts allocated.nextIdentity allocated.newIdentity.2) :=
        instantiateTables_bound _
      rw [tablesReady] at tablesBound
      have globalsBound : bound.BindsOnly allocated.nextIdentity
          (instantiateGlobals module hosts bound).1 :=
        instantiateGlobals_bindsOnly bound
      rw [globalsReady] at globalsBound
      have bound : allocated.newIdentity.2.OwnersKept assembled :=
        .ofBindsOnly (tablesBound.1.trans globalsBound)
      have written : assembled.OwnersKept store.heap := .ofEvolves evolves.heap
      exact ⟨identified.trans (bound.trans written), owns.evolves evolves.heap⟩

theorem findKey_mem {α : Type} {entries : List ((String × String) × α)} {key : String × String}
    {value : α} (found : findKey entries key = some value) :
    ∃ entry ∈ entries, entry.2 = value := by
  obtain ⟨entry, first, same⟩ := Option.map_eq_some_iff.mp found
  exact ⟨entry, List.mem_of_find?_eq_some first, same⟩

theorem forall₂_of_right {α β : Type} {relation : α → β → Prop} {left : List α} {right : List β}
    (related : List.Forall₂ relation left right) {other : β} (member : other ∈ right) :
    ∃ value ∈ left, relation value other := by
  induction related with
  | nil => cases member
  | cons head _ ih =>
      rcases List.mem_cons.mp member with rfl | rest
      · exact ⟨_, List.mem_cons_self, head⟩
      · obtain ⟨value, present, holds⟩ := ih rest
        exact ⟨value, List.mem_cons_of_mem _ present, holds⟩

theorem instantiateDefinedTables_size {identity : Identity} {types : List TableType}
    {heap after : Heap} {handles : List TableHandle}
    (created : instantiateDefinedTables identity types heap = (after, .ok handles)) :
    after.tables.size = heap.tables.size + types.length := by
  induction types generalizing heap handles with
  | nil =>
      cases created
      rfl
  | cons type rest ih =>
      unfold instantiateDefinedTables at created
      split at created
      · cases created
      dsimp only at created
      split at created
      · cases created
      next cell _ _ _ binds =>
      obtain ⟨others, remaining, rfl⟩ := stage_map_ok created
      have size := (bindTable_shape binds).2.1
      have allocated : (heap.tick.newTable cell).2.tables.size = heap.tables.size + 1 := rfl
      rw [ih remaining, size, allocated, List.length_cons]
      omega

/-- The handles of an instance's tables have been handed out. -/
theorem instantiateTables_allocated {identity : Identity} {heap after : Heap}
    {handles : List TableHandle}
    (known : ∀ entry ∈ hosts.tables, entry.2.address < heap.tables.size)
    (created : instantiateTables module hosts identity heap = (after, .ok handles)) :
    ∀ handle ∈ handles, handle.address < after.tables.size := by
  unfold instantiateTables at created
  split at created
  · cases created
  next middle imported bound =>
  obtain ⟨defined, made, rfl⟩ := stage_map_ok created
  obtain ⟨keys, -, importedSize⟩ := instantiateImportedTables_keys bound
  obtain ⟨each, -⟩ := instantiateDefinedTables_made made
  have size := instantiateDefinedTables_size made
  intro handle member
  rcases List.mem_append.mp member with isImported | isDefined
  · obtain ⟨entry, -, key⟩ := forall₂_of_right keys isImported
    obtain ⟨registered, listed, rfl⟩ := findKey_mem key
    have allocated := known registered listed
    omega
  · obtain ⟨position, found⟩ := List.mem_iff_getElem?.mp isDefined
    have inside := (List.getElem?_eq_some_iff.mp found).1
    rw [instantiateDefinedTables_length made] at inside
    have place := (each position _ (List.getElem?_eq_getElem inside)).1
    cases found.symm.trans place
    dsimp only
    omega

theorem Ready.allocated (known : hosts.Known heap)
    (ready : Ready module hosts limits heap host inst store) :
    ∀ handle ∈ inst.tables, handle.address < store.heap.tables.size := by
  cases ready with
  | @intro _ allocated bound assembled memories tables globals _ _ _ _ _ memoriesReady
      tablesReady globalsReady same segments =>
      obtain ⟨granted, sameHeap⟩ := @instantiateMemories_heap σ module hosts limits heap
      have allocatedHeap : allocated = { heap with granted } :=
        (congrArg Prod.fst memoriesReady).symm.trans sameHeap
      have bounded := instantiateTables_allocated
        (fun entry member => by rw [allocatedHeap]; exact known.tables entry member) tablesReady
      have globalTables := (instantiateGlobals_made globalsReady).choose_spec.choose_spec.2.2.1
      have written := (initializeSegments_objects inst
        { heap := assembled, memories, host, dataSegments := module.data.map passiveData
          elementSegments := module.elements.map passiveElements }).tableCount
      rw [segments] at written
      intro handle member
      rw [same] at member
      have inBound := bounded handle member
      rw [← globalTables] at inBound
      exact Nat.lt_of_lt_of_le inBound written

end Instantiation

/-! ## Obtaining a reference -/

section Slots

variable {inst : Instance σ} {store : Store σ} {table element : Nat} {handle : TableHandle}

/-- Nobody who is live created the reference, or somebody else did. -/
def Instance.Foreign (inst : Instance σ) (heap : Heap) (reference : FunctionRef) : Prop :=
  reference.owner ∉ heap.live ∨ reference.owner ≠ inst.identity

/-- `table.get` on a slot with a foreign reference is refused. -/
theorem tableGet_foreign {reference : FunctionRef} (found : inst.tables[table]? = some handle)
    (slot : (store.heap.table handle).slots[element]? = some (some reference))
    (foreign : inst.Foreign store.heap reference) :
    inst.tableGet store table element = .error (.foreignTableFunctionReference element) := by
  have handled : inst.tableHandle table = .ok handle := by
    rw [Instance.tableHandle, found]
  rw [Instance.tableGet, handled, ok_bind, TableCell.functionIndexForInstance, TableCell.get, slot]
  simp only [ok_bind]
  by_cases live : reference.owner ∈ store.heap.live
  · have other : reference.owner ≠ inst.identity := foreign.resolve_left (not_not.mpr live)
    rw [if_neg (not_not.mpr live), if_pos other]
    rfl
  · rw [if_pos live]
    rfl

/-- What `table.get` returns is what the slot holds, and it is a reference of the instance. -/
theorem tableGet_ok {reference : Option Nat}
    (returned : inst.tableGet store table element = .ok reference) :
    ∃ handle, inst.tables[table]? = some handle ∧
      (store.heap.table handle).slots[element]? = some (reference.map inst.functionRef) := by
  obtain ⟨handle, handled, found⟩ := bind_ok.mp returned
  have found := tableResult_ok found
  refine ⟨handle, ?_, ?_⟩
  · unfold Instance.tableHandle at handled
    split at handled
    · next here =>
        cases handled
        exact here
    · cases handled
  · cases reference with
    | some function => exact (TableCell.functionIndexForInstance_ok found).1
    | none =>
        unfold TableCell.functionIndexForInstance TableCell.get at found
        split at found
        · next slot here =>
            cases slot with
            | none => exact here
            | some reference =>
                simp only [ok_bind] at found
                split_ifs at found
                cases found
        · cases found

/-- The table and the slot that an instruction obtains a reference from. -/
def slotRead : Simple → Stack → Option (Nat × Nat)
  | .callIndirect _ table, .i32 element :: _ => some (table, element.toNat)
  | .returnCallIndirect _ table, .i32 element :: _ => some (table, element.toNat)
  | .plain (.tableGet table), .i32 element :: _ => some (table, element.toNat)
  | _, _ => none

/-- What the instance makes of a slot: it calls the function of its own that the slot holds, and
only at the expected type, or it pushes the reference. -/
inductive Instance.Obtains (inst : Instance σ) (slot : Option FunctionRef) :
    Simple → FrameStep → Prop where
  | call {typeIndex table callee : Nat} {type : FuncType} {continuation : GuestFrame}
      {args : List Value} :
      slot = some (inst.functionRef callee) →
      inst.module.types[typeIndex]? = some type →
      inst.module.functionType callee = some type →
      Obtains inst slot (.callIndirect typeIndex table)
        (.outcome (.call continuation callee args))
  | tailCall {typeIndex table callee : Nat} {type : FuncType} {args : List Value} :
      slot = some (inst.functionRef callee) →
      inst.module.types[typeIndex]? = some type →
      inst.module.functionType callee = some type →
      Obtains inst slot (.returnCallIndirect typeIndex table) (.outcome (.tailCall callee args))
  | get {table : Nat} {reference : Option Nat} {after : GuestFrame} {rest : Stack} :
      slot = reference.map inst.functionRef →
      after.stack = .funcRef reference :: rest →
      Obtains inst slot (.plain (.tableGet table)) (.running after)

theorem executeSimple_obtains {frame : GuestFrame} {instr : Simple}
    (reads : slotRead instr frame.stack = some (table, element)) :
    Ensures (fun after => ∃ handle slot, inst.tables[table]? = some handle ∧
        (store.heap.table handle).slots[element]? = some slot ∧
        inst.Obtains slot instr after.2)
      (executeSimple inst store frame instr) := by
  unfold slotRead at reads
  split at reads
  case h_4 => cases reads
  case h_1 typeIndex _ index rest stack =>
      cases reads
      simp only [executeSimple, stack, i32FromStack_cons, ok_bind, ensures_bind, ensures_pure]
      refine resolveIndirectCallee_ensures.mono ?_
      rintro ⟨callee, type⟩ ⟨typed, expected, returned⟩ split _
      obtain ⟨handle, found, slot⟩ := tableGet_ok returned
      exact ⟨handle, _, found, slot, .call rfl expected typed⟩
  case h_2 typeIndex _ index rest stack =>
      cases reads
      simp only [executeSimple, stack, i32FromStack_cons, ok_bind, ensures_bind]
      refine resolveIndirectCallee_ensures.mono ?_
      rintro ⟨callee, type⟩ ⟨typed, expected, returned⟩
      refine .ite (ensures_error _) ?_
      simp only [ensures_bind, ensures_pure]
      intro split _
      obtain ⟨handle, found, slot⟩ := tableGet_ok returned
      exact ⟨handle, _, found, slot, .tailCall rfl expected typed⟩
  case h_3 _ index rest stack =>
      cases reads
      simp only [executeSimple, executePlain, executeTable, stack, i32FromStack_cons, ok_bind,
        ensures_bind, ensures_pure]
      intro reference returned
      obtain ⟨handle, found, slot⟩ := tableGet_ok returned
      exact ⟨handle, _, found, slot, .get rfl rfl⟩

theorem executeSimple_foreign {frame : GuestFrame} {instr : Simple} {reference : FunctionRef}
    (reads : slotRead instr frame.stack = some (table, element))
    (found : inst.tables[table]? = some handle)
    (slot : (store.heap.table handle).slots[element]? = some (some reference))
    (foreign : inst.Foreign store.heap reference) :
    executeSimple inst store frame instr =
      .error (.foreignTableFunctionReference element) := by
  unfold slotRead at reads
  split at reads
  case h_4 => cases reads
  case h_1 typeIndex _ index rest stack =>
      cases reads
      simp only [executeSimple, stack, i32FromStack_cons, ok_bind, Instance.resolveIndirectCallee,
        tableGet_foreign found slot foreign, error_bind]
  case h_2 typeIndex _ index rest stack =>
      cases reads
      simp only [executeSimple, stack, i32FromStack_cons, ok_bind, Instance.resolveIndirectCallee,
        tableGet_foreign found slot foreign, error_bind]
  case h_3 _ index rest stack =>
      cases reads
      simp only [executeSimple, executePlain, executeTable, stack, i32FromStack_cons, ok_bind,
        tableGet_foreign found slot foreign, error_bind]

end Slots

/-! ## Histories -/

namespace World

/-- A step that the instance with the identity takes: one of an invocation of its own, or its
creation. -/
inductive Acts (identity : Identity) (before : World σ) : World σ → Prop where
  | resume {index : Nat} {tenant : Tenant σ} {activity : Activity} :
      before.tenants[index]? = some tenant → tenant.activity = some activity →
      tenant.inst.identity = identity →
      Acts identity before
        (before.advance index tenant
          ((activity.machine (before.store tenant)).step tenant.inst))
  | instantiate {module : Module} {hosts : HostRegistry σ} {limits : RuntimeLimits}
      {inst : Instance σ} {store : Store σ} :
      Runtime.instantiate module hosts limits before.heap before.host = .ready inst store →
      inst.identity = identity →
      Acts identity before
        { heap := store.heap
          host := store.host
          tenants := before.tenants ++
            [.ofStore inst store ((startFunction inst store).map Machine.activity)] }

/-- What a step of the world does to the tables and globals: a reference that it creates is
owned by the instance that takes the step. -/
theorem Step.objects {before after : World σ} (step : Step before after) :
    before.heap.ObjectsEvolve (fun reference => Acts reference.owner before after)
      after.heap := by
  cases step with
  | handle op => exact op.apply_objects _
  | host host => exact .refl _
  | @instantiate module hosts limits inst store known ready =>
      exact (instantiate_ready ready).objects.mono fun reference issued =>
        .instantiate ready issued.symm
  | refuse known failed => exact instantiate_failed_objects failed
  | @writeMemory index memoryIndex address tenant bytes store found idle written =>
      simp only [Store.writeMemoryAt, Store.withMemoryIndexMut, bind_ok, pure_ok,
        Except.ok.injEq] at written
      obtain ⟨memory, -, after, -, rfl⟩ := written
      exact setMemoryAt_objects (before.store tenant) ..
  | @invoke index tenant name args found idle =>
      have same := startExport_store tenant.inst (before.store tenant) name args
      simp only [advance, same]
      exact .refl _
  | @resume index tenant activity found running =>
      exact (Machine.step_objects (activity.machine (before.store tenant))).mono
        fun reference issued => .resume found running issued.symm
  | drop found idle => exact .ofSame rfl rfl rfl

/-- What any number of steps does to the tables and globals. -/
theorem Steps.objects {before after : World σ} (steps : Steps before after) :
    before.heap.ObjectsEvolve (fun _ => True) after.heap := by
  refine @Steps.lift σ
    (fun before after => before.heap.ObjectsEvolve (fun _ => True) after.heap) ?_ ?_ ?_ _ _ steps
  · exact fun world => .refl _
  · exact fun before after => before.trans after
  · exact fun step => step.objects.mono fun _ _ => trivial

/-- A reference that stands in a table, or that the embedder has, was created by the instance
that it names. -/
theorem Reachable.created {world : World σ} (reachable : world.Reachable)
    {reference : FunctionRef} (present : world.heap.Holds reference) :
    ∃ before after, before.Reachable ∧ ¬ before.heap.Holds reference ∧
      Acts reference.owner before after ∧ after.heap.Holds reference ∧ Steps after world := by
  obtain ⟨granted, host, steps⟩ := reachable
  induction steps with
  | refl =>
      rcases present with held | ⟨handle, slot⟩
      · cases held
      · cases slot
  | @tail middle world earlier last ih =>
      by_cases old : middle.heap.Holds reference
      · obtain ⟨before, after, reached, absent, acts, holds, later⟩ := ih old
        exact ⟨before, after, reached, absent, acts, holds, later.tail last⟩
      · rcases last.objects.references reference present with acts | older
        · exact ⟨middle, world, ⟨granted, host, earlier⟩, old, acts, present, .refl⟩
        · exact absurd older old

/-- Every instance of the world is live, and its tables are bound to it. -/
structure Owned (world : World σ) : Prop where
  allocated : ∀ tenant ∈ world.tenants, ∀ handle ∈ tenant.inst.tables,
    handle.address < world.heap.tables.size
  owns : ∀ tenant ∈ world.tenants, OwnsTables tenant.inst world.heap

theorem start_owned (granted : Nat → Bool) (host : σ) : (start granted host).Owned where
  allocated _ member := by cases member
  owns _ member := by cases member

/-- The invariant for the instances that were there before the step. -/
theorem Owned.kept {before after : World σ} (owned : before.Owned)
    (owners : before.heap.OwnersKept after.heap)
    (tenants : ∀ tenant ∈ after.tenants, ∃ old ∈ before.tenants, tenant.inst = old.inst) :
    after.Owned where
  allocated tenant member handle own := by
    obtain ⟨old, present, same⟩ := tenants tenant member
    rw [same] at own
    exact Nat.lt_of_lt_of_le (owned.allocated old present handle own) owners.tableCount
  owns tenant member := by
    obtain ⟨old, present, same⟩ := tenants tenant member
    have owns := owned.owns old present
    rw [same]
    refine ⟨fun handle own => ?_, owners.live _ owns.live⟩
    exact owners.owner handle.address (owned.allocated old present handle own) _ owns.live
      (owns.owner handle own)

theorem mem_set_inst {tenants : List (Tenant σ)} {index : Nat} {tenant after other : Tenant σ}
    (found : tenants[index]? = some tenant) (same : after.inst = tenant.inst)
    (member : other ∈ tenants.set index after) : ∃ old ∈ tenants, other.inst = old.inst := by
  rcases List.mem_or_eq_of_mem_set member with old | rfl
  · exact ⟨other, old, rfl⟩
  · exact ⟨tenant, List.mem_of_getElem? found, same⟩

theorem Step.owned {before after : World σ} (step : Step before after) (sized : before.Sized)
    (owned : before.Owned) : after.Owned := by
  have unchanged : ∀ tenant ∈ before.tenants, ∃ old ∈ before.tenants, tenant.inst = old.inst :=
    fun tenant member => ⟨tenant, member, rfl⟩
  cases step with
  | handle op => exact owned.kept (op.apply_owners _) unchanged
  | host host => exact owned.kept (.refl _) unchanged
  | @instantiate module hosts limits inst store known ready =>
      have stages := instantiate_ready ready
      obtain ⟨owners, owns⟩ := stages.owners
      have kept : Owned { before with heap := store.heap } := owned.kept owners unchanged
      constructor
      · intro tenant member
        rcases List.mem_append.mp member with old | new
        · exact kept.allocated tenant old
        · rw [List.mem_singleton] at new
          subst new
          exact stages.allocated known
      · intro tenant member
        rcases List.mem_append.mp member with old | new
        · exact kept.owns tenant old
        · rw [List.mem_singleton] at new
          subst new
          exact owns
  | @refuse module hosts limits heap err known failed =>
      have tableCount := (@instantiate_failed_objects σ module hosts limits before.host
        (fun _ => True) before.heap heap err failed).tableCount
      exact owned.kept (.ofUnharmed (instantiate_failed failed) tableCount) unchanged
  | @writeMemory index memoryIndex address tenant bytes store found idle written =>
      simp only [Store.writeMemoryAt, Store.withMemoryIndexMut, bind_ok, pure_ok,
        Except.ok.injEq] at written
      obtain ⟨memory, -, after, -, rfl⟩ := written
      exact owned.kept (setMemoryAt_owners (before.store tenant) ..)
        fun other => mem_set_inst found rfl
  | @invoke index tenant name args found idle =>
      have same := startExport_store tenant.inst (before.store tenant) name args
      refine owned.kept ?_ fun other => mem_set_inst found (tenant.after_inst _)
      simp only [advance, same]
      exact .refl _
  | @resume index tenant activity found running =>
      exact owned.kept (Machine.step_owners (activity.machine (before.store tenant)))
        fun other => mem_set_inst found (tenant.after_inst _)
  | @drop index tenant found idle =>
      have remains (other : Tenant σ) (member : other ∈ before.tenants.eraseIdx index) :
          other ∈ before.tenants ∧ other.inst.identity ≠ tenant.inst.identity := by
        obtain ⟨place, inside, elsewhere, rfl⟩ := List.mem_eraseIdx_iff_getElem.mp member
        refine ⟨List.getElem_mem inside, fun same => elsewhere ?_⟩
        obtain ⟨here, rfl⟩ := List.getElem?_eq_some_iff.mp found
        let identities := before.tenants.map fun tenant => tenant.inst.identity
        have placeInside : place < identities.length := by simpa [identities] using inside
        have indexInside : index < identities.length := by simpa [identities] using here
        have equal : identities[place] = identities[index] := by simpa [identities] using same
        exact sized.distinct.getElem_inj_iff.mp equal
      refine ⟨fun other member => owned.allocated other (remains other member).1, ?_⟩
      intro other member
      obtain ⟨old, different⟩ := remains other member
      have owns := owned.owns other old
      refine ⟨owns.owner, List.mem_filter.mpr ⟨owns.live, decide_eq_true different⟩⟩

theorem Reachable.owned {world : World σ} (reachable : world.Reachable) : world.Owned := by
  have both : world.Sized ∧ world.Owned := by
    refine @Reachable.induct σ (fun world => world.Sized ∧ world.Owned) ?_ ?_ world reachable
    · exact fun granted host => ⟨start_sized granted host, start_owned granted host⟩
    · exact fun step holds => ⟨step.sized holds.1, step.owned holds.1 holds.2⟩
  exact both.2

/-- No two instances of a world share a table. -/
theorem Reachable.tables_disjoint {world : World σ} (reachable : world.Reachable)
    {first second : Tenant σ} (firstMember : first ∈ world.tenants)
    (secondMember : second ∈ world.tenants) {handle : TableHandle}
    (own : handle ∈ first.inst.tables) (other : handle ∈ second.inst.tables) :
    first = second := by
  have owned := reachable.owned
  have sameOwner : some first.inst.identity = some second.inst.identity :=
    ((owned.owns first firstMember).owner handle own).symm.trans
      ((owned.owns second secondMember).owner handle other)
  exact List.inj_on_of_nodup_map reachable.sized.distinct firstMember secondMember
    (Option.some.inj sameOwner)

end World

/-- Function references over all histories of instances that share tables: every reference in a
table, or taken out of one, was created by the instance that it names; no two instances share
a table; and whenever an instance calls through a slot or gets its reference, the slot holds a
reference of its own, to a function of the expected type where it calls.  A slot with another
reference is refused. -/
theorem tables_dispatch_own {world : World σ} (reachable : world.Reachable) :
    (∀ reference, world.heap.Holds reference → ∃ before after : World σ, before.Reachable ∧
      ¬ before.heap.Holds reference ∧ World.Acts reference.owner before after ∧
      after.heap.Holds reference ∧ World.Steps after world) ∧
    (∀ first ∈ world.tenants, ∀ second ∈ world.tenants, ∀ handle ∈ first.inst.tables,
      handle ∈ second.inst.tables → first = second) ∧
    ∀ (tenant : Tenant σ) (machine : Machine σ) (frame : GuestFrame) (instr : Simple)
      (pc' table element : Nat), world.Runs tenant machine → machine.current = .frame frame →
      Spec.simpleAt frame.code frame.pc = some (instr, pc') →
      slotRead instr frame.stack = some (table, element) →
      tenant.inst.identity ∈ world.heap.live ∧
      Ensures (fun after => ∃ handle slot, tenant.inst.tables[table]? = some handle ∧
          (world.heap.table handle).slots[element]? = some slot ∧
          tenant.inst.Obtains slot instr after.2.2)
        (frameStep tenant.inst machine.store machine.budget frame) ∧
      ∀ (handle : TableHandle) (reference : FunctionRef) (budget : ExecutionBudget),
        tenant.inst.tables[table]? = some handle →
        (world.heap.table handle).slots[element]? = some (some reference) →
        tenant.inst.Foreign world.heap reference →
        machine.budget.consumeInstruction = .ok budget →
        machine.step tenant.inst = .finished machine.store
          (.error (.foreignTableFunctionReference element)) := by
  refine ⟨fun reference present => reachable.created present, ?_, ?_⟩
  · intro first firstMember second secondMember handle own other
    exact reachable.tables_disjoint firstMember secondMember own other
  intro tenant machine frame instr pc' table element runs current decoded reads
  have heap : machine.store.heap = world.heap := congrArg Store.heap runs.store
  have known : ∀ memory ∈ instr.memories, memory < machine.store.memories.length := by
    unfold slotRead at reads
    split at reads <;> first | exact fun _ named => by cases named | cases reads
  have round := @frameStep_simple σ tenant.inst machine.store machine.budget frame pc' instr
    decoded known
  refine ⟨(reachable.owned.owns tenant runs.member).live, ?_, ?_⟩
  · rw [round]
    simp only [ensures_bind, ensures_pure]
    intro budget _
    rw [← heap]
    exact executeSimple_obtains reads
  · intro handle reference budget found slot foreign fuelled
    rw [← heap] at slot foreign
    have refused := @executeSimple_foreign σ tenant.inst machine.store table element handle
      { frame with pc := pc' } instr reference reads found slot foreign
    rw [step_frame current, round, fuelled, ok_bind, refused, error_bind]
    rfl

/-! An instance that fills a slot of a table that it imports, and calls through it. -/

def callsListed : Module where
  types := [{ params := [], results := [] }]
  imports := [{ module := "host", name := "table", desc := .table ⟨⟨1, none⟩⟩ }]
  functionTypeIndices := [0, 0]
  exports := [⟨"run", .function, 1⟩]
  code := [{ locals := [], code := [0x0b] },
    { locals := [], code := [0x41, 0x00, 0x11, 0x00, 0x00, 0x0b] }]
  elements := [{ mode := .active 0 0, functionIndices := [0] }]

def oneTable : HostRegistry Unit where
  functions := []
  globals := []
  tables := [(("host", "table"), ⟨0⟩)]
  memories := []

theorem oneTable_known : oneTable.Known
    ((HandleOp.newTable 1 none).apply (World.start (fun _ => true) ()).heap) := by
  refine ⟨?_, ?_, ?_⟩ <;> intro entry member
  · cases member
  · rw [List.mem_singleton.mp member]
    decide
  · cases member

/-- The instance comes to its call, of the slot 0. -/
theorem callsListed_runs : ∃ (world : World Unit) (tenant : Tenant Unit)
    (machine next : Machine Unit) (frame : GuestFrame),
    world.Runs tenant machine ∧ machine.current = .frame frame ∧ frame.stack = [.i32 0] ∧
      Spec.simpleAt frame.code frame.pc = some (.callIndirect 0 0, 5) ∧
      world.heap.Holds ⟨0, 0⟩ ∧ machine.step tenant.inst = .running next ∧
      next.current = .function 0 [] := by
  have created : World.Step (World.start (fun _ => true) ()) _ := .handle (.newTable 1 none)
  have ready : instantiate callsListed oneTable ⟨26, 1, none, none⟩
      ((HandleOp.newTable 1 none).apply (World.start (fun _ => true) ()).heap) () =
        .ready _ _ := rfl
  have instantiated := (Relation.ReflTransGen.single created).tail
    (.instantiate oneTable_known ready)
  have invoked := instantiated.tail (@World.Step.invoke Unit _ 0 _ "run" [] rfl rfl)
  have entered := invoked.tail (@World.Step.resume Unit _ 0 _ _ rfl rfl)
  have pushed := entered.tail (@World.Step.resume Unit _ 0 _ _ rfl rfl)
  exact ⟨_, _, _, _, _, ⟨⟨_, _, pushed⟩, List.mem_singleton.mpr rfl, _, rfl, rfl⟩, rfl, rfl, rfl,
    .inr ⟨⟨0⟩, List.mem_singleton.mpr rfl⟩, rfl, rfl⟩

/-- The instance has created the reference in the slot, and calls its own function. -/
theorem tables_dispatch_own_calling :
    ∃ (world : World Unit) (tenant : Tenant Unit) (machine next : Machine Unit),
      (∃ before after : World Unit, ¬ before.heap.Holds ⟨0, 0⟩ ∧ World.Acts 0 before after ∧
        World.Steps after world) ∧
      machine.step tenant.inst = .running next ∧ next.current = .function 0 [] ∧
      ∃ handle, tenant.inst.tables[0]? = some handle ∧
        (world.heap.table handle).slots[0]? = some (some (tenant.inst.functionRef 0)) := by
  obtain ⟨world, tenant, machine, next, frame, runs, current, stack, decoded, present, stepped,
    calls⟩ := callsListed_runs
  obtain ⟨created, -, dispatches⟩ := tables_dispatch_own runs.reachable
  obtain ⟨before, after, -, absent, acts, -, later⟩ := created ⟨0, 0⟩ present
  refine ⟨world, tenant, machine, next, ⟨before, after, absent, acts, later⟩, stepped, calls, ?_⟩
  have reads : slotRead (.callIndirect 0 0) frame.stack = some (0, 0) := by
    rw [stack]
    rfl
  obtain ⟨-, obtains, -⟩ := dispatches tenant machine frame _ 5 0 0 runs current decoded reads
  rw [step_frame current] at stepped
  cases ran : frameStep tenant.inst machine.store machine.budget frame with
  | error err =>
    rw [ran] at stepped
    cases stepped
  | ok values =>
    obtain ⟨store, budget, outcome⟩ := values
    obtain ⟨handle, slot, found, holds, obtained⟩ := obtains _ ran
    rw [ran] at stepped
    cases obtained with
    | call same =>
      simp only [Machine.afterRound, Machine.handleOutcome] at stepped
      split_ifs at stepped
      cases stepped
      cases calls
      exact ⟨handle, found, same ▸ holds⟩

end MiniWasm.Runtime
