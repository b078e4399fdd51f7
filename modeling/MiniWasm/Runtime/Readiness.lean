import Mathlib.Data.List.Forall2
import MiniWasm.Runtime.Atomicity
import MiniWasm.Runtime.Evolution
import MiniWasm.Runtime.Scanning
import MiniWasm.Validator.Bodies

/-!
# Instances that were created

What a successful instantiation guarantees of the instance and of its first
store: every index space of the instance is as long as the module declares it,
and the segments were written as a guest step would write them.
-/

namespace MiniWasm.Runtime

open Library

variable {σ : Type}

/-! ## The stages of a success -/

section Stages

variable {module : Module} {hosts : HostRegistry σ} {limits : RuntimeLimits} {host : σ}

theorem collect_ok {α β : Type} {convert : α → Run β} {values : List α} {results : List β}
    (collected : collect convert values = .ok results) :
    List.Forall₂ (fun value result => convert value = .ok result) values results := by
  induction values generalizing results with
  | nil =>
      cases collected
      exact .nil
  | cons value rest ih =>
      simp only [collect, bind_ok, pure_ok, Except.ok.injEq] at collected
      obtain ⟨first, converted, others, remaining, rfl⟩ := collected
      exact .cons converted (ih remaining)

/-- The stages of an instantiation that succeeds. -/
inductive Ready (module : Module) (hosts : HostRegistry σ) (limits : RuntimeLimits)
    (heap : Heap) (host : σ) : Instance σ → Store σ → Prop where
  | intro {controlMaps : List ControlMap} {allocated bound assembled : Heap}
      {memories : List RuntimeMemory} {tables : List TableHandle} {globals : List GlobalHandle}
      {inst : Instance σ} {store : Store σ} :
      Validator.validate module = .ok () →
      validateHostBindings module hosts heap limits = .ok () →
      collect (fun body => buildControlMap body.code module.types) module.code =
        .ok controlMaps →
      instantiateMemories module hosts limits heap = (allocated, .ok memories) →
      instantiateTables module hosts allocated.nextIdentity allocated.newIdentity.2 =
        (bound, .ok tables) →
      instantiateGlobals module hosts bound = (assembled, .ok globals) →
      inst =
        { identity := allocated.nextIdentity, module, controlMaps, tables, globals, hosts
          limits } →
      initializeSegments inst
        { heap := assembled, memories, host
          dataSegments := module.data.map passiveData
          elementSegments := module.elements.map passiveElements } = (store, .ok ()) →
      Ready module hosts limits heap host inst store

theorem instantiate_ready {heap : Heap} {inst : Instance σ} {store : Store σ}
    (ready : instantiate module hosts limits heap host = .ready inst store) :
    Ready module hosts limits heap host inst store := by
  unfold instantiate at ready
  split at ready
  · cases ready
  next valid =>
  split at ready
  · cases ready
  next hostsBound =>
  split at ready
  · cases ready
  next controlMaps scanned =>
  split at ready
  · cases ready
  next allocated memories memoriesReady =>
  dsimp only [Heap.newIdentity] at ready
  split at ready
  · cases ready
  next bound tables tablesReady =>
  split at ready
  · cases ready
  next assembled globals globalsReady =>
  split at ready
  · cases ready
  next segmentsReady =>
  cases ready
  exact .intro valid hostsBound scanned memoriesReady tablesReady globalsReady rfl segmentsReady

theorem Ready.instantiates {heap : Heap} {inst : Instance σ} {store : Store σ}
    (ready : Ready module hosts limits heap host inst store) :
    instantiate module hosts limits heap host = .ready inst store := by
  cases ready with
  | intro valid bound scanned memories tables globals same segments =>
    subst same
    simp only [Runtime.instantiate, valid, bound, scanned, memories, Heap.newIdentity] at tables ⊢
    simp only [tables, globals, segments]

theorem importsOf_length {α : Type} (module : Module) (declared : Import → Option α) :
    (importsOf module declared).length = (module.imports.filterMap declared).length := by
  have same : (importsOf module declared).map Prod.snd = module.imports.filterMap declared := by
    rw [importsOf, List.map_filterMap]
    congr 1
    funext entry
    cases declared entry <;> rfl
  rw [← same, List.length_map]

/-- A stage whose result is converted. -/
theorem stage_map_ok {α β : Type} {stage : Stage α} {convert : α → β} {after : Heap} {result : β}
    (converted : (stage.1, stage.2.map convert) = (after, .ok result)) :
    ∃ value, stage = (after, .ok value) ∧ convert value = result := by
  obtain ⟨heap, outcome⟩ := stage
  cases outcome with
  | error err => cases converted
  | ok value =>
      cases converted
      exact ⟨value, rfl, rfl⟩

theorem instantiateOwnedMemories_length {types : List MemoryType} {heap after : Heap}
    {memories : List RuntimeMemory}
    (created : instantiateOwnedMemories limits types heap = (after, .ok memories)) :
    memories.length = types.length := by
  induction types generalizing heap memories with
  | nil =>
      cases created
      rfl
  | cons type rest ih =>
      unfold instantiateOwnedMemories at created
      split at created
      · cases created
      · obtain ⟨owned, others, rfl⟩ := stage_map_ok created
        rw [List.length_cons, ih others, List.length_cons]

theorem instantiateMemories_length {heap after : Heap} {memories : List RuntimeMemory}
    (created : instantiateMemories module hosts limits heap = (after, .ok memories)) :
    memories.length = module.memoryCount := by
  unfold instantiateMemories at created
  split at created
  · cases created
  next handles imported =>
  obtain ⟨owned, defined, rfl⟩ := stage_map_ok created
  have importedLength := (collect_ok imported).length_eq
  rw [importsOf_length] at importedLength
  rw [List.length_append, List.length_map, ← importedLength,
    instantiateOwnedMemories_length defined]
  rfl

theorem instantiateImportedTables_length {identity : Identity}
    {imports : List (Import × TableType)} {heap after : Heap} {handles : List TableHandle}
    (created : instantiateImportedTables hosts identity imports heap = (after, .ok handles)) :
    handles.length = imports.length := by
  induction imports generalizing heap handles with
  | nil =>
      cases created
      rfl
  | cons entry rest ih =>
      unfold instantiateImportedTables at created
      split at created
      · cases created
      split at created
      · cases created
      next middle _ =>
      obtain ⟨tables, others, rfl⟩ := stage_map_ok created
      rw [List.length_cons, ih others, List.length_cons]

theorem instantiateDefinedTables_length {identity : Identity} {types : List TableType}
    {heap after : Heap} {handles : List TableHandle}
    (created : instantiateDefinedTables identity types heap = (after, .ok handles)) :
    handles.length = types.length := by
  induction types generalizing heap handles with
  | nil =>
      cases created
      rfl
  | cons type rest ih =>
      unfold instantiateDefinedTables at created
      split at created
      · cases created
      dsimp only at created
      split at created
      · cases created
      next middle _ =>
      obtain ⟨tables, others, rfl⟩ := stage_map_ok created
      rw [List.length_cons, ih others, List.length_cons]

theorem instantiateTables_length {identity : Identity} {heap after : Heap}
    {handles : List TableHandle}
    (created : instantiateTables module hosts identity heap = (after, .ok handles)) :
    handles.length = module.tableCount := by
  unfold instantiateTables at created
  split at created
  · cases created
  next middle imported importedReady =>
  obtain ⟨tables, defined, rfl⟩ := stage_map_ok created
  rw [List.length_append, instantiateImportedTables_length importedReady, importsOf_length,
    instantiateDefinedTables_length defined]
  rfl

end Stages

/-! ## Segments -/

section Segments

variable {inst : Instance σ} {issued : FunctionRef → Prop} {store : Store σ}

theorem OwnsTables.evolves {before after : Heap} (owns : OwnsTables inst before)
    (evolves : before.Evolves inst issued after) : OwnsTables inst after where
  owner handle own := (evolves.tableOwner handle).trans (owns.owner handle own)
  live := evolves.live ▸ owns.live

/-- The references of the element segments are issued. -/
def Instance.ElementsIssued (inst : Instance σ) (issued : FunctionRef → Prop) : Prop :=
  ∀ segment ∈ inst.module.elements, ∀ function ∈ segment.functionIndices,
    function ≠ nullFuncrefIndex → inst.Admits issued function

theorem writeEach_evolves {α : Type} {write : Store σ → α → Run (Store σ)} {values : List α}
    {after : Store σ} {result : Run Unit} (invariant : Store σ → Prop)
    (each : ∀ value ∈ values, ∀ store, invariant store →
      Ensures (fun after => store.Evolves inst issued after ∧ invariant after)
        (write store value))
    (holds : invariant store) (written : writeEach write values store = (after, result)) :
    store.Evolves inst issued after ∧ invariant after := by
  induction values generalizing store with
  | nil =>
      cases written
      exact ⟨.refl _, holds⟩
  | cons value rest ih =>
      unfold writeEach at written
      split at written
      · cases written
        exact ⟨.refl _, holds⟩
      · next middle first =>
          obtain ⟨evolves, kept⟩ := each value List.mem_cons_self store holds middle first
          obtain ⟨further, final⟩ :=
            ih (fun value member => each value (List.mem_cons_of_mem _ member)) kept written
          exact ⟨evolves.trans further, final⟩

theorem initializeDataSegments_evolves {after : Store σ} {result : Run Unit}
    (written : initializeDataSegments inst store = (after, result)) :
    store.Evolves inst issued after := by
  unfold initializeDataSegments at written
  split at written
  · cases written
    exact .refl _
  · refine (writeEach_evolves (fun _ => True) (fun segment _ store _ => ?_) trivial written).1
    simp only [and_true]
    unfold writeDataSegment
    split
    · exact withMemoryIndexMut_evolves _
    · exact (ensures_pure _).mpr (.refl _)

theorem writeElementSlot_evolves {handle : TableHandle} {entry : Nat × Nat}
    (own : handle ∈ inst.tables) (owns : OwnsTables inst store.heap)
    (created : entry.2 ≠ nullFuncrefIndex → inst.Admits issued entry.2) :
    Ensures (fun after => store.Evolves inst issued after)
      (writeElementSlot inst handle store entry) := by
  obtain ⟨index, function⟩ := entry
  have bound := TableCell.bind_of_owned (owns.owner handle own) owns.live
  refine .ite (ensures_error _) ?_
  simp only [ensures_bind, ensures_pure]
  intro cell stored
  have stored := tableResult_ok stored
  have stores (slot : Option FunctionRef)
      (stored : (store.heap.table handle).set index slot = .ok cell)
      (issuedSlot : ∀ reference, slot = some reference → issued reference) :
      store.Evolves inst issued { store with heap := store.heap.setTable handle cell } := by
    obtain ⟨owner, slots⟩ := TableCell.set_ok stored
    refine .ofHeap (.setTable owner fun reference present => ?_)
    rw [slots] at present
    rcases List.mem_or_eq_of_mem_set present with old | new
    · exact .inr ⟨handle, old⟩
    · exact .inl (issuedSlot reference new.symm)
  split_ifs at stored with null
  · exact stores none stored fun _ some => by cases some
  · rw [TableCell.setForInstance, bound, ok_bind] at stored
    refine stores _ stored fun reference some => ?_
    cases some
    exact created null

theorem mem_of_mem_slotEntries {start : Nat} {functions : List Nat} {entry : Nat × Nat}
    (member : entry ∈ slotEntries start functions) : entry.2 ∈ functions := by
  induction functions generalizing start with
  | nil => cases member
  | cons function rest ih =>
      rcases List.mem_cons.mp member with rfl | member
      · exact List.mem_cons_self
      · exact List.mem_cons_of_mem _ (ih member)

theorem writeElementSegment_evolves {segment : ElementSegment} {after : Store σ}
    {result : Run Unit} (owns : OwnsTables inst store.heap)
    (created : ∀ function ∈ segment.functionIndices,
      function ≠ nullFuncrefIndex → inst.Admits issued function)
    (written : writeElementSegment inst store segment = (after, result)) :
    store.Evolves inst issued after ∧ OwnsTables inst after.heap := by
  unfold writeElementSegment at written
  split at written
  · split at written
    · cases written
      exact ⟨.refl _, owns⟩
    · next tableIndex offset _ handle found =>
        have own : handle ∈ inst.tables := by
          unfold Instance.tableHandle at found
          split at found
          · next present =>
              cases found
              exact List.mem_of_getElem? present
          · cases found
        refine writeEach_evolves (fun store => OwnsTables inst store.heap) ?_ owns written
        intro entry member store owns
        have issuedEntry := created entry.2 (mem_of_mem_slotEntries member)
        refine (writeElementSlot_evolves own owns issuedEntry).mono fun after evolves => ?_
        exact ⟨evolves, owns.evolves evolves.heap⟩
  · cases written
    exact ⟨.refl _, owns⟩

theorem writeElementSegments_evolves {segments : List ElementSegment} {after : Store σ}
    {result : Run Unit} (owns : OwnsTables inst store.heap)
    (created : ∀ segment ∈ segments, ∀ function ∈ segment.functionIndices,
      function ≠ nullFuncrefIndex → inst.Admits issued function)
    (written : writeElementSegments inst segments store = (after, result)) :
    store.Evolves inst issued after := by
  induction segments generalizing store with
  | nil =>
      cases written
      exact .refl _
  | cons segment rest ih =>
      unfold writeElementSegments at written
      rw [List.forall_mem_cons] at created
      split at written
      · next failed =>
          cases written
          exact (writeElementSegment_evolves owns created.1 failed).1
      · next middle _ first =>
          obtain ⟨evolves, kept⟩ := writeElementSegment_evolves owns created.1 first
          exact evolves.trans (ih kept created.2 written)

/-- The segments are written as a guest step would write them. -/
theorem initializeSegments_evolves {after : Store σ} {result : Run Unit}
    (owns : OwnsTables inst store.heap) (elements : inst.ElementsIssued issued)
    (written : initializeSegments inst store = (after, result)) :
    store.Evolves inst issued after := by
  unfold initializeSegments at written
  split at written
  · cases written
    exact .refl _
  split at written
  · next failed =>
      cases written
      exact initializeDataSegments_evolves failed
  · next middle _ dataWritten =>
      have data : store.Evolves inst issued middle := initializeDataSegments_evolves dataWritten
      refine data.trans ?_
      unfold initializeElementSegments at written
      split at written
      · cases written
        exact .refl _
      · exact writeElementSegments_evolves (owns.evolves data.heap) elements written

end Segments

/-! ## The instance -/

/-- The parts of an instance that never change fit its module. -/
structure Instance.Linked (inst : Instance σ) : Prop where
  accepted : Validator.Accepted inst.module
  controlMaps :
    List.Forall₂
      (fun body controlMap => buildControlMap body.code inst.module.types = .ok controlMap)
      inst.module.code inst.controlMaps
  tableCount : inst.tables.length = inst.module.tableCount

/-- The store has as many memories and segments as the module declares. -/
structure Store.Fits (inst : Instance σ) (store : Store σ) : Prop where
  memoryCount : store.memories.length = inst.module.memoryCount
  dataCount : store.dataSegments.length = inst.module.data.length
  elementCount : store.elementSegments.length = inst.module.elements.length

theorem Store.Fits.evolves {inst : Instance σ} {issued : FunctionRef → Prop}
    {before after : Store σ} (fits : before.Fits inst)
    (evolves : before.Evolves inst issued after) : after.Fits inst where
  memoryCount := evolves.memoryCount.trans fits.memoryCount
  dataCount := evolves.dataCount.trans fits.dataCount
  elementCount := evolves.elementCount.trans fits.elementCount

section Ready

variable {module : Module} {hosts : HostRegistry σ} {limits : RuntimeLimits} {host : σ}
variable {heap : Heap} {inst : Instance σ} {store : Store σ}

theorem Ready.module_eq (ready : Ready module hosts limits heap host inst store) :
    inst.module = module := by
  cases ready with
  | intro _ _ _ _ _ _ same => rw [same]

theorem Ready.linked (ready : Ready module hosts limits heap host inst store) : inst.Linked := by
  cases ready with
  | intro valid _ scanned _ tables _ same =>
      subst same
      exact
        { accepted := Validator.accepted_of_validate valid
          controlMaps := collect_ok scanned
          tableCount := instantiateTables_length tables }

theorem Ready.fits (ready : Ready module hosts limits heap host inst store) : store.Fits inst := by
  cases ready with
  | @intro _ allocated bound assembled memories tables globals _ _ _ _ _ memoriesReady tablesReady
      globalsReady same segments =>
      have tablesBound : TablesBound allocated.nextIdentity _
          (instantiateTables module hosts allocated.nextIdentity allocated.newIdentity.2) :=
        instantiateTables_bound _
      rw [tablesReady] at tablesBound
      have globalsBound : bound.BindsOnly allocated.nextIdentity
          (instantiateGlobals module hosts bound).1 :=
        instantiateGlobals_bindsOnly bound
      rw [globalsReady] at globalsBound
      have owns : OwnsTables inst assembled := by
        subst same
        refine ⟨fun handle member => ?_, ?_⟩
        · exact globalsBound.stayBound _ (tablesBound.2 tables rfl handle member)
        · rw [(tablesBound.1.trans globalsBound).live]
          exact List.mem_cons_self
      have first : Store.Fits inst
          { heap := assembled, memories, host
            dataSegments := module.data.map passiveData
            elementSegments := module.elements.map passiveElements } := by
        subst same
        exact
          { memoryCount := instantiateMemories_length memoriesReady
            dataCount := List.length_map ..
            elementCount := List.length_map .. }
      have everyElement : inst.ElementsIssued fun _ => True := fun _ _ _ _ _ => trivial
      exact first.evolves (initializeSegments_evolves owns everyElement segments)

end Ready

end MiniWasm.Runtime
