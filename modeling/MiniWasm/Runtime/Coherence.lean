import MiniWasm.Runtime.Elements
import MiniWasm.Runtime.Sizes
import MiniWasm.Validator.Spaces

/-!
# The index spaces of an instance

The vectors of an instance, its function types and its host calls go by the index spaces of
the module: an imported entry is what is registered under the name of that import, and a
defined one what instantiation has made of that definition.
-/

namespace MiniWasm.Runtime

open Library

variable {σ : Type}

/-! ## What an entry of a space is in an instance -/

section Entries

variable (module : Module) (hosts : HostRegistry σ) (limits : RuntimeLimits) (heap : Heap)

/-- The table of an entry: the one that the host registered for the import, whose limits have
been checked, or the one that was created for the definition. -/
def IsTable (after : Heap) (type : TableType) (handle : TableHandle) : Origin → Prop
  | .imported position => ∃ entry, module.imports[position]? = some entry ∧
      entry.desc = .table type ∧ importedTable hosts heap entry type = .ok handle
  | .defined position => module.tables[position]? = some type ∧
      handle = ⟨heap.tables.size + position⟩ ∧
      (after.table handle).slots.length = type.limits.min ∧
      (after.table handle).maximum = type.limits.max

def IsMemory (type : MemoryType) (memory : RuntimeMemory) : Origin → Prop
  | .imported position => ∃ entry handle, module.imports[position]? = some entry ∧
      entry.desc = .memory type ∧ importedMemory hosts heap limits entry type = .ok handle ∧
      memory = .imported handle
  | .defined position => module.memories[position]? = some type ∧
      ∃ granted created owned, memory = .owned owned ∧ created.Evolves owned ∧
        LinearMemory.new granted type.limits.min type.limits.max limits.maxMemoryPages =
          .ok created

def IsGlobal (after : Heap) (type : GlobalType) (handle : GlobalHandle) : Origin → Prop
  | .imported position => ∃ entry, module.imports[position]? = some entry ∧
      entry.desc = .global type ∧ importedGlobal hosts heap entry type = .ok handle
  | .defined position => ∃ definition, module.globals[position]? = some definition ∧
      definition.type = type ∧ handle = ⟨heap.globals.size + position⟩ ∧
      after.global handle =
        GlobalCell.new (valueFromConstant definition.init) definition.type.mutable

/-- The function of an entry: a call of the callback that the host registered for the import
with the type of the entry, or of the body of the definition. -/
def IsFunction (inst : Instance σ) (index typeIndex : Nat) : Origin → Prop
  | .imported position => ∃ entry type host, module.imports[position]? = some entry ∧
      entry.desc = .function typeIndex ∧ module.types[typeIndex]? = some type ∧
      findKey hosts.functions entry.key = some host ∧ host.params = type.params ∧
      host.results = type.results ∧ index < module.functionImportCount ∧
      ∀ args budget called, inst.prepareHost index args budget = .ok called →
        called.2 = (entry, type, host)
  | .defined position => ∃ type body, module.functionTypeIndices[position]? = some typeIndex ∧
      module.types[typeIndex]? = some type ∧ module.code[position]? = some body ∧
      ¬ index < module.functionImportCount ∧
      ∀ args frame, inst.prepareGuestFrame index args = .ok frame → frame.code = body.code ∧
        validateValues type.params args = .ok ()

end Entries

theorem IsMemory.evolves {module : Module} {hosts : HostRegistry σ} {limits : RuntimeLimits}
    {heap : Heap} {type : MemoryType} {memory next : RuntimeMemory} {origin : Origin}
    (isMemory : IsMemory module hosts limits heap type memory origin)
    (evolves : memory.Evolves next) : IsMemory module hosts limits heap type next origin := by
  cases origin with
  | imported position =>
    obtain ⟨entry, handle, at_, desc, checked, rfl⟩ := isMemory
    cases evolves
    exact ⟨entry, handle, at_, desc, checked, rfl⟩
  | defined position =>
    obtain ⟨at_, granted, created, owned, rfl, before, made⟩ := isMemory
    cases evolves with
    | owned after => exact ⟨at_, granted, created, _, rfl, before.trans after, made⟩

/-- The bytes that a memory of an instance has before its segments are applied: those of the
host's memory, or zeros. -/
def RuntimeMemory.initialBytes (heap : Heap) (type : MemoryType) : RuntimeMemory → List UInt8
  | .imported handle => (heap.memory handle).memory.bytes
  | .owned _ => List.replicate (type.limits.min * wasmPageSize) 0

theorem RuntimeMemory.Evolves.initialBytes {heap : Heap} {type : MemoryType}
    {memory next : RuntimeMemory} (evolves : memory.Evolves next) :
    memory.initialBytes heap type = next.initialBytes heap type := by
  cases evolves <;> rfl

/-- What the instance finds at an index is what the entry of the space stands for, and a memory
holds its initial bytes, overlaid with those of the active data segments for it. -/
structure Instance.Coherent (module : Module) (hosts : HostRegistry σ) (limits : RuntimeLimits)
    (heap : Heap) (inst : Instance σ) (store : Store σ) : Prop where
  functionType : ∀ (index : Nat) type, inst.functionType index = .ok type ↔
    (module.functionSpace[index]?.map Prod.snd).bind (module.types[·]?) = some type
  functions : ∀ (index : Nat) origin typeIndex,
    module.functionSpace[index]? = some (origin, typeIndex) →
    IsFunction module hosts inst index typeIndex origin
  tableCount : inst.tables.length = module.tableSpace.length
  tables : ∀ (index : Nat) origin type, module.tableSpace[index]? = some (origin, type) →
    ∃ handle, inst.tables[index]? = some handle ∧
      IsTable module hosts heap store.heap type handle origin
  memoryCount : store.memories.length = module.memorySpace.length
  memories : ∀ (index : Nat) origin type, module.memorySpace[index]? = some (origin, type) →
    ∃ memory, store.memories[index]? = some memory ∧
      IsMemory module hosts limits heap type memory origin ∧
      Overlaid (memory.initialBytes heap type) (module.data.filterMap (store.dataWrite index))
        (store.linearMemory memory).bytes
  globalCount : inst.globals.length = module.globalSpace.length
  globals : ∀ (index : Nat) origin type, module.globalSpace[index]? = some (origin, type) →
    ∃ handle, inst.globals[index]? = some handle ∧
      IsGlobal module hosts heap store.heap type handle origin

/-! ## Bindings -/

theorem forEach_ok {α : Type} {check : α → Run Unit} {values : List α}
    (checked : forEach check values = .ok ()) : ∀ value ∈ values, check value = .ok () := by
  induction values with
  | nil => simp
  | cons value rest ih =>
    obtain ⟨_, first, others⟩ := bind_ok.mp checked
    intro other member
    obtain rfl | member := List.mem_cons.mp member
    · exact first
    · exact ih others other member

section Keys

variable {hosts : HostRegistry σ} {limits : RuntimeLimits} {heap : Heap} {entry : Import}

theorem importedTable_key {type : TableType} {handle : TableHandle}
    (found : importedTable hosts heap entry type = .ok handle) :
    findKey hosts.tables entry.key = some handle := by
  unfold importedTable at found
  split at found
  · cases found
  · next other registered =>
    obtain ⟨_, -, returned⟩ := bind_ok.mp found
    cases returned
    exact registered

theorem importedGlobal_key {type : GlobalType} {handle : GlobalHandle}
    (found : importedGlobal hosts heap entry type = .ok handle) :
    findKey hosts.globals entry.key = some handle := by
  unfold importedGlobal at found
  split at found
  · cases found
  · next other registered =>
    obtain ⟨_, -, returned⟩ := bind_ok.mp found
    cases returned
    exact registered

end Keys

/-- A check of bindings that returns what it found. -/
theorem found_of_forEach {α β : Type} {find : α → Run β} {values : List α}
    (checked : forEach (fun value => do let _ ← find value) values = .ok ()) {value : α}
    (member : value ∈ values) : ∃ found, find value = .ok found := by
  obtain ⟨found, returned, -⟩ := bind_ok.mp (forEach_ok checked value member)
  exact ⟨found, returned⟩

theorem forall₂_of_mem {α β : Type} {first second : α → β → Prop} {left : List α} {right : List β}
    (related : List.Forall₂ first left right)
    (each : ∀ value ∈ left, ∀ other, first value other → second value other) :
    List.Forall₂ second left right := by
  induction related with
  | nil => exact .nil
  | cons head _ ih =>
    refine .cons (each _ List.mem_cons_self _ head) (ih fun value member => ?_)
    exact each value (List.mem_cons_of_mem _ member)

theorem forall₂_at {α β : Type} {relation : α → β → Prop} {left : List α} {right : List β}
    (related : List.Forall₂ relation left right) {index : Nat} {value : α}
    (found : left[index]? = some value) : ∃ other, right[index]? = some other ∧
      relation value other := by
  obtain ⟨inside, rfl⟩ := List.getElem?_eq_some_iff.mp found
  have bound : index < right.length := related.length_eq ▸ inside
  exact ⟨right[index], List.getElem?_eq_getElem bound, related.get inside bound⟩

theorem desc_of_tableType {entry : Import} {type : TableType}
    (declares : entry.tableType = some type) : entry.desc = .table type := by
  unfold Import.tableType at declares
  split at declares
  · cases declares
    assumption
  · cases declares

theorem desc_of_memoryType {entry : Import} {type : MemoryType}
    (declares : entry.memoryType = some type) : entry.desc = .memory type := by
  unfold Import.memoryType at declares
  split at declares
  · cases declares
    assumption
  · cases declares

theorem desc_of_globalType {entry : Import} {type : GlobalType}
    (declares : entry.globalType = some type) : entry.desc = .global type := by
  unfold Import.globalType at declares
  split at declares
  · cases declares
    assumption
  · cases declares

theorem desc_of_functionTypeIndex {entry : Import} {typeIndex : Nat}
    (declares : entry.functionTypeIndex = some typeIndex) : entry.desc = .function typeIndex := by
  unfold Import.functionTypeIndex at declares
  split at declares
  · cases declares
    assumption
  · cases declares

/-! ## The vectors as they are created -/

section Creation

variable {module : Module} {hosts : HostRegistry σ} {limits : RuntimeLimits}

/-- A vector with an entry for each import of a kind and then for each definition. -/
theorem vector_at {α β : Type} {declared : Import → Option α} {definitions : List α}
    (isEntry : α → β → Origin → Prop) {imported defined : List β}
    (handles : List.Forall₂
      (fun entry value => ∀ position, module.imports[position]? = some entry.1 →
        isEntry entry.2 value (.imported position)) (importsOf module declared) imported)
    (own : ∀ (position : Nat) type, definitions[position]? = some type →
      ∃ value, defined[position]? = some value ∧ isEntry type value (.defined position))
    (index : Nat) (origin : Origin) (type : α)
    (found : (indexSpace declared module.imports definitions)[index]? = some (origin, type)) :
    ∃ value, (imported ++ defined)[index]? = some value ∧ isEntry type value origin := by
  cases origin with
  | imported position =>
    obtain ⟨entry, at_, -, listed⟩ := indexSpace_imported declared found
    obtain ⟨value, placed, each⟩ := forall₂_at handles listed
    have bound := (List.getElem?_eq_some_iff.mp placed).1
    refine ⟨value, ?_, each position at_⟩
    rw [List.getElem?_append_left bound]
    exact placed
  | defined position =>
    obtain ⟨at_, rfl⟩ := indexSpace_defined declared found
    obtain ⟨value, placed, isDefined⟩ := own position type at_
    refine ⟨value, ?_, isDefined⟩
    have length : imported.length = (declarations declared module.imports).length :=
      handles.length_eq.symm
    rw [← length, List.getElem?_append_right (Nat.le_add_right ..), Nat.add_sub_cancel_left]
    exact placed

/-! Tables. -/

/-- Binding a table changes its owner. -/
theorem bindTable_shape {heap after : Heap} {handle : TableHandle} {identity : Identity}
    {mapError : TableHandleError → RuntimeError}
    (bound : bindTable heap handle identity mapError = .ok after) :
    after.globals = heap.globals ∧ after.tables.size = heap.tables.size ∧
      (∀ address, address ≠ handle.address →
        after.tables.get address = heap.tables.get address) ∧
      (after.table handle).slots = (heap.table handle).slots ∧
      (after.table handle).maximum = (heap.table handle).maximum := by
  unfold bindTable at bound
  split at bound
  · next cell binds =>
    cases bound
    obtain ⟨slots, maximum, -⟩ := TableCell.bind_ok binds
    refine ⟨rfl, heap.tables.size_set .., fun address other => ?_, ?_, ?_⟩
    · exact heap.tables.get_set_of_ne cell other
    · rw [Heap.table_setTable, slots]
    · rw [Heap.table_setTable, maximum]
  · cases bound

theorem TableCell.new_shape {granted : Bool} {minimum : Nat} {maximum : Option Nat}
    {cell : TableCell} (created : TableCell.new granted minimum maximum = .ok cell) :
    cell.slots.length = minimum ∧ cell.maximum = maximum := by
  unfold TableCell.new at created
  split_ifs at created
  cases created
  exact ⟨List.length_replicate, rfl⟩

theorem instantiateImportedTables_keys {identity : Identity} {entries : List (Import × TableType)}
    {heap after : Heap} {handles : List TableHandle}
    (bound : instantiateImportedTables hosts identity entries heap = (after, .ok handles)) :
    List.Forall₂ (fun entry handle => findKey hosts.tables entry.1.key = some handle) entries
        handles ∧
      after.globals = heap.globals ∧ after.tables.size = heap.tables.size := by
  induction entries generalizing heap handles with
  | nil =>
    cases bound
    exact ⟨.nil, rfl, rfl⟩
  | cons entry rest ih =>
    unfold instantiateImportedTables at bound
    split at bound
    · cases bound
    · next handle found =>
      split at bound
      · cases bound
      · next middle binds =>
        obtain ⟨others, remaining, rfl⟩ := stage_map_ok bound
        obtain ⟨keys, globals, size⟩ := ih remaining
        obtain ⟨sameGlobals, sameSize, -⟩ := bindTable_shape binds
        exact ⟨.cons (importedTable_key found) keys, globals.trans sameGlobals,
          size.trans sameSize⟩

theorem instantiateDefinedTables_made {identity : Identity} {types : List TableType}
    {heap after : Heap} {handles : List TableHandle}
    (made : instantiateDefinedTables identity types heap = (after, .ok handles)) :
    (∀ position type, types[position]? = some type →
      handles[position]? = some ⟨heap.tables.size + position⟩ ∧
      (after.table ⟨heap.tables.size + position⟩).slots.length = type.limits.min ∧
      (after.table ⟨heap.tables.size + position⟩).maximum = type.limits.max) ∧
    after.globals = heap.globals ∧
    ∀ address < heap.tables.size, after.tables.get address = heap.tables.get address := by
  induction types generalizing heap handles with
  | nil =>
    cases made
    exact ⟨fun position type found => by simp at found, rfl, fun _ _ => rfl⟩
  | cons first rest ih =>
    unfold instantiateDefinedTables at made
    split at made
    · cases made
    · next cell created =>
      dsimp only at made
      split at made
      · cases made
      · next middle binds =>
        obtain ⟨others, remaining, rfl⟩ := stage_map_ok made
        obtain ⟨later, globals, kept⟩ := ih remaining
        obtain ⟨sameGlobals, sameSize, untouched, slots, maximum⟩ := bindTable_shape binds
        have size : middle.tables.size = heap.tables.size + 1 := sameSize
        have fresh : (heap.tick.newTable cell).2.table (heap.tick.newTable cell).1 = cell :=
          (heap.tables.get_alloc heap.tables.size cell).trans (if_pos rfl)
        rw [fresh] at slots maximum
        obtain ⟨length, limit⟩ := TableCell.new_shape created
        refine ⟨fun position type found => ?_, globals.trans sameGlobals, fun address existed => ?_⟩
        · cases position with
          | zero =>
            cases found
            have own : after.table ⟨heap.tables.size⟩ = middle.table ⟨heap.tables.size⟩ :=
              kept heap.tables.size (by omega)
            rw [Nat.add_zero, own]
            exact ⟨rfl, (congrArg List.length slots).trans length, maximum.trans limit⟩
          | succ position =>
            have place : heap.tables.size + (position + 1) = middle.tables.size + position := by
              omega
            rw [place]
            exact later position type found
        · rw [kept address (by omega), untouched address (Nat.ne_of_lt existed)]
          exact heap.tables.get_alloc_of_lt cell existed

theorem instantiateTables_made {identity : Identity} {heap after : Heap}
    {tables : List TableHandle}
    (created : instantiateTables module hosts identity heap = (after, .ok tables)) :
    ∃ imported defined, tables = imported ++ defined ∧
      List.Forall₂ (fun entry handle => findKey hosts.tables entry.1.key = some handle)
        (importsOf module Import.tableType) imported ∧
      after.globals = heap.globals ∧
      ∀ position type, module.tables[position]? = some type →
        defined[position]? = some ⟨heap.tables.size + position⟩ ∧
        (after.table ⟨heap.tables.size + position⟩).slots.length = type.limits.min ∧
        (after.table ⟨heap.tables.size + position⟩).maximum = type.limits.max := by
  unfold instantiateTables at created
  split at created
  · cases created
  · next middle imported bound =>
    obtain ⟨defined, made, rfl⟩ := stage_map_ok created
    obtain ⟨keys, globals, size⟩ := instantiateImportedTables_keys bound
    obtain ⟨each, sameGlobals, -⟩ := instantiateDefinedTables_made made
    rw [size] at each
    exact ⟨imported, defined, rfl, keys, sameGlobals.trans globals, each⟩

/-! Globals. -/

theorem instantiateDefinedGlobals_made (definitions : List Global) (heap : Heap) :
    (∀ position definition, definitions[position]? = some definition →
      (instantiateDefinedGlobals definitions heap).2[position]? =
        some ⟨heap.globals.size + position⟩ ∧
      (instantiateDefinedGlobals definitions heap).1.global ⟨heap.globals.size + position⟩ =
        GlobalCell.new (valueFromConstant definition.init) definition.type.mutable) ∧
    (instantiateDefinedGlobals definitions heap).1.tables = heap.tables ∧
    ∀ address < heap.globals.size,
      (instantiateDefinedGlobals definitions heap).1.globals.get address =
        heap.globals.get address := by
  induction definitions generalizing heap with
  | nil => exact ⟨fun position definition found => by simp at found, rfl, fun _ _ => rfl⟩
  | cons first rest ih =>
    let cell := GlobalCell.new (valueFromConstant first.init) first.type.mutable
    obtain ⟨later, tables, kept⟩ := ih (heap.newGlobal cell).2
    have size : (heap.newGlobal cell).2.globals.size = heap.globals.size + 1 := rfl
    refine ⟨fun position definition found => ?_, tables, fun address existed => ?_⟩
    · cases position with
      | zero =>
        cases found
        refine ⟨rfl, (kept heap.globals.size (by omega)).trans ?_⟩
        exact (heap.globals.get_alloc heap.globals.size cell).trans (if_pos rfl)
      | succ position =>
        have place : heap.globals.size + (position + 1) =
            (heap.newGlobal cell).2.globals.size + position := by
          omega
        rw [place]
        exact later position definition found
    · exact (kept address (by omega)).trans (heap.globals.get_alloc_of_lt cell existed)

theorem instantiateDefinedGlobals_length (definitions : List Global) (heap : Heap) :
    (instantiateDefinedGlobals definitions heap).2.length = definitions.length := by
  induction definitions generalizing heap with
  | nil => rfl
  | cons first rest ih => exact congrArg Nat.succ (ih _)

theorem instantiateGlobals_made {heap after : Heap} {globals : List GlobalHandle}
    (created : instantiateGlobals module hosts heap = (after, .ok globals)) :
    ∃ imported defined, globals = imported ++ defined ∧
      List.Forall₂ (fun entry handle => findKey hosts.globals entry.1.key = some handle)
        (importsOf module Import.globalType) imported ∧
      after.tables = heap.tables ∧ defined.length = module.globals.length ∧
      ∀ position definition, module.globals[position]? = some definition →
        defined[position]? = some ⟨heap.globals.size + position⟩ ∧
        after.global ⟨heap.globals.size + position⟩ =
          GlobalCell.new (valueFromConstant definition.init) definition.type.mutable := by
  unfold instantiateGlobals at created
  split at created
  · cases created
  · next imported collected =>
    cases created
    obtain ⟨each, tables, -⟩ := instantiateDefinedGlobals_made module.globals heap
    exact ⟨imported, _, rfl, (collect_ok collected).imp fun _ _ found => importedGlobal_key found,
      tables, instantiateDefinedGlobals_length .., each⟩

/-! Memories. -/

theorem instantiateOwnedMemories_made {types : List MemoryType} {heap after : Heap}
    {memories : List RuntimeMemory}
    (created : instantiateOwnedMemories limits types heap = (after, .ok memories)) :
    List.Forall₂ (fun type memory => ∃ granted owned, memory = .owned owned ∧
      LinearMemory.new granted type.limits.min type.limits.max limits.maxMemoryPages =
        .ok owned) types memories := by
  induction types generalizing heap memories with
  | nil =>
    cases created
    exact .nil
  | cons type rest ih =>
    unfold instantiateOwnedMemories at created
    split at created
    · cases created
    · next memory made =>
      obtain ⟨others, remaining, rfl⟩ := stage_map_ok created
      exact .cons ⟨_, memory, rfl, made⟩ (ih remaining)

theorem instantiateMemories_made {heap after : Heap} {memories : List RuntimeMemory}
    (created : instantiateMemories module hosts limits heap = (after, .ok memories)) :
    ∃ handles owned, memories = handles.map .imported ++ owned ∧
      List.Forall₂ (fun entry handle => importedMemory hosts heap limits entry.1 entry.2 =
        .ok handle) (importsOf module Import.memoryType) handles ∧
      List.Forall₂ (fun type memory => ∃ granted owned, memory = .owned owned ∧
        LinearMemory.new granted type.limits.min type.limits.max limits.maxMemoryPages =
          .ok owned) module.memories owned := by
  unfold instantiateMemories at created
  split at created
  · cases created
  · next handles collected =>
    obtain ⟨owned, made, rfl⟩ := stage_map_ok created
    exact ⟨handles, owned, rfl, collect_ok collected, instantiateOwnedMemories_made made⟩

theorem LinearMemory.new_bytes {granted : Bool} {minimum : Nat} {maximum : Option Nat}
    {runtimeMax : Nat} {memory : LinearMemory}
    (created : LinearMemory.new granted minimum maximum runtimeMax = .ok memory) :
    memory.bytes = List.replicate (minimum * wasmPageSize) 0 := by
  unfold LinearMemory.new at created
  dsimp only at created
  split_ifs at created
  cases created
  rfl

/-! ## The segments -/

/-- Tables keep their sizes, and globals their values. -/
structure Store.SameShapes (before after : Store σ) : Prop where
  length : ∀ handle, (after.heap.table handle).slots.length =
    (before.heap.table handle).slots.length
  maximum : ∀ handle, (after.heap.table handle).maximum = (before.heap.table handle).maximum
  globals : after.heap.globals = before.heap.globals

theorem Store.SameShapes.refl (store : Store σ) : store.SameShapes store :=
  ⟨fun _ => rfl, fun _ => rfl, rfl⟩

theorem Store.SameShapes.trans {first second third : Store σ} (before : first.SameShapes second)
    (after : second.SameShapes third) : first.SameShapes third :=
  ⟨fun handle => (after.length handle).trans (before.length handle),
    fun handle => (after.maximum handle).trans (before.maximum handle),
    after.globals.trans before.globals⟩

theorem setMemoryAt_shapes (store : Store σ) (index : Nat) (memory : LinearMemory) :
    store.SameShapes (store.setMemoryAt index memory) := by
  unfold Store.setMemoryAt
  split
  · exact ⟨fun _ => rfl, fun _ => rfl, rfl⟩
  · exact ⟨fun _ => rfl, fun _ => rfl, rfl⟩
  · exact .refl store

theorem writeDataSegment_shapes (segment : DataSegment) (store : Store σ) :
    Ensures store.SameShapes (writeDataSegment store segment) := by
  unfold writeDataSegment
  split
  · simp only [Store.withMemoryIndexMut, ensures_bind, ensures_pure]
    intro memory _ written _
    exact setMemoryAt_shapes ..
  · exact (ensures_pure _).mpr (.refl store)

theorem writeElementSlot_shapes {inst : Instance σ} (handle : TableHandle) (entry : Nat × Nat)
    (store : Store σ) : Ensures store.SameShapes (writeElementSlot inst handle store entry) := by
  intro after written
  obtain ⟨cell, rfl, -, slots, maximum⟩ := writeElementSlot_cell written
  have table (other : TableHandle) : (store.heap.setTable handle cell).table other =
      if other.address = handle.address then cell else store.heap.table other :=
    store.heap.tables.get_set ..
  have same {other : TableHandle} (address : other.address = handle.address) :
      store.heap.table other = store.heap.table handle :=
    congrArg store.heap.tables.get address
  refine ⟨fun other => ?_, fun other => ?_, rfl⟩
  · rw [table]
    split_ifs with address
    · rw [slots, List.length_set, same address]
    · rfl
  · rw [table]
    split_ifs with address
    · rw [maximum, same address]
    · rfl

theorem initializeSegments_shapes (inst : Instance σ) (store : Store σ) :
    store.SameShapes (initializeSegments inst store).1 :=
  initializeSegments_lift .refl .trans writeDataSegment_shapes writeElementSlot_shapes store

/-! ## The whole -/

theorem validateFunctionBinding_ok {entry : Import}
    (bound : validateFunctionBinding hosts module entry = .ok ()) :
    ∃ host type, findKey hosts.functions entry.key = some host ∧
      entry.functionTypeIndex.bind (module.types[·]?) = some type ∧
      host.params = type.params ∧ host.results = type.results := by
  unfold validateFunctionBinding at bound
  split at bound
  · cases bound
  · next host registered =>
    split at bound
    · cases bound
    · next type declared =>
      split_ifs at bound with differs
      rw [not_or, not_not, not_not] at differs
      exact ⟨host, type, registered, declared, differs⟩

theorem functions_coherent {heap : Heap} {inst : Instance σ}
    (valid : Validator.Accepted module)
    (bound : validateHostBindings module hosts heap limits = .ok ())
    (sameModule : inst.module = module) (sameHosts : inst.hosts = hosts) (index typeIndex : Nat)
    (origin : Origin) (found : module.functionSpace[index]? = some (origin, typeIndex)) :
    IsFunction module hosts inst index typeIndex origin := by
  have count : module.functionImportCount =
      (declarations Import.functionTypeIndex module.imports).length := by
    rw [functionImportCount_eq, ← declarations_types, List.length_map]
  cases origin with
  | imported position =>
    obtain ⟨entry, at_, declares, listed⟩ := indexSpace_imported _ found
    have inside := (List.getElem?_eq_some_iff.mp listed).1
    have registered : entry ∈ module.functionImports := by
      rw [functionImports_eq]
      exact List.mem_map_of_mem (List.mem_of_getElem? listed)
    simp only [validateHostBindings, bind_ok] at bound
    obtain ⟨_, functionBindings, -⟩ := bound
    obtain ⟨host, type, key, typed, params, results⟩ :=
      validateFunctionBinding_ok (forEach_ok functionBindings entry registered)
    rw [declares] at typed
    refine ⟨entry, type, host, at_, desc_of_functionTypeIndex declares, typed, key, params,
      results, count ▸ inside, fun args budget called prepared => ?_⟩
    have lookup := (module_coherent module).functionImports index position typeIndex found
    have typed : module.types[typeIndex]? = some type := typed
    unfold Instance.prepareHost at prepared
    rw [sameModule, sameHosts, lookup, at_] at prepared
    obtain ⟨budget, -, prepared⟩ := bind_ok.mp prepared
    dsimp only at prepared
    rw [declares] at prepared
    dsimp only at prepared
    rw [typed] at prepared
    obtain ⟨_, -, prepared⟩ := bind_ok.mp prepared
    rw [key] at prepared
    cases prepared
    rfl
  | defined position =>
    obtain ⟨at_, place⟩ := indexSpace_defined _ found
    rw [← count] at place
    have beyond : ¬ index < module.functionImportCount := by omega
    have defined : index - module.functionImportCount = position := by omega
    obtain ⟨type, typed⟩ := Validator.typeOf_defined valid at_
    obtain ⟨body, coded⟩ := Validator.code_of_defined valid at_
    refine ⟨type, body, at_, typed, coded, beyond, fun args frame prepared => ?_⟩
    unfold Instance.prepareGuestFrame at prepared
    dsimp only at prepared
    rw [sameModule, if_neg beyond, defined, at_] at prepared
    dsimp only at prepared
    rw [typed] at prepared
    dsimp only at prepared
    obtain ⟨_, validated, prepared⟩ := bind_ok.mp prepared
    rw [coded] at prepared
    split at prepared
    · next other controlMap first _ =>
      obtain rfl := Option.some.inj first
      split at prepared
      · cases prepared
      · cases prepared
        exact ⟨rfl, validated⟩
    · cases prepared

/-- The tables that the instance collects and makes are those of the table space, in every later
heap that keeps their shapes. -/
theorem tables_coherent {heap before after final : Heap} {identity : Identity}
    {tables : List TableHandle}
    (bindings : validateHostBindings module hosts heap limits = .ok ())
    (created : instantiateTables module hosts identity before = (after, .ok tables))
    (size : before.tables.size = heap.tables.size)
    (sameLength : ∀ handle, (final.table handle).slots.length = (after.table handle).slots.length)
    (sameMaximum : ∀ handle, (final.table handle).maximum = (after.table handle).maximum)
    (index : Nat) (origin : Origin) (type : TableType)
    (found : module.tableSpace[index]? = some (origin, type)) :
    ∃ handle, tables[index]? = some handle ∧
      IsTable module hosts heap final type handle origin := by
  obtain ⟨imported, defined, rfl, keys, -, made⟩ := instantiateTables_made created
  simp only [validateHostBindings, bind_ok] at bindings
  obtain ⟨_, -, _, tableBindings, -⟩ := bindings
  refine vector_at (IsTable module hosts heap final) ?_ ?_ index origin type found
  · refine forall₂_of_mem keys fun entry member handle key position at_ => ?_
    obtain ⟨registered, checked⟩ := found_of_forEach tableBindings member
    obtain rfl : handle = registered := Option.some.inj (key.symm.trans (importedTable_key checked))
    exact ⟨entry.1, at_, desc_of_tableType (declared_of_mem _ member), checked⟩
  · intro position type at_
    obtain ⟨placed, length, maximum⟩ := made position type at_
    rw [size] at placed length maximum
    exact ⟨_, placed, at_, rfl, (sameLength _).trans length, (sameMaximum _).trans maximum⟩

/-- The globals that the instance collects and makes are those of the global space, in every
later heap that keeps the cells. -/
theorem globals_coherent {heap before after final : Heap} {globals : List GlobalHandle}
    (bindings : validateHostBindings module hosts heap limits = .ok ())
    (created : instantiateGlobals module hosts before = (after, .ok globals))
    (size : before.globals.size = heap.globals.size) (same : final.globals = after.globals)
    (index : Nat) (origin : Origin) (type : GlobalType)
    (found : module.globalSpace[index]? = some (origin, type)) :
    ∃ handle, globals[index]? = some handle ∧
      IsGlobal module hosts heap final type handle origin := by
  obtain ⟨imported, defined, rfl, keys, -, -, made⟩ := instantiateGlobals_made created
  simp only [validateHostBindings, bind_ok] at bindings
  obtain ⟨_, -, _, -, _, -, globalBindings⟩ := bindings
  refine vector_at (IsGlobal module hosts heap final) ?_ ?_ index origin type found
  · refine forall₂_of_mem keys fun entry member handle key position at_ => ?_
    obtain ⟨registered, checked⟩ := found_of_forEach globalBindings member
    obtain rfl : handle = registered :=
      Option.some.inj (key.symm.trans (importedGlobal_key checked))
    exact ⟨entry.1, at_, desc_of_globalType (declared_of_mem _ member), checked⟩
  · intro position type listed
    rw [List.getElem?_map] at listed
    obtain ⟨definition, at_, rfl⟩ := Option.map_eq_some_iff.mp listed
    obtain ⟨placed, cell⟩ := made position definition at_
    rw [size] at placed cell
    refine ⟨_, placed, definition, at_, rfl, rfl, ?_⟩
    rw [Heap.global, same]
    exact cell

/-- Before the segments every memory of the memory space holds its initial bytes. -/
theorem memories_coherent {heap allocated : Heap} {memories : List RuntimeMemory} {start : Store σ}
    (created : instantiateMemories module hosts limits heap = (allocated, .ok memories))
    (cells : start.heap.memories = heap.memories) (index : Nat) (origin : Origin)
    (type : MemoryType) (found : module.memorySpace[index]? = some (origin, type)) :
    ∃ memory, memories[index]? = some memory ∧
      IsMemory module hosts limits heap type memory origin ∧
      (start.linearMemory memory).bytes = memory.initialBytes heap type := by
  obtain ⟨handles, owned, rfl, keys, made⟩ := instantiateMemories_made created
  refine vector_at (fun type memory origin => IsMemory module hosts limits heap type memory origin ∧
    (start.linearMemory memory).bytes = memory.initialBytes heap type) ?_ ?_ index origin type found
  · rw [List.forall₂_map_right_iff]
    refine forall₂_of_mem keys fun entry member handle checked position at_ => ?_
    exact ⟨⟨entry.1, handle, at_, desc_of_memoryType (declared_of_mem _ member), checked, rfl⟩,
      congrArg (fun memories => (memories.get handle.address).memory.bytes) cells⟩
  · intro position type at_
    obtain ⟨memory, placed, granted, created, rfl, grows⟩ := forall₂_at made at_
    exact ⟨_, placed, ⟨at_, granted, created, created, rfl, .refl created, grows⟩,
      LinearMemory.new_bytes grows⟩

/-- The active data segments put their bytes over those initial bytes. -/
theorem memories_overlaid {heap allocated : Heap} {inst : Instance σ} {start store : Store σ}
    (created : instantiateMemories module hosts limits heap = (allocated, .ok start.memories))
    (cells : start.heap.memories = heap.memories) (same : inst.module = module)
    (initialized : initializeSegments inst start = (store, .ok ())) (index : Nat)
    (origin : Origin) (type : MemoryType)
    (found : module.memorySpace[index]? = some (origin, type)) :
    ∃ memory, store.memories[index]? = some memory ∧
      IsMemory module hosts limits heap type memory origin ∧
      Overlaid (memory.initialBytes heap type) (module.data.filterMap (store.dataWrite index))
        (store.linearMemory memory).bytes := by
  have memoriesKept := initializeSegments_memories inst start
  rw [initialized] at memoriesKept
  obtain ⟨created, placed, isMemory, initial⟩ :=
    memories_coherent created cells index origin type found
  obtain ⟨memory, held, evolves⟩ := forall₂_at memoriesKept.memories placed
  have applied := initializeSegments_applied initialized
  obtain ⟨result, present, overlaid⟩ := applied.memories index _
    (Store.memoryAt_ok_iff.mpr (congrArg (Option.map _) placed))
  rw [Store.memoryAt_ok_iff, held, Option.map_some, Option.some.injEq] at present
  subst present
  refine ⟨memory, held, isMemory.evolves evolves, ?_⟩
  rw [Store.dataWrite_congr applied.sameMemory, ← evolves.initialBytes, ← same]
  exact initial ▸ overlaid

theorem instance_coherent {heap : Heap} {host : σ} {inst : Instance σ} {store : Store σ}
    (ready : instantiate module hosts limits heap host = .ready inst store) :
    inst.Coherent module hosts limits heap store := by
  obtain @⟨controlMaps, allocated, bound, assembled, memories, tables, globals, _, _, valid,
    bindings, scanned, memoriesReady, tablesReady, globalsReady, same, initialized⟩ :=
      instantiate_ready ready
  obtain ⟨start, rfl, rfl, segments⟩ : ∃ start : Store σ, start.heap = assembled ∧
      start.memories = memories ∧ initializeSegments inst start = (store, .ok ()) :=
    ⟨_, rfl, rfl, initialized⟩
  have shapes := initializeSegments_shapes inst start
  rw [segments] at shapes
  have coherent := module_coherent module
  have fits := (instantiate_ready ready).fits
  have linked := (instantiate_ready ready).linked
  subst same
  obtain ⟨granted, rfl⟩ : ∃ granted, allocated = { heap with granted } := by
    have := @instantiateMemories_heap σ module hosts limits heap
    rwa [memoriesReady] at this
  obtain ⟨_, _, -, -, tableGlobals, -⟩ := instantiateTables_made tablesReady
  obtain ⟨importedGlobals, definedGlobals, joined, globalKeys, globalTables, globalLength, -⟩ :=
    instantiateGlobals_made globalsReady
  have cells : start.heap.memories = heap.memories := by
    have ofTables := (instantiateTables_memories module hosts { heap with granted }.nextIdentity
      { heap with granted }.newIdentity.2).1
    have ofGlobals := (instantiateGlobals_memories module hosts bound).1
    rw [tablesReady] at ofTables
    rw [globalsReady] at ofGlobals
    exact ofGlobals.trans ofTables
  have sameTable (handle : TableHandle) : start.heap.table handle = bound.table handle :=
    congrArg (fun tables => tables.get handle.address) globalTables
  refine
    { functionType := ?_, functions := ?_, tableCount := ?_, tables := ?_, memoryCount := ?_
      memories := ?_, globalCount := ?_, globals := ?_ }
  · intro index type
    rw [← functionType_eq]
    unfold Instance.functionType
    cases module.functionType index <;> simp
  · exact fun index origin typeIndex found => functions_coherent
      (Validator.accepted_of_validate valid) bindings rfl rfl index typeIndex origin found
  · rw [← coherent.tables.count]
    exact linked.tableCount
  · refine tables_coherent bindings tablesReady rfl (fun handle => ?_) (fun handle => ?_)
    · rw [shapes.length, sameTable]
    · rw [shapes.maximum, sameTable]
  · rw [← coherent.memories.count]
    exact fits.memoryCount
  · exact memories_overlaid memoriesReady cells rfl segments
  · rw [← coherent.globals.count, joined, List.length_append, globalLength,
      ← globalKeys.length_eq, importsOf_length]
    rfl
  · exact globals_coherent bindings globalsReady (congrArg Arena.size tableGlobals) shapes.globals

end Creation

/-! ## Accepted modules -/

/-- What an active segment is written to do to a memory: to put its bytes there, at the offset
that its constant stands for, taken as an unsigned number. -/
def Store.segmentWrite (store : Store σ) (index : Nat) (segment : Spec.DataSyntax) :
    Option (Nat × List UInt8) :=
  match segment.mode with
  | .active memory offset =>
      if store.SameMemory memory index then some (Spec.address offset, segment.bytes) else none
  | .passive => none

/-- The memories of a new instance hold what the active segments put there. -/
def DataApplied (tree : Spec.ModuleSyntax) (heap : Heap) (store : Store σ) : Prop :=
  ∀ (index : Nat) origin type, tree.decoded.memorySpace[index]? = some (origin, type) →
    ∃ memory, store.memories[index]? = some memory ∧
      Overlaid (memory.initialBytes heap type) (tree.data.filterMap (store.segmentWrite index))
        (store.linearMemory memory).bytes

theorem data_applied {tree : Spec.ModuleSyntax} {hosts : HostRegistry σ} {limits : RuntimeLimits}
    {heap : Heap} {inst : Instance σ} {store : Store σ}
    (coherent : inst.Coherent tree.decoded hosts limits heap store) :
    DataApplied tree heap store := by
  intro index origin type found
  obtain ⟨memory, held, -, overlaid⟩ := coherent.memories index origin type found
  refine ⟨memory, held, ?_⟩
  change Overlaid _ ((tree.data.map Spec.DataSyntax.decoded).filterMap _) _ at overlaid
  rw [List.filterMap_map] at overlaid
  have writes : store.dataWrite index ∘ Spec.DataSyntax.decoded = store.segmentWrite index := by
    funext segment
    unfold Store.segmentWrite
    rw [Function.comp_apply, Store.dataWrite, Spec.DataSyntax.decoded]
    cases segment.mode <;> rfl
  rwa [writes] at overlaid

/-- For an accepted module every lookup by index, from the parser's to those of a running
instance, goes by the same index spaces, and so do the active data segments. -/
theorem index_spaces_coherent {bytes : List UInt8} {module : Module}
    (accepted : Parser.parseModule bytes = .ok module)
    (valid : Validator.validate module = .ok ()) :
    module.Coherent ∧
      (∀ tree, Spec.Binary.module bytes tree → OffsetsFit tree) ∧
      ∀ (σ : Type) (hosts : HostRegistry σ) (limits : RuntimeLimits) (heap : Heap) (host : σ)
        (inst : Instance σ) (store : Store σ),
        instantiate module hosts limits heap host = .ready inst store →
          inst.Coherent module hosts limits heap store ∧
            ∀ tree, Spec.Binary.module bytes tree → DataApplied tree heap store := by
  have decoded (tree : Spec.ModuleSyntax) (written : Spec.Binary.module bytes tree) :
      tree.decoded = module :=
    ((Parser.parseModule_iff_denotes bytes module).mp accepted).2 tree written
  refine ⟨module_coherent module, fun tree written => ?_,
    fun σ hosts limits heap host inst store ready => ?_⟩
  · exact offsets_fit written ((decoded tree written).symm ▸ valid)
  · have coherent := instance_coherent ready
    refine ⟨coherent, fun tree written => ?_⟩
    exact data_applied ((decoded tree written).symm ▸ coherent)

/-- A module that imports a memory, a function, a table, a global and a function, in this order,
defines one of each kind, and has a segment for each of its memories. -/
def interleaved : List UInt8 :=
  Spec.Binary.preamble ++ [1, 4, 1, 0x60, 0, 0,
    2, 35, 5, 1, 0x61, 1, 0x6d, 2, 0, 1, 1, 0x61, 1, 0x66, 0, 0, 1, 0x61, 1, 0x74, 1, 0x70, 0, 1,
    1, 0x61, 1, 0x67, 3, 0x7f, 0, 1, 0x61, 1, 0x68, 0, 0,
    3, 2, 1, 0, 4, 4, 1, 0x70, 0, 1, 5, 3, 1, 4, 1, 6, 6, 1, 0x7f, 0, 0x41, 5, 0x0b,
    10, 4, 1, 2, 0, 0x0b,
    11, 17, 2, 0, 0x41, 0xff, 0xff, 3, 0x0b, 1, 0x78, 2, 1, 0x42, 3, 0x0b, 2, 0x79, 0x7a]

def interleavedModule : Module where
  types := [⟨[], []⟩]
  imports := [⟨"a", "m", .memory ⟨⟨1, none, false⟩⟩⟩, ⟨"a", "f", .function 0⟩,
    ⟨"a", "t", .table ⟨⟨1, none⟩⟩⟩, ⟨"a", "g", .global ⟨.i32, false⟩⟩, ⟨"a", "h", .function 0⟩]
  functionTypeIndices := [0]
  tables := [⟨⟨1, none⟩⟩]
  memories := [⟨⟨1, none, true⟩⟩]
  globals := [⟨⟨.i32, false⟩, .i32 5⟩]
  code := [⟨[], [0x0b]⟩]
  data := [⟨.active 0 65535, [0x78]⟩, ⟨.active 1 3, [0x79, 0x7a]⟩]

namespace Interleaved

def page : List UInt8 :=
  List.replicate wasmPageSize 0x2a

theorem page_length : page.length = wasmPageSize :=
  List.length_replicate

theorem oneSlot : ([none] : List (Option FunctionRef)).length < 2 ^ 32 := by
  decide

/-- A table, a memory of one page and a global of the host. -/
def heap : Heap :=
  let table : TableCell := { slots := [none], maximum := none, owner := none, bounded := oneSlot }
  let memory : MemoryCell :=
    { memory := { bytes := page, maxPages := 2 }, minimum := 1, maximum := some 2
      memory64 := false }
  let shared := ((Heap.empty fun _ => true).newTable table).2.newMemory memory |>.2
  (shared.newGlobal (.new (.i32 0) false)).2

def function : HostFunction Unit where
  params := []
  results := []
  capabilities := .none
  callback state _ _ := { state, ops := [], result := .ok [] }

def hosts : HostRegistry Unit where
  functions := [(("a", "f"), function), (("a", "h"), function)]
  globals := [(("a", "g"), ⟨0⟩)]
  tables := [(("a", "t"), ⟨0⟩)]
  memories := [(("a", "m"), ⟨0⟩)]

def limits : RuntimeLimits := ⟨26, 2, none, none⟩

def entry : Import := ⟨"a", "m", .memory ⟨⟨1, none, false⟩⟩⟩

theorem memoryImports :
    importsOf interleavedModule Import.memoryType = [(entry, ⟨⟨1, none, false⟩⟩)] :=
  rfl

theorem imported : importedMemory hosts heap limits entry ⟨⟨1, none, false⟩⟩ = .ok ⟨0⟩ := by
  have pages : (heap.memory ⟨0⟩).memory.sizePages = 1 := by
    have size : (heap.memory ⟨0⟩).memory.bytes.length = wasmPageSize := page_length
    rw [LinearMemory.sizePages, size]
    decide
  have runtime : validateMemoryRuntimeLimit entry (heap.memory ⟨0⟩) limits.maxMemoryPages =
      .ok () := by
    rw [validateMemoryRuntimeLimit, pages]
    rfl
  change (validateMemoryAddressWidth _ _ _ >>= fun _ => validateMemoryLimits _ _ _ _ >>=
    fun _ => validateMemoryRuntimeLimit _ _ _ >>= _) = _
  rw [runtime]
  rfl

theorem bound : validateHostBindings interleavedModule hosts heap limits = .ok () := by
  have functions : forEach (validateFunctionBinding hosts interleavedModule)
      interleavedModule.functionImports = .ok () := rfl
  rw [validateHostBindings, functions, memoryImports]
  simp only [forEach, imported, ok_bind]
  rfl

theorem allocated : instantiateMemories interleavedModule hosts limits heap =
    (heap.tick, .ok [.imported ⟨0⟩, .owned ⟨List.replicate (1 * wasmPageSize) 0, 2⟩]) := by
  rw [instantiateMemories, memoryImports]
  simp only [collect, imported, ok_bind]
  rfl

/-- The segments fit memories of one page. -/
theorem initialized {inst : Instance Unit} {store : Store Unit} {first second : LinearMemory}
    (same : inst.module = interleavedModule) (zero : store.memoryAt 0 = .ok first)
    (one : store.memoryAt 1 = .ok second) (firstPage : first.bytes.length = wasmPageSize)
    (secondPage : second.bytes.length = wasmPageSize) :
    ∃ after, initializeSegments inst store = (after, .ok ()) := by
  have fits : checkEach (preflightDataSegment store) 0 inst.module.data = .ok () := by
    rw [same]
    simp only [interleavedModule, checkEach, preflightDataSegment, zero, one, ok_bind, firstPage,
      secondPage]
    rfl
  obtain ⟨middle, written, -⟩ := initializeDataSegments_of_preflight fits
  refine ⟨middle, ?_⟩
  simp only [initializeSegments, written, initializeElementSegments, preflightElementSegments,
    same]
  rfl

theorem ready : ∃ inst store,
    instantiate interleavedModule hosts limits heap () = .ready inst store := by
  have valid : Validator.validate interleavedModule = .ok () := by decide +kernel
  have zeros : (List.replicate (1 * wasmPageSize) (0 : UInt8)).length = wasmPageSize :=
    List.length_replicate
  exact ⟨_, _, Ready.instantiates (.intro valid bound rfl allocated rfl rfl rfl
    (initialized rfl rfl rfl page_length zeros).choose_spec)⟩

/-- The contents of the two memories. -/
theorem contents {inst : Instance Unit} {store : Store Unit}
    (coherent : inst.Coherent interleavedModule hosts limits heap store) :
    ∃ first second, store.memoryAt 0 = .ok first ∧ store.memoryAt 1 = .ok second ∧
      first.bytes[0]? = some 0x2a ∧ first.bytes[65535]? = some 0x78 ∧
      second.bytes[3]? = some 0x79 ∧ second.bytes[4]? = some 0x7a := by
  obtain ⟨zero, heldZero, ⟨_, handle, at_, _, found, rfl⟩, overlaidZero⟩ :=
    coherent.memories 0 (.imported 0) ⟨⟨1, none, false⟩⟩ rfl
  obtain rfl := Option.some.inj at_
  obtain rfl : ⟨0⟩ = handle := Except.ok.inj (imported.symm.trans found)
  obtain ⟨one, heldOne, ⟨_, _, _, owned, rfl, _⟩, overlaidOne⟩ :=
    coherent.memories 1 (.defined 0) ⟨⟨1, none, true⟩⟩ rfl
  have writesZero : interleavedModule.data.filterMap (store.dataWrite 0) = [(65535, [0x78])] := by
    simp [interleavedModule, Store.dataWrite, Store.SameMemory, heldZero, heldOne]
  have writesOne : interleavedModule.data.filterMap (store.dataWrite 1) = [(3, [0x79, 0x7a])] := by
    simp [interleavedModule, Store.dataWrite, Store.SameMemory, heldZero, heldOne]
  rw [writesZero] at overlaidZero
  rw [writesOne] at overlaidOne
  refine ⟨_, _, Store.memoryAt_ok_iff.mpr (congrArg (Option.map _) heldZero),
    Store.memoryAt_ok_iff.mpr (congrArg (Option.map _) heldOne), ?_, overlaidZero.covered rfl,
    overlaidOne.covered rfl, overlaidOne.covered rfl⟩
  have first : page[0]? = some 0x2a := by
    rw [page, List.getElem?_replicate]
    rfl
  rw [overlaidZero.entries]
  change page[0]?.map _ = _
  rw [first]
  rfl

end Interleaved

theorem index_spaces_coherent_interleaved :
    interleavedModule.Coherent ∧
      ∃ (inst : Instance Unit) (store : Store Unit) (tree : Spec.ModuleSyntax),
        instantiate interleavedModule Interleaved.hosts Interleaved.limits Interleaved.heap () =
          .ready inst store ∧
        inst.Coherent interleavedModule Interleaved.hosts Interleaved.limits Interleaved.heap
          store ∧
        Spec.Binary.module interleaved tree ∧ OffsetsFit tree ∧
        DataApplied tree Interleaved.heap store ∧
        ∃ first second, store.memoryAt 0 = .ok first ∧ store.memoryAt 1 = .ok second ∧
          first.bytes[0]? = some 0x2a ∧ first.bytes[65535]? = some 0x78 ∧
          second.bytes[3]? = some 0x79 ∧ second.bytes[4]? = some 0x7a := by
  have accepted : Parser.parseModule interleaved = .ok interleavedModule := by decide +kernel
  obtain ⟨coherent, offsets, instances⟩ := index_spaces_coherent accepted (by decide +kernel)
  obtain ⟨tree, written, -⟩ := Parser.parseModule_ok.mp accepted
  obtain ⟨inst, store, ready⟩ := Interleaved.ready
  obtain ⟨instCoherent, applied⟩ := instances Unit _ _ _ _ inst store ready
  exact ⟨coherent, inst, store, tree, ready, instCoherent, written, offsets tree written,
    applied tree written, Interleaved.contents instCoherent⟩

end MiniWasm.Runtime
