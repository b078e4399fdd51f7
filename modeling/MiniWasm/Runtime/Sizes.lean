import MiniWasm.Runtime.Growth
import MiniWasm.Runtime.World

/-!
# Sizes of memories

Every memory of every world is a whole number of pages, between the size that it
was created with and the smallest of its limits, whoever grows it.
-/

namespace MiniWasm.Runtime

open Library

variable {σ : Type}

/-! ## Steps of an invocation -/

section Steps

variable {inst : Instance σ} {store : Store σ}

theorem executeOp_memories (frame : GuestFrame) {offset opcode : Nat} :
    Ensures (fun after => store.MemoriesEvolve after.1)
      (executeOp inst store frame offset opcode) := by
  unfold executeOp
  iterate 14
    apply Ensures.ite
    · first
        | exact ensures_error _
        | simp only [ensures_bind, ensures_pure]
          exact fun _ _ => .refl store
  simp only [executePlainOp, ensures_bind, ensures_pure]
  rintro ⟨instr, pc⟩ _
  exact executePlain_memories

/-- What a round of the interpreter's loop does to the memories. -/
theorem frameStep_memories {budget : ExecutionBudget} {frame : GuestFrame} :
    Ensures (fun after => store.MemoriesEvolve after.1) (frameStep inst store budget frame) := by
  unfold frameStep
  split
  · simp only [ensures_bind, ensures_pure]
    exact fun _ _ => .refl store
  · simp only [ensures_bind, ensures_pure]
    intro budget _
    exact executeOp_memories _

theorem hostWrite_memories {capabilities : HostCapabilities} {memoryIndex address : Nat}
    {bytes : List UInt8} :
    store.MemoriesEvolve (store.hostWrite capabilities memoryIndex address bytes) := by
  unfold Store.hostWrite
  split
  · exact .refl store
  split
  · exact .refl store
  next memory found =>
  split
  · exact .setMemoryAt found (memory.writeBytes_evolves ..)
  · exact .refl store

/-- What a callback does to the memories. -/
theorem afterHost_memories (capabilities : HostCapabilities) (reply : HostReply σ) :
    store.MemoriesEvolve (store.afterHost capabilities reply) := by
  unfold Store.afterHost
  have first : store.MemoriesEvolve { store with host := reply.state } :=
    .ofSame rfl rfl rfl rfl rfl
  refine first.trans ?_
  generalize ({ store with host := reply.state } : Store σ) = current
  induction reply.ops generalizing current with
  | nil => exact .refl current
  | cons op rest ih =>
      refine Store.MemoriesEvolve.trans ?_ (ih _)
      cases op with
      | writeMemoryAt memoryIndex address bytes => exact hostWrite_memories
      | handle op => exact ⟨op.apply_memoriesEvolve _, .refl _, .refl _, .refl _⟩

theorem invokeHost_memories (inst : Instance σ) (store : Store σ) (budget : ExecutionBudget)
    (index : Nat) (args : List Value) :
    store.MemoriesEvolve (inst.invokeHost store budget index args).1 := by
  unfold Instance.invokeHost
  split
  · exact .refl store
  · exact afterHost_memories _ _

/-- The outcome of a function leaves the store alone. -/
theorem handleOutcome_store (machine : Machine σ) (outcome : FunctionOutcome) :
    (machine.handleOutcome outcome).store = machine.store := by
  cases outcome with
  | «return» results =>
      unfold Machine.handleOutcome
      cases machine.callers with
      | nil => rfl
      | cons caller callers => cases machine.depth <;> rfl
  | tailCall function args => rfl
  | call continuation function args =>
      unfold Machine.handleOutcome
      dsimp only
      split <;> rfl

/-- What a step of an invocation does to the memories. -/
theorem step_memories (machine : Machine σ) :
    machine.store.MemoriesEvolve (machine.step inst).store := by
  cases current : machine.current with
  | function index args =>
      rw [step_function current, Machine.enter]
      split
      · have host := invokeHost_memories inst machine.store machine.budget index args
        split
        · next store err invoked =>
            rw [invoked] at host
            exact host
        · next store budget results invoked =>
            rw [invoked] at host
            rw [handleOutcome_store]
            exact host
      split
      · exact .refl _
      split
      · exact .refl _
      · exact .refl _
  | frame frame =>
      rw [step_frame current]
      cases round : frameStep inst machine.store machine.budget frame with
      | error err => exact .refl _
      | ok after =>
          obtain ⟨store, budget, step⟩ := after
          have evolves := frameStep_memories _ round
          cases step with
          | running next => exact evolves
          | outcome outcome =>
              rw [Machine.afterRound, handleOutcome_store]
              exact evolves

end Steps

/-! ## Instantiation -/

section Instantiation

variable {module : Module} {hosts : HostRegistry σ} {limits : RuntimeLimits} {host : σ}

/-- The limits of a memory of an instance, by the memory type that the module
declares for it. -/
inductive RuntimeMemory.Sized (heap : Heap) (limits : RuntimeLimits) (type : MemoryType) :
    RuntimeMemory → Prop where
  | owned {memory : LinearMemory} :
      memory.Whole →
      type.limits.min * wasmPageSize ≤ memory.bytes.length →
      memory.maxPages ≤ type.limits.max.getD maxMemoryPages →
      memory.maxPages ≤ limits.maxMemoryPages →
      RuntimeMemory.Sized heap limits type (.owned memory)
  | imported {handle : MemoryHandle} :
      handle.address < heap.memories.size →
      (heap.memory handle).memory64 = type.limits.memory64 →
      type.limits.min ≤ (heap.memory handle).minimum →
      (heap.memory handle).maximum.getD maxMemoryPages ≤
        type.limits.max.getD maxMemoryPages →
      (heap.memory handle).maximum.getD maxMemoryPages ≤ limits.maxMemoryPages →
      RuntimeMemory.Sized heap limits type (.imported handle)

theorem RuntimeMemory.Sized.evolves {before after : Heap} {type : MemoryType}
    {memory next : RuntimeMemory} (sized : RuntimeMemory.Sized before limits type memory)
    (heap : before.MemoriesEvolve after) (evolves : memory.Evolves next) :
    RuntimeMemory.Sized after limits type next := by
  cases sized with
  | owned whole atLeast declared runtime =>
      cases evolves with
      | owned evolves =>
          exact .owned (evolves.whole whole) (Nat.le_trans atLeast evolves.longer)
            (evolves.maxPages ▸ declared) (evolves.maxPages ▸ runtime)
  | @imported handle allocated width atLeast declared runtime =>
      cases evolves with
      | imported handle =>
          have cell : (before.memory handle).Evolves (after.memory handle) :=
            heap.kept handle.address allocated
          refine .imported (Nat.lt_of_lt_of_le allocated heap.size) ?_ ?_ ?_ ?_
          · rw [cell.memory64]
            exact width
          · rw [cell.minimum]
            exact atLeast
          · rw [cell.maximum]
            exact declared
          · rw [cell.maximum]
            exact runtime

/-- The memories of an instance fit the memory types of its module, in order. -/
def MemoriesSized (heap : Heap) (limits : RuntimeLimits) (types : List MemoryType)
    (memories : List RuntimeMemory) : Prop :=
  List.Forall₂ (RuntimeMemory.Sized heap limits) types memories

theorem MemoriesSized.evolves {before after : Heap} {types : List MemoryType}
    {memories next : List RuntimeMemory} (sized : MemoriesSized before limits types memories)
    (heap : before.MemoriesEvolve after) (evolves : MemoriesEvolve memories next) :
    MemoriesSized after limits types next := by
  induction sized generalizing next with
  | nil =>
      cases evolves
      exact .nil
  | cons head _ ih =>
      cases evolves with
      | cons headEvolves tailEvolves => exact .cons (head.evolves heap headEvolves) (ih tailEvolves)

theorem LinearMemory.new_sized {granted : Bool} {minimum : Nat} {maximum : Option Nat}
    {runtimeMax : Nat} {memory : LinearMemory}
    (created : LinearMemory.new granted minimum maximum runtimeMax = .ok memory)
    (ordered : ∀ limit, maximum = some limit → minimum ≤ limit) :
    memory.Whole ∧ memory.bytes.length = minimum * wasmPageSize ∧
      memory.maxPages ≤ maximum.getD maxMemoryPages ∧ memory.maxPages ≤ runtimeMax := by
  unfold LinearMemory.new at created
  dsimp only at created
  split_ifs at created with exceeded
  cases created
  have length : (List.replicate (minimum * wasmPageSize) (0 : UInt8)).length =
      minimum * wasmPageSize := List.length_replicate
  have runtimeRoom : minimum ≤ min runtimeMax maxMemoryPages := Nat.le_of_not_lt exceeded
  have room : minimum ≤
      min (maximum.getD (min runtimeMax maxMemoryPages)) (min runtimeMax maxMemoryPages) := by
    refine Nat.le_min.mpr ⟨?_, runtimeRoom⟩
    cases maximum with
    | none => exact runtimeRoom
    | some limit => exact ordered limit rfl
  refine ⟨⟨?_, ?_, ?_⟩, length, ?_, ?_⟩
  · rw [length]
    exact Nat.dvd_mul_left ..
  · rw [length]
    exact Nat.mul_le_mul_right _ room
  · exact Nat.le_trans (Nat.min_le_right ..) (Nat.min_le_right ..)
  · cases maximum with
    | none => exact Nat.le_trans (Nat.min_le_right ..) (Nat.min_le_right ..)
    | some limit => exact Nat.min_le_left ..
  · exact Nat.le_trans (Nat.min_le_right ..) (Nat.min_le_left ..)

/-- Every shared memory is within its limits. -/
def Heap.Sized (heap : Heap) : Prop :=
  ∀ address, address < heap.memories.size → (heap.memories.get address).Sized

theorem Heap.Sized.evolves {before after : Heap} (sized : before.Sized)
    (evolves : before.MemoriesEvolve after) : after.Sized := by
  intro address allocated
  by_cases existed : address < before.memories.size
  · exact (sized address existed).evolves (evolves.kept address existed)
  · exact evolves.fresh address (Nat.le_of_not_lt existed) allocated

/-! The stages. -/

theorem importedMemory_sized {heap : Heap} {entry : Import} {type : MemoryType}
    {handle : MemoryHandle} (known : hosts.Known heap) (sized : heap.Sized)
    (imported : importedMemory hosts heap limits entry type = .ok handle) :
    RuntimeMemory.Sized heap limits type (.imported handle) := by
  unfold importedMemory at imported
  cases registered : findKey hosts.memories entry.key with
  | none =>
      rw [registered] at imported
      cases imported
  | some found =>
      rw [registered] at imported
      simp only [bind_ok, pure_ok, Except.ok.injEq] at imported
      obtain ⟨_, width, _, declared, _, runtime, rfl⟩ := imported
      obtain ⟨key, member, same⟩ : ∃ key, (key, found) ∈ hosts.memories ∧ key = entry.key := by
        unfold findKey at registered
        obtain ⟨pair, first, rfl⟩ := Option.map_eq_some_iff.mp registered
        exact ⟨pair.1, List.mem_of_find?_eq_some first, by simpa using List.find?_some first⟩
      have allocated : found.address < heap.memories.size := known.memories _ member
      have cell : (heap.memory found).Sized := sized found.address allocated
      have addressable : (heap.memory found).maximum.getD maxMemoryPages ≤ maxMemoryPages := by
        rw [← cell.limit]
        exact cell.whole.addressable
      unfold validateMemoryAddressWidth at width
      unfold validateMemoryRuntimeLimit at runtime
      unfold validateMemoryLimits at declared
      split_ifs at width with sameWidth
      dsimp only at runtime declared
      split_ifs at runtime with withinRuntime
      split_ifs at declared with matching
      simp only [Bool.and_eq_true, decide_eq_true_eq] at matching
      refine .imported allocated sameWidth matching.1 ?_ ?_
      · cases maximum : type.limits.max with
        | none => exact addressable
        | some expected =>
            have below := matching.2
            rw [maximum] at below
            dsimp only at below
            cases actual : (heap.memory found).maximum with
            | none =>
                rw [actual] at below
                cases below
            | some maximum =>
                rw [actual] at below
                exact of_decide_eq_true below
      · exact Nat.le_trans withinRuntime.2 (Nat.min_le_left ..)

theorem collectMemories_sized {heap : Heap} {entries : List (Import × MemoryType)}
    {handles : List MemoryHandle} (known : hosts.Known heap) (sized : heap.Sized)
    (collected : collect (fun (entry, type) => importedMemory hosts heap limits entry type)
      entries = .ok handles) :
    MemoriesSized heap limits (entries.map Prod.snd) (handles.map .imported) := by
  have each := collect_ok collected
  clear collected
  induction each with
  | nil => exact .nil
  | cons imported _ ih => exact .cons (importedMemory_sized known sized imported) ih

theorem instantiateOwnedMemories_memories {types : List MemoryType} {heap : Heap} :
    (instantiateOwnedMemories limits types heap).1.memories = heap.memories ∧
      (instantiateOwnedMemories limits types heap).1.nextIdentity = heap.nextIdentity := by
  induction types generalizing heap with
  | nil => exact ⟨rfl, rfl⟩
  | cons type rest ih =>
      unfold instantiateOwnedMemories
      split
      · exact ⟨rfl, rfl⟩
      · exact ih

theorem instantiateOwnedMemories_sized (shared : Heap) {types : List MemoryType}
    {heap after : Heap} {memories : List RuntimeMemory}
    (ordered : ∀ type ∈ types, ∀ limit, type.limits.max = some limit → type.limits.min ≤ limit)
    (created : instantiateOwnedMemories limits types heap = (after, .ok memories)) :
    MemoriesSized shared limits types memories := by
  induction types generalizing heap memories with
  | nil =>
      cases created
      exact .nil
  | cons type rest ih =>
      rw [List.forall_mem_cons] at ordered
      unfold instantiateOwnedMemories at created
      split at created
      · cases created
      next memory allocated =>
      obtain ⟨owned, others, rfl⟩ := stage_map_ok created
      obtain ⟨whole, length, declared, runtime⟩ := LinearMemory.new_sized allocated ordered.1
      exact .cons (.owned whole length.ge declared runtime) (ih ordered.2 others)

theorem instantiateMemories_memories (module : Module) (hosts : HostRegistry σ)
    (limits : RuntimeLimits) (heap : Heap) :
    (instantiateMemories module hosts limits heap).1.memories = heap.memories ∧
      (instantiateMemories module hosts limits heap).1.nextIdentity = heap.nextIdentity := by
  unfold instantiateMemories
  split
  · exact ⟨rfl, rfl⟩
  · exact instantiateOwnedMemories_memories

theorem importsOf_snd {α : Type} (module : Module) (declared : Import → Option α) :
    (importsOf module declared).map Prod.snd = module.imports.filterMap declared := by
  rw [importsOf, List.map_filterMap]
  congr 1
  funext entry
  cases declared entry <;> rfl

/-- The memory types of the index space, imports first. -/
def memoryTypes (module : Module) : List MemoryType :=
  module.importedMemories ++ module.memories

theorem instantiateMemories_sized {heap after : Heap} {memories : List RuntimeMemory}
    (known : hosts.Known heap) (sized : heap.Sized)
    (ordered : ∀ type ∈ module.memories, ∀ limit,
      type.limits.max = some limit → type.limits.min ≤ limit)
    (created : instantiateMemories module hosts limits heap = (after, .ok memories)) :
    MemoriesSized heap limits (memoryTypes module) memories := by
  unfold instantiateMemories at created
  split at created
  · cases created
  next handles collected =>
  obtain ⟨owned, others, rfl⟩ := stage_map_ok created
  have imported := collectMemories_sized known sized collected
  rw [importsOf_snd] at imported
  exact List.rel_append imported (instantiateOwnedMemories_sized heap ordered others)

theorem bindTable_memories {heap after : Heap} {handle : TableHandle} {identity : Identity}
    {mapError : TableHandleError → RuntimeError}
    (bound : bindTable heap handle identity mapError = .ok after) :
    after.memories = heap.memories ∧ after.nextIdentity = heap.nextIdentity := by
  unfold bindTable at bound
  split at bound
  · cases bound
    exact ⟨rfl, rfl⟩
  · cases bound

theorem instantiateTables_memories (module : Module) (hosts : HostRegistry σ)
    (identity : Identity) (heap : Heap) :
    (instantiateTables module hosts identity heap).1.memories = heap.memories ∧
      (instantiateTables module hosts identity heap).1.nextIdentity = heap.nextIdentity := by
  have imported (imports : List (Import × TableType)) (heap : Heap) :
      (instantiateImportedTables hosts identity imports heap).1.memories = heap.memories ∧
        (instantiateImportedTables hosts identity imports heap).1.nextIdentity =
          heap.nextIdentity := by
    induction imports generalizing heap with
    | nil => exact ⟨rfl, rfl⟩
    | cons entry rest ih =>
        unfold instantiateImportedTables
        split
        · exact ⟨rfl, rfl⟩
        split
        · exact ⟨rfl, rfl⟩
        · next handle _ after bound =>
            obtain ⟨memories, identities⟩ := bindTable_memories bound
            exact ⟨(ih after).1.trans memories, (ih after).2.trans identities⟩
  have defined (types : List TableType) (heap : Heap) :
      (instantiateDefinedTables identity types heap).1.memories = heap.memories ∧
        (instantiateDefinedTables identity types heap).1.nextIdentity = heap.nextIdentity := by
    induction types generalizing heap with
    | nil => exact ⟨rfl, rfl⟩
    | cons type rest ih =>
        unfold instantiateDefinedTables
        split
        · exact ⟨rfl, rfl⟩
        dsimp only
        split
        · exact ⟨rfl, rfl⟩
        · next after bound =>
            obtain ⟨memories, identities⟩ := bindTable_memories bound
            exact ⟨(ih after).1.trans memories, (ih after).2.trans identities⟩
  have first := imported (importsOf module Import.tableType) heap
  unfold instantiateTables
  split
  · next after err failed =>
      rw [failed] at first
      exact first
  · next after handles ready =>
      rw [ready] at first
      have second := defined module.tables after
      exact ⟨second.1.trans first.1, second.2.trans first.2⟩

theorem instantiateGlobals_memories (module : Module) (hosts : HostRegistry σ) (heap : Heap) :
    (instantiateGlobals module hosts heap).1.memories = heap.memories ∧
      (instantiateGlobals module hosts heap).1.nextIdentity = heap.nextIdentity := by
  have defined (definitions : List Global) (heap : Heap) :
      (instantiateDefinedGlobals definitions heap).1.memories = heap.memories ∧
        (instantiateDefinedGlobals definitions heap).1.nextIdentity = heap.nextIdentity := by
    induction definitions generalizing heap with
    | nil => exact ⟨rfl, rfl⟩
    | cons definition rest ih =>
        exact ih (heap.newGlobal
          (.new (valueFromConstant definition.init) definition.type.mutable)).2
  unfold instantiateGlobals
  split
  · exact ⟨rfl, rfl⟩
  · exact defined module.globals heap

/-! The segments. -/

section Lift

variable {relation : Store σ → Store σ → Prop}

theorem writeEach_lift (refl : ∀ store, relation store store)
    (trans : ∀ {first second third}, relation first second → relation second third →
      relation first third)
    {α : Type} {write : Store σ → α → Run (Store σ)}
    (each : ∀ value store, Ensures (relation store) (write store value)) (values : List α)
    (store : Store σ) : relation store (writeEach write values store).1 := by
  induction values generalizing store with
  | nil => exact refl store
  | cons value rest ih =>
      unfold writeEach
      split
      · exact refl store
      · next after written => exact trans (each value store after written) (ih after)

/-- What every write of a slot keeps, the writes of all element segments keep. -/
theorem writeElementSegments_lift (refl : ∀ store, relation store store)
    (trans : ∀ {first second third}, relation first second → relation second third →
      relation first third)
    {inst : Instance σ}
    (slot : ∀ handle entry store,
      Ensures (relation store) (writeElementSlot inst handle store entry))
    (segments : List ElementSegment) (store : Store σ) :
    relation store (writeElementSegments inst segments store).1 := by
  have segment (segment : ElementSegment) (store : Store σ) :
      relation store (writeElementSegment inst store segment).1 := by
    unfold writeElementSegment
    split
    · split
      · exact refl store
      · exact writeEach_lift refl trans (slot _) ..
    · exact refl store
  induction segments generalizing store with
  | nil => exact refl store
  | cons head rest ih =>
      have first := segment head store
      unfold writeElementSegments
      split
      · next after err failed =>
          rw [failed] at first
          exact first
      · next after _ written =>
          rw [written] at first
          exact trans first (ih after)

/-- What every write of a segment keeps, the initialization of all segments keeps. -/
theorem initializeSegments_lift (refl : ∀ store, relation store store)
    (trans : ∀ {first second third}, relation first second → relation second third →
      relation first third)
    {inst : Instance σ}
    (data : ∀ segment store, Ensures (relation store) (writeDataSegment store segment))
    (slot : ∀ handle entry store,
      Ensures (relation store) (writeElementSlot inst handle store entry))
    (store : Store σ) : relation store (initializeSegments inst store).1 := by
  have datas : relation store (initializeDataSegments inst store).1 := by
    unfold initializeDataSegments
    split
    · exact refl store
    · exact writeEach_lift refl trans data ..
  unfold initializeSegments
  split
  · exact refl store
  split
  · next after err failed =>
      rw [failed] at datas
      exact datas
  · next after _ written =>
      rw [written] at datas
      refine trans datas ?_
      unfold initializeElementSegments
      split
      · exact refl after
      · exact writeElementSegments_lift refl trans slot ..

end Lift

theorem writeDataSegment_memories (segment : DataSegment) (store : Store σ) :
    Ensures store.MemoriesEvolve (writeDataSegment store segment) := by
  unfold writeDataSegment
  split
  · refine withMemoryIndexMut_memories fun memory => ?_
    exact .ite (ensures_error _) ((ensures_ok _).mpr (memory.writeBytes_evolves ..))
  · exact (ensures_pure _).mpr (.refl store)

theorem writeElementSlot_memories {inst : Instance σ} (handle : TableHandle)
    (entry : Nat × Nat) (store : Store σ) :
    Ensures store.MemoriesEvolve (writeElementSlot inst handle store entry) := by
  unfold writeElementSlot
  refine .ite (ensures_error _) ?_
  simp only [ensures_bind, ensures_pure]
  intro cell _
  exact .ofSame rfl rfl rfl rfl rfl

theorem initializeSegments_memories (inst : Instance σ) (store : Store σ) :
    store.MemoriesEvolve (initializeSegments inst store).1 :=
  initializeSegments_lift .refl .trans writeDataSegment_memories writeElementSlot_memories store

/-! The whole. -/

/-- The maximum of a memory type of an accepted module is not below its minimum. -/
theorem memoryLimits_ordered (accepted : Validator.Accepted module) {type : MemoryType}
    (member : type ∈ module.memories) {limit : Nat} (maximum : type.limits.max = some limit) :
    type.limits.min ≤ limit := by
  obtain ⟨index, found⟩ := List.mem_iff_getElem?.mp member
  have inside : module.importedMemories.length + index < module.memoryCount :=
    Nat.add_lt_add_left (List.getElem?_eq_some_iff.mp found).1 _
  have typed : module.memoryType (module.importedMemories.length + index) = some type := by
    rw [Module.memoryType, Module.lookup_eq_append,
      List.getElem?_append_right (Nat.le_add_right ..), Nat.add_sub_cancel_left, found]
  have checked := checkEach_ok_iff.mp accepted.memories _ _ (List.getElem?_range inside)
  simp only [Nat.zero_add, Validator.memoryTypeAt, typed, bind_ok, Except.ok.injEq,
    exists_eq_left'] at checked
  unfold Validator.validateMemoryType at checked
  dsimp only at checked
  split_ifs at checked <;> simp only [maximum] at checked <;> split_ifs at checked <;> omega

/-- What an instantiation does to the memories that exist. -/
def Instantiated.MemoriesEvolve (heap : Heap) : Instantiated σ → Prop
  | .failed after _ => heap.MemoriesEvolve after
  | .ready _ store => heap.MemoriesEvolve store.heap

theorem instantiate_memories (module : Module) (hosts : HostRegistry σ) (limits : RuntimeLimits)
    (heap : Heap) (host : σ) :
    (instantiate module hosts limits heap host).MemoriesEvolve heap := by
  have same {after : Heap} (memories : after.memories = heap.memories)
      (identities : heap.nextIdentity ≤ after.nextIdentity) : heap.MemoriesEvolve after :=
    .ofSame identities memories
  unfold instantiate
  split
  · exact .refl heap
  split
  · exact .refl heap
  split
  · exact .refl heap
  next controlMaps _ =>
  have memoriesStage := instantiateMemories_memories module hosts limits heap
  split
  · next allocated err failed =>
      rw [failed] at memoriesStage
      exact same memoriesStage.1 memoriesStage.2.ge
  next allocated memories created =>
  rw [created] at memoriesStage
  dsimp only [Heap.newIdentity]
  have tablesStage := instantiateTables_memories module hosts allocated.nextIdentity
    allocated.newIdentity.2
  have identities : heap.nextIdentity ≤ allocated.newIdentity.2.nextIdentity :=
    Nat.le_trans memoriesStage.2.ge (Nat.le_succ _)
  have memoriesKept : allocated.newIdentity.2.memories = heap.memories := memoriesStage.1
  split
  · next bound err failed =>
      have stage : bound.memories = _ ∧ bound.nextIdentity = _ := failed ▸ tablesStage
      exact same (stage.1.trans memoriesKept) (identities.trans stage.2.ge)
  next bound tables created =>
  have stage : bound.memories = _ ∧ bound.nextIdentity = _ := created ▸ tablesStage
  have globalsStage := instantiateGlobals_memories module hosts bound
  split
  · next assembled err failed =>
      have last : assembled.memories = _ ∧ assembled.nextIdentity = _ := failed ▸ globalsStage
      exact same (last.1.trans (stage.1.trans memoriesKept))
        (identities.trans (stage.2.ge.trans last.2.ge))
  next assembled globals created =>
  have last : assembled.memories = _ ∧ assembled.nextIdentity = _ := created ▸ globalsStage
  have before : heap.MemoriesEvolve assembled :=
    same (last.1.trans (stage.1.trans memoriesKept))
      (identities.trans (stage.2.ge.trans last.2.ge))
  have segments := initializeSegments_memories (σ := σ)
    { identity := allocated.nextIdentity, module, controlMaps, tables, globals, hosts, limits }
    { heap := assembled, memories, host, dataSegments := module.data.map passiveData
      elementSegments := module.elements.map passiveElements }
  split
  · next after err failed =>
      rw [failed] at segments
      exact before.trans (segments.heap.trans (.ofSame (Nat.le_refl _) rfl))
  · next after _ written =>
      rw [written] at segments
      exact before.trans segments.heap

end Instantiation

end MiniWasm.Runtime
