import MiniWasm.Runtime.Matching
import MiniWasm.Runtime.Ownership

/-!
# Shared tables and globals over histories

Many instances and the embedder write to one table or global.  Whatever they do, each
instance finds what its module declares: a table within the declared limits, and a
global of the declared type.
-/

namespace MiniWasm.Runtime

open Library

variable {σ : Type}

/-! ## What an instance relies on -/

/-- The tables and globals of the instance are what its module declares.  A defined
global that is immutable holds its initializer. -/
structure Instance.Declared (inst : Instance σ) (heap : Heap) : Prop where
  tables : ∀ (index : Nat) origin type, inst.module.tableSpace[index]? = some (origin, type) →
    ∃ handle, inst.tables[index]? = some handle ∧ handle.address < heap.tables.size ∧
      LimitsMatch (heap.table handle).len (heap.table handle).maximum type.limits.min
        type.limits.max
  globals : ∀ (index : Nat) origin type, inst.module.globalSpace[index]? = some (origin, type) →
    ∃ handle, inst.globals[index]? = some handle ∧ handle.address < heap.globals.size ∧
      (heap.global handle).valueType = type.valueType ∧
      (heap.global handle).mutable = type.mutable ∧
      ∀ position definition, origin = .defined position → type.mutable = false →
        inst.module.globals[position]? = some definition →
          (heap.global handle).value = valueFromConstant definition.init

theorem LimitsMatch.evolves {before after : TableCell} {declaredMin : Nat}
    {declaredMax : Option Nat}
    (declared : LimitsMatch before.len before.maximum declaredMin declaredMax)
    (evolves : before.Evolves after) :
    LimitsMatch after.len after.maximum declaredMin declaredMax where
  minimum := Nat.le_trans declared.minimum evolves.longer
  maximum := evolves.maximum ▸ declared.maximum

/-- What others do to a table or a global does not take the declared type away. -/
theorem Instance.Declared.evolves {inst : Instance σ} {issued : FunctionRef → Prop}
    {before after : Heap} (declared : inst.Declared before)
    (evolves : before.ObjectsEvolve issued after) : inst.Declared after where
  tables index origin type found := by
    obtain ⟨handle, placed, allocated, matching⟩ := declared.tables index origin type found
    refine ⟨handle, placed, Nat.lt_of_lt_of_le allocated evolves.tableCount, ?_⟩
    exact matching.evolves (evolves.tables handle.address allocated)
  globals index origin type found := by
    obtain ⟨handle, placed, allocated, valueType, mutability, constant⟩ :=
      declared.globals index origin type found
    have kept : (before.global handle).Evolves (after.global handle) :=
      evolves.globals handle.address allocated
    refine ⟨handle, placed, Nat.lt_of_lt_of_le allocated evolves.globalCount,
      kept.valueType.trans valueType, kept.mutability.trans mutability, ?_⟩
    intro position definition isDefined immutable at_
    have before := constant position definition isDefined immutable at_
    exact (kept.constant (mutability.trans immutable)).trans before

/-! ## Creation -/

section Creation

variable {module : Module} {hosts : HostRegistry σ} {limits : RuntimeLimits} {host : σ}
variable {heap : Heap} {inst : Instance σ} {store : Store σ}

theorem instantiateDefinedGlobals_size (definitions : List Global) (heap : Heap) :
    (instantiateDefinedGlobals definitions heap).1.globals.size =
      heap.globals.size + definitions.length := by
  induction definitions generalizing heap with
  | nil => rfl
  | cons definition rest ih =>
      let cell := GlobalCell.new (valueFromConstant definition.init) definition.type.mutable
      have allocated : (heap.newGlobal cell).2.globals.size = heap.globals.size + 1 := rfl
      have size : (instantiateDefinedGlobals (definition :: rest) heap).1.globals.size =
          (heap.newGlobal cell).2.globals.size + rest.length := ih _
      rw [size, allocated, List.length_cons]
      omega

theorem instantiateGlobals_size {after : Heap} {globals : List GlobalHandle}
    (created : instantiateGlobals module hosts heap = (after, .ok globals)) :
    after.globals.size = heap.globals.size + module.globals.length := by
  unfold instantiateGlobals at created
  split at created
  · cases created
  · cases created
    exact instantiateDefinedGlobals_size module.globals heap

/-- The globals that an instantiation defines have been allocated behind those that there
were. -/
theorem Ready.globalCount (ready : Ready module hosts limits heap host inst store) :
    heap.globals.size + module.globals.length ≤ store.heap.globals.size := by
  cases ready with
  | @intro _ allocated bound assembled memories tables globals _ _ _ _ _ memoriesReady
      tablesReady globalsReady same segments =>
      obtain ⟨granted, sameHeap⟩ := @instantiateMemories_heap σ module hosts limits heap
      have allocatedHeap : allocated = { heap with granted } :=
        (congrArg Prod.fst memoriesReady).symm.trans sameHeap
      have started : allocated.newIdentity.2.globals.size = heap.globals.size := by
        rw [allocatedHeap]
        rfl
      have tablesStage : bound.globals = allocated.newIdentity.2.globals := by
        obtain ⟨_, _, _, _, globals, -⟩ := instantiateTables_made tablesReady
        exact globals
      have written := (initializeSegments_objects inst
        { heap := assembled, memories, host, dataSegments := module.data.map passiveData
          elementSegments := module.elements.map passiveElements }).globalCount
      rw [segments] at written
      refine Nat.le_trans (Nat.le_of_eq ?_) written
      rw [instantiateGlobals_size globalsReady, tablesStage, started]

theorem Ready.ofModule (ready : Ready module hosts limits heap host inst store) :
    inst.module = module ∧ Validator.Accepted module := by
  cases ready with
  | intro valid _ _ _ _ _ same _ =>
      rw [same]
      exact ⟨rfl, Validator.accepted_of_validate valid⟩

theorem validateGlobalBinding_ok {entry : Import} {type : GlobalType} {cell : GlobalCell}
    (checked : validateGlobalBinding entry type cell = .ok ()) :
    cell.valueType = type.valueType ∧ cell.mutable = type.mutable := by
  unfold validateGlobalBinding at checked
  split_ifs at checked with valueType mutability
  exact ⟨not_not.mp valueType, not_not.mp mutability⟩

theorem importedGlobal_ok {entry : Import} {type : GlobalType} {handle : GlobalHandle}
    (found : importedGlobal hosts heap entry type = .ok handle) :
    (heap.global handle).valueType = type.valueType ∧
      (heap.global handle).mutable = type.mutable := by
  unfold importedGlobal at found
  split at found
  · cases found
  · obtain ⟨_, checked, returned⟩ := bind_ok.mp found
    cases returned
    exact validateGlobalBinding_ok checked

/-- The validator checks the type of an initializer. -/
theorem Accepted.initializer (valid : Validator.Accepted module) {position : Nat}
    {definition : Global} (found : module.globals[position]? = some definition) :
    definition.init.valueType = definition.type.valueType := by
  have checked := checkEach_ok_iff.mp valid.globals position definition found
  unfold Validator.validateGlobal at checked
  dsimp only at checked
  split_ifs at checked with different
  exact not_not.mp different

theorem Ready.declared (known : hosts.Known heap)
    (created : instantiate module hosts limits heap host = .ready inst store) :
    inst.Declared store.heap := by
  have ready := instantiate_ready created
  have coherent := instance_coherent created
  have objects := ready.objects
  obtain ⟨rfl, valid⟩ := ready.ofModule
  constructor
  · intro index origin type found
    obtain ⟨handle, placed, isTable⟩ := coherent.tables index origin type found
    refine ⟨handle, placed, ready.allocated known handle (List.mem_of_getElem? placed), ?_⟩
    cases origin with
    | imported position =>
        obtain ⟨entry, -, -, checked⟩ := isTable
        have registered := importedTable_key checked
        obtain ⟨listed, member, rfl⟩ := findKey_mem registered
        exact ((importedTable_ok_iff registered).mp checked).evolves
          (objects.tables _ (known.tables listed member))
    | defined position =>
        obtain ⟨-, -, length, maximum⟩ := isTable
        exact ⟨length.ge, fun limit isLimit => ⟨limit, maximum.trans isLimit, Nat.le_refl _⟩⟩
  · intro index origin type found
    obtain ⟨handle, placed, isGlobal⟩ := coherent.globals index origin type found
    refine ⟨handle, placed, ?_⟩
    cases origin with
    | imported position =>
        obtain ⟨entry, -, -, checked⟩ := isGlobal
        obtain ⟨listed, member, same⟩ := findKey_mem (importedGlobal_key checked)
        have allocated : handle.address < heap.globals.size := same ▸ known.globals listed member
        obtain ⟨valueType, mutability⟩ := importedGlobal_ok checked
        have kept : (heap.global handle).Evolves (store.heap.global handle) :=
          objects.globals handle.address allocated
        exact ⟨Nat.lt_of_lt_of_le allocated objects.globalCount, kept.valueType.trans valueType,
          kept.mutability.trans mutability, fun _ _ isDefined => nomatch isDefined⟩
    | defined position =>
        obtain ⟨definition, at_, rfl, rfl, cell⟩ := isGlobal
        have inside := (List.getElem?_eq_some_iff.mp at_).1
        have count := ready.globalCount
        rw [cell]
        refine ⟨by dsimp only; omega, ?_, rfl, ?_⟩
        · exact (valueFromConstant_valueType _).trans (Accepted.initializer valid at_)
        · intro other another isDefined _ elsewhere
          cases isDefined
          cases at_.symm.trans elsewhere
          rfl

end Creation

/-! ## Histories -/

namespace World

/-- No table of a world is beyond its maximum. -/
theorem Reachable.tables_inLimit {world : World σ} (reachable : world.Reachable)
    {handle : TableHandle} (allocated : handle.address < world.heap.tables.size) :
    (world.heap.table handle).InLimit := by
  obtain ⟨granted, host, steps⟩ := reachable
  exact steps.objects.newTables handle.address (Nat.zero_le _) allocated

theorem Step.declared {before after : World σ} (step : Step before after)
    (declared : ∀ tenant ∈ before.tenants, tenant.inst.Declared before.heap) :
    ∀ tenant ∈ after.tenants, tenant.inst.Declared after.heap := by
  have objects := step.objects
  have kept (tenant : Tenant σ) (old : ∃ other ∈ before.tenants, tenant.inst = other.inst) :
      tenant.inst.Declared after.heap := by
    obtain ⟨other, member, same⟩ := old
    exact same ▸ (declared other member).evolves objects
  intro tenant member
  cases step with
  | handle | host | refuse => exact kept tenant ⟨tenant, member, rfl⟩
  | @instantiate module hosts limits inst store known ready =>
      rcases List.mem_append.mp member with old | new
      · exact kept tenant ⟨tenant, old, rfl⟩
      · rw [List.mem_singleton] at new
        subst new
        exact Ready.declared known ready
  | @writeMemory index memoryIndex address idle bytes store found =>
      have same : (Tenant.ofStore idle.inst store none).inst = idle.inst := rfl
      exact kept tenant (mem_set_inst found same member)
  | @invoke index running name args found =>
      exact kept tenant (mem_set_inst found (running.after_inst _) member)
  | @resume index running activity found =>
      exact kept tenant (mem_set_inst found (running.after_inst _) member)
  | drop => exact kept tenant ⟨tenant, List.mem_of_mem_eraseIdx member, rfl⟩

theorem Reachable.declared {world : World σ} (reachable : world.Reachable) :
    ∀ tenant ∈ world.tenants, tenant.inst.Declared world.heap := by
  refine @Reachable.induct σ
    (fun world => ∀ tenant ∈ world.tenants, tenant.inst.Declared world.heap) ?_ ?_ world reachable
  · intro granted host tenant member
    cases member
  · exact fun step declared => step.declared declared

end World

/-- Shared tables and globals over all histories: no table is beyond its maximum, every
instance has its tables and globals as its module declares them, and along every
further history a table keeps its maximum and does not shrink, and a global keeps its
type, its mutability and, where it is immutable, its value.  What `global.get` pushes
is of the declared type, and the initializer where the module defines the global as
immutable. -/
theorem shared_objects_declared {world : World σ} (reachable : world.Reachable) :
    (∀ handle : TableHandle, handle.address < world.heap.tables.size →
      (world.heap.table handle).InLimit) ∧
    (∀ tenant ∈ world.tenants, tenant.inst.Declared world.heap) ∧
    (∀ later : World σ, World.Steps world later →
      (∀ handle : TableHandle, handle.address < world.heap.tables.size →
        (world.heap.table handle).Evolves (later.heap.table handle)) ∧
      ∀ handle : GlobalHandle, handle.address < world.heap.globals.size →
        (world.heap.global handle).Evolves (later.heap.global handle)) ∧
    ∀ (tenant : Tenant σ) (machine : Machine σ) (frame : GuestFrame) (pc' index : Nat)
      (origin : Origin) (type : GlobalType), world.Runs tenant machine →
      machine.current = .frame frame →
      Spec.simpleAt frame.code frame.pc = some (.plain (.globalGet index), pc') →
      tenant.inst.module.globalSpace[index]? = some (origin, type) →
      ∃ value : Value, value.valueType = type.valueType ∧
        (∀ position definition, origin = .defined position → type.mutable = false →
          tenant.inst.module.globals[position]? = some definition →
            value = valueFromConstant definition.init) ∧
        frameStep tenant.inst machine.store machine.budget frame = (do
          let budget ← machine.budget.consumeInstruction
          return (machine.store, budget,
            .running { frame with pc := pc', stack := value :: frame.stack })) := by
  refine ⟨fun handle allocated => reachable.tables_inLimit allocated, reachable.declared,
    fun later steps => ?_, ?_⟩
  · exact ⟨fun handle => steps.objects.tables handle.address,
      fun handle => steps.objects.globals handle.address⟩
  intro tenant machine frame pc' index origin type runs current decoded declared
  obtain ⟨handle, placed, -, valueType, -, constant⟩ :=
    (reachable.declared tenant runs.member).globals index origin type declared
  have heap : machine.store.heap = world.heap := congrArg Store.heap runs.store
  have returned : tenant.inst.globalGet machine.store index =
      .ok (world.heap.global handle).value := by
    rw [Instance.globalGet, Instance.globalHandle, placed, heap]
    rfl
  refine ⟨(world.heap.global handle).value, ?_, constant, ?_⟩
  · exact (world.heap.global handle).typed.trans valueType
  · rw [frameStep_simple decoded fun memory named => by cases named]
    simp only [executeSimple, executePlain, returned, ok_bind]
    rfl

/-! An instance with a constant and a table that it imports. -/

def constants : Module where
  imports := [{ module := "host", name := "table", desc := .table ⟨⟨1, none⟩⟩ }]
  globals := [{ type := ⟨.i32, false⟩, init := .i32 7 }]

theorem shared_objects_declared_constants :
    ∃ (world : World Unit) (tenant : Tenant Unit), tenant ∈ world.tenants ∧
      tenant.inst.module = constants ∧ tenant.inst.Declared world.heap := by
  have created : World.Step (World.start (fun _ => true) ()) _ := .handle (.newTable 1 none)
  obtain ⟨inst, store, ready, same⟩ : ∃ inst store, instantiate constants oneTable
      ⟨26, 1, none, none⟩ ((HandleOp.newTable 1 none).apply (World.start (fun _ => true) ()).heap)
        () = .ready inst store ∧ inst.module = constants :=
    ⟨_, _, rfl, rfl⟩
  have steps := (Relation.ReflTransGen.single created).tail (.instantiate oneTable_known ready)
  have member := List.mem_append_right [] (List.mem_singleton_self
    (Tenant.ofStore inst store ((startFunction inst store).map Machine.activity)))
  exact ⟨_, _, member, same, (shared_objects_declared ⟨_, _, steps⟩).2.1 _ member⟩

end MiniWasm.Runtime
