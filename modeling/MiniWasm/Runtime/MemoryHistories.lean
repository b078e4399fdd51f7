import Mathlib.Data.List.Nodup
import MiniWasm.Runtime.Sizes

/-!
# Memories over histories

In every world that the embedder can bring about, every memory is a whole number
of pages between the size that it was created with and the smallest of its
limits; it never shrinks, and growing it appends zeroed pages or does nothing.
-/

namespace MiniWasm.Runtime

open Library

variable {σ : Type}

/-! ## Steps of a world -/

/-- What can become of a tenant while it exists. -/
structure Tenant.Evolves (before after : Tenant σ) : Prop where
  inst : after.inst = before.inst
  memories : MemoriesEvolve before.memories after.memories
  data : SegmentsDrained before.dataSegments after.dataSegments
  elements : SegmentsDrained before.elementSegments after.elementSegments

theorem Tenant.Evolves.refl (tenant : Tenant σ) : tenant.Evolves tenant :=
  ⟨rfl, .refl _, .refl _, .refl _⟩

theorem Tenant.Evolves.trans {first second third : Tenant σ} (before : first.Evolves second)
    (after : second.Evolves third) : first.Evolves third :=
  ⟨after.inst.trans before.inst, before.memories.trans after.memories,
    before.data.trans after.data, before.elements.trans after.elements⟩

/-- The tenant behind a step of its invocation. -/
theorem Tenant.after_evolves {tenant : Tenant σ} {store : Store σ} {state : InvokeState σ}
    (evolves : store.MemoriesEvolve state.store) (memories : store.memories = tenant.memories)
    (data : store.dataSegments = tenant.dataSegments)
    (elements : store.elementSegments = tenant.elementSegments) :
    tenant.Evolves (tenant.after state) where
  inst := tenant.after_inst state
  memories := by
    rw [Tenant.after_memories, ← memories]
    exact evolves.memories
  data := by
    rw [Tenant.after_dataSegments, ← data]
    exact evolves.data
  elements := by
    rw [Tenant.after_elementSegments, ← elements]
    exact evolves.elements

/-- The segments that an instance starts with are the passive ones of its module,
and none of them fills again. -/
structure Tenant.Drained (tenant : Tenant σ) : Prop where
  data : SegmentsDrained (tenant.inst.module.data.map passiveData) tenant.dataSegments
  elements :
    SegmentsDrained (tenant.inst.module.elements.map passiveElements) tenant.elementSegments

theorem Tenant.Drained.evolves {before after : Tenant σ} (drained : before.Drained)
    (evolves : before.Evolves after) : after.Drained where
  data := by
    rw [evolves.inst]
    exact drained.data.trans evolves.data
  elements := by
    rw [evolves.inst]
    exact drained.elements.trans evolves.elements

/-- What can become of the memories of a world: those that it has evolve, and the
identities of new instances are new. -/
structure World.MemoriesEvolve (before after : World σ) : Prop where
  heap : before.heap.MemoriesEvolve after.heap
  tenants : ∀ tenant ∈ after.tenants,
    (∃ old ∈ before.tenants, old.Evolves tenant) ∨
      before.heap.nextIdentity ≤ tenant.inst.identity ∧ tenant.Drained

namespace World

theorem MemoriesEvolve.refl (world : World σ) : world.MemoriesEvolve world :=
  ⟨.refl _, fun tenant member => .inl ⟨tenant, member, .refl _⟩⟩

theorem MemoriesEvolve.trans {first second third : World σ}
    (before : first.MemoriesEvolve second) (after : second.MemoriesEvolve third) :
    first.MemoriesEvolve third where
  heap := before.heap.trans after.heap
  tenants tenant member := by
    rcases after.tenants tenant member with ⟨middle, middleMember, evolves⟩ | ⟨new, drained⟩
    · rcases before.tenants middle middleMember with ⟨old, oldMember, evolved⟩ | ⟨new, drained⟩
      · exact .inl ⟨old, oldMember, evolved.trans evolves⟩
      · rw [← evolves.inst] at new
        exact .inr ⟨new, drained.evolves evolves⟩
    · exact .inr ⟨Nat.le_trans before.heap.identities new, drained⟩

/-- One tenant changes its memories, with the heap. -/
theorem MemoriesEvolve.update {world : World σ} {index : Nat} {tenant after : Tenant σ}
    {heap : Heap} {host : σ} (found : world.tenants[index]? = some tenant)
    (heapEvolves : world.heap.MemoriesEvolve heap) (evolves : tenant.Evolves after) :
    world.MemoriesEvolve { heap, host, tenants := world.tenants.set index after } where
  heap := heapEvolves
  tenants other member := by
    rcases List.mem_or_eq_of_mem_set member with old | rfl
    · exact .inl ⟨other, old, .refl _⟩
    · exact .inl ⟨tenant, List.mem_of_getElem? found, evolves⟩

/-- The memories of every tenant, by the step of an invocation. -/
theorem advance_memories {world : World σ} {index : Nat} {tenant : Tenant σ}
    {state : InvokeState σ} (found : world.tenants[index]? = some tenant)
    (evolves : (world.store tenant).MemoriesEvolve state.store) :
    world.MemoriesEvolve (world.advance index tenant state) :=
  .update found evolves.heap (Tenant.after_evolves evolves rfl rfl rfl)

theorem startExport_store (inst : Instance σ) (store : Store σ) (name : String)
    (args : List Value) : (inst.startExport store name args).store = store := by
  unfold Instance.startExport
  dsimp only
  split <;> rfl

theorem writeMemoryAt_memories {store : Store σ} {memoryIndex address : Nat}
    {bytes : List UInt8} :
    Ensures store.MemoriesEvolve (store.writeMemoryAt memoryIndex address bytes) := by
  refine withMemoryIndexMut_memories fun memory => ?_
  simp only [ensures_bind, ensures_pure]
  intro start _
  exact memory.writeBytes_evolves ..

/-- The identity and the memories of a new instance. -/
structure Created (heap : Heap) (limits : RuntimeLimits) (inst : Instance σ) (store : Store σ) :
    Prop where
  identity : inst.identity = heap.nextIdentity
  next : inst.identity < store.heap.nextIdentity
  limits : inst.limits = limits
  memories : MemoriesSized store.heap inst.limits (memoryTypes inst.module) store.memories
  data : SegmentsDrained (inst.module.data.map passiveData) store.dataSegments
  elements : SegmentsDrained (inst.module.elements.map passiveElements) store.elementSegments

theorem created_of_ready {module : Module} {hosts : HostRegistry σ} {limits : RuntimeLimits}
    {heap : Heap} {host : σ} {inst : Instance σ} {store : Store σ} (known : hosts.Known heap)
    (sized : heap.Sized) (ready : instantiate module hosts limits heap host = .ready inst store) :
    Created heap limits inst store := by
  have overall := instantiate_memories module hosts limits heap host
  rw [ready] at overall
  cases instantiate_ready ready with
  | @intro controlMaps allocated bound assembled memories tables globals _ _ valid _ _
      memoriesReady tablesReady globalsReady same segments =>
      have memoriesStage := instantiateMemories_memories module hosts limits heap
      have tablesStage := instantiateTables_memories module hosts allocated.nextIdentity
        allocated.newIdentity.2
      have globalsStage := instantiateGlobals_memories module hosts bound
      rw [memoriesReady] at memoriesStage
      rw [tablesReady] at tablesStage
      rw [globalsReady] at globalsStage
      have written := initializeSegments_memories inst
        { heap := assembled, memories, host, dataSegments := module.data.map passiveData
          elementSegments := module.elements.map passiveElements }
      rw [segments] at written
      have first : MemoriesSized heap limits (memoryTypes module) memories :=
        instantiateMemories_sized known sized
          (fun type member limit => memoryLimits_ordered (Validator.accepted_of_validate valid)
            member)
          memoriesReady
      have advanced : assembled.nextIdentity = heap.nextIdentity + 1 := by
        rw [globalsStage.2, tablesStage.2]
        exact congrArg (· + 1) memoriesStage.2
      have identity : inst.identity = heap.nextIdentity := by
        rw [same]
        exact memoriesStage.2
      have moduleEq : inst.module = module := by rw [same]
      refine ⟨identity, ?_, by rw [same], ?_, ?_, ?_⟩
      · have later : assembled.nextIdentity ≤ store.heap.nextIdentity := written.heap.identities
        rw [advanced] at later
        rw [identity]
        exact later
      · rw [same]
        exact first.evolves overall written.memories
      · rw [moduleEq]
        exact written.data
      · rw [moduleEq]
        exact written.elements

/-- What a step of the world does to its memories. -/
theorem Step.memories {before after : World σ} (step : Step before after)
    (sized : before.heap.Sized) : before.MemoriesEvolve after := by
  have kept {heap : Heap} (evolves : before.heap.MemoriesEvolve heap) :
      before.MemoriesEvolve { before with heap } :=
    ⟨evolves, fun tenant member => .inl ⟨tenant, member, .refl _⟩⟩
  cases step with
  | handle op => exact kept (op.apply_memoriesEvolve before.heap)
  | host host => exact ⟨.refl _, fun tenant member => .inl ⟨tenant, member, .refl _⟩⟩
  | @instantiate module hosts limits inst store known ready =>
      have overall := instantiate_memories module hosts limits before.heap before.host
      rw [ready] at overall
      refine ⟨overall, fun tenant member => ?_⟩
      rcases List.mem_append.mp member with old | new
      · exact .inl ⟨tenant, old, .refl _⟩
      · rw [List.mem_singleton] at new
        subst new
        have created := created_of_ready known sized ready
        exact .inr ⟨created.identity.ge, created.data, created.elements⟩
  | @refuse module hosts limits heap err known failed =>
      have overall := instantiate_memories module hosts limits before.heap before.host
      rw [failed] at overall
      exact kept overall
  | @writeMemory index memoryIndex address tenant bytes store found _ written =>
      have evolves := writeMemoryAt_memories store written
      exact .update found evolves.heap
        ⟨rfl, evolves.memories, evolves.data, evolves.elements⟩
  | @invoke index tenant name args found _ =>
      refine advance_memories found ?_
      rw [startExport_store]
      exact .refl _
  | @resume index tenant activity found _ =>
      exact advance_memories found (step_memories (activity.machine (before.store tenant)))
  | @drop index tenant _ _ =>
      exact
        { heap := .ofSame (Nat.le_refl _) rfl
          tenants := fun other member =>
            .inl ⟨other, List.mem_of_mem_eraseIdx member, .refl _⟩ }

/-- Every memory of the world is within its limits, and its instances can be told
apart. -/
structure Sized (world : World σ) : Prop where
  heap : world.heap.Sized
  tenants : ∀ tenant ∈ world.tenants,
    MemoriesSized world.heap tenant.inst.limits (memoryTypes tenant.inst.module)
      tenant.memories
  identities : ∀ tenant ∈ world.tenants, tenant.inst.identity < world.heap.nextIdentity
  distinct : (world.tenants.map (·.inst.identity)).Nodup

theorem start_sized (granted : Nat → Bool) (host : σ) : (start granted host).Sized where
  heap _ allocated := absurd allocated (Nat.not_lt_zero _)
  tenants _ member := by cases member
  identities _ member := by cases member
  distinct := List.nodup_nil

/-- What is left of the invariant for a step that creates no instance. -/
theorem Sized.evolves {before after : World σ} (sized : before.Sized)
    (evolves : before.heap.MemoriesEvolve after.heap)
    (tenants : ∀ tenant ∈ after.tenants, ∃ old ∈ before.tenants, old.Evolves tenant)
    (distinct : (after.tenants.map (·.inst.identity)).Sublist
      (before.tenants.map (·.inst.identity))) : after.Sized where
  heap := sized.heap.evolves evolves
  tenants tenant member := by
    obtain ⟨old, oldMember, evolved⟩ := tenants tenant member
    rw [evolved.inst]
    exact (sized.tenants old oldMember).evolves evolves evolved.memories
  identities tenant member := by
    obtain ⟨old, oldMember, evolved⟩ := tenants tenant member
    rw [evolved.inst]
    exact Nat.lt_of_lt_of_le (sized.identities old oldMember) evolves.identities
  distinct := sized.distinct.sublist distinct

/-- Replacing a tenant by one with the same instance keeps the identities. -/
theorem identities_set {tenants : List (Tenant σ)} {index : Nat} {tenant after : Tenant σ}
    (found : tenants[index]? = some tenant) (same : after.inst = tenant.inst) :
    (tenants.set index after).map (·.inst.identity) = tenants.map (·.inst.identity) := by
  induction tenants generalizing index with
  | nil => cases found
  | cons first rest ih =>
      cases index with
      | zero =>
          cases found
          simp only [List.set_cons_zero, List.map_cons, same]
      | succ index =>
          simp only [List.set_cons_succ, List.map_cons, ih found]

theorem Sized.update {world : World σ} {index : Nat} {tenant after : Tenant σ} {heap : Heap}
    {host : σ} (sized : world.Sized) (found : world.tenants[index]? = some tenant)
    (heapEvolves : world.heap.MemoriesEvolve heap) (evolves : tenant.Evolves after) :
    Sized { heap, host, tenants := world.tenants.set index after } := by
  refine sized.evolves heapEvolves (fun other member => ?_) ?_
  · rcases List.mem_or_eq_of_mem_set member with old | rfl
    · exact ⟨other, old, .refl _⟩
    · exact ⟨tenant, List.mem_of_getElem? found, evolves⟩
  · dsimp only
    rw [identities_set found evolves.inst]

theorem Step.sized {before after : World σ} (step : Step before after) (sized : before.Sized) :
    after.Sized := by
  have evolves := step.memories sized.heap
  have kept {heap : Heap} {host : σ} (evolves : before.heap.MemoriesEvolve heap) :
      Sized { before with heap, host } :=
    sized.evolves evolves (fun tenant member => ⟨tenant, member, .refl _⟩) (.refl _)
  cases step with
  | handle op => exact kept evolves.heap
  | host host => exact kept evolves.heap
  | @instantiate module hosts limits inst store known ready =>
      have created := created_of_ready known sized.heap ready
      exact
        { heap := sized.heap.evolves evolves.heap
          tenants := by
            intro tenant member
            rcases List.mem_append.mp member with old | new
            · exact (sized.tenants tenant old).evolves evolves.heap (.refl _)
            · rw [List.mem_singleton] at new
              subst new
              exact created.memories
          identities := by
            intro tenant member
            rcases List.mem_append.mp member with old | new
            · exact Nat.lt_of_lt_of_le (sized.identities tenant old) evolves.heap.identities
            · rw [List.mem_singleton] at new
              subst new
              exact created.next
          distinct := by
            rw [List.map_append, List.nodup_append]
            refine ⟨sized.distinct, by simp, ?_⟩
            intro identity old other new
            obtain ⟨tenant, member, rfl⟩ := List.mem_map.mp old
            rw [List.map_singleton, List.mem_singleton] at new
            rw [new]
            have earlier := sized.identities tenant member
            rw [← created.identity] at earlier
            exact Nat.ne_of_lt earlier }
  | refuse known failed => exact kept evolves.heap
  | @writeMemory index memoryIndex address tenant bytes store found _ written =>
      have kept := writeMemoryAt_memories store written
      exact sized.update found evolves.heap ⟨rfl, kept.memories, kept.data, kept.elements⟩
  | @invoke index tenant name args found _ =>
      refine sized.update found evolves.heap
        (@Tenant.after_evolves σ tenant (before.store tenant) _ ?_ rfl rfl rfl)
      rw [startExport_store]
      exact .refl _
  | @resume index tenant activity found _ =>
      exact sized.update found evolves.heap
        (Tenant.after_evolves (step_memories (activity.machine (before.store tenant))) rfl rfl rfl)
  | @drop index tenant _ _ =>
      refine sized.evolves evolves.heap (fun other member => ?_) ?_
      · exact ⟨other, List.mem_of_mem_eraseIdx member, .refl _⟩
      · exact (List.eraseIdx_sublist ..).map _

theorem Reachable.sized {world : World σ} (reachable : world.Reachable) : world.Sized :=
  reachable.induct start_sized Step.sized

/-- No instance has segments that its module does not leave it. -/
theorem Reachable.drained {world : World σ} (reachable : world.Reachable) :
    ∀ tenant ∈ world.tenants, tenant.Drained := by
  have both : world.Sized ∧ ∀ tenant ∈ world.tenants, tenant.Drained := by
    refine @Reachable.induct σ
      (fun world => world.Sized ∧ ∀ tenant ∈ world.tenants, tenant.Drained) ?_ ?_ world reachable
    · intro granted host
      exact ⟨start_sized granted host, fun _ member => by cases member⟩
    · intro before after step holds
      refine ⟨step.sized holds.1, fun tenant member => ?_⟩
      rcases (step.memories holds.1.heap).tenants tenant member with
        ⟨old, oldMember, evolves⟩ | ⟨-, drained⟩
      · exact (holds.2 old oldMember).evolves evolves
      · exact drained
  exact both.2

theorem Steps.memories {before after : World σ} (steps : Steps before after)
    (sized : before.Sized) : before.MemoriesEvolve after ∧ after.Sized := by
  induction steps with
  | refl => exact ⟨.refl before, sized⟩
  | tail _ last ih => exact ⟨ih.1.trans (last.memories ih.2.heap), last.sized ih.2⟩

/-- An instance that is still there has evolved. -/
theorem Steps.survivor {before after : World σ} (steps : Steps before after)
    (sized : before.Sized) {tenant survivor : Tenant σ} (member : tenant ∈ before.tenants)
    (survives : survivor ∈ after.tenants)
    (same : survivor.inst.identity = tenant.inst.identity) : tenant.Evolves survivor := by
  rcases (steps.memories sized).1.tenants survivor survives with
    ⟨old, oldMember, evolved⟩ | ⟨new, -⟩
  · have sameTenant : old = tenant := by
      refine List.inj_on_of_nodup_map sized.distinct oldMember member ?_
      simp only [← same, evolved.inst]
    rwa [sameTenant] at evolved
  · rw [same] at new
    exact absurd (sized.identities tenant member) (Nat.not_lt.mpr new)

end World

/-! ## What a reader of the sizes sees -/

/-- The length is a whole number of pages, at least `minimum` and at most every one
of the limits. -/
structure LinearMemory.InLimits (memory : LinearMemory) (minimum : Nat) (maximum : Option Nat)
    (runtimeMax : Nat) : Prop where
  pages : wasmPageSize ∣ memory.bytes.length
  atLeast : minimum * wasmPageSize ≤ memory.bytes.length
  atMost : memory.bytes.length ≤ min (maximum.getD maxMemoryPages) maxMemoryPages * wasmPageSize
  runtime : memory.bytes.length ≤ runtimeMax * wasmPageSize

/-- A memory that grows keeps its limit. -/
theorem LinearMemory.Whole.inLimits {memory : LinearMemory} (whole : memory.Whole)
    {minimum runtimeMax : Nat} {maximum : Option Nat}
    (atLeast : minimum * wasmPageSize ≤ memory.bytes.length)
    (declared : memory.maxPages ≤ maximum.getD maxMemoryPages)
    (runtime : memory.maxPages ≤ runtimeMax) : memory.InLimits minimum maximum runtimeMax where
  pages := whole.pages
  atLeast := atLeast
  atMost := Nat.le_trans whole.within
    (Nat.mul_le_mul_right _ (Nat.le_min.mpr ⟨declared, whole.addressable⟩))
  runtime := Nat.le_trans whole.within (Nat.mul_le_mul_right _ runtime)

theorem MemoryCell.Sized.inLimits {cell : MemoryCell} (sized : cell.Sized) :
    cell.memory.InLimits cell.minimum cell.maximum (cell.maximum.getD maxMemoryPages) :=
  sized.whole.inLimits sized.atLeast sized.limit.le sized.limit.le

section Memories

variable {store : Store σ} {limits : RuntimeLimits}

/-- The memory at an index, with the type that the module declares for it. -/
theorem MemoriesSized.at {types : List MemoryType} {index : Nat} {memory : LinearMemory}
    (sized : MemoriesSized store.heap limits types store.memories)
    (found : store.memoryAt index = .ok memory) :
    ∃ entry type, store.memories[index]? = some entry ∧ types[index]? = some type ∧
      store.linearMemory entry = memory ∧ RuntimeMemory.Sized store.heap limits type entry := by
  unfold Store.memoryAt at found
  split at found
  · next entry here =>
      cases found
      obtain ⟨inside, rfl⟩ := List.getElem?_eq_some_iff.mp here
      have typed : index < types.length := by
        rw [sized.length_eq]
        exact inside
      refine ⟨_, types[index], here, List.getElem?_eq_getElem typed, rfl, ?_⟩
      exact sized.get typed inside
  · cases found

theorem RuntimeMemory.Sized.inLimits {type : MemoryType} {entry : RuntimeMemory}
    (heap : store.heap.Sized) (sized : RuntimeMemory.Sized store.heap limits type entry) :
    (store.linearMemory entry).Whole ∧
      (store.linearMemory entry).InLimits type.limits.min type.limits.max
        limits.maxMemoryPages := by
  cases sized with
  | owned whole atLeast declared runtime =>
      exact ⟨whole, whole.inLimits atLeast declared runtime⟩
  | @imported handle allocated width atLeast declared runtime =>
      have cell := heap handle.address allocated
      refine ⟨cell.whole, cell.whole.inLimits ?_ ?_ ?_⟩
      · exact Nat.le_trans (Nat.mul_le_mul_right _ atLeast) cell.atLeast
      · rw [cell.limit]
        exact declared
      · rw [cell.limit]
        exact runtime

/-- A memory that was written back is the one that is found. -/
theorem memoryAt_setMemoryAt {index : Nat} {memory after : LinearMemory}
    (found : store.memoryAt index = .ok memory) :
    (store.setMemoryAt index after).memoryAt index = .ok after := by
  unfold Store.memoryAt at found
  unfold Store.setMemoryAt
  cases here : store.memories[index]? with
  | none =>
      rw [here] at found
      cases found
  | some entry =>
      have inside := (List.getElem?_eq_some_iff.mp here).1
      cases entry with
      | owned memory =>
          simp only [Store.memoryAt, List.getElem?_set_self inside, Store.linearMemory]
      | imported handle =>
          simp only [Store.memoryAt, here, Store.linearMemory, Heap.memory,
            Heap.setLinearMemory, Arena.get_set_self]

/-- The memories of a store that is one step further are no shorter. -/
theorem MemoriesEvolve.longer {before after : Store σ} {types : List MemoryType} {index : Nat}
    {memory : LinearMemory} (heap : before.heap.MemoriesEvolve after.heap)
    (memories : Runtime.MemoriesEvolve before.memories after.memories)
    (sized : MemoriesSized before.heap limits types before.memories)
    (found : before.memoryAt index = .ok memory) :
    ∃ later, after.memoryAt index = .ok later ∧ memory.bytes.length ≤ later.bytes.length := by
  obtain ⟨entry, type, here, -, rfl, sizedEntry⟩ := sized.at found
  obtain ⟨inside, rfl⟩ := List.getElem?_eq_some_iff.mp here
  have insideAfter : index < after.memories.length := by
    rw [← memories.length_eq]
    exact inside
  have evolves := memories.get inside insideAfter
  have foundAfter : after.memoryAt index = .ok (after.linearMemory after.memories[index]) := by
    simp only [Store.memoryAt, List.getElem?_eq_getElem insideAfter]
  refine ⟨_, foundAfter, ?_⟩
  rw [List.get_eq_getElem, List.get_eq_getElem] at evolves
  generalize before.memories[index] = old at evolves sizedEntry
  generalize after.memories[index] = new at evolves
  cases evolves with
  | owned evolved => exact evolved.longer
  | imported handle =>
      cases sizedEntry with
      | imported allocated => exact (heap.kept handle.address allocated).memory.longer

end Memories

/-! ## Growing -/

/-- What a grow returns and leaves: with `-1` the memory as it was, and otherwise
the previous page count and the memory with the zeroed pages appended. -/
def GrowLaw {bits : Nat} (before : LinearMemory) (delta : Nat) (returned : BitVec bits)
    (after : LinearMemory) : Prop :=
  (returned = -1 → after = before) ∧
    (returned ≠ -1 → returned.toNat = before.sizePages ∧
      after =
        { before with bytes := before.bytes ++ List.replicate (delta * wasmPageSize) 0 })

theorem LinearMemory.Whole.growLaw {memory : LinearMemory} (whole : memory.Whole)
    (granted : Bool) (delta : Nat) :
    GrowLaw memory delta (memory.grow granted delta).1 (memory.grow granted delta).2 := by
  rcases whole.grow granted delta with same | ⟨notFailure, returned, grown, -⟩
  · rw [same]
    exact ⟨fun _ => rfl, fun different => absurd rfl different⟩
  · exact ⟨fun failure => absurd failure notFailure, fun _ => ⟨returned, grown⟩⟩

/-- The answer of a 64-bit memory. -/
theorem LinearMemory.Whole.growLaw_wide {memory : LinearMemory} (whole : memory.Whole)
    (granted : Bool) (delta : Nat) :
    GrowLaw memory delta ((memory.grow granted delta).1.signExtend 64)
      (memory.grow granted delta).2 := by
  rcases whole.grow granted delta with same | ⟨-, returned, grown, -⟩
  · have failure : (-1 : BitVec 32).signExtend 64 = -1 := by decide
    rw [same]
    exact ⟨fun _ => rfl, fun different => absurd failure different⟩
  · have small : memory.sizePages ≤ maxMemoryPages :=
      Nat.le_trans whole.sizePages_le whole.addressable
    have positive : (memory.grow granted delta).1.msb = false := by
      rw [BitVec.msb_eq_false_iff_two_mul_lt, returned]
      exact Nat.lt_of_le_of_lt (Nat.mul_le_mul_left 2 small) (by decide)
    have wide : ((memory.grow granted delta).1.signExtend 64).toNat = memory.sizePages := by
      rw [BitVec.signExtend_eq_setWidth_of_msb_false positive, BitVec.toNat_setWidth, returned]
      exact Nat.mod_eq_of_lt (Nat.lt_of_le_of_lt small (by decide))
    refine ⟨fun failure => ?_, fun _ => ⟨wide, grown⟩⟩
    rw [failure] at wide
    have large : maxMemoryPages < (-1 : BitVec 64).toNat := by decide
    omega

/-- What `memory.grow` does: the operand and the answer have the width of the
memory's addresses, and the memory at the index follows the law. -/
def MemoryGrown (index : Nat) (before after : PlainState σ) : Prop :=
  ∃ memory grown rest, before.store.memoryAt index = .ok memory ∧
    after.store.memoryAt index = .ok grown ∧
    ((∃ delta returned : BitVec 32, before.stack = .i32 delta :: rest ∧
        after.stack = .i32 returned :: rest ∧ GrowLaw memory delta.toNat returned grown) ∨
      ∃ delta returned : BitVec 64, before.stack = .i64 delta :: rest ∧
        after.stack = .i64 returned :: rest ∧ GrowLaw memory delta.toNat returned grown)

theorem executeMemoryGrow_law {inst : Instance σ} {state : PlainState σ} {index : Nat}
    (exists_ : index < state.store.memories.length)
    (whole : ∀ memory, state.store.memoryAt index = .ok memory → memory.Whole) :
    Ensures (MemoryGrown index state) (executeMemoryGrow inst state index) := by
  have present : ∃ memory, state.store.memoryAt index = .ok memory := by
    refine ⟨state.store.linearMemory state.store.memories[index], ?_⟩
    simp only [Store.memoryAt, List.getElem?_eq_getElem exists_]
  obtain ⟨memory, found⟩ := present
  have wholeHere := whole memory found
  have grows (delta : Nat) :
      growMemoryAt state.store index delta =
        .ok ((memory.grow (state.store.heap.granted 0) delta).1,
          ({ state.store with heap := state.store.heap.tick } : Store σ).setMemoryAt index
            (memory.grow (state.store.heap.granted 0) delta).2) := by
    rw [growMemoryAt, found]
    rfl
  have foundAfter (delta : Nat) :
      (({ state.store with heap := state.store.heap.tick } : Store σ).setMemoryAt index
          (memory.grow (state.store.heap.granted 0) delta).2).memoryAt index =
        .ok (memory.grow (state.store.heap.granted 0) delta).2 :=
    @memoryAt_setMemoryAt σ { state.store with heap := state.store.heap.tick } index memory _ found
  simp only [executeMemoryGrow, ensures_bind]
  intro wide _
  apply Ensures.ite <;>
    simp only [ensures_bind, ensures_i32FromStack, ensures_i64FromStack, grows, ensures_ok,
      ensures_pure]
  · intro delta rest stackEq
    refine (ensures_ite ..).mpr ⟨fun _ => ?_, fun _ => ?_⟩
    · rw [ensures_pure]
      refine ⟨memory, memory, rest, found, found, .inr ⟨delta, -1, stackEq, rfl, ?_⟩⟩
      exact ⟨fun _ => rfl, fun different => absurd rfl different⟩
    · rw [ensures_bind, ensures_ok, ensures_pure]
      exact ⟨memory, _, rest, found, foundAfter delta.toNat,
        .inr ⟨delta, _, stackEq, rfl, wholeHere.growLaw_wide ..⟩⟩
  · intro delta rest stackEq
    exact ⟨memory, _, rest, found, foundAfter delta.toNat,
      .inl ⟨delta, _, stackEq, rfl, wholeHere.growLaw ..⟩⟩

/-- The sizes of memories in every world of every history: each shared memory is
within the limits of its handle, each memory of an instance within those of its
declaration and of the instance, no memory ever shrinks, and growing a memory,
by an instruction or through a handle, follows the law. -/
theorem memories_in_limits {world : World σ} (reachable : world.Reachable) :
    (∀ handle : MemoryHandle, handle.address < world.heap.memories.size →
      (world.heap.memory handle).memory.InLimits (world.heap.memory handle).minimum
        (world.heap.memory handle).maximum
        ((world.heap.memory handle).maximum.getD maxMemoryPages) ∧
      ∀ delta,
        let grown := (world.heap.memory handle).memory.grow (world.heap.granted 0) delta
        (((HandleOp.growMemory handle delta).apply world.heap).memory handle).memory = grown.2 ∧
          GrowLaw (world.heap.memory handle).memory delta grown.1 grown.2) ∧
    (∀ tenant ∈ world.tenants, ∀ index memory,
      (world.store tenant).memoryAt index = .ok memory →
      (∃ type, tenant.inst.module.memoryType index = some type ∧
        memory.InLimits type.limits.min type.limits.max
          tenant.inst.limits.maxMemoryPages) ∧
      ∀ state : PlainState σ, state.store = world.store tenant →
        Ensures (MemoryGrown index state) (executeMemoryGrow tenant.inst state index)) ∧
    ∀ later, World.Steps world later →
      (∀ handle : MemoryHandle, handle.address < world.heap.memories.size →
        (world.heap.memory handle).memory.bytes.length ≤
          (later.heap.memory handle).memory.bytes.length) ∧
      ∀ tenant ∈ world.tenants, ∀ survivor ∈ later.tenants,
        survivor.inst.identity = tenant.inst.identity → ∀ index memory,
        (world.store tenant).memoryAt index = .ok memory →
          ∃ grown, (later.store survivor).memoryAt index = .ok grown ∧
            memory.bytes.length ≤ grown.bytes.length := by
  have sized := reachable.sized
  refine ⟨fun handle allocated => ?_, fun tenant member index memory found => ?_,
    fun later steps => ?_⟩
  · have cell := sized.heap handle.address allocated
    refine ⟨cell.inLimits, fun delta => ⟨?_, cell.whole.growLaw ..⟩⟩
    simp only [HandleOp.apply, Heap.memory, Heap.setLinearMemory, Arena.get_set_self]
  · have tenantSized : MemoriesSized (world.store tenant).heap tenant.inst.limits
        (memoryTypes tenant.inst.module) (world.store tenant).memories :=
      sized.tenants tenant member
    have wholeAt (memory : LinearMemory)
        (found : (world.store tenant).memoryAt index = .ok memory) :
        memory.Whole ∧ ∃ type, tenant.inst.module.memoryType index = some type ∧
          memory.InLimits type.limits.min type.limits.max
            tenant.inst.limits.maxMemoryPages := by
      obtain ⟨entry, type, -, typed, rfl, entrySized⟩ := tenantSized.at found
      obtain ⟨whole, inLimits⟩ := entrySized.inLimits sized.heap
      refine ⟨whole, type, ?_, inLimits⟩
      rw [Module.memoryType, Module.lookup_eq_append]
      exact typed
    refine ⟨(wholeAt memory found).2, fun state same => ?_⟩
    obtain ⟨entry, -, here, -⟩ := tenantSized.at found
    have inside := (List.getElem?_eq_some_iff.mp here).1
    exact executeMemoryGrow_law (by rw [same]; exact inside)
      (by rw [same]; exact fun memory found => (wholeAt memory found).1)
  · obtain ⟨evolves, -⟩ := steps.memories sized
    refine ⟨fun handle allocated => (evolves.heap.kept handle.address allocated).memory.longer, ?_⟩
    intro tenant member survivor survives same index memory found
    have evolved := steps.survivor sized member survives same
    exact @MemoriesEvolve.longer σ _ (world.store tenant) (later.store survivor) _ _ _
      evolves.heap evolved.memories (sized.tenants tenant member) found

/-- A handle created with one page, grown by one page. -/
def grownWorld : World Unit where
  heap :=
    (HandleOp.growMemory ⟨0⟩ 1).apply
      ((HandleOp.newMemory 1 (some 4) false).apply (.empty fun _ => true))
  host := ()
  tenants := []

theorem grownWorld_reachable : grownWorld.Reachable := by
  refine ⟨fun _ => true, (), ?_⟩
  have created : World.Step (World.start (fun _ => true) ()) _ :=
    .handle (.newMemory 1 (some 4) false)
  exact (Relation.ReflTransGen.single created).tail (.handle (.growMemory ⟨0⟩ 1))

/-- A function that grows an empty memory by a page, with no more than three pages. -/
def growingModule : Module where
  types := [⟨[], []⟩]
  functionTypeIndices := [0]
  memories := [⟨⟨0, some 3, false⟩⟩]
  exports := [⟨"run", .function, 0⟩]
  code := [⟨[], [0x41, 0x01, 0x40, 0x00, 0x1a, 0x0b]⟩]

def noHosts : HostRegistry Unit where
  functions := []
  globals := []
  tables := []
  memories := []

/-- The memory before and behind the instruction. -/
theorem growing_runs : ∃ (world later : World Unit) (tenant survivor : Tenant Unit)
    (memory grown : LinearMemory),
    world.Reachable ∧ tenant ∈ world.tenants ∧
      (world.store tenant).memoryAt 0 = .ok memory ∧ memory.bytes = [] ∧
      World.Steps world later ∧ survivor ∈ later.tenants ∧
      survivor.inst.identity = tenant.inst.identity ∧
      (later.store survivor).memoryAt 0 = .ok grown ∧ grown.bytes.length = wasmPageSize := by
  have ready : instantiate growingModule noHosts ⟨26, 2, none, none⟩
      (Heap.empty fun _ => true) () = .ready _ _ := rfl
  have known : noHosts.Known (Heap.empty fun _ => true) := by
    constructor <;> intro entry member <;> cases member
  have instantiated : World.Step (World.start (fun _ => true) ()) _ := .instantiate known ready
  have invoked := (Relation.ReflTransGen.single instantiated).tail
    (@World.Step.invoke Unit _ 0 _ "run" [] rfl rfl)
  have entered := invoked.tail (@World.Step.resume Unit _ 0 _ _ rfl rfl)
  have pushed := entered.tail (@World.Step.resume Unit _ 0 _ _ rfl rfl)
  exact ⟨_, _, _, _, _, _, ⟨_, _, pushed⟩, List.mem_singleton.mpr rfl, rfl, rfl,
    .single (@World.Step.resume Unit _ 0 _ _ rfl rfl), List.mem_singleton.mpr rfl, rfl, rfl,
    List.length_replicate⟩

/-- The handle and the instance have grown by a page, within their limits. -/
theorem memories_in_limits_grown :
    (grownWorld.heap.memory ⟨0⟩).memory.InLimits 1 (some 4) 4 ∧
    ∃ (world later : World Unit) (tenant survivor : Tenant Unit) (memory grown : LinearMemory),
      (world.store tenant).memoryAt 0 = .ok memory ∧ memory.bytes = [] ∧
        World.Steps world later ∧ (later.store survivor).memoryAt 0 = .ok grown ∧
        grown.bytes.length = wasmPageSize ∧
        ∃ type, survivor.inst.module.memoryType 0 = some type ∧
          grown.InLimits type.limits.min type.limits.max survivor.inst.limits.maxMemoryPages := by
  refine ⟨((memories_in_limits grownWorld_reachable).1 ⟨0⟩ (by decide)).1, ?_⟩
  obtain ⟨world, later, tenant, survivor, memory, grown, ⟨granted, host, start⟩, member, found,
    empty, steps, survives, same, foundLater, page⟩ := growing_runs
  have reachable : later.Reachable := ⟨granted, host, start.trans steps⟩
  obtain ⟨-, instances, -⟩ := memories_in_limits reachable
  obtain ⟨within, -⟩ := instances survivor survives 0 grown foundLater
  exact ⟨world, later, tenant, survivor, memory, grown, found, empty, steps, foundLater, page,
    within⟩

end MiniWasm.Runtime
