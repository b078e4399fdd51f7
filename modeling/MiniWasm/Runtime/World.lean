import Mathlib.Logic.Relation
import MiniWasm.Runtime.Fuel

/-!
# Several instances over one heap

An embedder holds any number of instances that share memories, tables and
globals, and host callbacks reach the shared objects as well.  A world is the
heap with everything that the instances keep to themselves; its steps are the
calls of the embedding interface and the steps of the invocations under way, in
any order.  An invocation that starts while another one is under way, as from
inside a callback, is one of these orders.
-/

namespace MiniWasm.Runtime

variable {σ : Type}

/-- An invocation under way: a machine without its store. -/
structure Activity where
  budget : ExecutionBudget
  current : Current
  callers : List GuestFrame
  depth : Nat

def Activity.machine (activity : Activity) (store : Store σ) : Machine σ :=
  { store, budget := activity.budget, current := activity.current, callers := activity.callers
    depth := activity.depth }

def Machine.activity (machine : Machine σ) : Activity where
  budget := machine.budget
  current := machine.current
  callers := machine.callers
  depth := machine.depth

/-- An instance with the part of its store that no other instance can reach. -/
structure Tenant (σ : Type) where
  inst : Instance σ
  memories : List RuntimeMemory
  dataSegments : List (List UInt8)
  elementSegments : List (List Nat)
  activity : Option Activity

structure World (σ : Type) where
  heap : Heap
  host : σ
  tenants : List (Tenant σ)

namespace Tenant

variable (tenant : Tenant σ)

/-- A tenant that has the given store to itself. -/
def ofStore (inst : Instance σ) (store : Store σ) (activity : Option Activity) : Tenant σ where
  inst
  memories := store.memories
  dataSegments := store.dataSegments
  elementSegments := store.elementSegments
  activity

/-- The tenant behind a step of its invocation. -/
def after : InvokeState σ → Tenant σ
  | .running machine => .ofStore tenant.inst machine.store (some machine.activity)
  | .finished store _ => .ofStore tenant.inst store none

@[simp] theorem after_inst (state : InvokeState σ) : (tenant.after state).inst = tenant.inst := by
  cases state <;> rfl

end Tenant

@[simp] theorem Tenant.after_memories (tenant : Tenant σ) (state : InvokeState σ) :
    (tenant.after state).memories = state.store.memories := by
  cases state <;> rfl

@[simp] theorem Tenant.after_dataSegments (tenant : Tenant σ) (state : InvokeState σ) :
    (tenant.after state).dataSegments = state.store.dataSegments := by
  cases state <;> rfl

@[simp] theorem Tenant.after_elementSegments (tenant : Tenant σ) (state : InvokeState σ) :
    (tenant.after state).elementSegments = state.store.elementSegments := by
  cases state <;> rfl

/-- The handles that functions are registered with exist. -/
structure HostRegistry.Known (hosts : HostRegistry σ) (heap : Heap) : Prop where
  memories : ∀ entry ∈ hosts.memories, entry.2.address < heap.memories.size
  tables : ∀ entry ∈ hosts.tables, entry.2.address < heap.tables.size
  globals : ∀ entry ∈ hosts.globals, entry.2.address < heap.globals.size

/-- `Instance::write_memory_at`. -/
def Store.writeMemoryAt (store : Store σ) (memoryIndex address : Nat) (bytes : List UInt8) :
    Run (Store σ) :=
  store.withMemoryIndexMut memoryIndex fun memory => do
    let start ← memory.checkedBulkRange address bytes.length
    return memory.writeBytes start bytes

namespace World

/-- Before anything was created. -/
def start (granted : Nat → Bool) (host : σ) : World σ where
  heap := .empty granted
  host
  tenants := []

/-- The store that a tenant works on. -/
def store (world : World σ) (tenant : Tenant σ) : Store σ where
  heap := world.heap
  memories := tenant.memories
  dataSegments := tenant.dataSegments
  elementSegments := tenant.elementSegments
  host := world.host

/-- The world behind a step of one of its tenants. -/
def advance (world : World σ) (index : Nat) (tenant : Tenant σ) (state : InvokeState σ) :
    World σ where
  heap := state.store.heap
  host := state.store.host
  tenants := world.tenants.set index (tenant.after state)

inductive Step (world : World σ) : World σ → Prop where
  /-- A call on a handle. -/
  | handle (op : HandleOp) : Step world { world with heap := op.apply world.heap }
  /-- The state that the callbacks share changes from outside. -/
  | host (host : σ) : Step world { world with host }
  | instantiate {module : Module} {hosts : HostRegistry σ} {limits : RuntimeLimits}
      {inst : Instance σ} {store : Store σ} :
      hosts.Known world.heap →
      Runtime.instantiate module hosts limits world.heap world.host = .ready inst store →
      Step world
        { heap := store.heap
          host := store.host
          tenants := world.tenants ++
            [.ofStore inst store ((startFunction inst store).map Machine.activity)] }
  | refuse {module : Module} {hosts : HostRegistry σ} {limits : RuntimeLimits} {heap : Heap}
      {err : RuntimeError} :
      hosts.Known world.heap →
      Runtime.instantiate module hosts limits world.heap world.host = .failed heap err →
      Step world { world with heap }
  /-- `Instance::write_memory_at`, on an instance that is not running. -/
  | writeMemory {index memoryIndex address : Nat} {tenant : Tenant σ} {bytes : List UInt8}
      {store : Store σ} :
      world.tenants[index]? = some tenant → tenant.activity = none →
      (world.store tenant).writeMemoryAt memoryIndex address bytes = .ok store →
      Step world
        { world with
          heap := store.heap
          tenants := world.tenants.set index (.ofStore tenant.inst store none) }
  /-- `invoke_export_values` on an instance that is not running. -/
  | invoke {index : Nat} {tenant : Tenant σ} (name : String) (args : List Value) :
      world.tenants[index]? = some tenant → tenant.activity = none →
      Step world
        (world.advance index tenant (tenant.inst.startExport (world.store tenant) name args))
  /-- A step of an invocation under way. -/
  | resume {index : Nat} {tenant : Tenant σ} {activity : Activity} :
      world.tenants[index]? = some tenant → tenant.activity = some activity →
      Step world
        (world.advance index tenant
          ((activity.machine (world.store tenant)).step tenant.inst))
  /-- An instance is dropped, also one whose start function has failed. -/
  | drop {index : Nat} {tenant : Tenant σ} :
      world.tenants[index]? = some tenant → tenant.activity = none →
      Step world
        { world with
          heap := world.heap.dropIdentity tenant.inst.identity
          tenants := world.tenants.eraseIdx index }

/-- Any number of steps. -/
def Steps : World σ → World σ → Prop :=
  Relation.ReflTransGen Step

/-- Worlds of histories that start with nothing. -/
def Reachable (world : World σ) : Prop :=
  ∃ granted host, Steps (start granted host) world

/-- A property of pairs of worlds that holds of every step, goes through chains and
holds of a world and itself holds of every history. -/
theorem Steps.lift {relation : World σ → World σ → Prop} (refl : ∀ world, relation world world)
    (trans : ∀ {first second third}, relation first second → relation second third →
      relation first third)
    (step : ∀ {before after}, Step before after → relation before after)
    {before after : World σ} (steps : Steps before after) : relation before after := by
  induction steps with
  | refl => exact refl before
  | tail _ last ih => exact trans ih (step last)

/-- An invariant of all histories. -/
theorem Reachable.induct {invariant : World σ → Prop}
    (start : ∀ granted host, invariant (start granted host))
    (step : ∀ {before after}, Step before after → invariant before → invariant after)
    {world : World σ} (reachable : Reachable world) : invariant world := by
  obtain ⟨granted, host, steps⟩ := reachable
  induction steps with
  | refl => exact start granted host
  | tail _ last ih => exact step last ih

end World

end MiniWasm.Runtime
