import MiniWasm.Library.Guarded
import MiniWasm.Runtime.Dispatch
import MiniWasm.Runtime.MemoryHistories

/-!
# Single instructions and what they write

A plain instruction as a step of the machine, and what the write of one memory
leaves as it was.  Two indices may name one shared memory.
-/

namespace MiniWasm.Runtime

open Library

variable {σ : Type}

/-! ## Plain instructions as steps -/

/-- The machine is about to execute a plain instruction and has fuel for it. -/
structure Machine.AtPlain (machine : Machine σ) (frame : GuestFrame) (instr : Plain) (pc : Nat)
    (budget : ExecutionBudget) : Prop where
  current : machine.current = .frame frame
  decoded : Spec.simpleAt frame.code frame.pc = some (.plain instr, pc)
  known : ∀ memory ∈ instr.memories, memory < machine.store.memories.length
  fuelled : machine.budget.consumeInstruction = .ok budget

/-- What the instruction works on. -/
def Machine.plainState (machine : Machine σ) (frame : GuestFrame) : PlainState σ where
  store := machine.store
  locals := frame.locals
  stack := frame.stack

/-- The machine behind the instruction. -/
def Machine.afterPlain (machine : Machine σ) (frame : GuestFrame) (pc : Nat)
    (budget : ExecutionBudget) (state : PlainState σ) : Machine σ :=
  { machine with
    store := state.store
    budget
    current := .frame { frame with pc, locals := state.locals, stack := state.stack } }

section Steps

variable {machine : Machine σ} {inst : Instance σ} {frame : GuestFrame} {instr : Plain}
variable {pc : Nat} {budget : ExecutionBudget}

theorem Machine.AtPlain.step_ok {state : PlainState σ}
    (ready : machine.AtPlain frame instr pc budget)
    (executed : executePlain inst frame.localTypes (machine.plainState frame) instr = .ok state) :
    machine.step inst = .running (machine.afterPlain frame pc budget state) := by
  have run : frameStep inst machine.store machine.budget frame = .ok
      (state.store, budget,
        .running { frame with pc, locals := state.locals, stack := state.stack }) := by
    rw [frameStep_simple ready.decoded ready.known, ready.fuelled, ok_bind]
    change (executePlain inst frame.localTypes (machine.plainState frame) instr >>= _) >>= _ = _
    rw [executed]
    rfl
  simp only [Machine.step, ready.current, run]
  rfl

/-- An instruction that fails ends the invocation and leaves the store. -/
theorem Machine.AtPlain.step_error {err : RuntimeError}
    (ready : machine.AtPlain frame instr pc budget)
    (failed : executePlain inst frame.localTypes (machine.plainState frame) instr = .error err) :
    machine.step inst = .finished machine.store (.error err) := by
  have run : frameStep inst machine.store machine.budget frame = .error err := by
    rw [frameStep_simple ready.decoded ready.known, ready.fuelled, ok_bind]
    change (executePlain inst frame.localTypes (machine.plainState frame) instr >>= _) >>= _ = _
    rw [failed]
    rfl
  simp only [Machine.step, ready.current, run]

/-- The instruction traps with one of the errors, and the store is as it was. -/
def Machine.Refuses (inst : Instance σ) (machine : Machine σ) (refuses : RuntimeError → Prop) :
    Prop :=
  ∃ err, refuses err ∧ machine.step inst = .finished machine.store (.error err)

/-- A step whose outcome only a guard decides. -/
theorem Machine.AtPlain.guarded {refuses : RuntimeError → Prop} {guard : Prop}
    {post : PlainState σ → Prop} (ready : machine.AtPlain frame instr pc budget)
    (obeys : Guarded refuses guard post
      (executePlain inst frame.localTypes (machine.plainState frame) instr)) :
    (machine.Refuses inst refuses ↔ ¬ guard) ∧
      (guard → ∃ after, post after ∧
        machine.step inst = .running (machine.afterPlain frame pc budget after)) := by
  have succeeds (holds : guard) : ∃ after, post after ∧
      machine.step inst = .running (machine.afterPlain frame pc budget after) := by
    obtain ⟨after, executed, posted⟩ := obeys.succeeds holds
    exact ⟨after, posted, ready.step_ok executed⟩
  refine ⟨⟨?_, ?_⟩, succeeds⟩
  · rintro ⟨err, -, trapped⟩ holds
    obtain ⟨after, -, running⟩ := succeeds holds
    rw [running] at trapped
    cases trapped
  · intro outside
    obtain ⟨err, failed, refusal⟩ := obeys.traps outside
    exact ⟨err, refusal, ready.step_error failed⟩

end Steps

/-! ## Writing a memory -/

namespace Store

variable {store before after : Store σ} {index : Nat} {memory written : LinearMemory}

/-- Two indices name one memory. -/
def SameMemory (store : Store σ) (first second : Nat) : Prop :=
  first = second ∨ ∃ handle, store.memories[first]? = some (.imported handle) ∧
    store.memories[second]? = some (.imported handle)

/-- The store behind the write of a memory: whoever shares the memory sees it, and
everything else is as before. -/
structure MemoryWritten (before after : Store σ) (index : Nat) (written : LinearMemory) :
    Prop where
  same : ∀ other, before.SameMemory index other → after.memoryAt other = .ok written
  others : ∀ other, ¬ before.SameMemory index other →
    after.memoryAt other = before.memoryAt other
  shared : ∀ handle, before.memories[index]? = some (.imported handle) →
    after.heap.memory handle = { before.heap.memory handle with memory := written }
  handles : ∀ handle, before.memories[index]? ≠ some (.imported handle) →
    after.heap.memory handle = before.heap.memory handle
  rest : ∃ memories shared, after =
    { before with memories, heap := { before.heap with memories := shared } }

theorem withMemoryIndexMut_found (found : store.memoryAt index = .ok memory)
    (update : LinearMemory → Run LinearMemory) :
    store.withMemoryIndexMut index update =
      (do return store.setMemoryAt index (← update memory)) := by
  rw [withMemoryIndexMut, found, ok_bind]

theorem memoryWritten_setMemoryAt (found : store.memoryAt index = .ok memory)
    (written : LinearMemory) :
    store.MemoryWritten (store.setMemoryAt index written) index written := by
  have present : ∃ entry, store.memories[index]? = some entry := by
    unfold memoryAt at found
    split at found
    · next entry here => exact ⟨entry, here⟩
    · cases found
  obtain ⟨entry, here⟩ := present
  have inside := (List.getElem?_eq_some_iff.mp here).1
  cases entry with
  | owned memory =>
      have set : store.setMemoryAt index written =
          { store with memories := store.memories.set index (.owned written) } := by
        rw [setMemoryAt, here]
      rw [set]
      constructor
      case same =>
        intro other same
        rcases same with rfl | ⟨handle, imported, -⟩
        · simp only [memoryAt, List.getElem?_set_self inside, linearMemory]
        · rw [here] at imported
          cases imported
      case others =>
        intro other different
        have ne : index ≠ other := fun equal => different (.inl equal)
        simp only [memoryAt, List.getElem?_set_ne ne]
        rfl
      case shared =>
        intro handle imported
        rw [here] at imported
        cases imported
      case handles => exact fun _ _ => rfl
      case rest => exact ⟨_, _, rfl⟩
  | imported handle =>
      have set : store.setMemoryAt index written =
          { store with heap := store.heap.setLinearMemory handle written } := by
        rw [setMemoryAt, here]
      have elsewhere {other : MemoryHandle} (ne : other ≠ handle) :
          (store.heap.setLinearMemory handle written).memory other = store.heap.memory other := by
        have address : other.address ≠ handle.address := fun equal => ne (by
          cases other
          cases handle
          exact congrArg MemoryHandle.mk equal)
        exact Arena.get_set_of_ne _ _ address
      rw [set]
      constructor
      case same =>
        intro other same
        have there : store.memories[other]? = some (.imported handle) := by
          rcases same with rfl | ⟨_, imported, there⟩
          · exact here
          · rw [here] at imported
            cases imported
            exact there
        simp only [memoryAt, there, linearMemory, Heap.memory, Heap.setLinearMemory,
          Arena.get_set_self]
      case others =>
        intro other different
        unfold memoryAt
        cases there : store.memories[other]? with
        | none => rfl
        | some entry =>
            cases entry with
            | owned memory => rfl
            | imported another =>
                have ne : another ≠ handle := by
                  rintro rfl
                  exact different (.inr ⟨another, here, there⟩)
                simp only [linearMemory, elsewhere ne]
      case shared =>
        intro other imported
        rw [here] at imported
        cases imported
        simp only [Heap.memory, Heap.setLinearMemory, Arena.get_set_self]
      case handles =>
        intro other notImported
        exact elsewhere fun same => notImported (by rw [same, here])
      case rest => exact ⟨_, _, rfl⟩

end Store

/-! ## Tenants of a world -/

/-- A machine of a tenant in a world that can come about. -/
structure World.Runs (world : World σ) (tenant : Tenant σ) (machine : Machine σ) : Prop where
  reachable : world.Reachable
  member : tenant ∈ world.tenants
  running : ∃ activity, tenant.activity = some activity ∧
    machine = activity.machine (world.store tenant)

theorem World.Runs.store {world : World σ} {tenant : Tenant σ} {machine : Machine σ}
    (runs : world.Runs tenant machine) : machine.store = world.store tenant := by
  obtain ⟨activity, -, rfl⟩ := runs.running
  rfl

/-- No memory of a running machine is larger than its addresses reach, and its
module declares each one. -/
theorem World.Runs.memory {world : World σ} {tenant : Tenant σ} {machine : Machine σ}
    (runs : world.Runs tenant machine) {index : Nat} {memory : LinearMemory}
    (found : machine.store.memoryAt index = .ok memory) :
    memory.bytes.length ≤ 2 ^ 32 ∧ ∃ type, tenant.inst.module.memoryType index = some type := by
  rw [runs.store] at found
  have sized := runs.reachable.sized
  have tenantSized : MemoriesSized (world.store tenant).heap tenant.inst.limits
      (memoryTypes tenant.inst.module) (world.store tenant).memories :=
    sized.tenants tenant runs.member
  obtain ⟨entry, type, -, typed, rfl, entrySized⟩ := tenantSized.at found
  obtain ⟨whole, -⟩ := entrySized.inLimits sized.heap
  refine ⟨?_, type, ?_⟩
  · calc _ ≤ _ * wasmPageSize := whole.within
      _ ≤ maxMemoryPages * wasmPageSize := Nat.mul_le_mul_right _ whole.addressable
      _ = 2 ^ 32 := by decide
  · rw [Module.memoryType, Module.lookup_eq_append]
    exact typed

end MiniWasm.Runtime
