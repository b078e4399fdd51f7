import MiniWasm.Runtime.Provenance
import MiniWasm.Runtime.Readiness

/-!
# Growth of memories

A memory changes in two ways: bytes are written over, and pages are appended.
This module follows both through everything that can touch a memory: guest
instructions, host callbacks, calls on handles, and instantiation.
-/

namespace MiniWasm.Runtime

open Library

variable {σ : Type}

/-! ## One memory -/

namespace LinearMemory

/-- The length is a whole number of pages within the limit of the memory. -/
structure Whole (memory : LinearMemory) : Prop where
  pages : wasmPageSize ∣ memory.bytes.length
  within : memory.bytes.length ≤ memory.maxPages * wasmPageSize
  addressable : memory.maxPages ≤ maxMemoryPages

/-- What can become of a memory. -/
structure Evolves (before after : LinearMemory) : Prop where
  maxPages : after.maxPages = before.maxPages
  longer : before.bytes.length ≤ after.bytes.length
  whole : before.Whole → after.Whole

theorem Evolves.refl (memory : LinearMemory) : memory.Evolves memory :=
  ⟨rfl, Nat.le_refl _, id⟩

theorem Evolves.trans {first second third : LinearMemory} (before : first.Evolves second)
    (after : second.Evolves third) : first.Evolves third :=
  ⟨after.maxPages.trans before.maxPages, Nat.le_trans before.longer after.longer,
    fun whole => after.whole (before.whole whole)⟩

theorem writeBytes_evolves (memory : LinearMemory) (start : Nat) (payload : List UInt8) :
    memory.Evolves (memory.writeBytes start payload) where
  maxPages := rfl
  longer := (memory.writeBytes_length start payload).ge
  whole whole :=
    { pages := (memory.writeBytes_length start payload).symm ▸ whole.pages
      within := (memory.writeBytes_length start payload).symm ▸ whole.within
      addressable := whole.addressable }

variable {memory : LinearMemory}

theorem Whole.length_eq (whole : memory.Whole) :
    memory.bytes.length = memory.sizePages * wasmPageSize :=
  (Nat.div_mul_cancel whole.pages).symm

theorem Whole.sizePages_le (whole : memory.Whole) : memory.sizePages ≤ memory.maxPages := by
  have within := whole.within
  rw [whole.length_eq] at within
  exact Nat.le_of_mul_le_mul_right within (by decide)

/-- A grow that is refused leaves the memory as it was; one that succeeds returns
the previous size and appends the zeroed pages. -/
def GrowsBy (before : LinearMemory) (delta : Nat) (grown : BitVec 32 × LinearMemory) : Prop :=
  grown = (-1, before) ∨
    grown.1 ≠ -1 ∧ grown.1.toNat = before.sizePages ∧
      grown.2 =
        { before with bytes := before.bytes ++ List.replicate (delta * wasmPageSize) 0 } ∧
      before.sizePages + delta ≤ before.maxPages

theorem Whole.grow (whole : memory.Whole) (granted : Bool) (delta : Nat) :
    memory.GrowsBy delta (memory.grow granted delta) := by
  have length := whole.length_eq
  have old : memory.sizePages ≤ maxMemoryPages :=
    Nat.le_trans whole.sizePages_le whole.addressable
  have small : memory.sizePages < 2 ^ 32 - 1 := Nat.lt_of_le_of_lt old (by decide)
  have returned : (BitVec.ofNat 32 memory.sizePages).toNat = memory.sizePages := by
    rw [BitVec.toNat_ofNat]
    exact Nat.mod_eq_of_lt (by omega)
  have notFailure : BitVec.ofNat 32 memory.sizePages ≠ -1 := by
    intro same
    have number := congrArg BitVec.toNat same
    rw [returned] at number
    have failure : (-1 : BitVec 32).toNat = 2 ^ 32 - 1 := by decide
    omega
  unfold LinearMemory.grow GrowsBy
  dsimp only
  split
  · exact .inl rfl
  split
  · exact .inl rfl
  next within =>
  have fits : memory.sizePages + delta ≤ memory.maxPages := Nat.le_of_not_lt within
  have added : (memory.sizePages + delta) * wasmPageSize - memory.bytes.length =
      delta * wasmPageSize := by
    rw [length, Nat.add_mul, Nat.add_sub_cancel_left]
  split
  · split
    · exact .inr ⟨notFailure, returned, by rw [added], fits⟩
    · exact .inl rfl
  · next unchanged =>
      have none : delta = 0 := by
        rw [length, Nat.add_mul] at unchanged
        have page : 0 < wasmPageSize := by decide
        have product : delta * wasmPageSize = 0 := by omega
        rcases Nat.mul_eq_zero.mp product with zero | impossible
        · exact zero
        · exact absurd impossible (by decide)
      refine .inr ⟨notFailure, returned, ?_, fits⟩
      rw [none, Nat.zero_mul, List.replicate_zero, List.append_nil]

theorem grow_evolves (memory : LinearMemory) (granted : Bool) (delta : Nat) :
    memory.Evolves (memory.grow granted delta).2 where
  maxPages := by
    unfold LinearMemory.grow
    dsimp only
    split_ifs <;> rfl
  longer := by
    unfold LinearMemory.grow
    dsimp only
    split_ifs
    all_goals try exact Nat.le_refl _
    rw [List.length_append]
    exact Nat.le_add_right ..
  whole whole := by
    rcases whole.grow granted delta with same | ⟨-, -, grown, fits⟩
    · rw [same]
      exact whole
    · rw [grown]
      have length : (memory.bytes ++ List.replicate (delta * wasmPageSize) (0 : UInt8)).length =
          (memory.sizePages + delta) * wasmPageSize := by
        rw [List.length_append, List.length_replicate, whole.length_eq, Nat.add_mul]
      exact
        { pages := by
            rw [length]
            exact Nat.dvd_mul_left ..
          within := by
            rw [length]
            exact Nat.mul_le_mul_right _ fits
          addressable := whole.addressable }

end LinearMemory

/-! ## Shared memories -/

/-- The limits of a shared memory are those of its handle. -/
structure MemoryCell.Sized (cell : MemoryCell) : Prop where
  whole : cell.memory.Whole
  atLeast : cell.minimum * wasmPageSize ≤ cell.memory.bytes.length
  limit : cell.memory.maxPages = cell.maximum.getD maxMemoryPages

/-- What can become of a shared memory: its declared type stays. -/
structure MemoryCell.Evolves (before after : MemoryCell) : Prop where
  memory : before.memory.Evolves after.memory
  minimum : after.minimum = before.minimum
  maximum : after.maximum = before.maximum
  memory64 : after.memory64 = before.memory64

namespace MemoryCell

theorem Evolves.refl (cell : MemoryCell) : cell.Evolves cell :=
  ⟨.refl _, rfl, rfl, rfl⟩

theorem Evolves.trans {first second third : MemoryCell} (before : first.Evolves second)
    (after : second.Evolves third) : first.Evolves third :=
  ⟨before.memory.trans after.memory, after.minimum.trans before.minimum,
    after.maximum.trans before.maximum, after.memory64.trans before.memory64⟩

theorem Sized.evolves {before after : MemoryCell} (sized : before.Sized)
    (evolves : before.Evolves after) : after.Sized where
  whole := evolves.memory.whole sized.whole
  atLeast := by
    rw [evolves.minimum]
    exact Nat.le_trans sized.atLeast evolves.memory.longer
  limit := by rw [evolves.memory.maxPages, evolves.maximum, sized.limit]

theorem new_sized {granted memory64 : Bool} {minimum : Nat} {maximum : Option Nat}
    {cell : MemoryCell} (created : MemoryCell.new granted minimum maximum memory64 = some cell) :
    cell.Sized := by
  unfold MemoryCell.new at created
  split_ifs at created with limits large
  cases created
  have length : (List.replicate (minimum * wasmPageSize) (0 : UInt8)).length =
      minimum * wasmPageSize := List.length_replicate
  have within : minimum ≤ maximum.getD maxMemoryPages ∧
      maximum.getD maxMemoryPages ≤ maxMemoryPages := by
    cases maximum with
    | none => exact ⟨Nat.le_of_not_lt large, Nat.le_refl _⟩
    | some maximum =>
        simp only [Option.any_some, Bool.or_eq_true, decide_eq_true_eq, not_or, Nat.not_lt]
          at limits
        exact limits
  exact
    { whole :=
        { pages := by
            rw [length]
            exact Nat.dvd_mul_left ..
          within := by
            rw [length]
            exact Nat.mul_le_mul_right _ within.1
          addressable := within.2 }
      atLeast := length.ge
      limit := rfl }

end MemoryCell

/-- What can become of the shared memories: every one evolves, and new ones are
created within their limits. -/
structure Heap.MemoriesEvolve (before after : Heap) : Prop where
  identities : before.nextIdentity ≤ after.nextIdentity
  size : before.memories.size ≤ after.memories.size
  kept : ∀ address, address < before.memories.size →
    (before.memories.get address).Evolves (after.memories.get address)
  fresh : ∀ address, before.memories.size ≤ address → address < after.memories.size →
    (after.memories.get address).Sized

namespace Heap.MemoriesEvolve

variable {first second third : Heap}

/-- Nothing happens to the memories. -/
theorem ofSame {before after : Heap} (identities : before.nextIdentity ≤ after.nextIdentity)
    (same : after.memories = before.memories) : before.MemoriesEvolve after where
  identities
  size := by rw [same]
  kept address _ := by
    rw [same]
    exact .refl _
  fresh address old new := by
    rw [same] at new
    exact absurd new (Nat.not_lt.mpr old)

theorem refl (heap : Heap) : heap.MemoriesEvolve heap :=
  ofSame (Nat.le_refl _) rfl

theorem trans (before : first.MemoriesEvolve second) (after : second.MemoriesEvolve third) :
    first.MemoriesEvolve third where
  identities := Nat.le_trans before.identities after.identities
  size := Nat.le_trans before.size after.size
  kept address existed :=
    (before.kept address existed).trans
      (after.kept address (Nat.lt_of_lt_of_le existed before.size))
  fresh address old new := by
    by_cases middle : address < second.memories.size
    · exact (before.fresh address old middle).evolves (after.kept address middle)
    · exact after.fresh address (Nat.le_of_not_lt middle) new

theorem setLinearMemory (heap : Heap) {handle : MemoryHandle} {memory : LinearMemory}
    (evolves : (heap.memory handle).memory.Evolves memory) :
    heap.MemoriesEvolve (heap.setLinearMemory handle memory) where
  identities := Nat.le_refl _
  size := Nat.le_refl _
  kept address _ := by
    simp only [Heap.setLinearMemory, Arena.get_set]
    split_ifs with same
    · subst same
      exact ⟨evolves, rfl, rfl, rfl⟩
    · exact .refl _
  fresh address old new := absurd new (Nat.not_lt.mpr old)

theorem newMemory (heap : Heap) {cell : MemoryCell} (sized : cell.Sized) :
    heap.MemoriesEvolve (heap.newMemory cell).2 where
  identities := Nat.le_refl _
  size := Nat.le_succ _
  kept address existed := by
    simp only [Heap.newMemory, Arena.get_alloc_of_lt _ _ existed]
    exact .refl _
  fresh address old new := by
    have last : address = heap.memories.size :=
      Nat.le_antisymm (Nat.le_of_lt_succ new) old
    simp only [Heap.newMemory, Arena.get_alloc, if_pos last]
    exact sized

end Heap.MemoriesEvolve

theorem HandleOp.apply_memoriesEvolve (heap : Heap) (op : HandleOp) :
    heap.MemoriesEvolve (op.apply heap) := by
  have same (after : Heap) (identities : after.nextIdentity = heap.nextIdentity)
      (memories : after.memories = heap.memories) : heap.MemoriesEvolve after :=
    .ofSame identities.ge memories
  cases op with
  | setGlobal handle value =>
      simp only [HandleOp.apply]
      split
      · exact same _ rfl rfl
      · exact .refl heap
  | newGlobal value mutability => exact same _ rfl rfl
  | getTable handle index =>
      simp only [HandleOp.apply]
      split
      · exact same _ rfl rfl
      · exact .refl heap
  | setTable handle index reference =>
      simp only [HandleOp.apply]
      split
      · exact .refl heap
      split
      · exact same _ rfl rfl
      · exact .refl heap
  | newTable minimum maximum =>
      simp only [HandleOp.apply]
      split
      · exact same _ rfl rfl
      · exact same _ rfl rfl
  | writeMemory handle address bytes =>
      simp only [HandleOp.apply]
      split
      · exact .setLinearMemory heap (LinearMemory.writeBytes_evolves ..)
      · exact .refl heap
  | growMemory handle delta =>
      exact .trans (same heap.tick rfl rfl)
        (.setLinearMemory heap.tick (LinearMemory.grow_evolves ..))
  | newMemory minimum maximum memory64 =>
      simp only [HandleOp.apply]
      split
      · next cell created =>
          exact .trans (same heap.tick rfl rfl)
            (.newMemory heap.tick (MemoryCell.new_sized created))
      · exact same _ rfl rfl

/-! ## The memories of a store -/

/-- What can become of a memory of an instance. -/
inductive RuntimeMemory.Evolves : RuntimeMemory → RuntimeMemory → Prop where
  | owned {before after : LinearMemory} : before.Evolves after →
      RuntimeMemory.Evolves (.owned before) (.owned after)
  | imported (handle : MemoryHandle) : RuntimeMemory.Evolves (.imported handle) (.imported handle)

namespace RuntimeMemory

theorem Evolves.refl (memory : RuntimeMemory) : memory.Evolves memory := by
  cases memory with
  | owned memory => exact .owned (.refl memory)
  | imported handle => exact .imported handle

theorem Evolves.trans {first second third : RuntimeMemory} (before : first.Evolves second)
    (after : second.Evolves third) : first.Evolves third := by
  cases before with
  | owned before =>
      cases after with
      | owned after => exact .owned (before.trans after)
  | imported handle => exact after

end RuntimeMemory

/-- What can become of the memories of an instance, one by one. -/
def MemoriesEvolve (before after : List RuntimeMemory) : Prop :=
  List.Forall₂ RuntimeMemory.Evolves before after

theorem MemoriesEvolve.refl (memories : List RuntimeMemory) : MemoriesEvolve memories memories :=
  List.forall₂_same.mpr fun memory _ => .refl memory

theorem MemoriesEvolve.trans {first second third : List RuntimeMemory}
    (before : MemoriesEvolve first second) (after : MemoriesEvolve second third) :
    MemoriesEvolve first third := by
  induction before generalizing third with
  | nil => exact after
  | cons head _ ih =>
      cases after with
      | cons headAfter tailAfter => exact .cons (head.trans headAfter) (ih tailAfter)

theorem MemoriesEvolve.set {memories : List RuntimeMemory} {index : Nat}
    {before : RuntimeMemory} {after : RuntimeMemory} (found : memories[index]? = some before)
    (evolves : before.Evolves after) : MemoriesEvolve memories (memories.set index after) := by
  induction memories generalizing index with
  | nil => cases found
  | cons memory rest ih =>
      cases index with
      | zero =>
          cases found
          exact .cons evolves (MemoriesEvolve.refl rest)
      | succ index => exact .cons (.refl memory) (ih found)

/-- Segments stay as they are or become empty. -/
def SegmentsDrained {α : Type} (before after : List (List α)) : Prop :=
  List.Forall₂ (fun old new => new = old ∨ new = []) before after

namespace SegmentsDrained

variable {α : Type} {first second third : List (List α)}

theorem refl (segments : List (List α)) : SegmentsDrained segments segments :=
  List.forall₂_same.mpr fun _ _ => .inl rfl

theorem trans (before : SegmentsDrained first second) (after : SegmentsDrained second third) :
    SegmentsDrained first third := by
  induction before generalizing third with
  | nil => exact after
  | cons head _ ih =>
      cases after with
      | cons headAfter tailAfter =>
          refine .cons ?_ (ih tailAfter)
          rcases headAfter with rfl | empty
          · exact head
          · exact .inr empty

theorem drop (segments : List (List α)) (index : Nat) :
    SegmentsDrained segments (segments.set index []) := by
  induction segments generalizing index with
  | nil => exact .nil
  | cons segment rest ih =>
      cases index with
      | zero => exact .cons (.inr rfl) (refl rest)
      | succ index => exact .cons (.inl rfl) (ih index)

theorem getElem? (drained : SegmentsDrained first second) (index : Nat) :
    second[index]? = first[index]? ∨ second[index]? = some [] := by
  induction drained generalizing index with
  | nil => exact .inl rfl
  | cons head _ ih =>
      cases index with
      | zero =>
          rcases head with rfl | rfl
          · exact .inl rfl
          · exact .inr rfl
      | succ index => exact ih index

/-- An empty segment stays empty. -/
theorem empty (drained : SegmentsDrained first second) {index : Nat}
    (found : first[index]? = some []) : second[index]? = some [] := by
  rcases drained.getElem? index with same | empty
  · rw [same, found]
  · exact empty

end SegmentsDrained

/-- What can become of the memories and the segments of a store. -/
structure Store.MemoriesEvolve (before after : Store σ) : Prop where
  heap : before.heap.MemoriesEvolve after.heap
  memories : Runtime.MemoriesEvolve before.memories after.memories
  data : SegmentsDrained before.dataSegments after.dataSegments
  elements : SegmentsDrained before.elementSegments after.elementSegments

namespace Store.MemoriesEvolve

variable {first second third store : Store σ}

theorem refl (store : Store σ) : store.MemoriesEvolve store :=
  ⟨.refl _, .refl _, .refl _, .refl _⟩

theorem trans (before : first.MemoriesEvolve second) (after : second.MemoriesEvolve third) :
    first.MemoriesEvolve third :=
  ⟨before.heap.trans after.heap, before.memories.trans after.memories,
    before.data.trans after.data, before.elements.trans after.elements⟩

/-- Nothing happens to the memories and the segments. -/
theorem ofSame {before after : Store σ}
    (identities : after.heap.nextIdentity = before.heap.nextIdentity)
    (shared : after.heap.memories = before.heap.memories)
    (memories : after.memories = before.memories)
    (data : after.dataSegments = before.dataSegments)
    (elements : after.elementSegments = before.elementSegments) : before.MemoriesEvolve after :=
  ⟨.ofSame identities.ge shared, memories ▸ .refl _, data ▸ .refl _, elements ▸ .refl _⟩

theorem setMemoryAt {index : Nat} {memory after : LinearMemory}
    (found : store.memoryAt index = .ok memory) (evolves : memory.Evolves after) :
    store.MemoriesEvolve (store.setMemoryAt index after) := by
  unfold Store.memoryAt at found
  unfold Store.setMemoryAt
  cases here : store.memories[index]? with
  | none => exact refl store
  | some entry =>
      rw [here] at found
      cases entry with
      | owned memory =>
          cases found
          exact ⟨.refl _, .set here (.owned evolves), .refl _, .refl _⟩
      | imported handle =>
          cases found
          exact ⟨.setLinearMemory _ evolves, .refl _, .refl _, .refl _⟩

end Store.MemoriesEvolve

/-! ## Instructions -/

section Instructions

variable {inst : Instance σ} {store : Store σ} {state : PlainState σ}

theorem withMemoryIndexMut_memories {index : Nat} {update : LinearMemory → Run LinearMemory}
    (writes : ∀ memory, Ensures memory.Evolves (update memory)) :
    Ensures store.MemoriesEvolve (store.withMemoryIndexMut index update) := by
  simp only [Store.withMemoryIndexMut, ensures_bind, ensures_pure]
  intro memory found after updated
  exact .setMemoryAt found (writes memory after updated)

theorem store_evolves {memory : LinearMemory} {bits width displacement : Nat}
    {address : BitVec 32} {value : BitVec bits} :
    Ensures memory.Evolves (memory.store bits width address displacement value) := by
  simp only [LinearMemory.store, ensures_bind, ensures_pure]
  intro start _
  exact memory.writeBytes_evolves ..

theorem storeV128_evolves {memory : LinearMemory} {address displacement : Nat}
    {value : List UInt8} :
    Ensures memory.Evolves (memory.storeV128 address displacement value) := by
  simp only [LinearMemory.storeV128, ensures_bind, ensures_pure]
  intro effective _ start _
  exact memory.writeBytes_evolves ..

theorem fillBulk_evolves {memory : LinearMemory} {destination length : Nat} {value : BitVec 32} :
    Ensures memory.Evolves (memory.fillBulk destination value length) := by
  simp only [LinearMemory.fillBulk, ensures_bind, ensures_pure]
  intro start _
  exact memory.writeBytes_evolves ..

theorem memoryInit_memories {data memory destination : Nat} {source length : BitVec 32} :
    Ensures store.MemoriesEvolve
      (store.memoryInit data memory destination source length) := by
  unfold Store.memoryInit
  dsimp only
  split
  · exact ensures_error _
  · refine .ite (ensures_error _) (withMemoryIndexMut_memories fun memory => ?_)
    simp only [ensures_bind, ensures_pure]
    intro start _
    exact memory.writeBytes_evolves ..

theorem memoryCopy_memories {destinationMemory sourceMemory destination source length : Nat} :
    Ensures store.MemoriesEvolve
      (store.memoryCopy destinationMemory sourceMemory destination source length) := by
  simp only [Store.memoryCopy, ensures_bind]
  intro memory _ start _
  refine withMemoryIndexMut_memories fun memory => ?_
  simp only [ensures_bind, ensures_pure]
  intro start _
  exact memory.writeBytes_evolves ..

theorem growMemoryAt_memories {memory delta : Nat} :
    Ensures (fun grown => store.MemoriesEvolve grown.2) (growMemoryAt store memory delta) := by
  simp only [growMemoryAt, ensures_bind, ensures_pure]
  intro linear found
  have ticked : store.MemoriesEvolve { store with heap := store.heap.tick } :=
    .ofSame rfl rfl rfl rfl rfl
  exact ticked.trans (.setMemoryAt found (linear.grow_evolves ..))

theorem executeStoreAs_memories {width : Nat} {arg : Memarg} {value : BitVec width}
    {stack : Stack} {write : LinearMemory → BitVec 32 → Nat → BitVec width → Run LinearMemory}
    (writes : ∀ memory address displacement,
      Ensures memory.Evolves (write memory address displacement value)) :
    Ensures (fun after => state.store.MemoriesEvolve after.store)
      (executeStoreAs inst state arg value stack write) := by
  simp only [executeStoreAs, ensures_bind, ensures_pure]
  rintro ⟨address, rest⟩ _
  exact withMemoryIndexMut_memories fun memory => writes memory address arg.offset

theorem executeStore_memories {opcode : Nat} {arg : Memarg} :
    Ensures (fun after => state.store.MemoriesEvolve after.store)
      (executeStore inst state opcode arg) := by
  unfold executeStore
  repeat' apply Ensures.ite
  all_goals simp only [ensures_bind, ensures_error]
  all_goals
    rintro ⟨value, rest⟩ _
    refine executeStoreAs_memories fun memory address displacement => ?_
  · split_ifs <;> exact store_evolves
  · split_ifs <;> exact store_evolves
  · exact store_evolves
  · exact store_evolves

theorem executeMemoryGrow_memories {memory : Nat} :
    Ensures (fun after => state.store.MemoriesEvolve after.store)
      (executeMemoryGrow inst state memory) := by
  simp only [executeMemoryGrow, ensures_bind]
  intro wide _
  apply Ensures.ite <;> simp only [ensures_bind, ensures_pure]
  · rintro ⟨delta, rest⟩ _
    refine .ite ((ensures_pure _).mpr (.refl _)) ?_
    simp only [ensures_bind, ensures_pure]
    exact growMemoryAt_memories
  · rintro ⟨delta, rest⟩ _
    exact growMemoryAt_memories

theorem executeSimdMemory_memories {subopcode : Nat} {arg : Memarg} :
    Ensures (fun after => state.store.MemoriesEvolve after.store)
      (executeSimdMemory inst state subopcode arg) := by
  unfold executeSimdMemory
  repeat' apply Ensures.ite
  all_goals simp only [ensures_bind, ensures_pure]
  · rintro ⟨address, rest⟩ _ memory _ value _
    exact .refl _
  · rintro ⟨value, rest⟩ _ ⟨address, rest⟩ _
    exact withMemoryIndexMut_memories fun memory => storeV128_evolves
  · rintro ⟨address, rest⟩ _ memory _
    apply Ensures.ite <;> simp only [ensures_bind, ensures_pure]
    all_goals
      intro value _
      exact .refl _

theorem executeSimdMemoryLane_memories {subopcode index : Nat} {arg : Memarg} :
    Ensures (fun after => state.store.MemoriesEvolve after.store)
      (executeSimdMemoryLane inst state subopcode arg index) := by
  simp only [executeSimdMemoryLane, ensures_bind]
  rintro ⟨vector, rest⟩ _ ⟨address, rest⟩ _
  apply Ensures.ite <;> simp only [ensures_bind, ensures_pure]
  · intro memory _ value _
    exact .refl _
  · refine withMemoryIndexMut_memories fun memory => ?_
    unfold simdStoreLane
    repeat' apply Ensures.ite
    all_goals exact store_evolves

theorem executeSimd_memories {subopcode : Nat} {immediate : SimdImmediate} :
    Ensures (fun after => state.store.MemoriesEvolve after.store)
      (executeSimd inst state subopcode immediate) := by
  cases immediate with
  | memarg arg => exact executeSimdMemory_memories
  | memargLane arg index => exact executeSimdMemoryLane_memories
  | bytes value => exact (ensures_pure _).mpr (.refl _)
  | shuffle lanes =>
      simp only [executeSimd, ensures_bind, ensures_pure]
      intro _ _ _ _ _ _
      exact .refl _
  | lane index =>
      simp only [executeSimd, ensures_bind, ensures_pure]
      intro _ _
      exact .refl _
  | none =>
      simp only [executeSimd, ensures_bind, ensures_pure]
      intro _ _
      exact .refl _

theorem executeBulkMemory_memories (instr : Plain) :
    Ensures (fun after => state.store.MemoriesEvolve after.store)
      (executeBulkMemory inst state instr) := by
  cases instr <;> try exact ensures_error _
  case memoryInit data memory =>
    simp only [executeBulkMemory, ensures_bind, ensures_pure]
    rintro ⟨length, first⟩ _ ⟨source, second⟩ _ ⟨destination, rest⟩ _
    exact memoryInit_memories
  case memoryCopy destinationMemory sourceMemory =>
    simp only [executeBulkMemory, ensures_bind, ensures_pure]
    rintro ⟨length, first⟩ _ ⟨source, second⟩ _ ⟨destination, rest⟩ _
    exact memoryCopy_memories
  case memoryFill memory =>
    simp only [executeBulkMemory, ensures_bind, ensures_pure]
    rintro ⟨length, first⟩ _ ⟨value, second⟩ _ ⟨destination, rest⟩ _
    exact withMemoryIndexMut_memories fun memory => fillBulk_evolves

/-- The table operations leave the memories alone. -/
theorem executeTable_memories (instr : Plain) :
    Ensures (fun after => state.store.MemoriesEvolve after.store)
      (executeTable inst state instr) := by
  cases instr <;> try exact ensures_error _
  all_goals simp only [executeTable, ensures_bind, ensures_pure]
  case tableGet table =>
    intro _ _ _ _
    exact .refl _
  case tableSet table =>
    intro _ _ _ _
    simp only [Instance.tableSet, ensures_bind, ensures_pure]
    intro handle _ cell _
    exact .ofSame rfl rfl rfl rfl rfl
  case tableInit element table =>
    intro _ _ _ _ _ _
    unfold Instance.tableInit
    dsimp only
    split
    · exact ensures_error _
    refine .ite (ensures_error _) ?_
    rw [ensures_bind]
    intro handle _
    exact .ite (ensures_error _) ((ensures_pure _).mpr (.ofSame rfl rfl rfl rfl rfl))
  case tableCopy destinationTable sourceTable =>
    intro _ _ _ _ _ _
    simp only [Instance.tableCopy, ensures_bind]
    intro _ _ _ _
    exact .ite (ensures_error _)
      (.ite (ensures_error _) ((ensures_pure _).mpr (.ofSame rfl rfl rfl rfl rfl)))
  case tableGrow table =>
    intro _ _ _ _
    simp only [Instance.tableGrow, ensures_bind, ensures_pure]
    intro handle _
    exact .ofSame rfl rfl rfl rfl rfl
  case tableSize table =>
    intro _ _
    exact .refl _
  case tableFill table =>
    intro _ _ _ _ _ _
    simp only [Instance.tableFill, ensures_bind]
    intro handle _
    exact .ite (ensures_error _) ((ensures_pure _).mpr (.ofSame rfl rfl rfl rfl rfl))

theorem executeGlobalSet_memories {index : Nat} :
    Ensures (fun after => state.store.MemoriesEvolve after.store)
      (executeGlobalSet inst state index) := by
  unfold executeGlobalSet
  split
  · exact ensures_error _
  refine .ite (ensures_error _) ?_
  simp only [ensures_bind, ensures_pure]
  intro popped _
  simp only [Instance.globalSet, ensures_bind]
  intro handle _
  split
  · exact (ensures_pure _).mpr (.ofSame rfl rfl rfl rfl rfl)
  · exact ensures_error _

theorem setLocal_memories {index : Nat} {value : Value} :
    Ensures (fun after => state.store.MemoriesEvolve after.store)
      (setLocal state index value) := by
  simp only [setLocal, ensures_bind, ensures_pure]
  intro _ _
  exact .refl _

/-- What an instruction does to the memories. -/
theorem executePlain_memories {localTypes : List ValueType} {instr : Plain} :
    Ensures (fun after => state.store.MemoriesEvolve after.store)
      (executePlain inst localTypes state instr) := by
  have unchanged (stack : Stack) : state.store.MemoriesEvolve { state with stack }.store :=
    .refl _
  cases instr with
  | nop => exact (ensures_pure _).mpr (.refl _)
  | localSet index =>
      simp only [executePlain, executeLocalSet, ensures_bind]
      intro _ _ _ _
      exact setLocal_memories
  | localTee index =>
      simp only [executePlain, executeLocalTee, ensures_bind]
      intro _ _ _ _ _ _
      exact setLocal_memories
  | globalSet index => exact executeGlobalSet_memories
  | load opcode arg =>
      simp only [executePlain, executeLoad, ensures_bind, ensures_pure]
      intro _ _ _ _ _ _
      exact unchanged _
  | store opcode arg => exact executeStore_memories
  | memorySize memory =>
      simp only [executePlain, executeMemorySize, ensures_bind, ensures_pure]
      intro _ _ _ _
      exact unchanged _
  | memoryGrow memory => exact executeMemoryGrow_memories
  | dataDrop data =>
      simp only [executePlain, ensures_bind, ensures_pure]
      refine Ensures.ite ((ensures_ok _).mpr ?_) (ensures_error _)
      exact ⟨.refl _, .refl _, .drop _ data, .refl _⟩
  | elemDrop element =>
      simp only [executePlain, ensures_bind, ensures_pure]
      refine Ensures.ite ((ensures_ok _).mpr ?_) (ensures_error _)
      exact ⟨.refl _, .refl _, .refl _, .drop _ element⟩
  | simd subopcode immediate => exact executeSimd_memories
  | memoryInit data memory => exact executeBulkMemory_memories (.memoryInit data memory)
  | memoryCopy destination source =>
      exact executeBulkMemory_memories (.memoryCopy destination source)
  | memoryFill memory => exact executeBulkMemory_memories (.memoryFill memory)
  | tableGet table => exact executeTable_memories (.tableGet table)
  | tableSet table => exact executeTable_memories (.tableSet table)
  | tableInit element table => exact executeTable_memories (.tableInit element table)
  | tableCopy destination source => exact executeTable_memories (.tableCopy destination source)
  | tableGrow table => exact executeTable_memories (.tableGrow table)
  | tableSize table => exact executeTable_memories (.tableSize table)
  | tableFill table => exact executeTable_memories (.tableFill table)
  | _ =>
      simp only [executePlain, ensures_bind, ensures_pure]
      first
        | exact unchanged _
        | exact fun _ _ => unchanged _

end Instructions

end MiniWasm.Runtime
