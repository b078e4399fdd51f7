import MiniWasm.Runtime.MemoryHistories

/-!
# Import limits

An import with limits is matched against a shared object that may have grown
since it was created.  The table check reads the length that the table has; the
memory check reads the page count that the memory was created with.
-/

namespace MiniWasm.Runtime

open Library

variable {σ : Type}

/-- The limits of an object of the given size and maximum match declared ones. -/
structure LimitsMatch (size : Nat) (maximum : Option Nat) (declaredMin : Nat)
    (declaredMax : Option Nat) : Prop where
  minimum : declaredMin ≤ size
  maximum : ∀ limit, declaredMax = some limit → ∃ actual, maximum = some actual ∧ actual ≤ limit

/-- The comparison of the maxima, as both checks make it. -/
theorem maximumMatches_iff {maximum declaredMax : Option Nat} :
    (match declaredMax with
      | none => true
      | some expected => maximum.any (· ≤ expected)) = true ↔
      ∀ limit, declaredMax = some limit → ∃ actual, maximum = some actual ∧ actual ≤ limit := by
  cases declaredMax with
  | none => simp
  | some expected => cases maximum <;> simp

/-- The condition that both checks test. -/
theorem limitsMatch_iff {size declaredMin : Nat} {maximum declaredMax : Option Nat} :
    (decide (declaredMin ≤ size) &&
      (match declaredMax with
        | none => true
        | some expected => maximum.any (· ≤ expected))) = true ↔
      LimitsMatch size maximum declaredMin declaredMax := by
  rw [Bool.and_eq_true, decide_eq_true_eq, maximumMatches_iff]
  exact ⟨fun both => ⟨both.1, both.2⟩, fun matching => ⟨matching.minimum, matching.maximum⟩⟩

theorem checked_ok_iff {condition : Bool} {failure : Run Unit} (fails : failure ≠ .ok ()) :
    (if condition = true then .ok () else failure) = .ok () ↔ condition = true := by
  cases condition with
  | true => simp
  | false => simpa using fails

theorem validateTableLimits_ok_iff {entry : Import} {declaredMin : Nat}
    {declaredMax : Option Nat} {cell : TableCell} :
    validateTableLimits entry declaredMin declaredMax cell = .ok () ↔
      LimitsMatch cell.len cell.maximum declaredMin declaredMax := by
  refine Iff.trans (checked_ok_iff ?_) limitsMatch_iff
  intro passed
  cases passed

/-- The memory check compares the page count at the creation of the handle. -/
theorem validateMemoryLimits_ok_iff {entry : Import} {declaredMin : Nat}
    {declaredMax : Option Nat} {cell : MemoryCell} :
    validateMemoryLimits entry declaredMin declaredMax cell = .ok () ↔
      LimitsMatch cell.minimum cell.maximum declaredMin declaredMax := by
  refine Iff.trans (checked_ok_iff ?_) limitsMatch_iff
  split <;> intro passed <;> cases passed

/-- The rest of what a memory import asks for: the width of addresses and the page
limit of the instance. -/
structure MemoryFits (cell : MemoryCell) (memory64 : Bool) (runtimeLimit : Nat) : Prop where
  width : cell.memory64 = memory64
  size : cell.memory.sizePages ≤ min runtimeLimit maxMemoryPages
  limit : cell.maximum.getD maxMemoryPages ≤ min runtimeLimit maxMemoryPages

section Imports

variable {hosts : HostRegistry σ} {heap : Heap} {limits : RuntimeLimits} {entry : Import}

theorem importedTable_ok_iff {type : TableType} {handle : TableHandle}
    (registered : findKey hosts.tables entry.key = some handle) :
    importedTable hosts heap entry type = .ok handle ↔
      LimitsMatch (heap.table handle).len (heap.table handle).maximum type.limits.min
        type.limits.max := by
  rw [← @validateTableLimits_ok_iff entry, importedTable, registered]
  simp only [bind_ok, pure_ok, and_true]
  exact ⟨fun ⟨_, passed⟩ => passed, fun passed => ⟨(), passed⟩⟩

theorem importedMemory_ok_iff {type : MemoryType} {handle : MemoryHandle}
    (registered : findKey hosts.memories entry.key = some handle) :
    importedMemory hosts heap limits entry type = .ok handle ↔
      LimitsMatch (heap.memory handle).minimum (heap.memory handle).maximum type.limits.min
        type.limits.max ∧
      MemoryFits (heap.memory handle) type.limits.memory64 limits.maxMemoryPages := by
  rw [← @validateMemoryLimits_ok_iff entry, importedMemory, registered]
  simp only [bind_ok, pure_ok, and_true]
  constructor
  · rintro ⟨_, width, _, declared, _, runtime⟩
    unfold validateMemoryAddressWidth at width
    unfold validateMemoryRuntimeLimit at runtime
    dsimp only at runtime
    split_ifs at width with sameWidth
    split_ifs at runtime with within
    exact ⟨declared, sameWidth, within.1, within.2⟩
  · rintro ⟨declared, fits⟩
    refine ⟨(), ?_, (), declared, (), ?_⟩
    · rw [validateMemoryAddressWidth, if_pos fits.width]
    · rw [validateMemoryRuntimeLimit]
      exact if_pos ⟨fits.size, fits.limit⟩

/-- The import is matched against the memory as it is. -/
def MatchesCurrent (hosts : HostRegistry σ) (heap : Heap) (limits : RuntimeLimits)
    (entry : Import) (type : MemoryType) (handle : MemoryHandle) : Prop :=
  importedMemory hosts heap limits entry type = .ok handle ↔
    LimitsMatch (heap.memory handle).memory.sizePages (heap.memory handle).maximum
      type.limits.min type.limits.max ∧
    MemoryFits (heap.memory handle) type.limits.memory64 limits.maxMemoryPages

/-- The memory was created smaller than the import asks for and has grown to what it
asks for, and nothing else stands against the import. -/
structure GrownToMatch (heap : Heap) (limits : RuntimeLimits) (type : MemoryType)
    (handle : MemoryHandle) : Prop where
  created : (heap.memory handle).minimum < type.limits.min
  matching : LimitsMatch (heap.memory handle).memory.sizePages (heap.memory handle).maximum
    type.limits.min type.limits.max
  fits : MemoryFits (heap.memory handle) type.limits.memory64 limits.maxMemoryPages

end Imports

/-- In every history, a table import is matched against the table as it is, and a
memory import against the memory as it is unless the memory has grown to what
the import asks for. -/
theorem import_limits_match_iff {world : World σ} (reachable : world.Reachable)
    (hosts : HostRegistry σ) (limits : RuntimeLimits) (entry : Import) :
    (∀ type handle, findKey hosts.tables entry.key = some handle →
      (importedTable hosts world.heap entry type = .ok handle ↔
        LimitsMatch (world.heap.table handle).len (world.heap.table handle).maximum
          type.limits.min type.limits.max)) ∧
    ∀ type handle, findKey hosts.memories entry.key = some handle →
      handle.address < world.heap.memories.size →
      (MatchesCurrent hosts world.heap limits entry type handle ↔
        ¬ GrownToMatch world.heap limits type handle) := by
  refine ⟨fun type handle registered => importedTable_ok_iff registered,
    fun type handle registered allocated => ?_⟩
  have sized := reachable.sized.heap handle.address allocated
  have created : (world.heap.memory handle).minimum ≤
      (world.heap.memory handle).memory.sizePages :=
    (Nat.le_div_iff_mul_le (by decide)).mpr sized.atLeast
  unfold MatchesCurrent
  rw [importedMemory_ok_iff registered]
  constructor
  · intro same grown
    obtain ⟨checked, -⟩ := same.mpr ⟨grown.matching, grown.fits⟩
    exact absurd checked.minimum (Nat.not_le.mpr grown.created)
  · intro notGrown
    constructor
    · rintro ⟨checked, fits⟩
      exact ⟨⟨Nat.le_trans checked.minimum created, checked.maximum⟩, fits⟩
    · rintro ⟨matching, fits⟩
      refine ⟨⟨?_, matching.maximum⟩, fits⟩
      by_contra below
      exact notGrown ⟨Nat.lt_of_not_le below, matching, fits⟩

/-! ## A memory that has grown -/

/-- The import of a memory of at least two pages. -/
def twoPages : Import where
  module := "env"
  name := "mem"
  desc := .memory ⟨⟨2, some 4, false⟩⟩

def grownHosts : HostRegistry Unit where
  functions := []
  globals := []
  tables := []
  memories := [(("env", "mem"), ⟨0⟩)]

def grownLimits : RuntimeLimits where
  maxCallDepth := 8
  maxMemoryPages := 16
  fuel := none
  maxHostCalls := none

/-- The memory of the handle before it grows. -/
def onePage : LinearMemory where
  bytes := List.replicate (1 * wasmPageSize) 0
  maxPages := 4

theorem grownWorld_sizePages : (grownWorld.heap.memory ⟨0⟩).memory.sizePages = 2 := by
  have created : (((HandleOp.newMemory 1 (some 4) false).apply
      (.empty fun _ => true)).memory ⟨0⟩).memory = onePage := rfl
  have grown : (grownWorld.heap.memory ⟨0⟩).memory = (onePage.grow true 1).2 := by
    rw [← created]
    simp only [grownWorld, HandleOp.apply, Heap.memory, Heap.setLinearMemory, Arena.get_set_self]
    rfl
  have length : onePage.bytes.length = wasmPageSize := by
    rw [onePage, List.length_replicate, Nat.one_mul]
  have size : onePage.sizePages = 1 := by
    rw [LinearMemory.sizePages, length]
    rfl
  have within : ¬ onePage.maxPages < 1 + 1 := by decide
  have larger : onePage.bytes.length < (1 + 1) * wasmPageSize := by
    rw [length]
    decide
  rw [grown, LinearMemory.grow]
  simp only [size, if_neg within, if_pos larger]
  rw [if_neg (by decide), if_pos trivial, LinearMemory.sizePages, List.length_append,
    List.length_replicate, Nat.add_sub_cancel' (Nat.le_of_lt larger)]
  rfl

theorem grownWorld_grown :
    GrownToMatch grownWorld.heap grownLimits ⟨⟨2, some 4, false⟩⟩ ⟨0⟩ where
  created := by decide
  matching :=
    { minimum := grownWorld_sizePages.ge
      maximum := by
        intro limit same
        cases same
        exact ⟨4, rfl, Nat.le_refl _⟩ }
  fits :=
    { width := rfl
      size := by
        rw [grownWorld_sizePages]
        decide
      limit := by decide }

theorem import_limits_match_iff_grown :
    ¬ MatchesCurrent grownHosts grownWorld.heap grownLimits twoPages ⟨⟨2, some 4, false⟩⟩ ⟨0⟩ :=
  fun current =>
    ((import_limits_match_iff grownWorld_reachable grownHosts grownLimits twoPages).2 _ _
      (by decide) (by decide)).mp current grownWorld_grown

/-- The import fails although the memory has the pages that it asks for. -/
theorem grown_memory_refused :
    grownWorld.Reachable ∧
      importedMemory grownHosts grownWorld.heap grownLimits twoPages ⟨⟨2, some 4, false⟩⟩ =
        .error (.hostMemoryLimitsMismatch "env" "mem" 2 (some 4) 1 (some 4)) ∧
      ¬ MatchesCurrent grownHosts grownWorld.heap grownLimits twoPages ⟨⟨2, some 4, false⟩⟩
        ⟨0⟩ := by
  have refused :
      importedMemory grownHosts grownWorld.heap grownLimits twoPages ⟨⟨2, some 4, false⟩⟩ =
        .error (.hostMemoryLimitsMismatch "env" "mem" 2 (some 4) 1 (some 4)) := by rfl
  refine ⟨grownWorld_reachable, refused, fun current => ?_⟩
  have passes := current.mpr ⟨grownWorld_grown.matching, grownWorld_grown.fits⟩
  rw [refused] at passes
  cases passes

end MiniWasm.Runtime
