import MiniWasm.Runtime.Provenance

/-!
# The effect of an instruction on its store

An instruction changes its store in at most one place.  This module says once
which places these are and what is written there; what a history can do to
shared tables and globals is read off from it.
-/

namespace MiniWasm.Runtime

open Library

variable {σ : Type}

/-! ## References -/

/-- The reference stands in a table, or the embedder has taken it out of one. -/
def Heap.Holds (heap : Heap) (reference : FunctionRef) : Prop :=
  reference ∈ heap.held ∨ ∃ handle, some reference ∈ (heap.table handle).slots

theorem Heap.Holds.slot {heap : Heap} {reference : FunctionRef} {handle : TableHandle}
    (present : some reference ∈ (heap.table handle).slots) : heap.Holds reference :=
  .inr ⟨handle, present⟩

/-- A reference that the instance creates names it as its owner. -/
def Instance.Issues (inst : Instance σ) (reference : FunctionRef) : Prop :=
  reference.owner = inst.identity

/-- What a plain instruction of the instance can do to its store. -/
inductive Store.Effect (inst : Instance σ) (before : Store σ) : Store σ → Prop where
  | none : Effect inst before before
  | memory (index : Nat) (memory : LinearMemory) :
      Effect inst before (before.setMemoryAt index memory)
  | memoryGrown (index : Nat) (memory : LinearMemory) :
      Effect inst before
        (Store.setMemoryAt { before with heap := before.heap.tick } index memory)
  | slot {handle : TableHandle} {index : Nat} {reference : Option Nat} {cell : TableCell} :
      handle ∈ inst.tables →
      (before.heap.table handle).set index (reference.map inst.functionRef) = .ok cell →
      Effect inst before { before with heap := before.heap.setTable handle cell }
  | slots {handle : TableHandle} {start : Nat} {slots : List (Option FunctionRef)} :
      handle ∈ inst.tables →
      start + slots.length ≤ (before.heap.table handle).slots.length →
      (∀ reference, some reference ∈ slots →
        inst.Issues reference ∨ before.heap.Holds reference) →
      Effect inst before
        { before with
          heap :=
            before.heap.setTable handle ((before.heap.table handle).writeSlots start slots) }
  | tableGrown {handle : TableHandle} (delta : Nat) (reference : Option Nat) :
      handle ∈ inst.tables →
      Effect inst before
        { before with
          heap :=
            before.heap.tick.setTable handle
              ((before.heap.table handle).grow (before.heap.granted 0) delta
                (reference.map inst.functionRef)).2 }
  | global {handle : GlobalHandle} {value : Value} {cell : GlobalCell} :
      handle ∈ inst.globals →
      (before.heap.global handle).set value = .ok cell →
      Effect inst before { before with heap := before.heap.setGlobal handle cell }
  | segments (dataSegments : List (List UInt8)) (elementSegments : List (List Nat)) :
      Effect inst before { before with dataSegments, elementSegments }

/-! ## Instructions -/

section Instructions

variable {inst : Instance σ} {store : Store σ} {state : PlainState σ}

theorem withMemoryIndexMut_effect {index : Nat} (update : LinearMemory → Run LinearMemory) :
    Ensures (store.Effect inst) (store.withMemoryIndexMut index update) := by
  simp only [Store.withMemoryIndexMut, ensures_bind, ensures_pure]
  intro memory _ after _
  exact .memory index after

theorem memoryInit_effect {data memory destination : Nat} {source length : BitVec 32} :
    Ensures (store.Effect inst) (store.memoryInit data memory destination source length) := by
  unfold Store.memoryInit
  dsimp only
  split
  · exact ensures_error _
  · exact .ite (ensures_error _) (withMemoryIndexMut_effect _)

theorem memoryCopy_effect {destinationMemory sourceMemory destination source length : Nat} :
    Ensures (store.Effect inst)
      (store.memoryCopy destinationMemory sourceMemory destination source length) := by
  simp only [Store.memoryCopy, ensures_bind]
  intro memory _ start _
  exact withMemoryIndexMut_effect _

theorem growMemoryAt_effect {memory delta : Nat} :
    Ensures (fun grown => store.Effect inst grown.2) (growMemoryAt store memory delta) := by
  simp only [growMemoryAt, ensures_bind, ensures_pure]
  intro linear _
  exact .memoryGrown memory _

theorem executeStoreAs_effect {width : Nat} {arg : Memarg} {value : BitVec width}
    {stack : Stack} {write : LinearMemory → BitVec 32 → Nat → BitVec width → Run LinearMemory} :
    Ensures (fun after => state.store.Effect inst after.store)
      (executeStoreAs inst state arg value stack write) := by
  simp only [executeStoreAs, ensures_bind, ensures_pure]
  intro popped _
  exact withMemoryIndexMut_effect _

theorem executeStore_effect {opcode : Nat} {arg : Memarg} :
    Ensures (fun after => state.store.Effect inst after.store)
      (executeStore inst state opcode arg) := by
  unfold executeStore
  repeat' apply Ensures.ite
  all_goals simp only [ensures_bind, ensures_error]
  all_goals
    intro popped _
    exact executeStoreAs_effect

theorem executeMemoryGrow_effect {memory : Nat} :
    Ensures (fun after => state.store.Effect inst after.store)
      (executeMemoryGrow inst state memory) := by
  simp only [executeMemoryGrow, ensures_bind]
  intro wide _
  apply Ensures.ite <;> simp only [ensures_bind, ensures_pure]
  · rintro ⟨delta, rest⟩ _
    refine .ite ((ensures_pure _).mpr .none) ?_
    simp only [ensures_bind, ensures_pure]
    exact growMemoryAt_effect
  · rintro ⟨delta, rest⟩ _
    exact growMemoryAt_effect

theorem executeSimdMemory_effect {subopcode : Nat} {arg : Memarg} :
    Ensures (fun after => state.store.Effect inst after.store)
      (executeSimdMemory inst state subopcode arg) := by
  unfold executeSimdMemory
  repeat' apply Ensures.ite
  all_goals simp only [ensures_bind, ensures_pure]
  · intro _ _ _ _ _ _
    exact .none
  · intro _ _ _ _
    exact withMemoryIndexMut_effect _
  · intro _ _ _ _
    apply Ensures.ite <;> simp only [ensures_bind, ensures_pure]
    all_goals
      intro value _
      exact .none

theorem executeSimdMemoryLane_effect {subopcode index : Nat} {arg : Memarg} :
    Ensures (fun after => state.store.Effect inst after.store)
      (executeSimdMemoryLane inst state subopcode arg index) := by
  simp only [executeSimdMemoryLane, ensures_bind]
  intro _ _ _ _
  apply Ensures.ite <;> simp only [ensures_bind, ensures_pure]
  · intro _ _ _ _
    exact .none
  · exact withMemoryIndexMut_effect _

theorem executeSimd_effect {subopcode : Nat} {immediate : SimdImmediate} :
    Ensures (fun after => state.store.Effect inst after.store)
      (executeSimd inst state subopcode immediate) := by
  cases immediate with
  | memarg arg => exact executeSimdMemory_effect
  | memargLane arg index => exact executeSimdMemoryLane_effect
  | bytes value => exact (ensures_pure _).mpr .none
  | shuffle lanes =>
      simp only [executeSimd, ensures_bind, ensures_pure]
      intro _ _ _ _ _ _
      exact .none
  | lane index =>
      simp only [executeSimd, ensures_bind, ensures_pure]
      intro _ _
      exact .none
  | none =>
      simp only [executeSimd, ensures_bind, ensures_pure]
      intro _ _
      exact .none

theorem executeBulkMemory_effect (instr : Plain) :
    Ensures (fun after => state.store.Effect inst after.store)
      (executeBulkMemory inst state instr) := by
  cases instr <;> try exact ensures_error _
  all_goals
    simp only [executeBulkMemory, ensures_bind, ensures_pure]
    intro _ _ _ _ _ _
  case memoryInit data memory => exact memoryInit_effect
  case memoryCopy destinationMemory sourceMemory => exact memoryCopy_effect
  case memoryFill memory => exact withMemoryIndexMut_effect _

theorem tableHandle_mem {index : Nat} : Ensures (· ∈ inst.tables) (inst.tableHandle index) := by
  unfold Instance.tableHandle
  split
  · next handle found => exact (ensures_ok _).mpr (List.mem_of_getElem? found)
  · exact ensures_error _

/-- Table operations write slots of the instance's own tables, with references of
its own or with slots of another of its tables. -/
theorem executeTable_effect (instr : Plain) :
    Ensures (fun after => state.store.Effect inst after.store)
      (executeTable inst state instr) := by
  cases instr <;> try exact ensures_error _
  all_goals simp only [executeTable, ensures_bind, ensures_pure]
  case tableGet table =>
    intro _ _ _ _
    exact .none
  case tableSet table =>
    rintro ⟨reference, _⟩ _ _ _
    simp only [Instance.tableSet, ensures_bind, ensures_pure]
    refine tableHandle_mem.mono fun handle own => ?_
    intro cell stored
    exact .slot own (tableResult_ok stored)
  case tableInit element table =>
    intro _ _ _ _ _ _
    unfold Instance.tableInit
    dsimp only
    split
    · exact ensures_error _
    next segment _ =>
    refine ensures_ite .. |>.mpr ⟨fun _ => ensures_error _, fun inside => ?_⟩
    rw [ensures_bind]
    refine tableHandle_mem.mono fun handle own => ?_
    refine ensures_ite .. |>.mpr ⟨fun _ => ensures_error _, fun fits => ?_⟩
    refine (ensures_pure _).mpr (.slots own ?_ fun reference present => .inl ?_)
    · simp only [Instance.elementSlots, List.length_map, List.length_take, List.length_drop]
      omega
    · obtain ⟨function, -, slot⟩ := List.mem_map.mp present
      split_ifs at slot
      cases slot
      rfl
  case tableCopy destinationTable sourceTable =>
    intro _ _ _ _ _ _
    simp only [Instance.tableCopy, ensures_bind]
    intro sourceHandle _
    refine tableHandle_mem.mono fun handle own => ?_
    refine .ite (ensures_error _) ?_
    refine ensures_ite .. |>.mpr ⟨fun _ => ensures_error _, fun fits => ?_⟩
    refine (ensures_pure _).mpr (.slots own ?_ fun reference present => .inr ?_)
    · rw [List.length_take]
      exact Nat.le_trans (Nat.add_le_add_left (Nat.min_le_left ..) _) (Nat.le_of_not_lt fits)
    · exact .slot (List.mem_of_mem_drop (List.mem_of_mem_take present))
  case tableGrow table =>
    rintro _ _ ⟨reference, _⟩ _
    simp only [Instance.tableGrow, ensures_bind, ensures_pure]
    refine tableHandle_mem.mono fun handle own => ?_
    exact .tableGrown _ reference own
  case tableSize table =>
    intro _ _
    exact .none
  case tableFill table =>
    rintro _ _ ⟨value, _⟩ _ _ _
    simp only [Instance.tableFill, ensures_bind]
    refine tableHandle_mem.mono fun handle own => ?_
    refine ensures_ite .. |>.mpr ⟨fun _ => ensures_error _, fun fits => ?_⟩
    refine (ensures_pure _).mpr (.slots own ?_ fun reference present => .inl ?_)
    · rw [List.length_replicate]
      exact Nat.le_of_not_lt fits
    · obtain ⟨index, -, rfl⟩ := Option.map_eq_some_iff.mp (List.eq_of_mem_replicate present).symm
      rfl

theorem executeGlobalSet_effect {index : Nat} :
    Ensures (fun after => state.store.Effect inst after.store)
      (executeGlobalSet inst state index) := by
  unfold executeGlobalSet
  split
  · exact ensures_error _
  refine .ite (ensures_error _) ?_
  simp only [ensures_bind, ensures_pure]
  intro popped _
  simp only [Instance.globalSet, ensures_bind]
  refine globalHandle_mem.mono fun handle own => ?_
  split
  · next stored => exact (ensures_pure _).mpr (.global own stored)
  · exact ensures_error _

theorem setLocal_effect {index : Nat} {value : Value} :
    Ensures (fun after => state.store.Effect inst after.store) (setLocal state index value) := by
  simp only [setLocal, ensures_bind, ensures_pure]
  intro _ _
  exact .none

/-- What a plain instruction does to its store. -/
theorem executePlain_effect {localTypes : List ValueType} {instr : Plain} :
    Ensures (fun after => state.store.Effect inst after.store)
      (executePlain inst localTypes state instr) := by
  cases instr with
  | nop => exact (ensures_pure _).mpr .none
  | localSet index =>
      simp only [executePlain, executeLocalSet, ensures_bind]
      intro _ _ _ _
      exact setLocal_effect
  | localTee index =>
      simp only [executePlain, executeLocalTee, ensures_bind]
      intro _ _ _ _ _ _
      exact setLocal_effect
  | globalSet index => exact executeGlobalSet_effect
  | load opcode arg =>
      simp only [executePlain, executeLoad, ensures_bind, ensures_pure]
      intro _ _ _ _ _ _
      exact .none
  | store opcode arg => exact executeStore_effect
  | memorySize memory =>
      simp only [executePlain, executeMemorySize, ensures_bind, ensures_pure]
      intro _ _ _ _
      exact .none
  | memoryGrow memory => exact executeMemoryGrow_effect
  | dataDrop data =>
      simp only [executePlain, ensures_bind, ensures_pure]
      exact .ite ((ensures_ok _).mpr (.segments ..)) (ensures_error _)
  | elemDrop element =>
      simp only [executePlain, ensures_bind, ensures_pure]
      exact .ite ((ensures_ok _).mpr (.segments ..)) (ensures_error _)
  | simd subopcode immediate => exact executeSimd_effect
  | memoryInit data memory => exact executeBulkMemory_effect (.memoryInit data memory)
  | memoryCopy destination source =>
      exact executeBulkMemory_effect (.memoryCopy destination source)
  | memoryFill memory => exact executeBulkMemory_effect (.memoryFill memory)
  | tableGet table => exact executeTable_effect (.tableGet table)
  | tableSet table => exact executeTable_effect (.tableSet table)
  | tableInit element table => exact executeTable_effect (.tableInit element table)
  | tableCopy destination source => exact executeTable_effect (.tableCopy destination source)
  | tableGrow table => exact executeTable_effect (.tableGrow table)
  | tableSize table => exact executeTable_effect (.tableSize table)
  | tableFill table => exact executeTable_effect (.tableFill table)
  | _ =>
      simp only [executePlain, ensures_bind, ensures_pure]
      first
        | exact .none
        | exact fun _ _ => .none

theorem executeOp_effect (frame : GuestFrame) {offset opcode : Nat} :
    Ensures (fun after => store.Effect inst after.1)
      (executeOp inst store frame offset opcode) := by
  unfold executeOp
  iterate 14
    apply Ensures.ite
    · first
        | exact ensures_error _
        | simp only [ensures_bind, ensures_pure]
          exact fun _ _ => .none
  simp only [executePlainOp, ensures_bind, ensures_pure]
  rintro ⟨instr, pc⟩ _
  exact executePlain_effect

/-- What a round of the interpreter's loop does to the store. -/
theorem frameStep_effect {budget : ExecutionBudget} {frame : GuestFrame} :
    Ensures (fun after => store.Effect inst after.1) (frameStep inst store budget frame) := by
  unfold frameStep
  split
  · simp only [ensures_bind, ensures_pure]
    exact fun _ _ => .none
  · simp only [ensures_bind, ensures_pure]
    intro budget _
    exact executeOp_effect _

end Instructions

end MiniWasm.Runtime
