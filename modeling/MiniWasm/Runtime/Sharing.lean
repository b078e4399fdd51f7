import MiniWasm.Runtime.Coherence
import MiniWasm.Runtime.Effects

/-!
# Shared tables and globals

Tables and globals outlive the instances that use them.  Here the effects of
instructions, of calls on handles, of callbacks and of instantiations are put
together to what one step of a world, whoever takes it, can do to them.
-/

namespace MiniWasm.Runtime

open Library

variable {σ : Type}

/-! ## One cell -/

/-- The table is not longer than its maximum. -/
def TableCell.InLimit (cell : TableCell) : Prop :=
  ∀ maximum, cell.maximum = some maximum → cell.slots.length ≤ maximum

/-- What can become of a table. -/
structure TableCell.Evolves (before after : TableCell) : Prop where
  maximum : after.maximum = before.maximum
  longer : before.slots.length ≤ after.slots.length
  inLimit : before.InLimit → after.InLimit

namespace TableCell

theorem Evolves.refl (cell : TableCell) : cell.Evolves cell :=
  ⟨rfl, Nat.le_refl _, id⟩

theorem Evolves.trans {first second third : TableCell} (before : first.Evolves second)
    (after : second.Evolves third) : first.Evolves third :=
  ⟨after.maximum.trans before.maximum, Nat.le_trans before.longer after.longer,
    after.inLimit ∘ before.inLimit⟩

theorem Evolves.ofLength {before after : TableCell} (maximum : after.maximum = before.maximum)
    (length : after.slots.length = before.slots.length) : before.Evolves after :=
  ⟨maximum, length.ge, fun inLimit limit isLimit =>
    length.le.trans (inLimit limit (maximum ▸ isLimit))⟩

variable {cell after : TableCell}

theorem set_evolves {index : Nat} {function : Option FunctionRef}
    (stored : cell.set index function = .ok after) : cell.Evolves after := by
  obtain ⟨-, slots, maximum⟩ := TableCell.set_slots stored
  refine .ofLength maximum ?_
  rw [slots, List.length_set]

theorem writeSlots_evolves (cell : TableCell) (start : Nat) (slots : List (Option FunctionRef)) :
    cell.Evolves (cell.writeSlots start slots) :=
  .ofLength rfl (overwrite_length ..)

theorem grow_evolves (cell : TableCell) (granted : Bool) (delta : Nat)
    (fill : Option FunctionRef) : cell.Evolves (cell.grow granted delta fill).2 := by
  unfold grow
  dsimp only
  split_ifs with large exceeds nothing
  · exact .refl cell
  · exact .refl cell
  · exact .refl cell
  · refine ⟨rfl, by simp, fun _ maximum isMaximum => ?_⟩
    rw [List.length_append, List.length_replicate]
    by_contra beyond
    refine exceeds ?_
    rw [Option.any_eq_true]
    exact ⟨maximum, isMaximum, decide_eq_true (Nat.lt_of_not_le beyond)⟩
  · exact .refl cell

theorem bind_evolves {live : List Identity} {identity : Identity}
    (bound : cell.bind live identity = .ok after) : cell.Evolves after := by
  obtain ⟨slots, maximum, -⟩ := bind_ok bound
  exact .ofLength maximum (congrArg List.length slots)

/-- A new table is within its maximum and holds nothing. -/
theorem new_inLimit {granted : Bool} {minimum : Nat} {maximum : Option Nat}
    (created : TableCell.new granted minimum maximum = .ok cell) :
    cell.InLimit ∧ ∀ reference, some reference ∉ cell.slots := by
  unfold new at created
  split_ifs at created with below fits
  cases created
  refine ⟨fun limit isLimit => ?_, fun reference present => ?_⟩
  · rw [List.length_replicate]
    by_contra beyond
    refine below ?_
    rw [Option.any_eq_true]
    exact ⟨limit, isLimit, decide_eq_true (Nat.lt_of_not_le beyond)⟩
  · cases List.eq_of_mem_replicate present

end TableCell

/-- What can become of a global. -/
structure GlobalCell.Evolves (before after : GlobalCell) : Prop where
  valueType : after.valueType = before.valueType
  mutability : after.mutable = before.mutable
  constant : before.mutable = false → after.value = before.value

namespace GlobalCell

theorem Evolves.refl (cell : GlobalCell) : cell.Evolves cell :=
  ⟨rfl, rfl, fun _ => rfl⟩

theorem Evolves.trans {first second third : GlobalCell} (before : first.Evolves second)
    (after : second.Evolves third) : first.Evolves third where
  valueType := after.valueType.trans before.valueType
  mutability := after.mutability.trans before.mutability
  constant immutable :=
    (after.constant (before.mutability.trans immutable)).trans (before.constant immutable)

theorem set_evolves {cell after : GlobalCell} {value : Value}
    (stored : cell.set value = .ok after) : cell.Evolves after := by
  obtain ⟨mutability, -, valueType, same⟩ := set_ok stored
  refine ⟨valueType, same, fun immutable => ?_⟩
  rw [mutability] at immutable
  cases immutable

end GlobalCell

/-! ## The heap -/

/-- What a step can do to the tables and globals that there are, when it can create the
references that are `issued`. -/
structure Heap.ObjectsEvolve (issued : FunctionRef → Prop) (before after : Heap) : Prop where
  tableCount : before.tables.size ≤ after.tables.size
  globalCount : before.globals.size ≤ after.globals.size
  tables : ∀ address, address < before.tables.size →
    (before.tables.get address).Evolves (after.tables.get address)
  newTables : ∀ address, before.tables.size ≤ address → address < after.tables.size →
    (after.tables.get address).InLimit
  globals : ∀ address, address < before.globals.size →
    (before.globals.get address).Evolves (after.globals.get address)
  references : ∀ reference, after.Holds reference → issued reference ∨ before.Holds reference

namespace Heap.ObjectsEvolve

variable {issued : FunctionRef → Prop} {first second third heap : Heap}

/-- Nothing happens to the tables and globals. -/
theorem ofSame {before after : Heap} (tables : after.tables = before.tables)
    (globals : after.globals = before.globals) (held : after.held = before.held) :
    before.ObjectsEvolve issued after where
  tableCount := tables ▸ Nat.le_refl _
  globalCount := globals ▸ Nat.le_refl _
  tables address _ := tables ▸ .refl _
  newTables address old new := absurd (tables ▸ new) (Nat.not_lt.mpr old)
  globals address _ := globals ▸ .refl _
  references reference present := by
    unfold Holds table at present
    rw [tables, held] at present
    exact .inr present

theorem refl (heap : Heap) : heap.ObjectsEvolve issued heap :=
  .ofSame rfl rfl rfl

theorem trans (before : first.ObjectsEvolve issued second)
    (after : second.ObjectsEvolve issued third) : first.ObjectsEvolve issued third where
  tableCount := Nat.le_trans before.tableCount after.tableCount
  globalCount := Nat.le_trans before.globalCount after.globalCount
  tables address existed := (before.tables address existed).trans
    (after.tables address (Nat.lt_of_lt_of_le existed before.tableCount))
  newTables address old new := by
    by_cases middle : address < second.tables.size
    · exact (after.tables address middle).inLimit (before.newTables address old middle)
    · exact after.newTables address (Nat.le_of_not_lt middle) new
  globals address existed := (before.globals address existed).trans
    (after.globals address (Nat.lt_of_lt_of_le existed before.globalCount))
  references reference present := by
    rcases after.references reference present with fresh | old
    · exact .inl fresh
    · exact before.references reference old

theorem mono {wider : FunctionRef → Prop} (evolves : first.ObjectsEvolve issued second)
    (weaken : ∀ reference, issued reference → wider reference) :
    first.ObjectsEvolve wider second :=
  { evolves with
    references := fun reference present =>
      (evolves.references reference present).imp_left (weaken reference) }

theorem setTable {handle : TableHandle} {cell : TableCell}
    (evolves : (heap.table handle).Evolves cell)
    (supplied : ∀ reference, some reference ∈ cell.slots →
      issued reference ∨ heap.Holds reference) :
    heap.ObjectsEvolve issued (heap.setTable handle cell) where
  tableCount := Nat.le_refl _
  globalCount := Nat.le_refl _
  tables address _ := by
    simp only [Heap.setTable, Arena.get_set]
    split_ifs with same
    · exact same ▸ evolves
    · exact .refl _
  newTables address old new := absurd new (Nat.not_lt.mpr old)
  globals address _ := .refl _
  references reference present := by
    rcases present with held | ⟨other, present⟩
    · exact .inr (.inl held)
    · simp only [Heap.table, Heap.setTable, Arena.get_set] at present
      split_ifs at present
      · exact supplied reference present
      · exact .inr (.inr ⟨other, present⟩)

theorem setGlobal {handle : GlobalHandle} {cell : GlobalCell}
    (evolves : (heap.global handle).Evolves cell) :
    heap.ObjectsEvolve issued (heap.setGlobal handle cell) :=
  { refl heap with
    globals := fun address _ => by
      simp only [Heap.setGlobal, Arena.get_set]
      split_ifs with same
      · exact same ▸ evolves
      · exact .refl _ }

theorem newTable {cell : TableCell} (inLimit : cell.InLimit)
    (empty : ∀ reference, some reference ∉ cell.slots) :
    heap.ObjectsEvolve issued (heap.newTable cell).2 where
  tableCount := Nat.le_succ _
  globalCount := Nat.le_refl _
  tables address existed := by
    have same : (heap.newTable cell).2.tables.get address = heap.tables.get address :=
      heap.tables.get_alloc_of_lt cell existed
    rw [same]
    exact .refl _
  newTables address old new := by
    have last : address = heap.tables.size := Nat.le_antisymm (Nat.le_of_lt_succ new) old
    have same : (heap.newTable cell).2.tables.get address = cell :=
      (heap.tables.get_alloc address cell).trans (if_pos last)
    rw [same]
    exact inLimit
  globals address _ := .refl _
  references reference present := by
    rcases present with held | ⟨other, present⟩
    · exact .inr (.inl held)
    · have placed : (heap.newTable cell).2.table other =
          if other.address = heap.tables.size then cell else heap.table other :=
        heap.tables.get_alloc ..
      rw [placed] at present
      split_ifs at present
      · exact absurd present (empty reference)
      · exact .inr (.slot present)

theorem newGlobal (cell : GlobalCell) : heap.ObjectsEvolve issued (heap.newGlobal cell).2 :=
  { refl heap with
    globalCount := Nat.le_succ _
    globals := fun address existed => by
      have same : (heap.newGlobal cell).2.globals.get address = heap.globals.get address :=
        heap.globals.get_alloc_of_lt cell existed
      rw [same]
      exact .refl _ }

end Heap.ObjectsEvolve

/-! ## Steps of an instance -/

section Steps

variable {inst : Instance σ} {issued : FunctionRef → Prop}

theorem issues_functionRef {reference : Option Nat} {slot : FunctionRef}
    (filled : some slot = reference.map inst.functionRef) : inst.Issues slot := by
  cases reference with
  | none => cases filled
  | some index =>
      cases filled
      rfl

theorem setMemoryAt_objects (store : Store σ) (index : Nat) (memory : LinearMemory) :
    store.heap.ObjectsEvolve issued (store.setMemoryAt index memory).heap := by
  unfold Store.setMemoryAt
  split <;> exact .ofSame rfl rfl rfl

/-- What an effect of an instruction does to the tables and globals. -/
theorem Store.Effect.objects {before after : Store σ} (effect : before.Effect inst after) :
    before.heap.ObjectsEvolve inst.Issues after.heap := by
  cases effect with
  | none => exact .refl _
  | memory index memory => exact setMemoryAt_objects ..
  | memoryGrown index memory =>
      have ticked : before.heap.ObjectsEvolve inst.Issues before.heap.tick := .ofSame rfl rfl rfl
      exact ticked.trans (setMemoryAt_objects { before with heap := before.heap.tick } ..)
  | @slot handle index reference cell _ stored =>
      refine .setTable (TableCell.set_evolves stored) fun slot present => ?_
      rw [(TableCell.set_ok stored).2] at present
      rcases List.mem_or_eq_of_mem_set present with old | new
      · exact .inr (.slot old)
      · exact .inl (issues_functionRef new)
  | @slots handle start slots _ _ supplied =>
      refine .setTable (TableCell.writeSlots_evolves ..) fun slot present => ?_
      rcases mem_of_mem_overwrite present with old | new
      · exact .inr (.slot old)
      · exact supplied slot new
  | @tableGrown handle delta reference _ =>
      have ticked : before.heap.ObjectsEvolve inst.Issues before.heap.tick := .ofSame rfl rfl rfl
      refine ticked.trans (.setTable (TableCell.grow_evolves ..) fun slot present => ?_)
      rcases TableCell.grow_cases (before.heap.table handle) (before.heap.granted 0) delta
        (reference.map inst.functionRef) with same | ⟨-, slots⟩
      · rw [same] at present
        exact .inr (.inr ⟨handle, present⟩)
      · rw [slots, List.mem_append] at present
        rcases present with old | new
        · exact .inr (.inr ⟨handle, old⟩)
        · exact .inl (issues_functionRef (List.eq_of_mem_replicate new))
  | global _ stored => exact .setGlobal (GlobalCell.set_evolves stored)
  | segments => exact .ofSame rfl rfl rfl

/-- The embedder moves references between tables, and creates none. -/
theorem HandleOp.apply_objects (heap : Heap) (op : HandleOp) :
    heap.ObjectsEvolve issued (op.apply heap) := by
  unfold HandleOp.apply
  cases op with
  | setGlobal handle value =>
      dsimp only
      split
      · next stored => exact .setGlobal (GlobalCell.set_evolves stored)
      · exact .refl heap
  | newGlobal value mutable => exact .newGlobal _
  | getTable handle index =>
      dsimp only
      split
      · next reference found =>
          have unchanged : heap.ObjectsEvolve issued heap := .refl heap
          refine { unchanged with references := fun other present => ?_ }
          rcases present with held | slot
          · rcases List.mem_append.mp held with old | new
            · exact .inr (.inl old)
            · rw [List.mem_singleton] at new
              subst new
              unfold TableCell.get at found
              split at found
              · next here =>
                  cases found
                  exact .inr (.slot (List.mem_of_getElem? here))
              · cases found
          · exact .inr (.inr slot)
      · exact .refl heap
  | setTable handle index reference =>
      dsimp only
      split
      · exact .refl heap
      · next function known =>
          split
          · next cell stored =>
              refine .setTable (TableCell.set_evolves stored) fun slot present => ?_
              rw [(TableCell.set_ok stored).2] at present
              rcases List.mem_or_eq_of_mem_set present with old | rfl
              · exact .inr (.slot old)
              · cases reference with
                | none => cases known
                | some position =>
                    obtain ⟨found, here, same⟩ := Option.map_eq_some_iff.mp known
                    cases same
                    exact .inr (.inl (List.mem_of_getElem? here))
          · exact .refl heap
  | newTable minimum maximum =>
      have ticked : heap.ObjectsEvolve issued heap.tick := .ofSame rfl rfl rfl
      dsimp only
      split
      · next created =>
          obtain ⟨inLimit, empty⟩ := TableCell.new_inLimit created
          exact ticked.trans (.newTable inLimit empty)
      · exact ticked
  | writeMemory handle address bytes =>
      dsimp only
      split
      · exact .ofSame rfl rfl rfl
      · exact .refl heap
  | growMemory handle deltaPages => exact .ofSame rfl rfl rfl
  | newMemory minimum maximum memory64 =>
      dsimp only
      split <;> exact .ofSame rfl rfl rfl

theorem afterHost_objects (capabilities : HostCapabilities) (store : Store σ)
    (reply : HostReply σ) :
    store.heap.ObjectsEvolve issued (store.afterHost capabilities reply).heap := by
  unfold Store.afterHost
  have first : store.heap.ObjectsEvolve issued
      ({ store with host := reply.state } : Store σ).heap := .refl _
  refine first.trans ?_
  generalize ({ store with host := reply.state } : Store σ) = current
  induction reply.ops generalizing current with
  | nil => exact .refl _
  | cons op rest ih =>
      refine Heap.ObjectsEvolve.trans ?_ (ih _)
      cases op with
      | writeMemoryAt memoryIndex address bytes =>
          unfold Store.applyHostOp Store.hostWrite
          dsimp only
          split
          · exact .refl _
          split
          · exact .refl _
          split
          · exact setMemoryAt_objects ..
          · exact .refl _
      | handle op => exact op.apply_objects _

theorem invokeHost_objects (inst : Instance σ) (store : Store σ) (budget : ExecutionBudget)
    (index : Nat) (args : List Value) :
    store.heap.ObjectsEvolve issued (inst.invokeHost store budget index args).1.heap := by
  unfold Instance.invokeHost
  split
  · exact .refl _
  · exact afterHost_objects ..

/-- The store behind a step is the one before it, or that behind a callback or a round of the
interpreter's loop. -/
theorem Machine.step_store (inst : Instance σ) (machine : Machine σ) :
    (machine.step inst).store = machine.store ∨
      (∃ index args, (machine.step inst).store =
        (inst.invokeHost machine.store machine.budget index args).1) ∨
      ∃ frame after, frameStep inst machine.store machine.budget frame = .ok after ∧
        (machine.step inst).store = after.1 := by
  cases current : machine.current with
  | function index args =>
      rw [step_function current, Machine.enter]
      split
      · refine .inr (.inl ⟨index, args, ?_⟩)
        split
        · next invoked =>
            rw [invoked]
            rfl
        · next invoked =>
            rw [handleOutcome_store, invoked]
      split
      · exact .inl rfl
      split <;> exact .inl rfl
  | frame frame =>
      rw [step_frame current]
      cases round : frameStep inst machine.store machine.budget frame with
      | error err => exact .inl rfl
      | ok after =>
          refine .inr (.inr ⟨frame, after, round, ?_⟩)
          obtain ⟨store, budget, step⟩ := after
          cases step with
          | running next => rfl
          | outcome outcome =>
              rw [Machine.afterRound, handleOutcome_store]

/-- What a step of an invocation does to the tables and globals. -/
theorem Machine.step_objects (machine : Machine σ) :
    machine.store.heap.ObjectsEvolve inst.Issues (machine.step inst).store.heap := by
  rcases machine.step_store inst with same | ⟨index, args, same⟩ | ⟨frame, after, ran, same⟩
  · rw [same]
    exact .refl _
  · rw [same]
    exact invokeHost_objects ..
  · rw [same]
    exact (frameStep_effect after ran).objects

end Steps

/-! ## Instantiation -/

section Instantiation

variable {module : Module} {hosts : HostRegistry σ} {limits : RuntimeLimits} {host : σ}
variable {issued : FunctionRef → Prop} {identity : Identity}

theorem bindTable_objects {heap after : Heap} {handle : TableHandle}
    {mapError : TableHandleError → RuntimeError}
    (bound : bindTable heap handle identity mapError = .ok after) :
    heap.ObjectsEvolve issued after := by
  unfold bindTable at bound
  split at bound
  · next cell binds =>
      cases bound
      refine .setTable (TableCell.bind_evolves binds) fun reference present => ?_
      rw [(TableCell.bind_ok binds).1] at present
      exact .inr (.slot present)
  · cases bound

theorem instantiateImportedTables_objects (hosts : HostRegistry σ) (identity : Identity)
    (imports : List (Import × TableType)) (heap : Heap) :
    heap.ObjectsEvolve issued (instantiateImportedTables hosts identity imports heap).1 := by
  induction imports generalizing heap with
  | nil => exact .refl heap
  | cons entry rest ih =>
      unfold instantiateImportedTables
      split
      · exact .refl heap
      split
      · exact .refl heap
      · next after bound => exact (bindTable_objects bound).trans (ih after)

theorem instantiateDefinedTables_objects (identity : Identity) (types : List TableType)
    (heap : Heap) :
    heap.ObjectsEvolve issued (instantiateDefinedTables identity types heap).1 := by
  have ticked (heap : Heap) : heap.ObjectsEvolve issued heap.tick := .ofSame rfl rfl rfl
  induction types generalizing heap with
  | nil => exact .refl heap
  | cons type rest ih =>
      unfold instantiateDefinedTables
      split
      · exact ticked heap
      next cell created =>
      obtain ⟨inLimit, empty⟩ := TableCell.new_inLimit created
      have allocated : heap.ObjectsEvolve issued (heap.tick.newTable cell).2 :=
        (ticked heap).trans (.newTable inLimit empty)
      dsimp only
      split
      · exact allocated
      · next after bound => exact allocated.trans ((bindTable_objects bound).trans (ih after))

theorem instantiateTables_objects (module : Module) (hosts : HostRegistry σ)
    (identity : Identity) (heap : Heap) :
    heap.ObjectsEvolve issued (instantiateTables module hosts identity heap).1 := by
  have imported : heap.ObjectsEvolve issued _ :=
    instantiateImportedTables_objects hosts identity (importsOf module Import.tableType) heap
  unfold instantiateTables
  split
  · next failed => exact failed ▸ imported
  · next middle handles ready =>
      rw [ready] at imported
      exact imported.trans (instantiateDefinedTables_objects identity module.tables middle)

theorem instantiateGlobals_objects (module : Module) (hosts : HostRegistry σ) (heap : Heap) :
    heap.ObjectsEvolve issued (instantiateGlobals module hosts heap).1 := by
  have defined (definitions : List Global) (heap : Heap) :
      heap.ObjectsEvolve issued (instantiateDefinedGlobals definitions heap).1 := by
    induction definitions generalizing heap with
    | nil => exact .refl heap
    | cons definition rest ih => exact Heap.ObjectsEvolve.trans (.newGlobal _) (ih _)
  unfold instantiateGlobals
  split
  · exact .refl heap
  · exact defined module.globals heap

theorem initializeSegments_objects (inst : Instance σ) (store : Store σ) :
    store.heap.ObjectsEvolve inst.Issues (initializeSegments inst store).1.heap := by
  refine @initializeSegments_lift σ
    (fun before after => before.heap.ObjectsEvolve inst.Issues after.heap) ?_ ?_ inst ?_ ?_ store
  · exact fun store => .refl _
  · exact fun before after => before.trans after
  · intro segment store
    unfold writeDataSegment
    split
    · simp only [Store.withMemoryIndexMut, ensures_bind, ensures_pure]
      intro memory _ after _
      exact setMemoryAt_objects ..
    · exact (ensures_pure _).mpr (.refl _)
  · rintro handle ⟨index, function⟩ store
    refine .ite (ensures_error _) ?_
    simp only [ensures_bind, ensures_pure]
    intro cell stored
    have stored := tableResult_ok stored
    split_ifs at stored
    · refine .setTable (TableCell.set_evolves stored) fun reference present => ?_
      rw [(TableCell.set_ok stored).2] at present
      rcases List.mem_or_eq_of_mem_set present with old | null
      · exact .inr (.slot old)
      · cases null
    · obtain ⟨bound, binds, stored⟩ := bind_ok.mp stored
      refine .setTable ((TableCell.bind_evolves binds).trans (TableCell.set_evolves stored))
        fun reference present => ?_
      rw [(TableCell.set_ok stored).2, (TableCell.bind_ok binds).1] at present
      rcases List.mem_or_eq_of_mem_set present with old | new
      · exact .inr (.slot old)
      · cases new
        exact .inl rfl

/-- The heap that the memories of a new instance leave. -/
theorem instantiateMemories_objects (module : Module) (hosts : HostRegistry σ)
    (limits : RuntimeLimits) (heap : Heap) :
    heap.ObjectsEvolve issued (instantiateMemories module hosts limits heap).1 := by
  obtain ⟨granted, same⟩ := @instantiateMemories_heap σ module hosts limits heap
  rw [same]
  exact .ofSame rfl rfl rfl

/-- The tables of an instance are its own before its segments are written. -/
theorem assembled_owns {allocated bound assembled : Heap} {tables : List TableHandle}
    {globals : List GlobalHandle}
    (tablesReady : instantiateTables module hosts allocated.nextIdentity
      allocated.newIdentity.2 = (bound, .ok tables))
    (globalsReady : instantiateGlobals module hosts bound = (assembled, .ok globals))
    {inst : Instance σ} (identity : inst.identity = allocated.nextIdentity)
    (handles : inst.tables = tables) : OwnsTables inst assembled := by
  have tablesBound : TablesBound allocated.nextIdentity _
      (instantiateTables module hosts allocated.nextIdentity allocated.newIdentity.2) :=
    instantiateTables_bound _
  rw [tablesReady] at tablesBound
  have globalsBound : bound.BindsOnly allocated.nextIdentity
      (instantiateGlobals module hosts bound).1 :=
    instantiateGlobals_bindsOnly bound
  rw [globalsReady] at globalsBound
  refine ⟨fun handle member => ?_, ?_⟩
  · rw [identity]
    exact globalsBound.stayBound _ (tablesBound.2 tables rfl handle (handles ▸ member))
  · rw [identity, (tablesBound.1.trans globalsBound).live]
    exact List.mem_cons_self

/-- The stages of an instantiation before the segments. -/
theorem assembled_objects {heap allocated bound : Heap} {memories : List RuntimeMemory}
    {tables : List TableHandle}
    (memoriesReady : instantiateMemories module hosts limits heap = (allocated, .ok memories))
    (tablesReady : instantiateTables module hosts allocated.nextIdentity
      allocated.newIdentity.2 = (bound, .ok tables)) :
    heap.ObjectsEvolve issued (instantiateGlobals module hosts bound).1 := by
  have memoriesStage : heap.ObjectsEvolve issued _ :=
    instantiateMemories_objects module hosts limits heap
  have identified : allocated.ObjectsEvolve issued allocated.newIdentity.2 := .ofSame rfl rfl rfl
  have tablesStage : allocated.newIdentity.2.ObjectsEvolve issued _ :=
    instantiateTables_objects module hosts allocated.nextIdentity _
  rw [memoriesReady] at memoriesStage
  rw [tablesReady] at tablesStage
  exact memoriesStage.trans (identified.trans
    (tablesStage.trans (instantiateGlobals_objects module hosts bound)))

/-- A new instance creates references of its own only. -/
theorem Ready.objects {heap : Heap} {inst : Instance σ} {store : Store σ}
    (ready : Ready module hosts limits heap host inst store) :
    heap.ObjectsEvolve inst.Issues store.heap := by
  cases ready with
  | @intro _ allocated bound assembled memories tables globals _ _ _ _ _ memoriesReady
      tablesReady globalsReady _ segments =>
      have before : heap.ObjectsEvolve inst.Issues _ :=
        assembled_objects memoriesReady tablesReady
      have written := initializeSegments_objects inst
        { heap := assembled, memories, host, dataSegments := module.data.map passiveData
          elementSegments := module.elements.map passiveElements }
      rw [globalsReady] at before
      rw [segments] at written
      exact before.trans written

/-- An instantiation that fails leaves no reference behind. -/
theorem instantiate_failed_objects {heap after : Heap} {err : RuntimeError}
    (failed : instantiate module hosts limits heap host = .failed after err) :
    heap.ObjectsEvolve issued after := by
  have dropped (heap : Heap) (identity : Identity) :
      heap.ObjectsEvolve issued (heap.dropIdentity identity) := .ofSame rfl rfl rfl
  unfold instantiate at failed
  split at failed
  · cases failed
    exact .refl heap
  split at failed
  · cases failed
    exact .refl heap
  split at failed
  · cases failed
    exact .refl heap
  next controlMaps _ =>
  have memoriesStage : heap.ObjectsEvolve issued _ :=
    instantiateMemories_objects module hosts limits heap
  split at failed
  · next memoriesFailed =>
      rw [memoriesFailed] at memoriesStage
      cases failed
      exact memoriesStage
  next middle memories memoriesReady =>
  rw [memoriesReady] at memoriesStage
  have identified : middle.ObjectsEvolve issued middle.newIdentity.2 := .ofSame rfl rfl rfl
  have tablesStage : middle.newIdentity.2.ObjectsEvolve issued _ :=
    instantiateTables_objects module hosts middle.nextIdentity _
  dsimp only [Heap.newIdentity] at failed
  split at failed
  · next tablesFailed =>
      have stage : middle.newIdentity.2.ObjectsEvolve issued _ := tablesFailed ▸ tablesStage
      cases failed
      exact memoriesStage.trans (identified.trans (stage.trans (dropped ..)))
  next bound tables tablesReady =>
  have globalsStage : heap.ObjectsEvolve issued _ :=
    assembled_objects memoriesReady tablesReady
  split at failed
  · next globalsFailed =>
      rw [globalsFailed] at globalsStage
      cases failed
      exact globalsStage.trans (dropped ..)
  next assembled globals globalsReady =>
  rw [globalsReady] at globalsStage
  split at failed
  · next store _ segmentsFailed =>
      have written := initializeSegments_error
        (assembled_owns tablesReady globalsReady rfl rfl) segmentsFailed
      cases failed
      rw [written]
      exact globalsStage.trans (dropped ..)
  · cases failed

end Instantiation

end MiniWasm.Runtime
