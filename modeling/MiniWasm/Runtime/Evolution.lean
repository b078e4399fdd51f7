import MiniWasm.Runtime.Frame

/-!
# What a guest step does to the store

A running instance shares handles with others, and the references that it
handles are plain numbers.  This module follows both through every instruction,
whatever the operands are: which cells can change and how, and that a reference
that turns up anywhere was there before or was issued.
-/

namespace MiniWasm.Runtime

open Library

variable {σ : Type}

/-! ## Admitted values -/

/-- A reference that the value carries is an admitted one. -/
def Value.Admitted (admitted : Nat → Prop) : Value → Prop
  | .i32 _ => True
  | .i64 _ => True
  | .f32 _ => True
  | .f64 _ => True
  | .v128 _ => True
  | .funcRef none => True
  | .funcRef (some index) => admitted index

/-- Every reference on the stack is admitted. -/
def AllAdmitted (admitted : Nat → Prop) (values : List Value) : Prop :=
  ∀ value ∈ values, value.Admitted admitted

section Admitted

variable {admitted : Nat → Prop}

@[simp] theorem allAdmitted_cons (value : Value) (values : List Value) :
    AllAdmitted admitted (value :: values) ↔
      value.Admitted admitted ∧ AllAdmitted admitted values := by
  simp [AllAdmitted]

@[simp] theorem allAdmitted_append (first second : List Value) :
    AllAdmitted admitted (first ++ second) ↔
      AllAdmitted admitted first ∧ AllAdmitted admitted second := by
  simp [AllAdmitted, or_imp, forall_and]

@[simp] theorem allAdmitted_reverse (values : List Value) :
    AllAdmitted admitted values.reverse ↔ AllAdmitted admitted values := by
  simp [AllAdmitted]

theorem AllAdmitted.tail {value : Value} {values : List Value}
    (allAdmitted : AllAdmitted admitted (value :: values)) : AllAdmitted admitted values :=
  ((allAdmitted_cons ..).mp allAdmitted).2

theorem AllAdmitted.push {value : Value} {values : List Value}
    (allAdmitted : AllAdmitted admitted values) (pushed : value.Admitted admitted) :
    AllAdmitted admitted (value :: values) :=
  (allAdmitted_cons ..).mpr ⟨pushed, allAdmitted⟩

/-- A local is overwritten by an admitted value. -/
theorem AllAdmitted.set {values : List Value} {index : Nat} {value : Value}
    (allAdmitted : AllAdmitted admitted values) (written : value.Admitted admitted) :
    AllAdmitted admitted (values.set index value) := by
  intro other member
  rcases List.mem_or_eq_of_mem_set member with old | rfl
  · exact allAdmitted other old
  · exact written

/-! ## Numbers and vectors -/

variable {stack : Stack} {opcode : Nat}

/-- Numeric instructions push numbers, and numbers carry no reference. -/
theorem compareI32_admitted (stackAdmitted : AllAdmitted admitted stack) :
    Ensures (AllAdmitted admitted) (compareI32 stack opcode) := by
  apply Ensures.ite <;> simp only [ensures_bind, ensures_i32FromStack, ensures_pure]
  · rintro value rest rfl
    exact stackAdmitted.tail.push trivial
  · rintro rhs rest rfl lhs rest rfl result -
    exact stackAdmitted.tail.tail.push trivial

theorem compareI64_admitted (stackAdmitted : AllAdmitted admitted stack) :
    Ensures (AllAdmitted admitted) (compareI64 stack opcode) := by
  apply Ensures.ite <;> simp only [ensures_bind, ensures_i64FromStack, ensures_pure]
  · rintro value rest rfl
    exact stackAdmitted.tail.push trivial
  · rintro rhs rest rfl lhs rest rfl result -
    exact stackAdmitted.tail.tail.push trivial

theorem compareF32_admitted (stackAdmitted : AllAdmitted admitted stack) :
    Ensures (AllAdmitted admitted) (compareF32 stack opcode) := by
  simp only [compareF32, ensures_bind, ensures_f32FromStack, ensures_pure]
  rintro rhs rest rfl lhs rest rfl result -
  exact stackAdmitted.tail.tail.push trivial

theorem compareF64_admitted (stackAdmitted : AllAdmitted admitted stack) :
    Ensures (AllAdmitted admitted) (compareF64 stack opcode) := by
  simp only [compareF64, ensures_bind, ensures_f64FromStack, ensures_pure]
  rintro rhs rest rfl lhs rest rfl result -
  exact stackAdmitted.tail.tail.push trivial

theorem unaryInteger_admitted (stackAdmitted : AllAdmitted admitted stack) :
    Ensures (AllAdmitted admitted) (unaryInteger stack opcode) := by
  unfold unaryInteger
  repeat' apply Ensures.ite
  all_goals simp only [ensures_bind, ensures_i32FromStack, ensures_i64FromStack, ensures_pure,
    ensures_error]
  all_goals
    rintro value rest rfl
    exact stackAdmitted.tail.push trivial

theorem binaryInteger_admitted (stackAdmitted : AllAdmitted admitted stack) :
    Ensures (AllAdmitted admitted) (binaryInteger stack opcode) := by
  unfold binaryInteger
  repeat' apply Ensures.ite
  all_goals simp only [ensures_bind, ensures_i32FromStack, ensures_i64FromStack, ensures_pure,
    ensures_error]
  all_goals
    rintro rhs rest rfl lhs rest rfl result -
    exact stackAdmitted.tail.tail.push trivial

theorem signExtend_admitted (stackAdmitted : AllAdmitted admitted stack) :
    Ensures (AllAdmitted admitted) (signExtend stack opcode) := by
  unfold signExtend
  repeat' apply Ensures.ite
  all_goals simp only [ensures_bind, ensures_i32FromStack, ensures_i64FromStack, ensures_pure,
    ensures_error]
  all_goals
    rintro value rest rfl
    exact stackAdmitted.tail.push trivial

theorem unaryFloat_admitted (stackAdmitted : AllAdmitted admitted stack) :
    Ensures (AllAdmitted admitted) (unaryFloat stack opcode) := by
  unfold unaryFloat
  repeat' apply Ensures.ite
  all_goals simp only [ensures_bind, ensures_f32FromStack, ensures_f64FromStack, ensures_pure,
    ensures_error]
  all_goals
    rintro value rest rfl result -
    exact stackAdmitted.tail.push trivial

theorem binaryFloat_admitted (stackAdmitted : AllAdmitted admitted stack) :
    Ensures (AllAdmitted admitted) (binaryFloat stack opcode) := by
  unfold binaryFloat
  repeat' apply Ensures.ite
  all_goals simp only [ensures_bind, ensures_f32FromStack, ensures_f64FromStack, ensures_pure,
    ensures_error]
  all_goals
    rintro rhs rest rfl lhs rest rfl result -
    exact stackAdmitted.tail.tail.push trivial

theorem convertToI32_admitted (stackAdmitted : AllAdmitted admitted stack) :
    Ensures (AllAdmitted admitted) (convertToI32 stack opcode) := by
  unfold convertToI32 widenedF32FromStack floatFromStack
  repeat' apply Ensures.ite
  all_goals simp only [ensures_bind, ensures_i64FromStack, ensures_f32FromStack,
    ensures_f64FromStack, ensures_pure]
  · rintro value rest rfl
    exact stackAdmitted.tail.push trivial
  all_goals
    rintro value rest rfl result -
    exact stackAdmitted.tail.push trivial

theorem convertToI64_admitted (stackAdmitted : AllAdmitted admitted stack) :
    Ensures (AllAdmitted admitted) (convertToI64 stack opcode) := by
  unfold convertToI64 widenedF32FromStack floatFromStack
  repeat' apply Ensures.ite
  all_goals simp only [ensures_bind, ensures_i32FromStack, ensures_f32FromStack,
    ensures_f64FromStack, ensures_pure]
  iterate 2
    · rintro value rest rfl
      exact stackAdmitted.tail.push trivial
  all_goals
    rintro value rest rfl result -
    exact stackAdmitted.tail.push trivial

theorem convertToFloat_admitted (stackAdmitted : AllAdmitted admitted stack) :
    Ensures (AllAdmitted admitted) (convertToFloat stack opcode) := by
  unfold convertToFloat
  repeat' apply Ensures.ite
  all_goals simp only [ensures_bind, ensures_i32FromStack, ensures_i64FromStack,
    ensures_f32FromStack, ensures_f64FromStack, ensures_pure, ensures_error]
  all_goals
    rintro value rest rfl
    exact stackAdmitted.tail.push trivial

theorem truncSat_admitted (stackAdmitted : AllAdmitted admitted stack) :
    Ensures (AllAdmitted admitted) (truncSat stack opcode) := by
  unfold truncSat widenedF32FromStack floatFromStack
  repeat' apply Ensures.ite
  all_goals simp only [ensures_bind, ensures_f32FromStack, ensures_f64FromStack, ensures_pure,
    ensures_error]
  all_goals
    rintro value rest rfl
    exact stackAdmitted.tail.push trivial

/-- The arms are those of the dispatch by opcode. -/
theorem executeNumeric_admitted (stackAdmitted : AllAdmitted admitted stack) :
    Ensures (AllAdmitted admitted) (executeNumeric stack opcode) := by
  unfold executeNumeric
  refine .ite (compareI32_admitted stackAdmitted) <| .ite (compareI64_admitted stackAdmitted) <|
    .ite (compareF32_admitted stackAdmitted) <| .ite (compareF64_admitted stackAdmitted) <|
    .ite (unaryInteger_admitted stackAdmitted) <| .ite (binaryInteger_admitted stackAdmitted) <|
    .ite (unaryInteger_admitted stackAdmitted) <| .ite (binaryInteger_admitted stackAdmitted) <|
    .ite (unaryFloat_admitted stackAdmitted) <| .ite (binaryFloat_admitted stackAdmitted) <|
    .ite ?_ <| .ite (signExtend_admitted stackAdmitted) (ensures_error _)
  exact .ite (convertToI32_admitted stackAdmitted) <|
    .ite (convertToI64_admitted stackAdmitted) (convertToFloat_admitted stackAdmitted)

theorem executeSplat_admitted (stackAdmitted : AllAdmitted admitted stack) :
    Ensures (AllAdmitted admitted) (executeSplat stack opcode) := by
  unfold executeSplat
  repeat' apply Ensures.ite
  all_goals simp only [ensures_bind, ensures_i32FromStack, ensures_i64FromStack,
    ensures_f32FromStack, ensures_f64FromStack, ensures_pure]
  all_goals
    rintro value rest rfl
    intro vector _
    exact stackAdmitted.tail.push trivial

theorem executeSimdLane_admitted {lane : Nat} (stackAdmitted : AllAdmitted admitted stack) :
    Ensures (AllAdmitted admitted) (executeSimdLane stack opcode lane) := by
  unfold executeSimdLane
  iterate 6
    apply Ensures.ite
    · simp only [ensures_bind, ensures_i32FromStack, ensures_i64FromStack, ensures_f32FromStack,
        ensures_f64FromStack, ensures_v128FromStack, ensures_pure]
      rintro scalar rest rfl vector rest rfl
      intro replaced _
      exact stackAdmitted.tail.tail.push trivial
  rw [ensures_bind, ensures_v128FromStack]
  rintro vector rest rfl
  repeat' apply Ensures.ite
  all_goals
    rw [ensures_bind]
    intro extracted _
    exact (ensures_pure _).mpr (stackAdmitted.tail.push trivial)

/-- Vectors carry no reference either. -/
theorem executeSimdBare_admitted (stackAdmitted : AllAdmitted admitted stack) :
    Ensures (AllAdmitted admitted) (executeSimdBare stack opcode) := by
  unfold executeSimdBare
  apply Ensures.ite (executeSplat_admitted stackAdmitted)
  split
  all_goals simp only [ensures_bind, ensures_i32FromStack, ensures_v128FromStack, ensures_pure,
    ensures_error]
  · rintro value rest rfl
    intro result _
    exact stackAdmitted.tail.push trivial
  · rintro rhs rest rfl lhs rest rfl
    intro result _
    exact stackAdmitted.tail.tail.push trivial
  · rintro third rest rfl second rest rfl first rest rfl
    intro result _
    exact stackAdmitted.tail.tail.tail.push trivial
  · rintro amount rest rfl value rest rfl
    intro result _
    exact stackAdmitted.tail.tail.push trivial
  · rintro value rest rfl
    intro result _
    exact stackAdmitted.tail.push trivial

end Admitted

/-! ## Changes of the heap -/

section Store

variable {inst : Instance σ} {issued : FunctionRef → Prop}

/-- Indices that stand for issued references of the instance. -/
def Instance.Admits (inst : Instance σ) (issued : FunctionRef → Prop) (index : Nat) : Prop :=
  issued (inst.functionRef index)

/-- What a step of the instance can do to the heap: it creates and drops nothing,
binds no table, keeps the type of every global, writes only its own globals, and
puts only issued references into tables. -/
structure Heap.Evolves (inst : Instance σ) (issued : FunctionRef → Prop)
    (before after : Heap) : Prop where
  live : after.live = before.live
  identities : after.nextIdentity = before.nextIdentity
  held : after.held = before.held
  memoryCount : after.memories.size = before.memories.size
  tableCount : after.tables.size = before.tables.size
  globalCount : after.globals.size = before.globals.size
  tableOwner : ∀ handle, (after.table handle).owner = (before.table handle).owner
  slots : ∀ handle reference, some reference ∈ (after.table handle).slots →
    issued reference ∨ ∃ other, some reference ∈ (before.table other).slots
  globalType : ∀ handle, (after.global handle).valueType = (before.global handle).valueType ∧
    (after.global handle).mutable = (before.global handle).mutable
  globalValue : ∀ handle, (after.global handle).value = (before.global handle).value ∨
    handle ∈ inst.globals ∧ (after.global handle).value.Admitted (inst.Admits issued)

namespace Heap.Evolves

variable {first second third : Heap}

theorem refl (heap : Heap) : heap.Evolves inst issued heap where
  live := rfl
  identities := rfl
  held := rfl
  memoryCount := rfl
  tableCount := rfl
  globalCount := rfl
  tableOwner _ := rfl
  slots handle _ present := .inr ⟨handle, present⟩
  globalType _ := ⟨rfl, rfl⟩
  globalValue _ := .inl rfl

theorem trans (before : first.Evolves inst issued second)
    (after : second.Evolves inst issued third) : first.Evolves inst issued third where
  live := after.live.trans before.live
  identities := after.identities.trans before.identities
  held := after.held.trans before.held
  memoryCount := after.memoryCount.trans before.memoryCount
  tableCount := after.tableCount.trans before.tableCount
  globalCount := after.globalCount.trans before.globalCount
  tableOwner handle := (after.tableOwner handle).trans (before.tableOwner handle)
  slots handle reference present := by
    rcases after.slots handle reference present with fresh | ⟨other, old⟩
    · exact .inl fresh
    · exact before.slots other reference old
  globalType handle :=
    ⟨(after.globalType handle).1.trans (before.globalType handle).1,
      (after.globalType handle).2.trans (before.globalType handle).2⟩
  globalValue handle := by
    rcases after.globalValue handle with kept | written
    · rw [kept]
      exact before.globalValue handle
    · exact .inr written

theorem tick (heap : Heap) : heap.Evolves inst issued heap.tick :=
  ⟨rfl, rfl, rfl, rfl, rfl, rfl, fun _ => rfl, fun handle _ present => .inr ⟨handle, present⟩,
    fun _ => ⟨rfl, rfl⟩, fun _ => .inl rfl⟩

theorem setLinearMemory (heap : Heap) (handle : MemoryHandle) (memory : LinearMemory) :
    heap.Evolves inst issued (heap.setLinearMemory handle memory) where
  live := rfl
  identities := rfl
  held := rfl
  memoryCount := rfl
  tableCount := rfl
  globalCount := rfl
  tableOwner _ := rfl
  slots handle _ present := .inr ⟨handle, present⟩
  globalType _ := ⟨rfl, rfl⟩
  globalValue _ := .inl rfl

theorem setTable {heap : Heap} {handle : TableHandle} {cell : TableCell}
    (owner : cell.owner = (heap.table handle).owner)
    (slots : ∀ reference, some reference ∈ cell.slots →
      issued reference ∨ ∃ other, some reference ∈ (heap.table other).slots) :
    heap.Evolves inst issued (heap.setTable handle cell) where
  live := rfl
  identities := rfl
  held := rfl
  memoryCount := rfl
  tableCount := rfl
  globalCount := rfl
  tableOwner other := by
    simp only [Heap.table, Heap.setTable, Arena.get_set]
    split_ifs with same
    · rw [owner, Heap.table, same]
    · rfl
  slots other reference present := by
    simp only [Heap.table, Heap.setTable, Arena.get_set] at present
    split_ifs at present
    · exact slots reference present
    · exact .inr ⟨other, present⟩
  globalType _ := ⟨rfl, rfl⟩
  globalValue _ := .inl rfl

theorem setGlobal {heap : Heap} {handle : GlobalHandle} {cell : GlobalCell}
    (own : handle ∈ inst.globals)
    (type : cell.valueType = (heap.global handle).valueType)
    (mutability : cell.mutable = (heap.global handle).mutable)
    (admitted : cell.value.Admitted (inst.Admits issued)) :
    heap.Evolves inst issued (heap.setGlobal handle cell) where
  live := rfl
  identities := rfl
  held := rfl
  memoryCount := rfl
  tableCount := rfl
  globalCount := rfl
  tableOwner _ := rfl
  slots handle _ present := .inr ⟨handle, present⟩
  globalType other := by
    simp only [Heap.global, Heap.setGlobal, Arena.get_set]
    split_ifs with same
    · rw [type, mutability, Heap.global, same]
      exact ⟨rfl, rfl⟩
    · exact ⟨rfl, rfl⟩
  globalValue other := by
    simp only [Heap.global, Heap.setGlobal, Arena.get_set]
    split_ifs with same
    · obtain ⟨address⟩ := other
      subst same
      exact .inr ⟨own, admitted⟩
    · exact .inl rfl

end Heap.Evolves

/-- What a step of the instance can do to its store. -/
structure Store.Evolves (inst : Instance σ) (issued : FunctionRef → Prop)
    (before after : Store σ) : Prop where
  heap : before.heap.Evolves inst issued after.heap
  memoryCount : after.memories.length = before.memories.length
  dataCount : after.dataSegments.length = before.dataSegments.length
  elementCount : after.elementSegments.length = before.elementSegments.length
  elements : ∀ segment ∈ after.elementSegments, ∀ function ∈ segment,
    ∃ other ∈ before.elementSegments, function ∈ other

/-- Every reference that the instance can get at in its store was issued. -/
structure Store.Admitted (inst : Instance σ) (issued : FunctionRef → Prop)
    (store : Store σ) : Prop where
  slots : ∀ handle reference, some reference ∈ (store.heap.table handle).slots →
    issued reference
  globals : ∀ handle ∈ inst.globals,
    (store.heap.global handle).value.Admitted (inst.Admits issued)
  elements : ∀ segment ∈ store.elementSegments, ∀ function ∈ segment,
    function ≠ nullFuncrefIndex → inst.Admits issued function

namespace Store.Evolves

variable {first second third store : Store σ}

theorem refl (store : Store σ) : store.Evolves inst issued store where
  heap := .refl _
  memoryCount := rfl
  dataCount := rfl
  elementCount := rfl
  elements segment member _ present := ⟨segment, member, present⟩

theorem trans (before : first.Evolves inst issued second)
    (after : second.Evolves inst issued third) : first.Evolves inst issued third where
  heap := before.heap.trans after.heap
  memoryCount := after.memoryCount.trans before.memoryCount
  dataCount := after.dataCount.trans before.dataCount
  elementCount := after.elementCount.trans before.elementCount
  elements segment member function present := by
    obtain ⟨other, otherMember, otherPresent⟩ := after.elements segment member function present
    exact before.elements other otherMember function otherPresent

theorem ofHeap {heap : Heap} (evolves : store.heap.Evolves inst issued heap) :
    store.Evolves inst issued { store with heap } where
  heap := evolves
  memoryCount := rfl
  dataCount := rfl
  elementCount := rfl
  elements segment member _ present := ⟨segment, member, present⟩

theorem setMemoryAt (store : Store σ) (index : Nat) (memory : LinearMemory) :
    store.Evolves inst issued (store.setMemoryAt index memory) := by
  unfold Store.setMemoryAt
  split
  · exact
      { heap := .refl _, memoryCount := List.length_set .., dataCount := rfl
        elementCount := rfl
        elements := fun segment member _ present => ⟨segment, member, present⟩ }
  · exact ofHeap (.setLinearMemory ..)
  · exact refl store

end Store.Evolves

/-! ## Store operations -/

variable {store : Store σ}

theorem withMemoryIndexMut_evolves {index : Nat}
    (update : LinearMemory → Run LinearMemory) :
    Ensures (store.Evolves inst issued) (store.withMemoryIndexMut index update) := by
  simp only [Store.withMemoryIndexMut, ensures_bind, ensures_pure]
  rintro memory - updated -
  exact .setMemoryAt ..

theorem memoryInit_evolves {data memory destination : Nat} {source length : BitVec 32} :
    Ensures (store.Evolves inst issued)
      (store.memoryInit data memory destination source length) := by
  unfold Store.memoryInit
  dsimp only
  split
  · exact ensures_error _
  · exact .ite (ensures_error _) (withMemoryIndexMut_evolves _)

theorem memoryCopy_evolves {destinationMemory sourceMemory destination source length : Nat} :
    Ensures (store.Evolves inst issued)
      (store.memoryCopy destinationMemory sourceMemory destination source length) := by
  simp only [Store.memoryCopy, ensures_bind]
  rintro memory - start -
  exact withMemoryIndexMut_evolves _

theorem dataDrop_evolves {data : Nat} :
    Ensures (store.Evolves inst issued) (store.dataDrop data) := by
  refine .ite ((ensures_ok _).mpr ?_) (ensures_error _)
  exact
    { heap := .refl _, memoryCount := rfl, dataCount := List.length_set ..
      elementCount := rfl
      elements := fun segment member _ present => ⟨segment, member, present⟩ }

theorem elemDrop_evolves {element : Nat} :
    Ensures (store.Evolves inst issued) (store.elemDrop element) := by
  refine .ite ((ensures_ok _).mpr ?_) (ensures_error _)
  refine
    { heap := .refl _, memoryCount := rfl, dataCount := rfl
      elementCount := List.length_set .., elements := ?_ }
  intro segment member function present
  rcases List.mem_or_eq_of_mem_set member with old | rfl
  · exact ⟨segment, old, present⟩
  · cases present

/-- Writing slots whose references were issued, or stood in a table before. -/
theorem writeSlots_evolves {handle : TableHandle} {start : Nat}
    {slots : List (Option FunctionRef)}
    (written : ∀ reference, some reference ∈ slots →
      issued reference ∨ ∃ other, some reference ∈ (store.heap.table other).slots) :
    store.Evolves inst issued
      { store with
        heap :=
          store.heap.setTable handle ((store.heap.table handle).writeSlots start slots) } := by
  refine .ofHeap (.setTable rfl fun reference present => ?_)
  rcases mem_of_mem_overwrite present with old | new
  · exact .inr ⟨handle, old⟩
  · exact written reference new

theorem tableInit_evolves {element table : Nat} {destination source length : BitVec 32}
    (admitted : store.Admitted inst issued) :
    Ensures (store.Evolves inst issued)
      (inst.tableInit store element table destination source length) := by
  unfold Instance.tableInit
  dsimp only
  split
  · exact ensures_error _
  next segment found =>
  refine .ite (ensures_error _) ?_
  rw [ensures_bind]
  rintro handle -
  refine .ite (ensures_error _) ((ensures_pure _).mpr (writeSlots_evolves ?_))
  intro reference present
  obtain ⟨function, listed, slot⟩ := List.mem_map.mp present
  split_ifs at slot with null
  cases slot
  have member := List.mem_of_mem_drop (List.mem_of_mem_take listed)
  exact .inl (admitted.elements segment (List.mem_of_getElem? found) function member null)

theorem tableCopy_evolves {destinationTable sourceTable : Nat}
    {destination source length : BitVec 32} :
    Ensures (store.Evolves inst issued)
      (inst.tableCopy store destinationTable sourceTable destination source length) := by
  simp only [Instance.tableCopy, ensures_bind]
  rintro sourceHandle - destinationHandle -
  refine .ite (ensures_error _) <| .ite (ensures_error _) <|
    (ensures_pure _).mpr (writeSlots_evolves ?_)
  intro reference present
  exact .inr ⟨sourceHandle, List.mem_of_mem_drop (List.mem_of_mem_take present)⟩

/-- A slot that an instance fills from a reference of its own. -/
theorem functionRef_issued {reference : Option Nat} {slot : FunctionRef}
    (admitted : (Value.funcRef reference).Admitted (inst.Admits issued))
    (filled : some slot = reference.map inst.functionRef) : issued slot := by
  cases reference with
  | none => cases filled
  | some index =>
      cases filled
      exact admitted

theorem tableFill_evolves {table : Nat} {destination length : BitVec 32}
    {reference : Option Nat}
    (admitted : (Value.funcRef reference).Admitted (inst.Admits issued)) :
    Ensures (store.Evolves inst issued)
      (inst.tableFill store table destination reference length) := by
  simp only [Instance.tableFill, ensures_bind]
  rintro handle -
  refine .ite (ensures_error _) ((ensures_pure _).mpr (writeSlots_evolves ?_))
  intro slot present
  exact .inl (functionRef_issued admitted (List.eq_of_mem_replicate present))

theorem TableCell.set_ok {cell after : TableCell} {index : Nat}
    {function : Option FunctionRef} (stored : cell.set index function = .ok after) :
    after.owner = cell.owner ∧ after.slots = cell.slots.set index function := by
  unfold TableCell.set at stored
  split_ifs at stored
  cases stored
  exact ⟨rfl, rfl⟩

theorem tableResult_ok {α : Type} {index : Nat} {result : Except TableHandleError α}
    {value : α} (ok : tableResult index result = .ok value) : result = .ok value := by
  cases result with
  | ok returned =>
      cases ok
      rfl
  | error err => cases ok

theorem tableSet_evolves {table element : Nat} {reference : Option Nat}
    (admitted : (Value.funcRef reference).Admitted (inst.Admits issued)) :
    Ensures (store.Evolves inst issued) (inst.tableSet store table element reference) := by
  simp only [Instance.tableSet, ensures_bind, ensures_pure]
  rintro handle - cell stored
  obtain ⟨owner, slots⟩ := TableCell.set_ok (tableResult_ok stored)
  refine .ofHeap (.setTable owner fun slot present => ?_)
  rw [slots] at present
  rcases List.mem_or_eq_of_mem_set present with old | new
  · exact .inr ⟨handle, old⟩
  · exact .inl (functionRef_issued admitted new)

theorem TableCell.grow_cases (cell : TableCell) (granted : Bool) (delta : Nat)
    (fill : Option FunctionRef) :
    (cell.grow granted delta fill).2 = cell ∨
      (cell.grow granted delta fill).2.owner = cell.owner ∧
        (cell.grow granted delta fill).2.slots = cell.slots ++ List.replicate delta fill := by
  unfold TableCell.grow
  dsimp only
  split_ifs
  · exact .inl rfl
  · exact .inl rfl
  · exact .inl rfl
  · exact .inr ⟨rfl, rfl⟩
  · exact .inl rfl

theorem tableGrow_evolves {table : Nat} {delta : BitVec 32} {reference : Option Nat}
    (admitted : (Value.funcRef reference).Admitted (inst.Admits issued)) :
    Ensures (fun grown => store.Evolves inst issued grown.2)
      (inst.tableGrow store table delta reference) := by
  simp only [Instance.tableGrow, ensures_bind, ensures_pure]
  rintro handle -
  refine .ofHeap ((Heap.Evolves.tick _).trans (.setTable ?_ ?_))
  · rcases TableCell.grow_cases (store.heap.table handle) (store.heap.granted 0) delta.toNat
      (reference.map inst.functionRef) with same | ⟨owner, -⟩
    · rw [same]
      rfl
    · exact owner
  · intro slot present
    rcases TableCell.grow_cases (store.heap.table handle) (store.heap.granted 0) delta.toNat
      (reference.map inst.functionRef) with same | ⟨-, slots⟩
    · rw [same] at present
      exact .inr ⟨handle, present⟩
    · rw [slots, List.mem_append] at present
      rcases present with old | new
      · exact .inr ⟨handle, old⟩
      · exact .inl (functionRef_issued admitted (List.eq_of_mem_replicate new))

theorem tableGet_admitted {table element : Nat} (admitted : store.Admitted inst issued) :
    Ensures (fun reference => (Value.funcRef reference).Admitted (inst.Admits issued))
      (inst.tableGet store table element) := by
  simp only [Instance.tableGet, ensures_bind]
  rintro handle - reference found
  cases reference with
  | none => trivial
  | some index =>
      obtain ⟨slot, -⟩ := TableCell.functionIndexForInstance_ok (tableResult_ok found)
      exact admitted.slots handle _ (List.mem_of_getElem? slot)

theorem globalHandle_mem {index : Nat} :
    Ensures (· ∈ inst.globals) (inst.globalHandle index) := by
  unfold Instance.globalHandle
  split
  · next handle found => exact (ensures_ok _).mpr (List.mem_of_getElem? found)
  · exact ensures_error _

theorem globalGet_admitted {index : Nat} (admitted : store.Admitted inst issued) :
    Ensures (Value.Admitted (inst.Admits issued)) (inst.globalGet store index) := by
  simp only [Instance.globalGet, ensures_bind, ensures_pure]
  exact globalHandle_mem.mono fun handle own => admitted.globals handle own

theorem globalSet_evolves {index : Nat} {value : Value}
    (admitted : value.Admitted (inst.Admits issued)) :
    Ensures (store.Evolves inst issued) (inst.globalSet store index value) := by
  simp only [Instance.globalSet, ensures_bind]
  refine globalHandle_mem.mono fun handle own => ?_
  split
  · next cell stored =>
      obtain ⟨-, written, type, mutability⟩ := GlobalCell.set_ok stored
      rw [ensures_pure]
      exact .ofHeap (.setGlobal own type mutability (written ▸ admitted))
  · exact ensures_error _

theorem growMemoryAt_evolves {memory delta : Nat} :
    Ensures (fun grown => store.Evolves inst issued grown.2)
      (growMemoryAt store memory delta) := by
  simp only [growMemoryAt, ensures_bind, ensures_pure]
  rintro linear -
  exact (Store.Evolves.ofHeap (.tick _)).trans (.setMemoryAt ..)

end Store

/-! ## Instructions -/

section Instructions

variable {inst : Instance σ} {issued : FunctionRef → Prop}

/-- Every reference that the frame or its store can hand out was issued. -/
structure PlainState.Admitted (inst : Instance σ) (issued : FunctionRef → Prop)
    (state : PlainState σ) : Prop where
  store : state.store.Admitted inst issued
  locals : AllAdmitted (inst.Admits issued) state.locals
  stack : AllAdmitted (inst.Admits issued) state.stack

/-- What an instruction can do to the state of its frame. -/
structure PlainState.Evolves (inst : Instance σ) (issued : FunctionRef → Prop)
    (before after : PlainState σ) : Prop where
  store : before.store.Evolves inst issued after.store
  locals : AllAdmitted (inst.Admits issued) after.locals
  localCount : after.locals.length = before.locals.length
  stack : AllAdmitted (inst.Admits issued) after.stack

variable {state : PlainState σ}

theorem PlainState.Admitted.pushed {stack : Stack} (admitted : state.Admitted inst issued)
    (stackAdmitted : AllAdmitted (inst.Admits issued) stack) :
    state.Evolves inst issued { state with stack } :=
  ⟨.refl _, admitted.locals, rfl, stackAdmitted⟩

theorem PlainState.Admitted.written {store : Store σ} {stack : Stack}
    (admitted : state.Admitted inst issued)
    (evolves : state.store.Evolves inst issued store)
    (stackAdmitted : AllAdmitted (inst.Admits issued) stack) :
    state.Evolves inst issued { state with store, stack } :=
  ⟨evolves, admitted.locals, rfl, stackAdmitted⟩

/-! Addresses. -/

section Addresses

variable {admitted : Nat → Prop} {stack : Stack}

theorem popWideOrNarrow_admitted {wide : Bool} (stackAdmitted : AllAdmitted admitted stack) :
    Ensures (fun popped => AllAdmitted admitted popped.2) (popWideOrNarrow stack wide) := by
  apply Ensures.ite <;>
    simp only [ensures_bind, ensures_i32FromStack, ensures_i64FromStack, ensures_pure]
  all_goals
    rintro value rest rfl
    exact stackAdmitted.tail

theorem popRuntimeBulkMemoryAddress_admitted {memory : Nat}
    (stackAdmitted : AllAdmitted admitted stack) :
    Ensures (fun popped => AllAdmitted admitted popped.2)
      (popRuntimeBulkMemoryAddress inst stack memory) := by
  rw [popRuntimeBulkMemoryAddress, ensures_bind]
  rintro wide -
  exact popWideOrNarrow_admitted stackAdmitted

theorem popRuntimeMemoryCopyLength_admitted {destination source : Nat}
    (stackAdmitted : AllAdmitted admitted stack) :
    Ensures (fun popped => AllAdmitted admitted popped.2)
      (popRuntimeMemoryCopyLength inst stack destination source) := by
  rw [popRuntimeMemoryCopyLength, ensures_bind]
  rintro wide -
  refine .ite ?_ (popWideOrNarrow_admitted stackAdmitted)
  rw [ensures_bind]
  rintro wide -
  exact popWideOrNarrow_admitted stackAdmitted

theorem popRuntimeMemoryAddress_admitted {memory : Nat}
    (stackAdmitted : AllAdmitted admitted stack) :
    Ensures (fun popped => AllAdmitted admitted popped.2)
      (popRuntimeMemoryAddress inst stack memory) := by
  rw [popRuntimeMemoryAddress, ensures_bind]
  rintro wide -
  apply Ensures.ite <;> simp only [ensures_bind, ensures_i32FromStack, ensures_i64FromStack]
  · rintro address rest rfl
    exact .ite (ensures_error _) ((ensures_pure _).mpr stackAdmitted.tail)
  · rintro address rest rfl
    exact stackAdmitted.tail

end Addresses

/-! Memory instructions. -/

/-- Loaded bytes are never taken for a reference. -/
theorem loadValue_admitted {admitted : Nat → Prop} {memory : LinearMemory} {opcode : Nat}
    {address : BitVec 32} {displacement : Nat} :
    Ensures (Value.Admitted admitted) (loadValue memory opcode address displacement) := by
  unfold loadValue
  repeat' apply Ensures.ite
  all_goals simp only [ensures_bind, ensures_pure, ensures_error]
  all_goals exact fun _ _ => trivial

/-- A load changes the stack alone. -/
theorem executeLoad_evolves {opcode : Nat} {arg : Memarg}
    (admitted : state.Admitted inst issued) :
    Ensures (state.Evolves inst issued) (executeLoad inst state opcode arg) := by
  simp only [executeLoad, ensures_bind, ensures_pure]
  refine (popRuntimeMemoryAddress_admitted admitted.stack).mono ?_
  rintro ⟨address, rest⟩ restAdmitted memory -
  exact loadValue_admitted.mono fun value loaded => admitted.pushed (restAdmitted.push loaded)

/-- A store writes into the memory of the instance that runs it. -/
theorem executeStoreAs_evolves {width : Nat} {arg : Memarg} {value : BitVec width}
    {stack : Stack} (store : LinearMemory → BitVec 32 → Nat → BitVec width → Run LinearMemory)
    (admitted : state.Admitted inst issued)
    (stackAdmitted : AllAdmitted (inst.Admits issued) stack) :
    Ensures (state.Evolves inst issued) (executeStoreAs inst state arg value stack store) := by
  simp only [executeStoreAs, ensures_bind, ensures_pure]
  refine (popRuntimeMemoryAddress_admitted stackAdmitted).mono ?_
  rintro ⟨address, rest⟩ restAdmitted
  exact (withMemoryIndexMut_evolves _).mono fun _ evolves =>
    admitted.written evolves restAdmitted

/-- All stores, by the type of their operand. -/
theorem executeStore_evolves {opcode : Nat} {arg : Memarg}
    (admitted : state.Admitted inst issued) :
    Ensures (state.Evolves inst issued) (executeStore inst state opcode arg) := by
  unfold executeStore
  repeat' apply Ensures.ite
  all_goals simp only [ensures_bind, ensures_i32FromStack, ensures_i64FromStack,
    ensures_f32FromStack, ensures_f64FromStack, ensures_error]
  all_goals
    intro value rest stackEq
    have restAdmitted := (stackEq ▸ admitted.stack).tail
    exact executeStoreAs_evolves _ admitted restAdmitted

theorem executeMemorySize_evolves {memory : Nat} (admitted : state.Admitted inst issued) :
    Ensures (state.Evolves inst issued) (executeMemorySize inst state memory) := by
  simp only [executeMemorySize, ensures_bind, ensures_pure]
  rintro linear - wide -
  refine admitted.pushed (admitted.stack.push ?_)
  split <;> trivial

/-- Growth that is refused leaves the memory as it was. -/
theorem executeMemoryGrow_evolves {memory : Nat} (admitted : state.Admitted inst issued) :
    Ensures (state.Evolves inst issued) (executeMemoryGrow inst state memory) := by
  have grows (delta : Nat) : Ensures (fun grown => state.store.Evolves inst issued grown.2)
      (growMemoryAt state.store memory delta) := growMemoryAt_evolves
  simp only [executeMemoryGrow, ensures_bind]
  rintro wide -
  apply Ensures.ite <;>
    simp only [ensures_bind, ensures_i32FromStack, ensures_i64FromStack, ensures_pure]
  all_goals
    intro delta rest stackEq
    have restAdmitted := (stackEq ▸ admitted.stack).tail
  · refine .ite ((ensures_pure _).mpr (admitted.pushed (restAdmitted.push trivial))) ?_
    simp only [ensures_bind, ensures_pure]
    refine (grows _).mono fun grown evolves => ?_
    exact admitted.written evolves (restAdmitted.push trivial)
  · refine (grows _).mono fun grown evolves => ?_
    exact admitted.written evolves (restAdmitted.push trivial)

theorem executeSimdMemory_evolves {subopcode : Nat} {arg : Memarg}
    (admitted : state.Admitted inst issued) :
    Ensures (state.Evolves inst issued) (executeSimdMemory inst state subopcode arg) := by
  unfold executeSimdMemory
  repeat' apply Ensures.ite
  all_goals simp only [ensures_bind, ensures_v128FromStack, ensures_pure]
  · refine (popRuntimeBulkMemoryAddress_admitted admitted.stack).mono ?_
    rintro ⟨address, rest⟩ restAdmitted memory - value -
    exact admitted.pushed (restAdmitted.push trivial)
  · intro value rest stackEq
    refine (popRuntimeBulkMemoryAddress_admitted (stackEq ▸ admitted.stack).tail).mono ?_
    rintro ⟨address, rest⟩ restAdmitted
    exact (withMemoryIndexMut_evolves _).mono fun _ evolves =>
      admitted.written evolves restAdmitted
  · refine (popRuntimeMemoryAddress_admitted admitted.stack).mono ?_
    rintro ⟨address, rest⟩ restAdmitted memory -
    apply Ensures.ite <;> simp only [ensures_bind, ensures_pure]
    all_goals
      rintro value -
      exact admitted.pushed (restAdmitted.push trivial)

theorem executeSimdMemoryLane_evolves {subopcode index : Nat} {arg : Memarg}
    (admitted : state.Admitted inst issued) :
    Ensures (state.Evolves inst issued)
      (executeSimdMemoryLane inst state subopcode arg index) := by
  simp only [executeSimdMemoryLane, ensures_bind, ensures_v128FromStack]
  intro vector rest stackEq
  refine (popRuntimeMemoryAddress_admitted (stackEq ▸ admitted.stack).tail).mono ?_
  rintro ⟨address, rest⟩ restAdmitted
  apply Ensures.ite <;> simp only [ensures_bind, ensures_pure]
  · rintro memory - value -
    exact admitted.pushed (restAdmitted.push trivial)
  · exact (withMemoryIndexMut_evolves _).mono fun _ evolves =>
      admitted.written evolves restAdmitted

theorem executeSimd_evolves {subopcode : Nat} {immediate : SimdImmediate}
    (admitted : state.Admitted inst issued) :
    Ensures (state.Evolves inst issued) (executeSimd inst state subopcode immediate) := by
  cases immediate with
  | memarg arg => exact executeSimdMemory_evolves admitted
  | memargLane arg index => exact executeSimdMemoryLane_evolves admitted
  | bytes value => exact (ensures_pure _).mpr (admitted.pushed (admitted.stack.push trivial))
  | shuffle lanes =>
      simp only [executeSimd, ensures_bind, ensures_v128FromStack, ensures_pure]
      rintro rhs middle stackEq lhs rest rfl
      intro shuffled _
      exact admitted.pushed ((stackEq ▸ admitted.stack).tail.tail.push trivial)
  | lane index =>
      simp only [executeSimd, ensures_bind, ensures_pure]
      exact (executeSimdLane_admitted admitted.stack).mono fun _ => admitted.pushed
  | none =>
      simp only [executeSimd, ensures_bind, ensures_pure]
      exact (executeSimdBare_admitted admitted.stack).mono fun _ => admitted.pushed

/-- Dropping a segment changes the store, but neither handles nor references. -/
theorem executeBulkMemory_evolves (instr : Plain) (admitted : state.Admitted inst issued) :
    Ensures (state.Evolves inst issued) (executeBulkMemory inst state instr) := by
  cases instr <;> try exact ensures_error _
  case memoryInit data memory =>
    simp only [executeBulkMemory, ensures_bind, ensures_i32FromStack, ensures_pure]
    rintro length first stackEq source second rfl
    refine (popRuntimeBulkMemoryAddress_admitted (stackEq ▸ admitted.stack).tail.tail).mono ?_
    rintro ⟨destination, rest⟩ restAdmitted
    exact memoryInit_evolves.mono fun _ evolves => admitted.written evolves restAdmitted
  case memoryCopy destinationMemory sourceMemory =>
    simp only [executeBulkMemory, ensures_bind, ensures_pure]
    refine (popRuntimeMemoryCopyLength_admitted admitted.stack).mono ?_
    rintro ⟨length, first⟩ firstAdmitted
    refine (popRuntimeBulkMemoryAddress_admitted firstAdmitted).mono ?_
    rintro ⟨source, second⟩ secondAdmitted
    refine (popRuntimeBulkMemoryAddress_admitted secondAdmitted).mono ?_
    rintro ⟨destination, rest⟩ restAdmitted
    exact memoryCopy_evolves.mono fun _ evolves => admitted.written evolves restAdmitted
  case memoryFill memory =>
    simp only [executeBulkMemory, ensures_bind, ensures_i32FromStack, ensures_pure]
    refine (popRuntimeBulkMemoryAddress_admitted admitted.stack).mono ?_
    rintro ⟨length, first⟩ firstAdmitted value second rfl
    refine (popRuntimeBulkMemoryAddress_admitted firstAdmitted.tail).mono ?_
    rintro ⟨destination, rest⟩ restAdmitted
    exact (withMemoryIndexMut_evolves _).mono fun _ evolves =>
      admitted.written evolves restAdmitted

/-! Table instructions. -/

/-- References move between tables, segments and the stack; none is made up. -/
theorem executeTable_evolves (instr : Plain) (admitted : state.Admitted inst issued) :
    Ensures (state.Evolves inst issued) (executeTable inst state instr) := by
  cases instr <;> try exact ensures_error _
  all_goals simp only [executeTable, ensures_bind, ensures_i32FromStack,
    ensures_funcRefFromStack, ensures_pure]
  case tableGet table =>
    intro element rest stackEq
    have restAdmitted := (stackEq ▸ admitted.stack).tail
    exact (tableGet_admitted admitted.store).mono fun _ found =>
      admitted.pushed (restAdmitted.push found)
  case tableSet table =>
    rintro reference middle stackEq element rest rfl
    have stackAdmitted := (allAdmitted_cons ..).mp (stackEq ▸ admitted.stack)
    exact (tableSet_evolves stackAdmitted.1).mono fun _ evolves =>
      admitted.written evolves stackAdmitted.2.tail
  case tableInit element table =>
    rintro length first stackEq source second rfl destination rest rfl
    have restAdmitted := (stackEq ▸ admitted.stack).tail.tail.tail
    exact (tableInit_evolves admitted.store).mono fun _ evolves =>
      admitted.written evolves restAdmitted
  case tableCopy destinationTable sourceTable =>
    rintro length first stackEq source second rfl destination rest rfl
    have restAdmitted := (stackEq ▸ admitted.stack).tail.tail.tail
    exact tableCopy_evolves.mono fun _ evolves => admitted.written evolves restAdmitted
  case tableGrow table =>
    rintro delta middle stackEq reference rest rfl
    have stackAdmitted := (allAdmitted_cons ..).mp (stackEq ▸ admitted.stack).tail
    exact (tableGrow_evolves stackAdmitted.1).mono fun _ evolves =>
      admitted.written evolves (stackAdmitted.2.push trivial)
  case tableSize table =>
    rintro size -
    exact admitted.pushed (admitted.stack.push trivial)
  case tableFill table =>
    rintro length first stackEq reference second rfl destination rest rfl
    have stackAdmitted := (allAdmitted_cons ..).mp (stackEq ▸ admitted.stack).tail
    exact (tableFill_evolves stackAdmitted.1).mono fun _ evolves =>
      admitted.written evolves stackAdmitted.2.tail

/-! Parametric instructions, locals and globals. -/

/-- Either operand was on the stack before. -/
theorem executeSelect_admitted {admitted : Nat → Prop} {stack : Stack}
    (stackAdmitted : AllAdmitted admitted stack) :
    Ensures (AllAdmitted admitted) (executeSelect stack) := by
  simp only [executeSelect, ensures_bind, ensures_i32FromStack, ensures_pop]
  rintro condition _ rfl second _ rfl first rest rfl
  refine .ite (ensures_error _) ((ensures_pure _).mpr ?_)
  simp only [allAdmitted_cons] at stackAdmitted ⊢
  obtain ⟨-, secondAdmitted, firstAdmitted, restAdmitted⟩ := stackAdmitted
  refine ⟨?_, restAdmitted⟩
  split
  · exact firstAdmitted
  · exact secondAdmitted

theorem executeSelectTyped_admitted {admitted : Nat → Prop} {stack : Stack}
    {type : ValueType} (stackAdmitted : AllAdmitted admitted stack) :
    Ensures (AllAdmitted admitted) (executeSelectTyped stack type) := by
  simp only [executeSelectTyped, ensures_bind, ensures_i32FromStack, ensures_popTyped,
    ensures_pure]
  rintro condition _ rfl second _ rfl - first rest rfl -
  simp only [allAdmitted_cons] at stackAdmitted ⊢
  obtain ⟨-, secondAdmitted, firstAdmitted, restAdmitted⟩ := stackAdmitted
  refine ⟨?_, restAdmitted⟩
  split
  · exact firstAdmitted
  · exact secondAdmitted

/-- A local that is read stands in the list. -/
theorem localAt_mem {α : Type} {entries : List α} {index : Nat} :
    Ensures (· ∈ entries) (localAt entries index) := by
  unfold localAt
  split
  · next entry found => exact (ensures_ok _).mpr (List.mem_of_getElem? found)
  · exact ensures_error _

theorem setLocal_evolves {start : PlainState σ} {index : Nat} {value : Value}
    (admitted : start.Admitted inst issued) (evolves : start.Evolves inst issued state)
    (localsEq : state.locals = start.locals)
    (valueAdmitted : value.Admitted (inst.Admits issued)) :
    Ensures (start.Evolves inst issued) (setLocal state index value) := by
  simp only [setLocal, ensures_bind, ensures_pure]
  rintro old -
  refine ⟨evolves.store, ?_, ?_, evolves.stack⟩
  · rw [localsEq]
    exact admitted.locals.set valueAdmitted
  · rw [List.length_set, localsEq]

theorem executeLocalSet_evolves {localTypes : List ValueType} {index : Nat}
    (admitted : state.Admitted inst issued) :
    Ensures (state.Evolves inst issued) (executeLocalSet localTypes state index) := by
  simp only [executeLocalSet, ensures_bind, ensures_popTyped]
  rintro type - value rest stackEq -
  have stackAdmitted := (allAdmitted_cons ..).mp (stackEq ▸ admitted.stack)
  exact setLocal_evolves admitted (admitted.pushed stackAdmitted.2) rfl stackAdmitted.1

theorem executeLocalTee_evolves {localTypes : List ValueType} {index : Nat}
    (admitted : state.Admitted inst issued) :
    Ensures (state.Evolves inst issued) (executeLocalTee localTypes state index) := by
  simp only [executeLocalTee, ensures_bind, ensures_pop]
  rintro type - value rest stackEq checked -
  have stackAdmitted := (allAdmitted_cons ..).mp (stackEq ▸ admitted.stack)
  exact setLocal_evolves admitted (admitted.pushed admitted.stack) rfl stackAdmitted.1

/-- The value that reaches the global was on the stack before. -/
theorem executeGlobalSet_evolves {index : Nat} (admitted : state.Admitted inst issued) :
    Ensures (state.Evolves inst issued) (executeGlobalSet inst state index) := by
  unfold executeGlobalSet
  split
  · exact ensures_error _
  · refine .ite (ensures_error _) ?_
    simp only [ensures_bind, ensures_popTyped, ensures_pure]
    rintro value rest stackEq -
    have stackAdmitted := (allAdmitted_cons ..).mp (stackEq ▸ admitted.stack)
    exact (globalSet_evolves stackAdmitted.1).mono fun _ evolves =>
      admitted.written evolves stackAdmitted.2

/-- A plain instruction changes the store as a guest step can, and every
reference that it leaves on the stack or in a local was issued. -/
theorem executePlain_evolves {localTypes : List ValueType} {instr : Plain}
    (admitted : state.Admitted inst issued)
    (created : ∀ function, instr = .refFunc function → inst.Admits issued function) :
    Ensures (state.Evolves inst issued) (executePlain inst localTypes state instr) := by
  have unchanged : state.Evolves inst issued state := admitted.pushed admitted.stack
  cases instr with
  | nop => exact (ensures_pure _).mpr unchanged
  | drop =>
      simp only [executePlain, ensures_bind, ensures_pop, ensures_pure]
      intro value rest stackEq
      exact admitted.pushed (stackEq ▸ admitted.stack).tail
  | select =>
      simp only [executePlain, ensures_bind, ensures_pure]
      exact (executeSelect_admitted admitted.stack).mono fun _ => admitted.pushed
  | selectTyped type =>
      simp only [executePlain, ensures_bind, ensures_pure]
      exact (executeSelectTyped_admitted admitted.stack).mono fun _ => admitted.pushed
  | localGet index =>
      simp only [executePlain, ensures_bind, ensures_pure]
      exact localAt_mem.mono fun value member =>
        admitted.pushed (admitted.stack.push (admitted.locals value member))
  | localSet index => exact executeLocalSet_evolves admitted
  | localTee index => exact executeLocalTee_evolves admitted
  | globalGet index =>
      simp only [executePlain, ensures_bind, ensures_pure]
      exact (globalGet_admitted admitted.store).mono fun _ found =>
        admitted.pushed (admitted.stack.push found)
  | globalSet index => exact executeGlobalSet_evolves admitted
  | load opcode arg => exact executeLoad_evolves admitted
  | store opcode arg => exact executeStore_evolves admitted
  | memorySize memory => exact executeMemorySize_evolves admitted
  | memoryGrow memory => exact executeMemoryGrow_evolves admitted
  | i32Const value => exact (ensures_pure _).mpr (admitted.pushed (admitted.stack.push trivial))
  | i64Const value => exact (ensures_pure _).mpr (admitted.pushed (admitted.stack.push trivial))
  | f32Const bits => exact (ensures_pure _).mpr (admitted.pushed (admitted.stack.push trivial))
  | f64Const bits => exact (ensures_pure _).mpr (admitted.pushed (admitted.stack.push trivial))
  | numeric opcode =>
      simp only [executePlain, ensures_bind, ensures_pure]
      exact (executeNumeric_admitted admitted.stack).mono fun _ => admitted.pushed
  | refNull => exact (ensures_pure _).mpr (admitted.pushed (admitted.stack.push trivial))
  | refIsNull =>
      simp only [executePlain, ensures_bind, ensures_funcRefFromStack, ensures_pure]
      intro reference rest stackEq
      exact admitted.pushed ((stackEq ▸ admitted.stack).tail.push trivial)
  | refFunc function =>
      exact (ensures_pure _).mpr (admitted.pushed (admitted.stack.push (created function rfl)))
  | truncSat subopcode =>
      simp only [executePlain, ensures_bind, ensures_pure]
      exact (truncSat_admitted admitted.stack).mono fun _ => admitted.pushed
  | dataDrop data =>
      simp only [executePlain, ensures_bind, ensures_pure]
      exact dataDrop_evolves.mono fun _ evolves => admitted.written evolves admitted.stack
  | elemDrop element =>
      simp only [executePlain, ensures_bind, ensures_pure]
      exact elemDrop_evolves.mono fun _ evolves => admitted.written evolves admitted.stack
  | simd subopcode immediate => exact executeSimd_evolves admitted
  | memoryInit data memory => exact executeBulkMemory_evolves (.memoryInit data memory) admitted
  | memoryCopy destination source =>
      exact executeBulkMemory_evolves (.memoryCopy destination source) admitted
  | memoryFill memory => exact executeBulkMemory_evolves (.memoryFill memory) admitted
  | tableGet table => exact executeTable_evolves (.tableGet table) admitted
  | tableSet table => exact executeTable_evolves (.tableSet table) admitted
  | tableInit element table => exact executeTable_evolves (.tableInit element table) admitted
  | tableCopy destination source =>
      exact executeTable_evolves (.tableCopy destination source) admitted
  | tableGrow table => exact executeTable_evolves (.tableGrow table) admitted
  | tableSize table => exact executeTable_evolves (.tableSize table) admitted
  | tableFill table => exact executeTable_evolves (.tableFill table) admitted

end Instructions

end MiniWasm.Runtime
