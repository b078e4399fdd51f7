import MiniWasm.Runtime.Accesses

/-!
# Bulk operations

The bulk operations on memories and tables are one operation: a range of a
source, read before anything is written, replaces a range of a target.  A fill
has a constant source, an initialization a segment.
-/

namespace MiniWasm.Runtime

open Library

variable {σ : Type}

/-- A range of a source that is written over a range of a memory or a table. -/
structure Bulk (α : Type) where
  target : Nat
  source : List α
  start : Nat
  destination : Nat
  length : Nat

namespace Bulk

variable {α : Type} (bulk : Bulk α)

/-- The range lies in the source. -/
def InSource : Prop :=
  bulk.start + bulk.length ≤ bulk.source.length

/-- The range lies in the target. -/
def InTarget (entries : List α) : Prop :=
  bulk.destination + bulk.length ≤ entries.length

def payload : List α :=
  (bulk.source.drop bulk.start).take bulk.length

/-- The target as the operation leaves it. -/
def Applied (before after : List α) : Prop :=
  Transferred bulk.source before after bulk.start bulk.destination bulk.length

end Bulk

/-- The errors that a range outside its segment, memory or table raises. -/
inductive BoundsTrap : RuntimeError → Prop where
  | memory (address width : Nat) : BoundsTrap (.memoryOutOfBounds address width)
  | dataSegment (segment offset length : Nat) :
      BoundsTrap (.dataSegmentSourceOutOfBounds segment offset length)
  | elementSegment (segment offset length : Nat) :
      BoundsTrap (.elementSegmentSourceOutOfBounds segment offset length)
  | table (element : Nat) : BoundsTrap (.tableElementOutOfBounds element)

theorem MemoryTrap.bounds (err : RuntimeError) (trap : MemoryTrap err) : BoundsTrap err := by
  obtain ⟨address, width, rfl⟩ := trap
  exact .memory address width

/-- The bulk operations on memories with their operands, the top of the stack
first.  The length of a copy has the narrower of the two address widths. -/
inductive MemoryBulk (inst : Instance σ) (store : Store σ) :
    Plain → List Value → Bulk UInt8 → Prop where
  | init {data memory destination : Nat} {segment : List UInt8} {type : MemoryType}
      {destinationOperand : Value} (source length : BitVec 32) :
      store.dataSegments[data]? = some segment →
      inst.module.memoryType memory = some type →
      AddressOperand type.limits.memory64 destination destinationOperand →
      MemoryBulk inst store (.memoryInit data memory)
        [.i32 length, .i32 source, destinationOperand]
        ⟨memory, segment, source.toNat, destination, length.toNat⟩
  | copy {destinationMemory sourceMemory start destination length : Nat}
      {memory : LinearMemory} {destinationType sourceType : MemoryType}
      {lengthOperand sourceOperand destinationOperand : Value} :
      store.memoryAt sourceMemory = .ok memory →
      inst.module.memoryType destinationMemory = some destinationType →
      inst.module.memoryType sourceMemory = some sourceType →
      AddressOperand (destinationType.limits.memory64 && sourceType.limits.memory64) length
        lengthOperand →
      AddressOperand sourceType.limits.memory64 start sourceOperand →
      AddressOperand destinationType.limits.memory64 destination destinationOperand →
      MemoryBulk inst store (.memoryCopy destinationMemory sourceMemory)
        [lengthOperand, sourceOperand, destinationOperand]
        ⟨destinationMemory, memory.bytes, start, destination, length⟩
  | fill {memory destination length : Nat} {type : MemoryType}
      {lengthOperand destinationOperand : Value} (value : BitVec 32) :
      inst.module.memoryType memory = some type →
      AddressOperand type.limits.memory64 length lengthOperand →
      AddressOperand type.limits.memory64 destination destinationOperand →
      MemoryBulk inst store (.memoryFill memory)
        [lengthOperand, .i32 value, destinationOperand]
        ⟨memory, List.replicate length (.ofNat value.toNat), 0, destination, length⟩

/-- The bulk operations on tables. -/
inductive TableBulk (inst : Instance σ) (store : Store σ) :
    Plain → List Value → Bulk (Option FunctionRef) → Prop where
  | init {element table : Nat} {segment : List Nat} (destination source length : BitVec 32) :
      store.elementSegments[element]? = some segment →
      TableBulk inst store (.tableInit element table)
        [.i32 length, .i32 source, .i32 destination]
        ⟨table, inst.elementSlots segment, source.toNat, destination.toNat, length.toNat⟩
  | copy {destinationTable sourceTable : Nat} {handle : TableHandle}
      (destination source length : BitVec 32) :
      inst.tables[sourceTable]? = some handle →
      TableBulk inst store (.tableCopy destinationTable sourceTable)
        [.i32 length, .i32 source, .i32 destination]
        ⟨destinationTable, (store.heap.table handle).slots, source.toNat, destination.toNat,
          length.toNat⟩
  | fill {table : Nat} (destination length : BitVec 32) (value : Option Nat) :
      TableBulk inst store (.tableFill table)
        [.i32 length, .funcRef value, .i32 destination]
        ⟨table, List.replicate length.toNat (value.map inst.functionRef), 0, destination.toNat,
          length.toNat⟩

/-! ## Memories -/

section Memories

variable {inst : Instance σ} {state : PlainState σ} {localTypes : List ValueType}
variable {memory : LinearMemory} {rest : Stack}

theorem popWideOrNarrow_operand {wide : Bool} {address : Nat} {operand : Value}
    (holds : AddressOperand wide address operand) :
    popWideOrNarrow (operand :: rest) wide = .ok (address, rest) := by
  cases holds <;> rfl

theorem runtimeMemoryIs64_typed {index : Nat} {type : MemoryType}
    (typed : inst.module.memoryType index = some type) :
    runtimeMemoryIs64 inst index = .ok type.limits.memory64 := by
  rw [runtimeMemoryIs64, typed]

theorem popRuntimeMemoryCopyLength_operand {destination source length : Nat}
    {destinationType sourceType : MemoryType} {operand : Value}
    (destinationTyped : inst.module.memoryType destination = some destinationType)
    (sourceTyped : inst.module.memoryType source = some sourceType)
    (holds : AddressOperand
      (destinationType.limits.memory64 && sourceType.limits.memory64) length operand) :
    popRuntimeMemoryCopyLength inst (operand :: rest) destination source = .ok (length, rest) := by
  rw [popRuntimeMemoryCopyLength, runtimeMemoryIs64_typed destinationTyped, ok_bind,
    runtimeMemoryIs64_typed sourceTyped]
  cases wide : destinationType.limits.memory64 with
  | true =>
      rw [wide, Bool.true_and] at holds
      rw [if_pos rfl, ok_bind]
      exact popWideOrNarrow_operand holds
  | false =>
      rw [wide, Bool.false_and] at holds
      rw [if_neg Bool.false_ne_true]
      exact popWideOrNarrow_operand holds

/-- The memory behind a bulk operation. -/
def Bulk.writtenMemory (bulk : Bulk UInt8) (memory : LinearMemory) : LinearMemory :=
  memory.writeBytes bulk.destination bulk.payload

/-- The state behind a bulk operation on a memory. -/
def Bulk.afterMemory (bulk : Bulk UInt8) (memory : LinearMemory) (rest : Stack)
    (before : PlainState σ) : PlainState σ :=
  { before with
    store := before.store.setMemoryAt bulk.target (bulk.writtenMemory memory), stack := rest }

variable {store : Store σ}

/-- The write of a payload into a memory, which all three operations end with. -/
theorem writePayload_guarded (bulk : Bulk UInt8)
    (found : store.memoryAt bulk.target = .ok memory) (small : memory.bytes.length ≤ 2 ^ 32) :
    Guarded BoundsTrap (bulk.InTarget memory.bytes)
      (· = store.setMemoryAt bulk.target (bulk.writtenMemory memory))
      (store.withMemoryIndexMut bulk.target fun memory => do
        let start ← memory.checkedBulkRange bulk.destination bulk.length
        return memory.writeBytes start bulk.payload) := by
  rw [Store.withMemoryIndexMut_found found, bind_assoc]
  refine Guarded.bind ((checkedBulkRange_obeys small _ _).refusing MemoryTrap.bounds) ?_
  rintro _ start rfl
  exact ⟨_, rfl, rfl⟩

theorem memoryInit_guarded {data target destination : Nat} {segment : List UInt8}
    {source length : BitVec 32} (segmentAt : store.dataSegments[data]? = some segment)
    (found : store.memoryAt target = .ok memory) (small : memory.bytes.length ≤ 2 ^ 32) :
    let bulk : Bulk UInt8 := ⟨target, segment, source.toNat, destination, length.toNat⟩
    Guarded BoundsTrap (bulk.InSource ∧ bulk.InTarget memory.bytes)
      (· = store.setMemoryAt target (bulk.writtenMemory memory))
      (store.memoryInit data target destination source length) := by
  intro bulk
  have written := writePayload_guarded bulk found small
  unfold Store.memoryInit
  rw [segmentAt]
  exact Guarded.congr (Guarded.check (.dataSegment ..) fun _ => written)
    (and_congr_left fun _ => Nat.not_lt)

theorem memoryCopy_guarded {destinationMemory sourceMemory destination start length : Nat}
    {from_ : LinearMemory} (foundSource : store.memoryAt sourceMemory = .ok from_)
    (smallSource : from_.bytes.length ≤ 2 ^ 32)
    (found : store.memoryAt destinationMemory = .ok memory)
    (small : memory.bytes.length ≤ 2 ^ 32) :
    let bulk : Bulk UInt8 := ⟨destinationMemory, from_.bytes, start, destination, length⟩
    Guarded BoundsTrap (bulk.InSource ∧ bulk.InTarget memory.bytes)
      (· = store.setMemoryAt destinationMemory (bulk.writtenMemory memory))
      (store.memoryCopy destinationMemory sourceMemory destination start length) := by
  intro bulk
  rw [Store.memoryCopy, foundSource, ok_bind]
  refine Guarded.andThen
    ((checkedBulkRange_obeys smallSource start length).refusing MemoryTrap.bounds) ?_
  rintro _ _ rfl
  exact writePayload_guarded bulk found small

theorem memoryFill_guarded {target destination length : Nat} {value : BitVec 32}
    (found : store.memoryAt target = .ok memory) (small : memory.bytes.length ≤ 2 ^ 32) :
    let bulk : Bulk UInt8 :=
      ⟨target, List.replicate length (.ofNat value.toNat), 0, destination, length⟩
    Guarded BoundsTrap (bulk.InSource ∧ bulk.InTarget memory.bytes)
      (· = store.setMemoryAt target (bulk.writtenMemory memory))
      (store.withMemoryIndexMut target fun linear => linear.fillBulk destination value length) := by
  intro bulk
  have payload : bulk.payload = List.replicate length (.ofNat value.toNat) := by
    simp only [Bulk.payload, bulk, List.drop_zero, List.take_replicate, Nat.min_self]
  have written := writePayload_guarded bulk found small
  rw [payload] at written
  refine written.congr ⟨fun inside => ⟨?_, inside⟩, And.right⟩
  simp only [Bulk.InSource, bulk, List.length_replicate, Nat.zero_add, Nat.le_refl]

/-- The bulk operations on memories. -/
theorem memoryBulk_guarded {instr : Plain} {operands : List Value} {bulk : Bulk UInt8}
    (bulks : MemoryBulk inst state.store instr operands bulk)
    (found : state.store.memoryAt bulk.target = .ok memory)
    (small : ∀ index memory, state.store.memoryAt index = .ok memory →
      memory.bytes.length ≤ 2 ^ 32)
    (stackEq : state.stack = operands ++ rest) :
    Guarded BoundsTrap (bulk.InSource ∧ bulk.InTarget memory.bytes)
      (· = bulk.afterMemory memory rest state) (executePlain inst localTypes state instr) := by
  have finish {run : Run (Store σ)}
      (guarded : Guarded BoundsTrap (bulk.InSource ∧ bulk.InTarget memory.bytes)
        (· = state.store.setMemoryAt bulk.target (bulk.writtenMemory memory)) run) :
      Guarded BoundsTrap (bulk.InSource ∧ bulk.InTarget memory.bytes)
        (· = bulk.afterMemory memory rest state)
        (do return { state with store := ← run, stack := rest }) :=
    guarded.bind fun _ store same => ⟨_, rfl, by rw [same]; rfl⟩
  have smallHere := small _ _ found
  have narrow (value : BitVec 32) (rest : Stack) :
      i32FromStack (.i32 value :: rest) = .ok (value, rest) := rfl
  cases bulks with
  | @init data target destination segment type operand source length segmentAt typed holds =>
      have run : executePlain inst localTypes state (.memoryInit data target) = (do
          return { state with
            store := ← state.store.memoryInit data target destination source length
            stack := rest }) := by
        change executeBulkMemory inst state (.memoryInit data target) = _
        simp only [executeBulkMemory, stackEq, List.cons_append, List.nil_append, narrow, ok_bind,
          popRuntimeBulkMemoryAddress_operand typed holds]
      rw [run]
      exact finish (memoryInit_guarded segmentAt found smallHere)
  | @copy destinationMemory sourceMemory start destination length from_ destinationType sourceType
      lengthOperand sourceOperand destinationOperand foundSource destinationTyped sourceTyped
      lengthHolds sourceHolds destinationHolds =>
      have run : executePlain inst localTypes state
          (.memoryCopy destinationMemory sourceMemory) = (do
          return { state with
            store := ← state.store.memoryCopy destinationMemory sourceMemory destination start
              length
            stack := rest }) := by
        change executeBulkMemory inst state (.memoryCopy destinationMemory sourceMemory) = _
        simp only [executeBulkMemory, stackEq, List.cons_append, List.nil_append, ok_bind,
          popRuntimeMemoryCopyLength_operand destinationTyped sourceTyped lengthHolds,
          popRuntimeBulkMemoryAddress_operand sourceTyped sourceHolds,
          popRuntimeBulkMemoryAddress_operand destinationTyped destinationHolds]
      rw [run]
      exact finish (memoryCopy_guarded foundSource (small _ _ foundSource) found smallHere)
  | @fill target destination length type lengthOperand destinationOperand value typed lengthHolds
      destinationHolds =>
      have run : executePlain inst localTypes state (.memoryFill target) = (do
          return { state with
            store := ← state.store.withMemoryIndexMut target fun linear =>
              linear.fillBulk destination value length
            stack := rest }) := by
        change executeBulkMemory inst state (.memoryFill target) = _
        simp only [executeBulkMemory, stackEq, List.cons_append, List.nil_append, narrow, ok_bind,
          popRuntimeBulkMemoryAddress_operand typed lengthHolds,
          popRuntimeBulkMemoryAddress_operand typed destinationHolds]
      rw [run]
      exact finish (memoryFill_guarded found smallHere)

end Memories

/-! ## Tables -/

section Tables

variable {inst : Instance σ} {state : PlainState σ} {localTypes : List ValueType}
variable {store : Store σ} {handle : TableHandle} {rest : Stack}

/-- The store behind a bulk operation on a table. -/
def Bulk.writtenTable (bulk : Bulk (Option FunctionRef)) (handle : TableHandle)
    (before : Store σ) : Store σ :=
  { before with
    heap := before.heap.setTable handle
      ((before.heap.table handle).writeSlots bulk.destination bulk.payload) }

/-- The state behind a bulk operation on a table. -/
def Bulk.afterTable (bulk : Bulk (Option FunctionRef)) (handle : TableHandle) (rest : Stack)
    (before : PlainState σ) : PlainState σ :=
  { before with store := bulk.writtenTable handle before.store, stack := rest }

theorem tableHandle_found {table : Nat} (found : inst.tables[table]? = some handle) :
    inst.tableHandle table = .ok handle := by
  rw [Instance.tableHandle, found]

theorem tableInit_guarded {element table : Nat} {segment : List Nat}
    {destination source length : BitVec 32}
    (segmentAt : store.elementSegments[element]? = some segment)
    (found : inst.tables[table]? = some handle) :
    let bulk : Bulk (Option FunctionRef) :=
      ⟨table, inst.elementSlots segment, source.toNat, destination.toNat, length.toNat⟩
    Guarded BoundsTrap (bulk.InSource ∧ bulk.InTarget (store.heap.table handle).slots)
      (· = bulk.writtenTable handle store)
      (inst.tableInit store element table destination source length) := by
  intro bulk
  have payload : inst.elementSlots ((segment.drop source.toNat).take length.toNat) =
      bulk.payload := by
    simp only [Instance.elementSlots, Bulk.payload, bulk, List.map_take, List.map_drop]
  unfold Instance.tableInit
  dsimp only
  rw [segmentAt, tableHandle_found found]
  dsimp only
  rw [ok_bind, payload]
  refine Guarded.congr (Guarded.check (.elementSegment ..) fun _ =>
    Guarded.check (.table _) fun _ => Guarded.pure rfl) ?_
  simp only [Nat.not_lt, and_true, Bulk.InSource, Bulk.InTarget, bulk, Instance.elementSlots,
    List.length_map]

theorem tableCopy_guarded {destinationTable sourceTable : Nat} {from_ : TableHandle}
    {destination source length : BitVec 32}
    (foundSource : inst.tables[sourceTable]? = some from_)
    (found : inst.tables[destinationTable]? = some handle) :
    let bulk : Bulk (Option FunctionRef) :=
      ⟨destinationTable, (store.heap.table from_).slots, source.toNat, destination.toNat,
        length.toNat⟩
    Guarded BoundsTrap (bulk.InSource ∧ bulk.InTarget (store.heap.table handle).slots)
      (· = bulk.writtenTable handle store)
      (inst.tableCopy store destinationTable sourceTable destination source length) := by
  intro bulk
  unfold Instance.tableCopy
  dsimp only
  rw [tableHandle_found foundSource, ok_bind, tableHandle_found found, ok_bind]
  refine Guarded.congr (Guarded.check (.table _) fun _ =>
    Guarded.check (.table _) fun _ => Guarded.pure rfl) ?_
  simp only [Nat.not_lt, and_true, Bulk.InSource, Bulk.InTarget, bulk, TableCell.len]

theorem tableFill_guarded {table : Nat} {destination length : BitVec 32} {value : Option Nat}
    (found : inst.tables[table]? = some handle) :
    let bulk : Bulk (Option FunctionRef) :=
      ⟨table, List.replicate length.toNat (value.map inst.functionRef), 0, destination.toNat,
        length.toNat⟩
    Guarded BoundsTrap (bulk.InSource ∧ bulk.InTarget (store.heap.table handle).slots)
      (· = bulk.writtenTable handle store)
      (inst.tableFill store table destination value length) := by
  intro bulk
  have payload : List.replicate length.toNat (value.map inst.functionRef) = bulk.payload := by
    simp only [Bulk.payload, bulk, List.drop_zero, List.take_replicate, Nat.min_self]
  unfold Instance.tableFill
  dsimp only
  rw [tableHandle_found found, ok_bind, payload]
  refine Guarded.congr (Guarded.check (.table _) fun _ => Guarded.pure rfl) ?_
  simp only [Nat.not_lt, and_true, Bulk.InSource, Bulk.InTarget, bulk, TableCell.len,
    List.length_replicate, Nat.zero_add, Nat.le_refl, true_and]

/-- The bulk operations on tables. -/
theorem tableBulk_guarded {instr : Plain} {operands : List Value}
    {bulk : Bulk (Option FunctionRef)}
    (bulks : TableBulk inst state.store instr operands bulk)
    (found : inst.tables[bulk.target]? = some handle)
    (stackEq : state.stack = operands ++ rest) :
    Guarded BoundsTrap (bulk.InSource ∧ bulk.InTarget (state.store.heap.table handle).slots)
      (· = bulk.afterTable handle rest state) (executePlain inst localTypes state instr) := by
  have finish {run : Run (Store σ)}
      (guarded : Guarded BoundsTrap
        (bulk.InSource ∧ bulk.InTarget (state.store.heap.table handle).slots)
        (· = bulk.writtenTable handle state.store) run) :
      Guarded BoundsTrap (bulk.InSource ∧ bulk.InTarget (state.store.heap.table handle).slots)
        (· = bulk.afterTable handle rest state)
        (do return { state with store := ← run, stack := rest }) :=
    guarded.bind fun _ store same => ⟨_, rfl, by rw [same]; rfl⟩
  have narrow (value : BitVec 32) (rest : Stack) :
      i32FromStack (.i32 value :: rest) = .ok (value, rest) := rfl
  have reference (value : Option Nat) (rest : Stack) :
      funcRefFromStack (.funcRef value :: rest) = .ok (value, rest) := rfl
  cases bulks with
  | @init element table segment destination source length segmentAt =>
      have run : executePlain inst localTypes state (.tableInit element table) = (do
          return { state with
            store := ← inst.tableInit state.store element table destination source length
            stack := rest }) := by
        change executeTable inst state (.tableInit element table) = _
        simp only [executeTable, stackEq, List.cons_append, List.nil_append, narrow, ok_bind]
      rw [run]
      exact finish (tableInit_guarded segmentAt found)
  | @copy destinationTable sourceTable from_ destination source length foundSource =>
      have run : executePlain inst localTypes state
          (.tableCopy destinationTable sourceTable) = (do
          return { state with
            store := ← inst.tableCopy state.store destinationTable sourceTable destination source
              length
            stack := rest }) := by
        change executeTable inst state (.tableCopy destinationTable sourceTable) = _
        simp only [executeTable, stackEq, List.cons_append, List.nil_append, narrow, ok_bind]
      rw [run]
      exact finish (tableCopy_guarded foundSource found)
  | @fill table destination length value =>
      have run : executePlain inst localTypes state (.tableFill table) = (do
          return { state with
            store := ← inst.tableFill state.store table destination value length
            stack := rest }) := by
        change executeTable inst state (.tableFill table) = _
        simp only [executeTable, stackEq, List.cons_append, List.nil_append, narrow, reference,
          ok_bind]
      rw [run]
      exact finish (tableFill_guarded found)

end Tables

end MiniWasm.Runtime
