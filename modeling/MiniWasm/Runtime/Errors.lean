import MiniWasm.Runtime.Invoke

/-!
# Errors of single instructions

No plain instruction reports a missing function or an exhausted call stack;
those errors come from calls alone.
-/

namespace MiniWasm.Runtime

open Library

/-- Errors other than those that only the call machinery raises. -/
def RuntimeError.NotFromCall : RuntimeError → Prop
  | .functionOutOfBounds _ => False
  | .callDepthExceeded _ => False
  | _ => True

/-- The computation raises no error of the call machinery. -/
abbrev CallFree {α : Type} (run : Run α) : Prop :=
  Raises RuntimeError.NotFromCall run

/-! ## Operands -/

/-- An empty stack is an error of its own. -/
@[simp] theorem pop_callFree (stack : Stack) : CallFree (pop stack) := by
  cases stack <;> simp [pop, RuntimeError.NotFromCall]

/-- A value of another type is a mismatch, whatever it is compared for. -/
@[simp] theorem checkType_callFree (value : Value) (expected : ValueType) :
    CallFree (checkType value expected) := by
  simp [checkType, RuntimeError.NotFromCall]

@[simp] theorem popTyped_callFree (stack : Stack) (expected : ValueType) :
    CallFree (popTyped stack expected) := by
  simp [popTyped]

/-- Neither the check of the type nor the unreachable arm behind it concerns calls. -/
@[simp] theorem i32FromStack_callFree (stack : Stack) : CallFree (i32FromStack stack) := by
  simp only [i32FromStack, raises_bind, popTyped_callFree, true_and]
  intro popped _
  split <;> simp [RuntimeError.NotFromCall]

@[simp] theorem i64FromStack_callFree (stack : Stack) : CallFree (i64FromStack stack) := by
  simp only [i64FromStack, raises_bind, popTyped_callFree, true_and]
  intro popped _
  split <;> simp [RuntimeError.NotFromCall]

@[simp] theorem f32FromStack_callFree (stack : Stack) : CallFree (f32FromStack stack) := by
  simp only [f32FromStack, raises_bind, popTyped_callFree, true_and]
  intro popped _
  split <;> simp [RuntimeError.NotFromCall]

@[simp] theorem f64FromStack_callFree (stack : Stack) : CallFree (f64FromStack stack) := by
  simp only [f64FromStack, raises_bind, popTyped_callFree, true_and]
  intro popped _
  split <;> simp [RuntimeError.NotFromCall]

@[simp] theorem v128FromStack_callFree (stack : Stack) : CallFree (v128FromStack stack) := by
  simp only [v128FromStack, raises_bind, popTyped_callFree, true_and]
  intro popped _
  split <;> simp [RuntimeError.NotFromCall]

@[simp] theorem funcRefFromStack_callFree (stack : Stack) :
    CallFree (funcRefFromStack stack) := by
  simp only [funcRefFromStack, raises_bind, popTyped_callFree, true_and]
  intro popped _
  split <;> simp [RuntimeError.NotFromCall]

/-! ## Numbers -/

/-- An opcode without an operation is reported as unsupported. -/
@[simp] theorem supported_callFree {α : Type} (opcode : Nat) (result : Option α) :
    CallFree (supported opcode result) := by
  cases result <;> simp [supported, RuntimeError.NotFromCall]

/-- Division traps; no operation on integers calls. -/
@[simp] theorem evalInteger_callFree {width : Nat} (lhs rhs : BitVec width)
    (opcode position : Nat) : CallFree (evalInteger lhs rhs opcode position) := by
  simp [evalInteger, RuntimeError.NotFromCall]

/-- Truncation traps on what is no number and on what is too large. -/
@[simp] theorem truncToI32_callFree (value : Float) (signed : Bool) :
    CallFree (truncToI32 value signed) := by
  simp [truncToI32, RuntimeError.NotFromCall]

@[simp] theorem truncToI64_callFree (value : Float) (signed : Bool) :
    CallFree (truncToI64 value signed) := by
  simp [truncToI64, RuntimeError.NotFromCall]

@[simp] theorem widenedF32FromStack_callFree (stack : Stack) :
    CallFree (widenedF32FromStack stack) := by
  simp [widenedF32FromStack]

@[simp] theorem floatFromStack_callFree (stack : Stack) : CallFree (floatFromStack stack) := by
  simp [floatFromStack]

/-- Conversions fail where their operand or the truncation does. -/
@[simp] theorem convert_callFree (stack : Stack) (opcode : Nat) :
    CallFree (convert stack opcode) := by
  simp [convert, convertToI32, convertToI64, convertToFloat, RuntimeError.NotFromCall]

@[simp] theorem truncSat_callFree (stack : Stack) (opcode : Nat) :
    CallFree (truncSat stack opcode) := by
  simp [truncSat, RuntimeError.NotFromCall]

/-- A numeric instruction consists of operands and one operation, so the lemmas above
suffice. -/
@[simp] theorem executeNumeric_callFree (stack : Stack) (opcode : Nat) :
    CallFree (executeNumeric stack opcode) := by
  simp [executeNumeric, compareI32, compareI64, compareF32, compareF64, unaryInteger,
    binaryInteger, unaryFloat, binaryFloat, signExtend, RuntimeError.NotFromCall]

/-! ## Vector lanes -/

/-- A lane outside the vector would be a fault of the runtime, not of a call. -/
@[simp] theorem readLane_callFree (width : Nat) (bytes : List UInt8) (start : Nat) :
    CallFree (readLane width bytes start) := by
  simp [readLane, RuntimeError.NotFromCall]

@[simp] theorem writeLane_callFree {width : Nat} (bytes : List UInt8) (start : Nat)
    (value : BitVec width) : CallFree (writeLane bytes start value) := by
  simp [writeLane, RuntimeError.NotFromCall]

/-- The loop over lanes fails only where the value of a lane does. -/
@[simp] theorem laneLoop_callFree {width : Nat} (count : Nat)
    {output : Nat → Run (BitVec width)} (outputs : ∀ lane, CallFree (output lane)) :
    CallFree (laneLoop count output) := by
  simp only [laneLoop, raises_bind, raises_pure, implies_true, and_true]
  refine raises_foldlM (fun result lane => ?_) _ _
  rw [raises_bind]
  exact ⟨outputs lane, fun value _ => writeLane_callFree result _ value⟩

@[simp] theorem mapLanes_callFree (width : Nat) {operation : BitVec width → Run (BitVec width)}
    (computes : ∀ value, CallFree (operation value)) (value : Vector128) :
    CallFree (mapLanes width operation value) :=
  laneLoop_callFree _ fun lane => by simp [computes]

@[simp] theorem zipLanes_callFree (width : Nat)
    {operation : BitVec width → BitVec width → Run (BitVec width)}
    (computes : ∀ lhs rhs, CallFree (operation lhs rhs)) (lhs rhs : Vector128) :
    CallFree (zipLanes width operation lhs rhs) :=
  laneLoop_callFree _ fun lane => by simp [computes]

@[simp] theorem zipLanes3_callFree (width : Nat)
    {operation : BitVec width → BitVec width → BitVec width → Run (BitVec width)}
    (computes : ∀ first second third, CallFree (operation first second third))
    (first second third : Vector128) : CallFree (zipLanes3 width operation first second third) :=
  laneLoop_callFree _ fun lane => by simp [computes]

/-- Operations that cannot fail are covered whatever they compute. -/
theorem mapPure_callFree (width : Nat) (operation : BitVec width → BitVec width)
    (value : Vector128) : CallFree (mapPure width operation value) :=
  mapLanes_callFree width (fun value => raises_pure (operation value)) value

theorem zipPure_callFree (width : Nat) (operation : BitVec width → BitVec width → BitVec width)
    (lhs rhs : Vector128) : CallFree (zipPure width operation lhs rhs) :=
  zipLanes_callFree width (fun lhs rhs => raises_pure (operation lhs rhs)) lhs rhs

theorem zipPure3_callFree (width : Nat)
    (operation : BitVec width → BitVec width → BitVec width → BitVec width)
    (first second third : Vector128) : CallFree (zipPure3 width operation first second third) :=
  zipLanes3_callFree width (fun first second third => raises_pure (operation first second third))
    first second third

/-- An index or a conversion at which the source would panic. -/
@[simp] theorem orPanic_callFree {α : Type} (result : Option α) : CallFree (orPanic result) := by
  cases result <;> simp [orPanic, RuntimeError.NotFromCall]

/-- A count as large as the width would overflow the shift. -/
@[simp] theorem plainShr_callFree {width : Nat} (signed : Bool) (value : BitVec width)
    (count : Nat) : CallFree (plainShr signed value count) := by
  simp [plainShr, RuntimeError.NotFromCall]

@[simp] theorem plainShl_callFree {width : Nat} (value : BitVec width) (count : Nat) :
    CallFree (plainShl value count) := by
  simp [plainShl, RuntimeError.NotFromCall]

@[simp] theorem pairDot_callFree (lhs rhs : Vector128) (byte : Nat) :
    CallFree (pairDot lhs rhs byte) := by
  simp [pairDot, plainAdd, plainMul]

/-- Each listed operation is covered, arm by arm. -/
theorem simdUnary_callFree (subopcode : Nat) (value : Vector128) :
    IfAny (fun operation => CallFree (operation value)) (simdUnary subopcode) := by
  unfold simdUnary
  repeat' apply IfAny.ite
  all_goals first
    | exact ifAny_none
    | rw [ifAny_some]
      first
        | simp [convertLanes, addPairwise, extendHalf, extendFrom, plainAdd]
          done
        | exact mapPure_callFree _ _ _

set_option maxRecDepth 1000 in
/-- As above; the arithmetic arms of all widths are listed in one place. -/
theorem simdBinary_callFree (subopcode : Nat) (lhs rhs : Vector128) :
    IfAny (fun operation => CallFree (operation lhs rhs)) (simdBinary subopcode) := by
  have arithmetic (width position : Nat) :
      IfAny (fun operation => CallFree (operation lhs rhs))
        ((arithmeticLane width position).map (zipPure width)) := by
    intro operation listed
    obtain ⟨_, -, rfl⟩ := Option.map_eq_some_iff.mp listed
    exact zipPure_callFree _ _ _ _
  unfold simdBinary
  repeat' apply IfAny.ite
  all_goals first
    | exact ifAny_none
    | rw [ifAny_some]
      first
        | simp [swizzle, narrowLanes, averageLane8, averageLane16, multiplyQ15,
            multiplyExtended, dotLanes, plainAdd, plainMul]
        | exact zipPure_callFree _ _ _ _
    | exact arithmetic _ _

theorem simdTernary_callFree (subopcode : Nat) (first second third : Vector128) :
    IfAny (fun operation => CallFree (operation first second third)) (simdTernary subopcode) := by
  unfold simdTernary
  repeat' apply IfAny.ite
  all_goals first
    | exact ifAny_none
    | rw [ifAny_some]
      first
        | simp [bitselect, dotAccumulate, plainAdd]
        | exact zipPure3_callFree _ _ _ _ _

/-- Counts are reduced before they reach the plain shifts. -/
theorem simdShift_callFree (subopcode : Nat) (value : Vector128) (amount : BitVec 32) :
    IfAny (fun operation => CallFree (operation value amount)) (simdShift subopcode) := by
  unfold simdShift
  repeat' apply IfAny.ite
  all_goals first
    | exact ifAny_none
    | rw [ifAny_some]
      simp [shiftLanes, shiftLane]

/-- Tests fold over the lanes, so the loop is covered by its body. -/
theorem simdTest_callFree (subopcode : Nat) (value : Vector128) :
    IfAny (fun operation => CallFree (operation value)) (simdTest subopcode) := by
  have all (width : Nat) : CallFree (allTrue width value) :=
    raises_allM (fun lane => by simp) _
  have mask (width : Nat) (negative : BitVec width → Bool) :
      CallFree (bitmask width negative value) := by
    refine raises_foldlM (fun mask lane => ?_) _ _
    simp
  unfold simdTest
  repeat' apply IfAny.ite
  all_goals first
    | exact ifAny_none
    | rw [ifAny_some]
      simp [all, mask]

/-! ## Memories -/

section Memories

variable (memory : LinearMemory)

/-- The bounds of bulk operations are those of the memory. -/
@[simp] theorem checkedBulkRange_callFree (address width : Nat) :
    CallFree (memory.checkedBulkRange address width) := by
  simp [LinearMemory.checkedBulkRange, RuntimeError.NotFromCall]

@[simp] theorem checkedRange_callFree (address : BitVec 32) (displacement width : Nat) :
    CallFree (memory.checkedRange address displacement width) := by
  simp [LinearMemory.checkedRange, RuntimeError.NotFromCall]

/-- An address that exceeds the address space is reported as out of bounds. -/
@[simp] theorem effectiveAddress_callFree (address displacement width : Nat) :
    CallFree (LinearMemory.effectiveAddress address displacement width) := by
  simp [LinearMemory.effectiveAddress, RuntimeError.NotFromCall]

/-- Loading checks a range and reads the bytes of it. -/
@[simp] theorem load_callFree (bits width : Nat) (signed : Bool) (address : BitVec 32)
    (displacement : Nat) : CallFree (memory.load bits width signed address displacement) := by
  simp [LinearMemory.load]

@[simp] theorem store_callFree (bits width : Nat) (address : BitVec 32)
    (displacement : Nat) (value : BitVec bits) :
    CallFree (memory.store bits width address displacement value) := by
  simp [LinearMemory.store]

@[simp] theorem loadFixed_callFree (width address displacement : Nat) :
    CallFree (memory.loadFixed width address displacement) := by
  simp [LinearMemory.loadFixed]

@[simp] theorem storeV128_callFree (address displacement : Nat) (value : List UInt8) :
    CallFree (memory.storeV128 address displacement value) := by
  simp [LinearMemory.storeV128]

@[simp] theorem fillBulk_callFree (destination : Nat) (value : BitVec 32) (length : Nat) :
    CallFree (memory.fillBulk destination value length) := by
  simp [LinearMemory.fillBulk]

@[simp] theorem loadValue_callFree (opcode : Nat) (address : BitVec 32)
    (displacement : Nat) : CallFree (loadValue memory opcode address displacement) := by
  simp [loadValue, LinearMemory.loadI32, LinearMemory.loadI64, LinearMemory.loadF32,
    LinearMemory.loadF64, LinearMemory.loadI8S, LinearMemory.loadI8U, LinearMemory.loadI16S,
    LinearMemory.loadI16U, LinearMemory.loadI64_8S, LinearMemory.loadI64_8U,
    LinearMemory.loadI64_16S, LinearMemory.loadI64_16U, LinearMemory.loadI64_32S,
    LinearMemory.loadI64_32U, RuntimeError.NotFromCall]

@[simp] theorem simdLoad_callFree (subopcode address displacement : Nat) :
    CallFree (simdLoad memory subopcode address displacement) := by
  simp [simdLoad, LinearMemory.loadV128]

/-- A lane is loaded by the scalar access of its width. -/
@[simp] theorem simdLoadLane_callFree (subopcode : Nat) (vector : Vector128) (index : Nat)
    (address : BitVec 32) (displacement : Nat) :
    CallFree (simdLoadLane memory subopcode vector index address displacement) := by
  simp [simdLoadLane, LinearMemory.loadI8U, LinearMemory.loadI16U, LinearMemory.loadI32,
    LinearMemory.loadI64]

@[simp] theorem simdStoreLane_callFree (subopcode : Nat) (vector : Vector128) (index : Nat)
    (address : BitVec 32) (displacement : Nat) :
    CallFree (simdStoreLane memory subopcode vector index address displacement) := by
  simp [simdStoreLane, LinearMemory.storeI8, LinearMemory.storeI16, LinearMemory.storeI32,
    LinearMemory.storeI64]

end Memories

/-! ## The store -/

section Store

variable {σ : Type} (inst : Instance σ) (store : Store σ)

@[simp] theorem memoryAt_callFree (index : Nat) : CallFree (store.memoryAt index) := by
  unfold Store.memoryAt
  split <;> simp [RuntimeError.NotFromCall]

/-- An update of a memory fails for want of the memory, or as the update does. -/
theorem withMemoryIndexMut_callFree {index : Nat}
    {update : LinearMemory → Run LinearMemory}
    (updates : ∀ memory, CallFree (update memory)) :
    CallFree (store.withMemoryIndexMut index update) := by
  simp [Store.withMemoryIndexMut, updates]

/-- A missing segment is reported before the memory is looked up. -/
@[simp] theorem memoryInit_callFree (data memory destination : Nat)
    (source length : BitVec 32) :
    CallFree (store.memoryInit data memory destination source length) := by
  unfold Store.memoryInit
  split
  · simp [RuntimeError.NotFromCall]
  · simp [RuntimeError.NotFromCall, withMemoryIndexMut_callFree]

@[simp] theorem memoryCopy_callFree
    (destinationMemory sourceMemory destination source length : Nat) :
    CallFree (store.memoryCopy destinationMemory sourceMemory destination source length) := by
  simp [Store.memoryCopy, withMemoryIndexMut_callFree]

@[simp] theorem dataDrop_callFree (data : Nat) : CallFree (store.dataDrop data) := by
  simp [Store.dataDrop, RuntimeError.NotFromCall]

@[simp] theorem elemDrop_callFree (element : Nat) : CallFree (store.elemDrop element) := by
  simp [Store.elemDrop, RuntimeError.NotFromCall]

/-- Errors of a handle are mapped to errors of the runtime, none of which concerns calls. -/
@[simp] theorem tableResult_callFree {α : Type} (index : Nat)
    (result : Except TableHandleError α) : CallFree (tableResult index result) := by
  cases result with
  | ok value => simp [tableResult]
  | error err => cases err <;> simp [tableResult, mapTableElementError, RuntimeError.NotFromCall]

@[simp] theorem tableHandle_callFree (table : Nat) : CallFree (inst.tableHandle table) := by
  unfold Instance.tableHandle
  split <;> simp [RuntimeError.NotFromCall]

@[simp] theorem globalHandle_callFree (index : Nat) : CallFree (inst.globalHandle index) := by
  unfold Instance.globalHandle
  split <;> simp [RuntimeError.NotFromCall]

@[simp] theorem tableInit_callFree (element table : Nat)
    (destination source length : BitVec 32) :
    CallFree (inst.tableInit store element table destination source length) := by
  unfold Instance.tableInit
  split <;> simp [RuntimeError.NotFromCall]

/-- A handle refuses constants and values of another type. -/
@[simp] theorem globalSet_callFree (index : Nat) (value : Value) :
    CallFree (inst.globalSet store index value) := by
  simp only [Instance.globalSet, raises_bind, globalHandle_callFree, true_and]
  intro handle _
  split
  · simp
  · next err _ => cases err <;> simp [Instance.mapGlobalError, RuntimeError.NotFromCall]

end Store

/-! ## Instructions -/

section Instructions

variable {σ : Type} (inst : Instance σ) (state : PlainState σ)

@[simp] theorem runtimeMemoryIs64_callFree (memory : Nat) :
    CallFree (runtimeMemoryIs64 inst memory) := by
  unfold runtimeMemoryIs64
  split <;> simp [RuntimeError.NotFromCall]

@[simp] theorem popWideOrNarrow_callFree (stack : Stack) (wide : Bool) :
    CallFree (popWideOrNarrow stack wide) := by
  simp [popWideOrNarrow]

@[simp] theorem popRuntimeBulkMemoryAddress_callFree (stack : Stack) (memory : Nat) :
    CallFree (popRuntimeBulkMemoryAddress inst stack memory) := by
  simp [popRuntimeBulkMemoryAddress]

@[simp] theorem popRuntimeMemoryCopyLength_callFree (stack : Stack)
    (destination source : Nat) :
    CallFree (popRuntimeMemoryCopyLength inst stack destination source) := by
  simp [popRuntimeMemoryCopyLength]

@[simp] theorem popRuntimeMemoryAddress_callFree (stack : Stack) (memory : Nat) :
    CallFree (popRuntimeMemoryAddress inst stack memory) := by
  simp [popRuntimeMemoryAddress, RuntimeError.NotFromCall]

@[simp] theorem executeLoad_callFree (opcode : Nat) (arg : Memarg) :
    CallFree (executeLoad inst state opcode arg) := by
  simp [executeLoad]

/-- Stores differ in the type of the operand and in the width; all write through one
operation. -/
@[simp] theorem executeStore_callFree (opcode : Nat) (arg : Memarg) :
    CallFree (executeStore inst state opcode arg) := by
  have storeAs {width : Nat} (value : BitVec width) (stack : Stack)
      (write : LinearMemory → BitVec 32 → Nat → BitVec width → Run LinearMemory)
      (writes : ∀ memory address offset value, CallFree (write memory address offset value)) :
      CallFree (executeStoreAs inst state arg value stack write) := by
    simp [executeStoreAs, withMemoryIndexMut_callFree, writes]
  have storeAsBits (bits width : Nat) (value : BitVec bits) (stack : Stack) :
      CallFree (executeStoreAs inst state arg value stack (·.store bits width)) :=
    storeAs value stack _ fun memory => store_callFree memory bits width
  simp only [executeStore, raises_ite, raises_bind]
  refine ⟨fun _ => ⟨by simp, fun popped _ => ?_⟩,
    fun _ => ⟨fun _ => ⟨by simp, fun popped _ => ?_⟩,
      fun _ => ⟨fun _ => ⟨by simp, fun popped _ => storeAsBits 32 4 _ _⟩,
        fun _ => ⟨fun _ => ⟨by simp, fun popped _ => storeAsBits 64 8 _ _⟩,
          fun _ => by simp [RuntimeError.NotFromCall]⟩⟩⟩⟩
  · split_ifs
    · exact storeAsBits 32 4 _ _
    · exact storeAsBits 32 1 _ _
    · exact storeAsBits 32 2 _ _
  · split_ifs
    · exact storeAsBits 64 8 _ _
    · exact storeAsBits 64 1 _ _
    · exact storeAsBits 64 2 _ _
    · exact storeAsBits 64 4 _ _

@[simp] theorem expectMemory64_callFree (memory : Nat) :
    CallFree (expectMemory64 inst memory) := by
  unfold expectMemory64
  split <;> simp [RuntimeError.NotFromCall]

/-- Opcodes without an immediate are found in one of the five listings, or not at all. -/
@[simp] theorem executeSimdBare_callFree (stack : Stack) (subopcode : Nat) :
    CallFree (executeSimdBare stack subopcode) := by
  unfold executeSimdBare
  split
  · simp [executeSplat, splatLanes]
  · split
    · next listed => simp [simdUnary_callFree _ _ _ listed]
    · next listed _ => simp [simdBinary_callFree _ _ _ _ listed]
    · next listed _ _ => simp [simdTernary_callFree _ _ _ _ _ listed]
    · next listed _ _ _ => simp [simdShift_callFree _ _ _ _ listed]
    · next listed _ _ _ _ => simp [simdTest_callFree _ _ _ listed]
    · simp [RuntimeError.NotFromCall]

@[simp] theorem executeSimd_callFree (subopcode : Nat) (immediate : SimdImmediate) :
    CallFree (executeSimd inst state subopcode immediate) := by
  cases immediate <;>
    simp [executeSimd, executeSimdMemory, executeSimdMemoryLane, executeSimdLane, insertLane,
      extractLane, shuffle,
      LinearMemory.loadI32, LinearMemory.loadI64, withMemoryIndexMut_callFree]

@[simp] theorem localAt_callFree {α : Type} (entries : List α) (index : Nat) :
    CallFree (localAt entries index) := by
  unfold localAt
  split <;> simp [RuntimeError.NotFromCall]

@[simp] theorem executeGlobalSet_callFree (index : Nat) :
    CallFree (executeGlobalSet inst state index) := by
  unfold executeGlobalSet
  split <;> simp [RuntimeError.NotFromCall]

/-- No instruction on tables enters a function, even where it moves references. -/
@[simp] theorem executeTable_callFree (instr : Plain) :
    CallFree (executeTable inst state instr) := by
  unfold executeTable
  split <;>
    simp [Instance.tableGet, Instance.tableSet, Instance.tableCopy, Instance.tableGrow,
      Instance.tableSize, Instance.tableFill, RuntimeError.NotFromCall]

@[simp] theorem executeBulkMemory_callFree (instr : Plain) :
    CallFree (executeBulkMemory inst state instr) := by
  unfold executeBulkMemory
  split <;> simp [withMemoryIndexMut_callFree, RuntimeError.NotFromCall]

/-- A plain instruction neither looks a function up by its index nor enters one. -/
theorem executePlain_callFree (localTypes : List ValueType) (instr : Plain) :
    CallFree (executePlain inst localTypes state instr) := by
  cases instr <;>
    simp [executePlain, executeSelect, executeSelectTyped, executeLocalSet, executeLocalTee,
      setLocal, Instance.globalGet, executeMemorySize, executeMemoryGrow, growMemoryAt,
      RuntimeError.NotFromCall]

end Instructions

/-! ## Immediates -/

section Immediates

variable (code : List UInt8) (pc : Nat)

/-- An immediate that is malformed is reported with the error of the decoder. -/
@[simp] theorem readWith_callFree {α : Type}
    (decode : List UInt8 → Except ParseError (α × Nat)) :
    CallFree (readWith code pc decode) := by
  unfold readWith
  split <;> simp [RuntimeError.NotFromCall]

@[simp] theorem readU32Immediate_callFree : CallFree (readU32Immediate code pc) :=
  readWith_callFree code pc decodeU32

@[simp] theorem readU64Immediate_callFree : CallFree (readU64Immediate code pc) :=
  readWith_callFree code pc decodeU64

/-- The caller names the error for a missing byte. -/
@[simp] theorem readByte_callFree (missing : RuntimeError) :
    CallFree (readByte code pc missing) ↔ (code[pc]? = none → missing.NotFromCall) := by
  unfold readByte
  split <;> simp [*]

@[simp] theorem readBytes_callFree (width : Nat) (missing : RuntimeError) :
    CallFree (readBytes code pc width missing) ↔
      (¬ pc + width ≤ code.length → missing.NotFromCall) := by
  simp only [readBytes, raises_ite, raises_ok, raises_error, implies_true, true_and]

@[simp] theorem readRuntimeMemarg_callFree (memoryCount : Nat) :
    CallFree (readRuntimeMemarg code pc memoryCount) := by
  simp [readRuntimeMemarg, readMemarg, ensureRuntimeMemoryIndex, RuntimeError.NotFromCall]

@[simp] theorem readTypedSelectType_callFree : CallFree (readTypedSelectType code pc) := by
  simp [readTypedSelectType, RuntimeError.NotFromCall]

/-- A block type may name a missing type, which is not a missing function. -/
@[simp] theorem readBlockSignature_callFree (types : List FuncType) :
    CallFree (readBlockSignature code pc types) := by
  simp only [readBlockSignature, raises_bind, raises_ite, raises_pure, readByte_callFree,
    raises_error, readWith_callFree, implies_true, true_and]
  refine ⟨fun _ => trivial, fun first _ _ _ _ _ _ raw _ => ⟨fun _ => trivial, fun _ =>
    ⟨fun _ => trivial, fun _ => ?_⟩⟩⟩
  split <;> simp [RuntimeError.NotFromCall]

@[simp] theorem readSimdImmediate_callFree (memoryCount subopcode : Nat) :
    CallFree (readSimdImmediate code pc memoryCount subopcode) := by
  simp [readSimdImmediate, readLaneIndex, readShuffleLanes, RuntimeError.NotFromCall]

/-- Decoding alone never needs a function. -/
@[simp] theorem readPlain_callFree (memoryCount opcode : Nat) :
    CallFree (readPlain code pc memoryCount opcode) := by
  simp [readPlain, withU32, withU32Pair, readRuntimeMemoryIndex, ensureRuntimeMemoryIndex,
    readFixedU32, readFixedU64, readReferenceType, readSimd, readMisc,
    RuntimeError.NotFromCall]

end Immediates

/-! ## Control -/

section Control

@[simp] theorem controlInfo_callFree (controlMap : ControlMap) (opener : Nat) :
    CallFree (controlMap.info opener) := by
  unfold ControlMap.info
  split <;> simp [RuntimeError.NotFromCall]

/-- A count that differs is found by the caller. -/
@[simp] theorem checkTypes_callFree (types : List ValueType) (values : List Value) :
    CallFree (checkTypes types values) := by
  induction types generalizing values with
  | nil => simp [checkTypes]
  | cons expected types ih => cases values <;> simp [checkTypes, ih]

@[simp] theorem validateValues_callFree (types : List ValueType) (values : List Value) :
    CallFree (validateValues types values) := by
  simp [validateValues, RuntimeError.NotFromCall]

/-- Entering a block needs its operands. -/
@[simp] theorem controlEntryHeight_callFree (stack : Stack) (params : List ValueType) :
    CallFree (controlEntryHeight stack params) := by
  simp [controlEntryHeight, RuntimeError.NotFromCall]

@[simp] theorem exitControlFrame_callFree (controls : List ExecControlFrame)
    (stack : Stack) : CallFree (exitControlFrame controls stack) := by
  cases controls <;> simp [exitControlFrame, RuntimeError.NotFromCall]

/-- A branch needs a label and the operands of it. -/
@[simp] theorem branchTo_callFree (frame : GuestFrame) (depth : Nat) :
    CallFree (branchTo frame depth) := by
  unfold branchTo
  split
  · simp [RuntimeError.NotFromCall]
  · split <;> simp [RuntimeError.NotFromCall]

variable {σ : Type} (inst : Instance σ) (frame : GuestFrame)

@[simp] theorem executeBlock_callFree (offset : Nat) (kind : ControlKind) :
    CallFree (executeBlock inst frame offset kind) := by
  simp [executeBlock, ensureControlInfo, RuntimeError.NotFromCall]

/-- The lookup of the control map comes before the operand is tested. -/
@[simp] theorem executeIf_callFree (offset : Nat) : CallFree (executeIf inst frame offset) := by
  simp only [executeIf, raises_bind, readBlockSignature_callFree, i32FromStack_callFree,
    controlInfo_callFree, controlEntryHeight_callFree, ensureControlInfo, raises_ite,
    raises_ok, raises_pure, raises_error, RuntimeError.NotFromCall, implies_true, true_and]
  intros
  split <;> simp

@[simp] theorem executeElse_callFree : CallFree (executeElse frame) := by
  unfold executeElse
  split <;> simp [RuntimeError.NotFromCall]

@[simp] theorem finishFrame_callFree : CallFree (finishFrame frame) := by
  simp [finishFrame, RuntimeError.NotFromCall]

@[simp] theorem executeEnd_callFree (offset : Nat) : CallFree (executeEnd frame offset) := by
  unfold executeEnd
  split <;> simp [RuntimeError.NotFromCall]

/-- The targets of a branch table are decoded one after the other. -/
@[simp] theorem selectTarget_callFree (code : List UInt8) (selector count index pc : Nat)
    (selected : Option Nat) : CallFree (selectTarget code selector count index pc selected) := by
  induction count generalizing index pc selected with
  | zero => simp [selectTarget]
  | succ count ih => simp [selectTarget, ih]

/-- All four ways to leave a block. -/
@[simp] theorem executeBranch_callFree :
    CallFree (executeBr frame) ∧ CallFree (executeBrIf frame) ∧
      CallFree (executeBrTable frame) ∧ CallFree (executeReturn frame) := by
  refine ⟨by simp [executeBr], by simp [executeBrIf], by simp [executeBrTable], ?_⟩
  unfold executeReturn
  split <;> simp [RuntimeError.NotFromCall]

end Control

/-! ## Whole steps

A call may name a missing function, but only entering a function can exceed the
call depth.
-/

section Steps

/-- Errors other than an exhausted call stack. -/
def RuntimeError.NotDepth : RuntimeError → Prop
  | .callDepthExceeded _ => False
  | _ => True

/-- Errors outside calls are not about the depth either. -/
theorem CallFree.notDepth {α : Type} {run : Run α} (callFree : CallFree run) :
    Raises RuntimeError.NotDepth run := by
  refine callFree.mono fun err allowed => ?_
  cases err <;> trivial

variable {σ : Type} (inst : Instance σ) (store : Store σ) (frame : GuestFrame)

/-- A missing function is what a call reports without having entered it. -/
theorem functionType_notDepth (function : Nat) :
    Raises RuntimeError.NotDepth (inst.functionType function) := by
  unfold Instance.functionType
  split <;> simp [RuntimeError.NotDepth]

theorem splitArgs_callFree (stack : Stack) (paramCount : Nat) :
    CallFree (splitArgs stack paramCount) := by
  simp [splitArgs, RuntimeError.NotFromCall]

/-- Finding the callee of an indirect call may trap, but enters nothing. -/
theorem readIndirectCallee_notDepth :
    Raises RuntimeError.NotDepth (readIndirectCallee inst store frame) := by
  have tableGet (table element : Nat) : CallFree (inst.tableGet store table element) := by
    simp [Instance.tableGet]
  simp only [readIndirectCallee, Instance.resolveIndirectCallee, raises_bind,
    (readU32Immediate_callFree _ _).notDepth, (i32FromStack_callFree _).notDepth,
    (tableGet _ _).notDepth, raises_pure, implies_true, and_true, true_and]
  intros
  split
  · simp [RuntimeError.NotDepth]
  · split
    · simp [RuntimeError.NotDepth]
    · simp [functionType_notDepth, RuntimeError.NotDepth]

/-- An opcode leads to an outcome; entering the callee is left to the loop. -/
theorem executeOp_notDepth (offset opcode : Nat) :
    Raises RuntimeError.NotDepth (executeOp inst store frame offset opcode) := by
  have plain : CallFree (executePlainOp inst store frame opcode) := by
    simp [executePlainOp, executePlain_callFree]
  have branches := executeBranch_callFree frame
  simp only [executeOp, raises_ite, raises_bind, raises_pure, raises_error,
    (executeBlock_callFree inst frame offset _).notDepth,
    (executeIf_callFree inst frame offset).notDepth, (executeElse_callFree frame).notDepth,
    (executeEnd_callFree frame offset).notDepth,
    branches.1.notDepth, branches.2.1.notDepth, branches.2.2.1.notDepth,
    branches.2.2.2.notDepth, plain.notDepth, executeCall, executeCallIndirect,
    executeReturnCall, executeReturnCallIndirect, readIndirectCallee_notDepth,
    functionType_notDepth, (readU32Immediate_callFree _ _).notDepth,
    (splitArgs_callFree _ _).notDepth, RuntimeError.NotDepth, implies_true, and_self]

/-- The instruction that calls is a step of its frame, which never exceeds the depth. -/
theorem frameStep_notDepth (budget : ExecutionBudget) :
    Raises RuntimeError.NotDepth (frameStep inst store budget frame) := by
  have consume : Raises RuntimeError.NotDepth budget.consumeInstruction := by
    unfold ExecutionBudget.consumeInstruction
    split <;> simp [RuntimeError.NotDepth]
  unfold frameStep
  split
  · simp [(finishFrame_callFree frame).notDepth]
  · simp [consume, executeOp_notDepth]

/-- The budget of callbacks is apart from the depth of guest calls. -/
theorem prepareHost_notDepth (importIndex : Nat) (args : List Value)
    (budget : ExecutionBudget) :
    Raises RuntimeError.NotDepth (inst.prepareHost importIndex args budget) := by
  have consume (limit : Option Nat) :
      Raises RuntimeError.NotDepth (budget.consumeHostCall limit) := by
    unfold ExecutionBudget.consumeHostCall
    split <;> simp [RuntimeError.NotDepth]
  simp only [Instance.prepareHost, raises_bind, consume, true_and]
  intro budget _
  split
  · simp [RuntimeError.NotDepth]
  · split
    · simp [RuntimeError.NotDepth]
    · split
      · simp [RuntimeError.NotDepth]
      · simp only [raises_bind, (validateValues_callFree _ _).notDepth, true_and]
        intros
        split <;> simp [RuntimeError.NotDepth]

theorem hostResults_notDepth (entry : Import) (type : FuncType)
    (result : Except HostError (List Value)) :
    Raises RuntimeError.NotDepth (hostResults entry type result) := by
  have check (types : List ValueType) (values : List Value) :
      Raises RuntimeError.NotDepth (checkHostResults entry types values) := by
    induction types generalizing values with
    | nil => simp [checkHostResults]
    | cons expected types ih =>
        cases values with
        | nil => simp [checkHostResults]
        | cons value values => simp [checkHostResults, ih, RuntimeError.NotDepth]
  unfold hostResults
  split
  · simp [RuntimeError.NotDepth]
  · simp [check, RuntimeError.NotDepth]

/-- A callback that fails is reported as a failure of the callback. -/
theorem invokeHost_notDepth (importIndex : Nat) (args : List Value)
    (budget : ExecutionBudget) :
    Raises RuntimeError.NotDepth (inst.invokeHost store budget importIndex args).2 := by
  have prepared := prepareHost_notDepth inst importIndex args budget
  unfold Instance.invokeHost
  split
  · next failed => simpa [failed] using prepared
  · simp [hostResults_notDepth]

/-- Preparing a frame checks the arguments; the depth is checked by the caller. -/
theorem prepareGuestFrame_notDepth (index : Nat) (args : List Value) :
    Raises RuntimeError.NotDepth (inst.prepareGuestFrame index args) := by
  unfold Instance.prepareGuestFrame
  simp only [raises_ite, raises_error]
  refine ⟨fun _ => trivial, fun _ => ?_⟩
  split
  · simp [RuntimeError.NotDepth]
  · split
    · simp [RuntimeError.NotDepth]
    · simp only [raises_bind, (validateValues_callFree _ _).notDepth, true_and]
      intros
      split
      · split <;> simp [RuntimeError.NotDepth]
      · simp [RuntimeError.NotDepth]

end Steps

end MiniWasm.Runtime
