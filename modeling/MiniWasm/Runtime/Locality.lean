import MiniWasm.Library.Lockstep
import MiniWasm.Runtime.Execute

/-!
# Locality of instructions

An instruction takes its operands off the top of the operand stack and leaves what is
below them alone.  Run on the upper part of a stack, it does what it does on the whole
stack, unless it finds too few operands there.
-/

namespace MiniWasm.Runtime

open Library

variable {σ : Type}

/-- A run on the upper part of a stack does what the run on the whole stack does. -/
abbrev Local {α β : Type} (grow : α → β) (part : Run α) (whole : Run β) : Prop :=
  Framed .stackUnderflow grow part whole

/-- What was popped, with more operands below the rest. -/
def onto {α : Type} (below : Stack) (popped : α × Stack) : α × Stack :=
  (popped.1, popped.2 ++ below)

/-- The state with more operands below its own. -/
def PlainState.onto (below : Stack) (state : PlainState σ) : PlainState σ :=
  { state with stack := state.stack ++ below }

section Pops

variable (stack below : Stack)

/-- A pop that succeeds takes an operand of its own stack. -/
theorem pop_local : Local (onto below) (pop stack) (pop (stack ++ below)) := by
  cases stack with
  | nil => exact .short
  | cons value stack => exact .pure rfl

/-- So does a pop that checks a type. -/
theorem popTyped_local (type : ValueType) :
    Local (onto below) (popTyped stack type) (popTyped (stack ++ below) type) :=
  (pop_local stack below).bind fun _ => .after fun _ => .pure rfl

theorem i32FromStack_local :
    Local (onto below) (i32FromStack stack) (i32FromStack (stack ++ below)) := by
  refine (popTyped_local stack below .i32).bind ?_
  rintro ⟨value, stack⟩
  cases value <;> first | exact .pure rfl | exact .error _

theorem i64FromStack_local :
    Local (onto below) (i64FromStack stack) (i64FromStack (stack ++ below)) := by
  refine (popTyped_local stack below .i64).bind ?_
  rintro ⟨value, stack⟩
  cases value <;> first | exact .pure rfl | exact .error _

theorem f32FromStack_local :
    Local (onto below) (f32FromStack stack) (f32FromStack (stack ++ below)) := by
  refine (popTyped_local stack below .f32).bind ?_
  rintro ⟨value, stack⟩
  cases value <;> first | exact .pure rfl | exact .error _

theorem f64FromStack_local :
    Local (onto below) (f64FromStack stack) (f64FromStack (stack ++ below)) := by
  refine (popTyped_local stack below .f64).bind ?_
  rintro ⟨value, stack⟩
  cases value <;> first | exact .pure rfl | exact .error _

theorem v128FromStack_local :
    Local (onto below) (v128FromStack stack) (v128FromStack (stack ++ below)) := by
  refine (popTyped_local stack below .v128).bind ?_
  rintro ⟨value, stack⟩
  cases value <;> first | exact .pure rfl | exact .error _

theorem funcRefFromStack_local :
    Local (onto below) (funcRefFromStack stack) (funcRefFromStack (stack ++ below)) := by
  refine (popTyped_local stack below .funcRef).bind ?_
  rintro ⟨value, stack⟩
  cases value <;> first | exact .pure rfl | exact .error _

theorem widenedF32FromStack_local :
    Local (onto below) (widenedF32FromStack stack) (widenedF32FromStack (stack ++ below)) :=
  (f32FromStack_local stack below).bind fun _ => .pure rfl

/-- The operand of an instruction on floats, of either width. -/
theorem floatFromStack_local :
    Local (onto below) (floatFromStack stack) (floatFromStack (stack ++ below)) :=
  (f64FromStack_local stack below).bind fun _ => .pure rfl

end Pops

/-! ## Numbers -/

section Numbers

variable (stack below : Stack) (opcode : Nat)

/-- Comparisons take two operands and leave one. -/
theorem compareI32_local :
    Local (· ++ below) (compareI32 stack opcode) (compareI32 (stack ++ below) opcode) :=
  .ite ((i32FromStack_local ..).bind fun _ => .pure rfl) <|
    (i32FromStack_local ..).bind fun _ => (i32FromStack_local ..).bind fun _ =>
      .after fun _ => .pure rfl

theorem compareI64_local :
    Local (· ++ below) (compareI64 stack opcode) (compareI64 (stack ++ below) opcode) :=
  .ite ((i64FromStack_local ..).bind fun _ => .pure rfl) <|
    (i64FromStack_local ..).bind fun _ => (i64FromStack_local ..).bind fun _ =>
      .after fun _ => .pure rfl

theorem compareF32_local :
    Local (· ++ below) (compareF32 stack opcode) (compareF32 (stack ++ below) opcode) :=
  (f32FromStack_local ..).bind fun _ => (f32FromStack_local ..).bind fun _ =>
    .after fun _ => .pure rfl

theorem compareF64_local :
    Local (· ++ below) (compareF64 stack opcode) (compareF64 (stack ++ below) opcode) :=
  (f64FromStack_local ..).bind fun _ => (f64FromStack_local ..).bind fun _ =>
    .after fun _ => .pure rfl

/-- The integer instructions, of one operand and of two. -/
theorem unaryInteger_local :
    Local (· ++ below) (unaryInteger stack opcode) (unaryInteger (stack ++ below) opcode) := by
  unfold unaryInteger
  iterate 3 refine .ite ((i32FromStack_local ..).bind fun _ => .pure rfl) ?_
  iterate 3 refine .ite ((i64FromStack_local ..).bind fun _ => .pure rfl) ?_
  exact .error _

theorem binaryInteger_local :
    Local (· ++ below) (binaryInteger stack opcode) (binaryInteger (stack ++ below) opcode) :=
  .ite
    ((i32FromStack_local ..).bind fun _ => (i32FromStack_local ..).bind fun _ =>
      .after fun _ => .pure rfl) <|
  .ite
    ((i64FromStack_local ..).bind fun _ => (i64FromStack_local ..).bind fun _ =>
      .after fun _ => .pure rfl) <|
  .error _

theorem signExtend_local :
    Local (· ++ below) (signExtend stack opcode) (signExtend (stack ++ below) opcode) := by
  unfold signExtend
  iterate 2 refine .ite ((i32FromStack_local ..).bind fun _ => .pure rfl) ?_
  iterate 3 refine .ite ((i64FromStack_local ..).bind fun _ => .pure rfl) ?_
  exact .error _

/-- The float instructions, of one operand and of two. -/
theorem unaryFloat_local :
    Local (· ++ below) (unaryFloat stack opcode) (unaryFloat (stack ++ below) opcode) :=
  .ite ((f32FromStack_local ..).bind fun _ => .after fun _ => .pure rfl) <|
  .ite ((f64FromStack_local ..).bind fun _ => .after fun _ => .pure rfl) <|
  .error _

theorem binaryFloat_local :
    Local (· ++ below) (binaryFloat stack opcode) (binaryFloat (stack ++ below) opcode) :=
  .ite
    ((f32FromStack_local ..).bind fun _ => (f32FromStack_local ..).bind fun _ =>
      .after fun _ => .pure rfl) <|
  .ite
    ((f64FromStack_local ..).bind fun _ => (f64FromStack_local ..).bind fun _ =>
      .after fun _ => .pure rfl) <|
  .error _

/-- Conversions, by the type that they end in. -/
theorem convertToI32_local :
    Local (· ++ below) (convertToI32 stack opcode) (convertToI32 (stack ++ below) opcode) :=
  .ite ((i64FromStack_local ..).bind fun _ => .pure rfl) <|
  .ite ((widenedF32FromStack_local ..).bind fun _ => .after fun _ => .pure rfl) <|
  (floatFromStack_local ..).bind fun _ => .after fun _ => .pure rfl

theorem convertToI64_local :
    Local (· ++ below) (convertToI64 stack opcode) (convertToI64 (stack ++ below) opcode) :=
  .ite ((i32FromStack_local ..).bind fun _ => .pure rfl) <|
  .ite ((i32FromStack_local ..).bind fun _ => .pure rfl) <|
  .ite ((widenedF32FromStack_local ..).bind fun _ => .after fun _ => .pure rfl) <|
  (floatFromStack_local ..).bind fun _ => .after fun _ => .pure rfl

theorem convertToFloat_local :
    Local (· ++ below) (convertToFloat stack opcode) (convertToFloat (stack ++ below) opcode) := by
  unfold convertToFloat
  repeat' apply Framed.ite
  all_goals
    first
      | exact (i32FromStack_local ..).bind fun _ => .pure rfl
      | exact (i64FromStack_local ..).bind fun _ => .pure rfl
      | exact (f32FromStack_local ..).bind fun _ => .pure rfl
      | exact (f64FromStack_local ..).bind fun _ => .pure rfl
      | exact .error _

theorem convert_local :
    Local (· ++ below) (convert stack opcode) (convert (stack ++ below) opcode) :=
  .ite (convertToI32_local ..) <| .ite (convertToI64_local ..) (convertToFloat_local ..)

theorem truncSat_local :
    Local (· ++ below) (truncSat stack opcode) (truncSat (stack ++ below) opcode) :=
  .ite ((widenedF32FromStack_local ..).bind fun _ => .pure rfl) <|
  .ite ((floatFromStack_local ..).bind fun _ => .pure rfl) <|
  .ite ((widenedF32FromStack_local ..).bind fun _ => .pure rfl) <|
  .ite ((floatFromStack_local ..).bind fun _ => .pure rfl) <|
  .error _

/-- All numeric instructions, by the ranges of their opcodes. -/
theorem executeNumeric_local :
    Local (· ++ below) (executeNumeric stack opcode) (executeNumeric (stack ++ below) opcode) :=
  .ite (compareI32_local ..) <| .ite (compareI64_local ..) <|
  .ite (compareF32_local ..) <| .ite (compareF64_local ..) <|
  .ite (unaryInteger_local ..) <| .ite (binaryInteger_local ..) <|
  .ite (unaryInteger_local ..) <| .ite (binaryInteger_local ..) <|
  .ite (unaryFloat_local ..) <| .ite (binaryFloat_local ..) <|
  .ite (convert_local ..) <| .ite (signExtend_local ..) <| .error _

end Numbers

/-! ## Memories -/

section Memories

variable (inst : Instance σ) (state : PlainState σ) (stack below : Stack)

/-- An address or a length, whose type is that of the memory. -/
theorem popWideOrNarrow_local (wide : Bool) :
    Local (onto below) (popWideOrNarrow stack wide) (popWideOrNarrow (stack ++ below) wide) :=
  .ite ((i64FromStack_local ..).bind fun _ => .pure rfl)
    ((i32FromStack_local ..).bind fun _ => .pure rfl)

theorem popRuntimeBulkMemoryAddress_local (memory : Nat) :
    Local (onto below) (popRuntimeBulkMemoryAddress inst stack memory)
      (popRuntimeBulkMemoryAddress inst (stack ++ below) memory) :=
  .after fun _ => popWideOrNarrow_local ..

theorem popRuntimeMemoryCopyLength_local (destination source : Nat) :
    Local (onto below) (popRuntimeMemoryCopyLength inst stack destination source)
      (popRuntimeMemoryCopyLength inst (stack ++ below) destination source) :=
  .after fun _ => .ite (.after fun _ => popWideOrNarrow_local ..) (popWideOrNarrow_local ..)

theorem popRuntimeMemoryAddress_local (memory : Nat) :
    Local (onto below) (popRuntimeMemoryAddress inst stack memory)
      (popRuntimeMemoryAddress inst (stack ++ below) memory) :=
  .after fun _ => .ite ((i64FromStack_local ..).bind fun _ => .ite (.error _) (.pure rfl))
    (i32FromStack_local ..)

/-- Loads and stores, the operand below the address included. -/
theorem executeLoad_local (opcode : Nat) (arg : Memarg) :
    Local (.onto below) (executeLoad inst state opcode arg)
      (executeLoad inst (state.onto below) opcode arg) :=
  (popRuntimeMemoryAddress_local ..).bind fun _ => .after fun _ => .after fun _ => .pure rfl

theorem executeStoreAs_local {width : Nat} (arg : Memarg) (value : BitVec width)
    (store : LinearMemory → BitVec 32 → Nat → BitVec width → Run LinearMemory) :
    Local (.onto below) (executeStoreAs inst state arg value stack store)
      (executeStoreAs inst (state.onto below) arg value (stack ++ below) store) :=
  (popRuntimeMemoryAddress_local ..).bind fun _ => .after fun _ => .pure rfl

theorem executeStore_local (opcode : Nat) (arg : Memarg) :
    Local (.onto below) (executeStore inst state opcode arg)
      (executeStore inst (state.onto below) opcode arg) :=
  .ite ((i32FromStack_local ..).bind fun _ => executeStoreAs_local ..) <|
  .ite ((i64FromStack_local ..).bind fun _ => executeStoreAs_local ..) <|
  .ite ((f32FromStack_local ..).bind fun _ => executeStoreAs_local ..) <|
  .ite ((f64FromStack_local ..).bind fun _ => executeStoreAs_local ..) <|
  .error _

theorem executeMemorySize_local (memory : Nat) :
    Local (.onto below) (executeMemorySize inst state memory)
      (executeMemorySize inst (state.onto below) memory) :=
  .after fun _ => .after fun _ => .pure rfl

/-- `memory.grow` leaves a number, also where it does not grow. -/
theorem executeMemoryGrow_local (memory : Nat) :
    Local (.onto below) (executeMemoryGrow inst state memory)
      (executeMemoryGrow inst (state.onto below) memory) :=
  .after fun _ => .ite
    ((i64FromStack_local ..).bind fun _ => .ite (.pure rfl) (.after fun _ => .pure rfl))
    ((i32FromStack_local ..).bind fun _ => .after fun _ => .pure rfl)

/-- The three operands of a bulk instruction are popped before anything happens. -/
theorem executeBulkMemory_local (instr : Plain) :
    Local (.onto below) (executeBulkMemory inst state instr)
      (executeBulkMemory inst (state.onto below) instr) := by
  cases instr with
  | memoryInit data memory =>
    exact (i32FromStack_local ..).bind fun _ => (i32FromStack_local ..).bind fun _ =>
      (popRuntimeBulkMemoryAddress_local ..).bind fun _ => .after fun _ => .pure rfl
  | memoryCopy destination source =>
    exact (popRuntimeMemoryCopyLength_local ..).bind fun _ =>
      (popRuntimeBulkMemoryAddress_local ..).bind fun _ =>
        (popRuntimeBulkMemoryAddress_local ..).bind fun _ => .after fun _ => .pure rfl
  | memoryFill memory =>
    exact (popRuntimeBulkMemoryAddress_local ..).bind fun _ =>
      (i32FromStack_local ..).bind fun _ =>
        (popRuntimeBulkMemoryAddress_local ..).bind fun _ => .after fun _ => .pure rfl
  | _ => exact .error _

end Memories

/-! ## Vectors -/

section Vectors

variable (inst : Instance σ) (state : PlainState σ) (stack below : Stack)

/-- Vector loads and stores. -/
theorem executeSimdMemory_local (subopcode : Nat) (arg : Memarg) :
    Local (.onto below) (executeSimdMemory inst state subopcode arg)
      (executeSimdMemory inst (state.onto below) subopcode arg) :=
  .ite
    ((popRuntimeBulkMemoryAddress_local ..).bind fun _ => .after fun _ => .after fun _ =>
      .pure rfl) <|
  .ite
    ((v128FromStack_local ..).bind fun _ => (popRuntimeBulkMemoryAddress_local ..).bind fun _ =>
      .after fun _ => .pure rfl) <|
  (popRuntimeMemoryAddress_local ..).bind fun _ => .after fun _ =>
    .ite (.after fun _ => .pure rfl) (.after fun _ => .pure rfl)

/-- Loads and stores of one lane. -/
theorem executeSimdMemoryLane_local (subopcode : Nat) (arg : Memarg) (index : Nat) :
    Local (.onto below) (executeSimdMemoryLane inst state subopcode arg index)
      (executeSimdMemoryLane inst (state.onto below) subopcode arg index) :=
  (v128FromStack_local ..).bind fun _ => (popRuntimeMemoryAddress_local ..).bind fun _ =>
    .ite (.after fun _ => .after fun _ => .pure rfl) (.after fun _ => .pure rfl)

/-- Reading and replacing a lane. -/
theorem executeSimdLane_local (subopcode index : Nat) :
    Local (· ++ below) (executeSimdLane stack subopcode index)
      (executeSimdLane (stack ++ below) subopcode index) := by
  unfold executeSimdLane
  iterate 3
    refine .ite ((i32FromStack_local ..).bind fun _ => (v128FromStack_local ..).bind fun _ =>
      .after fun _ => .pure rfl) ?_
  refine .ite ((i64FromStack_local ..).bind fun _ => (v128FromStack_local ..).bind fun _ =>
    .after fun _ => .pure rfl) ?_
  refine .ite ((f32FromStack_local ..).bind fun _ => (v128FromStack_local ..).bind fun _ =>
    .after fun _ => .pure rfl) ?_
  refine .ite ((f64FromStack_local ..).bind fun _ => (v128FromStack_local ..).bind fun _ =>
    .after fun _ => .pure rfl) ?_
  refine (v128FromStack_local ..).bind fun _ => ?_
  iterate 7 refine .ite (.after fun _ => .pure rfl) ?_
  exact .after fun _ => .pure rfl

/-- The operand of a splat is a number, its result a vector. -/
theorem executeSplat_local (subopcode : Nat) :
    Local (· ++ below) (executeSplat stack subopcode)
      (executeSplat (stack ++ below) subopcode) := by
  unfold executeSplat
  iterate 3 refine .ite ((i32FromStack_local ..).bind fun _ => .after fun _ => .pure rfl) ?_
  refine .ite ((i64FromStack_local ..).bind fun _ => .after fun _ => .pure rfl) ?_
  refine .ite ((f32FromStack_local ..).bind fun _ => .after fun _ => .pure rfl) ?_
  exact (f64FromStack_local ..).bind fun _ => .after fun _ => .pure rfl

/-- Vector instructions without an immediate. -/
theorem executeSimdBare_local (subopcode : Nat) :
    Local (· ++ below) (executeSimdBare stack subopcode)
      (executeSimdBare (stack ++ below) subopcode) := by
  unfold executeSimdBare
  refine .ite (executeSplat_local ..) ?_
  split
  · exact (v128FromStack_local ..).bind fun _ => .after fun _ => .pure rfl
  · exact (v128FromStack_local ..).bind fun _ => (v128FromStack_local ..).bind fun _ =>
      .after fun _ => .pure rfl
  · exact (v128FromStack_local ..).bind fun _ => (v128FromStack_local ..).bind fun _ =>
      (v128FromStack_local ..).bind fun _ => .after fun _ => .pure rfl
  · exact (i32FromStack_local ..).bind fun _ => (v128FromStack_local ..).bind fun _ =>
      .after fun _ => .pure rfl
  · exact (v128FromStack_local ..).bind fun _ => .after fun _ => .pure rfl
  · exact .error _

/-- A vector instruction that works on the operands alone. -/
theorem replaceStack_local {part whole : Run Stack} (framed : Local (· ++ below) part whole) :
    Local (.onto below) (do return { state with stack := ← part })
      (do return { state.onto below with stack := ← whole }) :=
  framed.bind fun _ => .pure rfl

/-- All vector instructions, by the kind of their immediate. -/
theorem executeSimd_local (subopcode : Nat) (immediate : SimdImmediate) :
    Local (.onto below) (executeSimd inst state subopcode immediate)
      (executeSimd inst (state.onto below) subopcode immediate) := by
  cases immediate with
  | memarg arg => exact executeSimdMemory_local ..
  | memargLane arg index => exact executeSimdMemoryLane_local ..
  | bytes value => exact .pure rfl
  | shuffle lanes =>
    exact (v128FromStack_local ..).bind fun _ => (v128FromStack_local ..).bind fun _ =>
      .after fun _ => .pure rfl
  | lane index => exact replaceStack_local _ _ (executeSimdLane_local ..)
  | none => exact replaceStack_local _ _ (executeSimdBare_local ..)

end Vectors

/-! ## The dispatch -/

section Dispatch

variable (inst : Instance σ) (state : PlainState σ) (stack below : Stack)

/-- The instructions on tables. -/
theorem executeTable_local (instr : Plain) :
    Local (.onto below) (executeTable inst state instr)
      (executeTable inst (state.onto below) instr) := by
  cases instr with
  | tableGet table =>
    exact (i32FromStack_local ..).bind fun _ => .after fun _ => .pure rfl
  | tableSet table =>
    exact (funcRefFromStack_local ..).bind fun _ => (i32FromStack_local ..).bind fun _ =>
      .after fun _ => .pure rfl
  | tableInit | tableCopy =>
    exact (i32FromStack_local ..).bind fun _ => (i32FromStack_local ..).bind fun _ =>
      (i32FromStack_local ..).bind fun _ => .after fun _ => .pure rfl
  | tableGrow table =>
    exact (i32FromStack_local ..).bind fun _ => (funcRefFromStack_local ..).bind fun _ =>
      .after fun _ => .pure rfl
  | tableSize table => exact .after fun _ => .pure rfl
  | tableFill table =>
    exact (i32FromStack_local ..).bind fun _ => (funcRefFromStack_local ..).bind fun _ =>
      (i32FromStack_local ..).bind fun _ => .after fun _ => .pure rfl
  | _ => exact .error _

/-- Both forms of `select`. -/
theorem executeSelect_local :
    Local (· ++ below) (executeSelect stack) (executeSelect (stack ++ below)) :=
  (i32FromStack_local ..).bind fun _ => (pop_local ..).bind fun _ => (pop_local ..).bind fun _ =>
    .ite (.error _) (.pure rfl)

theorem executeSelectTyped_local (type : ValueType) :
    Local (· ++ below) (executeSelectTyped stack type)
      (executeSelectTyped (stack ++ below) type) :=
  (i32FromStack_local ..).bind fun _ => (popTyped_local ..).bind fun _ =>
    (popTyped_local ..).bind fun _ => .pure rfl

/-- `global.set` checks the type after it has popped. -/
theorem executeGlobalSet_local (index : Nat) :
    Local (.onto below) (executeGlobalSet inst state index)
      (executeGlobalSet inst (state.onto below) index) := by
  unfold executeGlobalSet
  split
  · exact .error _
  · exact .ite (.error _) ((popTyped_local ..).bind fun _ => .after fun _ => .pure rfl)

/-- A plain instruction does to the upper part of a stack what it does to the whole. -/
theorem executePlain_local (localTypes : List ValueType) (instr : Plain) :
    Local (.onto below) (executePlain inst localTypes state instr)
      (executePlain inst localTypes (state.onto below) instr) := by
  cases instr with
  | nop | i32Const | i64Const | f32Const | f64Const | refNull | refFunc => exact .pure rfl
  | drop => exact (pop_local ..).bind fun _ => .pure rfl
  | select => exact replaceStack_local _ _ (executeSelect_local ..)
  | selectTyped type => exact replaceStack_local _ _ (executeSelectTyped_local ..)
  | localGet | globalGet | dataDrop | elemDrop => exact .after fun _ => .pure rfl
  | localSet index =>
    exact .after fun _ => (popTyped_local ..).bind fun _ => .after fun _ => .pure rfl
  | localTee index =>
    exact .after fun _ => (pop_local ..).bind fun _ => .after fun _ => .after fun _ => .pure rfl
  | globalSet index => exact executeGlobalSet_local ..
  | load opcode arg => exact executeLoad_local ..
  | store opcode arg => exact executeStore_local ..
  | memorySize memory => exact executeMemorySize_local ..
  | memoryGrow memory => exact executeMemoryGrow_local ..
  | numeric opcode => exact replaceStack_local _ _ (executeNumeric_local ..)
  | refIsNull => exact (funcRefFromStack_local ..).bind fun _ => .pure rfl
  | truncSat subopcode => exact replaceStack_local _ _ (truncSat_local ..)
  | simd subopcode immediate => exact executeSimd_local ..
  | memoryInit data memory =>
      exact executeBulkMemory_local inst state below (.memoryInit data memory)
  | memoryCopy destination source =>
    exact executeBulkMemory_local inst state below (.memoryCopy destination source)
  | memoryFill memory => exact executeBulkMemory_local inst state below (.memoryFill memory)
  | tableGet table => exact executeTable_local inst state below (.tableGet table)
  | tableSet table => exact executeTable_local inst state below (.tableSet table)
  | tableInit element table => exact executeTable_local inst state below (.tableInit element table)
  | tableCopy destination source =>
    exact executeTable_local inst state below (.tableCopy destination source)
  | tableGrow table => exact executeTable_local inst state below (.tableGrow table)
  | tableSize table => exact executeTable_local inst state below (.tableSize table)
  | tableFill table => exact executeTable_local inst state below (.tableFill table)

end Dispatch

end MiniWasm.Runtime
