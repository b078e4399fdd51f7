import MiniWasm.Runtime.Instance
import MiniWasm.Runtime.Numeric
import MiniWasm.Runtime.Simd

/-!
# Straight-line instructions

What the arms of the plain instructions do once their immediates have been
read.  An arm works on the store, the locals and the operand stack of the
current frame.
-/

namespace MiniWasm.Runtime

variable {σ : Type}

structure PlainState (σ : Type) where
  store : Store σ
  locals : List Value
  stack : Stack

variable (inst : Instance σ)

/-! ## Addresses -/

def runtimeMemoryIs64 (memory : Nat) : Run Bool :=
  match inst.module.memoryType memory with
  | some type => .ok type.limits.memory64
  | none => .error (.memoryIndexOutOfBounds memory)

def popWideOrNarrow (stack : Stack) (wide : Bool) : Run (Nat × Stack) := do
  if wide then
    let (value, stack) ← i64FromStack stack
    return (value.toNat, stack)
  else
    let (value, stack) ← i32FromStack stack
    return (value.toNat, stack)

def popRuntimeBulkMemoryAddress (stack : Stack) (memory : Nat) : Run (Nat × Stack) := do
  popWideOrNarrow stack (← runtimeMemoryIs64 inst memory)

def popRuntimeMemoryCopyLength (stack : Stack) (destination source : Nat) :
    Run (Nat × Stack) := do
  if ← runtimeMemoryIs64 inst destination then
    popWideOrNarrow stack (← runtimeMemoryIs64 inst source)
  else
    popWideOrNarrow stack false

def popRuntimeMemoryAddress (stack : Stack) (memory : Nat) :
    Run (BitVec 32 × Stack) := do
  if ← runtimeMemoryIs64 inst memory then
    let (address, stack) ← i64FromStack stack
    if 2 ^ 32 - 1 < address.toNat then
      .error (.memoryOutOfBounds address.toNat 1)
    else
      return (address.truncate 32, stack)
  else
    i32FromStack stack

/-! ## Loads and stores -/

/-- The load arms `0x28 ..= 0x35` behind the address. -/
def loadValue (memory : LinearMemory) (opcode : Nat) (address : BitVec 32)
    (displacement : Nat) : Run Value := do
  if opcode = 0x28 then return .i32 (← memory.loadI32 address displacement)
  else if opcode = 0x29 then return .i64 (← memory.loadI64 address displacement)
  else if opcode = 0x2a then return .f32 (← memory.loadF32 address displacement)
  else if opcode = 0x2b then return .f64 (← memory.loadF64 address displacement)
  else if opcode = 0x2c then return .i32 (← memory.loadI8S address displacement)
  else if opcode = 0x2d then return .i32 (← memory.loadI8U address displacement)
  else if opcode = 0x2e then return .i32 (← memory.loadI16S address displacement)
  else if opcode = 0x2f then return .i32 (← memory.loadI16U address displacement)
  else if opcode = 0x30 then return .i64 (← memory.loadI64_8S address displacement)
  else if opcode = 0x31 then return .i64 (← memory.loadI64_8U address displacement)
  else if opcode = 0x32 then return .i64 (← memory.loadI64_16S address displacement)
  else if opcode = 0x33 then return .i64 (← memory.loadI64_16U address displacement)
  else if opcode = 0x34 then return .i64 (← memory.loadI64_32S address displacement)
  else if opcode = 0x35 then return .i64 (← memory.loadI64_32U address displacement)
  else .error .panicked

def executeLoad (state : PlainState σ) (opcode : Nat) (arg : Memarg) :
    Run (PlainState σ) := do
  let (address, stack) ← popRuntimeMemoryAddress inst state.stack arg.memory
  let memory ← state.store.memoryAt arg.memory
  let value ← loadValue memory opcode address arg.offset
  return { state with stack := value :: stack }

/-- The store arms of one value type: the address is popped behind the value. -/
def executeStoreAs {width : Nat} (state : PlainState σ) (arg : Memarg)
    (value : BitVec width) (stack : Stack)
    (store : LinearMemory → BitVec 32 → Nat → BitVec width → Run LinearMemory) :
    Run (PlainState σ) := do
  let (address, stack) ← popRuntimeMemoryAddress inst stack arg.memory
  let updated ← state.store.withMemoryIndexMut arg.memory fun memory =>
    store memory address arg.offset value
  return { state with store := updated, stack }

def executeStore (state : PlainState σ) (opcode : Nat) (arg : Memarg) :
    Run (PlainState σ) := do
  if opcode ∈ [0x36, 0x3a, 0x3b] then
    let (value, stack) ← i32FromStack state.stack
    executeStoreAs inst state arg value stack <|
      if opcode = 0x36 then LinearMemory.storeI32
      else if opcode = 0x3a then LinearMemory.storeI8
      else LinearMemory.storeI16
  else if opcode = 0x37 ∨ 0x3c ≤ opcode ∧ opcode ≤ 0x3e then
    let (value, stack) ← i64FromStack state.stack
    executeStoreAs inst state arg value stack <|
      if opcode = 0x37 then LinearMemory.storeI64
      else if opcode = 0x3c then LinearMemory.storeI64_8
      else if opcode = 0x3d then LinearMemory.storeI64_16
      else LinearMemory.storeI64_32
  else if opcode = 0x38 then
    let (bits, stack) ← f32FromStack state.stack
    executeStoreAs inst state arg bits stack LinearMemory.storeF32
  else if opcode = 0x39 then
    let (bits, stack) ← f64FromStack state.stack
    executeStoreAs inst state arg bits stack LinearMemory.storeF64
  else
    .error .panicked

/-- `memory_type(..).expect(..).limits.memory64`. -/
def expectMemory64 (memory : Nat) : Run Bool :=
  match inst.module.memoryType memory with
  | some type => .ok type.limits.memory64
  | none => .error .panicked

def executeMemorySize (state : PlainState σ) (memory : Nat) : Run (PlainState σ) := do
  let pages := (← state.store.memoryAt memory).sizePages
  let value : Value :=
    if ← expectMemory64 inst memory then .i64 (BitVec.ofNat 64 pages)
    else .i32 (BitVec.ofNat 32 pages)
  return { state with stack := value :: state.stack }

/-- Grow a memory of the instance. -/
def growMemoryAt (store : Store σ) (memory delta : Nat) : Run (BitVec 32 × Store σ) := do
  let (previous, grown) := (← store.memoryAt memory).grow (store.heap.granted 0) delta
  let ticked := { store with heap := store.heap.tick }
  return (previous, ticked.setMemoryAt memory grown)

def executeMemoryGrow (state : PlainState σ) (memory : Nat) : Run (PlainState σ) := do
  if ← expectMemory64 inst memory then
    let (delta, stack) ← i64FromStack state.stack
    if 2 ^ 32 - 1 < delta.toNat then
      return { state with stack := .i64 (-1) :: stack }
    else
      let (previous, store) ← growMemoryAt state.store memory delta.toNat
      return { state with store, stack := .i64 (previous.signExtend 64) :: stack }
  else
    let (delta, stack) ← i32FromStack state.stack
    let (previous, store) ← growMemoryAt state.store memory delta.toNat
    return { state with store, stack := .i32 previous :: stack }

/-! ## Vector instructions -/

/-- The loads `0 ..= 10`: the bytes that are read and how they fill a vector. -/
def simdLoad (memory : LinearMemory) (subopcode address displacement : Nat) :
    Run Vector128 := do
  if subopcode = 0 then
    return ofBytes (← memory.loadV128 address displacement)
  else if 1 ≤ subopcode ∧ subopcode ≤ 6 then
    let input := ofBytes (← memory.loadFixed 8 address displacement)
    let width := if subopcode ≤ 2 then 8 else if subopcode ≤ 4 then 16 else 32
    return extendLanes width (subopcode ∈ [1, 3, 5]) 0 input
  else if subopcode = 7 then
    return splat 8 (lane 8 (ofBytes (← memory.loadFixed 1 address displacement)) 0)
  else if subopcode = 8 then
    return splat 16 (lane 16 (ofBytes (← memory.loadFixed 2 address displacement)) 0)
  else if subopcode = 9 then
    return splat 32 (lane 32 (ofBytes (← memory.loadFixed 4 address displacement)) 0)
  else
    return splat 64 (lane 64 (ofBytes (← memory.loadFixed 8 address displacement)) 0)

/-- The lane loads `84 ..= 87`. -/
def simdLoadLane (memory : LinearMemory) (subopcode : Nat) (vector : Vector128)
    (index : Nat) (address : BitVec 32) (displacement : Nat) : Run Vector128 := do
  if subopcode = 84 then
    let value ← memory.loadI8U address displacement
    return replaceLane 8 vector index (value.truncate 8)
  else if subopcode = 85 then
    let value ← memory.loadI16U address displacement
    return replaceLane 16 vector index (value.truncate 16)
  else if subopcode = 86 then
    return replaceLane 32 vector index (← memory.loadI32 address displacement)
  else
    return replaceLane 64 vector index (← memory.loadI64 address displacement)

/-- The lane stores `88 ..= 91`. -/
def simdStoreLane (memory : LinearMemory) (subopcode : Nat) (vector : Vector128)
    (index : Nat) (address : BitVec 32) (displacement : Nat) : Run LinearMemory :=
  if subopcode = 88 then
    memory.storeI8 address displacement ((lane 8 vector index).zeroExtend 32)
  else if subopcode = 89 then
    memory.storeI16 address displacement ((lane 16 vector index).zeroExtend 32)
  else if subopcode = 90 then
    memory.storeI32 address displacement (lane 32 vector index)
  else
    memory.storeI64 address displacement (lane 64 vector index)

/-- The vector arms with a memory argument. -/
def executeSimdMemory (state : PlainState σ) (subopcode : Nat) (arg : Memarg) :
    Run (PlainState σ) := do
  if subopcode ≤ 10 then
    let (address, stack) ← popRuntimeBulkMemoryAddress inst state.stack arg.memory
    let memory ← state.store.memoryAt arg.memory
    let value ← simdLoad memory subopcode address arg.offset
    return { state with stack := .v128 value :: stack }
  else if subopcode = 11 then
    let (value, stack) ← v128FromStack state.stack
    let (address, stack) ← popRuntimeBulkMemoryAddress inst stack arg.memory
    let store ← state.store.withMemoryIndexMut arg.memory fun memory =>
      memory.storeV128 address arg.offset (toBytes value)
    return { state with store, stack }
  else
    let (address, stack) ← popRuntimeMemoryAddress inst state.stack arg.memory
    let memory ← state.store.memoryAt arg.memory
    let value : Vector128 ←
      if subopcode = 92 then
        pure ((← memory.loadI32 address arg.offset).zeroExtend 128)
      else
        pure ((← memory.loadI64 address arg.offset).zeroExtend 128)
    return { state with stack := .v128 value :: stack }

/-- The vector arms with a memory argument and a lane number. -/
def executeSimdMemoryLane (state : PlainState σ) (subopcode : Nat) (arg : Memarg)
    (index : Nat) : Run (PlainState σ) := do
  let (vector, stack) ← v128FromStack state.stack
  let (address, stack) ← popRuntimeMemoryAddress inst stack arg.memory
  if subopcode ≤ 87 then
    let memory ← state.store.memoryAt arg.memory
    let value ← simdLoadLane memory subopcode vector index address arg.offset
    return { state with stack := .v128 value :: stack }
  else
    let store ← state.store.withMemoryIndexMut arg.memory fun memory =>
      simdStoreLane memory subopcode vector index address arg.offset
    return { state with store, stack }

/-- The lane arms `21 ..= 34`. -/
def executeSimdLane (stack : Stack) (subopcode index : Nat) : Run Stack := do
  if subopcode = 23 then
    let (scalar, stack) ← i32FromStack stack
    let (vector, stack) ← v128FromStack stack
    return .v128 (← insertLane vector index (scalar.truncate 8)) :: stack
  else if subopcode = 26 then
    let (scalar, stack) ← i32FromStack stack
    let (vector, stack) ← v128FromStack stack
    return .v128 (← insertLane vector index (scalar.truncate 16)) :: stack
  else if subopcode = 28 then
    let (scalar, stack) ← i32FromStack stack
    let (vector, stack) ← v128FromStack stack
    return .v128 (← insertLane vector index scalar) :: stack
  else if subopcode = 30 then
    let (scalar, stack) ← i64FromStack stack
    let (vector, stack) ← v128FromStack stack
    return .v128 (← insertLane vector index scalar) :: stack
  else if subopcode = 32 then
    let (scalar, stack) ← f32FromStack stack
    let (vector, stack) ← v128FromStack stack
    return .v128 (← insertLane vector index scalar) :: stack
  else if subopcode = 34 then
    let (scalar, stack) ← f64FromStack stack
    let (vector, stack) ← v128FromStack stack
    return .v128 (← insertLane vector index scalar) :: stack
  else
    let (vector, stack) ← v128FromStack stack
    if subopcode = 21 then
      return .i32 ((← extractLane 8 vector index).signExtend 32) :: stack
    else if subopcode = 22 then
      return .i32 ((← extractLane 8 vector index).zeroExtend 32) :: stack
    else if subopcode = 24 then
      return .i32 ((← extractLane 16 vector index).signExtend 32) :: stack
    else if subopcode = 25 then
      return .i32 ((← extractLane 16 vector index).zeroExtend 32) :: stack
    else if subopcode = 27 then return .i32 (← extractLane 32 vector index) :: stack
    else if subopcode = 29 then return .i64 (← extractLane 64 vector index) :: stack
    else if subopcode = 31 then return .f32 (← extractLane 32 vector index) :: stack
    else return .f64 (← extractLane 64 vector index) :: stack

/-- The splats `15 ..= 20`. -/
def executeSplat (stack : Stack) (subopcode : Nat) : Run Stack := do
  if subopcode = 15 then
    let (scalar, stack) ← i32FromStack stack
    return .v128 (← splatLanes (scalar.truncate 8)) :: stack
  else if subopcode = 16 then
    let (scalar, stack) ← i32FromStack stack
    return .v128 (← splatLanes (scalar.truncate 16)) :: stack
  else if subopcode = 17 then
    let (scalar, stack) ← i32FromStack stack
    return .v128 (← splatLanes scalar) :: stack
  else if subopcode = 18 then
    let (scalar, stack) ← i64FromStack stack
    return .v128 (← splatLanes scalar) :: stack
  else if subopcode = 19 then
    let (scalar, stack) ← f32FromStack stack
    return .v128 (← splatLanes scalar) :: stack
  else
    let (scalar, stack) ← f64FromStack stack
    return .v128 (← splatLanes scalar) :: stack

/-- The vector arms without an immediate, by the table that lists them. -/
def executeSimdBare (stack : Stack) (subopcode : Nat) : Run Stack := do
  if 15 ≤ subopcode ∧ subopcode ≤ 20 then
    executeSplat stack subopcode
  else
    match simdUnary subopcode, simdBinary subopcode, simdTernary subopcode,
      simdShift subopcode, simdTest subopcode with
    | some operation, _, _, _, _ =>
        let (value, stack) ← v128FromStack stack
        return .v128 (← operation value) :: stack
    | _, some operation, _, _, _ =>
        let (rhs, stack) ← v128FromStack stack
        let (lhs, stack) ← v128FromStack stack
        return .v128 (← operation lhs rhs) :: stack
    | _, _, some operation, _, _ =>
        let (third, stack) ← v128FromStack stack
        let (second, stack) ← v128FromStack stack
        let (first, stack) ← v128FromStack stack
        return .v128 (← operation first second third) :: stack
    | _, _, _, some operation, _ =>
        let (amount, stack) ← i32FromStack stack
        let (value, stack) ← v128FromStack stack
        return .v128 (← operation value amount) :: stack
    | _, _, _, _, some operation =>
        let (value, stack) ← v128FromStack stack
        return .i32 (← operation value) :: stack
    | _, _, _, _, _ => .error (.unsupportedPrefixedOpcode 0xfd subopcode)

def executeSimd (state : PlainState σ) (subopcode : Nat) :
    SimdImmediate → Run (PlainState σ)
  | .memarg arg => executeSimdMemory inst state subopcode arg
  | .memargLane arg index => executeSimdMemoryLane inst state subopcode arg index
  | .bytes value => return { state with stack := .v128 (ofBytes value) :: state.stack }
  | .shuffle lanes => do
      let (rhs, stack) ← v128FromStack state.stack
      let (lhs, stack) ← v128FromStack stack
      return { state with stack := .v128 (← shuffle lanes lhs rhs) :: stack }
  | .lane index => do
      return { state with stack := ← executeSimdLane state.stack subopcode index }
  | .none => do return { state with stack := ← executeSimdBare state.stack subopcode }

/-! ## The dispatch -/

def executeSelect (stack : Stack) : Run Stack := do
  let (condition, stack) ← i32FromStack stack
  let (second, stack) ← pop stack
  let (first, stack) ← pop stack
  if second.valueType ≠ first.valueType then
    .error (.valueTypeMismatch first.valueType second.valueType)
  else
    return (if condition ≠ 0 then first else second) :: stack

def executeSelectTyped (stack : Stack) (expected : ValueType) : Run Stack := do
  let (condition, stack) ← i32FromStack stack
  let (second, stack) ← popTyped stack expected
  let (first, stack) ← popTyped stack expected
  return (if condition ≠ 0 then first else second) :: stack

/-- `get` on the locals or on their types. -/
def localAt {α : Type} (entries : List α) (index : Nat) : Run α :=
  match entries[index]? with
  | some entry => .ok entry
  | none => .error (.localOutOfBounds index)

def setLocal (state : PlainState σ) (index : Nat) (value : Value) :
    Run (PlainState σ) := do
  let _ ← localAt state.locals index
  return { state with locals := state.locals.set index value }

def executeLocalSet (localTypes : List ValueType) (state : PlainState σ) (index : Nat) :
    Run (PlainState σ) := do
  let expected ← localAt localTypes index
  let (value, stack) ← popTyped state.stack expected
  setLocal { state with stack } index value

def executeLocalTee (localTypes : List ValueType) (state : PlainState σ) (index : Nat) :
    Run (PlainState σ) := do
  let expected ← localAt localTypes index
  let (value, _) ← pop state.stack
  checkType value expected
  setLocal state index value

def executeGlobalSet (state : PlainState σ) (index : Nat) : Run (PlainState σ) :=
  match inst.module.globalType index with
  | none => .error (.globalOutOfBounds index)
  | some type =>
      if type.mutable = false then
        .error (.immutableGlobalSet index)
      else do
        let (value, stack) ← popTyped state.stack type.valueType
        let store ← inst.globalSet state.store index value
        return { state with store, stack }

/-- The bulk-memory arms. -/
def executeBulkMemory (state : PlainState σ) : Plain → Run (PlainState σ)
  | .memoryInit data memory => do
      let (length, stack) ← i32FromStack state.stack
      let (source, stack) ← i32FromStack stack
      let (destination, stack) ← popRuntimeBulkMemoryAddress inst stack memory
      let store ← state.store.memoryInit data memory destination source length
      return { state with store, stack }
  | .memoryCopy destinationMemory sourceMemory => do
      let (length, stack) ←
        popRuntimeMemoryCopyLength inst state.stack destinationMemory sourceMemory
      let (source, stack) ← popRuntimeBulkMemoryAddress inst stack sourceMemory
      let (destination, stack) ← popRuntimeBulkMemoryAddress inst stack destinationMemory
      let store ←
        state.store.memoryCopy destinationMemory sourceMemory destination source length
      return { state with store, stack }
  | .memoryFill memory => do
      let (length, stack) ← popRuntimeBulkMemoryAddress inst state.stack memory
      let (value, stack) ← i32FromStack stack
      let (destination, stack) ← popRuntimeBulkMemoryAddress inst stack memory
      let store ← state.store.withMemoryIndexMut memory fun linear =>
        linear.fillBulk destination value length
      return { state with store, stack }
  | _ => .error .panicked

/-- The table arms. -/
def executeTable (state : PlainState σ) : Plain → Run (PlainState σ)
  | .tableGet table => do
      let (element, stack) ← i32FromStack state.stack
      let reference ← inst.tableGet state.store table element.toNat
      return { state with stack := .funcRef reference :: stack }
  | .tableSet table => do
      let (reference, stack) ← funcRefFromStack state.stack
      let (element, stack) ← i32FromStack stack
      let store ← inst.tableSet state.store table element.toNat reference
      return { state with store, stack }
  | .tableInit element table => do
      let (length, stack) ← i32FromStack state.stack
      let (source, stack) ← i32FromStack stack
      let (destination, stack) ← i32FromStack stack
      let store ← inst.tableInit state.store element table destination source length
      return { state with store, stack }
  | .tableCopy destinationTable sourceTable => do
      let (length, stack) ← i32FromStack state.stack
      let (source, stack) ← i32FromStack stack
      let (destination, stack) ← i32FromStack stack
      let store ←
        inst.tableCopy state.store destinationTable sourceTable destination source length
      return { state with store, stack }
  | .tableGrow table => do
      let (delta, stack) ← i32FromStack state.stack
      let (reference, stack) ← funcRefFromStack stack
      let (previous, store) ← inst.tableGrow state.store table delta reference
      return { state with store, stack := .i32 previous :: stack }
  | .tableSize table => do
      let size ← inst.tableSize state.store table
      return { state with stack := .i32 size :: state.stack }
  | .tableFill table => do
      let (length, stack) ← i32FromStack state.stack
      let (value, stack) ← funcRefFromStack stack
      let (destination, stack) ← i32FromStack stack
      let store ← inst.tableFill state.store table destination value length
      return { state with store, stack }
  | _ => .error .panicked

def executePlain (localTypes : List ValueType) (state : PlainState σ) (instr : Plain) :
    Run (PlainState σ) := do
  match instr with
  | .nop => return state
  | .drop =>
      let (_, stack) ← pop state.stack
      return { state with stack }
  | .select => return { state with stack := ← executeSelect state.stack }
  | .selectTyped type => return { state with stack := ← executeSelectTyped state.stack type }
  | .localGet index =>
      return { state with stack := (← localAt state.locals index) :: state.stack }
  | .localSet index => executeLocalSet localTypes state index
  | .localTee index => executeLocalTee localTypes state index
  | .globalGet index =>
      return { state with stack := (← inst.globalGet state.store index) :: state.stack }
  | .globalSet index => executeGlobalSet inst state index
  | .load opcode arg => executeLoad inst state opcode arg
  | .store opcode arg => executeStore inst state opcode arg
  | .memorySize memory => executeMemorySize inst state memory
  | .memoryGrow memory => executeMemoryGrow inst state memory
  | .i32Const value => return { state with stack := .i32 value :: state.stack }
  | .i64Const value => return { state with stack := .i64 value :: state.stack }
  | .f32Const bits => return { state with stack := .f32 bits :: state.stack }
  | .f64Const bits => return { state with stack := .f64 bits :: state.stack }
  | .numeric opcode => return { state with stack := ← executeNumeric state.stack opcode }
  | .refNull => return { state with stack := .funcRef none :: state.stack }
  | .refIsNull =>
      let (reference, stack) ← funcRefFromStack state.stack
      return { state with stack := ofBool reference.isNone :: stack }
  | .refFunc function => return { state with stack := .funcRef (some function) :: state.stack }
  | .truncSat subopcode => return { state with stack := ← truncSat state.stack subopcode }
  | .dataDrop data => return { state with store := ← state.store.dataDrop data }
  | .elemDrop element => return { state with store := ← state.store.elemDrop element }
  | .simd subopcode immediate => executeSimd inst state subopcode immediate
  | .memoryInit .. | .memoryCopy .. | .memoryFill .. => executeBulkMemory inst state instr
  | .tableGet .. | .tableSet .. | .tableInit .. | .tableCopy .. | .tableGrow ..
  | .tableSize .. | .tableFill .. => executeTable inst state instr

end MiniWasm.Runtime
