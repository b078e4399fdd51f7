import MiniWasm.Validator.Operands

/-!
# Instructions with a fixed stack effect

Most arms of the code checker read their immediates, check the indices among
them, pop operands of known types and push results of known types.  This module
holds the opcode tables of those arms and the part that runs before the first
pop.
-/

namespace MiniWasm.Validator

/-- Operand types in the order in which they are popped, and result types with
the last pushed first. -/
structure Effect where
  pops : List ValueType
  pushes : List ValueType
  deriving DecidableEq, Repr

def unary (input output : ValueType) : Effect :=
  ⟨[input], [output]⟩

def binarySame (type : ValueType) : Effect :=
  ⟨[type, type], [type]⟩

def binaryCompare (type : ValueType) : Effect :=
  ⟨[type, type], [.i32]⟩

def numericEffect (opcode : Nat) : Option Effect :=
  if opcode = 0x45 then some (unary .i32 .i32)
  else if 0x46 ≤ opcode ∧ opcode ≤ 0x4f then some (binaryCompare .i32)
  else if opcode = 0x50 then some (unary .i64 .i32)
  else if 0x51 ≤ opcode ∧ opcode ≤ 0x5a then some (binaryCompare .i64)
  else if 0x5b ≤ opcode ∧ opcode ≤ 0x60 then some (binaryCompare .f32)
  else if 0x61 ≤ opcode ∧ opcode ≤ 0x66 then some (binaryCompare .f64)
  else if 0x67 ≤ opcode ∧ opcode ≤ 0x69 then some (unary .i32 .i32)
  else if 0x6a ≤ opcode ∧ opcode ≤ 0x78 then some (binarySame .i32)
  else if 0x79 ≤ opcode ∧ opcode ≤ 0x7b then some (unary .i64 .i64)
  else if 0x7c ≤ opcode ∧ opcode ≤ 0x8a then some (binarySame .i64)
  else if 0x8b ≤ opcode ∧ opcode ≤ 0x91 then some (unary .f32 .f32)
  else if 0x92 ≤ opcode ∧ opcode ≤ 0x98 then some (binarySame .f32)
  else if 0x99 ≤ opcode ∧ opcode ≤ 0x9f then some (unary .f64 .f64)
  else if 0xa0 ≤ opcode ∧ opcode ≤ 0xa6 then some (binarySame .f64)
  else if opcode = 0xa7 then some (unary .i64 .i32)
  else if opcode = 0xa8 ∨ opcode = 0xa9 then some (unary .f32 .i32)
  else if opcode = 0xaa ∨ opcode = 0xab then some (unary .f64 .i32)
  else if opcode = 0xac ∨ opcode = 0xad then some (unary .i32 .i64)
  else if opcode = 0xae ∨ opcode = 0xaf then some (unary .f32 .i64)
  else if opcode = 0xb0 ∨ opcode = 0xb1 then some (unary .f64 .i64)
  else if opcode = 0xb2 ∨ opcode = 0xb3 then some (unary .i32 .f32)
  else if opcode = 0xb4 ∨ opcode = 0xb5 then some (unary .i64 .f32)
  else if opcode = 0xb6 then some (unary .f64 .f32)
  else if opcode = 0xb7 ∨ opcode = 0xb8 then some (unary .i32 .f64)
  else if opcode = 0xb9 ∨ opcode = 0xba then some (unary .i64 .f64)
  else if opcode = 0xbb then some (unary .f32 .f64)
  else if opcode = 0xbc then some (unary .f32 .i32)
  else if opcode = 0xbd then some (unary .f64 .i64)
  else if opcode = 0xbe then some (unary .i32 .f32)
  else if opcode = 0xbf then some (unary .i64 .f64)
  else if opcode = 0xc0 ∨ opcode = 0xc1 then some (unary .i32 .i32)
  else if 0xc2 ≤ opcode ∧ opcode ≤ 0xc4 then some (unary .i64 .i64)
  else none

/-- The saturating truncations `0 ..= 7` behind the prefix `0xfc`. -/
def truncSatEffect (subopcode : Nat) : Option Effect :=
  if subopcode = 0 ∨ subopcode = 1 then some (unary .f32 .i32)
  else if subopcode = 2 ∨ subopcode = 3 then some (unary .f64 .i32)
  else if subopcode = 4 ∨ subopcode = 5 then some (unary .f32 .i64)
  else if subopcode = 6 ∨ subopcode = 7 then some (unary .f64 .i64)
  else none

def naturalAlignment (opcode : Nat) : Nat :=
  if opcode ∈ [0x29, 0x2b, 0x37, 0x39] then 3
  else if opcode ∈ [0x28, 0x2a, 0x34, 0x35, 0x36, 0x38, 0x3e] then 2
  else if opcode ∈ [0x2e, 0x2f, 0x32, 0x33, 0x3b, 0x3d] then 1
  else 0

/-- Result type of the loads `0x28 ..= 0x35`. -/
def loadType (opcode : Nat) : ValueType :=
  if opcode = 0x28 ∨ 0x2c ≤ opcode ∧ opcode ≤ 0x2f then .i32
  else if opcode = 0x29 ∨ 0x30 ≤ opcode ∧ opcode ≤ 0x35 then .i64
  else if opcode = 0x2a then .f32
  else .f64

/-- Type of the value written by the stores `0x36 ..= 0x3e`. -/
def storeType (opcode : Nat) : ValueType :=
  if opcode = 0x36 ∨ opcode = 0x3a ∨ opcode = 0x3b then .i32
  else if opcode = 0x37 ∨ 0x3c ≤ opcode ∧ opcode ≤ 0x3e then .i64
  else if opcode = 0x38 then .f32
  else .f64

/-- An operand of a vector instruction: of a fixed type, or an address into the
memory that its memory argument names. -/
inductive SimdOperand where
  | address
  | value (type : ValueType)
  deriving DecidableEq, Repr

def SimdOperand.resolve (addressType : ValueType) : SimdOperand → ValueType
  | .address => addressType
  | .value type => type

/-- One arm behind the prefix `0xfd`. -/
structure SimdArm where
  shape : SimdShape
  maximumAlignment : Nat
  pops : List SimdOperand
  pushes : List ValueType
  deriving DecidableEq, Repr

def simdArm (subopcode : Nat) : Option SimdArm :=
  let v : SimdOperand := .value .v128
  let i : SimdOperand := .value .i32
  if subopcode = 0 then some ⟨.memarg, 4, [.address], [.v128]⟩
  else if 1 ≤ subopcode ∧ subopcode ≤ 6 then some ⟨.memarg, 3, [.address], [.v128]⟩
  else if subopcode = 7 then some ⟨.memarg, 0, [.address], [.v128]⟩
  else if subopcode = 8 then some ⟨.memarg, 1, [.address], [.v128]⟩
  else if subopcode = 9 then some ⟨.memarg, 2, [.address], [.v128]⟩
  else if subopcode = 10 then some ⟨.memarg, 3, [.address], [.v128]⟩
  else if subopcode = 11 then some ⟨.memarg, 4, [v, .address], []⟩
  else if subopcode = 84 then some ⟨.memargLane 16, 0, [v, .address], [.v128]⟩
  else if subopcode = 85 then some ⟨.memargLane 8, 1, [v, .address], [.v128]⟩
  else if subopcode = 86 then some ⟨.memargLane 4, 2, [v, .address], [.v128]⟩
  else if subopcode = 87 then some ⟨.memargLane 2, 3, [v, .address], [.v128]⟩
  else if subopcode = 88 then some ⟨.memargLane 16, 0, [v, .address], []⟩
  else if subopcode = 89 then some ⟨.memargLane 8, 1, [v, .address], []⟩
  else if subopcode = 90 then some ⟨.memargLane 4, 2, [v, .address], []⟩
  else if subopcode = 91 then some ⟨.memargLane 2, 3, [v, .address], []⟩
  else if subopcode = 92 ∨ subopcode = 93 then
    some ⟨.memarg, subopcode - 90, [.address], [.v128]⟩
  else if subopcode = 94 ∨ subopcode = 95 then some ⟨.none, 0, [v], [.v128]⟩
  else if subopcode = 12 then some ⟨.bytes, 0, [], [.v128]⟩
  else if subopcode = 13 then some ⟨.shuffle, 0, [v, v], [.v128]⟩
  else if 257 ≤ subopcode ∧ subopcode ≤ 260 then some ⟨.none, 0, [v], [.v128]⟩
  else if 261 ≤ subopcode ∧ subopcode ≤ 268 then some ⟨.none, 0, [v, v, v], [.v128]⟩
  else if 269 ≤ subopcode ∧ subopcode ≤ 274 then some ⟨.none, 0, [v, v], [.v128]⟩
  else if subopcode = 275 then some ⟨.none, 0, [v, v, v], [.v128]⟩
  else if subopcode = 14 ∨ subopcode = 256 then some ⟨.none, 0, [v, v], [.v128]⟩
  else if 15 ≤ subopcode ∧ subopcode ≤ 17 then some ⟨.none, 0, [i], [.v128]⟩
  else if subopcode = 18 then some ⟨.none, 0, [.value .i64], [.v128]⟩
  else if subopcode = 19 then some ⟨.none, 0, [.value .f32], [.v128]⟩
  else if subopcode = 20 then some ⟨.none, 0, [.value .f64], [.v128]⟩
  else if subopcode = 21 ∨ subopcode = 22 then some ⟨.lane 16, 0, [v], [.i32]⟩
  else if subopcode = 23 then some ⟨.lane 16, 0, [i, v], [.v128]⟩
  else if subopcode = 24 ∨ subopcode = 25 then some ⟨.lane 8, 0, [v], [.i32]⟩
  else if subopcode = 26 then some ⟨.lane 8, 0, [i, v], [.v128]⟩
  else if subopcode = 27 then some ⟨.lane 4, 0, [v], [.i32]⟩
  else if subopcode = 28 then some ⟨.lane 4, 0, [i, v], [.v128]⟩
  else if subopcode = 29 then some ⟨.lane 2, 0, [v], [.i64]⟩
  else if subopcode = 31 then some ⟨.lane 4, 0, [v], [.f32]⟩
  else if subopcode = 33 then some ⟨.lane 2, 0, [v], [.f64]⟩
  else if subopcode = 30 then some ⟨.lane 2, 0, [.value .i64, v], [.v128]⟩
  else if subopcode = 32 then some ⟨.lane 4, 0, [.value .f32, v], [.v128]⟩
  else if subopcode = 34 then some ⟨.lane 2, 0, [.value .f64, v], [.v128]⟩
  else if 35 ≤ subopcode ∧ subopcode ≤ 64 then some ⟨.none, 0, [v, v], [.v128]⟩
  else if subopcode = 77 then some ⟨.none, 0, [v], [.v128]⟩
  else if 78 ≤ subopcode ∧ subopcode ≤ 81 then some ⟨.none, 0, [v, v], [.v128]⟩
  else if subopcode = 82 then some ⟨.none, 0, [v, v, v], [.v128]⟩
  else if subopcode ∈ [96, 97, 98, 103, 104, 105, 106, 116, 117, 122, 124, 125, 126,
      127, 128, 148, 129, 160, 161, 192, 193, 224, 225, 227, 236, 237, 239, 248, 249,
      250, 251, 252, 253, 254, 255] then
    some ⟨.none, 0, [v], [.v128]⟩
  else if subopcode ∈ [83, 99, 100, 131, 132, 163, 164, 195, 196] then
    some ⟨.none, 0, [v], [.i32]⟩
  else if subopcode ∈ [107, 108, 109, 171, 172, 173, 203, 204, 205, 139, 140, 141] then
    some ⟨.none, 0, [i, v], [.v128]⟩
  else if subopcode ∈ [135, 136, 137, 138, 167, 168, 169, 170, 199, 200, 201, 202] then
    some ⟨.none, 0, [v], [.v128]⟩
  else if subopcode ∈ [101, 102, 110, 111, 112, 113, 114, 115, 118, 119, 120, 121, 123,
      133, 134, 130, 142, 143, 144, 145, 146, 147, 149, 150, 151, 152, 153, 155, 156,
      157, 158, 159, 174, 177, 181, 182, 183, 184, 185, 186, 188, 189, 190, 191, 206,
      209, 213, 214, 215, 216, 217, 218, 219, 220, 221, 222, 223, 228, 229, 230, 231,
      232, 233, 234, 235, 240, 241, 242, 243, 244, 245, 246, 247] then
    some ⟨.none, 0, [v, v], [.v128]⟩
  else none

variable (cx : CodeContext) (offset pc : Nat)

/-- Address type of a memory whose index was checked. -/
def addressType (module : Module) (memory : Nat) : Checked ValueType := do
  let memoryType ← memoryTypeAt module memory
  return if memoryType.limits.memory64 then .i64 else .i32

def readTable : Checked (Nat × Nat) := do
  let (table, pc) ← readU32 cx offset pc
  if cx.module.tableCount ≤ table then
    .error (.tableIndexOutOfBounds cx.function offset table)
  else
    return (table, pc)

def readData : Checked Nat := do
  if cx.module.dataCount.isNone then
    .error (.dataCountRequired cx.function offset)
  else
    let (data, pc) ← readU32 cx offset pc
    if cx.module.data.length ≤ data then
      .error (.dataIndexOutOfBounds cx.function offset data)
    else
      return pc

def readElement : Checked Nat := do
  let (element, pc) ← readU32 cx offset pc
  if cx.module.elements.length ≤ element then
    .error (.elementIndexOutOfBounds cx.function offset element)
  else
    return pc

def readGlobal : Checked (Nat × GlobalType × Nat) := do
  let (index, pc) ← readU32 cx offset pc
  match cx.module.globalType index with
  | some type => return (index, type, pc)
  | none => .error (.globalIndexOutOfBounds cx.function offset index)

/-- Type of a local whose index was checked. -/
def localType (index : Nat) : Checked ValueType :=
  match cx.localTypes[index]? with
  | some type => .ok type
  | none => .error .panicked

def isDeclaredFunctionReference (module : Module) (target : Nat) : Bool :=
  module.exports.any (fun entry => entry.kind = .function ∧ entry.index = target) ||
  module.elements.any (fun element => element.functionIndices.contains target) ||
  module.globals.any (fun global => global.init = .funcRef (some target))

/-- Read the immediate of a vector instruction.  Returns the address type of the
memory that it names, if it names one. -/
def readSimdImmediate (arm : SimdArm) : Checked (ValueType × Nat) :=
  match arm.shape with
  | .none => .ok (.i32, pc)
  | .memarg => do
      ensureMemory cx offset
      let (arg, pc) ← readMemarg cx offset pc arm.maximumAlignment
      return (← addressType cx.module arg.memory, pc)
  | .memargLane limit => do
      ensureMemory cx offset
      let (arg, pc) ← readMemarg cx offset pc arm.maximumAlignment
      let pc ← readLane cx offset pc limit
      return (← addressType cx.module arg.memory, pc)
  | .bytes => do return (.i32, ← skipFixed cx offset pc 16)
  | .shuffle => do return (.i32, ← readShuffle cx offset pc)
  | .lane limit => do return (.i32, ← readLane cx offset pc limit)

/-- The arms behind the prefix `0xfd`. -/
def readSimd : Checked (Effect × Nat) := do
  let (subopcode, pc) ← readU32 cx offset pc
  match simdArm subopcode with
  | none => .error (.unsupportedPrefixedOpcode cx.function offset 0xfd subopcode)
  | some arm =>
      let (addressType, pc) ← readSimdImmediate cx offset pc arm
      return (⟨arm.pops.map (·.resolve addressType), arm.pushes⟩, pc)

/-- The bulk-memory and table arms behind the prefix `0xfc`. -/
def readBulk (subopcode : Nat) : Checked (Effect × Nat) := do
  if subopcode = 8 then
    let pc ← readData cx offset pc
    let (memory, pc) ← readMemoryIndex cx offset pc
    let address ← addressType cx.module memory
    return (⟨[.i32, .i32, address], []⟩, pc)
  else if subopcode = 9 then
    let pc ← readData cx offset pc
    return (⟨[], []⟩, pc)
  else if subopcode = 10 then
    let (destination, pc) ← readMemoryIndex cx offset pc
    let (source, pc) ← readMemoryIndex cx offset pc
    let destinationType ← addressType cx.module destination
    let sourceType ← addressType cx.module source
    let lengthType :=
      if destinationType = .i64 ∧ sourceType = .i64 then .i64 else .i32
    return (⟨[lengthType, sourceType, destinationType], []⟩, pc)
  else if subopcode = 11 then
    let (memory, pc) ← readMemoryIndex cx offset pc
    let address ← addressType cx.module memory
    return (⟨[address, .i32, address], []⟩, pc)
  else if subopcode = 12 then
    let pc ← readElement cx offset pc
    let (_, pc) ← readTable cx offset pc
    return (⟨[.i32, .i32, .i32], []⟩, pc)
  else if subopcode = 13 then
    let pc ← readElement cx offset pc
    return (⟨[], []⟩, pc)
  else if subopcode = 14 then
    let (_, pc) ← readTable cx offset pc
    let (_, pc) ← readTable cx offset pc
    return (⟨[.i32, .i32, .i32], []⟩, pc)
  else if subopcode = 15 then
    let (_, pc) ← readTable cx offset pc
    return (⟨[.i32, .funcRef], [.i32]⟩, pc)
  else if subopcode = 16 then
    let (_, pc) ← readTable cx offset pc
    return (⟨[], [.i32]⟩, pc)
  else if subopcode = 17 then
    let (_, pc) ← readTable cx offset pc
    return (⟨[.i32, .funcRef, .i32], []⟩, pc)
  else
    .error (.unsupportedPrefixedOpcode cx.function offset 0xfc subopcode)

/-- The arms behind the prefix `0xfc`. -/
def readMisc : Checked (Effect × Nat) := do
  let (subopcode, pc) ← readU32 cx offset pc
  match truncSatEffect subopcode with
  | some effect => return (effect, pc)
  | none => readBulk cx offset pc subopcode

/-- Everything that an arm with a fixed stack effect does before its first
pop: read and check the immediates, and look up the operand types. -/
def readEffect (opcode : Nat) : Checked (Effect × Nat) := do
  if opcode = 0x01 then
    return (⟨[], []⟩, pc)
  else if opcode = 0x1c then
    let (type, pc) ← readTypedSelectType cx offset pc
    return (⟨[.i32, type, type], [type]⟩, pc)
  else if opcode = 0x20 then
    let (index, pc) ← readLocal cx offset pc
    return (⟨[], [← localType cx index]⟩, pc)
  else if opcode = 0x21 then
    let (index, pc) ← readLocal cx offset pc
    return (⟨[← localType cx index], []⟩, pc)
  else if opcode = 0x23 then
    let (_, type, pc) ← readGlobal cx offset pc
    return (⟨[], [type.valueType]⟩, pc)
  else if opcode = 0x24 then
    let (index, type, pc) ← readGlobal cx offset pc
    if type.mutable then
      return (⟨[type.valueType], []⟩, pc)
    else
      .error (.immutableGlobalSet cx.function offset index)
  else if opcode = 0x25 then
    let (_, pc) ← readTable cx offset pc
    return (⟨[.i32], [.funcRef]⟩, pc)
  else if opcode = 0x26 then
    let (_, pc) ← readTable cx offset pc
    return (⟨[.funcRef, .i32], []⟩, pc)
  else if 0x28 ≤ opcode ∧ opcode ≤ 0x35 then
    ensureMemory cx offset
    let (arg, pc) ← readMemarg cx offset pc (naturalAlignment opcode)
    let address ← addressType cx.module arg.memory
    return (⟨[address], [loadType opcode]⟩, pc)
  else if 0x36 ≤ opcode ∧ opcode ≤ 0x3e then
    ensureMemory cx offset
    let (arg, pc) ← readMemarg cx offset pc (naturalAlignment opcode)
    let address ← addressType cx.module arg.memory
    return (⟨[storeType opcode, address], []⟩, pc)
  else if opcode = 0x3f then
    let (memory, pc) ← readMemoryIndex cx offset pc
    return (⟨[], [← addressType cx.module memory]⟩, pc)
  else if opcode = 0x40 then
    let (memory, pc) ← readMemoryIndex cx offset pc
    let address ← addressType cx.module memory
    return (⟨[address], [address]⟩, pc)
  else if opcode = 0x41 then
    return (⟨[], [.i32]⟩, ← skipI32 cx offset pc)
  else if opcode = 0x42 then
    return (⟨[], [.i64]⟩, ← skipI64 cx offset pc)
  else if opcode = 0x43 then
    return (⟨[], [.f32]⟩, ← skipFixed cx offset pc 4)
  else if opcode = 0x44 then
    return (⟨[], [.f64]⟩, ← skipFixed cx offset pc 8)
  else if 0x45 ≤ opcode ∧ opcode ≤ 0xc4 then
    match numericEffect opcode with
    | some effect => return (effect, pc)
    | none => .error (.unsupportedOpcode cx.function offset opcode)
  else if opcode = 0xd0 then
    let (referenceType, pc) ← readByte cx offset pc
    if referenceType ≠ 0x70 then
      malformed cx offset
    else
      return (⟨[], [.funcRef]⟩, pc)
  else if opcode = 0xd1 then
    return (unary .funcRef .i32, pc)
  else if opcode = 0xd2 then
    let (target, pc) ← readU32 cx offset pc
    if (cx.module.functionType target).isNone then
      .error (.callTargetOutOfBounds cx.function offset target)
    else if !isDeclaredFunctionReference cx.module target then
      .error (.undeclaredFunctionReference cx.function offset target)
    else
      return (⟨[], [.funcRef]⟩, pc)
  else if opcode = 0xfd then
    readSimd cx offset pc
  else if opcode = 0xfc then
    readMisc cx offset pc
  else
    .error (.unsupportedOpcode cx.function offset opcode)

end MiniWasm.Validator
