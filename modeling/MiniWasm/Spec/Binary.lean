import MiniWasm.Library.Leb128
import MiniWasm.Parser.Module
import MiniWasm.Spec.Grammar

/-!
# The binary format of modules

Which byte strings are modules and what each of them says.  The format denotes a syntax tree
that keeps what the decoded module no longer shows: how the items of element segments and
the offsets of data segments were written.
-/

namespace MiniWasm.Spec

open Library

/-! ## Syntax -/

/-- An item of an element segment as it is written. -/
inductive ElementItem where
  | index (function : Nat)
  | refFunc (function : Nat)
  | refNull
  deriving DecidableEq, Repr

/-- The function that an item names; `ref.null` names none. -/
def ElementItem.function : ElementItem → Option Nat
  | .index function => some function
  | .refFunc function => some function
  | .refNull => none

structure ElementSyntax where
  mode : ElementMode
  items : List ElementItem
  deriving DecidableEq, Repr

inductive DataModeSyntax where
  | active (memoryIndex : Nat) (offset : Constant)
  | passive
  deriving DecidableEq, Repr

structure DataSyntax where
  mode : DataModeSyntax
  bytes : List UInt8
  deriving DecidableEq, Repr

structure ModuleSyntax where
  types : List FuncType := []
  imports : List Import := []
  functionTypeIndices : List Nat := []
  tables : List TableType := []
  memories : List MemoryType := []
  globals : List Global := []
  exports : List Export := []
  start : Option Nat := none
  elements : List ElementSyntax := []
  dataCount : Option Nat := none
  code : List FunctionBody := []
  data : List DataSyntax := []

/-- How the decoded module holds an item. -/
def ElementItem.decoded : ElementItem → Nat
  | .index function => function
  | .refFunc function => function
  | .refNull => nullFuncrefIndex

def ElementSyntax.decoded (segment : ElementSyntax) : ElementSegment :=
  { mode := segment.mode, functionIndices := segment.items.map ElementItem.decoded }

/-- The address that an offset stands for. -/
def address : Constant → Nat
  | .i32 value => value.toNat
  | .i64 value => value.toNat
  | _ => 0

def DataModeSyntax.decoded : DataModeSyntax → DataMode
  | .active memoryIndex offset => .active memoryIndex (address offset)
  | .passive => .passive

def DataSyntax.decoded (segment : DataSyntax) : DataSegment :=
  { mode := segment.mode.decoded, bytes := segment.bytes }

def ModuleSyntax.decoded (module : ModuleSyntax) : Module :=
  { types := module.types
    imports := module.imports
    functionTypeIndices := module.functionTypeIndices
    tables := module.tables
    memories := module.memories
    globals := module.globals
    exports := module.exports
    start := module.start
    elements := module.elements.map ElementSyntax.decoded
    dataCount := module.dataCount
    code := module.code
    data := module.data.map DataSyntax.decoded }

namespace Binary

/-! ## Numbers, vectors and names -/

def u32 : Format UInt8 Nat :=
  unsignedLeb 32

def u64 : Format UInt8 Nat :=
  unsignedLeb 64

def i32 : Format UInt8 (BitVec 32) :=
  (signedLeb 32).map (.ofInt 32)

def i64 : Format UInt8 (BitVec 64) :=
  (signedLeb 64).map (.ofInt 64)

/-- The bits of a float, lowest byte first. -/
def bits (width : Nat) : Format UInt8 (BitVec width) :=
  (Format.block (width / 8)).map fun bytes => .ofNat width (littleEndian bytes)

variable {α : Type}

/-- A count and that many items. -/
def vector (item : Format UInt8 α) : Format UInt8 (List α) :=
  u32.bind item.repeated

/-- A length and that many bytes, which are of the format as a whole. -/
def sized (content : Format UInt8 α) : Format UInt8 α :=
  u32.bind content.enclosed

/-- The bytes of a string in UTF-8. -/
def utf8 : Format UInt8 String :=
  fun used name => used = name.toUTF8.data.toList

def name : Format UInt8 String :=
  sized utf8

/-! ## Types -/

def valueType : Format UInt8 ValueType :=
  .oneOf [(0x7f, .i32), (0x7e, .i64), (0x7d, .f32), (0x7c, .f64), (0x7b, .v128), (0x70, .funcRef)]

def functionType : Format UInt8 FuncType :=
  (Format.symbol 0x60).bind fun _ => (vector valueType).bind fun params =>
    (vector valueType).map fun results => { params, results }

def limits : Format UInt8 Limits :=
  .tagged fun
  | 0x00 => u32.map fun min => { min, max := none }
  | 0x01 => u32.bind fun min => u32.map fun max => { min, max := some max }
  | _ => .never

def tableType : Format UInt8 TableType :=
  (Format.symbol 0x70).bind fun _ => limits.map fun limits => { limits }

def memoryLimits : Format UInt8 MemoryLimits :=
  .tagged fun
  | 0x00 => u32.map fun min => { min, max := none, memory64 := false }
  | 0x01 => u32.bind fun min => u32.map fun max => { min, max := some max, memory64 := false }
  | 0x04 => u64.map fun min => { min, max := none, memory64 := true }
  | 0x05 => u64.bind fun min => u64.map fun max => { min, max := some max, memory64 := true }
  | _ => .never

def memoryType : Format UInt8 MemoryType :=
  memoryLimits.map fun limits => { limits }

def mutability : Format UInt8 Bool :=
  .oneOf [(0, false), (1, true)]

def globalType : Format UInt8 GlobalType :=
  valueType.bind fun valueType => mutability.map fun mutable => { valueType, mutable }

/-! ## Constant expressions -/

def constant : Format UInt8 Constant :=
  .tagged fun
  | 0x41 => i32.map .i32
  | 0x42 => i64.map .i64
  | 0x43 => (bits 32).map .f32
  | 0x44 => (bits 64).map .f64
  | 0xd0 => (Format.symbol 0x70).map fun _ => .funcRef none
  | 0xd2 => u32.map fun function => .funcRef (some function)
  | _ => .never

/-- A constant and the byte that ends it. -/
def expression : Format UInt8 Constant :=
  constant.bind fun value => (Format.symbol 0x0b).map fun _ => value

/-- An expression of a type. -/
def expressionOf (type : ValueType) : Format UInt8 Constant :=
  expression.filter fun value => value.valueType = type

/-- The offset of an element segment. -/
def offset : Format UInt8 (BitVec 32) :=
  fun used value => expression used (.i32 value)

/-! ## Entries of the sections -/

def importDesc : Format UInt8 ImportDesc :=
  .tagged fun
  | 0x00 => u32.map .function
  | 0x01 => tableType.map .table
  | 0x02 => memoryType.map .memory
  | 0x03 => globalType.map .global
  | _ => .never

def importEntry : Format UInt8 Import :=
  name.bind fun module => name.bind fun name => importDesc.map fun desc => { module, name, desc }

def globalEntry : Format UInt8 Global :=
  globalType.bind fun type => (expressionOf type.valueType).map fun init => { type, init }

def exportKind : Format UInt8 ExportKind :=
  .oneOf [(0, .function), (1, .table), (2, .memory), (3, .global)]

def exportEntry : Format UInt8 Export :=
  name.bind fun name => exportKind.bind fun kind => u32.map fun index => { name, kind, index }

/-- An item that is written as an expression. -/
def itemExpression : Format UInt8 ElementItem :=
  expression.bind fun
  | .funcRef (some function) => .denotes (.refFunc function)
  | .funcRef none => .denotes .refNull
  | _ => .never

/-- The items of an element segment in a mode. -/
def elementIndices (mode : ElementMode) : Format UInt8 ElementSyntax :=
  (vector (u32.map .index)).map fun items => { mode, items }

def elementExpressions (mode : ElementMode) : Format UInt8 ElementSyntax :=
  (vector itemExpression).map fun items => { mode, items }

def elementEntry : Format UInt8 ElementSyntax :=
  u32.bind fun
  | 0 => offset.bind fun offset => elementIndices (.active 0 offset)
  | 1 => (Format.symbol 0x00).bind fun _ => elementIndices .passive
  | 2 => u32.bind fun table => offset.bind fun offset => (Format.symbol 0x00).bind fun _ =>
      elementIndices (.active table offset)
  | 3 => (Format.symbol 0x00).bind fun _ => elementIndices .declarative
  | 4 => offset.bind fun offset => elementExpressions (.active 0 offset)
  | 5 => (Format.symbol 0x70).bind fun _ => elementExpressions .passive
  | 6 => u32.bind fun table => offset.bind fun offset => (Format.symbol 0x70).bind fun _ =>
      elementExpressions (.active table offset)
  | 7 => (Format.symbol 0x70).bind fun _ => elementExpressions .declarative
  | _ => .never

def localGroup : Format UInt8 (Nat × ValueType) :=
  u32.bind fun count => valueType.map fun type => (count, type)

/-- Local declarations and code that ends with the byte `end`. -/
def functionBody : Format UInt8 FunctionBody :=
  (vector localGroup).bind fun locals used body =>
    used.getLast? = some 0x0b ∧ body = { locals, code := used }

/-- Whether the offset has the address type of the memory; any integer is an offset in a
memory that there is not. -/
def HasAddressType : Option MemoryType → Constant → Prop
  | some memory, value => value.valueType = if memory.limits.memory64 then .i64 else .i32
  | none, value => value.valueType = .i32 ∨ value.valueType = .i64

/-- The mode of a data segment with the flags. -/
def dataMode (memoryOf : Nat → Option MemoryType) (flags : Nat) : Format UInt8 DataModeSyntax :=
  match flags with
  | 0 => (expression.filter (HasAddressType (memoryOf 0))).map (.active 0)
  | 1 => .denotes .passive
  | 2 => u32.bind fun memory =>
      (expression.filter (HasAddressType (memoryOf memory))).map (.active memory)
  | _ => .never

def bytes : Format UInt8 (List UInt8) :=
  sized fun used value => value = used

def dataEntry (memoryOf : Nat → Option MemoryType) : Format UInt8 DataSyntax :=
  u32.bind fun flags => (dataMode memoryOf flags).bind fun mode =>
    bytes.map fun bytes => { mode, bytes }

/-! ## Sections and modules -/

/-- The order in which sections occur; the data count comes before the code. -/
def order : List UInt8 :=
  [1, 2, 3, 4, 5, 6, 7, 8, 9, 12, 10, 11]

/-- What the payload of a section adds to the module. -/
def content (id : UInt8) (module : ModuleSyntax) : Format UInt8 ModuleSyntax :=
  match id with
  | 1 => (vector functionType).map fun types => { module with types := module.types ++ types }
  | 2 => (vector importEntry).map fun imports =>
      { module with imports := module.imports ++ imports }
  | 3 => (vector u32).map fun indices =>
      { module with functionTypeIndices := module.functionTypeIndices ++ indices }
  | 4 => (vector tableType).map fun tables => { module with tables := module.tables ++ tables }
  | 5 => (vector memoryType).map fun memories =>
      { module with memories := module.memories ++ memories }
  | 6 => (vector globalEntry).map fun globals =>
      { module with globals := module.globals ++ globals }
  | 7 => (vector exportEntry).map fun entries =>
      { module with exports := module.exports ++ entries }
  | 8 => u32.map fun start => { module with start := some start }
  | 9 => (vector elementEntry).map fun elements =>
      { module with elements := module.elements ++ elements }
  | 10 => (vector (sized functionBody)).map fun code => { module with code := module.code ++ code }
  | 11 => (vector (dataEntry module.decoded.memoryType)).map fun data =>
      { module with data := module.data ++ data }
  | 12 => u32.map fun count => { module with dataCount := some count }
  | _ => .never

/-- A name and any bytes after it. -/
def customContent : Format UInt8 String :=
  fun used label => ∃ head tail, used = head ++ tail ∧ name head label

/-- Sections whose ids are among the allowed ones and in their order, with custom sections
anywhere between them. -/
inductive Sections : List UInt8 → ModuleSyntax → Format UInt8 ModuleSyntax where
  | done {allowed : List UInt8} {module : ModuleSyntax} : Sections allowed module [] module
  | custom {allowed : List UInt8} {module result : ModuleSyntax} {payload tail : List UInt8}
      {label : String} (named : sized customContent payload label)
      (rest : Sections allowed module tail result) :
      Sections allowed module (0 :: payload ++ tail) result
  | standard {before after : List UInt8} {id : UInt8} {module next result : ModuleSyntax}
      {payload tail : List UInt8} (present : sized (content id module) payload next)
      (rest : Sections after next tail result) :
      Sections (before ++ id :: after) module (id :: payload ++ tail) result

/-- The two words with which every module starts. -/
def preamble : List UInt8 :=
  [0x00, 0x61, 0x73, 0x6d, 0x01, 0x00, 0x00, 0x00]

/-- What the number of entries of different sections must agree on. -/
structure CountsAgree (module : ModuleSyntax) : Prop where
  code : module.functionTypeIndices.length = module.code.length
  data : ∀ count ∈ module.dataCount, count = module.data.length

/-- The format of modules. -/
def module : Format UInt8 ModuleSyntax :=
  fun used result => ∃ sections, used = preamble ++ sections ∧
    Sections order {} sections result ∧ CountsAgree result

end Binary

end MiniWasm.Spec
