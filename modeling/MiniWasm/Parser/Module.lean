import Mathlib.Algebra.Group.Nat.Defs
import Mathlib.Data.List.Basic

/-!
# Decoded modules

The data types that the binary parser produces and that the validator and the
interpreter read: value types, signatures, imports and exports, segments,
function bodies and the module record with its index-space lookups.

Unsigned 32-bit indices are natural numbers; the decoders that produce them
bound them below `2 ^ 32`.
-/

namespace MiniWasm

inductive ValueType where
  | i32
  | i64
  | f32
  | f64
  | v128
  | funcRef
  deriving DecidableEq, Repr, Inhabited

/-- Initial value of a global.  Floats are carried as bit patterns. -/
inductive Constant where
  | i32 (value : BitVec 32)
  | i64 (value : BitVec 64)
  | f32 (bits : BitVec 32)
  | f64 (bits : BitVec 64)
  | funcRef (reference : Option Nat)
  deriving DecidableEq, Repr

def Constant.valueType : Constant → ValueType
  | .i32 _ => .i32
  | .i64 _ => .i64
  | .f32 _ => .f32
  | .f64 _ => .f64
  | .funcRef _ => .funcRef

structure FuncType where
  params : List ValueType
  results : List ValueType
  deriving DecidableEq, Repr, Inhabited

structure Limits where
  min : Nat
  max : Option Nat
  deriving DecidableEq, Repr

structure TableType where
  limits : Limits
  deriving DecidableEq, Repr

structure MemoryLimits where
  min : Nat
  max : Option Nat
  memory64 : Bool
  deriving DecidableEq, Repr

structure MemoryType where
  limits : MemoryLimits
  deriving DecidableEq, Repr

structure GlobalType where
  valueType : ValueType
  mutable : Bool
  deriving DecidableEq, Repr

inductive ImportDesc where
  | function (typeIndex : Nat)
  | table (type : TableType)
  | memory (type : MemoryType)
  | global (type : GlobalType)
  deriving DecidableEq, Repr

structure Import where
  module : String
  name : String
  desc : ImportDesc
  deriving DecidableEq, Repr

namespace Import

def functionTypeIndex (entry : Import) : Option Nat :=
  match entry.desc with
  | .function typeIndex => some typeIndex
  | _ => none

def tableType (entry : Import) : Option TableType :=
  match entry.desc with
  | .table type => some type
  | _ => none

def memoryType (entry : Import) : Option MemoryType :=
  match entry.desc with
  | .memory type => some type
  | _ => none

def globalType (entry : Import) : Option GlobalType :=
  match entry.desc with
  | .global type => some type
  | _ => none

/-- The key under which a host registry is searched for this import. -/
def key (entry : Import) : String × String :=
  (entry.module, entry.name)

end Import

structure Global where
  type : GlobalType
  init : Constant
  deriving DecidableEq, Repr

inductive ExportKind where
  | function
  | table
  | memory
  | global
  deriving DecidableEq, Repr

structure Export where
  name : String
  kind : ExportKind
  index : Nat
  deriving DecidableEq, Repr

inductive ElementMode where
  | active (tableIndex : Nat) (offset : BitVec 32)
  | passive
  | declarative
  deriving DecidableEq, Repr

/-- Encodes `ref.null` among the function indices of an element segment. -/
def nullFuncrefIndex : Nat :=
  2 ^ 32 - 1

structure ElementSegment where
  mode : ElementMode
  functionIndices : List Nat
  deriving DecidableEq, Repr

structure FunctionBody where
  /-- Local declarations encoded as `(count, type)` groups. -/
  locals : List (Nat × ValueType)
  /-- Raw instruction bytes, including the final `end`. -/
  code : List UInt8
  deriving DecidableEq, Repr

inductive DataMode where
  /-- The offset is already normalized to its unsigned address bits. -/
  | active (memoryIndex : Nat) (offset : Nat)
  | passive
  deriving DecidableEq, Repr

structure DataSegment where
  mode : DataMode
  bytes : List UInt8
  deriving DecidableEq, Repr

structure Module where
  types : List FuncType := []
  imports : List Import := []
  /-- Type indices of the defined functions only. -/
  functionTypeIndices : List Nat := []
  tables : List TableType := []
  memories : List MemoryType := []
  globals : List Global := []
  exports : List Export := []
  start : Option Nat := none
  elements : List ElementSegment := []
  code : List FunctionBody := []
  data : List DataSegment := []
  dataCount : Option Nat := none
  deriving DecidableEq, Repr

namespace Module

variable (module : Module)

def functionImports : List Import :=
  module.imports.filter (·.functionTypeIndex.isSome)

def functionImportCount : Nat :=
  module.functionImports.length

def importedTables : List TableType :=
  module.imports.filterMap Import.tableType

def importedMemories : List MemoryType :=
  module.imports.filterMap Import.memoryType

def importedGlobals : List GlobalType :=
  module.imports.filterMap Import.globalType

def functionImport (index : Nat) : Option Import :=
  module.functionImports[index]?

def functionImportTypeIndex (index : Nat) : Option Nat :=
  (module.functionImport index).bind Import.functionTypeIndex

def functionCount : Nat :=
  module.functionImportCount + module.functionTypeIndices.length

def tableCount : Nat :=
  module.importedTables.length + module.tables.length

def memoryCount : Nat :=
  module.importedMemories.length + module.memories.length

def globalCount : Nat :=
  module.importedGlobals.length + module.globals.length

/-- An entry of an index space in which the imports come first. -/
def lookup {α : Type} (imported defined : List α) (index : Nat) : Option α :=
  if index < imported.length then
    imported[index]?
  else
    defined[index - imported.length]?

def tableType (index : Nat) : Option TableType :=
  lookup module.importedTables module.tables index

def memoryType (index : Nat) : Option MemoryType :=
  lookup module.importedMemories module.memories index

def globalType (index : Nat) : Option GlobalType :=
  lookup module.importedGlobals (module.globals.map Global.type) index

/-- Signature of an imported or defined function, as the validator resolves it. -/
def functionType (function : Nat) : Option FuncType :=
  let imported := module.functionImportCount
  let typeIndex :=
    if function < imported then
      module.functionImportTypeIndex function
    else
      module.functionTypeIndices[function - imported]?
  typeIndex.bind (module.types[·]?)

theorem lookup_eq_append {α : Type} (imported defined : List α) (index : Nat) :
    lookup imported defined index = (imported ++ defined)[index]? := by
  unfold lookup
  split
  · rename_i inImports
    rw [List.getElem?_append_left inImports]
  · rename_i notImport
    rw [List.getElem?_append_right (Nat.le_of_not_lt notImport)]

theorem lookup_isSome {α : Type} (imported defined : List α) (index : Nat) :
    (lookup imported defined index).isSome ↔
      index < imported.length + defined.length := by
  rw [lookup_eq_append]
  simp

theorem memoryType_of_lt {index : Nat} (inBounds : index < module.memoryCount) :
    ∃ type, module.memoryType index = some type :=
  Option.isSome_iff_exists.mp ((lookup_isSome _ _ _).mpr inBounds)

theorem memoryType_lt {index : Nat} {type : MemoryType}
    (found : module.memoryType index = some type) : index < module.memoryCount :=
  (lookup_isSome module.importedMemories module.memories index).mp
    (Option.isSome_iff_exists.mpr ⟨type, found⟩)

theorem functionType_lt {function : Nat} {type : FuncType}
    (found : module.functionType function = some type) :
    function < module.functionCount := by
  simp only [functionType, Option.bind_eq_some_iff] at found
  obtain ⟨typeIndex, indexFound, -⟩ := found
  unfold functionCount
  split at indexFound
  · omega
  · have := (List.getElem?_eq_some_iff.mp indexFound).1
    omega

end Module

end MiniWasm
