import MiniWasm.Parser.Cursor

/-!
# Sections

What the parser does with the payload of each section.  A section parser appends the entries
that it reads to the module.
-/

namespace MiniWasm.Parser

open Library

/-! ## Types, imports and functions -/

def readFuncType : Cursor FuncType := do
  let tag ← readU8
  if tag ≠ 0x60 then throw (.invalidFunctionType tag)
  let params ← readValueTypeVec
  let results ← readValueTypeVec
  return { params, results }

def parseTypeSection (module : Module) : Cursor Module := do
  let types ← readVec readFuncType
  return { module with types := module.types ++ types }

def readImportDesc : Cursor ImportDesc := do
  match ← readU8 with
  | 0x00 => return .function (← readU32)
  | 0x01 =>
      readReferenceType
      let limits ← readLimits
      return .table { limits }
  | 0x02 =>
      let limits ← readMemoryLimits
      return .memory { limits }
  | 0x03 =>
      let valueType ← readValueType
      let mutable ← readMutability
      return .global { valueType, mutable }
  | other => throw (.invalidImportKind other)

def readImport : Cursor Import := do
  let module ← readName
  let name ← readName
  let desc ← readImportDesc
  return { module, name, desc }

def parseImportSection (module : Module) : Cursor Module := do
  let imports ← readVec readImport
  return { module with imports := module.imports ++ imports }

def parseFunctionSection (module : Module) : Cursor Module := do
  let typeIndices ← readVec readU32
  return { module with functionTypeIndices := module.functionTypeIndices ++ typeIndices }

/-! ## Tables, memories and globals -/

def readTableType : Cursor TableType := do
  readReferenceType
  let limits ← readLimits
  return { limits }

def parseTableSection (module : Module) : Cursor Module := do
  let tables ← readVec readTableType
  return { module with tables := module.tables ++ tables }

def readMemoryType : Cursor MemoryType := do
  let limits ← readMemoryLimits
  return { limits }

def parseMemorySection (module : Module) : Cursor Module := do
  let memories ← readVec readMemoryType
  return { module with memories := module.memories ++ memories }

def readGlobal : Cursor Global := do
  let valueType ← readGlobalValueType
  let mutable ← readMutability
  let init ← readConstExpr
  if init.valueType ≠ valueType then throw (.constExprTypeMismatch valueType init.valueType)
  return { type := { valueType, mutable }, init }

def parseGlobalSection (module : Module) : Cursor Module := do
  let globals ← readVec readGlobal
  return { module with globals := module.globals ++ globals }

/-! ## Exports and the start function -/

def readExportKind : Cursor ExportKind := do
  match ← readU8 with
  | 0 => return .function
  | 1 => return .table
  | 2 => return .memory
  | 3 => return .global
  | other => throw (.invalidExportKind other)

def readExport : Cursor Export := do
  let name ← readName
  let kind ← readExportKind
  let index ← readU32
  return { name, kind, index }

def parseExportSection (module : Module) : Cursor Module := do
  let entries ← readVec readExport
  return { module with exports := module.exports ++ entries }

def parseStartSection (module : Module) : Cursor Module := do
  let start ← readU32
  return { module with start := some start }

/-! ## Element segments -/

def readLegacyElementKind : Cursor Unit := do
  let kind ← readU8
  if kind ≠ 0x00 then throw (.invalidElementKind kind)

/-- The mode of an element segment, and whether its items are expressions. -/
def readElementMode (flags : Nat) : Cursor (ElementMode × Bool) := do
  match flags with
  | 0 =>
      let offset ← readI32ConstExpr
      return (.active 0 offset, false)
  | 1 =>
      readLegacyElementKind
      return (.passive, false)
  | 2 =>
      let tableIndex ← readU32
      let offset ← readI32ConstExpr
      readLegacyElementKind
      return (.active tableIndex offset, false)
  | 3 =>
      readLegacyElementKind
      return (.declarative, false)
  | 4 =>
      let offset ← readI32ConstExpr
      return (.active 0 offset, true)
  | 5 =>
      readReferenceType
      return (.passive, true)
  | 6 =>
      let tableIndex ← readU32
      let offset ← readI32ConstExpr
      readReferenceType
      return (.active tableIndex offset, true)
  | 7 =>
      readReferenceType
      return (.declarative, true)
  | other => throw (.unsupportedElementSegmentMode other)

def readElementReferenceExpr : Cursor Nat := do
  match ← readConstExpr with
  | .funcRef (some functionIndex) => return functionIndex
  | .funcRef none => return nullFuncrefIndex
  | other => throw (.constExprTypeMismatch .funcRef other.valueType)

def readElementSegment : Cursor ElementSegment := do
  let flags ← readU32
  let (mode, expressions) ← readElementMode flags
  let functionIndices ← readVec (if expressions then readElementReferenceExpr else readU32)
  return { mode, functionIndices }

def parseElementSection (module : Module) : Cursor Module := do
  let elements ← readVec readElementSegment
  return { module with elements := module.elements ++ elements }

/-! ## Code -/

def readLocalGroup : Cursor (Nat × ValueType) := do
  let count ← readU32
  let type ← readValueType
  return (count, type)

/-- The local declarations of a body, and what remains of its bytes. -/
def parseFunctionBody (bytes : List UInt8) : Except ParseError FunctionBody := do
  let (locals, code) ← (readVec readLocalGroup).run bytes
  if code.getLast? ≠ some 0x0b then throw .functionBodyMissingEnd
  return { locals, code }

def readFunctionBody : Cursor FunctionBody := do
  let length ← readU32
  let bytes ← readExact length
  parseFunctionBody bytes

def parseCodeSection (module : Module) : Cursor Module := do
  let code ← readVec readFunctionBody
  return { module with code := module.code ++ code }

/-! ## Data segments -/

/-- The loop over the imports: skip as many imported memories as remain. -/
def memoryTypeFrom (memories : List MemoryType) : List Import → Nat → Option MemoryType
  | [], remaining => memories[remaining]?
  | entry :: imports, remaining =>
      match entry.desc with
      | .memory type =>
          if remaining = 0 then some type
          else memoryTypeFrom memories imports (remaining - 1)
      | _ => memoryTypeFrom memories imports remaining

def memoryTypeByIndex (module : Module) (memoryIndex : Nat) : Option MemoryType :=
  memoryTypeFrom module.memories module.imports memoryIndex

def readDataOffsetConstExpr (module : Module) (memoryIndex : Nat) : Cursor Nat := do
  let constant ← readConstExpr
  match memoryTypeByIndex module memoryIndex with
  | some type =>
      if type.limits.memory64 then
        match constant with
        | .i64 value => return value.toNat
        | other => throw (.constExprTypeMismatch .i64 other.valueType)
      else
        match constant with
        | .i32 value => return value.toNat
        | other => throw (.constExprTypeMismatch .i32 other.valueType)
  | none =>
      -- The validator reports the memory index.
      match constant with
      | .i32 value => return value.toNat
      | .i64 value => return value.toNat
      | other => throw (.constExprTypeMismatch .i32 other.valueType)

def readDataMode (module : Module) (flags : Nat) : Cursor DataMode := do
  match flags with
  | 0 =>
      let offset ← readDataOffsetConstExpr module 0
      return .active 0 offset
  | 1 => return .passive
  | 2 =>
      let memoryIndex ← readU32
      let offset ← readDataOffsetConstExpr module memoryIndex
      return .active memoryIndex offset
  | other => throw (.unsupportedDataSegmentMode other)

def readDataSegment (module : Module) : Cursor DataSegment := do
  let flags ← readU32
  let mode ← readDataMode module flags
  let length ← readU32
  let bytes ← readExact length
  return { mode, bytes }

def parseDataSection (module : Module) : Cursor Module := do
  let data ← readVec (readDataSegment module)
  return { module with data := module.data ++ data }

def parseDataCountSection (module : Module) : Cursor Module := do
  let count ← readU32
  return { module with dataCount := some count }

/-! ## The module -/

def parseSection (id : UInt8) (module : Module) : Cursor Module :=
  match id with
  | 1 => parseTypeSection module
  | 2 => parseImportSection module
  | 3 => parseFunctionSection module
  | 4 => parseTableSection module
  | 5 => parseMemorySection module
  | 6 => parseGlobalSection module
  | 7 => parseExportSection module
  | 8 => parseStartSection module
  | 9 => parseElementSection module
  | 10 => parseCodeSection module
  | 11 => parseDataSection module
  | 12 => parseDataCountSection module
  | _ => throw (.unsupportedSection id)

/-- The place of a section in the order; the data count comes before the code. -/
def sectionOrder (id : UInt8) : Nat :=
  match id with
  | 12 => 10
  | 10 => 11
  | 11 => 12
  | id => id.toNat

/-- The variables of the loop over the sections. -/
structure Progress where
  module : Module := {}
  lastStandard : UInt8 := 0
  lastOrder : Nat := 0
  seen : List UInt8 := []

/-- One round of the loop, for a section with an id and a payload. -/
def Progress.section (progress : Progress) (id : UInt8) (payload : List UInt8) :
    Except ParseError Progress :=
  if id = 0 then do
    let _ ← readName.run payload
    return progress
  else if 12 < id then
    throw (.unsupportedSection id)
  else if sectionOrder id < progress.lastOrder then
    throw (.sectionOutOfOrder progress.lastStandard id)
  else if id ∈ progress.seen then
    throw (.duplicateSection id)
  else do
    let module ← (parseSection id progress.module).whole (.sectionLengthMismatch id) payload
    return { module, lastStandard := id, lastOrder := sectionOrder id, seen := id :: progress.seen }

def readSection : Cursor (UInt8 × List UInt8) := do
  let id ← readU8
  let length ← readU32
  let payload ← readExact length
  return (id, payload)

/-- The loop over the sections; every round takes some of the remaining bytes. -/
def parseSections : (fuel : Nat) → Progress → List UInt8 → Except ParseError Module
  | _, progress, [] => .ok progress.module
  | 0, _, _ => .error .unexpectedEof
  | fuel + 1, progress, remaining => do
      let ((id, payload), remaining) ← readSection.run remaining
      let progress ← progress.section id payload
      parseSections fuel progress remaining

def magic : List UInt8 :=
  [0x00, 0x61, 0x73, 0x6d]

def version1 : List UInt8 :=
  [0x01, 0x00, 0x00, 0x00]

def readMagic : Cursor Unit := do
  let found ← readExact 4
  if found ≠ magic then throw (.invalidMagic found)

def readVersion : Cursor Unit := do
  let found ← readExact 4
  if found ≠ version1 then throw (.unsupportedVersion found)

def readPreamble : Cursor Unit := do
  readMagic
  readVersion

/-- The checks after the last section. -/
def checkCounts (module : Module) : Except ParseError Unit := do
  if module.functionTypeIndices.length ≠ module.code.length then
    throw (.functionCodeLengthMismatch module.functionTypeIndices.length module.code.length)
  match module.dataCount with
  | some declared =>
      if declared ≠ module.data.length then
        throw (.dataCountMismatch declared module.data.length)
  | none => return ()

def parseModule (bytes : List UInt8) : Except ParseError Module := do
  let (_, remaining) ← readPreamble.run bytes
  let module ← parseSections remaining.length {} remaining
  checkCounts module
  return module

end MiniWasm.Parser
