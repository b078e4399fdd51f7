import MiniWasm.Library.Result
import MiniWasm.Validator.Code

/-!
# Module validation

The checks of a whole module, in the order in which they run.  What later
modules use of an accepted module is collected in `Accepted` at the end.
-/

namespace MiniWasm.Validator

def maxMemoryPages : Nat :=
  65536

def maxMemory64Pages : Nat :=
  2 ^ 48

open Library

variable (module : Module)

def validateMemoryType (memory : Nat) (limits : MemoryLimits) : Checked Unit :=
  let limit := if limits.memory64 then maxMemory64Pages else maxMemoryPages
  if limit < limits.min then
    .error (.memoryPageLimitExceeded memory limits.min limit)
  else
    match limits.max with
    | none => .ok ()
    | some max =>
        if limit < max then
          .error (.memoryPageLimitExceeded memory max limit)
        else if max < limits.min then
          .error (.invalidMemoryLimits memory limits.min max)
        else
          .ok ()

def validateMemories : Checked Unit :=
  checkEach (fun memory _ => do
      let type ← memoryTypeAt module memory
      validateMemoryType memory type.limits)
    0 (List.range module.memoryCount)

def validateTableLimits (table : Nat) (limits : Limits) : Checked Unit :=
  match limits.max with
  | none => .ok ()
  | some max =>
      if max < limits.min then
        .error (.invalidTableLimits table limits.min max)
      else
        .ok ()

def validateImports : Checked Unit :=
  checkEach (fun index entry =>
      match entry.desc with
      | .function typeIndex =>
          if (module.types[typeIndex]?).isNone then
            .error (.importTypeIndexOutOfBounds index typeIndex)
          else
            .ok ()
      | .table type => validateTableLimits index type.limits
      | .memory type => validateMemoryType index type.limits
      | .global _ => .ok ())
    0 module.imports

/-- `table_type(..).expect(..)`. -/
def tableTypeAt (table : Nat) : Checked TableType :=
  match module.tableType table with
  | some type => .ok type
  | none => .error .panicked

def validateStart : Checked Unit :=
  match module.start with
  | none => .ok ()
  | some start =>
      match module.functionType start with
      | none => .error (.startFunctionOutOfBounds start)
      | some type =>
          if type.params = [] ∧ type.results = [] then
            .ok ()
          else
            .error (.invalidStartSignature start)

def validateElementMode (segment : Nat) (mode : ElementMode) : Checked Unit :=
  match mode with
  | .active tableIndex _ =>
      if module.tableCount ≤ tableIndex then
        .error (.elementTableOutOfBounds segment tableIndex)
      else
        .ok ()
  | _ => .ok ()

def validateElement (segment : Nat) (element : ElementSegment) : Checked Unit := do
  validateElementMode module segment element.mode
  checkEach (fun _ functionIndex =>
      if functionIndex ≠ nullFuncrefIndex ∧ module.functionCount ≤ functionIndex then
        .error (.elementFunctionOutOfBounds segment functionIndex)
      else
        .ok ())
    0 element.functionIndices

def validatePhase5 : Checked Unit := do
  checkEach (fun table _ => do
      let type ← tableTypeAt module table
      validateTableLimits table type.limits)
    0 (List.range module.tableCount)
  validateStart module
  checkEach (validateElement module) 0 module.elements

def validateGlobal (defined : Nat) (definition : Global) : Checked Unit :=
  let index := module.importedGlobals.length + defined
  if definition.init.valueType ≠ definition.type.valueType then
    .error (.globalInitializerTypeMismatch index definition.type.valueType
      definition.init.valueType)
  else
    match definition.init with
    | .funcRef (some functionIndex) =>
        if module.functionCount ≤ functionIndex then
          .error (.globalFunctionRefOutOfBounds index functionIndex)
        else
          .ok ()
    | _ => .ok ()

def validateDataCount : Checked Unit :=
  match module.dataCount with
  | none => .ok ()
  | some declared =>
      if declared ≠ module.data.length then
        .error (.dataCountMismatch declared module.data.length)
      else
        .ok ()

/-- Types of all locals, parameters first; the running length must fit a
machine word. -/
def resizeLocals (function : Nat) :
    List ValueType → List (Nat × ValueType) → Checked (List ValueType)
  | localTypes, [] => .ok localTypes
  | localTypes, (count, type) :: groups =>
      if 2 ^ 64 ≤ localTypes.length + count then
        .error (.localCountOverflow function)
      else
        resizeLocals function (localTypes ++ List.replicate count type) groups

def validateFunction (defined typeIndex : Nat) : Checked Unit := do
  let function := module.functionImportCount + defined
  match module.types[typeIndex]?, module.code[defined]? with
  | some type, some body =>
      let localTypes ← resizeLocals function type.params body.locals
      validateCode
        { module, function, localTypes, functionResults := type.results
          code := body.code }
  | _, _ => .error .panicked

/-- One round of the export loop; `names` holds the names already seen. -/
def validateExports : List String → List Export → Checked Unit
  | _, [] => .ok ()
  | names, entry :: rest => do
      if entry.name ∈ names then
        .error (.duplicateExportName entry.name)
      match entry.kind with
      | .function =>
          if module.functionCount ≤ entry.index then
            .error (.functionExportOutOfBounds entry.name entry.index)
      | .memory =>
          if module.memoryCount ≤ entry.index then
            .error (.memoryExportOutOfBounds entry.name entry.index)
      | .table =>
          if module.tableCount ≤ entry.index then
            .error (.tableExportOutOfBounds entry.name entry.index)
      | .global =>
          if module.globalCount ≤ entry.index then
            .error (.globalExportOutOfBounds entry.name entry.index)
      validateExports (entry.name :: names) rest

def validateData (segment : Nat) (data : DataSegment) : Checked Unit :=
  match data.mode with
  | .passive => .ok ()
  | .active memoryIndex _ =>
      if module.memoryCount ≤ memoryIndex then
        .error (.dataMemoryOutOfBounds segment memoryIndex)
      else
        .ok ()

def validateFunctionTypes : Checked Unit :=
  checkEach (fun defined typeIndex =>
      if module.types.length ≤ typeIndex then
        .error (.typeIndexOutOfBounds (module.functionImportCount + defined) typeIndex)
      else
        .ok ())
    0 module.functionTypeIndices

def validateCodeLength : Checked Unit :=
  if module.functionTypeIndices.length ≠ module.code.length then
    .error (.functionCodeLengthMismatch module.functionTypeIndices.length
      module.code.length)
  else
    .ok ()

def validate : Checked Unit := do
  validateMemories module
  validateImports module
  validatePhase5 module
  checkEach (validateGlobal module) 0 module.globals
  validateDataCount module
  validateCodeLength module
  validateFunctionTypes module
  checkEach (validateFunction module) 0 module.functionTypeIndices
  validateExports module [] module.exports
  checkEach (validateData module) 0 module.data

/-! ## What acceptance says -/

/-- The facts about an accepted module, one field for each check. -/
structure Accepted : Prop where
  memories : validateMemories module = .ok ()
  imports : validateImports module = .ok ()
  phase5 : validatePhase5 module = .ok ()
  globals : checkEach (validateGlobal module) 0 module.globals = .ok ()
  dataCount : validateDataCount module = .ok ()
  codeLength : validateCodeLength module = .ok ()
  functionTypes : validateFunctionTypes module = .ok ()
  functions : checkEach (validateFunction module) 0 module.functionTypeIndices = .ok ()
  exports : validateExports module [] module.exports = .ok ()
  data : checkEach (validateData module) 0 module.data = .ok ()

theorem accepted_of_validate {module : Module} (valid : validate module = .ok ()) :
    Accepted module := by
  simp only [validate, bind_ok] at valid
  obtain ⟨_, memories, _, imports, _, phase5, _, globals, _, dataCount, _, codeLength, _,
    functionTypes, _, functions, _, exports, data⟩ := valid
  exact { memories, imports, phase5, globals, dataCount, codeLength, functionTypes,
          functions, exports, data }

end MiniWasm.Validator
