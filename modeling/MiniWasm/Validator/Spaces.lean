import MiniWasm.Library.IndexSpace
import MiniWasm.Parser.Correctness
import MiniWasm.Spec.Payloads
import MiniWasm.Validator.Module

/-!
# The index spaces of a module

Every lookup by index counts the imports of a kind first and then the definitions.  The parser,
the module and the validator each do this in their own way; all of them find what the index
space of the kind holds.
-/

namespace MiniWasm

open Library

namespace Module

variable (module : Module)

/-- Functions, by their type indices. -/
def functionSpace : List (Origin × Nat) :=
  indexSpace Import.functionTypeIndex module.imports module.functionTypeIndices

def tableSpace : List (Origin × TableType) :=
  indexSpace Import.tableType module.imports module.tables

def memorySpace : List (Origin × MemoryType) :=
  indexSpace Import.memoryType module.imports module.memories

def globalSpace : List (Origin × GlobalType) :=
  indexSpace Import.globalType module.imports (module.globals.map Global.type)

end Module

/-- A lookup and a count that go by the index space. -/
structure Resolves {α β : Type} (space : List (Origin × α)) (lookup : Nat → β)
    (found : Option α → β) (count : Nat) : Prop where
  lookup : ∀ index, lookup index = found (space[index]?.map Prod.snd)
  count : count = space.length

/-- The lookups of the parser, the module and the validator find the same entries. -/
structure Module.Coherent (module : Module) : Prop where
  functions : Resolves module.functionSpace module.functionType
    (fun typeIndex => typeIndex.bind (module.types[·]?)) module.functionCount
  functionImports : ∀ index position typeIndex,
    module.functionSpace[index]? = some (.imported position, typeIndex) →
      module.functionImport index = module.imports[position]?
  tables : Resolves module.tableSpace module.tableType id module.tableCount
  memories : Resolves module.memorySpace module.memoryType id module.memoryCount
  globals : Resolves module.globalSpace module.globalType id module.globalCount
  parserMemories : ∀ index,
    Parser.memoryTypeByIndex module index = module.memorySpace[index]?.map Prod.snd
  validatorMemories : ∀ index type, Validator.memoryTypeAt module index = .ok type ↔
    module.memorySpace[index]?.map Prod.snd = some type
  validatorTables : ∀ index type, Validator.tableTypeAt module index = .ok type ↔
    module.tableSpace[index]?.map Prod.snd = some type

section Coherent

variable (module : Module)

theorem lookup_eq_indexSpace {α : Type} (declared : Import → Option α) (definitions : List α)
    (index : Nat) :
    Module.lookup (module.imports.filterMap declared) definitions index =
      (indexSpace declared module.imports definitions)[index]?.map Prod.snd := by
  rw [Module.lookup_eq_append, ← indexSpace_types, List.getElem?_map]

theorem functionImports_eq :
    module.functionImports =
      (declarations Import.functionTypeIndex module.imports).map Prod.fst := by
  unfold Module.functionImports declarations
  generalize module.imports = imports
  induction imports with
  | nil => rfl
  | cons entry rest ih =>
    rw [List.filter_cons, List.filterMap_cons, ih]
    cases entry.functionTypeIndex <;> rfl

theorem functionImportCount_eq :
    module.functionImportCount = (module.imports.filterMap Import.functionTypeIndex).length := by
  unfold Module.functionImportCount
  rw [functionImports_eq, List.length_map, ← declarations_types, List.length_map]

/-- The type index that `function_type` finds, among the imports or behind them. -/
theorem functionType_eq (index : Nat) : module.functionType index =
    (module.functionSpace[index]?.map Prod.snd).bind (module.types[·]?) := by
  have imported : module.functionImportTypeIndex index =
      (module.imports.filterMap Import.functionTypeIndex)[index]? := by
    rw [Module.functionImportTypeIndex, Module.functionImport, functionImports_eq,
      ← declarations_types, List.getElem?_map, List.getElem?_map]
    cases found : (declarations Import.functionTypeIndex module.imports)[index]? with
    | none => rfl
    | some pair =>
      exact declared_of_mem Import.functionTypeIndex (List.mem_of_getElem? found)
  unfold Module.functionType
  rw [Module.functionSpace, ← lookup_eq_indexSpace, Module.lookup, imported,
    functionImportCount_eq]

theorem module_coherent : module.Coherent where
  functions := ⟨functionType_eq module, by
    rw [Module.functionCount, functionImportCount_eq, Module.functionSpace, indexSpace_length]⟩
  functionImports index position typeIndex found := by
    obtain ⟨entry, at_, -, listed⟩ := indexSpace_imported _ found
    rw [at_, Module.functionImport, functionImports_eq, List.getElem?_map, listed]
    rfl
  tables := ⟨lookup_eq_indexSpace module _ _, (indexSpace_length ..).symm⟩
  memories := ⟨lookup_eq_indexSpace module _ _, (indexSpace_length ..).symm⟩
  globals := ⟨lookup_eq_indexSpace module _ _, by
    rw [Module.globalCount, Module.globalSpace, indexSpace_length, List.length_map]
    rfl⟩
  parserMemories index := by
    rw [Parser.memoryTypeByIndex_eq]
    exact lookup_eq_indexSpace module _ _ index
  validatorMemories index type := by
    rw [Module.memorySpace, ← lookup_eq_indexSpace]
    change Validator.memoryTypeAt module index = .ok type ↔ module.memoryType index = some type
    unfold Validator.memoryTypeAt
    cases module.memoryType index <;> simp
  validatorTables index type := by
    rw [Module.tableSpace, ← lookup_eq_indexSpace]
    change Validator.tableTypeAt module index = .ok type ↔ module.tableType index = some type
    unfold Validator.tableTypeAt
    cases module.tableType index <;> simp

end Coherent

/-! ## Defined functions -/

/-- The type index of a defined function is one of the module. -/
theorem Validator.typeOf_defined {module : Module} (accepted : Validator.Accepted module)
    {position typeIndex : Nat} (found : module.functionTypeIndices[position]? = some typeIndex) :
    ∃ type, module.types[typeIndex]? = some type := by
  have checked := checkEach_ok_iff.mp accepted.functionTypes position typeIndex found
  split_ifs at checked with outside
  exact ⟨_, List.getElem?_eq_getElem (Nat.not_le.mp outside)⟩

/-- Every defined function has a body. -/
theorem Validator.code_of_defined {module : Module} (accepted : Validator.Accepted module)
    {position typeIndex : Nat} (found : module.functionTypeIndices[position]? = some typeIndex) :
    ∃ body, module.code[position]? = some body := by
  have length := accepted.codeLength
  unfold Validator.validateCodeLength at length
  split_ifs at length with differs
  have inside := (List.getElem?_eq_some_iff.mp found).1
  rw [not_not.mp differs] at inside
  exact ⟨_, List.getElem?_eq_getElem inside⟩

/-! ## The offsets of data segments -/

/-- The offsets of active segments are constants of the address types of their memories. -/
def OffsetsFit (tree : Spec.ModuleSyntax) : Prop :=
  ∀ segment ∈ tree.data, ∀ memory offset, segment.mode = .active memory offset →
    ∃ origin type, tree.decoded.memorySpace[memory]? = some (origin, type) ∧
      (offset.valueType = .i32 ↔ type.limits.memory64 = false) ∧
      (offset.valueType = .i64 ↔ type.limits.memory64 = true)

/-- The validator has checked the memories of the segments. -/
theorem validate_data {module : Module} (valid : Validator.validate module = .ok ())
    {segment : DataSegment} (member : segment ∈ module.data) {memory offset : Nat}
    (mode : segment.mode = .active memory offset) : memory < module.memoryCount := by
  obtain ⟨position, found⟩ := List.getElem?_of_mem member
  have checked := checkEach_ok_iff.mp (Validator.accepted_of_validate valid).data position
    segment found
  unfold Validator.validateData at checked
  rw [mode] at checked
  dsimp only at checked
  split_ifs at checked with outside
  exact Nat.not_le.mp outside

theorem offsets_fit {bytes : List UInt8} {tree : Spec.ModuleSyntax}
    (written : Spec.Binary.module bytes tree)
    (valid : Validator.validate tree.decoded = .ok ()) : OffsetsFit tree := by
  intro segment member memory offset mode
  have typed := Spec.Binary.offsets_typed written segment member memory offset mode
  have inside := validate_data valid (List.mem_map_of_mem member)
    (show segment.decoded.mode = .active memory (Spec.address offset) by
      rw [Spec.DataSyntax.decoded, mode]
      rfl)
  obtain ⟨type, found⟩ := tree.decoded.memoryType_of_lt inside
  rw [found] at typed
  have entry := (module_coherent tree.decoded).memories.lookup memory
  rw [found] at entry
  obtain ⟨⟨origin, entryType⟩, at_, same⟩ := Option.map_eq_some_iff.mp entry.symm
  obtain rfl : entryType = type := same
  have address : offset.valueType = if entryType.limits.memory64 then .i64 else .i32 := typed
  refine ⟨origin, _, at_, ?_⟩
  rw [address]
  cases entryType.limits.memory64 <;> simp

end MiniWasm
