import MiniWasm.Parser.Integers
import MiniWasm.Parser.Sections
import MiniWasm.Spec.Binary

/-!
# What the section parsers accept

Every reader of the parser recognizes a format of the binary grammar: one theorem for each
reader, from the integers up to the payloads of the sections.
-/

namespace MiniWasm.Parser

open Library Spec

variable {α : Type}

/-! ## Numbers, vectors and names -/

/-- A decoder that accepts a format, as a reader. -/
theorem readDecoded_recognizes {decode : List UInt8 → Except ParseError (α × Nat)}
    {format : Format UInt8 α}
    (decodes : ∀ {input value used}, decode input = .ok (value, used) ↔
      ∃ bytes rest, input = bytes ++ rest ∧ format bytes value ∧ used = bytes.length) :
    Recognizes (readDecoded decode) format := by
  intro input value rest
  unfold readDecoded
  simp only [StateT.run, bind_ok, decodes]
  constructor
  · rintro ⟨⟨result, length⟩, ⟨bytes, others, rfl, encoded, rfl⟩, returned⟩
    cases returned
    exact ⟨bytes, by rw [List.drop_left], encoded⟩
  · rintro ⟨bytes, rfl, encoded⟩
    refine ⟨(value, bytes.length), ⟨bytes, rest, rfl, encoded, rfl⟩, ?_⟩
    rw [List.drop_left]
    rfl

theorem readU32_recognizes : Recognizes readU32 Binary.u32 :=
  readDecoded_recognizes decodeU32_ok

theorem readU64_recognizes : Recognizes readU64 Binary.u64 :=
  readDecoded_recognizes decodeU64_ok

theorem readI32_recognizes : Recognizes readI32 Binary.i32 :=
  (readDecoded_recognizes decodeI32_ok).map _

theorem readI64_recognizes : Recognizes readI64 Binary.i64 :=
  (readDecoded_recognizes decodeI64_ok).map _

theorem fromLeBytes_eq (bytes : List UInt8) : fromLeBytes bytes = littleEndian bytes := by
  induction bytes with
  | nil => rfl
  | cons byte rest ih =>
    unfold littleEndian
    rw [← ih]
    rfl

theorem readU32Le_recognizes : Recognizes readU32Le (Binary.bits 32) := by
  unfold readU32Le Binary.bits
  simp only [fromLeBytes_eq]
  exact (Recognizes.block _ 4).map _

theorem readU64Le_recognizes : Recognizes readU64Le (Binary.bits 64) := by
  unfold readU64Le Binary.bits
  simp only [fromLeBytes_eq]
  exact (Recognizes.block _ 8).map _

theorem readVec_recognizes {reader : Cursor α} {item : Format UInt8 α}
    (recognizes : Recognizes reader item) :
    Recognizes (readVec reader) (Binary.vector item) :=
  readU32_recognizes.bind recognizes.many

theorem vector_map {β : Type} (item : Format UInt8 α) (convert : α → β) :
    (Binary.vector item).map (List.map convert) = Binary.vector (item.map convert) := by
  unfold Binary.vector
  rw [Format.bind_map]
  exact congrArg Binary.u32.bind (funext fun count => (Format.repeated_map ..).symm)

/-- Reading bytes and deciding about them as a whole. -/
theorem sized_recognizes {run : List UInt8 → Except ParseError α} {content : Format UInt8 α}
    (decides : ∀ input value, run input = .ok value ↔ content input value) :
    Recognizes (do
      let length ← readU32
      let bytes ← readExact length
      run bytes) (Binary.sized content) :=
  readU32_recognizes.bind fun _ => .enclosed decides

theorem fromUtf8_ok (bytes : List UInt8) (name : String) :
    fromUtf8 bytes = .ok name ↔ Binary.utf8 bytes name := by
  unfold fromUtf8 String.fromUTF8? Binary.utf8
  constructor
  · intro decoded
    split at decoded
    · rename_i found
      split_ifs at found
      cases found
      cases decoded
      rfl
    · cases decoded
  · rintro rfl
    have whole : (⟨name.toUTF8.data.toList.toArray⟩ : ByteArray) = name.toUTF8 := rfl
    rw [whole, dif_pos (show name.toUTF8.IsValidUTF8 from name.isValidUTF8)]
    rfl

theorem readName_recognizes : Recognizes readName Binary.name :=
  sized_recognizes fromUtf8_ok

/-! ## Types -/

theorem readValueType_recognizes : Recognizes readValueType Binary.valueType := by
  refine .oneOf fun tag => ?_
  split
  case h_7 => exact .inr ⟨_, rfl, by simp_all⟩
  all_goals exact .inl ⟨_, rfl, by simp⟩

theorem readGlobalValueType_recognizes : Recognizes readGlobalValueType Binary.valueType :=
  readValueType_recognizes

theorem readMutability_recognizes : Recognizes readMutability Binary.mutability := by
  refine .oneOf fun tag => ?_
  split
  case h_3 => exact .inr ⟨_, rfl, by simp_all⟩
  all_goals exact .inl ⟨_, rfl, by simp⟩

theorem readReferenceType_recognizes : Recognizes readReferenceType (Format.symbol 0x70) :=
  .symbol _ _ _

theorem readLimits_recognizes : Recognizes readLimits Binary.limits := by
  refine .tagged fun flags => ?_
  repeat' first | contradiction | split
  · exact readU32_recognizes.map _
  · exact readU32_recognizes.bind fun min => readU32_recognizes.map _
  · rw [← Format.bind_never Binary.u32]
    exact readU32_recognizes.bind fun _ => .throw _

/-- The flags of a memory type: a maximum, and addresses of 64 bits. -/
theorem memoryFlags (flags : UInt8) :
    flags = 0x00 ∨ flags = 0x01 ∨ flags = 0x04 ∨ flags = 0x05 ∨ flags &&& ~~~ 0x05 ≠ 0 :=
  forall_byte (motive := fun flags =>
    flags = 0x00 ∨ flags = 0x01 ∨ flags = 0x04 ∨ flags = 0x05 ∨ flags &&& ~~~ 0x05 ≠ 0)
    (by decide +kernel) flags

/-- The sizes of a memory are of its address type. -/
theorem readMemoryLimits_recognizes : Recognizes readMemoryLimits Binary.memoryLimits := by
  refine .tagged fun flags => ?_
  obtain rfl | rfl | rfl | rfl | other := memoryFlags flags
  · exact readU32_recognizes.map _
  · exact readU32_recognizes.bind fun min => readU32_recognizes.map _
  · exact readU64_recognizes.map _
  · exact readU64_recognizes.bind fun min => readU64_recognizes.map _
  · dsimp only
    rw [if_pos other]
    refine (Recognizes.throw_bind _ _).of_eq ?_
    split
    case h_5 => rfl
    all_goals exact absurd rfl other

/-! ## Constant expressions -/

theorem readConstant_recognizes : Recognizes readConstant Binary.constant := by
  refine .tagged fun opcode => ?_
  repeat' first | contradiction | split
  · exact readI32_recognizes.map _
  · exact readI64_recognizes.map _
  · exact readU32Le_recognizes.map _
  · exact readU64Le_recognizes.map _
  · exact readReferenceType_recognizes.map _
  · exact readU32_recognizes.map _
  · exact .throw _

theorem readConstExprEnd_recognizes : Recognizes readConstExprEnd (Format.symbol 0x0b) :=
  .symbol _ _ _

theorem readConstExpr_recognizes : Recognizes readConstExpr Binary.expression :=
  readConstant_recognizes.bind fun _ => readConstExprEnd_recognizes.map _

theorem readI32ConstExpr_recognizes : Recognizes readI32ConstExpr Binary.offset := by
  refine (readConstExpr_recognizes.select (fun constant value =>
    constant = .i32 value) fun constant => ?_).congr ?_
  · split
    · exact .inl ⟨_, rfl, by simp [eq_comm]⟩
    · exact .inr ⟨_, rfl, by simp_all⟩
  · intro used value
    simp [Binary.offset]

/-! ## Entries of the sections -/

theorem readFuncType_recognizes : Recognizes readFuncType Binary.functionType := by
  refine .expect ?_
  exact (readVec_recognizes readValueType_recognizes).bind fun _ =>
    (readVec_recognizes readValueType_recognizes).map _

theorem readTableType_recognizes : Recognizes readTableType Binary.tableType :=
  readReferenceType_recognizes.bind fun _ => readLimits_recognizes.map _

theorem readMemoryType_recognizes : Recognizes readMemoryType Binary.memoryType :=
  readMemoryLimits_recognizes.map _

theorem readImportDesc_recognizes : Recognizes readImportDesc Binary.importDesc := by
  refine .tagged fun kind => ?_
  repeat' first | contradiction | split
  · exact readU32_recognizes.map _
  · simp only [Binary.tableType, Format.bind_map, Format.map_map]
    exact readReferenceType_recognizes.bind fun _ => readLimits_recognizes.map _
  · simp only [Binary.memoryType, Format.map_map]
    exact readMemoryLimits_recognizes.map _
  · simp only [Binary.globalType, Format.bind_map, Format.map_map]
    exact readValueType_recognizes.bind fun _ => readMutability_recognizes.map _
  · exact .throw _

theorem readImport_recognizes : Recognizes readImport Binary.importEntry :=
  readName_recognizes.bind fun _ => readName_recognizes.bind fun _ =>
    readImportDesc_recognizes.map _

theorem readGlobal_recognizes : Recognizes readGlobal Binary.globalEntry := by
  simp only [Binary.globalEntry, Binary.globalType, Format.bind_assoc, Format.map_bind]
  refine readGlobalValueType_recognizes.bind fun valueType => readMutability_recognizes.bind
    fun mutable => ?_
  refine (readConstExpr_recognizes.select (fun init result =>
    init.valueType = valueType ∧ result = ⟨⟨valueType, mutable⟩, init⟩) fun init => ?_).congr ?_
  · by_cases same : init.valueType = valueType
    · refine .inl ⟨⟨⟨valueType, mutable⟩, init⟩, if_neg (not_not_intro same), by simp [same]⟩
    · exact .inr ⟨_, if_pos same, by simp [same]⟩
  · intro used result
    simp only [Format.map_iff, Binary.expressionOf, Format.filter, and_assoc]

theorem readExportKind_recognizes : Recognizes readExportKind Binary.exportKind := by
  refine .oneOf fun tag => ?_
  split
  case h_5 => exact .inr ⟨_, rfl, by simp_all⟩
  all_goals exact .inl ⟨_, rfl, by simp⟩

theorem readExport_recognizes : Recognizes readExport Binary.exportEntry :=
  readName_recognizes.bind fun _ => readExportKind_recognizes.bind fun _ =>
    readU32_recognizes.map _

/-! ## Element segments -/

theorem readLegacyElementKind_recognizes :
    Recognizes readLegacyElementKind (Format.symbol 0x00) :=
  .symbol _ _ _

/-- The first part of an element segment: the mode, and whether the items are expressions. -/
def elementMode (flags : Nat) : Format UInt8 (ElementMode × Bool) :=
  match flags with
  | 0 => Binary.offset.map fun offset => (.active 0 offset, false)
  | 1 => (Format.symbol 0x00).map fun _ => (.passive, false)
  | 2 => Binary.u32.bind fun table => Binary.offset.bind fun offset =>
      (Format.symbol 0x00).map fun _ => (.active table offset, false)
  | 3 => (Format.symbol 0x00).map fun _ => (.declarative, false)
  | 4 => Binary.offset.map fun offset => (.active 0 offset, true)
  | 5 => (Format.symbol 0x70).map fun _ => (.passive, true)
  | 6 => Binary.u32.bind fun table => Binary.offset.bind fun offset =>
      (Format.symbol 0x70).map fun _ => (.active table offset, true)
  | 7 => (Format.symbol 0x70).map fun _ => (.declarative, true)
  | _ => .never

theorem readElementMode_recognizes (flags : Nat) :
    Recognizes (readElementMode flags) (elementMode flags) := by
  unfold readElementMode elementMode
  repeat' first | contradiction | split
  · exact readI32ConstExpr_recognizes.map _
  · exact readLegacyElementKind_recognizes.map _
  · exact readU32_recognizes.bind fun _ => readI32ConstExpr_recognizes.bind fun _ =>
      readLegacyElementKind_recognizes.map _
  · exact readLegacyElementKind_recognizes.map _
  · exact readI32ConstExpr_recognizes.map _
  · exact readReferenceType_recognizes.map _
  · exact readU32_recognizes.bind fun _ => readI32ConstExpr_recognizes.bind fun _ =>
      readReferenceType_recognizes.map _
  · exact readReferenceType_recognizes.map _
  · exact .throw _

theorem readElementReferenceExpr_recognizes :
    Recognizes readElementReferenceExpr (Binary.itemExpression.map ElementItem.decoded) := by
  unfold Binary.itemExpression
  rw [Format.bind_map]
  refine readConstExpr_recognizes.bind fun constant => ?_
  cases constant with
  | funcRef function =>
    cases function with
    | none | some =>
      dsimp only
      rw [Format.denotes_map]
      exact .pure _
  | _ =>
    dsimp only
    rw [Format.never_map]
    exact .throw _

/-- The items of an element segment, as the decoded module holds them. -/
theorem elementItems_recognizes (expressions : Bool) :
    Recognizes (readVec (if expressions then readElementReferenceExpr else readU32))
      ((Binary.vector (if expressions then Binary.itemExpression else Binary.u32.map .index)).map
        (List.map ElementItem.decoded)) := by
  rw [vector_map]
  apply readVec_recognizes
  cases expressions with
  | true => exact readElementReferenceExpr_recognizes
  | false =>
    apply readU32_recognizes.congr
    intro used value
    simp [Format.map_iff, ElementItem.decoded]

theorem readElementSegment_recognizes :
    Recognizes readElementSegment (Binary.elementEntry.map ElementSyntax.decoded) := by
  unfold Binary.elementEntry
  rw [Format.bind_map]
  refine readU32_recognizes.bind fun flags => ?_
  refine ((readElementMode_recognizes flags).bind fun read =>
    (elementItems_recognizes read.2).map (ElementSegment.mk read.1)).of_eq ?_
  unfold elementMode
  split
  all_goals
    simp [Format.bind_assoc, Format.map_bind, Format.map_map, Format.bind_map, Format.never_bind,
      Format.never_map, Binary.elementIndices, Binary.elementExpressions, ElementSyntax.decoded]

/-! ## Code -/

theorem readLocalGroup_recognizes : Recognizes readLocalGroup Binary.localGroup :=
  readU32_recognizes.bind fun _ => readValueType_recognizes.map _

theorem parseFunctionBody_ok (bytes : List UInt8) (body : FunctionBody) :
    parseFunctionBody bytes = .ok body ↔ Binary.functionBody bytes body := by
  unfold parseFunctionBody
  rw [bind_ok]
  constructor
  · rintro ⟨⟨locals, code⟩, read, checked⟩
    obtain ⟨head, rfl, groups⟩ := (readVec_recognizes readLocalGroup_recognizes _ _ _).mp read
    dsimp only at checked
    split_ifs at checked with missing
    · cases checked
    · cases checked
      exact ⟨locals, head, code, rfl, groups, of_not_not missing, rfl⟩
  · rintro ⟨locals, head, code, rfl, groups, ends, rfl⟩
    refine ⟨(locals, code), (readVec_recognizes readLocalGroup_recognizes _ _ _).mpr
      ⟨head, rfl, groups⟩, ?_⟩
    dsimp only
    rw [if_neg (not_not_intro ends)]
    rfl

theorem readFunctionBody_recognizes :
    Recognizes readFunctionBody (Binary.sized Binary.functionBody) :=
  sized_recognizes parseFunctionBody_ok

/-! ## Data segments -/

theorem memoryTypeFrom_eq (memories : List MemoryType) (imports : List Import) (index : Nat) :
    memoryTypeFrom memories imports index =
      (imports.filterMap Import.memoryType ++ memories)[index]? := by
  induction imports generalizing index with
  | nil => rfl
  | cons entry imports ih =>
    unfold memoryTypeFrom
    rw [List.filterMap_cons]
    cases described : entry.desc with
    | memory type =>
      simp only [Import.memoryType, described, List.cons_append]
      cases index with
      | zero => rfl
      | succ index => exact ih index
    | function typeIndex =>
      simp only [Import.memoryType, described]
      exact ih index
    | table type =>
      simp only [Import.memoryType, described]
      exact ih index
    | global type =>
      simp only [Import.memoryType, described]
      exact ih index

/-- The parser looks memories up as the module does. -/
theorem memoryTypeByIndex_eq (module : Module) (index : Nat) :
    memoryTypeByIndex module index = module.memoryType index := by
  unfold Module.memoryType
  rw [Module.lookup_eq_append]
  exact memoryTypeFrom_eq ..

theorem readDataOffsetConstExpr_recognizes (module : Module) (memory : Nat) :
    Recognizes (readDataOffsetConstExpr module memory)
      ((Binary.expression.filter (Binary.HasAddressType (module.memoryType memory))).map
        address) := by
  refine (readConstExpr_recognizes.select (fun constant offset =>
    Binary.HasAddressType (module.memoryType memory) constant ∧ offset = address constant)
    fun constant => ?_).congr ?_
  · rw [memoryTypeByIndex_eq]
    cases module.memoryType memory with
    | none =>
      cases constant with
      | i32 value =>
        exact .inl ⟨_, rfl, by simp [Binary.HasAddressType, Constant.valueType, address]⟩
      | i64 value =>
        exact .inl ⟨_, rfl, by simp [Binary.HasAddressType, Constant.valueType, address]⟩
      | _ => exact .inr ⟨_, rfl, by simp [Binary.HasAddressType, Constant.valueType]⟩
    | some type =>
      by_cases wide : type.limits.memory64 = true
      · simp only [wide, if_true, Binary.HasAddressType]
        cases constant with
        | i64 value => exact .inl ⟨_, rfl, by simp [Constant.valueType, address]⟩
        | _ => exact .inr ⟨_, rfl, by simp [Constant.valueType]⟩
      · simp only [wide, Binary.HasAddressType]
        cases constant with
        | i32 value => exact .inl ⟨_, rfl, by simp [Constant.valueType, address]⟩
        | _ => exact .inr ⟨_, rfl, by simp [Constant.valueType]⟩
  · intro used offset
    simp only [Format.map_iff, Format.filter, and_assoc]

theorem readDataMode_recognizes (module : Module) (flags : Nat) :
    Recognizes (readDataMode module flags)
      ((Binary.dataMode module.memoryType flags).map DataModeSyntax.decoded) := by
  have offset (memory : Nat) :=
    (readDataOffsetConstExpr_recognizes module memory).map (DataMode.active memory)
  simp only [Format.map_map] at offset
  unfold readDataMode Binary.dataMode
  split
  · simp only [Format.map_map]
    exact offset 0
  · simp only [Format.denotes_map]
    exact .pure _
  · simp only [Format.bind_map, Format.map_map]
    exact readU32_recognizes.bind offset
  · -- the format has the same cases, which are left where they are not yet decided
    try split
    all_goals first
      | contradiction
      | exact (Recognizes.throw _).of_eq (Format.never_map ..).symm

theorem readDataSegment_recognizes (module : Module) :
    Recognizes (readDataSegment module)
      ((Binary.dataEntry module.memoryType).map DataSyntax.decoded) := by
  have written (flags : Nat) :
      ((Binary.dataMode module.memoryType flags).bind fun mode =>
        Binary.bytes.map fun bytes => (DataSyntax.mk mode bytes).decoded) =
      ((Binary.dataMode module.memoryType flags).map DataModeSyntax.decoded).bind fun mode =>
        Binary.u32.bind fun length => (Format.block length).map (DataSegment.mk mode) := by
    rw [Format.map_bind]
    congr 1
    funext mode
    exact Format.bind_map ..
  simp only [Binary.dataEntry, Format.bind_map, Format.map_map, written]
  exact readU32_recognizes.bind fun flags => (readDataMode_recognizes module flags).bind
    fun mode => readU32_recognizes.bind fun length => (Recognizes.block _ length).map _

/-! ## The payloads -/

theorem parseElementSection_recognizes (module : ModuleSyntax) :
    Recognizes (parseElementSection module.decoded)
      ((Binary.content 9 module).map ModuleSyntax.decoded) := by
  have read := (readVec_recognizes readElementSegment_recognizes).map fun elements =>
    { module.decoded with elements := module.decoded.elements ++ elements }
  rw [← vector_map, Format.map_map] at read
  refine read.of_eq ((congrArg (Format.map · _) (funext fun elements => ?_)).trans
    (Format.map_map ..).symm)
  simp [ModuleSyntax.decoded]

theorem parseDataSection_recognizes (module : ModuleSyntax) :
    Recognizes (parseDataSection module.decoded)
      ((Binary.content 11 module).map ModuleSyntax.decoded) := by
  have read := (readVec_recognizes (readDataSegment_recognizes module.decoded)).map fun data =>
    { module.decoded with data := module.decoded.data ++ data }
  rw [← vector_map, Format.map_map] at read
  refine read.of_eq ((congrArg (Format.map · _) (funext fun data => ?_)).trans
    (Format.map_map ..).symm)
  simp [ModuleSyntax.decoded]

/-- The parser of a section recognizes the content that goes with the id. -/
theorem parseSection_recognizes (id : UInt8) (module : ModuleSyntax) :
    Recognizes (parseSection id module.decoded)
      ((Binary.content id module).map ModuleSyntax.decoded) := by
  unfold parseSection Binary.content
  split
  · simp only [Format.map_map]
    exact (readVec_recognizes readFuncType_recognizes).map _
  · simp only [Format.map_map]
    exact (readVec_recognizes readImport_recognizes).map _
  · simp only [Format.map_map]
    exact (readVec_recognizes readU32_recognizes).map _
  · simp only [Format.map_map]
    exact (readVec_recognizes readTableType_recognizes).map _
  · simp only [Format.map_map]
    exact (readVec_recognizes readMemoryType_recognizes).map _
  · simp only [Format.map_map]
    exact (readVec_recognizes readGlobal_recognizes).map _
  · simp only [Format.map_map]
    exact (readVec_recognizes readExport_recognizes).map _
  · simp only [Format.map_map]
    exact readU32_recognizes.map _
  · exact (parseElementSection_recognizes module).of_eq rfl
  · simp only [Format.map_map]
    exact (readVec_recognizes readFunctionBody_recognizes).map _
  · exact (parseDataSection_recognizes module).of_eq rfl
  · simp only [Format.map_map]
    exact readU32_recognizes.map _
  · try split
    all_goals first
      | contradiction
      | exact (Recognizes.throw _).of_eq (Format.never_map ..).symm

end MiniWasm.Parser
