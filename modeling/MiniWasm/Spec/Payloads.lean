import MiniWasm.Spec.Binary

/-!
# What the sections say about the module

The ids that may still occur are a suffix of the order, so each section is there once at
most.  What holds of the module along the sections follows from it: the entries of a kind
come from one payload, and the data segments see the memories that the whole module has.
-/

namespace MiniWasm.Spec

open Library

namespace Binary

/-! ## Runs over the sections -/

theorem order_nodup : order.Nodup := by
  decide

/-- A fact about the remaining ids and the module that each section keeps. -/
theorem Sections.invariant (holds : List UInt8 → ModuleSyntax → Prop)
    (standard : ∀ {before after : List UInt8} {id : UInt8} {module next : ModuleSyntax}
      {payload : List UInt8}, before ++ id :: after <:+ order → sized (content id module)
        payload next → holds (before ++ id :: after) module → holds after next)
    {allowed input : List UInt8} {module result : ModuleSyntax}
    (sections : Sections allowed module input result) (within : allowed <:+ order)
    (start : holds allowed module) : ∃ remaining, remaining <:+ order ∧ holds remaining result := by
  induction sections with
  | @done allowed module => exact ⟨allowed, within, start⟩
  | custom _ _ ih => exact ih within start
  | @standard before after id module next result payload tail present _ ih =>
    have later : after <:+ order :=
      List.IsSuffix.trans ⟨before ++ [id], by simp⟩ within
    exact ih later (standard within present start)

/-- An id does not occur again after its section. -/
theorem not_mem_after {before after : List UInt8} {id : UInt8}
    (within : before ++ id :: after <:+ order) : id ∉ after := by
  have nodup := order_nodup.sublist within.sublist
  exact (List.nodup_cons.mp (List.nodup_append.mp nodup).2.1).1

/-! ## Payloads -/

section Content

variable {id : UInt8} {module next : ModuleSyntax} {payload : List UInt8}

/-- Only the code section adds function bodies. -/
theorem content_code (other : id ≠ 10) (present : content id module payload next) :
    next.code = module.code := by
  unfold content at present
  split at present
  case h_10 => exact absurd rfl other
  case h_13 => exact present.elim
  all_goals
    obtain ⟨entries, -, rfl⟩ := Format.map_iff.mp present
    rfl

theorem content_imports (other : id ≠ 2) (present : content id module payload next) :
    next.imports = module.imports := by
  unfold content at present
  split at present
  case h_2 => exact absurd rfl other
  case h_13 => exact present.elim
  all_goals
    obtain ⟨entries, -, rfl⟩ := Format.map_iff.mp present
    rfl

theorem content_data (other : id ≠ 11) (present : content id module payload next) :
    next.data = module.data := by
  unfold content at present
  split at present
  case h_11 => exact absurd rfl other
  case h_13 => exact present.elim
  all_goals
    obtain ⟨entries, -, rfl⟩ := Format.map_iff.mp present
    rfl

end Content

/-! ## The number of functions -/

theorem u32_length : Format.AtLeast 1 u32 :=
  fun _ _ encoded => encoded.1.length_pos

theorem sized_length {α : Type} (content : Format UInt8 α) : Format.AtLeast 1 (sized content) :=
  u32_length.first

/-- Entries of at least three bytes in a payload with a length of 32 bits. -/
theorem vector_few {α : Type} {item : Format UInt8 α} (each : Format.AtLeast 3 item)
    {payload : List UInt8} {values : List α}
    (present : sized (vector item) payload values) : 3 * values.length < 2 ^ 32 := by
  obtain ⟨length, head, tail, rfl, ⟨-, -, small⟩, fits, count, first, entries, rfl, -, many⟩ :=
    present
  have enough := each.repeated entries values many
  rw [Format.repeated_length many]
  rw [List.length_append] at fits
  omega

/-- A payload of such entries, which are added to those that the module has. -/
theorem sized_added {α : Type} {item : Format UInt8 α} (each : Format.AtLeast 3 item)
    {entries : ModuleSyntax → List α} {extend : List α → ModuleSyntax} {module : ModuleSyntax}
    (appends : ∀ more, entries (extend more) = entries module ++ more)
    {payload : List UInt8} {next : ModuleSyntax}
    (present : sized ((vector item).map extend) payload next) :
    ∃ more, entries next = entries module ++ more ∧ 3 * more.length < 2 ^ 32 := by
  obtain ⟨length, head, tail, rfl, prefixed, fits, inFormat⟩ := present
  obtain ⟨more, items, rfl⟩ := Format.map_iff.mp inFormat
  exact ⟨more, appends more, vector_few each ⟨length, head, tail, rfl, prefixed, fits, items⟩⟩

theorem functionBody_length : Format.AtLeast 3 (sized functionBody) := by
  rintro _ body ⟨length, head, tail, rfl, prefixed, -, locals, groups, code, rfl, declared, ends, -⟩
  have := u32_length head length prefixed
  have := (u32_length.first : Format.AtLeast 1 (vector localGroup)) groups locals declared
  have : 0 < code.length := by
    cases code with
    | nil => cases ends
    | cons first others => exact Nat.succ_pos _
  rw [List.length_append, List.length_append]
  omega

theorem importEntry_length : Format.AtLeast 3 importEntry :=
  (sized_length _).bind fun _ => (sized_length _).bind fun _ =>
    (Format.AtLeast.tagged _).first

/-- The entries that come from the one payload of their section. -/
theorem Sections.few {α : Type} {entries : ModuleSyntax → List α} {kind : UInt8}
    (kept : ∀ {id module next payload}, id ≠ kind → content id module payload next →
      entries next = entries module)
    (added : ∀ {module next payload}, sized (content kind module) payload next →
      ∃ more, entries next = entries module ++ more ∧ 3 * more.length < 2 ^ 32)
    (empty : entries {} = []) {input : List UInt8} {result : ModuleSyntax}
    (sections : Sections order {} input result) : 3 * (entries result).length < 2 ^ 32 := by
  let holds (allowed : List UInt8) (module : ModuleSyntax) : Prop :=
    (kind ∈ allowed → entries module = []) ∧ 3 * (entries module).length < 2 ^ 32
  have start : holds order {} := by
    refine ⟨fun _ => empty, ?_⟩
    rw [empty, List.length_nil]
    decide
  obtain ⟨_, -, -, few⟩ := sections.invariant holds (by
    rintro before after id module next payload within present ⟨fresh, few⟩
    by_cases same : id = kind
    · obtain ⟨more, extended, small⟩ := added (same ▸ present)
      refine ⟨fun later => absurd (same ▸ later) (not_mem_after within), ?_⟩
      rw [extended, fresh (by simp [same]), List.nil_append]
      exact small
    · obtain ⟨length, head, tail, -, -, -, inFormat⟩ := present
      have unchanged := kept same inFormat
      refine ⟨fun later => ?_, ?_⟩
      · rw [unchanged]
        exact fresh (by simp [later])
      · rw [unchanged]
        exact few) (List.suffix_refl _) start
  exact few

/-- Modules of the format have fewer functions than there are indices. -/
theorem functionCount_lt {bytes : List UInt8} {result : ModuleSyntax}
    (inFormat : Binary.module bytes result) : result.decoded.functionCount < nullFuncrefIndex := by
  obtain ⟨sections, rfl, inOrder, counts⟩ := inFormat
  have bodies := inOrder.few content_code
    (sized_added functionBody_length fun _ => rfl) rfl
  have imports := inOrder.few content_imports
    (sized_added importEntry_length fun _ => rfl) rfl
  have filtered : result.decoded.functionImportCount ≤ result.imports.length :=
    List.length_filter_le _ _
  have defined : result.decoded.functionTypeIndices.length = result.code.length := counts.code
  unfold Module.functionCount nullFuncrefIndex
  omega

/-! ## The offsets of data segments -/

/-- The data section is the last one, so it may still occur as long as anything may. -/
theorem data_mem {allowed : List UInt8} (within : allowed <:+ order) (nonempty : allowed ≠ []) :
    11 ∈ allowed := by
  have last : allowed.getLast nonempty = 11 := within.getLast nonempty
  exact last ▸ List.getLast_mem nonempty

/-- The offset of an active segment has the address type of its memory. -/
def OffsetTyped (module : Module) (segment : DataSyntax) : Prop :=
  ∀ memory offset, segment.mode = .active memory offset →
    HasAddressType (module.memoryType memory) offset

theorem dataMode_typed {memoryOf : Nat → Option MemoryType} {flags : Nat} {used : List UInt8}
    {mode : DataModeSyntax} (inFormat : dataMode memoryOf flags used mode) :
    ∀ memory offset, mode = .active memory offset → HasAddressType (memoryOf memory) offset := by
  intro memory offset same
  unfold dataMode at inFormat
  split at inFormat
  · obtain ⟨value, ⟨-, typed⟩, rfl⟩ := Format.map_iff.mp inFormat
    cases same
    exact typed
  · obtain ⟨-, rfl⟩ := inFormat
    cases same
  · obtain ⟨index, head, tail, -, -, rest⟩ := inFormat
    obtain ⟨value, ⟨-, typed⟩, rfl⟩ := Format.map_iff.mp rest
    cases same
    exact typed
  · exact inFormat.elim

theorem content_data_typed {module next : ModuleSyntax} {payload : List UInt8}
    (present : content 11 module payload next) (fresh : module.data = []) :
    ∀ segment ∈ next.data, OffsetTyped next.decoded segment := by
  obtain ⟨added, ⟨count, head, tail, -, -, many⟩, rfl⟩ := Format.map_iff.mp present
  intro segment member
  obtain ⟨part, flags, first, rest, -, -, mode, body, bytes, -, inMode, payload⟩ :=
    Format.forall_of_repeated many segment (by simpa [fresh] using member)
  obtain ⟨value, -, rfl⟩ := Format.map_iff.mp payload
  exact dataMode_typed inMode

/-- Offsets are typed by the memories that the whole module has. -/
theorem offsets_typed {bytes : List UInt8} {result : ModuleSyntax}
    (inFormat : Binary.module bytes result) :
    ∀ segment ∈ result.data, OffsetTyped result.decoded segment := by
  obtain ⟨sections, rfl, inOrder, -⟩ := inFormat
  let holds (allowed : List UInt8) (module : ModuleSyntax) : Prop :=
    (11 ∈ allowed → module.data = []) ∧
      ∀ segment ∈ module.data, OffsetTyped module.decoded segment
  have start : holds order {} := ⟨fun _ => rfl, fun segment member => by cases member⟩
  obtain ⟨_, -, -, typed⟩ := inOrder.invariant holds (by
    rintro before after id module next payload within
      ⟨length, head, tail, -, -, -, present⟩ ⟨fresh, -⟩
    have none := fresh (data_mem within (by simp))
    by_cases same : id = 11
    · subst same
      exact ⟨fun later => absurd later (not_mem_after within), content_data_typed present none⟩
    · have unchanged : next.data = [] := (content_data same present).trans none
      refine ⟨fun _ => unchanged, fun segment member => ?_⟩
      rw [unchanged] at member
      cases member) (List.suffix_refl _) start
  exact typed

end Binary

end MiniWasm.Spec
