import MiniWasm.Parser.Acceptance

/-!
# The parser and the binary grammar

The loop over the sections follows the order of the grammar: the ids that may still occur
are those after the last one in the order.  So the parser accepts exactly the modules of the
format and returns what they denote.
-/

namespace MiniWasm.Parser

open Library Spec

/-! ## The order of the sections -/

theorem order_at (id : UInt8) (standard : id ≠ 0) (known : ¬ 12 < id) :
    0 < sectionOrder id ∧ Binary.order[sectionOrder id - 1]? = some id :=
  forall_byte (motive := fun id => id ≠ 0 → ¬ 12 < id →
    0 < sectionOrder id ∧ Binary.order[sectionOrder id - 1]? = some id) (by decide +kernel)
    id standard known

theorem order_get : ∀ index : Fin Binary.order.length,
    Binary.order.get index ≠ 0 ∧ ¬ 12 < Binary.order.get index ∧
      sectionOrder (Binary.order.get index) = index + 1 := by
  decide

theorem sectionOrder_of_order {index : Nat} {id : UInt8} (found : Binary.order[index]? = some id) :
    id ≠ 0 ∧ ¬ 12 < id ∧ sectionOrder id = index + 1 := by
  obtain ⟨inside, rfl⟩ := List.getElem?_eq_some_iff.mp found
  exact order_get ⟨index, inside⟩

/-- The ids that may still occur after a place of the order. -/
theorem order_drop_iff {last : Nat} {id : UInt8} {after : List UInt8} :
    (∃ before, Binary.order.drop last = before ++ id :: after) ↔
      (id ≠ 0 ∧ ¬ 12 < id ∧ last < sectionOrder id) ∧
        after = Binary.order.drop (sectionOrder id) := by
  constructor
  · rintro ⟨before, split⟩
    have found : Binary.order[last + before.length]? = some id := by
      rw [← List.getElem?_drop, split, List.getElem?_append_right (Nat.le_refl _), Nat.sub_self]
      rfl
    obtain ⟨standard, known, place⟩ := sectionOrder_of_order found
    refine ⟨⟨standard, known, by omega⟩, ?_⟩
    calc after
      _ = (before ++ [id] ++ after).drop (before.length + 1) :=
        (List.drop_left' (by rw [List.length_append, List.length_singleton])).symm
      _ = (Binary.order.drop last).drop (before.length + 1) := by
        rw [List.append_assoc, split]
        rfl
      _ = Binary.order.drop (sectionOrder id) := by
        rw [List.drop_drop, place, Nat.add_assoc]
  · rintro ⟨⟨standard, known, later⟩, rfl⟩
    obtain ⟨positive, found⟩ := order_at id standard known
    refine ⟨(Binary.order.drop last).take (sectionOrder id - 1 - last), ?_⟩
    have place : last + (sectionOrder id - 1 - last) = sectionOrder id - 1 := by omega
    have next : sectionOrder id - 1 + 1 = sectionOrder id := by omega
    calc Binary.order.drop last
      _ = (Binary.order.drop last).take (sectionOrder id - 1 - last) ++
          Binary.order.drop (sectionOrder id - 1) := by
        conv_lhs => rw [← List.take_append_drop (sectionOrder id - 1 - last)
          (Binary.order.drop last)]
        rw [List.drop_drop, place]
      _ = _ := by rw [drop_eq_cons found, next]

/-! ## The loop over the sections -/

/-- What the variables of the loop say when the sections so far denote the module. -/
structure Progress.Follows (progress : Progress) (module : ModuleSyntax) : Prop where
  module : progress.module = module.decoded
  seen : ∀ id ∈ progress.seen, sectionOrder id ≤ progress.lastOrder
  last : progress.lastOrder ≠ 0 →
    ∃ id ∈ progress.seen, Binary.order[progress.lastOrder - 1]? = some id

theorem Progress.Follows.start : ({} : Progress).Follows {} where
  module := rfl
  seen := by simp
  last := by simp

/-- After a section with the id. -/
def Progress.after (progress : Progress) (id : UInt8) (module : Module) : Progress :=
  { module, lastStandard := id, lastOrder := sectionOrder id, seen := id :: progress.seen }

theorem Progress.Follows.after {progress : Progress} {module next : ModuleSyntax} {id : UInt8}
    (follows : progress.Follows module) (standard : id ≠ 0) (known : ¬ 12 < id)
    (later : progress.lastOrder < sectionOrder id) :
    (progress.after id next.decoded).Follows next where
  module := rfl
  seen := by
    intro other found
    obtain rfl | found := List.mem_cons.mp found
    · exact Nat.le_refl _
    · exact Nat.le_of_lt (Nat.lt_of_le_of_lt (follows.seen other found) later)
  last := fun _ => ⟨id, List.mem_cons_self, (order_at id standard known).2⟩

/-- The two checks of the order ask for a later place. -/
theorem Progress.Follows.place_iff {progress : Progress} {module : ModuleSyntax} {id : UInt8}
    (follows : progress.Follows module) (standard : id ≠ 0) (known : ¬ 12 < id) :
    ¬ sectionOrder id < progress.lastOrder ∧ id ∉ progress.seen ↔
      progress.lastOrder < sectionOrder id := by
  obtain ⟨positive, found⟩ := order_at id standard known
  constructor
  · rintro ⟨notEarlier, fresh⟩
    refine Nat.lt_of_le_of_ne (Nat.le_of_not_lt notEarlier) fun same => fresh ?_
    obtain ⟨other, seen, place⟩ := follows.last (by omega)
    rw [same, found] at place
    cases place
    exact seen
  · intro later
    exact ⟨by omega, fun seen => Nat.not_le_of_lt later (follows.seen id seen)⟩

/-- One round of the loop: a custom section, or the content of a section that may still occur. -/
theorem section_ok {progress next : Progress} {module : ModuleSyntax}
    (follows : progress.Follows module) (id : UInt8) (payload : List UInt8) :
    progress.section id payload = .ok next ↔
      (id = 0 ∧ (∃ label, Binary.customContent payload label) ∧ next = progress) ∨
      ((id ≠ 0 ∧ ¬ 12 < id ∧ progress.lastOrder < sectionOrder id) ∧
        ∃ result, Binary.content id module payload result ∧
          next = progress.after id result.decoded) := by
  unfold Progress.section
  by_cases custom : id = 0
  · rw [if_pos custom, bind_ok]
    constructor
    · rintro ⟨⟨label, tail⟩, read, returned⟩
      cases returned
      obtain ⟨head, rfl, named⟩ := (readName_recognizes _ _ _).mp read
      exact .inl ⟨custom, ⟨label, head, tail, rfl, named⟩, rfl⟩
    · rintro (⟨-, ⟨label, head, tail, rfl, named⟩, rfl⟩ | ⟨⟨standard, -⟩, -⟩)
      · exact ⟨(label, tail), (readName_recognizes _ _ _).mpr ⟨head, rfl, named⟩, rfl⟩
      · exact absurd custom standard
  · rw [if_neg custom]
    constructor
    · intro run
      split_ifs at run with unknown earlier duplicate
      obtain ⟨result, parsed, returned⟩ := bind_ok.mp run
      rw [follows.module, (parseSection_recognizes id module).whole_ok, Format.map_iff] at parsed
      obtain ⟨syntaxTree, content, rfl⟩ := parsed
      cases returned
      have later := (follows.place_iff custom unknown).mp ⟨earlier, duplicate⟩
      exact .inr ⟨⟨custom, unknown, later⟩, syntaxTree, content, rfl⟩
    · rintro (⟨standard, -⟩ | ⟨⟨-, known, later⟩, result, content, rfl⟩)
      · exact absurd standard custom
      · obtain ⟨earlier, fresh⟩ := (follows.place_iff custom known).mpr later
        rw [if_neg known, if_neg earlier, if_neg fresh, bind_ok]
        refine ⟨result.decoded, ?_, rfl⟩
        rw [follows.module, (parseSection_recognizes id module).whole_ok, Format.map_iff]
        exact ⟨result, content, rfl⟩

/-- A section: its id, and a payload of the length that is written before it. -/
theorem readSection_ok {input rest payload : List UInt8} {id : UInt8} :
    readSection.run input = .ok ((id, payload), rest) ↔
      ∃ bytes, input = id :: bytes ++ rest ∧ Binary.sized (fun used value => value = used)
        bytes payload := by
  have recognizes : Recognizes readSection (Format.tagged fun id =>
      (Binary.sized (fun used value => value = used)).map fun payload => (id, payload)) := by
    refine .tagged fun id => ?_
    rw [Binary.sized, Format.bind_map]
    exact readU32_recognizes.bind fun length => (Recognizes.block _ length).map _
  rw [recognizes]
  constructor
  · rintro ⟨_, rfl, tag, bytes, rfl, converted⟩
    obtain ⟨value, sized, same⟩ := Format.map_iff.mp converted
    cases same
    exact ⟨bytes, rfl, sized⟩
  · rintro ⟨bytes, rfl, sized⟩
    exact ⟨id :: bytes, rfl, id, bytes, rfl, Format.map_iff.mpr ⟨payload, sized, rfl⟩⟩

/-- Bytes with a length are of a format when the bytes without it are. -/
theorem sized_iff {α : Type} {content : Format UInt8 α} {used : List UInt8} {value : α} :
    Binary.sized content used value ↔
      ∃ payload, Binary.sized (fun used value => value = used) used payload ∧
        content payload value := by
  constructor
  · rintro ⟨length, head, payload, rfl, prefixed, fits, inFormat⟩
    exact ⟨payload, ⟨length, head, payload, rfl, prefixed, fits, rfl⟩, inFormat⟩
  · rintro ⟨payload, ⟨length, head, _, rfl, prefixed, fits, rfl⟩, inFormat⟩
    exact ⟨length, head, payload, rfl, prefixed, fits, inFormat⟩

/-- The sections from the first one on. -/
theorem sections_iff {allowed input : List UInt8} {module result : ModuleSyntax} :
    Binary.Sections allowed module input result ↔
      (input = [] ∧ result = module) ∨
      (∃ bytes tail label, input = 0 :: bytes ++ tail ∧
        Binary.sized Binary.customContent bytes label ∧
        Binary.Sections allowed module tail result) ∨
      ∃ before after id bytes tail next, allowed = before ++ id :: after ∧
        input = id :: bytes ++ tail ∧ Binary.sized (Binary.content id module) bytes next ∧
        Binary.Sections after next tail result := by
  constructor
  · intro sections
    cases sections with
    | done => exact .inl ⟨rfl, rfl⟩
    | custom named rest => exact .inr (.inl ⟨_, _, _, rfl, named, rest⟩)
    | standard present rest => exact .inr (.inr ⟨_, _, _, _, _, _, rfl, rfl, present, rest⟩)
  · rintro (⟨rfl, rfl⟩ | ⟨bytes, tail, label, rfl, named, rest⟩ |
      ⟨before, after, id, bytes, tail, next, rfl, rfl, present, rest⟩)
    · exact .done
    · exact .custom named rest
    · exact .standard present rest

/-- A section takes at least the byte of its id. -/
theorem shorter_of_split {input bytes tail : List UInt8} {id : UInt8} {fuel : Nat}
    (enough : input.length ≤ fuel + 1) (split : input = id :: bytes ++ tail) :
    tail.length ≤ fuel := by
  rw [split, List.length_append, List.length_cons] at enough
  omega

theorem parseSections_nil {fuel : Nat} {progress : Progress} {module : ModuleSyntax}
    {allowed : List UInt8} {parsed : Module} (follows : progress.Follows module) :
    parseSections fuel progress [] = .ok parsed ↔
      ∃ result, Binary.Sections allowed module [] result ∧ parsed = result.decoded := by
  have empty : parseSections fuel progress [] = .ok module.decoded := by
    rw [← follows.module]
    cases fuel <;> rfl
  rw [empty]
  constructor
  · intro same
    cases same
    exact ⟨module, .done, rfl⟩
  · rintro ⟨result, sections, rfl⟩
    obtain ⟨-, rfl⟩ | ⟨_, _, _, impossible, -⟩ | ⟨_, _, _, _, _, _, -, impossible, -⟩ :=
      sections_iff.mp sections
    · rfl
    · cases impossible
    · cases impossible

theorem parseSections_ok {fuel : Nat} {progress : Progress} {module : ModuleSyntax}
    {input : List UInt8} {parsed : Module} (enough : input.length ≤ fuel)
    (follows : progress.Follows module) :
    parseSections fuel progress input = .ok parsed ↔
      ∃ result, Binary.Sections (Binary.order.drop progress.lastOrder) module input result ∧
        parsed = result.decoded := by
  induction fuel generalizing progress module input with
  | zero =>
    obtain rfl := List.length_eq_zero_iff.mp (Nat.le_zero.mp enough)
    exact parseSections_nil follows
  | succ fuel ih =>
    cases input with
    | nil => exact parseSections_nil follows
    | cons first others =>
      unfold parseSections
      simp only [bind_ok]
      constructor
      · rintro ⟨⟨⟨id, payload⟩, rest⟩, read, next, step, loop⟩
        obtain ⟨bytes, split, sized⟩ := readSection_ok.mp read
        have shorter := shorter_of_split enough split
        obtain ⟨rfl, ⟨label, named⟩, rfl⟩ | ⟨allowed, result, content, rfl⟩ :=
          (section_ok follows id payload).mp step
        · obtain ⟨result, sections, rfl⟩ := (ih shorter follows).mp loop
          rw [split]
          exact ⟨result, .custom (sized_iff.mpr ⟨payload, sized, named⟩) sections, rfl⟩
        · obtain ⟨standard, known, later⟩ := allowed
          have reached : (progress.after id result.decoded).Follows result :=
            follows.after standard known later
          obtain ⟨before, places⟩ := order_drop_iff.mpr ⟨⟨standard, known, later⟩, rfl⟩
          obtain ⟨final, sections, rfl⟩ := (ih shorter reached).mp loop
          rw [split, places]
          exact ⟨final, .standard (sized_iff.mpr ⟨payload, sized, content⟩) sections, rfl⟩
      · rintro ⟨result, sections, rfl⟩
        obtain ⟨empty, -⟩ | ⟨bytes, tail, label, split, named, rest⟩ |
          ⟨before, after, id, bytes, tail, next, places, split, present, rest⟩ :=
            sections_iff.mp sections
        · cases empty
        · have shorter := shorter_of_split enough split
          obtain ⟨payload, sized, named⟩ := sized_iff.mp named
          refine ⟨_, readSection_ok.mpr ⟨bytes, split, sized⟩, progress, ?_, ?_⟩
          · exact (section_ok follows 0 payload).mpr (.inl ⟨rfl, ⟨label, named⟩, rfl⟩)
          · exact (ih shorter follows).mpr ⟨result, rest, rfl⟩
        · have shorter := shorter_of_split enough split
          obtain ⟨payload, sized, content⟩ := sized_iff.mp present
          obtain ⟨⟨standard, known, later⟩, rfl⟩ := order_drop_iff.mp ⟨before, places⟩
          refine ⟨_, readSection_ok.mpr ⟨bytes, split, sized⟩,
            progress.after id next.decoded, ?_, ?_⟩
          · exact (section_ok follows id payload).mpr
              (.inr ⟨⟨standard, known, later⟩, next, content, rfl⟩)
          · exact (ih shorter (follows.after standard known later)).mpr ⟨result, rest, rfl⟩

/-! ## Modules -/

theorem readPreamble_recognizes :
    Recognizes readPreamble fun used _ => used = Binary.preamble := by
  refine ((Recognizes.literal magic rfl).bind fun _ => .literal version1 rfl).congr
    fun used value => ?_
  constructor
  · rintro ⟨_, _, _, rfl, rfl, rfl⟩
    rfl
  · rintro rfl
    exact ⟨(), magic, version1, rfl, rfl, rfl⟩

theorem checkCounts_ok {module : Module} :
    checkCounts module = .ok () ↔ module.functionTypeIndices.length = module.code.length ∧
      ∀ count ∈ module.dataCount, count = module.data.length := by
  unfold checkCounts
  dsimp only
  by_cases same : module.functionTypeIndices.length = module.code.length
  · rw [if_neg (not_not_intro same)]
    cases module.dataCount with
    | none => exact ⟨fun _ => ⟨same, by simp⟩, fun _ => rfl⟩
    | some count =>
      by_cases agrees : count = module.data.length
      · dsimp only
        rw [if_neg (not_not_intro agrees)]
        exact ⟨fun _ => ⟨same, by simp [agrees]⟩, fun _ => rfl⟩
      · dsimp only
        rw [if_pos agrees]
        constructor
        · intro checked
          cases checked
        · intro counts
          exact absurd (counts.2 count rfl) agrees
  · rw [if_pos same]
    constructor
    · intro checked
      cases checked
    · intro counts
      exact absurd counts.1 same

theorem checkCounts_decoded (module : ModuleSyntax) :
    checkCounts module.decoded = .ok () ↔ Binary.CountsAgree module := by
  have data : module.decoded.data.length = module.data.length := List.length_map _
  rw [checkCounts_ok, data]
  exact ⟨fun ⟨code, data⟩ => ⟨code, data⟩, fun ⟨code, data⟩ => ⟨code, data⟩⟩

/-- The parser accepts exactly the byte strings of the format, and returns what they denote. -/
theorem parseModule_ok {bytes : List UInt8} {parsed : Module} :
    parseModule bytes = .ok parsed ↔
      ∃ result, Binary.module bytes result ∧ parsed = result.decoded := by
  have start : parseModule bytes = .ok parsed ↔ ∃ sections, bytes = Binary.preamble ++ sections ∧
      ∃ module, parseSections sections.length {} sections = .ok module ∧
        checkCounts module = .ok () ∧ module = parsed := by
    unfold parseModule
    simp only [bind_ok]
    constructor
    · rintro ⟨⟨_, sections⟩, read, module, loop, _, checked, returned⟩
      cases returned
      obtain ⟨_, rfl, rfl⟩ := (readPreamble_recognizes _ _ _).mp read
      exact ⟨sections, rfl, _, loop, checked, rfl⟩
    · rintro ⟨sections, rfl, _, loop, checked, rfl⟩
      exact ⟨((), sections), (readPreamble_recognizes _ _ _).mpr ⟨_, rfl, rfl⟩, _, loop, (),
        checked, rfl⟩
  rw [start]
  constructor
  · rintro ⟨sections, rfl, _, loop, checked, rfl⟩
    obtain ⟨result, inOrder, rfl⟩ := (parseSections_ok (Nat.le_refl _) .start).mp loop
    exact ⟨result, ⟨sections, rfl, inOrder, (checkCounts_decoded result).mp checked⟩, rfl⟩
  · rintro ⟨result, ⟨sections, rfl, inOrder, counts⟩, rfl⟩
    exact ⟨sections, rfl, result.decoded, (parseSections_ok (Nat.le_refl _) .start).mpr
      ⟨result, inOrder, rfl⟩, (checkCounts_decoded result).mpr counts, rfl⟩

/-- The parser accepts a byte string exactly when it is of the format, and returns the one
module that the format denotes for it. -/
theorem parseModule_iff_denotes (bytes : List UInt8) (parsed : Module) :
    parseModule bytes = .ok parsed ↔
      (∃ result, Binary.module bytes result ∧ result.decoded = parsed) ∧
        ∀ result, Binary.module bytes result → result.decoded = parsed := by
  rw [parseModule_ok]
  constructor
  · rintro ⟨result, inFormat, rfl⟩
    refine ⟨⟨result, inFormat, rfl⟩, fun other otherFormat => ?_⟩
    have first := parseModule_ok.mpr ⟨result, inFormat, rfl⟩
    rw [parseModule_ok.mpr ⟨other, otherFormat, rfl⟩] at first
    exact Except.ok.inj first
  · rintro ⟨⟨result, inFormat, rfl⟩, -⟩
    exact ⟨result, inFormat, rfl⟩

end MiniWasm.Parser
