import MiniWasm.Library.Result

/-!
# Formats and readers

A format says which strings there are and what each of them denotes.  A reader takes a
string off the front of its input.  It recognizes a format when it succeeds exactly on the
inputs that start with a string of the format, returns what that string denotes and leaves
the rest; there is at most one such string then.
-/

namespace MiniWasm.Library

variable {τ α β : Type}

/-- Strings with what they denote. -/
abbrev Format (τ α : Type) :=
  List τ → α → Prop

namespace Format

/-- No string. -/
def never : Format τ α :=
  fun _ _ => False

/-- The empty string. -/
def denotes (value : α) : Format τ α :=
  fun used result => used = [] ∧ result = value

/-- One string after the other; the second may depend on what the first denotes. -/
def bind (first : Format τ α) (next : α → Format τ β) : Format τ β :=
  fun used result => ∃ value head tail, used = head ++ tail ∧ first head value ∧
    next value tail result

def map (convert : α → β) (format : Format τ α) : Format τ β :=
  format.bind fun value => denotes (convert value)

/-- The strings whose denotation meets the condition. -/
def filter (format : Format τ α) (condition : α → Prop) : Format τ α :=
  fun used result => format used result ∧ condition result

/-- A symbol that selects the format of what follows. -/
def tagged (format : τ → Format τ α) : Format τ α :=
  fun used result => ∃ tag tail, used = tag :: tail ∧ format tag tail result

/-- The one symbol. -/
def symbol (expected : τ) : Format τ Unit :=
  fun used _ => used = [expected]

/-- A symbol of the table. -/
def oneOf (table : List (τ × α)) : Format τ α :=
  fun used result => ∃ symbol, used = [symbol] ∧ (symbol, result) ∈ table

/-- Any string of the length. -/
def block (length : Nat) : Format τ (List τ) :=
  fun used result => used.length = length ∧ result = used

/-- A string of the length that is of the format as a whole. -/
def enclosed (length : Nat) (format : Format τ α) : Format τ α :=
  fun used result => used.length = length ∧ format used result

/-- As many strings as the number says. -/
def repeated (format : Format τ α) : Nat → Format τ (List α)
  | 0 => denotes []
  | count + 1 => format.bind fun value => (repeated format count).map fun values => value :: values

variable {γ : Type}

theorem denotes_bind (value : α) (next : α → Format τ β) :
    (denotes value).bind next = next value := by
  funext used result
  apply propext
  constructor
  · rintro ⟨_, _, tail, rfl, ⟨rfl, rfl⟩, rest⟩
    exact rest
  · intro rest
    exact ⟨value, [], used, rfl, ⟨rfl, rfl⟩, rest⟩

theorem never_bind (next : α → Format τ β) : (never : Format τ α).bind next = never := by
  funext used result
  apply propext
  constructor
  · rintro ⟨_, _, _, _, impossible, _⟩
    exact impossible
  · exact False.elim

theorem bind_never (format : Format τ α) : (format.bind fun _ => never) = (never : Format τ β) := by
  funext used result
  apply propext
  constructor
  · rintro ⟨_, _, _, _, _, impossible⟩
    exact impossible
  · exact False.elim

theorem bind_assoc (format : Format τ α) (next : α → Format τ β) (last : β → Format τ γ) :
    (format.bind next).bind last = format.bind fun value => (next value).bind last := by
  funext used result
  apply propext
  constructor
  · rintro ⟨middle, _, tail, rfl, ⟨value, head, body, rfl, first, second⟩, third⟩
    exact ⟨value, head, body ++ tail, List.append_assoc .., first, middle, body, tail, rfl,
      second, third⟩
  · rintro ⟨value, head, _, rfl, first, middle, body, tail, rfl, second, third⟩
    exact ⟨middle, head ++ body, tail, (List.append_assoc ..).symm, ⟨value, head, body, rfl,
      first, second⟩, third⟩

theorem map_map (format : Format τ α) (convert : α → β) (again : β → γ) :
    (format.map convert).map again = format.map fun value => again (convert value) := by
  simp only [map, bind_assoc, denotes_bind]

theorem map_bind (format : Format τ α) (convert : α → β) (next : β → Format τ γ) :
    (format.map convert).bind next = format.bind fun value => next (convert value) := by
  simp only [map, bind_assoc, denotes_bind]

theorem bind_map (format : Format τ α) (next : α → Format τ β) (convert : β → γ) :
    (format.bind next).map convert = format.bind fun value => (next value).map convert :=
  bind_assoc ..

theorem denotes_map (value : α) (convert : α → β) :
    (denotes value : Format τ α).map convert = denotes (convert value) :=
  denotes_bind ..

theorem never_map (convert : α → β) : (never : Format τ α).map convert = never :=
  never_bind _

/-- Converting every value of a repetition. -/
theorem repeated_map (format : Format τ α) (convert : α → β) (count : Nat) :
    (repeated (format.map convert) count) = (repeated format count).map (List.map convert) := by
  induction count with
  | zero => exact (denotes_bind [] fun values => denotes (values.map convert)).symm
  | succ count ih => simp only [repeated, ih, bind_map, map_bind, map_map, List.map_cons]

theorem map_iff {convert : α → β} {format : Format τ α} {used : List τ} {result : β} :
    format.map convert used result ↔ ∃ value, format used value ∧ result = convert value := by
  constructor
  · rintro ⟨value, head, tail, rfl, first, rfl, rfl⟩
    exact ⟨value, by rwa [List.append_nil], rfl⟩
  · rintro ⟨value, first, rfl⟩
    exact ⟨value, used, [], (List.append_nil used).symm, first, rfl, rfl⟩

/-- Every value of a repetition comes from a string of its own. -/
theorem repeated_length {format : Format τ α} {count : Nat} {used : List τ} {values : List α}
    (many : repeated format count used values) : values.length = count := by
  induction count generalizing used values with
  | zero =>
    obtain ⟨-, rfl⟩ := many
    rfl
  | succ count ih =>
    obtain ⟨value, head, tail, -, -, rest⟩ := many
    obtain ⟨others, many, rfl⟩ := map_iff.mp rest
    rw [List.length_cons, ih many]

theorem forall_of_repeated {format : Format τ α} {count : Nat} {used : List τ}
    {values : List α} (many : repeated format count used values) :
    ∀ value ∈ values, ∃ part, format part value := by
  induction count generalizing used values with
  | zero =>
    obtain ⟨-, rfl⟩ := many
    simp
  | succ count ih =>
    obtain ⟨value, head, tail, -, first, rest⟩ := many
    obtain ⟨others, many, rfl⟩ := map_iff.mp rest
    intro other member
    obtain rfl | member := List.mem_cons.mp member
    · exact ⟨head, first⟩
    · exact ih many other member

/-- No string of the format is shorter. -/
def AtLeast (length : Nat) (format : Format τ α) : Prop :=
  ∀ used value, format used value → length ≤ used.length

namespace AtLeast

theorem bind {first second : Nat} {format : Format τ α} {next : α → Format τ β}
    (head : AtLeast first format) (tail : ∀ value, AtLeast second (next value)) :
    AtLeast (first + second) (format.bind next) := by
  rintro _ result ⟨value, used, others, rfl, inFormat, rest⟩
  rw [List.length_append]
  exact Nat.add_le_add (head used value inFormat) (tail value others result rest)

theorem zero (format : Format τ α) : AtLeast 0 format :=
  fun _ _ _ => Nat.zero_le _

theorem first {length : Nat} {format : Format τ α} {next : α → Format τ β}
    (head : AtLeast length format) : AtLeast length (format.bind next) :=
  head.bind fun _ => zero _

theorem tagged (format : τ → Format τ α) : AtLeast 1 (Format.tagged format) := by
  rintro _ value ⟨tag, rest, rfl, -⟩
  exact Nat.succ_le_succ (Nat.zero_le _)

theorem repeated {length : Nat} {format : Format τ α} (each : AtLeast length format)
    {count : Nat} : AtLeast (length * count) (Format.repeated format count) := by
  induction count with
  | zero => exact zero _
  | succ count ih =>
    rw [Nat.mul_succ, Nat.add_comm]
    exact each.bind fun _ => ih.first

end AtLeast

end Format

/-! ## Readers -/

variable {ε : Type}

/-- Take a value off the front of the input. -/
abbrev Reader (τ ε : Type) :=
  StateT (List τ) (Except ε)

namespace Reader

/-- The next symbol. -/
def item (missing : ε) : Reader τ ε τ :=
  fun
  | [] => .error missing
  | symbol :: rest => .ok (symbol, rest)

/-- The next symbols, as many as the number says. -/
def block (missing : ε) (length : Nat) : Reader τ ε (List τ) :=
  fun input =>
    if input.length < length then .error missing
    else .ok (input.take length, input.drop length)

/-- A loop that collects as many values as the number says. -/
def many (reader : Reader τ ε α) : Nat → Reader τ ε (List α)
  | 0 => pure []
  | count + 1 => do
      let value ← reader
      let values ← many reader count
      return value :: values

/-- Read a string that must be used up. -/
def whole (reader : Reader τ ε α) (leftover : ε) (input : List τ) : Except ε α := do
  let (value, rest) ← reader.run input
  if rest = [] then return value else throw leftover

end Reader

/-- The reader succeeds exactly on what the format describes. -/
def Recognizes (reader : Reader τ ε α) (format : Format τ α) : Prop :=
  ∀ input value rest, reader.run input = .ok (value, rest) ↔
    ∃ used, input = used ++ rest ∧ format used value

/-- Each value is decoded to the one result that goes with it, and refused when there is none. -/
def Selects (decode : α → Reader τ ε β) (holds : α → β → Prop) : Prop :=
  ∀ value,
    (∃ result, decode value = pure result ∧ ∀ other, holds value other ↔ other = result) ∨
      ∃ err, decode value = throwThe ε err ∧ ∀ other, ¬ holds value other

namespace Recognizes

variable {reader : Reader τ ε α} {format : Format τ α}

theorem congr (recognizes : Recognizes reader format) {other : Format τ α}
    (same : ∀ used value, format used value ↔ other used value) : Recognizes reader other := by
  intro input value rest
  simp only [recognizes input value rest, same]

theorem of_eq (recognizes : Recognizes reader format) {other : Format τ α}
    (same : format = other) : Recognizes reader other :=
  same ▸ recognizes

theorem pure (value : α) :
    Recognizes (Pure.pure value : Reader τ ε α) (Format.denotes value) := by
  intro input result rest
  rw [StateT.run_pure]
  constructor
  · intro returned
    cases returned
    exact ⟨[], rfl, rfl, rfl⟩
  · rintro ⟨used, rfl, rfl, rfl⟩
    rfl

theorem throw (err : ε) : Recognizes (throwThe ε err : Reader τ ε α) Format.never := by
  intro input result rest
  constructor
  · intro returned
    cases returned
  · rintro ⟨used, -, impossible⟩
    exact impossible.elim

theorem throw_bind (err : ε) (next : α → Reader τ ε β) :
    Recognizes (throwThe ε err >>= next) Format.never :=
  throw err

theorem bind (recognizes : Recognizes reader format) {next : α → Reader τ ε β}
    {nextFormat : α → Format τ β}
    (nextRecognizes : ∀ value, Recognizes (next value) (nextFormat value)) :
    Recognizes (reader >>= next) (format.bind nextFormat) := by
  intro input result rest
  rw [StateT.run_bind, bind_ok]
  constructor
  · rintro ⟨⟨value, middle⟩, read, readNext⟩
    obtain ⟨head, rfl, first⟩ := (recognizes _ _ _).mp read
    obtain ⟨tail, rfl, second⟩ := (nextRecognizes value _ _ _).mp readNext
    exact ⟨head ++ tail, (List.append_assoc ..).symm, value, head, tail, rfl, first, second⟩
  · rintro ⟨used, rfl, value, head, tail, rfl, first, second⟩
    refine ⟨(value, tail ++ rest), (recognizes _ _ _).mpr ⟨head, List.append_assoc .., first⟩, ?_⟩
    exact (nextRecognizes value _ _ _).mpr ⟨tail, rfl, second⟩

theorem map (recognizes : Recognizes reader format) (convert : α → β) :
    Recognizes (do let value ← reader; return convert value) (format.map convert) :=
  recognizes.bind fun value => .pure (convert value)

theorem item (missing : ε) : Recognizes (Reader.item missing) fun used (symbol : τ) =>
    used = [symbol] := by
  intro input symbol rest
  cases input with
  | nil =>
    constructor
    · intro returned
      cases returned
    · rintro ⟨used, same, rfl⟩
      cases same
  | cons first others =>
    constructor
    · intro returned
      cases returned
      exact ⟨[_], rfl, rfl⟩
    · rintro ⟨used, same, rfl⟩
      cases same
      rfl

theorem tagged {missing : ε} {next : τ → Reader τ ε α} {nextFormat : τ → Format τ α}
    (nextRecognizes : ∀ tag, Recognizes (next tag) (nextFormat tag)) :
    Recognizes (Reader.item missing >>= next) (Format.tagged nextFormat) := by
  apply ((item missing).bind nextRecognizes).congr
  intro used value
  constructor
  · rintro ⟨tag, head, tail, rfl, rfl, rest⟩
    exact ⟨tag, tail, rfl, rest⟩
  · rintro ⟨tag, tail, rfl, rest⟩
    exact ⟨tag, [tag], tail, rfl, rfl, rest⟩

/-- Read a value and keep what it is decoded to. -/
theorem select (recognizes : Recognizes reader format) {decode : α → Reader τ ε β}
    (holds : α → β → Prop) (selects : Selects decode holds) :
    Recognizes (reader >>= decode) fun used result => ∃ value, format used value ∧
      holds value result := by
  have decodes (value : α) : Recognizes (decode value) fun used result => used = [] ∧
      holds value result := by
    obtain ⟨result, returns, same⟩ | ⟨err, throws, none⟩ := selects value
    · rw [returns]
      exact (pure result).congr fun used other => and_congr_right fun _ => (same other).symm
    · rw [throws]
      exact (throw err).congr fun used other => ⟨False.elim, fun found => none other found.2⟩
  refine (recognizes.bind decodes).congr fun used result => ?_
  constructor
  · rintro ⟨value, head, _, rfl, first, rfl, meets⟩
    exact ⟨value, by rwa [List.append_nil], meets⟩
  · rintro ⟨value, first, meets⟩
    exact ⟨value, used, [], (List.append_nil used).symm, first, rfl, meets⟩

/-- A symbol with a meaning; the others are refused. -/
theorem oneOf {missing : ε} {decode : τ → Reader τ ε α} {table : List (τ × α)}
    (selects : Selects decode fun symbol value => (symbol, value) ∈ table) :
    Recognizes (Reader.item missing >>= decode) (Format.oneOf table) :=
  (item missing).select _ selects

theorem symbol [DecidableEq τ] (missing : ε) (wrong : τ → ε) (expected : τ) :
    Recognizes (Reader.item missing >>= fun found =>
      if found ≠ expected then throwThe ε (wrong found) else Pure.pure ())
      (Format.symbol expected) := by
  refine ((item missing).select (fun found _ => found = expected)
    fun found => ?_).congr fun used value => ?_
  · by_cases same : found = expected
    · exact .inl ⟨(), if_neg (not_not_intro same), fun _ => ⟨fun _ => rfl, fun _ => same⟩⟩
    · exact .inr ⟨wrong found, if_pos same, fun _ => same⟩
  · constructor
    · rintro ⟨_, rfl, rfl⟩
      rfl
    · rintro rfl
      exact ⟨expected, rfl, rfl⟩

/-- A symbol that must be the expected one, and what follows it. -/
theorem expect [DecidableEq τ] {missing : ε} {wrong : τ → ε} {expected : τ}
    {next : Unit → Reader τ ε α} (recognizes : Recognizes (next ()) format) :
    Recognizes (Reader.item missing >>= fun found =>
      if found ≠ expected then throwThe ε (wrong found) >>= next else next ())
      ((Format.symbol expected).bind fun _ => format) := by
  have split : (Reader.item missing >>= fun found =>
      if found ≠ expected then throwThe ε (wrong found) >>= next else next ()) =
        (Reader.item missing >>= fun found =>
          if found ≠ expected then throwThe ε (wrong found) else Pure.pure ()) >>= next := by
    rw [LawfulMonad.bind_assoc]
    congr 1
    funext found
    split_ifs with differs
    · rfl
    · rw [LawfulMonad.pure_bind]
  rw [split]
  exact (symbol missing wrong expected).bind fun _ => recognizes

theorem block (missing : ε) (length : Nat) :
    Recognizes (Reader.block missing length : Reader τ ε (List τ)) (Format.block length) := by
  intro input value rest
  unfold Reader.block
  simp only [StateT.run]
  split_ifs with short
  · constructor
    · intro returned
      cases returned
    · rintro ⟨used, rfl, rfl, rfl⟩
      rw [List.length_append] at short
      omega
  · constructor
    · intro returned
      cases returned
      refine ⟨input.take length, (List.take_append_drop ..).symm, ?_, rfl⟩
      rw [List.length_take]
      omega
    · rintro ⟨used, rfl, rfl, rfl⟩
      rw [List.take_left, List.drop_left]

/-- The one string. -/
theorem literal [DecidableEq τ] {missing : ε} {wrong : List τ → ε} (expected : List τ)
    {length : Nat} (fits : expected.length = length) :
    Recognizes (Reader.block missing length >>= fun found =>
      if found ≠ expected then throwThe ε (wrong found) else Pure.pure ())
      fun used (_ : Unit) => used = expected := by
  refine ((block missing length).select (fun found _ => found = expected)
    fun found => ?_).congr fun used value => ?_
  · by_cases same : found = expected
    · exact .inl ⟨(), if_neg (not_not_intro same), fun _ => ⟨fun _ => rfl, fun _ => same⟩⟩
    · exact .inr ⟨wrong found, if_pos same, fun _ => same⟩
  · constructor
    · rintro ⟨_, ⟨-, rfl⟩, rfl⟩
      rfl
    · rintro rfl
      exact ⟨used, ⟨fits, rfl⟩, rfl⟩

/-- A computation that does not read. -/
theorem lift {run : Except ε α} {holds : α → Prop}
    (returns : ∀ value, run = .ok value ↔ holds value) :
    Recognizes (liftM run : Reader τ ε α) fun used value => used = [] ∧ holds value := by
  intro input value rest
  constructor
  · intro returned
    obtain ⟨result, computed, same⟩ := bind_ok.mp returned
    cases same
    exact ⟨[], rfl, rfl, (returns value).mp computed⟩
  · rintro ⟨used, rfl, rfl, meets⟩
    exact bind_ok.mpr ⟨value, (returns value).mpr meets, rfl⟩

/-- A string of the length that is of the format as a whole. -/
theorem enclosed {missing : ε} {length : Nat} {run : List τ → Except ε α}
    (decides : ∀ input value, run input = .ok value ↔ format input value) :
    Recognizes (do let input ← Reader.block missing length; run input)
      (format.enclosed length) := by
  apply ((block missing length).bind fun input => .lift (decides input)).congr
  intro used value
  constructor
  · rintro ⟨_, head, _, rfl, ⟨fits, rfl⟩, rfl, inFormat⟩
    rw [List.append_nil]
    exact ⟨fits, inFormat⟩
  · rintro ⟨fits, inFormat⟩
    exact ⟨used, used, [], (List.append_nil used).symm, ⟨fits, rfl⟩, rfl, inFormat⟩

theorem many (recognizes : Recognizes reader format) (count : Nat) :
    Recognizes (reader.many count) (format.repeated count) := by
  induction count with
  | zero => exact .pure []
  | succ count ih => exact recognizes.bind fun value => ih.map fun values => value :: values

theorem whole_ok (recognizes : Recognizes reader format) {leftover : ε} {input : List τ}
    {value : α} : reader.whole leftover input = .ok value ↔ format input value := by
  unfold Reader.whole
  rw [bind_ok]
  constructor
  · rintro ⟨⟨result, rest⟩, read, checked⟩
    obtain ⟨used, rfl, inFormat⟩ := (recognizes _ _ _).mp read
    dsimp only at checked
    split_ifs at checked with ends
    · cases checked
      rwa [ends, List.append_nil]
  · intro inFormat
    exact ⟨(value, []), (recognizes _ _ _).mpr ⟨input, (List.append_nil _).symm, inFormat⟩, rfl⟩

end Recognizes

end MiniWasm.Library
