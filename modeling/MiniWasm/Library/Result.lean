import Mathlib.Tactic.Common

/-!
# Fallible computations and checked loops

Inversion of monadic binds in `Except`, and loops that check every entry of a
list and stop at the first failure.
-/

namespace MiniWasm.Library

variable {ε α β : Type}

/-- A sequence succeeds if both parts do. -/
theorem bind_ok {first : Except ε α} {next : α → Except ε β} {value : β} :
    first >>= next = .ok value ↔ ∃ middle, first = .ok middle ∧ next middle = .ok value := by
  cases first <;> simp [bind, Except.bind]

theorem bind_some {first : Option α} {next : α → Option β} {value : β} :
    first >>= next = some value ↔
      ∃ middle, first = some middle ∧ next middle = some value := by
  cases first <;> simp [bind, Option.bind]

@[simp] theorem ok_bind (value : α) (next : α → Except ε β) :
    (Except.ok value : Except ε α) >>= next = next value :=
  rfl

@[simp] theorem error_bind (err : ε) (next : α → Except ε β) :
    (Except.error err : Except ε α) >>= next = .error err :=
  rfl

theorem pure_ok (value : α) : (pure value : Except ε α) = .ok value :=
  rfl

theorem ite_cases {condition : Prop} [Decidable condition] {yes no value : α}
    (result : (if condition then yes else no) = value) :
    condition ∧ yes = value ∨ ¬ condition ∧ no = value := by
  by_cases holds : condition
  · exact .inl ⟨holds, by rwa [if_pos holds] at result⟩
  · exact .inr ⟨holds, by rwa [if_neg holds] at result⟩

/-! ## Entries that may be missing -/

/-- The entry has the property, if there is one. -/
def IfAny {γ : Type} (property : γ → Prop) (entry : Option γ) : Prop :=
  ∀ value, entry = some value → property value

theorem ifAny_some {γ : Type} {property : γ → Prop} {value : γ} :
    IfAny property (some value) ↔ property value := by
  simp [IfAny]

theorem ifAny_none {γ : Type} {property : γ → Prop} : IfAny property none := by
  simp [IfAny]

theorem IfAny.ite {γ : Type} {property : γ → Prop} {condition : Prop} [Decidable condition]
    {yes no : Option γ} (whenYes : IfAny property yes) (whenNo : IfAny property no) :
    IfAny property (if condition then yes else no) := by
  split_ifs
  · exact whenYes
  · exact whenNo

/-! ## Errors that can be raised -/

/-- Every error of the computation is an allowed one. -/
def Raises (allowed : ε → Prop) (run : Except ε α) : Prop :=
  ∀ err, run = .error err → allowed err

section Raises

variable {allowed : ε → Prop}

@[simp] theorem raises_ok (value : α) : Raises allowed (.ok value) := by
  intro err failed
  cases failed

@[simp] theorem raises_pure (value : α) : Raises allowed (pure value : Except ε α) :=
  raises_ok value

@[simp] theorem raises_error (err : ε) :
    Raises allowed (.error err : Except ε α) ↔ allowed err := by
  simp [Raises]

/-- The second part matters for the values that the first returns. -/
@[simp] theorem raises_bind (first : Except ε α) (next : α → Except ε β) :
    Raises allowed (first >>= next) ↔
      Raises allowed first ∧ ∀ value, first = .ok value → Raises allowed (next value) := by
  cases first with
  | error err => simp [Raises, error_bind]
  | ok value => simp [ok_bind]

@[simp] theorem raises_map (convert : α → β) (run : Except ε α) :
    Raises allowed (convert <$> run) ↔ Raises allowed run := by
  cases run <;> simp [Raises, Functor.map, Except.map]

/-- The errors of another type are covered by what they are converted to. -/
theorem raises_mapError {δ : Type} {convert : δ → ε} {run : Except δ α}
    (converted : ∀ err, run = .error err → allowed (convert err)) :
    Raises allowed (run.mapError convert) := by
  intro err failed
  cases run with
  | error inner =>
    cases failed
    exact converted inner rfl
  | ok value => cases failed

@[simp] theorem raises_ite (condition : Prop) [Decidable condition] (yes no : Except ε α) :
    Raises allowed (if condition then yes else no) ↔
      (condition → Raises allowed yes) ∧ (¬ condition → Raises allowed no) := by
  split_ifs with holds <;> simp [holds]

/-- A loop raises what its body raises. -/
theorem raises_foldlM {β : Type} {step : β → α → Except ε β}
    (steps : ∀ state item, Raises allowed (step state item)) (items : List α) (state : β) :
    Raises allowed (items.foldlM step state) := by
  induction items generalizing state with
  | nil => exact raises_pure state
  | cons item items ih =>
    rw [List.foldlM_cons, raises_bind]
    exact ⟨steps state item, fun next _ => ih next⟩

/-- A conjunction of tests that cannot fail. -/
theorem allM_ok {test : α → Except ε Bool} {property : α → Bool} {items : List α}
    (tests : ∀ item ∈ items, test item = .ok (property item)) :
    items.allM test = .ok (items.all property) := by
  induction items with
  | nil => rfl
  | cons item items ih =>
    rw [List.allM, tests item (List.mem_cons_self ..), ok_bind, List.all_cons]
    cases property item with
    | true => exact ih fun other member => tests other (List.mem_cons_of_mem _ member)
    | false => rfl

theorem raises_allM {test : α → Except ε Bool} (tests : ∀ item, Raises allowed (test item))
    (items : List α) : Raises allowed (items.allM test) := by
  induction items with
  | nil => exact raises_pure true
  | cons item items ih =>
    rw [List.allM, raises_bind]
    refine ⟨tests item, fun passed _ => ?_⟩
    cases passed with
    | true => exact ih
    | false => exact raises_pure false

/-- A wider class of errors is a weaker statement. -/
theorem Raises.mono {wider : ε → Prop} {run : Except ε α} (raises : Raises allowed run)
    (weaken : ∀ err, allowed err → wider err) : Raises wider run :=
  fun err failed => weaken err (raises err failed)

end Raises

/-! ## Results that can be returned -/

/-- Every result of the computation satisfies the postcondition. -/
def Ensures (post : α → Prop) (run : Except ε α) : Prop :=
  ∀ value, run = .ok value → post value

section Ensures

variable {post : α → Prop}

@[simp] theorem ensures_ok (value : α) :
    Ensures post (.ok value : Except ε α) ↔ post value := by
  simp [Ensures]

@[simp] theorem ensures_pure (value : α) :
    Ensures post (pure value : Except ε α) ↔ post value :=
  ensures_ok value

@[simp] theorem ensures_error (err : ε) : Ensures post (.error err : Except ε α) := by
  intro value returned
  cases returned

/-- The postcondition of a sequence is that of its second part. -/
@[simp] theorem ensures_bind {post : β → Prop} (first : Except ε α) (next : α → Except ε β) :
    Ensures post (first >>= next) ↔ Ensures (fun value => Ensures post (next value)) first := by
  cases first with
  | error err => simp [error_bind]
  | ok value => simp [ok_bind]

@[simp] theorem ensures_map {post : β → Prop} (convert : α → β) (run : Except ε α) :
    Ensures post (convert <$> run) ↔ Ensures (fun value => post (convert value)) run := by
  cases run <;> simp [Ensures, Functor.map, Except.map]

@[simp] theorem ensures_ite (condition : Prop) [Decidable condition] (yes no : Except ε α) :
    Ensures post (if condition then yes else no) ↔
      (condition → Ensures post yes) ∧ (¬ condition → Ensures post no) := by
  split_ifs with holds <;> simp [holds]

/-- Both branches are to be proved, whatever the condition. -/
theorem Ensures.ite {condition : Prop} [Decidable condition] {yes no : Except ε α}
    (first : Ensures post yes) (second : Ensures post no) :
    Ensures post (if condition then yes else no) := by
  split
  · exact first
  · exact second

/-- A postcondition may be weakened. -/
theorem Ensures.mono {weaker : α → Prop} {run : Except ε α} (ensures : Ensures post run)
    (weaken : ∀ value, post value → weaker value) : Ensures weaker run :=
  fun value returned => weaken value (ensures value returned)

end Ensures

/-- A loop over a list with the index of each entry. -/
def checkEach (check : Nat → α → Except ε Unit) : Nat → List α → Except ε Unit
  | _, [] => .ok ()
  | index, value :: rest => do
      check index value
      checkEach check (index + 1) rest

theorem checkEach_ok_iff {check : Nat → α → Except ε Unit} {start : Nat}
    {values : List α} :
    checkEach check start values = .ok () ↔
      ∀ (index : Nat) (value : α), values[index]? = some value →
        check (start + index) value = .ok () := by
  induction values generalizing start with
  | nil => simp [checkEach]
  | cons head rest ih =>
      simp only [checkEach, bind_ok]
      constructor
      · rintro ⟨_, headCheck, restCheck⟩ index value found
        cases index with
        | zero =>
            simp only [List.getElem?_cons_zero, Option.some.injEq] at found
            subst found
            exact headCheck
        | succ index =>
            have := ih.mp restCheck index value (by simpa using found)
            rwa [Nat.add_right_comm] at this
      · intro every
        refine ⟨(), every 0 head rfl, ih.mpr ?_⟩
        intro index value found
        have := every (index + 1) value (by simpa using found)
        rwa [← Nat.add_assoc, Nat.add_right_comm] at this

end MiniWasm.Library
