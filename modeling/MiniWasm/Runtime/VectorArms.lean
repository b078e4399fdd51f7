import MiniWasm.Library.Outcome
import MiniWasm.Runtime.Execute
import MiniWasm.Runtime.LaneArms

/-!
# No vector arm panics

Every loop over lanes stays inside the sixteen bytes of its operands and of its
result, and no plain addition, multiplication or shift overflows.
-/

namespace MiniWasm.Runtime

open Library Spec

/-! ## Loops -/

section Loops

variable {width : Nat} (known : LaneWidth width)
include known

/-- A loop over the first lanes, whose other lanes stay zero. -/
theorem laneLoop_succeeds {count : Nat} {output : Nat → Run (BitVec width)}
    (bounded : count ≤ 128 / width) (outputs : ∀ lane < count, Succeeds (output lane)) :
    Succeeds (laneLoop count output) := by
  have each (lane : Nat) : ∃ bits : BitVec width, lane < count → output lane = .ok bits := by
    by_cases below : lane < count
    · obtain ⟨bits, returned⟩ := outputs lane below
      exact ⟨bits, fun _ => returned⟩
    · exact ⟨0, fun inside => absurd inside below⟩
  choose lanes returned using each
  obtain ⟨result, ran, -, -⟩ := laneLoop_rounds known bounded returned
  exact ⟨ofBytes result, by rw [laneLoop, ran]; rfl⟩

theorem mapPure_succeeds (operation : BitVec width → BitVec width) (value : Vector128) :
    Succeeds (mapPure width operation value) :=
  .of_ok (mapPure_ok known operation value)

theorem zipPure_succeeds (operation : BitVec width → BitVec width → BitVec width)
    (lhs rhs : Vector128) : Succeeds (zipPure width operation lhs rhs) :=
  .of_ok (zipPure_ok known operation lhs rhs)

theorem zipPure3_succeeds (operation : BitVec width → BitVec width → BitVec width → BitVec width)
    (first second third : Vector128) :
    Succeeds (zipPure3 width operation first second third) :=
  .of_ok (zipLanes3_ok known (fun _ _ _ => rfl) first second third)

/-- A conversion reads no lane behind the vector. -/
theorem convertLanes_succeeds {source count : Nat} (sources : LaneWidth source)
    (reads : count ≤ 128 / source) (writes : count ≤ 128 / width)
    (operation : BitVec source → BitVec width) (value : Vector128) :
    Succeeds (convertLanes count operation value) := by
  refine laneLoop_succeeds known writes fun lane below => ?_
  rw [sources.readLane_toBytes value (Nat.lt_of_lt_of_le below reads), ok_bind]
  exact .of_ok rfl

end Loops

/-! ## Arms that widen -/

section Widths

variable {width : Nat} (known : LaneWidth width) (wide : LaneWidth (2 * width))
variable (signed : Bool)
include known wide

theorem extendHalf_succeeds (high : Bool) (value : Vector128) :
    Succeeds (extendHalf width signed high value) := by
  cases high with
  | false => exact .of_ok (extendHalf_ok known wide signed .low value)
  | true => exact .of_ok (extendHalf_ok known wide signed .high value)

omit known wide in
/-- The two values that the first source lane has. -/
theorem start_cases {start : Nat} (placed : start = 0 ∨ start = 64 / width) :
    ∃ half : Half, start = half.start width := by
  rcases placed with rfl | rfl
  · exact ⟨.low, rfl⟩
  · exact ⟨.high, rfl⟩

theorem extendFrom_succeeds {start : Nat} (placed : start = 0 ∨ start = 64 / width)
    (value : Vector128) : Succeeds (extendFrom width signed start value) := by
  obtain ⟨half, rfl⟩ := start_cases placed
  exact .of_ok (extendFrom_ok known wide signed half value)

theorem multiplyExtended_succeeds {start : Nat} (placed : start = 0 ∨ start = 64 / width)
    (lhs rhs : Vector128) : Succeeds (multiplyExtended width signed start lhs rhs) := by
  obtain ⟨half, rfl⟩ := start_cases placed
  exact .of_ok (multiplyExtended_ok known wide signed half lhs rhs)

theorem addPairwise_succeeds (value : Vector128) : Succeeds (addPairwise width signed value) :=
  .of_ok (addPairwise_ok known wide signed value)

theorem narrowLanes_succeeds (lhs rhs : Vector128) :
    Succeeds (narrowLanes width signed lhs rhs) :=
  .of_ok (narrowLanes_ok known wide signed lhs rhs)

end Widths

/-! ## Tests and shifts -/

section Tests

variable {width : Nat} (known : LaneWidth width)
include known

theorem bitmask_succeeds (negative : BitVec width → Bool) (value : Vector128) :
    Succeeds (bitmask width negative value) := by
  have small : 128 / width ≤ 32 := by
    have wide := Nat.le_of_dvd known.positive known.bytes
    have narrow : 128 / width ≤ 128 / 8 := Nat.div_le_div_left wide (by decide)
    omega
  obtain ⟨mask, ran, -⟩ := @bitmask_rounds _ value known negative _ (le_refl _) small
  exact ⟨mask, ran⟩

theorem allTrue_succeeds (value : Vector128) :
    Succeeds (do return ofCondition (← allTrue width value)) := by
  rw [allTrue_ok known]
  exact .of_ok rfl

/-- The mask keeps the amount below the width of a lane. -/
theorem shiftLanes_succeeds {mask : BitVec 32} (masked : mask.toNat < width) (position : Nat)
    (value : Vector128) (amount : BitVec 32) :
    Succeeds (shiftLanes width mask position value amount) := by
  have below : (amount &&& mask).toNat < width := by
    rw [BitVec.toNat_and]
    exact Nat.lt_of_le_of_lt Nat.and_le_right masked
  refine laneLoop_succeeds known (Nat.le_refl _) fun lane inside => ?_
  rw [known.readLane_toBytes value inside, ok_bind, shiftLane, plainShr, plainShr,
    if_pos below, if_pos below]
  split_ifs
  · exact .of_ok rfl
  · exact .of_ok rfl
  · exact .of_ok rfl

end Tests

/-! ## The tables -/

theorem simdUnary_succeeds (subopcode : Nat) :
    IfAny (fun operation => ∀ value, Succeeds (operation value)) (simdUnary subopcode) := by
  have maps {width : Nat} (known : LaneWidth width) (operation : BitVec width → BitVec width) :
      IfAny (fun operation => ∀ value, Succeeds (operation value))
        (some (mapPure width operation)) :=
    ifAny_some.mpr (mapPure_succeeds known operation)
  have converts {source width count : Nat} (sources : LaneWidth source) (known : LaneWidth width)
      (reads : count ≤ 128 / source) (writes : count ≤ 128 / width)
      (operation : BitVec source → BitVec width) :
      IfAny (fun operation => ∀ value, Succeeds (operation value))
        (some (convertLanes count operation)) :=
    ifAny_some.mpr (convertLanes_succeeds known sources reads writes operation)
  have pairs {width : Nat} (known : LaneWidth width) (wide : LaneWidth (2 * width))
      (signed : Bool) :
      IfAny (fun operation => ∀ value, Succeeds (operation value))
        (some (addPairwise width signed)) :=
    ifAny_some.mpr (addPairwise_succeeds known wide signed)
  have halves {width : Nat} (known : LaneWidth width) (wide : LaneWidth (2 * width))
      (signed high : Bool) :
      IfAny (fun operation => ∀ value, Succeeds (operation value))
        (some (extendHalf width signed high)) :=
    ifAny_some.mpr (extendHalf_succeeds known wide signed high)
  unfold simdUnary
  refine .ite (maps laneWidth8 _) <|
    .ite (converts laneWidth64 laneWidth32 (by decide) (by decide) _) <|
    .ite (converts laneWidth32 laneWidth64 (by decide) (by decide) _) <|
    .ite (maps laneWidth8 _) <| .ite (maps laneWidth8 _) <| .ite (maps laneWidth8 _) <|
    .ite (maps laneWidth32 _) <| .ite (maps laneWidth32 _) <| .ite (maps laneWidth32 _) <|
    .ite (maps laneWidth32 _) <| .ite (maps laneWidth64 _) <| .ite (maps laneWidth64 _) <|
    .ite (maps laneWidth64 _) <| .ite (maps laneWidth64 _) <|
    .ite (pairs laneWidth8 laneWidth16 _) <| .ite (pairs laneWidth16 laneWidth32 _) <|
    .ite (maps laneWidth16 _) <| .ite (maps laneWidth16 _) <|
    .ite (halves laneWidth8 laneWidth16 _ _) <|
    .ite (maps laneWidth32 _) <| .ite (maps laneWidth32 _) <|
    .ite (halves laneWidth16 laneWidth32 _ _) <|
    .ite (maps laneWidth64 _) <| .ite (maps laneWidth64 _) <| .ite ?_ <|
    .ite (maps laneWidth32 _) <| .ite (maps laneWidth32 _) <| .ite (maps laneWidth32 _) <|
    .ite (maps laneWidth64 _) <| .ite (maps laneWidth64 _) <| .ite (maps laneWidth64 _) <|
    .ite (converts laneWidth32 laneWidth32 (by decide) (by decide) _) <|
    .ite (converts laneWidth32 laneWidth32 (by decide) (by decide) _) <|
    .ite (maps laneWidth32 _) <| .ite (maps laneWidth32 _) <|
    .ite (converts laneWidth64 laneWidth32 (by decide) (by decide) _) <|
    .ite (converts laneWidth64 laneWidth32 (by decide) (by decide) _) <|
    .ite (converts laneWidth32 laneWidth64 (by decide) (by decide) _) <|
    .ite (converts laneWidth32 laneWidth64 (by decide) (by decide) _) ifAny_none
  -- the wide extensions start at the first or at the third lane
  refine ifAny_some.mpr (extendFrom_succeeds laneWidth32 laneWidth64 _ ?_)
  split_ifs
  · exact .inl rfl
  · exact .inr rfl

theorem simdBinary_succeeds (subopcode : Nat) :
    IfAny (fun operation => ∀ lhs rhs, Succeeds (operation lhs rhs)) (simdBinary subopcode) := by
  have zips {width : Nat} (known : LaneWidth width)
      (operation : BitVec width → BitVec width → BitVec width) :
      IfAny (fun operation => ∀ lhs rhs, Succeeds (operation lhs rhs))
        (some (zipPure width operation)) :=
    ifAny_some.mpr (zipPure_succeeds known operation)
  have rounds {width : Nat} (known : LaneWidth width)
      {operation : BitVec width → BitVec width → Run (BitVec width)}
      {function : BitVec width → BitVec width → BitVec width}
      (total : ∀ left right, operation left right = .ok (function left right)) :
      IfAny (fun operation => ∀ lhs rhs, Succeeds (operation lhs rhs))
        (some (zipLanes width operation)) :=
    ifAny_some.mpr fun lhs rhs => .of_ok (zipLanes_ok known total lhs rhs)
  have arithmetic {width : Nat} (known : LaneWidth width) (position : Nat) :
      IfAny (fun operation => ∀ lhs rhs, Succeeds (operation lhs rhs))
        ((arithmeticLane width position).map (zipPure width)) := by
    intro operation listed
    obtain ⟨lane, -, rfl⟩ := Option.map_eq_some_iff.mp listed
    exact zipPure_succeeds known lane
  have narrows {width : Nat} (known : LaneWidth width) (wide : LaneWidth (2 * width))
      (signed : Bool) :
      IfAny (fun operation => ∀ lhs rhs, Succeeds (operation lhs rhs))
        (some (narrowLanes width signed)) :=
    ifAny_some.mpr (narrowLanes_succeeds known wide signed)
  -- the products are of the lanes of the low or of the high half
  have products {width high : Nat} (known : LaneWidth width) (wide : LaneWidth (2 * width))
      (signed : Bool) (condition : Prop) [Decidable condition] (half : high = 64 / width) :
      IfAny (fun operation => ∀ lhs rhs, Succeeds (operation lhs rhs))
        (some (multiplyExtended width signed (if condition then 0 else high))) := by
    refine ifAny_some.mpr (multiplyExtended_succeeds known wide signed ?_)
    split_ifs
    · exact .inl rfl
    · exact .inr half
  unfold simdBinary
  refine .ite (ifAny_some.mpr fun lhs rhs => .of_ok (swizzle_ok lhs rhs)) <|
    .ite (zips laneWidth8 _) <| .ite (zips laneWidth16 _) <| .ite (zips laneWidth32 _) <|
    .ite (zips laneWidth64 _) <| .ite (zips laneWidth8 _) <| .ite (zips laneWidth8 _) <|
    .ite (zips laneWidth8 _) <| .ite (zips laneWidth8 _) <|
    .ite (narrows laneWidth8 laneWidth16 _) <| .ite (narrows laneWidth16 laneWidth32 _) <|
    .ite (arithmetic laneWidth8 _) <| .ite (zips laneWidth8 _) <| .ite (zips laneWidth8 _) <|
    .ite (rounds laneWidth8 averageLane8_ok) <| .ite (rounds laneWidth16 multiplyQ15_ok) <|
    .ite (arithmetic laneWidth16 _) <| .ite (zips laneWidth16 _) <|
    .ite (zips laneWidth16 _) <| .ite (zips laneWidth16 _) <|
    .ite (rounds laneWidth16 averageLane16_ok) <|
    .ite (products laneWidth8 laneWidth16 _ _ rfl) <|
    .ite (zips laneWidth32 _) <| .ite (zips laneWidth32 _) <| .ite (zips laneWidth32 _) <|
    .ite (zips laneWidth32 _) <| .ite (zips laneWidth32 _) <|
    .ite (ifAny_some.mpr fun lhs rhs => .of_ok (dotLanes_ok lhs rhs)) <|
    .ite (products laneWidth16 laneWidth32 _ _ rfl) <|
    .ite (zips laneWidth64 _) <| .ite (zips laneWidth64 _) <| .ite (zips laneWidth64 _) <|
    .ite (products laneWidth32 laneWidth64 _ _ rfl) <|
    .ite (zips laneWidth32 _) <| .ite (zips laneWidth64 _) <| .ite (zips laneWidth32 _) <|
    .ite (zips laneWidth32 _) <| .ite (zips laneWidth64 _) <| .ite (zips laneWidth64 _) <|
    .ite (ifAny_some.mpr fun lhs rhs => ?_) ifAny_none
  exact laneLoop_succeeds laneWidth16 (by decide) fun lane below =>
    .of_ok (pairDot_ok lhs rhs below)

theorem simdTernary_succeeds (subopcode : Nat) :
    IfAny (fun operation => ∀ first second third, Succeeds (operation first second third))
      (simdTernary subopcode) := by
  have zips {width : Nat} (known : LaneWidth width)
      (operation : BitVec width → BitVec width → BitVec width → BitVec width) :
      IfAny (fun operation => ∀ first second third, Succeeds (operation first second third))
        (some (zipPure3 width operation)) :=
    ifAny_some.mpr (zipPure3_succeeds known operation)
  unfold simdTernary
  refine .ite (ifAny_some.mpr fun lhs rhs mask => .of_ok (bitselect_ok lhs rhs mask)) <|
    .ite (zips laneWidth32 _) <| .ite (zips laneWidth32 _) <| .ite (zips laneWidth64 _) <|
    .ite (zips laneWidth64 _) <| .ite (ifAny_some.mpr fun lhs rhs addend => ?_) ifAny_none
  exact laneLoop_succeeds laneWidth32 (by decide) fun lane below =>
    .of_ok (dotAccumulate_ok lhs rhs addend below)

theorem simdShift_succeeds (subopcode : Nat) :
    IfAny (fun operation => ∀ value amount, Succeeds (operation value amount))
      (simdShift subopcode) := by
  have shifts {width : Nat} (known : LaneWidth width) {mask : BitVec 32}
      (masked : mask.toNat < width) (position : Nat) :
      IfAny (fun operation => ∀ value amount, Succeeds (operation value amount))
        (some (shiftLanes width mask position)) :=
    ifAny_some.mpr (shiftLanes_succeeds known masked position)
  unfold simdShift
  exact .ite (shifts laneWidth8 (by decide) _) <| .ite (shifts laneWidth16 (by decide) _) <|
    .ite (shifts laneWidth32 (by decide) _) <| .ite (shifts laneWidth64 (by decide) _) ifAny_none

theorem simdTest_succeeds (subopcode : Nat) :
    IfAny (fun operation => ∀ value, Succeeds (operation value)) (simdTest subopcode) := by
  have all {width : Nat} (known : LaneWidth width) :
      IfAny (fun operation => ∀ value, Succeeds (operation value))
        (some fun value => do return ofCondition (← allTrue width value)) :=
    ifAny_some.mpr (allTrue_succeeds known)
  have mask {width : Nat} (known : LaneWidth width) (negative : BitVec width → Bool) :
      IfAny (fun operation => ∀ value, Succeeds (operation value))
        (some (bitmask width negative)) :=
    ifAny_some.mpr (bitmask_succeeds known negative)
  unfold simdTest
  exact .ite (ifAny_some.mpr fun value => .of_ok rfl) <|
    .ite (all laneWidth8) <| .ite (mask laneWidth8 _) <|
    .ite (all laneWidth16) <| .ite (mask laneWidth16 _) <|
    .ite (all laneWidth32) <| .ite (mask laneWidth32 _) <|
    .ite (all laneWidth64) <| .ite (mask laneWidth64 _) ifAny_none

end MiniWasm.Runtime
