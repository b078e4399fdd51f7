import Mathlib.Algebra.GroupWithZero.Nat
import Mathlib.Tactic.Common
import MiniWasm.Library.Overwrite

/-!
# Scattering and gathering

A run of values is cut into consecutive slices, one for each buffer of a list, and every
slice is written into its buffer.  Buffers that do not overlap receive every value that
fits exactly once, in the order of the list.
-/

namespace MiniWasm.Library

variable {α : Type}

/-- A position and a length. -/
abbrev Buffer := Nat × Nat

/-- The position lies in the buffer. -/
def Buffer.Holds (buffer : Buffer) (position : Nat) : Prop :=
  buffer.1 ≤ position ∧ position < buffer.1 + buffer.2

instance (buffer : Buffer) (position : Nat) : Decidable (buffer.Holds position) :=
  inferInstanceAs (Decidable (_ ∧ _))

/-- No position lies in two of the buffers. -/
def Apart (buffers : List Buffer) : Prop :=
  buffers.Pairwise fun first second =>
    ∀ position, first.Holds position → ¬ second.Holds position

/-- Every buffer lies within the values. -/
def Fitting (values : List α) (buffers : List Buffer) : Prop :=
  ∀ buffer ∈ buffers, buffer.1 + buffer.2 ≤ values.length

/-- How many values the buffers hold together. -/
def capacity (buffers : List Buffer) : Nat :=
  (buffers.map Prod.snd).sum

@[simp] theorem capacity_nil : capacity [] = 0 :=
  rfl

@[simp] theorem capacity_cons (buffer : Buffer) (buffers : List Buffer) :
    capacity (buffer :: buffers) = buffer.2 + capacity buffers :=
  List.sum_cons

theorem Fitting.nil {values : List α} : Fitting values [] := by
  intro buffer member
  cases member

theorem Fitting.cons {values : List α} {buffer : Buffer} {buffers : List Buffer}
    (fits : buffer.1 + buffer.2 ≤ values.length) (rest : Fitting values buffers) :
    Fitting values (buffer :: buffers) :=
  List.forall_mem_cons.mpr ⟨fits, rest⟩

/-- Which of the values a position receives. -/
def slot : List Buffer → Nat → Option Nat
  | [], _ => none
  | buffer :: buffers, position =>
      if buffer.Holds position then some (position - buffer.1)
      else (slot buffers position).map (buffer.2 + ·)

/-- Write each slice into its buffer. -/
def scatter (values : List α) : List Buffer → List α → List α
  | [], _ => values
  | buffer :: buffers, payload =>
      scatter (overwrite values buffer.1 (payload.take buffer.2)) buffers
        (payload.drop buffer.2)

/-- The contents of the buffers, one after the other. -/
def gather (values : List α) (buffers : List Buffer) : List α :=
  buffers.flatMap fun buffer => (values.drop buffer.1).take buffer.2

theorem gather_length {values : List α} {buffers : List Buffer} (fits : Fitting values buffers) :
    (gather values buffers).length = capacity buffers := by
  induction buffers with
  | nil => rfl
  | cons buffer buffers ih =>
    obtain ⟨first, rest⟩ := List.forall_mem_cons.mp fits
    rw [capacity_cons, gather, List.flatMap_cons, List.length_append, List.length_take,
      List.length_drop, ← gather, ih rest]
    omega

/-- The positions that have a slot hold what the payload has there, and every other one
holds what it held. -/
structure Delivered (values : List α) (buffers : List Buffer) (payload after : List α) :
    Prop where
  length : after.length = values.length
  entries : ∀ position < values.length,
    after[position]? = ((slot buffers position).bind (payload[·]?)).or values[position]?

@[simp] theorem scatter_length (values : List α) (buffers : List Buffer) (payload : List α) :
    (scatter values buffers payload).length = values.length := by
  induction buffers generalizing values payload with
  | nil => rfl
  | cons buffer buffers ih => rw [scatter, ih, overwrite_length]

@[simp] theorem scatter_nil (values : List α) (buffers : List Buffer) :
    scatter values buffers [] = values := by
  induction buffers generalizing values with
  | nil => rfl
  | cons buffer buffers ih => rw [scatter, List.take_nil, List.drop_nil, overwrite_nil, ih]

theorem slot_eq_none {buffers : List Buffer} {position : Nat}
    (outside : ∀ buffer ∈ buffers, ¬ buffer.Holds position) : slot buffers position = none := by
  induction buffers with
  | nil => rfl
  | cons buffer buffers ih =>
    rw [slot, if_neg (outside buffer List.mem_cons_self),
      ih fun other member => outside other (List.mem_cons_of_mem _ member)]
    rfl

/-- What a position holds after all slices are written. -/
theorem scatter_delivered {values : List α} {buffers : List Buffer} {payload : List α}
    (apart : Apart buffers) :
    Delivered values buffers payload (scatter values buffers payload) where
  length := scatter_length values buffers payload
  entries := by
    induction buffers generalizing values payload with
    | nil =>
      intro position inside
      rfl
    | cons buffer buffers ih =>
      obtain ⟨first, others⟩ := List.pairwise_cons.mp apart
      intro position inside
      have rest := @ih (overwrite values buffer.1 (payload.take buffer.2))
        (payload.drop buffer.2) others position (by rwa [overwrite_length])
      rw [scatter, rest, slot, getElem?_overwrite, List.getElem?_eq_getElem inside]
      by_cases here : buffer.Holds position
      · have elsewhere : slot buffers position = none :=
          slot_eq_none fun other member => first other member position here
        have within : position - buffer.1 < buffer.2 := by
          have := here.2
          have := here.1
          omega
        rw [elsewhere, if_pos here, Option.map_some, if_pos here.1, List.getElem?_take,
          if_pos within, Option.bind_none, Option.none_or, Option.bind_some]
        cases payload[position - buffer.1]? <;> rfl
      · have outside : (if buffer.1 ≤ position then
            ((payload.take buffer.2)[position - buffer.1]?).getD values[position]
            else values[position]) = values[position] := by
          split_ifs with after
          · have beyond : ¬ position - buffer.1 < buffer.2 :=
              fun within => here ⟨after, by omega⟩
            rw [List.getElem?_take, if_neg beyond]
            rfl
          · rfl
        rw [if_neg here, Option.map_some, outside]
        cases slot buffers position with
        | none => rfl
        | some index => simp [List.getElem?_drop]

/-- Every value that fits has exactly one place. -/
theorem existsUnique_slot {buffers : List Buffer} (apart : Apart buffers) {index : Nat}
    (fits : index < capacity buffers) :
    ∃ position, slot buffers position = some index ∧
      ∀ other, slot buffers other = some index → other = position := by
  induction buffers generalizing index with
  | nil => cases fits
  | cons buffer buffers ih =>
    obtain ⟨first, others⟩ := List.pairwise_cons.mp apart
    rw [capacity_cons] at fits
    by_cases here : index < buffer.2
    · have inside : buffer.Holds (buffer.1 + index) := ⟨Nat.le_add_right .., by omega⟩
      refine ⟨buffer.1 + index, ?_, ?_⟩
      · rw [slot, if_pos inside, Nat.add_sub_cancel_left]
      · intro other found
        unfold slot at found
        split_ifs at found with holds
        · have := holds.1
          simp only [Option.some.injEq] at found
          omega
        · obtain ⟨later, -, same⟩ := Option.map_eq_some_iff.mp found
          omega
    · have later : index - buffer.2 < capacity buffers := by omega
      obtain ⟨position, found, unique⟩ := ih others later
      have outside : ¬ buffer.Holds position := by
        intro holds
        rw [slot_eq_none fun other member => first other member position holds] at found
        cases found
      refine ⟨position, ?_, ?_⟩
      · rw [slot, if_neg outside, found, Option.map_some, Nat.add_sub_cancel' (by omega)]
      · intro other otherFound
        unfold slot at otherFound
        split_ifs at otherFound with holds
        · have := holds.2
          have := holds.1
          simp only [Option.some.injEq] at otherFound
          omega
        · obtain ⟨later, laterFound, same⟩ := Option.map_eq_some_iff.mp otherFound
          apply unique
          rw [laterFound, Option.some.injEq]
          omega

end MiniWasm.Library
