import Mathlib.Logic.Relation
import MiniWasm.Library.Result

/-!
# Loops over a string of bytes

A loop that fetches an opcode, handles it, and goes on where the handler stopped
reading.  If the handler always stops at a position that the bytes alone
determine, then the loop visits the positions of a chain, whatever state it
carries along.
-/

namespace MiniWasm.Library

variable {ε S : Type}

/-- The loop, bounded by a number of rounds. -/
def readLoop (code : List UInt8) (step : Nat → UInt8 → S → Except ε (S × Nat)) :
    (rounds : Nat) → S × Nat → Except ε (S × Nat)
  | 0, current => .ok current
  | rounds + 1, (state, pc) =>
      match code[pc]? with
      | none => .ok (state, pc)
      | some opcode => do
          let current ← step pc opcode state
          readLoop code step rounds current

/-- The states and positions that the loop passes through. -/
inductive Reaches (code : List UInt8) (step : Nat → UInt8 → S → Except ε (S × Nat))
    (first : S) : S → Nat → Prop where
  | start : Reaches code step first first 0
  | next {state after : S} {pc pc' : Nat} {opcode : UInt8} :
      Reaches code step first state pc →
      code[pc]? = some opcode →
      step pc opcode state = .ok (after, pc') →
      Reaches code step first after pc'

section Reaches

variable {code : List UInt8} {step : Nat → UInt8 → S → Except ε (S × Nat)} {first : S}
variable {ends : Nat → Option Nat} {last : S × Nat}

/-- What is left of a successful run at a state that it passes through. -/
theorem Reaches.rest {state : S} {pc : Nat} (reached : Reaches code step first state pc)
    (run : readLoop code step code.length (first, 0) = .ok last)
    (ahead : ∀ {state after : S} {pc pc' : Nat} {opcode : UInt8},
      Reaches code step first state pc → code[pc]? = some opcode →
      step pc opcode state = .ok (after, pc') → pc < pc') :
    ∃ rounds, code.length ≤ pc + rounds ∧ readLoop code step rounds (state, pc) = .ok last := by
  induction reached with
  | start => exact ⟨code.length, Nat.le_add_left .., run⟩
  | @next state after pc pc' opcode before found stepped ih =>
      obtain ⟨rounds, enough, rest⟩ := ih
      have inside := (List.getElem?_eq_some_iff.mp found).1
      have further := ahead before found stepped
      cases rounds with
      | zero => omega
      | succ rounds =>
          simp only [readLoop, found, stepped, ok_bind] at rest
          exact ⟨rounds, by omega, rest⟩

/-- A successful run visits exactly the chain of the positions where one
instruction ends and the next one starts. -/
theorem exists_reaches_iff (run : readLoop code step code.length (first, 0) = .ok last)
    (agrees : ∀ {state after : S} {pc pc' : Nat} {opcode : UInt8},
      Reaches code step first state pc → code[pc]? = some opcode →
      step pc opcode state = .ok (after, pc') → ends pc = some pc')
    (ahead : ∀ {pc pc' : Nat}, ends pc = some pc' → pc < pc' ∧ pc < code.length) {pc : Nat} :
    (∃ state, Reaches code step first state pc) ↔
      Relation.ReflTransGen (fun pc pc' => ends pc = some pc') 0 pc := by
  constructor
  · rintro ⟨state, reached⟩
    induction reached with
    | start => exact .refl
    | next before found stepped ih => exact ih.tail (agrees before found stepped)
  · intro chain
    induction chain with
    | refl => exact ⟨first, .start⟩
    | @tail middle pc _ ended ih =>
        obtain ⟨state, reached⟩ := ih
        obtain ⟨further, inside⟩ := ahead ended
        obtain ⟨rounds, enough, rest⟩ := reached.rest run fun before found stepped =>
          (ahead (agrees before found stepped)).1
        obtain ⟨opcode, found⟩ : ∃ opcode, code[middle]? = some opcode :=
          ⟨_, List.getElem?_eq_getElem inside⟩
        cases rounds with
        | zero => omega
        | succ rounds =>
            simp only [readLoop, found, bind_ok, Prod.exists] at rest
            obtain ⟨after, pc', stepped, -⟩ := rest
            cases ended.symm.trans (agrees reached found stepped)
            exact ⟨after, reached.next found stepped⟩

end Reaches

end MiniWasm.Library
