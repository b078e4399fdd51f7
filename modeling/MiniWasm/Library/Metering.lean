import Mathlib.Logic.Function.Iterate
import Mathlib.Tactic.Common

/-!
# Metered processes

A process that pays for some of its steps, run without a budget and with one.
The run with a budget is the run without one, cut at the first step that it
cannot pay for.
-/

namespace MiniWasm.Library.Metering

/-- One step of a process, the states whose step is paid for, and the same state
with a budget. -/
structure Process (State : Type) where
  next : State → State
  charged : State → Bool
  limited : (budget : Nat) → State → State
  /-- Where a step that cannot be paid for leads. -/
  exhausted : State → State
  /-- States of the run without a budget. -/
  unlimited : State → Prop

variable {State : Type}

/-- A step that is paid for takes one from the budget and does the same; the
charge comes before any effect of the step. -/
structure Process.Lawful (process : Process State) : Prop where
  next : ∀ state, process.unlimited state → process.unlimited (process.next state)
  free : ∀ budget state, process.unlimited state → process.charged state = false →
    process.next (process.limited budget state) = process.limited budget (process.next state)
  paid : ∀ budget state, process.unlimited state → process.charged state = true →
    process.next (process.limited (budget + 1) state) =
      process.limited budget (process.next state)
  unpaid : ∀ state, process.unlimited state → process.charged state = true →
    process.next (process.limited 0 state) = process.exhausted state
  ended : ∀ state, process.next (process.exhausted state) = process.exhausted state

variable (process : Process State)

def run (steps : Nat) (state : State) : State :=
  process.next^[steps] state

/-- How many of the given number of steps are paid for. -/
def spent : (steps : Nat) → State → Nat
  | 0, _ => 0
  | steps + 1, state => (process.charged state).toNat + spent steps (process.next state)

/-- The run without a budget has paid for all of its budget after `prior` steps,
and would pay for the next step. -/
structure CutAt (budget prior : Nat) (state : State) : Prop where
  spent : spent process prior state = budget
  charged : process.charged (run process prior state) = true

theorem run_succ (steps : Nat) (state : State) :
    run process (steps + 1) state = run process steps (process.next state) :=
  rfl

variable {process}

theorem run_exhausted (lawful : process.Lawful) (steps : Nat) (state : State) :
    run process steps (process.exhausted state) = process.exhausted state := by
  induction steps with
  | zero => rfl
  | succ steps ih => rw [run_succ, lawful.ended, ih]

theorem CutAt.succ {budget prior : Nat} {state : State}
    (cut : CutAt process budget prior (process.next state)) :
    CutAt process ((process.charged state).toNat + budget) (prior + 1) state where
  spent := by rw [Metering.spent, cut.spent]
  charged := cut.charged

/-- Past the cut the run has paid for more than the budget. -/
theorem CutAt.lt_spent {budget prior steps : Nat} {state : State}
    (cut : CutAt process budget prior state) (before : prior < steps) :
    budget < Metering.spent process steps state := by
  induction prior generalizing budget steps state with
  | zero =>
      cases steps with
      | zero => cases before
      | succ steps =>
          have charged : process.charged state = true := cut.charged
          rw [← cut.spent, Metering.spent, Metering.spent, charged]
          exact Nat.add_pos_left Nat.one_pos _
  | succ prior ih =>
      cases steps with
      | zero => cases before
      | succ steps =>
          have later : CutAt process (Metering.spent process prior (process.next state)) prior
              (process.next state) :=
            ⟨rfl, cut.charged⟩
          rw [← cut.spent, Metering.spent, Metering.spent]
          exact Nat.add_lt_add_left (ih later (Nat.lt_of_succ_lt_succ before)) _

/-- The run with a budget is that without one while the budget lasts, and ends
before the first step that it cannot pay for. -/
theorem run_limited (lawful : process.Lawful) (budget steps : Nat) {state : State}
    (unlimited : process.unlimited state) :
    (spent process steps state ≤ budget ∧
      run process steps (process.limited budget state) =
        process.limited (budget - spent process steps state) (run process steps state)) ∨
    (∃ prior, prior < steps ∧ CutAt process budget prior state ∧
      run process steps (process.limited budget state) =
        process.exhausted (run process prior state)) := by
  induction steps generalizing budget state with
  | zero => exact .inl ⟨Nat.zero_le _, rfl⟩
  | succ steps ih =>
      have unlimitedNext := lawful.next state unlimited
      cases charged : process.charged state with
      | false =>
          rw [run_succ, lawful.free budget state unlimited charged]
          rcases ih budget unlimitedNext with ⟨within, same⟩ | ⟨prior, before, cut, same⟩
          · left
            rw [spent, charged, same, Bool.toNat_false, Nat.zero_add]
            exact ⟨within, rfl⟩
          · right
            have cutHere := cut.succ
            rw [charged, Bool.toNat_false, Nat.zero_add] at cutHere
            exact ⟨prior + 1, Nat.succ_lt_succ before, cutHere, same⟩
      | true =>
          cases budget with
          | zero =>
              right
              refine ⟨0, Nat.succ_pos _, ⟨rfl, charged⟩, ?_⟩
              rw [run_succ, lawful.unpaid state unlimited charged]
              exact run_exhausted lawful steps state
          | succ budget =>
              rw [run_succ, lawful.paid budget state unlimited charged]
              rcases ih budget unlimitedNext with ⟨within, same⟩ | ⟨prior, before, cut, same⟩
              · left
                rw [spent, charged, same, Bool.toNat_true, Nat.add_comm 1, Nat.add_sub_add_right]
                exact ⟨Nat.succ_le_succ within, rfl⟩
              · right
                have cutHere := cut.succ
                rw [charged, Bool.toNat_true, Nat.add_comm] at cutHere
                exact ⟨prior + 1, Nat.succ_lt_succ before, cutHere, same⟩

/-- A step that is not paid for ends the process or brings it closer to its next
step that is paid for. -/
structure Process.Progresses (process : Process State) (final : State → Prop)
    (rank : State → Nat) : Prop where
  next : ∀ state, ¬ final state → process.charged state = false →
    final (process.next state) ∨ rank (process.next state) < rank state
  limited : ∀ budget state, final (process.limited budget state) ↔ final state
  exhausted : ∀ state, final (process.exhausted state)

/-- Steps that are not paid for lead to the end or to a step that is. -/
theorem exists_charged_or_final {final : State → Prop} {rank : State → Nat}
    (progresses : process.Progresses final rank) (state : State) :
    ∃ steps, spent process steps state = 0 ∧
      (final (run process steps state) ∨ process.charged (run process steps state) = true) := by
  induction known : rank state using Nat.strongRecOn generalizing state with
  | ind measure ih =>
      subst known
      by_cases ended : final state
      · exact ⟨0, rfl, .inl ended⟩
      cases charged : process.charged state with
      | true => exact ⟨0, rfl, .inr charged⟩
      | false =>
          have free : spent process 1 state = 0 := by rw [spent, charged]; rfl
          rcases progresses.next state ended charged with endsNext | closer
          · exact ⟨1, free, .inl endsNext⟩
          · obtain ⟨steps, freeRest, reached⟩ := ih _ closer (process.next state) rfl
            refine ⟨steps + 1, ?_, reached⟩
            rw [spent, charged, freeRest]
            rfl

theorem run_unlimited (lawful : process.Lawful) (steps : Nat) {state : State}
    (unlimited : process.unlimited state) : process.unlimited (run process steps state) := by
  induction steps generalizing state with
  | zero => exact unlimited
  | succ steps ih => exact ih (lawful.next state unlimited)

theorem run_add (first second : Nat) (state : State) :
    run process (first + second) state = run process second (run process first state) := by
  rw [run, Nat.add_comm, Function.iterate_add_apply]
  rfl

/-- Nothing is cut from steps that are not paid for. -/
theorem run_limited_free (lawful : process.Lawful) (budget steps : Nat) {state : State}
    (unlimited : process.unlimited state) (free : spent process steps state = 0) :
    run process steps (process.limited budget state) =
      process.limited budget (run process steps state) := by
  induction steps generalizing state with
  | zero => rfl
  | succ steps ih =>
      rw [spent, Nat.add_eq_zero_iff] at free
      have uncharged : process.charged state = false := by
        cases charged : process.charged state with
        | false => rfl
        | true => rw [charged] at free; cases free.1
      rw [run_succ, run_succ, lawful.free budget state unlimited uncharged]
      exact ih (lawful.next state unlimited) free.2

/-- A run with a budget ends. -/
theorem exists_final (lawful : process.Lawful) {final : State → Prop} {rank : State → Nat}
    (progresses : process.Progresses final rank) (budget : Nat) {state : State}
    (unlimited : process.unlimited state) :
    ∃ steps, final (run process steps (process.limited budget state)) := by
  induction budget generalizing state with
  | zero =>
      obtain ⟨steps, free, reached⟩ := exists_charged_or_final progresses state
      have same := run_limited_free lawful 0 steps unlimited free
      rcases reached with ended | charged
      · exact ⟨steps, by rw [same]; exact (progresses.limited ..).mpr ended⟩
      · refine ⟨steps + 1, ?_⟩
        rw [run_add, same, run_succ,
          lawful.unpaid _ (run_unlimited lawful steps unlimited) charged]
        exact progresses.exhausted _
  | succ budget ih =>
      obtain ⟨steps, free, reached⟩ := exists_charged_or_final progresses state
      have same := run_limited_free lawful (budget + 1) steps unlimited free
      have unlimitedThere := run_unlimited lawful steps unlimited
      rcases reached with ended | charged
      · exact ⟨steps, by rw [same]; exact (progresses.limited ..).mpr ended⟩
      · obtain ⟨rest, ends⟩ := ih (lawful.next _ unlimitedThere)
        refine ⟨steps + (rest + 1), ?_⟩
        rw [run_add, same, run_succ, lawful.paid budget _ unlimitedThere charged]
        exact ends

end MiniWasm.Library.Metering
