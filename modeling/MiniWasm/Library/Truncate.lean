import Mathlib.Data.List.Basic

/-!
# Truncated stacks

`Vec::truncate` for stacks that are lists with their top at the head, so that
truncating keeps the tail of a given length.
-/

namespace MiniWasm.Library

variable {α : Type}

/-- The lowest entries of a stack whose top is its head. -/
def truncate (stack : List α) (height : Nat) : List α :=
  stack.drop (stack.length - height)

/-- Truncation removes what was pushed above the height. -/
@[simp] theorem truncate_append (above below : List α) :
    truncate (above ++ below) below.length = below := by
  simp [truncate]

theorem truncate_eq_of_append {above below : List α} {height : Nat}
    (heightEq : below.length = height) : truncate (above ++ below) height = below := by
  subst heightEq
  exact truncate_append above below

@[simp] theorem truncate_length (stack : List α) (height : Nat) :
    (truncate stack height).length = min stack.length height := by
  simp only [truncate, List.length_drop]
  omega

/-- A stack that is short enough stays as it is. -/
theorem truncate_of_le {stack : List α} {height : Nat} (short : stack.length ≤ height) :
    truncate stack height = stack := by
  simp [truncate, Nat.sub_eq_zero_of_le short]

end MiniWasm.Library
