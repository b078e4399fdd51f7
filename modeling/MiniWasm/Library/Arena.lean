import Mathlib.Logic.Function.Basic
import Mathlib.Tactic.Common

/-!
# Arenas of mutable cells

Cells that are created once and afterwards shared by address.  Every address
has a cell; the ones from `size` on have not been handed out.
-/

namespace MiniWasm.Library

structure Arena (α : Type) where
  cells : Nat → α
  size : Nat

namespace Arena

variable {α : Type} (arena : Arena α)

/-- The arena before its first allocation. -/
def empty (blank : α) : Arena α where
  cells _ := blank
  size := 0

def get (address : Nat) : α :=
  arena.cells address

def set (address : Nat) (value : α) : Arena α :=
  { arena with cells := Function.update arena.cells address value }

/-- A fresh address and the arena that holds the value there. -/
def alloc (value : α) : Nat × Arena α :=
  (arena.size,
    { cells := Function.update arena.cells arena.size value, size := arena.size + 1 })

@[simp] theorem get_set_self (address : Nat) (value : α) :
    (arena.set address value).get address = value :=
  Function.update_self ..

theorem get_set_of_ne {address other : Nat} (value : α) (ne : other ≠ address) :
    (arena.set address value).get other = arena.get other :=
  Function.update_of_ne ne ..

theorem get_set (address other : Nat) (value : α) :
    (arena.set address value).get other =
      if other = address then value else arena.get other := by
  split_ifs with same
  · rw [same, get_set_self]
  · exact arena.get_set_of_ne value same

@[simp] theorem size_set (address : Nat) (value : α) :
    (arena.set address value).size = arena.size :=
  rfl

theorem get_alloc_of_lt {other : Nat} (value : α) (allocated : other < arena.size) :
    (arena.alloc value).2.get other = arena.get other :=
  Function.update_of_ne (Nat.ne_of_lt allocated) ..

theorem get_alloc (other : Nat) (value : α) :
    (arena.alloc value).2.get other =
      if other = arena.size then value else arena.get other := by
  split_ifs with same
  · rw [same]
    exact Function.update_self ..
  · exact Function.update_of_ne same ..

end Arena

end MiniWasm.Library
