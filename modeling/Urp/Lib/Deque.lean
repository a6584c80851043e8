import Mathlib.Algebra.Order.Ring.Nat

/-!
# Queues with a reserved room
-/

namespace Urp.Lib

universe u

structure Deque (α : Type u) where
  entries : List α
  capacity : Nat
  fits : entries.length ≤ capacity

namespace Deque

variable {α : Type u}

def empty : Deque α := ⟨[], 0, Nat.le_refl 0⟩

def tryAppend (q : Deque α) (xs : List α) (spare : Option Nat) : Option (Deque α) :=
  if room : q.entries.length + xs.length ≤ q.capacity then
    some ⟨q.entries ++ xs, q.capacity, by simpa using room⟩
  else
    spare.map fun more =>
      ⟨q.entries ++ xs, q.entries.length + xs.length + more, by simp⟩

def popFront (q : Deque α) : Deque α :=
  ⟨q.entries.tail, q.capacity, by
    rw [List.length_tail]
    exact Nat.le_trans (Nat.sub_le _ _) q.fits⟩

theorem tryAppend_eq_none {q : Deque α} {xs : List α} {spare : Option Nat} :
    q.tryAppend xs spare = none ↔ q.capacity < q.entries.length + xs.length ∧ spare = none := by
  unfold tryAppend
  split
  case isTrue room => simp [Nat.not_lt.mpr room]
  case isFalse full => simp [Nat.not_le.mp full]

theorem tryAppend_spare (q : Deque α) (xs : List α) (more : Nat) :
    ∃ q', q.tryAppend xs (some more) = some q' ∧ q'.entries = q.entries ++ xs := by
  unfold tryAppend
  split <;> exact ⟨_, rfl, rfl⟩

theorem tryAppend_nil (q : Deque α) (spare : Option Nat) : q.tryAppend [] spare ≠ none := by
  intro refused
  have full := (tryAppend_eq_none.mp refused).1
  exact absurd q.fits (Nat.not_le.mpr full)

end Deque

end Urp.Lib
