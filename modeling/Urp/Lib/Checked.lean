import Mathlib.Algebra.Order.Ring.Nat

/-!
# Checked arithmetic on unsigned words

The result of an operation if it is in range, and nothing where the machine would wrap around or
trap.
-/

namespace Urp.Lib

/-- The value `n` as an unsigned word of `w` bits. -/
def checked (w n : Nat) : Option Nat := if n < 2 ^ w then some n else none

theorem checked_of_lt {w n : Nat} (fits : n < 2 ^ w) : checked w n = some n := if_pos fits

def difference (a b : Nat) : Option Nat := if b ≤ a then some (a - b) else none

theorem difference_of_le {a b : Nat} (le : b ≤ a) : difference a b = some (a - b) := if_pos le

def quotient (n d : Nat) : Option Nat := if d = 0 then none else some (n / d)

theorem quotient_of_pos {n d : Nat} (positive : 0 < d) : quotient n d = some (n / d) :=
  if_neg (Nat.pos_iff_ne_zero.mp positive)

theorem guard_eq_ok {ε α : Type*} {c : Prop} [Decidable c] {e : ε} {x : Except ε α} {a : α} :
    (if c then .error e else x) = .ok a ↔ ¬ c ∧ x = .ok a := by
  split
  case isTrue failed => simp [failed]
  case isFalse passed => simp [passed]

end Urp.Lib
