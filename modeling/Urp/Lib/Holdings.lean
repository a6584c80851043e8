import Mathlib.Algebra.Order.Ring.Nat

/-!
# Resources that are held

How much of each kind of resource is held.
-/

namespace Urp.Lib

universe u

variable {ι : Type u} [DecidableEq ι]

abbrev Holdings (ι : Type u) := ι → Nat

namespace Holdings

def none : Holdings ι := fun _ => 0

def hold (h : Holdings ι) (x : ι) (n : Nat) : Holdings ι := Function.update h x (h x + n)

def drop (h : Holdings ι) (x : ι) (n : Nat) : Option (Holdings ι) :=
  if n ≤ h x then some (Function.update h x (h x - n)) else .none

@[simp] theorem drop_hold (h : Holdings ι) (x : ι) (n : Nat) : (h.hold x n).drop x n = some h := by
  simp [hold, drop]

end Holdings

end Urp.Lib
