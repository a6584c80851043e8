import Mathlib.Algebra.Order.Ring.Nat

/-!
# Little-endian words in byte strings
-/

namespace Urp.Lib

def putLe : Nat → Nat → List UInt8
  | 0, _ => []
  | width + 1, n => UInt8.ofNat n :: putLe width (n / 256)

def getLe : List UInt8 → Nat
  | [] => 0
  | b :: bs => b.toNat + 256 * getLe bs

@[simp] theorem length_putLe (width n : Nat) : (putLe width n).length = width := by
  induction width generalizing n with
  | zero => rfl
  | succ width ih => simp [putLe, ih]

theorem getLe_putLe (width n : Nat) : getLe (putLe width n) = n % 256 ^ width := by
  induction width generalizing n with
  | zero => simp [putLe, getLe, Nat.mod_one]
  | succ width ih =>
    rw [putLe, getLe, ih, Nat.pow_succ', Nat.mod_mul]
    rfl

theorem getLe_putLe_of_lt {width n : Nat} (bound : n < 256 ^ width) :
    getLe (putLe width n) = n := by
  rw [getLe_putLe, Nat.mod_eq_of_lt bound]

theorem getLe_lt (bs : List UInt8) : getLe bs < 256 ^ bs.length := by
  induction bs with
  | nil => simp [getLe]
  | cons b bs ih =>
    have byte := b.toNat_lt
    rw [getLe, List.length_cons, Nat.pow_succ]
    omega

end Urp.Lib
