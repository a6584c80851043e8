import Mathlib.Algebra.Order.Ring.Nat
import Mathlib.Data.Nat.Count

/-!
# Counting flags

How many of the first `n` flags of a family are raised, and how the count moves
when one flag changes.
-/

namespace Urp.Lib

/-- How many of the flags below `n` are raised. -/
def raised (flag : Nat → Bool) (n : Nat) : Nat := Nat.count (fun i => flag i = true) n

section Raised

variable {flag flag' : Nat → Bool} {n i : Nat}

@[simp] theorem raised_zero (flag : Nat → Bool) : raised flag 0 = 0 := Nat.count_zero _

theorem raised_succ (flag : Nat → Bool) (n : Nat) :
    raised flag (n + 1) = raised flag n + if flag n then 1 else 0 := Nat.count_succ _ _

theorem raised_lowered (n : Nat) : raised (fun _ => false) n = 0 := by
  induction n with
  | zero => rfl
  | succ n ih =>
    rw [raised_succ, ih]
    rfl

theorem raised_le (flag : Nat → Bool) (n : Nat) : raised flag n ≤ n := Nat.count_le _

theorem raised_congr (same : ∀ k < n, flag' k = flag k) : raised flag' n = raised flag n := by
  induction n with
  | zero => rfl
  | succ n ih =>
    rw [raised_succ, raised_succ, ih fun k hk => same k (Nat.lt_succ_of_lt hk),
      same n (Nat.lt_succ_self n)]

theorem raised_change (flag flag' : Nat → Bool) (bound : i < n)
    (same : ∀ k < n, k ≠ i → flag' k = flag k) :
    raised flag' n + (if flag i then 1 else 0) = raised flag n + if flag' i then 1 else 0 := by
  induction n with
  | zero => omega
  | succ n ih =>
    rw [raised_succ, raised_succ]
    rcases eq_or_ne i n with rfl | last
    · have rest : raised flag' i = raised flag i :=
        raised_congr fun k hk => same k (Nat.lt_succ_of_lt hk) (Nat.ne_of_lt hk)
      omega
    · have before := ih (by omega) fun k hk => same k (Nat.lt_succ_of_lt hk)
      rw [same n (Nat.lt_succ_self n) (Ne.symm last)]
      omega

theorem raised_eq_iff : raised flag n = n ↔ ∀ k < n, flag k = true := by
  induction n with
  | zero => simp
  | succ n ih =>
    have le := raised_le flag n
    rw [raised_succ]
    constructor
    · intro full k hk
      by_cases top : flag n = true
      · rw [if_pos top] at full
        rcases Nat.lt_succ_iff_lt_or_eq.mp hk with below | rfl
        · exact ih.mp (by omega) k below
        · exact top
      · rw [if_neg top] at full
        omega
    · intro all
      rw [if_pos (all n (Nat.lt_succ_self n)), ih.mpr fun k hk => all k (Nat.lt_succ_of_lt hk)]

theorem raised_pos (bound : i < n) (up : flag i = true) : 0 < raised flag n := by
  have lowered := raised_change flag (Function.update flag i false) bound
    fun k _ other => Function.update_of_ne other ..
  rw [if_pos up, Function.update_self, if_neg Bool.false_ne_true] at lowered
  omega

end Raised

end Urp.Lib
