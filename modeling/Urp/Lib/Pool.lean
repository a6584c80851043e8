import Mathlib.Algebra.Order.Ring.Nat
import Mathlib.Algebra.Order.BigOperators.Group.List

/-!
# Pools of threads

A pool is a list of thread states.
-/

namespace Urp.Lib.Pool

open List

universe u

variable {T : Type u} {pool : List T} {i j : Nat} {t t' u : T}

theorem sum_set (f : T → Nat) (here : pool[i]? = some t) (t' : T) :
    ((pool.set i t').map f).sum + f t = (pool.map f).sum + f t' := by
  induction pool generalizing i with
  | nil => simp at here
  | cons a pool ih =>
    cases i with
    | zero =>
      obtain rfl : a = t := by simpa using here
      simp only [set_cons_zero, map_cons, sum_cons]
      omega
    | succ i =>
      have rest := ih (by simpa using here)
      simp only [set_cons_succ, map_cons, sum_cons]
      omega

theorem sum_set_eq {f : T → Nat} {n n' : Nat} (here : pool[i]? = some t)
    (total : (pool.map f).sum = n) (change : f t' + n = f t + n') :
    ((pool.set i t').map f).sum = n' := by
  have moved := sum_set f here t'
  omega

theorem sum_spawn (f : T → Nat) (t : T) : ((pool ++ [t]).map f).sum = (pool.map f).sum + f t := by
  simp

theorem le_sum (f : T → Nat) (here : pool[i]? = some t) : f t ≤ (pool.map f).sum :=
  single_le_sum (fun _ _ => Nat.zero_le _) _ (mem_map_of_mem (mem_of_getElem? here))

theorem add_le_sum (f : T → Nat) (here : pool[i]? = some t) (there : pool[j]? = some u)
    (apart : i ≠ j) : f t + f u ≤ (pool.map f).sum := by
  induction pool generalizing i j with
  | nil => simp at here
  | cons a pool ih =>
    simp only [map_cons, sum_cons]
    cases i with
    | zero =>
      obtain rfl : a = t := by simpa using here
      cases j with
      | zero => exact absurd rfl apart
      | succ j =>
        have rest : f u ≤ (pool.map f).sum := le_sum f (by simpa using there)
        omega
    | succ i =>
      cases j with
      | zero =>
        obtain rfl : a = u := by simpa using there
        have rest : f t ≤ (pool.map f).sum := le_sum f (by simpa using here)
        omega
      | succ j =>
        have rest := ih (by simpa using here) (by simpa using there) (by omega)
        omega

theorem exists_of_sum_pos {f : T → Nat} (positive : 0 < (pool.map f).sum) :
    ∃ (i : Nat) (t : T), pool[i]? = some t ∧ 0 < f t := by
  by_contra nobody
  have none_left : (pool.map f).sum = 0 := by
    refine sum_eq_zero fun n member => ?_
    obtain ⟨t, here, rfl⟩ := mem_map.mp member
    obtain ⟨i, here⟩ := List.getElem?_of_mem here
    by_contra some_left
    exact nobody ⟨i, t, here, Nat.pos_of_ne_zero some_left⟩
  omega

theorem getElem?_set_cases (here : pool[i]? = some t) (after : (pool.set i t')[j]? = some u) :
    j = i ∧ u = t' ∨ j ≠ i ∧ pool[j]? = some u := by
  rcases eq_or_ne j i with rfl | same
  · rw [List.getElem?_set_self (List.getElem?_eq_some_iff.mp here).1] at after
    exact .inl ⟨rfl, (Option.some.inj after).symm⟩
  · rw [List.getElem?_set_ne (Ne.symm same)] at after
    exact .inr ⟨same, after⟩

theorem getElem?_spawn_cases (after : (pool ++ [t])[j]? = some u) : u = t ∨ pool[j]? = some u := by
  rw [List.getElem?_append] at after
  split at after
  · exact .inr after
  · exact .inl (by simpa using mem_of_getElem? after)

end Urp.Lib.Pool
