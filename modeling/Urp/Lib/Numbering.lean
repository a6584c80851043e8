import Mathlib.Algebra.Order.Ring.Nat
import Mathlib.Data.List.Induction
import Mathlib.Data.List.Range

/-!
# Numbers that are taken in turn and used or lost

A list of Booleans says for each number, in the order the numbers are taken, whether it was used.
-/

namespace Urp.Lib

open List

def used (bs : List Bool) : List Nat := (bs.zipIdx.filter Prod.fst).map Prod.snd

def Gapless (bs : List Bool) : Prop := bs.Pairwise (fun a b => b = true → a = true)

instance (bs : List Bool) : Decidable (Gapless bs) :=
  inferInstanceAs (Decidable (bs.Pairwise _))

@[simp] theorem used_nil : used [] = [] := rfl

section

variable (bs : List Bool)

theorem used_concat (b : Bool) : used (bs ++ [b]) = used bs ++ if b then [bs.length] else [] := by
  cases b <;> simp [used, zipIdx_append]

theorem used_concat_true : used (bs ++ [true]) = used bs ++ [bs.length] := by
  simp [used_concat]

theorem used_concat_false : used (bs ++ [false]) = used bs := by
  simp [used_concat]

theorem length_used_le : (used bs).length ≤ bs.length := by
  induction bs using List.reverseRecOn with
  | nil => exact Nat.le_refl _
  | append_singleton bs b ih =>
    rw [used_concat]
    cases b <;> simp <;> omega

theorem length_used_eq_iff : (used bs).length = bs.length ↔ ∀ b ∈ bs, b = true := by
  induction bs using List.reverseRecOn with
  | nil => simp
  | append_singleton bs b ih =>
    have le := length_used_le bs
    rw [used_concat]
    cases b with
    | false =>
      simp
      omega
    | true => simpa [or_imp, forall_and] using ih

theorem gapless_concat (b : Bool) :
    Gapless (bs ++ [b]) ↔ Gapless bs ∧ (b = true → ∀ a ∈ bs, a = true) := by
  simp only [Gapless, pairwise_append, pairwise_singleton, true_and, mem_singleton, forall_eq]
  exact and_congr_right fun _ => ⟨fun h used a ha => h a ha used, fun h a ha used => h used a ha⟩

theorem used_eq_range_iff : used bs = List.range (used bs).length ↔ Gapless bs := by
  induction bs using List.reverseRecOn with
  | nil => simp [Gapless]
  | append_singleton bs b ih =>
    rw [gapless_concat, ← ih, ← length_used_eq_iff]
    cases b with
    | false => simp [used_concat_false]
    | true =>
      rw [used_concat_true, length_append, length_singleton, range_succ]
      constructor
      · intro same
        obtain ⟨front, last⟩ := append_inj same (by simp)
        exact ⟨front, fun _ => by simpa using last.symm⟩
      · rintro ⟨front, length⟩
        rw [← front, length rfl]

end

end Urp.Lib
