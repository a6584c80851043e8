import Mathlib.Algebra.Order.Ring.Nat

/-!
# Bitmaps in words

A bitmap is a list of words of `w` bits.
-/

namespace Urp.Lib.Bitmap

variable {w : Nat}

def mask (w i : Nat) : BitVec w := 1#w <<< (i % w)

def bit (words : List (BitVec w)) (i : Nat) : Bool :=
  (words.getD (i / w) 0).getLsbD (i % w)

variable {words : List (BitVec w)} {word : BitVec w} {i : Nat}

theorem bit_of_getElem?
    (found : words[i / w]? = some word) : bit words i = word.getLsbD (i % w) := by
  simp [bit, List.getD, found]

@[simp] theorem bit_replicate_zero (n i : Nat) : bit (List.replicate n 0#w) i = false := by
  by_cases inside : i / w < n <;> simp [bit, inside]

theorem bit_set {word new : BitVec w} (found : words[i / w]? = some word)
    (others : ∀ k, k ≠ i % w → new.getLsbD k = word.getLsbD k) (j : Nat) :
    bit (words.set (i / w) new) j = if j = i then new.getLsbD (i % w) else bit words j := by
  have inside : i / w < words.length := (List.getElem?_eq_some_iff.mp found).1
  by_cases near : i / w = j / w
  · have written : (words.set (i / w) new)[j / w]? = some new := by simp [← near, inside]
    rw [bit_of_getElem? written]
    by_cases same : j = i
    · rw [if_pos same, same]
    · have apart : j % w ≠ i % w := by
        intro equal
        exact same (by rw [← Nat.div_add_mod j w, ← Nat.div_add_mod i w, near, equal])
      rw [if_neg same, bit_of_getElem? (near ▸ found), others _ apart]
  · have apart : j ≠ i := fun same => near (same ▸ rfl)
    rw [if_neg apart]
    simp [bit, List.getElem?_set_ne near]

section

variable (positive : 0 < w)
include positive

theorem getLsbD_mask (i j : Nat) : (mask w i).getLsbD j = decide (j = i % w) := by
  have below := Nat.mod_lt i positive
  rw [mask, BitVec.getLsbD_shiftLeft, BitVec.getLsbD_one, Bool.eq_iff_iff]
  simp only [Bool.and_eq_true, Bool.not_eq_true', decide_eq_true_eq, decide_eq_false_iff_not]
  omega

theorem and_mask_eq_zero (word : BitVec w) (i : Nat) :
    word &&& mask w i = 0#w ↔ word.getLsbD (i % w) = false := by
  constructor
  · intro zero
    have at_i := congrArg (fun x => x.getLsbD (i % w)) zero
    simpa [getLsbD_mask positive] using at_i
  · intro clear
    refine BitVec.eq_of_getLsbD_eq fun j _ => ?_
    by_cases same : j = i % w
    · simp [same, clear]
    · simp [getLsbD_mask positive, same]

theorem bit_set_or (found : words[i / w]? = some word) (j : Nat) :
    bit (words.set (i / w) (word ||| mask w i)) j = if j = i then true else bit words j := by
  rw [bit_set found]
  · simp [getLsbD_mask positive]
  · intro k apart
    simp [getLsbD_mask positive, apart]

theorem bit_set_and_not (found : words[i / w]? = some word) (j : Nat) :
    bit (words.set (i / w) (word &&& ~~~mask w i)) j = if j = i then false else bit words j := by
  rw [bit_set found]
  · simp [getLsbD_mask positive]
  · intro k apart
    rw [BitVec.getLsbD_and, BitVec.getLsbD_not, getLsbD_mask positive, decide_eq_false apart]
    simpa using word.lt_of_getLsbD

theorem exists_word_ne_zero (words : List (BitVec w)) :
    (∃ word ∈ words, word ≠ 0#w) ↔ ∃ i, bit words i = true := by
  constructor
  · rintro ⟨word, listed, nonzero⟩
    obtain ⟨k, inside, rfl⟩ := List.getElem_of_mem listed
    obtain ⟨j, below, set⟩ : ∃ j < w, words[k].getLsbD j = true := by
      by_contra clear
      refine nonzero (BitVec.eq_of_getLsbD_eq fun j below => ?_)
      simpa using fun set => clear ⟨j, below, set⟩
    have found : words[(w * k + j) / w]? = some words[k] := by
      rw [Nat.mul_add_div positive, Nat.div_eq_of_lt below]
      exact List.getElem?_eq_getElem inside
    refine ⟨w * k + j, ?_⟩
    rw [bit_of_getElem? found, Nat.mul_add_mod, Nat.mod_eq_of_lt below, set]
  · rintro ⟨i, set⟩
    cases found : words[i / w]? with
    | none => simp [bit, List.getD, found] at set
    | some word =>
      refine ⟨word, List.mem_of_getElem? found, ?_⟩
      rintro rfl
      simp [bit_of_getElem? found] at set

end

/-! ## Words mixed with their own shifts -/

end Urp.Lib.Bitmap
