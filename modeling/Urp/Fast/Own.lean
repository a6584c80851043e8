import Urp.Lib.Bitmap
import Urp.Lib.Machine
import Mathlib.Data.Finset.Basic

/-!
# The ownership bitmap

One bit for each buffer of a pool says that the kernel owns it.
-/

namespace Urp.Fast.Own

open Urp.Lib Urp.Lib.Bitmap List

variable {bpw : UInt32}

abbrev Words (bpw : UInt32) := List (BitVec bpw.toNat)

def ownWords (bpw count : UInt32) : UInt32 := (count + bpw - 1) / bpw

def ownClaim (own : Words bpw) (count idx : UInt32) : Option (Except Errno Unit × Words bpw) :=
  if count ≤ idx then some (.error .ERANGE, own)
  else do
    let word ← own[(idx / bpw).toNat]?
    let mask := BitVec.ofNat bpw.toNat 1 <<< (idx % bpw).toNat
    if word &&& mask ≠ 0 then return (.error .EBUSY, own)
    return (.ok (), own.set (idx / bpw).toNat (word ||| mask))

def ownRelease (own : Words bpw) (count idx : UInt32) : Option (Except Errno Unit × Words bpw) :=
  if count ≤ idx then some (.error .ERANGE, own)
  else do
    let word ← own[(idx / bpw).toNat]?
    let mask := BitVec.ofNat bpw.toNat 1 <<< (idx % bpw).toNat
    if word &&& mask = 0 then return (.error .EINVAL, own)
    return (.ok (), own.set (idx / bpw).toNat (word &&& ~~~mask))

def ownIsKernel (own : Words bpw) (count idx : UInt32) : Option Bool :=
  if count ≤ idx then some false
  else do
    let word ← own[(idx / bpw).toNat]?
    return word &&& BitVec.ofNat bpw.toNat 1 <<< (idx % bpw).toNat ≠ 0

/-- The loop over the words from `w`, of which `left` are left. -/
def anyWord (own : Words bpw) : Nat → Nat → Option Bool
  | 0, _ => some false
  | left + 1, w => do
    let word ← own[w]?
    if word ≠ 0 then return true
    anyWord own left (w + 1)

def ownAnyKernel (own : Words bpw) (count : UInt32) : Option Bool :=
  anyWord own (ownWords bpw count).toNat 0

inductive Call where
  | claim (idx : UInt32)
  | release (idx : UInt32)
  | isKernel (idx : UInt32)
  | anyKernel

inductive Reply where
  | status (result : Except Errno Unit)
  | flag (result : Bool)

def Call.target : Call → Option Nat
  | .claim idx | .release idx => some idx.toNat
  | .isKernel _ | .anyKernel => none

def Call.run (own : Words bpw) (count : UInt32) : Call → Option (Reply × Words bpw)
  | .claim idx => (ownClaim own count idx).map fun (result, own') => (.status result, own')
  | .release idx => (ownRelease own count idx).map fun (result, own') => (.status result, own')
  | .isKernel idx => (ownIsKernel own count idx).map fun result => (.flag result, own)
  | .anyKernel => (ownAnyKernel own count).map fun result => (.flag result, own)

theorem Call.length_run {own own' : Words bpw} {count : UInt32} {call : Call} {reply : Reply}
    (called : call.run own count = some (reply, own')) : own'.length = own.length := by
  cases call <;> simp only [run, Option.map_eq_some_iff] at called <;>
    grind [ownClaim, ownRelease, length_set]

def Call.abstract (count : UInt32) (owned : Finset Nat) : Call → Reply × Finset Nat
  | .claim idx =>
    if count ≤ idx then (.status (.error .ERANGE), owned)
    else if idx.toNat ∈ owned then (.status (.error .EBUSY), owned)
    else (.status (.ok ()), insert idx.toNat owned)
  | .release idx =>
    if count ≤ idx then (.status (.error .ERANGE), owned)
    else if idx.toNat ∉ owned then (.status (.error .EINVAL), owned)
    else (.status (.ok ()), owned.erase idx.toNat)
  | .isKernel idx => (.flag (decide (idx.toNat ∈ owned)), owned)
  | .anyKernel => (.flag (decide owned.Nonempty), owned)

def Refines (count : UInt32) : Words bpw → Finset Nat → List Call → Prop
  | _, _, [] => True
  | own, owned, call :: calls =>
    ∃ own', call.run own count = some ((call.abstract count owned).1, own') ∧
      (∀ i, call.target ≠ some i → bit own' i = bit own i) ∧
      Refines count own' (call.abstract count owned).2 calls

structure Represents (count : UInt32) (own : Words bpw) (owned : Finset Nat) : Prop where
  words : own.length = (ownWords bpw count).toNat
  covers : ∀ i < count.toNat, i / bpw.toNat < own.length
  below : ∀ i ∈ owned, i < count.toNat
  bits : ∀ i, bit own i = decide (i ∈ owned)

/-! ## One call -/

section

variable {count : UInt32} {own : Words bpw} {owned : Finset Nat}

theorem Represents.word (rep : Represents count own owned) {idx : UInt32} (inside : ¬count ≤ idx) :
    ∃ word, own[idx.toNat / bpw.toNat]? = some word ∧
      word.getLsbD (idx.toNat % bpw.toNat) = decide (idx.toNat ∈ owned) := by
  have bound := rep.covers idx.toNat (UInt32.lt_iff_toNat_lt.mp (UInt32.not_le.mp inside))
  have found : own[idx.toNat / bpw.toNat]? = some _ := List.getElem?_eq_getElem bound
  exact ⟨_, found, (bit_of_getElem? found).symm.trans (rep.bits _)⟩

theorem Represents.write (rep : Represents count own owned) {idx : UInt32} (inside : ¬count ≤ idx)
    {k : Nat} {word : BitVec bpw.toNat} {flag : Bool} {owned' : Finset Nat}
    (written : ∀ i, bit (own.set k word) i = if i = idx.toNat then flag else bit own i)
    (changed : ∀ i, i ∈ owned' ↔ if i = idx.toNat then flag = true else i ∈ owned) :
    Represents count (own.set k word) owned' ∧
      ∀ i, some idx.toNat ≠ some i → bit (own.set k word) i = bit own i := by
  refine ⟨⟨length_set.trans rep.words, ?_, ?_, ?_⟩, ?_⟩
  · exact fun i below => length_set.symm ▸ rep.covers i below
  · intro i listed
    by_cases same : i = idx.toNat
    · exact same ▸ UInt32.lt_iff_toNat_lt.mp (UInt32.not_le.mp inside)
    · exact rep.below i (by simpa [changed, same] using listed)
  · intro i
    by_cases same : i = idx.toNat <;> simp [written, changed, same, rep.bits]
  · intro i other
    rw [written, if_neg (fun same => other (congrArg some same.symm))]

theorem anyWord_eq {left w : Nat} (inside : w + left = own.length) :
    anyWord own left w = some ((own.drop w).any (· ≠ BitVec.ofNat bpw.toNat 0)) := by
  induction left generalizing w with
  | zero => rw [anyWord, drop_of_length_le (i := w) inside.ge, any_nil]
  | succ left ih =>
    have bound : w < own.length := by omega
    rw [anyWord, List.getElem?_eq_getElem bound, ih (by omega), drop_eq_getElem_cons bound,
      any_cons]
    by_cases zero : own[w] = BitVec.ofNat bpw.toNat 0 <;> simp [zero]

variable (positive : 0 < bpw.toNat)
include positive

section

variable {idx : UInt32} {word : BitVec bpw.toNat} (inside : ¬count ≤ idx)
  (found : own[idx.toNat / bpw.toNat]? = some word)
include inside found

theorem ownClaim_eq : ownClaim own count idx = some
    (if word.getLsbD (idx.toNat % bpw.toNat) then (.error .EBUSY, own)
    else (.ok (), own.set (idx.toNat / bpw.toNat) (word ||| mask bpw.toNat idx.toNat))) := by
  have zero := and_mask_eq_zero positive word idx.toNat
  rw [mask] at zero
  cases set : word.getLsbD (idx.toNat % bpw.toNat) <;>
    simp [ownClaim, inside, found, zero, set, mask]

theorem ownRelease_eq : ownRelease own count idx = some
    (if word.getLsbD (idx.toNat % bpw.toNat) then
      (.ok (), own.set (idx.toNat / bpw.toNat) (word &&& ~~~mask bpw.toNat idx.toNat))
    else (.error .EINVAL, own)) := by
  have zero := and_mask_eq_zero positive word idx.toNat
  rw [mask] at zero
  cases set : word.getLsbD (idx.toNat % bpw.toNat) <;>
    simp [ownRelease, inside, found, zero, set, mask]

theorem ownIsKernel_eq :
    ownIsKernel own count idx = some (word.getLsbD (idx.toNat % bpw.toNat)) := by
  have zero := and_mask_eq_zero positive word idx.toNat
  rw [mask] at zero
  simp [ownIsKernel, inside, found, zero]

end

theorem Represents.ownAnyKernel_eq (rep : Represents count own owned) :
    ownAnyKernel own count = some (decide owned.Nonempty) := by
  have any : own.any (· ≠ BitVec.ofNat bpw.toNat 0) = decide owned.Nonempty := by
    rw [Bool.eq_iff_iff, any_eq_true, decide_eq_true_iff]
    simp only [decide_eq_true_eq, exists_word_ne_zero positive, rep.bits]
    rfl
  rw [ownAnyKernel, ← rep.words, anyWord_eq (Nat.zero_add _), drop_zero, any]

theorem Represents.call (rep : Represents count own owned) (call : Call) :
    ∃ own', call.run own count = some ((call.abstract count owned).1, own') ∧
      Represents count own' (call.abstract count owned).2 ∧
      ∀ i, call.target ≠ some i → bit own' i = bit own i := by
  cases call with
  | claim idx =>
    by_cases outside : count ≤ idx
    · exact ⟨own, by simpa [Call.run, Call.abstract, ownClaim, outside] using rep⟩
    obtain ⟨word, found, bits⟩ := rep.word outside
    have result := ownClaim_eq positive outside found
    by_cases owns : idx.toNat ∈ owned
    · exact ⟨own, by simpa [Call.run, Call.abstract, result, bits, outside, owns] using rep⟩
    · have abstract : Call.abstract count owned (.claim idx) =
          (.status (.ok ()), insert idx.toNat owned) := by simp [Call.abstract, outside, owns]
      rw [abstract]
      refine ⟨_, by simp [Call.run, result, bits, owns], rep.write outside
        (bit_set_or positive found) fun i => ?_⟩
      by_cases same : i = idx.toNat <;> simp [same]
  | release idx =>
    by_cases outside : count ≤ idx
    · exact ⟨own, by simpa [Call.run, Call.abstract, ownRelease, outside] using rep⟩
    obtain ⟨word, found, bits⟩ := rep.word outside
    have result := ownRelease_eq positive outside found
    by_cases owns : idx.toNat ∈ owned
    · have abstract : Call.abstract count owned (.release idx) =
          (.status (.ok ()), owned.erase idx.toNat) := by simp [Call.abstract, outside, owns]
      rw [abstract]
      refine ⟨_, by simp [Call.run, result, bits, owns], rep.write outside
        (bit_set_and_not positive found) fun i => ?_⟩
      by_cases same : i = idx.toNat <;> simp [same]
    · exact ⟨own, by simpa [Call.run, Call.abstract, result, bits, outside, owns] using rep⟩
  | isKernel idx =>
    refine ⟨own, ?_, rep, fun i _ => rfl⟩
    by_cases outside : count ≤ idx
    · have absent : idx.toNat ∉ owned := fun owns =>
        (UInt32.le_iff_toNat_le.mp outside).not_gt (rep.below _ owns)
      simp [Call.run, Call.abstract, ownIsKernel, outside, absent]
    · obtain ⟨word, found, bits⟩ := rep.word outside
      simp [Call.run, Call.abstract, ownIsKernel_eq positive outside found, bits]
  | anyKernel =>
    refine ⟨own, ?_, rep, fun i _ => rfl⟩
    simp [Call.run, Call.abstract, rep.ownAnyKernel_eq positive]

theorem Represents.refines (rep : Represents count own owned) (calls : List Call) :
    Refines count own owned calls := by
  induction calls generalizing own owned with
  | nil => trivial
  | cons call calls ih =>
    obtain ⟨own', result, kept, others⟩ := rep.call positive call
    exact ⟨own', result, others, ih kept⟩

end

/-! ## From the empty bitmap -/

theorem covers_of_le {count : UInt32} (positive : 0 < bpw.toNat)
    (fits : count.toNat + bpw.toNat ≤ 2 ^ 32) {i : Nat} (below : i < count.toNat) :
    i / bpw.toNat < (ownWords bpw count).toNat := by
  have unwrapped : (count + bpw - 1).toNat = count.toNat + bpw.toNat - 1 := by
    rw [UInt32.toNat_sub, UInt32.toNat_add, UInt32.toNat_one]
    omega
  rw [ownWords, UInt32.toNat_div, unwrapped, Nat.lt_iff_add_one_le, ← Nat.add_div_right i positive]
  exact Nat.div_le_div_right (by omega)

theorem ownWords_eq_zero {count : UInt32} (wraps : 2 ^ 32 < count.toNat + bpw.toNat) :
    ownWords bpw count = 0 := by
  have := count.toNat_lt
  have := bpw.toNat_lt
  refine UInt32.toNat_inj.mp ?_
  rw [ownWords, UInt32.toNat_div, UInt32.toNat_sub, UInt32.toNat_add, UInt32.toNat_one]
  exact Nat.div_eq_of_lt (by omega)

/-- The bitmap answers as the set does, through all calls, exactly for the counts whose number of
words does not wrap around. -/
theorem own_refines_iff (bpw count : UInt32) (positive : 0 < bpw.toNat) :
    (∀ calls, Refines count
      (List.replicate (ownWords bpw count).toNat (BitVec.ofNat bpw.toNat 0)) ∅ calls) ↔
      count.toNat + bpw.toNat ≤ 2 ^ 32 := by
  constructor
  · intro refines
    by_contra above
    have wraps := Nat.lt_of_not_le above
    have inside : ¬count ≤ 0 := by
      have := bpw.toNat_lt
      rw [UInt32.le_iff_toNat_le, UInt32.toNat_zero]
      omega
    obtain ⟨own', claimed, -⟩ := refines [.claim 0]
    simp [ownWords_eq_zero wraps, Call.run, ownClaim, inside] at claimed
  · intro fits calls
    refine Represents.refines positive ⟨length_replicate, ?_, by simp, by simp⟩ calls
    intro i below
    rw [length_replicate]
    exact covers_of_le positive fits below

theorem own_refines_at_100 : ownWords 64 100 = 2 ∧
    ∀ calls, Refines 100 (List.replicate (ownWords 64 100).toNat 0#(64 : UInt32).toNat) ∅ calls :=
  ⟨by decide, (own_refines_iff 64 100 (by decide)).mpr (by decide)⟩

/-- A bitmap for the largest count has no word at all, so the first claim reads outside it. -/
theorem claim_outside_bitmap : ownWords 64 0xFFFFFFFF = 0 ∧
      ownClaim (List.replicate (ownWords 64 0xFFFFFFFF).toNat 0#(64 : UInt32).toNat) 0xFFFFFFFF 0 =
        none := by
  decide

end Urp.Fast.Own
