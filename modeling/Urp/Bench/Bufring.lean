import Urp.Lib.Run
import Urp.Bench.Header
import Mathlib.Data.List.Nodup
import Mathlib.Data.List.Perm.Subperm

/-!
# The free buffers of a provided-buffer ring

The indexes of the free buffers are kept on a stack, and a flag for each buffer says whether it is
in use.
-/

namespace Urp.Bench

open Urp.Lib List

/-- `struct bench_bufring`. -/
structure Bufring where
  freeIdx : List UInt16
  inUse : List UInt8
  cap : UInt32
  freeCount : UInt32

namespace Bufring

def init (cap : UInt32) : Bufring where
  freeIdx := (List.range cap.toNat).map UInt16.ofNat
  inUse := List.replicate cap.toNat 0
  cap := cap
  freeCount := cap

def take (r : Bufring) : Option (Int × Bufring) :=
  if r.freeCount = 0 then some (-Error.empty.code, r)
  else do
    let freeCount := r.freeCount - 1
    let idx ← r.freeIdx[freeCount.toNat]?
    guard (idx.toNat < r.inUse.length)
    return (idx.toNat, { r with freeCount, inUse := r.inUse.set idx.toNat 1 })

def recycle (r : Bufring) (idx : UInt32) : Option (Int × Bufring) :=
  if r.cap ≤ idx then some (-Error.range.code, r)
  else do
    let used ← r.inUse[idx.toNat]?
    if used = 0 then return (-Error.dup.code, r)
    guard (r.freeCount.toNat < r.freeIdx.length)
    return (0, { r with
      inUse := r.inUse.set idx.toNat 0
      freeIdx := r.freeIdx.set r.freeCount.toNat idx.toUInt16
      freeCount := r.freeCount + 1 })

inductive Call where
  | take
  | recycle (idx : UInt32)

/-- `bench_bufring_take` or `bench_bufring_recycle`. -/
def step (r : Bufring) : Call → Option Bufring
  | .take => r.take.map Prod.snd
  | .recycle idx => (r.recycle idx).map Prod.snd

def free (r : Bufring) : List Nat :=
  (r.freeIdx.take r.freeCount.toNat).map UInt16.toNat

def Clear (r : Bufring) (i : Nat) : Prop :=
  i < r.cap.toNat ∧ r.inUse[i]? = some 0

structure Valid (r : Bufring) : Prop where
  small : r.cap.toNat ≤ 65536
  freeIdx_length : r.freeIdx.length = r.cap.toNat
  inUse_length : r.inUse.length = r.cap.toNat
  count_le : r.freeCount.toNat ≤ r.cap.toNat
  distinct : r.free.Nodup
  mem_free : ∀ i, i ∈ r.free ↔ r.Clear i

theorem valid_init {cap : UInt32} (small : cap.toNat ≤ 65536) : (init cap).Valid := by
  have free_eq : (init cap).free = List.range cap.toNat := by
    simp only [free, init, take_of_length_le, length_map, length_range, le_refl, map_map]
    refine (map_congr_left ?_).trans (map_id _)
    intro i listed
    have below := mem_range.mp listed
    exact Nat.mod_eq_of_lt (by omega)
  refine ⟨small, by simp [init], by simp [init], le_refl _, ?_, ?_⟩
  · rw [free_eq]
    exact nodup_range
  · intro i
    rw [free_eq, mem_range]
    exact ⟨fun below => ⟨below, List.getElem?_replicate_of_lt below⟩, And.left⟩

section

variable {r : Bufring}

theorem Valid.clear_set (valid : r.Valid) {i : Nat} (inside : i < r.cap.toNat) (flag : UInt8)
    (idx : List UInt16) (count : UInt32) (j : Nat) :
    Clear ⟨idx, r.inUse.set i flag, r.cap, count⟩ j ↔ if j = i then flag = 0 else r.Clear j := by
  have bound := valid.inUse_length.symm ▸ inside
  by_cases same : j = i
  · simp [Clear, same, inside, bound]
  · simp [Clear, same, List.getElem?_set_ne (Ne.symm same)]

theorem Valid.take_eq (valid : r.Valid) (left : r.freeCount ≠ 0) :
    ∃ (i : Nat) (count : UInt32), count.toNat + 1 = r.freeCount.toNat ∧
      r.free = (r.freeIdx.take count.toNat).map UInt16.toNat ++ [i] ∧
      r.take = some ((i : Int), ⟨r.freeIdx, r.inUse.set i 1, r.cap, count⟩) := by
  have positive : 0 < r.freeCount.toNat :=
    UInt32.lt_iff_toNat_lt.mp (UInt32.pos_iff_ne_zero.mpr left)
  have count : (r.freeCount - 1).toNat + 1 = r.freeCount.toNat := by
    have one : (1 : UInt32).toNat ≤ r.freeCount.toNat := positive
    rw [UInt32.toNat_sub_of_le _ _ (UInt32.le_iff_toNat_le.mpr one)]
    exact Nat.sub_add_cancel one
  have inside : (r.freeCount - 1).toNat < r.freeIdx.length := by
    rw [valid.freeIdx_length]
    exact Nat.lt_of_succ_le (count.trans_le valid.count_le)
  have split : r.free = (r.freeIdx.take (r.freeCount - 1).toNat).map UInt16.toNat ++
      [(r.freeIdx[(r.freeCount - 1).toNat]).toNat] := by
    rw [free, ← count, take_add_one, List.getElem?_eq_getElem inside, map_append]
    rfl
  have clear : r.Clear (r.freeIdx[(r.freeCount - 1).toNat]).toNat :=
    (valid.mem_free _).mp (split ▸ mem_concat_self)
  refine ⟨_, _, count, split, ?_⟩
  have bound := valid.inUse_length.symm ▸ clear.1
  simp [take, left, inside, bound]

theorem Valid.take (valid : r.Valid) :
    ∃ code r', r.take = some (code, r') ∧ r'.Valid ∧ r'.cap = r.cap ∧
      (code = -Error.empty.code ∨ ∃ i : Nat, code = i ∧ r.Clear i) := by
  by_cases empty : r.freeCount = 0
  · exact ⟨_, r, if_pos empty, valid, rfl, .inl rfl⟩
  obtain ⟨i, count, counted, split, result⟩ := valid.take_eq empty
  have clear : r.Clear i := (valid.mem_free i).mp (split ▸ mem_concat_self)
  obtain ⟨distinct, -, apart⟩ := nodup_append.mp (split ▸ valid.distinct)
  refine ⟨_, _, result, ⟨valid.small, valid.freeIdx_length, ?_, ?_, distinct, ?_⟩,
    rfl, .inr ⟨i, rfl, clear⟩⟩
  · exact length_set.trans valid.inUse_length
  · exact (Nat.le_of_succ_le counted.le).trans valid.count_le
  · intro j
    rw [valid.clear_set clear.1, ← valid.mem_free, split, mem_append]
    have gone : i ∉ (r.freeIdx.take count.toNat).map UInt16.toNat :=
      fun listed => apart i listed i mem_cons_self rfl
    rcases eq_or_ne j i with rfl | same
    · simpa [free] using gone
    · simp [free, same]

theorem Valid.room (valid : r.Valid) {i : Nat} (inside : i < r.cap.toNat) (used : ¬r.Clear i) :
    r.freeCount.toNat < r.cap.toNat := by
  have distinct : (i :: r.free).Nodup :=
    nodup_cons.mpr ⟨fun listed => used ((valid.mem_free i).mp listed), valid.distinct⟩
  have below : i :: r.free ⊆ List.range r.cap.toNat := by
    refine cons_subset.mpr ⟨mem_range.mpr inside, ?_⟩
    intro j listed
    exact mem_range.mpr ((valid.mem_free j).mp listed).1
  have length := (distinct.subperm below).length_le
  simp only [length_cons, length_range, free, length_map, length_take,
    valid.freeIdx_length, min_eq_left valid.count_le] at length
  exact length

theorem recycle_outside {idx : UInt32} (above : r.cap.toNat ≤ idx.toNat) :
    r.recycle idx = some (-Error.range.code, r) :=
  if_pos (UInt32.le_iff_toNat_le.mpr above)

theorem recycle_clear {idx : UInt32} (clear : r.Clear idx.toNat) :
    r.recycle idx = some (-Error.dup.code, r) := by
  have below : ¬r.cap ≤ idx := fun le => (UInt32.le_iff_toNat_le.mp le).not_gt clear.1
  simp [recycle, below, clear.2]

theorem Valid.recycle (valid : r.Valid) (idx : UInt32) :
    ∃ code r', r.recycle idx = some (code, r') ∧ r'.Valid ∧ r'.cap = r.cap := by
  by_cases above : r.cap.toNat ≤ idx.toNat
  · exact ⟨_, r, recycle_outside above, valid, rfl⟩
  by_cases used : r.Clear idx.toNat
  · exact ⟨_, r, recycle_clear used, valid, rfl⟩
  have inside : idx.toNat < r.cap.toNat := Nat.lt_of_not_le above
  have room := valid.room inside used
  have bound := valid.inUse_length.symm ▸ inside
  have narrow : idx.toUInt16.toNat = idx.toNat := Nat.mod_eq_of_lt (inside.trans_le valid.small)
  have count : (r.freeCount + 1).toNat = r.freeCount.toNat + 1 :=
    Nat.mod_eq_of_lt (Nat.lt_of_le_of_lt room r.cap.toNat_lt)
  have last := valid.freeIdx_length.symm ▸ room
  have result : r.recycle idx = some (0, ⟨r.freeIdx.set r.freeCount.toNat idx.toUInt16,
      r.inUse.set idx.toNat 0, r.cap, r.freeCount + 1⟩) := by
    have flagged : r.inUse[idx.toNat] ≠ 0 := fun zero => used ⟨inside, by simp [bound, zero]⟩
    have below : ¬r.cap ≤ idx := fun le => above (UInt32.le_iff_toNat_le.mp le)
    simp [Bufring.recycle, below, bound, flagged, last]
  have pushed : free ⟨r.freeIdx.set r.freeCount.toNat idx.toUInt16, r.inUse.set idx.toNat 0, r.cap,
      r.freeCount + 1⟩ = r.free ++ [idx.toNat] := by
    simp [free, count, take_add_one, last, narrow, take_set_of_le]
  refine ⟨0, _, result, ⟨valid.small, length_set.trans valid.freeIdx_length,
    length_set.trans valid.inUse_length, count.trans_le room, ?_, ?_⟩, rfl⟩
  · rw [pushed]
    refine nodup_append.mpr ⟨valid.distinct, nodup_singleton _, ?_⟩
    rintro i listed j single rfl
    obtain rfl := mem_singleton.mp single
    exact used ((valid.mem_free _).mp listed)
  · intro j
    rw [valid.clear_set inside, pushed, mem_append, valid.mem_free, mem_singleton]
    by_cases same : j = idx.toNat <;> simp [same]

theorem Valid.step (valid : r.Valid) (call : Call) :
    ∃ r', r.step call = some r' ∧ r'.Valid ∧ r'.cap = r.cap := by
  cases call with
  | take =>
    obtain ⟨code, r', taken, kept, same, -⟩ := valid.take
    exact ⟨r', by simp [Bufring.step, taken], kept, same⟩
  | recycle idx =>
    obtain ⟨code, r', recycled, kept⟩ := valid.recycle idx
    exact ⟨r', by simp [Bufring.step, recycled], kept⟩

end

theorem Valid.run {r : Bufring} (valid : r.Valid) (calls : List Call) :
    ∃ r', Urp.Lib.run Bufring.step r calls = some r' ∧ r'.Valid ∧ r'.cap = r.cap := by
  induction calls generalizing r with
  | nil => exact ⟨r, rfl, valid, rfl⟩
  | cons call calls ih =>
    obtain ⟨m, first, valid', same⟩ := valid.step call
    obtain ⟨r', rest, kept, same'⟩ := ih valid'
    exact ⟨r', run_cons_eq_some.mpr ⟨m, first, rest⟩, kept, same'.trans same⟩

/-- No call leaves the arrays, and after any calls the stack has the free buffers, each once: so
taking hands out a free buffer, and a recycle that is none is refused. -/
theorem bufring_stack_exact (cap : UInt32) (small : cap.toNat ≤ 65536) (calls : List Call) :
    ∃ r, Urp.Lib.run step (init cap) calls = some r ∧ r.free.Nodup ∧
      (∀ i, i ∈ r.free ↔ i < cap.toNat ∧ r.inUse[i]? = some 0) ∧
      (∃ code r', r.take = some (code, r') ∧
        (code = -Error.empty.code ∨ ∃ i : Nat, code = i ∧ i < cap.toNat ∧ r.inUse[i]? = some 0)) ∧
      ∀ idx, (∃ outcome, r.recycle idx = some outcome) ∧
        (cap.toNat ≤ idx.toNat → r.recycle idx = some (-Error.range.code, r)) ∧
        (idx.toNat < cap.toNat → r.inUse[idx.toNat]? = some 0 →
          r.recycle idx = some (-Error.dup.code, r)) := by
  obtain ⟨r, reached, valid, same⟩ := (valid_init small).run calls
  subst same
  obtain ⟨code, r', taken, -, -, handed⟩ := valid.take
  refine ⟨r, reached, valid.distinct, valid.mem_free, ⟨code, r', taken, handed⟩,
    fun idx => ⟨?_, recycle_outside, fun below clear => recycle_clear ⟨below, clear⟩⟩⟩
  obtain ⟨code, r', recycled, -⟩ := valid.recycle idx
  exact ⟨_, recycled⟩

/-- Of two buffers both are taken, one comes back, and comes back once more. -/
theorem bufring_recycled_twice :
    ∃ r, Urp.Lib.run step (init 2) [.take, .take, .recycle 1, .recycle 1] = some r ∧
      r.free.Nodup ∧ r.free = [1] := by
  obtain ⟨r, reached, distinct, -⟩ :=
    bufring_stack_exact 2 (by decide) [.take, .take, .recycle 1, .recycle 1]
  cases reached
  exact ⟨_, rfl, distinct, rfl⟩

end Bufring

end Urp.Bench
