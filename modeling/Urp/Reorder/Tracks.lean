import Urp.Reorder.Arrival

/-!
# The reorder buffer against the stream it reassembles

`frames` are the payloads of a stream by number, at most one for each 64-bit number.
-/

namespace Urp.Reorder

open Urp.Lib List

structure Tracks (lossless : Prop) (frames : List Payload) (arrived : Nat → Prop) (c : Nat)
    (rb : Buffer) : Prop where
  next : rb.nextExpected = min c u64Max
  le : c ≤ frames.length
  notBehind : ∀ n ∈ rb.pending, c ≤ n.seq
  holds : ∀ n ∈ rb.pending, frames[n.seq]? = some n.data
  came : ∀ k, (k < c ∨ ∃ n ∈ rb.pending, n.seq = k) → arrived k
  kept : lossless → ∀ k, arrived k → k < c ∨ ∃ n ∈ rb.pending, n.seq = k

section Tracks

variable {lossless : Prop} {frames : List Payload} {arrived : Nat → Prop} {c : Nat} {rb : Buffer}

section

variable (tracks : Tracks lossless frames arrived c rb)
include tracks

theorem Tracks.seq_lt {n : Node} (pending : n ∈ rb.pending) : n.seq < frames.length :=
  (List.getElem?_eq_some_iff.mp (tracks.holds n pending)).1

variable {seq : Nat}

theorem Tracks.le_of_new (word : frames.length ≤ 2 ^ 64) (bound : seq < frames.length)
    (new : ¬arrived seq) : c ≤ seq ∧ rb.nextExpected = c := by
  have ahead : c ≤ seq := by
    by_contra behind
    exact new (tracks.came seq (.inl (Nat.lt_of_not_le behind)))
  refine ⟨ahead, ?_⟩
  rw [tracks.next]
  unfold u64Max
  omega

theorem Tracks.migrate {n : Node}
    (first : rb.pending.first = some n) (due : n.seq = rb.nextExpected) :
    Tracks lossless frames arrived (c + 1) (rb.migrate n) ∧ n.seq = c := by
  have pending := OrderedTree.first_mem first
  have bound := tracks.seq_lt pending
  have seq_eq : n.seq = c := by
    have behind := tracks.notBehind n pending
    have next := tracks.next
    omega
  have split : ∀ m, m ∈ rb.pending ↔ m = n ∨ m ∈ rb.pending.eraseFirst := fun m =>
    OrderedTree.mem_iff_first first
  refine ⟨⟨?_, by omega, ?_, ?_, ?_, ?_⟩, seq_eq⟩
  · rw [migrate_nextExpected, tracks.next, saturatingIncr64_min]
  · intro m hm
    have above := OrderedTree.first_lt first hm
    omega
  · exact fun m hm => tracks.holds m ((split m).mpr (.inr hm))
  · rintro k (below | ⟨m, hm, rfl⟩)
    · rcases Nat.lt_succ_iff_lt_or_eq.mp below with below | rfl
      · exact tracks.came k (.inl below)
      · exact tracks.came k (.inr ⟨n, pending, seq_eq⟩)
    · exact tracks.came m.seq (.inr ⟨m, (split m).mpr (.inr hm), rfl⟩)
  · intro lossless k came
    rcases tracks.kept lossless k came with below | ⟨m, hm, rfl⟩
    · exact .inl (Nat.lt_succ_of_lt below)
    · rcases (split m).mp hm with rfl | rest
      · exact .inl (by omega)
      · exact .inr ⟨m, rest, rfl⟩

theorem Tracks.drain (idle : rb.drained = []) (kmalloc : Nat → Bool) :
    ∃ c', c ≤ c' ∧ Tracks lossless frames arrived c' (drainPrefix kmalloc rb) ∧
      frames.take c ++ (drainPrefix kmalloc rb).drained.map Node.data = frames.take c' := by
  refine drainPrefix_preserves (P := fun rb => ∃ c', c ≤ c' ∧ Tracks lossless frames arrived c' rb ∧
    frames.take c ++ rb.drained.map Node.data = frames.take c') ?_ kmalloc rb
    ⟨c, le_rfl, tracks, by simp [idle]⟩
  rintro rb n first due ⟨c', le, tracks, queue⟩
  obtain ⟨moved, seq_eq⟩ := tracks.migrate first due
  refine ⟨c' + 1, by omega, moved, ?_⟩
  have frame := tracks.holds n (OrderedTree.first_mem first)
  rw [seq_eq] at frame
  rw [migrate_drained, map_append, ← append_assoc, queue, take_add_one, frame]
  rfl

theorem Tracks.mono {arrived' : Nat → Prop}
    (lossy : ¬lossless) (more : ∀ k, arrived k → arrived' k) :
    Tracks lossless frames arrived' c rb :=
  { tracks with
    came := fun k h => more k (tracks.came k h)
    kept := fun h => absurd h lossy }

theorem Tracks.stepOver (bound : c < frames.length) (new : ¬arrived c) :
    Tracks lossless frames (fun k => arrived k ∨ k = c) (c + 1) rb.stepOver := by
  refine ⟨?_, bound, ?_, tracks.holds, ?_, ?_⟩
  · rw [stepOver_nextExpected, tracks.next, saturatingIncr64_min]
  · intro n pending
    refine Nat.lt_of_le_of_ne (tracks.notBehind n pending) fun same => new ?_
    exact tracks.came c (.inr ⟨n, pending, same.symm⟩)
  · rintro k (below | pending)
    · rcases Nat.lt_succ_iff_lt_or_eq.mp below with below | rfl
      · exact .inl (tracks.came k (.inl below))
      · exact .inr rfl
    · exact .inl (tracks.came k (.inr pending))
  · rintro lossless k (came | rfl)
    · exact (tracks.kept lossless k came).imp_left Nat.lt_succ_of_lt
    · exact .inl (Nat.lt_succ_self k)

variable {data : Payload}

theorem Tracks.link (frame : frames[seq]? = some data)
    (ahead : c ≤ seq) (fresh : rb.pending.find? seq = none) :
    Tracks lossless frames (fun k => arrived k ∨ k = seq) c (rb.link ⟨seq, data⟩) := by
  have absent := OrderedTree.find?_eq_none.mp fresh
  have linked : ∀ n, n ∈ (rb.link ⟨seq, data⟩).pending ↔ n = ⟨seq, data⟩ ∨ n ∈ rb.pending := by
    intro n
    rw [link_pending, OrderedTree.mem_insert]
    exact or_congr_right (and_iff_left_of_imp (absent n))
  refine ⟨tracks.next, tracks.le, ?_, ?_, ?_, ?_⟩
  · intro n membership
    rcases (linked n).mp membership with rfl | old
    · exact ahead
    · exact tracks.notBehind n old
  · intro n membership
    rcases (linked n).mp membership with rfl | old
    · exact frame
    · exact tracks.holds n old
  · rintro k (below | ⟨n, membership, rfl⟩)
    · exact .inl (tracks.came k (.inl below))
    · rcases (linked n).mp membership with rfl | old
      · exact .inr rfl
      · exact .inl (tracks.came n.seq (.inr ⟨n, old, rfl⟩))
  · rintro lossless k (came | rfl)
    · exact (tracks.kept lossless k came).imp_right
        fun ⟨n, old, same⟩ => ⟨n, (linked n).mpr (.inr old), same⟩
    · exact .inr ⟨⟨k, data⟩, (linked _).mpr (.inl rfl), rfl⟩

theorem Tracks.flush : Tracks lossless frames arrived c rb.flush :=
  { tracks with }

theorem Tracks.arrive
    (word : frames.length ≤ 2 ^ 64) (idle : rb.drained = []) (kmalloc : Nat → Bool)
    (frame : frames[seq]? = some data) (new : ¬arrived seq)
    (room : lossless → (∀ i, kmalloc i = true) ∧
      (seq = rb.nextExpected ∨ rb.pendingCount < rb.maxBuffered)) :
    ∃ c', c ≤ c' ∧
      Tracks lossless frames (fun k => arrived k ∨ k = seq) c' (arrive kmalloc rb seq data).1 ∧
      frames.take c ++ (arrive kmalloc rb seq data).2 = frames.take c' := by
  have bound := (List.getElem?_eq_some_iff.mp frame).1
  obtain ⟨ahead, next⟩ := tracks.le_of_new word bound new
  rw [Reorder.arrive]
  split
  · rename_i due
    obtain rfl : seq = c := due.trans next
    obtain ⟨c', le, tracks', queue⟩ := (tracks.stepOver bound new).drain idle kmalloc
    refine ⟨c', by omega, tracks'.flush, ?_⟩
    rw [← queue, take_add_one, frame]
    simp [advance]
  · have fresh : rb.pending.find? seq = none := OrderedTree.find?_eq_none.mpr fun n pending same =>
        new (tracks.came seq (.inr ⟨n, pending, same⟩))
    rcases insert_cases kmalloc rb seq data with ⟨e, refused⟩ | ⟨-, -, -, linked⟩
    · have lossy : ¬lossless := by
        intro h
        have accepted := insert_accepts data (by omega) fresh (room h).2 ((room h).1 0)
        simp [accepted] at refused
      rw [refused, idle]
      exact ⟨c, le_rfl, (tracks.mono lossy fun _ => .inl).flush, by simp⟩
    · rw [linked]
      obtain ⟨c', le, tracks', queue⟩ := (tracks.link frame ahead fresh).drain idle _
      exact ⟨c', le, tracks'.flush, queue⟩

theorem Tracks.append (more : List Payload) : Tracks lossless (frames ++ more) arrived c rb where
  __ := tracks
  le := by
    have le := tracks.le
    rw [length_append]
    omega
  holds n pending := by
    rw [List.getElem?_append_left (tracks.seq_lt pending)]
    exact tracks.holds n pending

end

theorem Tracks.complete (tracks : Tracks True frames arrived c rb) (tight : Tight rb)
    (word : frames.length ≤ 2 ^ 64) (all : ∀ k < frames.length, arrived k) : c = frames.length := by
  by_contra incomplete
  have le := tracks.le
  have next := tracks.next
  rcases tracks.kept trivial c (all c (by omega)) with below | ⟨n, pending, same⟩
  · exact Nat.lt_irrefl c below
  · have ahead := tight.ahead n pending
    unfold u64Max at next
    omega

theorem Tracks.alloc {maxBuffered : Nat} (created : alloc 0 maxBuffered = some rb) :
    Tracks lossless frames (fun _ => False) 0 rb := by
  obtain rfl := alloc_eq created
  exact ⟨rfl, Nat.zero_le _, by simp, by simp, by simp, by simp⟩

end Tracks

end Urp.Reorder
