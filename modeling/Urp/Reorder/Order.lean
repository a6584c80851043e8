import Urp.Lib.Run
import Urp.Reorder.Tight
import Mathlib.Order.Bounds.Basic
import Mathlib.Data.List.Range

/-!
# The order in which the reorder buffer hands frames out

A history is a buffer with the frames its inserts accepted and the numbers its drains and advances
handed out.
-/

namespace Urp.Reorder

open Urp.Lib List

inductive Handed where
  | drained (frame : Node)
  | stepped (seq : Nat)
deriving DecidableEq

def Handed.seq : Handed → Nat
  | .drained frame => frame.seq
  | .stepped seq => seq

/-- A buffer, with what it has handed out and accepted. -/
structure History where
  buffer : Buffer
  handed : List Handed
  accepted : List Node

inductive Call where
  | insert (kmalloc : Nat → Bool) (seq : Nat) (data : Payload)
  | drainNext (len : Nat)
  | advance (kmalloc : Nat → Bool)

def Call.Allocates : Call → Prop
  | .insert kmalloc _ _ => ∀ i, kmalloc i = true
  | .drainNext _ => True
  | .advance kmalloc => ∀ i, kmalloc i = true

def History.call (h : History) : Call → Option History
  | .insert kmalloc seq data =>
    if seq < u64Max then
      match insert kmalloc h.buffer seq data with
      | (rb, .ok ()) => some { h with buffer := rb, accepted := h.accepted ++ [⟨seq, data⟩] }
      | (rb, .error _) => some { h with buffer := rb }
    else none
  | .drainNext len =>
    match drainNext h.buffer len with
    | (rb, .ok d) => some { h with buffer := rb, handed := h.handed ++ [.drained d] }
    | (rb, .error _) => some { h with buffer := rb }
  | .advance kmalloc =>
    if h.buffer.drained = [] ∧ h.buffer.nextExpected < u64Max then
      some { h with
        buffer := advance kmalloc h.buffer
        handed := h.handed ++ [.stepped h.buffer.nextExpected] }
    else none

structure Ledger (initial : Nat) (handed : List Handed) (accepted : List Node) (rb : Buffer) :
    Prop where
  order : handed.map Handed.seq ++ rb.drained.map Node.seq =
    List.range' initial (handed.length + rb.drained.length)
  next : rb.nextExpected = initial + (handed.length + rb.drained.length)
  unique : (accepted.map Node.seq).Nodup
  bounded : ∀ n ∈ accepted, n.seq < u64Max
  kept : ∀ n ∈ accepted, n.seq < rb.nextExpected ∨ n ∈ rb.pending
  waiting : ∀ n ∈ rb.pending, n ∈ accepted
  queued : ∀ n ∈ rb.drained, n ∈ accepted
  released : ∀ n, Handed.drained n ∈ handed → n ∈ accepted
  counted : Counted rb

section Ledger

variable {initial : Nat} {handed : List Handed} {accepted : List Node} {rb : Buffer}

section

variable (ledger : Ledger initial handed accepted rb)
include ledger

theorem Ledger.migrate {n : Node} (first : rb.pending.first = some n)
    (due : n.seq = rb.nextExpected) : Ledger initial handed accepted (rb.migrate n) := by
  have accepted_n := ledger.waiting n (OrderedTree.first_mem first)
  have step : saturatingIncr64 rb.nextExpected = rb.nextExpected + 1 :=
    saturatingIncr64_of_lt (due ▸ ledger.bounded n accepted_n)
  refine ⟨?_, ?_, ledger.unique, ledger.bounded, ?_, ?_, ?_, ledger.released,
    ledger.counted.migrate first⟩
  · simp only [migrate_drained, map_append, map_cons, map_nil, length_append,
      length_cons, length_nil, ← append_assoc, ledger.order, due, ledger.next]
    rw [← Nat.add_assoc handed.length, List.range'_1_concat]
  · rw [migrate_nextExpected, step, ledger.next, migrate_drained, length_append, length_singleton]
    omega
  · intro m membership
    simp only [migrate_nextExpected, migrate_pending, step]
    rcases ledger.kept m membership with below | pending
    · exact .inl (Nat.lt_succ_of_lt below)
    · rcases (OrderedTree.mem_iff_first first).mp pending with rfl | rest
      · exact .inl (by omega)
      · exact .inr rest
  · intro m membership
    exact ledger.waiting m ((OrderedTree.mem_iff_first first).mpr (.inr membership))
  · intro m membership
    rcases mem_append.mp membership with old | new
    · exact ledger.queued m old
    · exact mem_singleton.mp new ▸ accepted_n

theorem Ledger.drain (kmalloc : Nat → Bool) :
    Ledger initial handed accepted (drainPrefix kmalloc rb) :=
  drainPrefix_preserves (fun _ _ first due ledger => ledger.migrate first due) kmalloc rb ledger

theorem Ledger.link {seq : Nat} {data : Payload} (bound : seq < u64Max)
    (ahead : ¬seq < rb.nextExpected) (fresh : rb.pending.find? seq = none) :
    Ledger initial handed (accepted ++ [⟨seq, data⟩]) (rb.link ⟨seq, data⟩) := by
  have absent := OrderedTree.find?_eq_none.mp fresh
  have unseen : ∀ n ∈ accepted, n.seq ≠ seq := by
    intro n membership same
    rcases ledger.kept n membership with below | pending
    · omega
    · exact absent n pending same
  refine ⟨ledger.order, ledger.next, ?_, ?_, ?_, ?_, ?_, ?_, ledger.counted.link fresh⟩
  · simp only [map_append, map_cons, map_nil]
    refine List.Nodup.append ledger.unique (nodup_singleton _) ?_
    simpa [disjoint_singleton] using unseen
  · intro n membership
    rcases mem_append.mp membership with old | new
    · exact ledger.bounded n old
    · exact mem_singleton.mp new ▸ bound
  · intro n membership
    rcases mem_append.mp membership with old | new
    · refine (ledger.kept n old).imp_right fun pending => ?_
      exact OrderedTree.mem_insert.mpr (.inr ⟨pending, absent n pending⟩)
    · exact .inr (OrderedTree.mem_insert.mpr (.inl (mem_singleton.mp new)))
  · intro n membership
    rcases OrderedTree.mem_insert.mp membership with rfl | ⟨old, -⟩
    · exact mem_append_right _ (mem_singleton.mpr rfl)
    · exact mem_append_left _ (ledger.waiting n old)
  · exact fun n membership => mem_append_left _ (ledger.queued n membership)
  · exact fun n membership => mem_append_left _ (ledger.released n membership)

theorem Ledger.pop {d : Node} {rest : List Node} (head : rb.drained = d :: rest) :
    Ledger initial (handed ++ [.drained d]) accepted rb.pop := by
  refine ⟨?_, ?_, ledger.unique, ledger.bounded, ledger.kept, ledger.waiting, ?_, ?_,
    ledger.counted.pop (by simp [head])⟩
  · have order := ledger.order
    simpa [head, Handed.seq, Nat.add_comm, Nat.add_left_comm] using order
  · simp only [pop_nextExpected, pop_drained, ledger.next, head, tail_cons,
      length_append, length_cons, length_nil]
    omega
  · exact fun n membership => ledger.queued n (mem_of_mem_tail membership)
  · intro n membership
    rcases mem_append.mp membership with old | new
    · exact ledger.released n old
    · obtain rfl : n = d := by simpa using new
      exact ledger.queued n (head ▸ mem_cons_self)

theorem Ledger.stepOver (empty : rb.drained = []) (bound : rb.nextExpected < u64Max) :
    Ledger initial (handed ++ [.stepped rb.nextExpected]) accepted rb.stepOver := by
  have order := ledger.order
  have next := ledger.next
  simp only [empty, map_nil, append_nil, length_nil, Nat.add_zero] at order next
  refine ⟨?_, ?_, ledger.unique, ledger.bounded, ?_, ledger.waiting, ?_, ?_,
    ledger.counted.stepOver⟩
  · simp only [stepOver_drained, empty, map_append, order, next, map_cons, map_nil, append_nil,
      length_append, length_singleton, length_nil, Nat.add_zero]
    exact List.range'_1_concat.symm
  · rw [stepOver_nextExpected, saturatingIncr64_of_lt bound, next, stepOver_drained, empty,
      length_append, length_singleton, length_nil]
    omega
  · intro n membership
    exact (ledger.kept n membership).imp_left (fun below => below.trans_le (le_saturatingIncr64 _))
  · exact fun n membership => ledger.queued n membership
  · intro n membership
    exact ledger.released n (by simpa using membership)

theorem Ledger.filter_accepted {n : Node}
    (membership : n ∈ accepted) : accepted.filter (fun m => m.seq = n.seq) = [n] := by
  have unique := ledger.unique
  clear ledger
  induction accepted with
  | nil => cases membership
  | cons m ms ih =>
    rw [map_cons, nodup_cons] at unique
    rcases mem_cons.mp membership with rfl | later
    · have none_left : ms.filter (fun m => m.seq = n.seq) = [] := by
        refine filter_eq_nil_iff.mpr fun m hm same => unique.1 ?_
        exact mem_map.mpr ⟨m, hm, by simpa using same⟩
      simp [none_left]
    · have other : m.seq ≠ n.seq := fun same =>
        unique.1 (same ▸ mem_map_of_mem later)
      simpa [other] using ih later unique.2

end

end Ledger

/-! ## Every call -/

variable {h h' : History} {c : Call}

theorem History.call_cases (called : h.call c = some h') :
    h' = h ∨
    (∃ kmalloc seq data, c = .insert kmalloc seq data ∧ seq < u64Max ∧
      ¬seq < h.buffer.nextExpected ∧ h.buffer.pending.find? seq = none ∧
      (h.buffer.pendingCount < h.buffer.maxBuffered ∨ seq = h.buffer.nextExpected) ∧
      h' = ⟨drainPrefix (fun i => kmalloc (i + 1)) (h.buffer.link ⟨seq, data⟩), h.handed,
        h.accepted ++ [⟨seq, data⟩]⟩) ∨
    (∃ d rest, h.buffer.drained = d :: rest ∧
      h' = ⟨h.buffer.pop, h.handed ++ [.drained d], h.accepted⟩) ∨
    (∃ kmalloc, c = .advance kmalloc ∧ h.buffer.drained = [] ∧ h.buffer.nextExpected < u64Max ∧
      h' = ⟨advance kmalloc h.buffer, h.handed ++ [.stepped h.buffer.nextExpected],
        h.accepted⟩) := by
  cases c with
  | insert kmalloc seq data =>
    simp only [History.call] at called
    split at called
    · rename_i bound
      rcases insert_cases kmalloc h.buffer seq data with ⟨e, refused⟩ | ⟨ahead, fresh, room, linked⟩
      · exact .inl (by simpa [refused] using called.symm)
      · refine .inr (.inl ⟨kmalloc, seq, data, rfl, bound, ahead, fresh, room, ?_⟩)
        simpa [linked] using called.symm
    · cases called
  | drainNext len =>
    simp only [History.call] at called
    rcases drainNext_cases h.buffer len with ⟨e, refused⟩ | ⟨d, rest, head, -, popped⟩
    · exact .inl (by simpa [refused] using called.symm)
    · refine .inr (.inr (.inl ⟨d, rest, head, ?_⟩))
      simpa [popped] using called.symm
  | advance kmalloc =>
    simp only [History.call] at called
    split at called
    · rename_i allowed
      exact .inr (.inr (.inr ⟨kmalloc, rfl, allowed.1, allowed.2, by simpa using called.symm⟩))
    · cases called

def History.Ordered (initial maxBuffered : Nat) (h : History) : Prop :=
  Ledger initial h.handed h.accepted h.buffer ∧ h.buffer.maxBuffered = maxBuffered

variable {initial maxBuffered : Nat}

theorem History.call_ordered
    (ordered : h.Ordered initial maxBuffered) (called : h.call c = some h') :
    h'.Ordered initial maxBuffered := by
  obtain ⟨ledger, capacity⟩ := ordered
  obtain rfl | ⟨kmalloc, seq, data, -, bound, ahead, fresh, -, rfl⟩ | ⟨d, rest, head, rfl⟩ |
    ⟨kmalloc, -, empty, bound, rfl⟩ := call_cases called
  · exact ⟨ledger, capacity⟩
  · exact ⟨(ledger.link bound ahead fresh).drain _, (drainPrefix_maxBuffered _ _).trans capacity⟩
  · exact ⟨ledger.pop head, capacity⟩
  · exact ⟨(ledger.stepOver empty bound).drain _, (drainPrefix_maxBuffered _ _).trans capacity⟩

theorem History.call_tight (word : maxBuffered ≤ u32Max) (ordered : h.Ordered initial maxBuffered)
    (tight : Tight h.buffer) (allocates : c.Allocates) (called : h.call c = some h') :
    Tight h'.buffer := by
  obtain ⟨ledger, capacity⟩ := ordered
  have counted := tight.pendingCount_eq ledger.counted (capacity ▸ word)
  obtain rfl | ⟨kmalloc, seq, data, rfl, bound, ahead, fresh, room, rfl⟩ | ⟨d, rest, head, rfl⟩ |
    ⟨kmalloc, rfl, empty, bound, rfl⟩ := call_cases called
  · exact tight
  · exact (tight.link bound.le ahead fresh (counted ▸ room)).drain (fun i => allocates (i + 1))
  · exact tight.pop
  · exact tight.stepOver.drain allocates

theorem Ledger.isLeast_next {handed : List Handed} {accepted : List Node}
    {rb : Buffer} (ledger : Ledger initial handed accepted rb) (tight : Tight rb) :
    IsLeast {k | initial ≤ k ∧ k ∉ accepted.map Node.seq ∧ Handed.stepped k ∉ handed}
      rb.nextExpected := by
  have below : ∀ k, k ∈ handed.map Handed.seq ++ rb.drained.map Node.seq ↔
      initial ≤ k ∧ k < rb.nextExpected := by
    intro k
    rw [ledger.order, ledger.next, mem_range'_1]
  refine ⟨⟨by rw [ledger.next]; omega, ?_, ?_⟩, ?_⟩
  · intro membership
    obtain ⟨n, accepted_n, same⟩ := mem_map.mp membership
    rcases ledger.kept n accepted_n with passed | pending
    · omega
    · have ahead := tight.ahead n pending
      omega
  · intro membership
    have passed := (below rb.nextExpected).mp (mem_append_left _ (mem_map.mpr ⟨_, membership, rfl⟩))
    omega
  · rintro k ⟨from_initial, unaccepted, unstepped⟩
    by_contra passed
    have listed := (below k).mpr ⟨from_initial, Nat.lt_of_not_le passed⟩
    rcases mem_append.mp listed with released | queued
    · obtain ⟨entry, membership, rfl⟩ := mem_map.mp released
      cases entry with
      | drained n => exact unaccepted (mem_map_of_mem (ledger.released n membership))
      | stepped seq => exact unstepped membership
    · obtain ⟨n, membership, rfl⟩ := mem_map.mp queued
      exact unaccepted (mem_map_of_mem (ledger.queued n membership))

theorem alloc_ordered {rb : Buffer} (created : alloc initial maxBuffered = some rb) :
    History.Ordered initial maxBuffered ⟨rb, [], []⟩ ∧ Tight rb := by
  simp only [alloc, Option.ite_none_left_eq_some, Option.some.injEq] at created
  obtain ⟨-, rfl⟩ := created
  refine ⟨⟨⟨rfl, rfl, nodup_nil, ?_, ?_, ?_, ?_, ?_, ⟨rfl, rfl⟩⟩, rfl⟩, ?_, ?_, Nat.zero_le _⟩ <;>
    simp

/-- Whatever the calls and their failed allocations, the numbers handed out count up from the
initial number, and a drained payload is that of the only insert that accepted its number. If
no allocation fails, the next number is the least one still missing and the tree keeps its
bound. -/
theorem handed_out_in_order {initial maxBuffered : Nat} {rb : Buffer} {calls : List Call}
    {h : History} (word : maxBuffered ≤ u32Max) (created : alloc initial maxBuffered = some rb)
    (reached : run History.call ⟨rb, [], []⟩ calls = some h) :
    h.handed.map Handed.seq = List.range' initial h.handed.length ∧
    (∀ frame, Handed.drained frame ∈ h.handed →
      h.accepted.filter (fun n => n.seq = frame.seq) = [frame]) ∧
    ((∀ c ∈ calls, c.Allocates) →
      IsLeast {k | initial ≤ k ∧ k ∉ h.accepted.map Node.seq ∧ Handed.stepped k ∉ h.handed}
        h.buffer.nextExpected ∧
      h.buffer.pending.size ≤ maxBuffered) := by
  obtain ⟨ordered, tight⟩ := alloc_ordered created
  have final := run_invariant (fun _ _ _ => History.call_ordered) ordered reached
  obtain ⟨ledger, capacity⟩ := final
  refine ⟨?_, ?_, ?_⟩
  · have order := ledger.order
    rw [← List.range'_append_1] at order
    exact append_inj_left order (by simp)
  · intro frame membership
    exact ledger.filter_accepted (ledger.released frame membership)
  · intro allocates
    have both := run_preserves (A := fun _ c => c.Allocates)
      (P := fun h => h.Ordered initial maxBuffered ∧ Tight h.buffer)
      (fun _ _ _ before allocates called => ⟨History.call_ordered before.1 called,
        History.call_tight word before.1 before.2 allocates called⟩)
      ⟨ordered, tight⟩ (along_of_forall (fun _ => allocates) _) reached
    exact ⟨ledger.isLeast_next both.2, capacity ▸ both.2.within⟩

def failedMigration : List Call :=
  [.insert (fun i => i = 0) 5 [1], .insert (fun _ => true) 6 [2], .drainNext 1, .drainNext 1,
    .advance (fun _ => true)]

theorem handed_out_after_failed_migration :
    ∃ h, run History.call ⟨⟨.empty, [], 5, 0, 0, 2⟩, [], []⟩ failedMigration = some h ∧
      h.handed.map Handed.seq = List.range' 5 3 ∧
      h.accepted.filter (fun n => n.seq = 6) = [⟨6, [2]⟩] := by
  let h : History := ⟨⟨.empty, [], 8, 0, 0, 2⟩,
    [.drained ⟨5, [1]⟩, .drained ⟨6, [2]⟩, .stepped 7], [⟨5, [1]⟩, ⟨6, [2]⟩]⟩
  have reached : run History.call ⟨⟨.empty, [], 5, 0, 0, 2⟩, [], []⟩ failedMigration = some h := rfl
  have result := handed_out_in_order (by decide : 2 ≤ u32Max) rfl reached
  exact ⟨h, reached, result.1, result.2.1 ⟨6, [2]⟩ (by decide)⟩

end Urp.Reorder
