import Urp.Reorder.Buffer

/-!
# The reorder buffer without failed allocations

As long as allocations succeed, nothing that is due stays pending and the tree stays within its
bound.
-/

namespace Urp.Reorder

open Urp.Lib

theorem drainPrefix_maxBuffered (kmalloc : Nat → Bool) (rb : Buffer) :
    (drainPrefix kmalloc rb).maxBuffered = rb.maxBuffered :=
  drainPrefix_preserves (P := fun rb' => rb'.maxBuffered = rb.maxBuffered)
    (fun _ _ _ _ same => same) kmalloc rb rfl

variable {rb : Buffer}

theorem drainPrefix_counted (kmalloc : Nat → Bool) (counted : Counted rb) :
    Counted (drainPrefix kmalloc rb) :=
  drainPrefix_preserves (fun _ _ first _ counted => counted.migrate first) kmalloc rb counted

theorem insert_cases (kmalloc : Nat → Bool) (rb : Buffer) (seq : Nat) (data : Payload) :
    (∃ e, insert kmalloc rb seq data = (rb, .error e)) ∨
    (¬seq < rb.nextExpected ∧ rb.pending.find? seq = none ∧
      (rb.pendingCount < rb.maxBuffered ∨ seq = rb.nextExpected) ∧
      insert kmalloc rb seq data =
        (drainPrefix (fun i => kmalloc (i + 1)) (rb.link ⟨seq, data⟩), .ok ())) := by
  unfold insert
  split
  · exact .inl ⟨_, rfl⟩
  split
  · exact .inl ⟨_, rfl⟩
  split
  · exact .inl ⟨_, rfl⟩
  split
  · exact .inl ⟨_, rfl⟩
  rename_i ahead absent room _
  refine .inr ⟨ahead, by simpa using absent, ?_, rfl⟩
  rcases Nat.lt_or_ge rb.pendingCount rb.maxBuffered with less | full
  · exact .inl less
  · exact .inr (not_not.mp fun other => room ⟨full, other⟩)

variable {kmalloc : Nat → Bool} {seq : Nat}

theorem insert_accepts (data : Payload)
    (ahead : ¬seq < rb.nextExpected) (fresh : rb.pending.find? seq = none)
    (room : seq = rb.nextExpected ∨ rb.pendingCount < rb.maxBuffered)
    (allocated : kmalloc 0 = true) :
    insert kmalloc rb seq data =
      (drainPrefix (fun i => kmalloc (i + 1)) (rb.link ⟨seq, data⟩), .ok ()) := by
  unfold insert
  rw [if_neg ahead, fresh, if_neg (by simp), if_neg (by omega), allocated, if_neg (by simp)]

theorem insert_full_iff (data : Payload) : (insert kmalloc rb seq data).2 = .error .ENOBUFS ↔
      ¬seq < rb.nextExpected ∧ rb.pending.find? seq = none ∧ rb.maxBuffered ≤ rb.pendingCount ∧
        seq ≠ rb.nextExpected := by
  unfold insert
  split_ifs with behind known full failed
  · simp [behind]
  · simp [Option.isSome_iff_ne_none.mp known]
  · simpa [behind, Option.not_isSome_iff_eq_none.mp known] using full
  · simpa using fun _ _ => not_and_not_right.mp full
  · simpa using fun _ _ => not_and_not_right.mp full

theorem drainPrefix_idle (kmalloc : Nat → Bool)
    (missing : ∀ n ∈ rb.pending, n.seq ≠ rb.nextExpected) : drainPrefix kmalloc rb = rb := by
  unfold drainPrefix
  cases rb.pending.size with
  | zero => rfl
  | succ fuel =>
    rw [drainLoop]
    cases first : rb.pending.first with
    | none => rfl
    | some n => simp [missing n (OrderedTree.first_mem first)]

theorem drainNext_cases (rb : Buffer) (len : Nat) : (∃ e, drainNext rb len = (rb, .error e)) ∨
    (∃ d rest, rb.drained = d :: rest ∧ d.data.length ≤ len ∧
      drainNext rb len = (rb.pop, .ok d)) := by
  unfold drainNext
  split
  · exact .inl ⟨_, rfl⟩
  · rename_i d rest head
    split
    · exact .inl ⟨_, rfl⟩
    · rename_i fits
      exact .inr ⟨d, rest, head, Nat.le_of_not_lt fits, rfl⟩

structure Tight (rb : Buffer) : Prop where
  ahead : ∀ n ∈ rb.pending, rb.nextExpected < n.seq
  bounded : ∀ n ∈ rb.pending, n.seq ≤ u64Max
  within : rb.pending.size ≤ rb.maxBuffered

structure Loose (rb : Buffer) : Prop where
  notBehind : ∀ n ∈ rb.pending, rb.nextExpected ≤ n.seq
  bounded : ∀ n ∈ rb.pending, n.seq ≤ u64Max
  within : rb.pending.size ≤ rb.maxBuffered ∨
    rb.pending.size = rb.maxBuffered + 1 ∧ ∃ n ∈ rb.pending, n.seq = rb.nextExpected

theorem saturatingIncr64_le_of_lt {n m : Nat} (below : n < m) (bound : m ≤ u64Max) :
    saturatingIncr64 n ≤ m := by
  rwa [saturatingIncr64_of_lt (below.trans_le bound)]

theorem Loose.migrate {n : Node} (loose : Loose rb) (first : rb.pending.first = some n)
    (due : n.seq = rb.nextExpected) : Loose (rb.migrate n) := by
  have rest_mem : ∀ m ∈ rb.pending.eraseFirst, m ∈ rb.pending := fun m hm =>
    (OrderedTree.mem_iff_first first).mpr (.inr hm)
  have shrinks := OrderedTree.size_eraseFirst first
  refine ⟨?_, fun m hm => loose.bounded m (rest_mem m hm), .inl ?_⟩
  · intro m hm
    have above := OrderedTree.first_lt first hm
    exact saturatingIncr64_le_of_lt (due ▸ above) (loose.bounded m (rest_mem m hm))
  · simp only [migrate_pending, migrate_maxBuffered]
    rcases loose.within with within | ⟨within, -⟩ <;> omega

theorem Loose.drain (loose : Loose rb)
    (allocated : ∀ i, kmalloc i = true) : Tight (drainPrefix kmalloc rb) := by
  have final := drainPrefix_preserves (P := Loose)
    (fun _ _ first due loose => loose.migrate first due) kmalloc rb loose
  have settled := drainPrefix_settled kmalloc rb allocated
  have ahead : ∀ n ∈ (drainPrefix kmalloc rb).pending,
      (drainPrefix kmalloc rb).nextExpected < n.seq := by
    intro n hn
    cases first : (drainPrefix kmalloc rb).pending.first with
    | none => simp [OrderedTree.first_eq_none.mp first] at hn
    | some m =>
      have not_due := settled m first
      have least := OrderedTree.first_le first hn
      have not_behind := final.notBehind m (OrderedTree.first_mem first)
      omega
  refine ⟨ahead, final.bounded, final.within.resolve_right ?_⟩
  rintro ⟨-, n, hn, due⟩
  exact absurd due (Nat.ne_of_gt (ahead n hn))

section

variable (tight : Tight rb)
include tight

theorem Tight.pendingCount_eq (counted : Counted rb)
    (word : rb.maxBuffered ≤ u32Max) : rb.pendingCount = rb.pending.size := by
  have within := tight.within
  unfold u32Max at word
  rw [counted.pending, Nat.mod_eq_of_lt (by omega)]

theorem Tight.link {data : Payload} (bound : seq ≤ u64Max)
    (ahead : ¬seq < rb.nextExpected) (fresh : rb.pending.find? seq = none)
    (room : rb.pending.size < rb.maxBuffered ∨ seq = rb.nextExpected) :
    Loose (rb.link ⟨seq, data⟩) := by
  have size : (rb.link ⟨seq, data⟩).pending.size = rb.pending.size + 1 :=
    OrderedTree.size_insert fresh
  have within := tight.within
  refine ⟨?_, ?_, ?_⟩
  · intro n membership
    rcases OrderedTree.mem_insert.mp membership with rfl | ⟨old, -⟩
    · exact Nat.le_of_not_lt ahead
    · exact (tight.ahead n old).le
  · intro n membership
    rcases OrderedTree.mem_insert.mp membership with rfl | ⟨old, -⟩
    · exact bound
    · exact tight.bounded n old
  · by_cases full : rb.pending.size < rb.maxBuffered
    · exact .inl (by rw [size, link_maxBuffered]; omega)
    · refine .inr ⟨by rw [size, link_maxBuffered]; omega, ⟨seq, data⟩, ?_,
        room.resolve_left full⟩
      exact OrderedTree.mem_insert.mpr (.inl rfl)

theorem Tight.stepOver : Loose rb.stepOver :=
  ⟨fun n membership => saturatingIncr64_le_of_lt (tight.ahead n membership)
    (tight.bounded n membership), tight.bounded, .inl tight.within⟩

theorem Tight.pop : Tight rb.pop :=
  { tight with }

end

end Urp.Reorder
