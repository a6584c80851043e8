import Urp.Reorder.Tight

/-!
# What one arrival does to the reorder buffer

The receive path pops the whole drain queue after each arrival.
-/

namespace Urp.Reorder

open Urp.Lib List

/-- Everything that `drainNext` hands out until it fails. -/
def drainAll (len : Nat) : Nat → Buffer → Buffer × List Node
  | 0, rb => (rb, [])
  | fuel + 1, rb =>
    match drainNext rb len with
    | (rb', .ok d) => ((drainAll len fuel rb').1, d :: (drainAll len fuel rb').2)
    | (rb', .error _) => (rb', [])

def Buffer.flush (rb : Buffer) : Buffer := { rb with drained := [], drainCount := 0 }

section Flush

variable (rb : Buffer)

@[simp] theorem flush_pending : rb.flush.pending = rb.pending := rfl

end Flush

variable {len : Nat} {rb : Buffer}

theorem drainAll_eq (counted : Counted rb) (fits : ∀ d ∈ rb.drained, d.data.length ≤ len) :
    drainAll len rb.drained.length rb = (rb.flush, rb.drained) := by
  generalize queue : rb.drained = drained at fits
  induction drained generalizing rb with
  | nil =>
    have zero := counted.drained
    cases rb
    simp_all [drainAll, Buffer.flush]
  | cons d rest ih =>
    have popped : drainNext rb len = (rb.pop, .ok d) := by
      have enough := fits d mem_cons_self
      simp only [drainNext, queue]
      rw [if_neg (Nat.not_lt.mpr enough)]
    have rest_eq := ih (counted.pop (by simp [queue])) (by rw [pop_drained, queue, tail_cons])
      (fun m hm => fits m (mem_cons_of_mem d hm))
    simp only [length_cons, drainAll, popped, rest_eq]
    rfl

def arrive (kmalloc : Nat → Bool) (rb : Buffer) (seq : Nat) (data : Payload) :
    Buffer × List Payload :=
  if seq = rb.nextExpected then
    ((advance kmalloc rb).flush, data :: (advance kmalloc rb).drained.map Node.data)
  else
    ((insert kmalloc rb seq data).1.flush, (insert kmalloc rb seq data).1.drained.map Node.data)

def arriveBuffered (kmalloc : Nat → Bool) (rb : Buffer) (seq : Nat) (data : Payload) :
    Buffer × List Payload :=
  ((insert kmalloc rb seq data).1.flush, (insert kmalloc rb seq data).1.drained.map Node.data)

/-- No frame in the buffer is longer than `len` bytes. -/
def Fits (len : Nat) (rb : Buffer) : Prop :=
  ∀ n, n ∈ rb.pending ∨ n ∈ rb.drained → n.data.length ≤ len

variable {initial maxBuffered : Nat}

theorem alloc_eq (created : alloc initial maxBuffered = some rb) :
    rb = ⟨.empty, [], initial, 0, 0, maxBuffered⟩ := by
  simp only [alloc, Option.ite_none_left_eq_some, Option.some.injEq] at created
  exact created.2.symm

theorem Fits.alloc (created : alloc initial maxBuffered = some rb) : Fits len rb := by
  obtain rfl := alloc_eq created
  simp [Fits]

theorem Fits.drain (fits : Fits len rb) (kmalloc : Nat → Bool) :
    Fits len (drainPrefix kmalloc rb) := by
  refine drainPrefix_preserves (P := Fits len) (fun rb n first _ fits m => ?_) kmalloc rb fits
  rintro (pending | queued)
  · exact fits m (.inl ((OrderedTree.mem_iff_first first).mpr (.inr pending)))
  · rcases mem_append.mp queued with old | moved
    · exact fits m (.inr old)
    · obtain rfl := mem_singleton.mp moved
      exact fits m (.inl (OrderedTree.first_mem first))

variable {data : Payload}

section

variable (fits : Fits len rb)
include fits

theorem Fits.insert (kmalloc : Nat → Bool) (seq : Nat)
    (small : data.length ≤ len) : Fits len (insert kmalloc rb seq data).1 := by
  rcases insert_cases kmalloc rb seq data with ⟨e, refused⟩ | ⟨-, -, -, linked⟩
  · rwa [refused]
  · rw [linked]
    refine Fits.drain (fun n => ?_) _
    rintro (pending | queued)
    · rcases OrderedTree.mem_insert.mp pending with rfl | ⟨old, -⟩
      · exact small
      · exact fits n (.inl old)
    · exact fits n (.inr queued)

theorem Fits.advance (kmalloc : Nat → Bool) :
    Fits len (advance kmalloc rb) := by
  have same : Fits len rb.stepOver := fits
  exact same.drain kmalloc

theorem Fits.flush : Fits len rb.flush :=
  fun n => fun
    | .inl pending => fits n (.inl pending)

theorem Fits.arrive (kmalloc : Nat → Bool) (seq : Nat)
    (small : data.length ≤ len) : Fits len (arrive kmalloc rb seq data).1 := by
  rw [Reorder.arrive]
  split
  · exact (fits.advance kmalloc).flush
  · exact (fits.insert kmalloc seq small).flush

end

section

variable (counted : Counted rb)
include counted

theorem Counted.insert (kmalloc : Nat → Bool) (seq : Nat)
    (data : Payload) : Counted (insert kmalloc rb seq data).1 := by
  rcases insert_cases kmalloc rb seq data with ⟨e, refused⟩ | ⟨-, fresh, -, linked⟩
  · rwa [refused]
  · rw [linked]
    exact drainPrefix_counted _ (counted.link fresh)

theorem Counted.advance (kmalloc : Nat → Bool) :
    Counted (advance kmalloc rb) :=
  drainPrefix_counted kmalloc counted.stepOver

theorem Counted.flush : Counted rb.flush :=
  ⟨counted.pending, rfl⟩

theorem Counted.arrive (kmalloc : Nat → Bool) (seq : Nat)
    (data : Payload) : Counted (arrive kmalloc rb seq data).1 := by
  rw [Reorder.arrive]
  split
  · exact (counted.advance kmalloc).flush
  · exact (counted.insert kmalloc seq data).flush

end

theorem arrive_drained (kmalloc : Nat → Bool) (rb : Buffer) (seq : Nat) (data : Payload) :
    (arrive kmalloc rb seq data).1.drained = [] := by
  rw [arrive]
  split <;> rfl

theorem arrive_due (kmalloc : Nat → Bool) (n m : Nat) (data : Payload) :
    arrive kmalloc ⟨.empty, [], n, 0, 0, m⟩ n data =
      (⟨.empty, [], saturatingIncr64 n, 0, 0, m⟩, [data]) := by
  rw [arrive, if_pos rfl]
  rfl

theorem arrive_maxBuffered (kmalloc : Nat → Bool) (rb : Buffer) (seq : Nat) (data : Payload) :
    (arrive kmalloc rb seq data).1.maxBuffered = rb.maxBuffered := by
  rw [arrive]
  split
  · exact drainPrefix_maxBuffered kmalloc rb.stepOver
  · rcases insert_cases kmalloc rb seq data with ⟨e, refused⟩ | ⟨-, -, -, linked⟩
    · rw [refused]
      rfl
    · rw [linked]
      exact drainPrefix_maxBuffered _ _

/-! ## The bypass against the buffer -/

def Buffer.queueFront (rb : Buffer) (n : Node) : Buffer :=
  { rb with drained := n :: rb.drained, drainCount := incr32 rb.drainCount }

theorem drainLoop_queueFront (n : Node) (fuel : Nat) (kmalloc : Nat → Bool) (rb : Buffer) :
    drainLoop fuel kmalloc (rb.queueFront n) = (drainLoop fuel kmalloc rb).queueFront n := by
  induction fuel generalizing kmalloc rb with
  | zero => rfl
  | succ fuel ih =>
    have first : (rb.queueFront n).pending.first = rb.pending.first := rfl
    have next : (rb.queueFront n).nextExpected = rb.nextExpected := rfl
    rw [drainLoop, drainLoop, first, next]
    cases rb.pending.first with
    | none => rfl
    | some m =>
      have moved : (rb.queueFront n).migrate m = (rb.migrate m).queueFront n := rfl
      simp only [moved, ih]
      split_ifs <;> rfl

structure Steady (rb : Buffer) : Prop extends Tight rb, Counted rb where
  idle : rb.drained = []
  word : rb.maxBuffered ≤ u32Max

variable {kmalloc : Nat → Bool}

theorem insert_due (steady : Steady rb) (allocated : ∀ i, kmalloc i = true) :
    insert kmalloc rb rb.nextExpected data =
      ((advance kmalloc rb).queueFront ⟨rb.nextExpected, data⟩, .ok ()) := by
  have least : ∀ n ∈ rb.pending, rb.nextExpected < n.seq := steady.ahead
  have fresh : rb.pending.find? rb.nextExpected = none :=
    OrderedTree.find?_eq_none.mpr fun n hn => (least n hn).ne'
  have oracle : (fun i => kmalloc (i + 1)) = kmalloc :=
    funext fun i => (allocated (i + 1)).trans (allocated i).symm
  have size : (rb.link ⟨rb.nextExpected, data⟩).pending.size = rb.pending.size + 1 :=
    OrderedTree.size_insert fresh
  have first : (rb.link ⟨rb.nextExpected, data⟩).pending.first = some ⟨rb.nextExpected, data⟩ :=
    OrderedTree.first_insert_least least
  have moved : (rb.link ⟨rb.nextExpected, data⟩).migrate ⟨rb.nextExpected, data⟩ =
      rb.stepOver.queueFront ⟨rb.nextExpected, data⟩ := by
    have count : rb.pendingCount < 2 ^ 32 := steady.pending ▸ Nat.mod_lt _ (by decide)
    have erased : (rb.pending.insert ⟨rb.nextExpected, data⟩).eraseFirst = rb.pending :=
      OrderedTree.eraseFirst_insert_least least
    simp only [Buffer.migrate, Buffer.link, Buffer.stepOver, Buffer.queueFront, steady.idle,
      erased, decr32_incr32 count, nil_append]
  unfold insert
  rw [if_neg (Nat.lt_irrefl _), fresh, if_neg (by simp), if_neg (by simp), allocated 0,
    if_neg (by simp), oracle, drainPrefix, size, drainLoop, first]
  simp only [link_nextExpected, ne_eq, not_true_eq_false, if_false, allocated 0, moved, oracle,
    drainLoop_queueFront]
  rfl

variable {seq : Nat}

theorem arrive_eq_arriveBuffered (steady : Steady rb) (allocated : ∀ i, kmalloc i = true) :
    arrive kmalloc rb seq data = arriveBuffered kmalloc rb seq data := by
  rw [arrive, arriveBuffered]
  split
  · rename_i due
    rw [due, insert_due steady allocated]
    rfl
  · rfl

theorem Steady.flush (tight : Tight rb) (counted : Counted rb)
    (word : rb.maxBuffered ≤ u32Max) : Steady rb.flush :=
  ⟨{ tight with }, ⟨counted.pending, rfl⟩, rfl, word⟩

theorem insert_tight (data : Payload)
    (steady : Steady rb) (allocated : ∀ i, kmalloc i = true) (bound : seq ≤ u64Max) :
    Tight (insert kmalloc rb seq data).1 ∧ Counted (insert kmalloc rb seq data).1 ∧
      (insert kmalloc rb seq data).1.maxBuffered = rb.maxBuffered := by
  rcases insert_cases kmalloc rb seq data with ⟨e, refused⟩ | ⟨ahead, fresh, room, linked⟩
  · rw [refused]
    exact ⟨steady.toTight, steady.toCounted, rfl⟩
  · rw [linked]
    have size := steady.toTight.pendingCount_eq steady.toCounted steady.word
    exact ⟨(steady.toTight.link bound ahead fresh (size ▸ room)).drain fun i => allocated (i + 1),
      drainPrefix_counted _ (steady.toCounted.link fresh), drainPrefix_maxBuffered _ _⟩

theorem Steady.arriveBuffered (steady : Steady rb) (allocated : ∀ i, kmalloc i = true)
    (bound : seq ≤ u64Max) : Steady (arriveBuffered kmalloc rb seq data).1 := by
  obtain ⟨tight, counted, capacity⟩ := insert_tight data steady allocated bound
  exact Steady.flush tight counted (capacity ▸ steady.word)

theorem Steady.alloc (word : maxBuffered ≤ u32Max)
    (created : alloc initial maxBuffered = some rb) : Steady rb := by
  obtain rfl := alloc_eq created
  exact ⟨⟨by simp, by simp, Nat.zero_le _⟩, ⟨rfl, rfl⟩, rfl, word⟩

end Urp.Reorder
