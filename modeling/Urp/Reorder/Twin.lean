import Urp.Protocol.Header
import Urp.Reorder.Tight

/-!
# The two reorder buffers
-/

namespace Urp.Reorder

open Urp.Lib Urp.Protocol List

def protocolErrToErrno : ProtocolError → Errno
  | .reorderDuplicate _ => .EEXIST
  | .reorderFull _ => .ENOBUFS
  | .creditExhausted => .ENOBUFS
  | .bufferTooShort _ _ => .EINVAL
  | .invalidFrameType _ => .EINVAL
  | .invalidFlags _ _ => .EINVAL

structure ReorderBuffer where
  pending : OrderedTree Node Node.seq
  nextExpected : Nat
  maxBuffered : Nat

namespace ReorderBuffer

def new (initialExpected maxBuffered : Nat) : ReorderBuffer :=
  ⟨.empty, initialExpected, maxBuffered⟩

def deliver : Nat → ReorderBuffer → ReorderBuffer × List Node
  | 0, rb => (rb, [])
  | fuel + 1, rb =>
    match rb.pending.find? rb.nextExpected with
    | none => (rb, [])
    | some n =>
      let rest := deliver fuel { rb with
          pending := rb.pending.erase rb.nextExpected
          nextExpected := saturatingIncr64 rb.nextExpected }
      (rest.1, ⟨rb.nextExpected, n.data⟩ :: rest.2)

def insert (rb : ReorderBuffer) (seq : Nat) (data : Payload) :
    ReorderBuffer × Except ProtocolError (List Node) :=
  if seq < rb.nextExpected then (rb, .error (.reorderDuplicate seq))
  else if (rb.pending.find? seq).isSome then (rb, .error (.reorderDuplicate seq))
  else if rb.maxBuffered ≤ rb.pending.size ∧ seq ≠ rb.nextExpected then
    (rb, .error (.reorderFull rb.maxBuffered))
  else
    let pending := rb.pending.insert ⟨seq, data⟩
    let delivered := deliver pending.size { rb with pending := pending }
    (delivered.1, .ok delivered.2)

def advance (rb : ReorderBuffer) : ReorderBuffer × List Node :=
  deliver rb.pending.size { rb with nextExpected := saturatingIncr64 rb.nextExpected }

end ReorderBuffer

structure RustReorder where
  inner : ReorderBuffer
  drainQueue : List Node

namespace RustReorder

def new (initialExpected maxBuffered : Nat) : RustReorder :=
  ⟨.new initialExpected maxBuffered, []⟩

def insert (rb : RustReorder) (seq : Nat) (data : Payload) : RustReorder × Except Errno Unit :=
  match rb.inner.insert seq data with
  | (inner, .ok delivered) => (⟨inner, rb.drainQueue ++ delivered⟩, .ok ())
  | (inner, .error e) => (⟨inner, rb.drainQueue⟩, .error (protocolErrToErrno e))

def advance (rb : RustReorder) : RustReorder :=
  ⟨rb.inner.advance.1, rb.drainQueue ++ rb.inner.advance.2⟩

def drainNext (rb : RustReorder) (len : Nat) : RustReorder × Except Errno Node :=
  match rb.drainQueue with
  | [] => (rb, .error .ENOENT)
  | front :: rest =>
    if len < front.data.length then (rb, .error .ENOBUFS)
    else (⟨rb.inner, rest⟩, .ok front)

end RustReorder

/-! ## What a caller sees -/

inductive Op where
  | insert (seq : UInt64) (data : Payload)
  | advance
  | drainNext (len : Nat)

/-- The answer to an operation, and the numbers that can be read afterwards. -/
structure Report where
  result : Except Errno (Option Node)
  inoutLen : Option Nat
  nextExpected : Nat
  gapCount : Nat
  drainPending : Nat

/-- The length that a drain into a buffer of `len` bytes writes back. -/
def drainedLen (queue : List Node) (len : Nat) : Nat := (queue.head?.map (·.data.length)).getD len

def Buffer.perform (rb : Buffer) : Op → Buffer × Except Errno (Option Node) × Option Nat
  | .insert seq data =>
    let r := Reorder.insert (fun _ => true) rb seq.toNat data
    (r.1, r.2.map fun _ => none, none)
  | .advance => (Reorder.advance (fun _ => true) rb, .ok none, none)
  | .drainNext len =>
    let r := Reorder.drainNext rb len
    (r.1, r.2.map some, some (drainedLen rb.drained len))

def RustReorder.perform (rb : RustReorder) :
    Op → RustReorder × Except Errno (Option Node) × Option Nat
  | .insert seq data =>
    let r := rb.insert seq.toNat data
    (r.1, r.2.map fun _ => none, none)
  | .advance => (rb.advance, .ok none, none)
  | .drainNext len =>
    let r := rb.drainNext len
    (r.1, r.2.map some, some (drainedLen rb.drainQueue len))

def Buffer.report (r : Buffer × Except Errno (Option Node) × Option Nat) : Report :=
  ⟨r.2.1, r.2.2, r.1.nextExpected, r.1.pendingCount, r.1.drainCount⟩

def RustReorder.report (r : RustReorder × Except Errno (Option Node) × Option Nat) : Report :=
  ⟨r.2.1, r.2.2, r.1.inner.nextExpected, r.1.inner.pending.size, r.1.drainQueue.length⟩

def Buffer.reports : Buffer → List Op → List Report
  | _, [] => []
  | rb, op :: ops => Buffer.report (rb.perform op) :: (rb.perform op).1.reports ops

def RustReorder.reports : RustReorder → List Op → List Report
  | _, [] => []
  | rb, op :: ops => RustReorder.report (rb.perform op) :: (rb.perform op).1.reports ops

/-! ## The simulation -/

def Buffer.inner (rb : Buffer) : ReorderBuffer := ⟨rb.pending, rb.nextExpected, rb.maxBuffered⟩

def Buffer.twin (rb : Buffer) : RustReorder := ⟨rb.inner, rb.drained⟩

theorem twin_drainLoop (fuel : Nat) {rb : Buffer} (loose : Loose rb) :
    (drainLoop fuel (fun _ => true) rb).twin =
      ⟨(rb.inner.deliver fuel).1, rb.drained ++ (rb.inner.deliver fuel).2⟩ := by
  induction fuel generalizing rb with
  | zero => simp [drainLoop, ReorderBuffer.deliver, Buffer.twin]
  | succ fuel ih =>
    have look : rb.inner.pending.find? rb.inner.nextExpected = rb.pending.find? rb.nextExpected :=
      rfl
    rw [drainLoop, ReorderBuffer.deliver, look]
    cases found : rb.pending.find? rb.nextExpected with
    | none =>
      have missing := OrderedTree.find?_eq_none.mp found
      cases head : rb.pending.first with
      | none => simp [Buffer.twin]
      | some n => simp [if_pos (missing n (OrderedTree.first_mem head)), Buffer.twin]
    | some n =>
      have due : n.seq = rb.nextExpected := by simpa using List.find?_some found
      have head : rb.pending.first = some n := OrderedTree.first_of_find? loose.notBehind found
      have moved : (rb.migrate n).inner = { rb.inner with
            pending := rb.inner.pending.erase rb.inner.nextExpected
            nextExpected := saturatingIncr64 rb.inner.nextExpected } := by
        have erased := OrderedTree.erase_first head
        rw [due] at erased
        simp only [Buffer.inner, erased]
        rfl
      have whole : (⟨rb.inner.nextExpected, n.data⟩ : Node) = n := by
        rw [Buffer.inner, ← due]
      simp only [head, if_neg (not_not.mpr due), Bool.true_eq_false, if_false, whole,
        ih (loose.migrate head due), moved, migrate_drained, append_assoc, singleton_append]

structure Kept (rb : Buffer) : Prop extends Tight rb, Counted rb where
  word : rb.maxBuffered ≤ u32Max

variable {rb : Buffer}

theorem twin_insert (kept : Kept rb) (seq : UInt64) (data : Payload) :
    (insert (fun _ => true) rb seq.toNat data).1.twin = (rb.twin.insert seq.toNat data).1 ∧
      (insert (fun _ => true) rb seq.toNat data).2 = (rb.twin.insert seq.toNat data).2 := by
  have size := kept.toTight.pendingCount_eq kept.toCounted kept.word
  have bound : seq.toNat ≤ u64Max := Nat.le_of_lt_succ seq.toNat_lt
  unfold insert RustReorder.insert ReorderBuffer.insert Buffer.twin Buffer.inner
  rw [size]
  by_cases behind : seq.toNat < rb.nextExpected
  · rw [if_pos behind, if_pos behind]
    exact ⟨rfl, rfl⟩
  rw [if_neg behind, if_neg behind]
  by_cases present : (rb.pending.find? seq.toNat).isSome
  · rw [if_pos present, if_pos present]
    exact ⟨rfl, rfl⟩
  rw [if_neg present, if_neg present]
  by_cases full : rb.maxBuffered ≤ rb.pending.size ∧ seq.toNat ≠ rb.nextExpected
  · rw [if_pos full, if_pos full]
    exact ⟨rfl, rfl⟩
  rw [if_neg full, if_neg full]
  have fresh : rb.pending.find? seq.toNat = none := by simpa using present
  have room : rb.pending.size < rb.maxBuffered ∨ seq.toNat = rb.nextExpected := by
    rcases Nat.lt_or_ge rb.pending.size rb.maxBuffered with less | most
    · exact .inl less
    · exact .inr (not_not.mp fun other => full ⟨most, other⟩)
  exact ⟨twin_drainLoop _ (kept.toTight.link bound behind fresh room), rfl⟩

theorem Kept.insert (kept : Kept rb) (seq : UInt64) (data : Payload) :
    Kept (Reorder.insert (fun _ => true) rb seq.toNat data).1 := by
  have bound : seq.toNat ≤ u64Max := Nat.le_of_lt_succ seq.toNat_lt
  rcases insert_cases (fun _ => true) rb seq.toNat data with
    ⟨e, refused⟩ | ⟨ahead, fresh, room, linked⟩
  · rwa [refused]
  · have size := kept.toTight.pendingCount_eq kept.toCounted kept.word
    rw [linked]
    refine ⟨(kept.toTight.link bound ahead fresh (size ▸ room)).drain fun _ => rfl,
      drainPrefix_counted _ (kept.toCounted.link fresh), ?_⟩
    rw [drainPrefix_maxBuffered]
    exact kept.word

theorem Kept.advance (kept : Kept rb) : Kept (Reorder.advance (fun _ => true) rb) := by
  refine ⟨kept.toTight.stepOver.drain fun _ => rfl, drainPrefix_counted _ kept.toCounted.stepOver,
    ?_⟩
  rw [Reorder.advance, drainPrefix_maxBuffered]
  exact kept.word

theorem Kept.drainNext (kept : Kept rb) (len : Nat) : Kept (Reorder.drainNext rb len).1 := by
  rcases drainNext_cases rb len with ⟨e, refused⟩ | ⟨d, rest, head, -, popped⟩
  · rwa [refused]
  · rw [popped]
    exact ⟨kept.toTight.pop, kept.toCounted.pop (head ▸ cons_ne_nil d rest), kept.word⟩

theorem twin_drainNext (rb : Buffer) (len : Nat) :
    (drainNext rb len).1.twin = (rb.twin.drainNext len).1 ∧
      (drainNext rb len).2 = (rb.twin.drainNext len).2 := by
  obtain ⟨pending, drained, next, pendingCount, drainCount, max⟩ := rb
  unfold drainNext RustReorder.drainNext Buffer.twin
  cases drained with
  | nil => exact ⟨rfl, rfl⟩
  | cons d rest =>
    dsimp only
    split <;> exact ⟨rfl, rfl⟩

theorem Kept.perform (kept : Kept rb) (op : Op) :
    Kept (rb.perform op).1 ∧ (rb.perform op).1.twin = (rb.twin.perform op).1 ∧
      (rb.perform op).2 = (rb.twin.perform op).2 := by
  cases op with
  | insert seq data =>
    obtain ⟨held, answered⟩ := twin_insert kept seq data
    refine ⟨kept.insert seq data, held, ?_⟩
    simp only [Buffer.perform, RustReorder.perform, answered]
  | advance => exact ⟨kept.advance, twin_drainLoop _ kept.toTight.stepOver, rfl⟩
  | drainNext len =>
    obtain ⟨held, answered⟩ := twin_drainNext rb len
    refine ⟨kept.drainNext len, held, ?_⟩
    simp only [Buffer.perform, RustReorder.perform, answered]
    rfl

def Report.cut (r : Report) : Report := { r with drainPending := r.drainPending % 2 ^ 32 }

theorem Kept.report (kept : Kept rb) (answer : Except Errno (Option Node) × Option Nat) :
    Buffer.report (rb, answer) = (RustReorder.report (rb.twin, answer)).cut := by
  have size := kept.toTight.pendingCount_eq kept.toCounted kept.word
  simp only [Buffer.report, RustReorder.report, Report.cut, size, kept.toCounted.drained]
  rfl

theorem Kept.reports (kept : Kept rb) (ops : List Op) :
    rb.reports ops = (rb.twin.reports ops).map Report.cut := by
  induction ops generalizing rb with
  | nil => rfl
  | cons op ops ih =>
    obtain ⟨kept', held, answered⟩ := kept.perform op
    have now := kept'.report (rb.perform op).2
    rw [held, answered] at now
    rw [Buffer.reports, RustReorder.reports, map_cons, ih kept', held, ← now, ← answered]

theorem Report.cut_eq_iff (r : Report) : r.cut = r ↔ r.drainPending < 2 ^ 32 := by
  obtain ⟨result, inoutLen, next, gap, pending⟩ := r
  simp only [Report.cut, Report.mk.injEq, true_and]
  omega

theorem map_cut_eq_iff (reports : List Report) :
    reports.map Report.cut = reports ↔ ∀ r ∈ reports, r.drainPending < 2 ^ 32 := by
  have pointwise := map_inj_left (f := Report.cut) (g := id) (l := reports)
  rw [map_id] at pointwise
  simp only [pointwise, id_eq, Report.cut_eq_iff]

theorem kept_alloc (initial : Nat) (max : UInt32) (created : alloc initial max.toNat = some rb) :
    Kept rb ∧ rb.twin = RustReorder.new initial max.toNat := by
  simp only [alloc, Option.ite_none_left_eq_some, Option.some.injEq] at created
  obtain ⟨-, rfl⟩ := created
  refine ⟨⟨⟨by simp, by simp, Nat.zero_le _⟩, ⟨rfl, rfl⟩, ?_⟩, rfl⟩
  exact Nat.le_of_lt_succ max.toNat_lt

/-- The two buffers answer every operation alike but for the length of the drain queue, which the
C buffer gives modulo 2 ^ 32; so they agree in everything exactly if that length stays below. -/
theorem reports_agree_iff (initial : UInt64) (max : UInt32)
    (created : alloc initial.toNat max.toNat = some rb) (ops : List Op) :
    rb.reports ops = ((RustReorder.new initial.toNat max.toNat).reports ops).map Report.cut ∧
      (rb.reports ops = (RustReorder.new initial.toNat max.toNat).reports ops ↔
        ∀ r ∈ (RustReorder.new initial.toNat max.toNat).reports ops, r.drainPending < 2 ^ 32) := by
  obtain ⟨kept, twin⟩ := kept_alloc initial.toNat max created
  have same := kept.reports ops
  rw [twin] at same
  refine ⟨same, ?_⟩
  rw [same]
  exact map_cut_eq_iff _

/-- Three frames, of which the second comes last and frees the third. -/
def latecomer : List Op :=
  [.insert 0 [7], .insert 2 [9], .drainNext 4096, .insert 1 [8], .drainNext 4096, .drainNext 4096]

theorem reports_agree_latecomer : ∃ rb, alloc 0 4 = some rb ∧
      rb.reports latecomer = (RustReorder.new 0 4).reports latecomer := by
  refine ⟨_, rfl, (reports_agree_iff 0 4 rfl _).2.mpr ?_⟩
  decide +kernel

def inOrder : (start n : Nat) → List Op
  | _, 0 => []
  | start, n + 1 => .insert (UInt64.ofNat start) [] :: inOrder (start + 1) n

theorem insert_inOrder (start max : Nat) (queue : List Node) (below : start < u64Max) :
    (RustReorder.mk ⟨.empty, start, max⟩ queue).insert start [] =
      (⟨⟨.empty, start + 1, max⟩, queue ++ [⟨start, []⟩]⟩, .ok ()) := by
  have size : ((OrderedTree.empty : OrderedTree Node Node.seq).insert ⟨start, []⟩).size = 1 := rfl
  have found : ((OrderedTree.empty : OrderedTree Node Node.seq).insert ⟨start, []⟩).find? start =
      some ⟨start, []⟩ := by
    simp [OrderedTree.find?, OrderedTree.insert]
  have erased : ((OrderedTree.empty : OrderedTree Node Node.seq).insert ⟨start, []⟩).erase start =
      .empty := by
    ext1
    simp [OrderedTree.erase, OrderedTree.insert]
  have absent : (OrderedTree.empty : OrderedTree Node Node.seq).find? start = none := rfl
  simp only [RustReorder.insert, ReorderBuffer.insert, Nat.lt_irrefl, if_false, absent,
    Option.isSome_none, Bool.false_eq_true, ne_eq, not_true_eq_false, and_false, size,
    ReorderBuffer.deliver, found, erased, saturatingIncr64_of_lt below]

theorem word_toNat {n : Nat} (below : n < u64Max) : (UInt64.ofNat n).toNat = n := by
  have size : UInt64.size = u64Max + 1 := rfl
  exact UInt64.toNat_ofNat_of_lt' (by omega)

theorem reports_inOrder (max n start : Nat) (queue : List Node) (below : start + n < u64Max) :
    ∃ r ∈ (RustReorder.mk ⟨.empty, start, max⟩ queue).reports (inOrder start (n + 1)),
      r.drainPending = queue.length + (n + 1) := by
  induction n generalizing start queue with
  | zero =>
    have before : start < u64Max := below
    refine ⟨_, mem_cons_self, ?_⟩
    simp only [RustReorder.report, RustReorder.perform, word_toNat before,
      insert_inOrder start max queue before, length_append, length_singleton, Nat.zero_add]
  | succ n ih =>
    have before : start < u64Max := by omega
    obtain ⟨r, member, pending⟩ := ih (start + 1) (queue ++ [⟨start, []⟩]) (by omega)
    refine ⟨r, mem_cons_of_mem _ ?_, ?_⟩
    · simpa only [RustReorder.perform, word_toNat before, insert_inOrder start max queue before]
        using member
    · rw [pending, length_append, length_singleton]
      omega

/-- After 2 ^ 32 frames that nobody drains the C buffer says that none waits. -/
theorem drain_pending_wraps : ∃ (rb : Buffer) (ops : List Op) (r : Report), alloc 0 1 = some rb ∧
      r ∈ (RustReorder.new 0 1).reports ops ∧ r.drainPending = 2 ^ 32 ∧
      r.cut ∈ rb.reports ops ∧ r.cut.drainPending = 0 ∧
      rb.reports ops ≠ (RustReorder.new 0 1).reports ops := by
  obtain ⟨r, member, pending⟩ := reports_inOrder 1 (2 ^ 32 - 1) 0 [] (by decide)
  have created : alloc 0 (1 : UInt32).toNat = some ⟨.empty, [], 0, 0, 0, 1⟩ := rfl
  obtain ⟨kept, twin⟩ := kept_alloc 0 1 created
  have same := kept.reports (inOrder 0 (2 ^ 32 - 1 + 1))
  have full : r.drainPending = 2 ^ 32 := pending
  refine ⟨_, _, r, rfl, member, full, ?_, ?_, ?_⟩
  · exact same ▸ mem_map_of_mem member
  · exact (congrArg (· % 2 ^ 32) full).trans (Nat.mod_self _)
  · intro equal
    have within := (map_cut_eq_iff _).mp (same.symm.trans equal) r member
    omega

end Urp.Reorder
