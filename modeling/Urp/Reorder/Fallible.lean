import Urp.Lib.Deque
import Urp.Reorder.Twin

/-!
# Inserting without memory
-/

namespace Urp.Reorder

open Urp.Lib Urp.Protocol

namespace ReorderBuffer

variable {rb : ReorderBuffer}

structure Ahead (rb : ReorderBuffer) : Prop where
  next : rb.nextExpected ≤ u64Max
  ahead : ∀ n ∈ rb.pending, rb.nextExpected ≤ n.seq
  word : ∀ n ∈ rb.pending, n.seq ≤ u64Max

structure Resting (rb : ReorderBuffer) : Prop extends Ahead rb where
  absent : rb.pending.find? rb.nextExpected = none

theorem deliver_of_absent (fuel : Nat) (absent : rb.pending.find? rb.nextExpected = none) :
    rb.deliver fuel = (rb, []) := by
  cases fuel with
  | zero => rfl
  | succ fuel => simp [deliver, absent]

theorem nextExpected_le_deliver (fuel : Nat) (rb : ReorderBuffer) :
    rb.nextExpected ≤ (rb.deliver fuel).1.nextExpected := by
  induction fuel generalizing rb with
  | zero => exact Nat.le_refl _
  | succ fuel ih =>
    rw [deliver]
    cases found : rb.pending.find? rb.nextExpected with
    | none => exact Nat.le_refl _
    | some n =>
      refine Nat.le_trans (le_saturatingIncr64 rb.nextExpected) ?_
      exact ih { rb with
        pending := rb.pending.erase rb.nextExpected
        nextExpected := saturatingIncr64 rb.nextExpected }

theorem Ahead.take (held : Ahead rb) {n : Node}
    (found : rb.pending.find? rb.nextExpected = some n) :
    Ahead { rb with
        pending := rb.pending.erase rb.nextExpected
        nextExpected := saturatingIncr64 rb.nextExpected } ∧
      (rb.pending.erase rb.nextExpected).size + 1 = rb.pending.size := by
  have due : n.seq = rb.nextExpected := by simpa using List.find?_some found
  have head := OrderedTree.first_of_find? held.ahead found
  have erased := OrderedTree.erase_first head
  rw [due] at erased
  rw [erased]
  refine ⟨⟨?_, fun m later => ?_, fun m later => ?_⟩, (OrderedTree.size_eraseFirst head).symm⟩
  · have next := held.next
    dsimp only
    unfold saturatingIncr64
    split <;> omega
  · have behind := OrderedTree.first_lt head later
    have word := held.word m ((OrderedTree.mem_iff_first head).mpr (.inr later))
    dsimp only
    rw [saturatingIncr64_of_lt (by omega)]
    omega
  · exact held.word m ((OrderedTree.mem_iff_first head).mpr (.inr later))

theorem Ahead.deliver (held : Ahead rb) {fuel : Nat} (enough : rb.pending.size ≤ fuel) :
    Resting (rb.deliver fuel).1 := by
  induction fuel generalizing rb with
  | zero =>
    have none_left : rb.pending.nodes = [] := List.length_eq_zero_iff.mp (Nat.le_zero.mp enough)
    exact ⟨held, by simp [ReorderBuffer.deliver, OrderedTree.find?, none_left]⟩
  | succ fuel ih =>
    rw [ReorderBuffer.deliver]
    cases found : rb.pending.find? rb.nextExpected with
    | none => exact ⟨held, found⟩
    | some n =>
      obtain ⟨taken, fewer⟩ := held.take found
      refine ih taken ?_
      dsimp only
      omega

def stepOver (rb : ReorderBuffer) : ReorderBuffer :=
  { rb with nextExpected := saturatingIncr64 rb.nextExpected }

section

variable (resting : Resting rb)
include resting

theorem Resting.stepOver : Ahead rb.stepOver := by
  refine ⟨?_, fun n member => ?_, resting.word⟩
  · have next := resting.next
    rw [ReorderBuffer.stepOver]
    dsimp only
    unfold saturatingIncr64
    split <;> omega
  · have above := resting.ahead n member
    have word := resting.word n member
    have other := OrderedTree.find?_eq_none.mp resting.absent n member
    rw [ReorderBuffer.stepOver]
    dsimp only
    rw [saturatingIncr64_of_lt (by omega)]
    omega

theorem Resting.advance : Resting rb.advance.1 :=
  resting.stepOver.deliver (Nat.le_refl rb.pending.size)

theorem Resting.insert_ahead {seq : Nat} (data : Payload)
    (word : seq ≤ u64Max) (early : seq ≠ rb.nextExpected) :
    (∃ e, rb.insert seq data = (rb, .error e)) ∨
      ∃ rb', rb.insert seq data = (rb', .ok []) ∧ Resting rb' := by
  unfold insert
  split
  case isTrue => exact .inl ⟨_, rfl⟩
  case isFalse ahead =>
    split
    case isTrue => exact .inl ⟨_, rfl⟩
    case isFalse =>
      split
      case isTrue => exact .inl ⟨_, rfl⟩
      case isFalse =>
        have absent : (rb.pending.insert ⟨seq, data⟩).find? rb.nextExpected = none := by
          refine OrderedTree.find?_eq_none.mpr fun n member => ?_
          rcases OrderedTree.mem_insert.mp member with rfl | ⟨old, -⟩
          · exact early
          · exact OrderedTree.find?_eq_none.mp resting.absent n old
        refine .inr ⟨{ rb with pending := rb.pending.insert ⟨seq, data⟩ }, ?_, ?_⟩
        · dsimp only
          rw [deliver_of_absent _ absent]
        · refine ⟨⟨resting.next, fun n member => ?_, fun n member => ?_⟩, absent⟩
          · rcases OrderedTree.mem_insert.mp member with rfl | ⟨old, -⟩
            · exact Nat.not_lt.mp ahead
            · exact resting.ahead n old
          · rcases OrderedTree.mem_insert.mp member with rfl | ⟨old, -⟩
            · exact word
            · exact resting.word n old

theorem Resting.insert_expected (data : Payload) :
    rb.insert rb.nextExpected data =
      (rb.advance.1, .ok (⟨rb.nextExpected, data⟩ :: rb.advance.2)) := by
  have least : ∀ n ∈ rb.pending, (⟨rb.nextExpected, data⟩ : Node).seq < n.seq := fun n member =>
    Nat.lt_of_le_of_ne (resting.ahead n member)
      (Ne.symm (OrderedTree.find?_eq_none.mp resting.absent n member))
  have size := OrderedTree.size_insert (a := (⟨rb.nextExpected, data⟩ : Node)) resting.absent
  have found := OrderedTree.find?_insert_least least
  have erased := OrderedTree.erase_insert_least least
  rw [insert, if_neg (Nat.lt_irrefl _), resting.absent, if_neg (by simp), if_neg (by simp)]
  dsimp only
  rw [size, deliver, found]
  rw [erased]
  rfl

end

end ReorderBuffer

/-! ## The foreign interface -/

/-- `UrpRustReorder`, with the room of the drain queue. -/
structure Handle where
  inner : ReorderBuffer
  drainQueue : Deque Node

namespace Handle

/-- What the allocator answers: for the copy, and how much more than needed for the queue. -/
structure Memory where
  copy : Bool
  queue : Option Nat

inductive Source where
  | null (dataLen : Nat)
  | bytes (data : Payload)

def new (initialExpected maxBuffered : Nat) : Handle := ⟨.new initialExpected maxBuffered, .empty⟩

def copyFrame (mem : Memory) : Source → Except Errno Payload
  | .null 0 => .ok []
  | .null (_ + 1) => .error .EINVAL
  | .bytes [] => .ok []
  | .bytes (b :: data) => if mem.copy then .ok (b :: data) else .error .ENOMEM

def insert (mem : Memory) (rb : Handle) (seq : UInt64) (source : Source) :
    Handle × Except Errno Unit :=
  match copyFrame mem source with
  | .error e => (rb, .error e)
  | .ok buf =>
    match rb.inner.insert seq.toNat buf with
    | (inner, .error e) => (⟨inner, rb.drainQueue⟩, .error (protocolErrToErrno e))
    | (inner, .ok delivered) =>
      match rb.drainQueue.tryAppend delivered mem.queue with
      -- what was delivered is dropped with the result of the inner insert
      | none => (⟨inner, rb.drainQueue⟩, .error .ENOMEM)
      | some drainQueue => (⟨inner, drainQueue⟩, .ok ())

def drainNext (rb : Handle) (len : Nat) : Handle × Except Errno Node :=
  match rb.drainQueue.entries with
  | [] => (rb, .error .ENOENT)
  | front :: _ =>
    if len < front.data.length then (rb, .error .ENOBUFS)
    else (⟨rb.inner, rb.drainQueue.popFront⟩, .ok front)

def held (rb : Handle) : RustReorder := ⟨rb.inner, rb.drainQueue.entries⟩

/-- With memory the interface does what the buffer without the room does. -/
theorem held_insert (rb : Handle) (seq : UInt64) (data : Payload) (more : Nat) :
    (rb.insert ⟨true, some more⟩ seq (.bytes data)).1.held = (rb.held.insert seq.toNat data).1 ∧
      (rb.insert ⟨true, some more⟩ seq (.bytes data)).2 = (rb.held.insert seq.toNat data).2 := by
  have copied : copyFrame ⟨true, some more⟩ (.bytes data) = .ok data := by cases data <;> rfl
  simp only [insert, copied, RustReorder.insert, held]
  rcases rb.inner.insert seq.toNat data with ⟨inner, e | delivered⟩
  · exact ⟨rfl, rfl⟩
  · obtain ⟨queue, appended, entries⟩ := rb.drainQueue.tryAppend_spare delivered more
    simp only [appended, entries, and_self]

inductive Call where
  | insert (mem : Memory) (seq : UInt64) (source : Source)
  | drainNext (len : Nat)

def perform (rb : Handle) : Call → Handle
  | .insert mem seq source => (rb.insert mem seq source).1
  | .drainNext len => (rb.drainNext len).1

def NoRoom (mem : Memory) (rb : Handle) (seq : UInt64) (source : Source) : Prop :=
  (∃ data, copyFrame mem source = .ok data) ∧ seq.toNat = rb.inner.nextExpected ∧
    rb.drainQueue.capacity < rb.drainQueue.entries.length + (rb.inner.advance.2.length + 1) ∧
    mem.queue = none

theorem insert_outcome {rb : Handle} (resting : rb.inner.Resting) (mem : Memory) (seq : UInt64)
    (source : Source) :
    (¬ NoRoom mem rb seq source ∧ ∃ e, rb.insert mem seq source = (rb, .error e)) ∨
      (¬ NoRoom mem rb seq source ∧
        ∃ rb', rb.insert mem seq source = (rb', .ok ()) ∧ rb'.inner.Resting) ∨
      NoRoom mem rb seq source ∧
        rb.insert mem seq source = (⟨rb.inner.advance.1, rb.drainQueue⟩, .error .ENOMEM) := by
  cases copied : copyFrame mem source with
  | error e =>
    refine .inl ⟨?_, e, by simp only [insert, copied]⟩
    rintro ⟨⟨data, taken⟩, -⟩
    cases copied.symm.trans taken
  | ok data =>
    by_cases expected : seq.toNat = rb.inner.nextExpected
    · have inserted := resting.insert_expected data
      cases appended : rb.drainQueue.tryAppend
          (⟨rb.inner.nextExpected, data⟩ :: rb.inner.advance.2) mem.queue with
      | none =>
        obtain ⟨full, refused⟩ := Deque.tryAppend_eq_none.mp appended
        refine .inr (.inr ⟨⟨⟨data, copied⟩, expected, full, refused⟩, ?_⟩)
        simp only [insert, copied, expected, inserted, appended]
      | some queue =>
        refine .inr (.inl ⟨?_, ⟨rb.inner.advance.1, queue⟩, ?_, resting.advance⟩)
        · rintro ⟨-, -, full, refused⟩
          have lost : rb.drainQueue.tryAppend (⟨rb.inner.nextExpected, data⟩ :: rb.inner.advance.2)
              mem.queue = none := Deque.tryAppend_eq_none.mpr ⟨full, refused⟩
          cases lost.symm.trans appended
        · simp only [insert, copied, expected, inserted, appended]
    · have free : ¬ NoRoom mem rb seq source := fun lost => expected lost.2.1
      rcases resting.insert_ahead data (Nat.le_of_lt_succ seq.toNat_lt) expected with
        ⟨e, refused⟩ | ⟨inner, kept, resting'⟩
      · exact .inl ⟨free, _, by simp only [insert, copied, refused]; rfl⟩
      · cases appended : rb.drainQueue.tryAppend [] mem.queue with
        | none => exact absurd appended (rb.drainQueue.tryAppend_nil mem.queue)
        | some queue =>
          refine .inr (.inl ⟨free, ⟨inner, queue⟩, ?_, resting'⟩)
          simp only [insert, copied, kept, appended]

theorem drainNext_inner (rb : Handle) (len : Nat) : (rb.drainNext len).1.inner = rb.inner := by
  unfold drainNext
  split
  · rfl
  · split <;> rfl

theorem resting_perform {rb : Handle} (resting : rb.inner.Resting) (call : Call) :
    (rb.perform call).inner.Resting := by
  cases call with
  | insert mem seq source =>
    rw [perform]
    rcases insert_outcome resting mem seq source with
      ⟨-, e, refused⟩ | ⟨-, rb', kept, resting'⟩ | ⟨-, lost⟩
    · rwa [refused]
    · rwa [kept]
    · rw [lost]
      exact resting.advance
  | drainNext len =>
    rwa [perform, drainNext_inner]

theorem resting_calls {rb : Handle} (resting : rb.inner.Resting) (calls : List Call) :
    (calls.foldl perform rb).inner.Resting := by
  induction calls generalizing rb with
  | nil => exact resting
  | cons call calls ih => exact ih (resting_perform resting call)

theorem resting_new (initial : UInt64) (max : Nat) : (new initial.toNat max).inner.Resting :=
  ⟨⟨Nat.le_of_lt_succ initial.toNat_lt, by simp [new, ReorderBuffer.new],
    by simp [new, ReorderBuffer.new]⟩, rfl⟩

theorem advance_last {rb : ReorderBuffer} (resting : rb.Resting)
    (last : rb.nextExpected = u64Max) : rb.advance = (rb, []) := by
  have stays : saturatingIncr64 rb.nextExpected = rb.nextExpected := if_pos last
  rw [ReorderBuffer.advance, stays]
  exact ReorderBuffer.deliver_of_absent _ resting.absent

theorem lt_advance {rb : ReorderBuffer} (below : rb.nextExpected < u64Max) :
    rb.nextExpected < rb.advance.1.nextExpected := by
  have step : rb.nextExpected < saturatingIncr64 rb.nextExpected := by
    rw [saturatingIncr64_of_lt below]
    exact Nat.lt_succ_self _
  exact Nat.lt_of_lt_of_le step (ReorderBuffer.nextExpected_le_deliver rb.pending.size rb.stepOver)

def Unchanged (rb rb' : Handle) : Prop :=
  rb'.inner.nextExpected = rb.inner.nextExpected ∧ rb'.inner.pending = rb.inner.pending ∧
    rb'.drainQueue.entries = rb.drainQueue.entries

/-- An insert that fails leaves the buffer as it was, unless it fails for the room that a run of
frames needs in the drain queue: then the cursor is behind the run, which is nowhere. -/
theorem insert_unchanged_iff (initial : UInt64) (max : Nat) (calls : List Call) (rb : Handle)
    (reached : calls.foldl perform (new initial.toNat max) = rb) (mem : Memory) (seq : UInt64)
    (source : Source) :
    (∀ e, (rb.insert mem seq source).2 = .error e →
        Unchanged rb (rb.insert mem seq source).1) ↔
      ¬ (NoRoom mem rb seq source ∧ rb.inner.nextExpected < u64Max) := by
  have resting : rb.inner.Resting := reached ▸ resting_calls (resting_new initial max) calls
  rcases insert_outcome resting mem seq source with
    ⟨free, e, refused⟩ | ⟨free, rb', kept, -⟩ | ⟨lost, failed⟩
  · refine iff_of_true (fun _ _ => ?_) fun stuck => free stuck.1
    rw [refused]
    exact ⟨rfl, rfl, rfl⟩
  · refine iff_of_true (fun e failed => ?_) fun stuck => free stuck.1
    rw [kept] at failed
    cases failed
  · rw [failed]
    rcases Nat.lt_or_ge rb.inner.nextExpected u64Max with below | last
    · refine iff_of_false (fun unchanged => ?_) (not_not.mpr ⟨lost, below⟩)
      exact absurd (unchanged _ rfl).1 (Nat.ne_of_gt (lt_advance below))
    · have stays := advance_last resting (Nat.le_antisymm resting.next last)
      refine iff_of_true (fun _ _ => ?_) fun stuck => absurd stuck.2 (Nat.not_lt.mpr last)
      rw [stays]
      exact ⟨rfl, rfl, rfl⟩

/-- Without memory for its copy a frame can be inserted again. -/
theorem insert_unchanged_copy :
    (new 0 8).insert ⟨false, none⟩ 0 (.bytes [7]) = (new 0 8, .error .ENOMEM) ∧
      Unchanged (new 0 8) ((new 0 8).insert ⟨false, none⟩ 0 (.bytes [7])).1 := by
  refine ⟨rfl, ?_⟩
  have kept := insert_unchanged_iff 0 8 [] (new 0 8) rfl ⟨false, none⟩ 0 (.bytes [7])
  refine kept.mpr ?_ .ENOMEM rfl
  rintro ⟨⟨⟨data, copied⟩, -⟩, -⟩
  cases copied

/-- Frame 1 waits for frame 0, which comes when there is no memory for the queue. Both are gone,
and frame 0 cannot be inserted again. -/
theorem released_run_lost : ∃ rb lost : Handle,
      (new 0 8).insert ⟨true, some 0⟩ 1 (.bytes [7]) = (rb, .ok ()) ∧
        rb.inner.pending.nodes = [⟨1, [7]⟩] ∧
        rb.insert ⟨true, none⟩ 0 (.bytes [6]) = (lost, .error .ENOMEM) ∧
        lost.inner.nextExpected = 2 ∧ lost.inner.pending.nodes = [] ∧
        lost.drainQueue.entries = [] ∧
        lost.insert ⟨true, some 0⟩ 0 (.bytes [6]) = (lost, .error .EEXIST) :=
  ⟨_, _, rfl, rfl, rfl, rfl, rfl, rfl, rfl⟩

end Handle

end Urp.Reorder
