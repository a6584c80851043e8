import Urp.Lib.Numbering
import Urp.Lib.Run
import Urp.Tx.Sending

/-!
# The sequence numbers of the frames that are posted
-/

namespace Urp.Tx

open Urp.Lib Urp.Frame Urp.Window Urp.Stream List

def PostedInOrder (posted : List (List UInt8)) : Prop :=
  posted.map wireSeq = List.range posted.length ∧ ∀ wire ∈ posted.head?, HasSyn wire

instance (posted : List (List UInt8)) : Decidable (PostedInOrder posted) :=
  inferInstanceAs (Decidable (_ ∧ ∀ wire ∈ posted.head?, HasSyn wire))

theorem postedInOrder_iff {posted : List (List UInt8)} {bs : List Bool}
    (numbers : posted.map wireSeq = used bs)
    (syn : ∀ wire ∈ posted, wireSeq wire = 0 → HasSyn wire) :
    PostedInOrder posted ↔ Gapless bs := by
  have length : posted.length = (used bs).length := by rw [← numbers, length_map]
  rw [PostedInOrder, numbers, length, used_eq_range_iff]
  refine and_iff_left_of_imp fun gapless wire first => ?_
  obtain ⟨rest, rfl⟩ := List.head?_eq_some_iff.mp first
  refine syn wire mem_cons_self ?_
  have range := (used_eq_range_iff bs).mpr gapless
  rw [← numbers, length_map, length_cons, range_succ_eq_map] at range
  exact (List.cons.inj range).1

/-! ## The transmit thread -/

/-- A stream, with the frames that were posted for it. -/
structure Sender where
  stream : Stream
  posted : List (List UInt8)

inductive SenderEvent where
  | pump (e : PumpEvent)
  | grant (granted : Nat)

/-- A step of `urp_stream_tx_fn`, or a grant that `urp_recv_done` applies. -/
def Sender.step (g : Geometry) (x : Sender) : SenderEvent → Option Sender
  | .pump e =>
    (pumpStep g x.stream e).map fun r => ⟨r.1, x.posted ++ (r.2.map Prod.snd).toList⟩
  | .grant granted =>
    some { x with
      stream := { x.stream with txBytesAcked := applyGrant x.stream.txBytesAcked granted } }

def SenderEvent.outcome : SenderEvent → Option Bool
  | .pump (.read _ none) => some false
  | .pump (.post _ _ true) => some true
  | _ => none

def SenderEvent.isRead : SenderEvent → Bool
  | .pump (.read _ _) => true
  | _ => false

/-- Where the thread stands after `taken` numbers, of which `settled` are posted or dropped. -/
def Stands (taken settled txSeq : Nat) : Pump → Prop
  | ⟨sendSyn, .reading⟩ =>
    taken = settled ∧ txSeq = wrap64 taken ∧ sendSyn = decide (settled = 0)
  | ⟨sendSyn, .posting _ wire _⟩ =>
    taken = settled + 1 ∧ txSeq = wrap64 taken ∧ sendSyn = false ∧ wireSeq wire = settled ∧
      (settled = 0 → HasSyn wire)
  | ⟨sendSyn, .accounting _⟩ =>
    taken = settled ∧ txSeq = wrap64 taken ∧ settled ≠ 0 ∧ sendSyn = false
  | ⟨_, .exited⟩ => True

structure Numbered (taken : Nat) (bs : List Bool) (x : Sender) : Prop where
  posted : x.posted.map wireSeq = used bs
  syn : ∀ wire ∈ x.posted, wireSeq wire = 0 → HasSyn wire
  stands : ∀ pump, x.stream.txThread = some pump → Stands taken bs.length x.stream.txSeq pump

theorem Numbered.pump {g : Geometry} {taken : Nat} {bs : List Bool} {x : Sender} {e : PumpEvent}
    {s' : Stream} {out : Option (Nat × List UInt8)} (numbered : Numbered taken bs x)
    (step : PumpStep g x.stream e s' out)
    (word : taken + (if (SenderEvent.pump e).isRead then 1 else 0) ≤ 2 ^ 64) :
    Numbered (taken + if (SenderEvent.pump e).isRead then 1 else 0)
      (bs ++ (SenderEvent.pump e).outcome.toList)
      ⟨s', x.posted ++ (out.map Prod.snd).toList⟩ := by
  have exits : ∀ {s' : Stream} {sendSyn : Bool}, s'.txThread = some ⟨sendSyn, .exited⟩ →
      Numbered taken bs ⟨s', x.posted⟩ := by
    intro s' sendSyn gone
    refine ⟨numbered.posted, numbered.syn, fun pump thread => ?_⟩
    cases gone.symm.trans thread
    trivial
  cases step with
  | stop thread | eof thread | abort thread full | fail thread =>
    simpa [SenderEvent.isRead, SenderEvent.outcome] using exits rfl
  | drop thread uds nonempty fits =>
    obtain ⟨rfl, seq, -⟩ := numbered.stands _ thread
    refine ⟨?_, ?_, fun pump running => ?_⟩
    · simpa [SenderEvent.outcome, used_concat_false] using numbered.posted
    · simpa using numbered.syn
    · cases running
      simp [Stands, SenderEvent.isRead, SenderEvent.outcome, seq, wrap64_succ]
  | @read sendSyn r qp thread uds nonempty fits =>
    obtain ⟨rfl, seq, syn⟩ := numbered.stands _ thread
    have bound : bs.length < 2 ^ 64 := by
      simp only [SenderEvent.isRead, if_true] at word
      omega
    refine ⟨?_, ?_, fun pump running => ?_⟩
    · simpa [SenderEvent.outcome] using numbered.posted
    · simpa using numbered.syn
    · cases running
      rw [wrap64_of_lt bound] at seq
      refine ⟨by simp [SenderEvent.isRead, SenderEvent.outcome], ?_, rfl, ?_, fun first => ?_⟩
      · simp [SenderEvent.isRead, seq]
      · rw [seq, wireSeq_frameWire _ _ fits bound]
        simp [SenderEvent.outcome]
      · have opening : sendSyn = true := by
          simpa [SenderEvent.outcome, syn] using first
        rw [opening]
        exact hasSyn_frameWire _ _ fits
  | @post sendSyn windowNegotiated stalled qp len wire thread gate =>
    obtain ⟨rfl, seq, rfl, number, syn⟩ := numbered.stands _ thread
    refine ⟨?_, ?_, fun pump running => ?_⟩
    · simp [SenderEvent.outcome, used_concat_true, numbered.posted, number]
    · intro w membership zero
      rcases mem_append.mp membership with old | new
      · exact numbered.syn w old zero
      · obtain rfl : w = wire := by simpa using new
        exact syn (number.symm.trans zero)
    · cases running
      simpa [Stands, SenderEvent.isRead, SenderEvent.outcome] using seq
  | account thread =>
    obtain ⟨rfl, seq, nonzero, rfl⟩ := numbered.stands _ thread
    refine ⟨?_, ?_, fun pump running => ?_⟩
    · simpa [SenderEvent.outcome] using numbered.posted
    · simpa using numbered.syn
    · cases running
      simpa [Stands, SenderEvent.isRead, SenderEvent.outcome, seq] using nonzero

def reads (es : List SenderEvent) : Nat := es.countP SenderEvent.isRead

def outcomes (es : List SenderEvent) : List Bool := es.filterMap SenderEvent.outcome

theorem reads_concat (es : List SenderEvent) (e : SenderEvent) :
    reads (es ++ [e]) = reads es + if e.isRead then 1 else 0 := by
  simp [reads, countP_append, countP_cons]

theorem outcomes_concat (es : List SenderEvent) (e : SenderEvent) :
    outcomes (es ++ [e]) = outcomes es ++ e.outcome.toList := by
  cases h : e.outcome <;> simp [outcomes, h]

theorem Sender.run_numbered {g : Geometry} {s : Stream} (first : s.txSeq = 0)
    (started : s.txThread = some ⟨true, .reading⟩) {es : List SenderEvent} {x : Sender}
    (reached : run (Sender.step g) ⟨s, []⟩ es = some x) (word : reads es ≤ 2 ^ 64) :
    Numbered (reads es) (outcomes es) x := by
  refine run_history (P := fun es x => reads es ≤ 2 ^ 64 → Numbered (reads es) (outcomes es) x)
    ?_ ?_ reached word
  · intro es x e x' before step word
    rw [reads_concat] at word
    have numbered := before (by omega)
    rw [reads_concat, outcomes_concat]
    cases e with
    | pump e =>
      obtain ⟨r, moved, rfl⟩ := Option.map_eq_some_iff.mp step
      exact numbered.pump (pumpStep_sound moved) word
    | grant granted =>
      cases step
      refine ⟨?_, numbered.syn, fun pump thread => ?_⟩
      · simpa [SenderEvent.outcome] using numbered.posted
      · simpa [SenderEvent.outcome, SenderEvent.isRead] using numbered.stands pump thread
  · intro _
    refine ⟨rfl, by simp, fun pump thread => ?_⟩
    cases started.symm.trans thread
    exact ⟨rfl, first, rfl⟩

/-! ## The zero-copy send -/

structure FastSend where
  registered : Bool
  validated : Except Errno Unit
  streamId : Nat
  claimed : Except Errno Unit
  streamGet : Except Errno Unit
  qp : Option Nat
  posted : Except Errno Unit
  fin : Bool
  data : List UInt8

def FastSend.admit (q : FastSend) : Except Errno Unit := do
  if !q.registered then throw Errno.ENXIO
  q.validated
  if q.streamId = 0 then throw .EINVAL
  q.claimed
  q.streamGet
  if q.qp = none then throw .ENOTCONN

def cmdDoSend (s : Stream) (q : FastSend) : Stream × Except Errno (List UInt8) :=
  match q.admit with
  | .error e => (s, .error e)
  | .ok () =>
    ({ s with txSeq := wrap64 (s.txSeq + 1) },
      q.posted.map fun _ => fastWire q.streamId s.txSeq q.fin q.data)

def FastSend.outcome (q : FastSend) : Option Bool :=
  match q.admit with
  | .error _ => none
  | .ok () => some q.posted.isOk

def Sender.fastSend (x : Sender) (q : FastSend) : Sender :=
  match cmdDoSend x.stream q with
  | (s, .error _) => ⟨s, x.posted⟩
  | (s, .ok wire) => ⟨s, x.posted ++ [wire]⟩

def fastSends (s : Stream) (qs : List FastSend) : Sender := qs.foldl Sender.fastSend ⟨s, []⟩

theorem hasSyn_fastWire (id : Nat) (fin : Bool) (data : List UInt8) :
    HasSyn (fastWire id 0 fin data) := by
  rw [HasSyn, fastWire, wireFlags_encode]
  cases fin <;> decide

theorem Sender.fastSend_cases (x : Sender) (q : FastSend) : (q.outcome = none ∧ x.fastSend q = x) ∨
    (q.outcome = some false ∧ (x.fastSend q).posted = x.posted ∧
      (x.fastSend q).stream.txSeq = wrap64 (x.stream.txSeq + 1)) ∨
    (q.outcome = some true ∧
      (x.fastSend q).posted = x.posted ++ [fastWire q.streamId x.stream.txSeq q.fin q.data] ∧
      (x.fastSend q).stream.txSeq = wrap64 (x.stream.txSeq + 1)) := by
  unfold FastSend.outcome Sender.fastSend cmdDoSend
  cases q.admit with
  | error e => exact .inl ⟨rfl, rfl⟩
  | ok _ =>
    cases q.posted with
    | error e => exact .inr (.inl ⟨rfl, rfl, rfl⟩)
    | ok _ => exact .inr (.inr ⟨rfl, rfl, rfl⟩)

theorem fastSends_numbered {s : Stream} (first : s.txSeq = 0) (qs : List FastSend)
    (word : (qs.filterMap FastSend.outcome).length ≤ 2 ^ 64) :
    (fastSends s qs).posted.map wireSeq = used (qs.filterMap FastSend.outcome) ∧
      (∀ wire ∈ (fastSends s qs).posted, wireSeq wire = 0 → HasSyn wire) ∧
      (fastSends s qs).stream.txSeq = wrap64 (qs.filterMap FastSend.outcome).length := by
  induction qs using List.reverseRecOn with
  | nil => exact ⟨rfl, by simp [fastSends], first⟩
  | append_singleton qs q ih =>
    have after : fastSends s (qs ++ [q]) = (fastSends s qs).fastSend q := by simp [fastSends]
    have outcome : (qs ++ [q]).filterMap FastSend.outcome =
        qs.filterMap FastSend.outcome ++ q.outcome.toList := by
      cases h : q.outcome <;> simp [h]
    rw [outcome, length_append] at word
    obtain ⟨posted, syn, seq⟩ := ih (by omega)
    rw [after, outcome]
    rcases (fastSends s qs).fastSend_cases q with ⟨none, same⟩ | ⟨lost, kept, next⟩ |
      ⟨sent, grown, next⟩
    · rw [none, same]
      simpa using ⟨posted, syn, seq⟩
    · rw [lost, kept, next]
      refine ⟨?_, syn, ?_⟩
      · simpa [used_concat_false] using posted
      · simp [seq, wrap64_succ]
    · rw [sent] at word
      have bound : (qs.filterMap FastSend.outcome).length < 2 ^ 64 := Nat.lt_of_succ_le word
      rw [wrap64_of_lt bound] at seq
      rw [sent, grown, next, seq]
      refine ⟨?_, ?_, by simp⟩
      · simp [used_concat_true, posted, fastWire, wireSeq_encode _ _ _ _ bound]
      · intro wire membership zero
        rcases mem_append.mp membership with old | new
        · exact syn wire old zero
        · obtain rfl := mem_singleton.mp new
          rw [fastWire, wireSeq_encode _ _ _ _ bound] at zero
          rw [zero]
          exact hasSyn_fastWire _ _ _

/-- For both senders: the frames that are posted carry the numbers 0, 1, 2 and so on, the first
of them with SYN, exactly if no number that found no queue pair (the thread) or failed to post
(the zero-copy send) is followed by a number that was posted. -/
theorem posted_in_order_iff_no_number_lost {s : Stream} (first : s.txSeq = 0) :
    (s.txThread = some ⟨true, .reading⟩ → ∀ (g : Geometry) (es : List SenderEvent) (x : Sender),
        run (Sender.step g) ⟨s, []⟩ es = some x → reads es ≤ 2 ^ 64 →
          (PostedInOrder x.posted ↔ Gapless (outcomes es))) ∧
    ∀ qs : List FastSend, (qs.filterMap FastSend.outcome).length ≤ 2 ^ 64 →
      (PostedInOrder (fastSends s qs).posted ↔ Gapless (qs.filterMap FastSend.outcome)) := by
  constructor
  · intro started g es x reached word
    have numbered := Sender.run_numbered first started reached word
    exact postedInOrder_iff numbered.posted numbered.syn
  · intro qs word
    obtain ⟨posted, syn, -⟩ := fastSends_numbered first qs word
    exact postedInOrder_iff posted syn

def oneByteRead : Reading := ⟨fun _ _ => 0, [7], false, 0, 0⟩

def oneByteRequest (posted : Except Errno Unit) : FastSend :=
  ⟨true, .ok (), 1, .ok (), .ok (), some 0, posted, false, [7]⟩

def startedStream : Stream := pumpStart (Rx.openStream 256)

/-- The thread loses its last number, and no request follows the one whose post fails. -/
theorem posted_in_order_last_number_lost :
    (∃ x, run (Sender.step (Geometry.resolve 4096 1)) ⟨startedStream, []⟩
        [.pump (.read oneByteRead (some 0)), .pump (.post true false true), .pump .account,
          .pump (.read oneByteRead none)] = some x ∧ PostedInOrder x.posted) ∧
    PostedInOrder (fastSends startedStream
      [oneByteRequest (.ok ()), oneByteRequest (.error .EINVAL)]).posted := by
  have first : startedStream.txSeq = 0 := rfl
  constructor
  · obtain ⟨x, reached⟩ : ∃ x, run (Sender.step (Geometry.resolve 4096 1)) ⟨startedStream, []⟩
        [.pump (.read oneByteRead (some 0)), .pump (.post true false true), .pump .account,
          .pump (.read oneByteRead none)] = some x := ⟨_, rfl⟩
    have posted := (posted_in_order_iff_no_number_lost first).1 rfl _ _ x reached (by decide)
    exact ⟨x, reached, posted.mpr (by decide)⟩
  · exact ((posted_in_order_iff_no_number_lost first).2 _ (by decide)).mpr (by decide)

/-- The selector finds no queue pair for the first read of a thread, or the first post of the
zero-copy send fails: the first frame that is posted has the number 1 and no SYN. -/
theorem number_lost_before_first_post :
    (∃ x, run (Sender.step (Geometry.resolve 4096 1)) ⟨startedStream, []⟩
        [.pump (.read oneByteRead none), .pump (.read oneByteRead (some 0)),
          .pump (.post true false true)] = some x ∧
      x.posted.map wireSeq = [1] ∧ ¬PostedInOrder x.posted) ∧
    let x := fastSends startedStream [oneByteRequest (.error .EINVAL), oneByteRequest (.ok ())]
    x.posted.map wireSeq = [1] ∧ ¬PostedInOrder x.posted := by
  refine ⟨⟨_, rfl, ?_, ?_⟩, ?_⟩
  · decide
  · decide
  · decide

end Urp.Tx
