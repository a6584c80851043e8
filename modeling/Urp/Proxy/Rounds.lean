import Urp.Proxy.Runs

/-!
# Runs of the pair that can be written down

Two small endpoints with one queue pair and one client.
-/

namespace Urp.Proxy

open Urp.Lib Urp.Reorder Urp.Frame Urp.Window Urp.Rx Urp.Tx List Option

def smallPair : Config := ⟨fun _ => smallSettings, fun _ => 1⟩

theorem answering_succeed : answering.Succeed :=
  ⟨rfl, rfl, rfl, rfl, fun _ => rfl, fun _ => rfl⟩

def plainPeer : Capabilities := ⟨false, false, false, false⟩

def connecting : List Event :=
  [.cm .initiator (.routeResolved 0), .cm .acceptor (.connectRequest none plainPeer .accepted),
    .cm .initiator (.established 0 plainPeer), .cm .acceptor (.established 0 plainPeer), .linkUp 0]

def opening : List Event :=
  .cm .initiator (.dial 0) :: connecting ++ [.accept ⟨true, true, 0, 0⟩ true]

def sendingByte : List Event :=
  [.pump .initiator 1 (.read (plainRead 1) (some 0)), .pump .initiator 1 (.post false false true),
    .pump .initiator 1 .account]

def reconnecting : List Event :=
  [.cm .initiator (.down 0 5), .cm .acceptor (.down 0 5), .cm .initiator (.retry 0 5 true)] ++
    connecting

def round : List Event := sendingByte ++ [.deliver .acceptor 0 answering]

structure Quiet (x : Proxy) (s : Stream) (sendSyn : Bool) : Prop where
  found : x.stream .initiator 1 = some s
  thread : s.txThread = some ⟨sendSyn, .reading⟩
  uds : s.udsSock.isSome = true
  wire : ∀ side, x.wire side = []
  up : x.up 0 = true
  bufSize : ∀ side, (x.ep side).geometry.bufSize = 4096
  numQps : (x.ep .initiator).qps.numQps = 1
  eligible : ((x.ep .initiator).qps.qp 0).eligible = true
  noWindow : (x.ep .initiator).qps.windowNegotiated = false
  noTstamp : (x.ep .initiator).qps.tstampNegotiated = false

def byteWire (x : Proxy) (s : Stream) (sendSyn : Bool) : List UInt8 :=
  frameWire (x.ep .initiator).geometry s.id s.txSeq sendSyn (plainRead 1)

def bytePacket (x : Proxy) (s : Stream) (sendSyn : Bool) : Packet :=
  ⟨0, x.byteWire s sendSyn, x.client .initiator 1⟩

def tookByte (x : Proxy) (s : Stream) (sendSyn : Bool) : Proxy :=
  x.pumps .initiator 1 (.read (plainRead 1) (some 0))
    ({ x.ep .initiator with qps := (x.ep .initiator).qps.selectRoundRobin.1 }.put 1 (some { s with
        txSeq := wrap64 (s.txSeq + 1)
        txThread := some ⟨false, .posting 0 (x.byteWire s sendSyn) 1⟩ }), none)

def postedByte (x : Proxy) (s : Stream) (sendSyn : Bool) : Proxy :=
  (x.tookByte s sendSyn).pumps .initiator 1 (.post false false true)
    (((x.tookByte s sendSyn).ep .initiator).put 1 (some { s with
        txSeq := wrap64 (s.txSeq + 1)
        credit := s.credit.consume.1
        txThread := some ⟨false, .accounting 1⟩ }), some (0, x.byteWire s sendSyn))

def sentByte (s : Stream) : Stream :=
  { s with
    txSeq := wrap64 (s.txSeq + 1)
    txBytes := wrap64 (s.txBytes + 1)
    credit := s.credit.consume.1
    txThread := some ⟨false, .reading⟩ }

def countedByte (x : Proxy) (s : Stream) (sendSyn : Bool) : Proxy :=
  (x.postedByte s sendSyn).pumps .initiator 1 .account
    (((x.postedByte s sendSyn).ep .initiator).put 1 (some (sentByte s)), none)

section Round

variable {x : Proxy} {s : Stream} {sendSyn : Bool}

theorem selects_only (one : (x.ep .initiator).qps.numQps = 1)
    (eligible : ((x.ep .initiator).qps.qp 0).eligible = true) :
    (x.ep .initiator).qps.selectRoundRobin.2 = some 0 := by
  simp [Qps.selectRoundRobin, one, Qps.selectLoop, Nat.mod_one, eligible]

theorem Quiet.step_read (quiet : Quiet x s sendSyn) :
    step x (.pump .initiator 1 (.read (plainRead 1) (some 0))) = some (x.tookByte s sendSyn) := by
  have fits : 1 ≤ epTxMaxPayload (x.ep .initiator).geometry.bufSize := by
    rw [quiet.bufSize]
    decide
  have selected := selects_only quiet.numQps quiet.eligible
  have unstamped : (plainRead 1).tstampNegotiated = (x.ep .initiator).qps.tstampNegotiated :=
    quiet.noTstamp.symm
  have found : (x.ep .initiator).streams 1 = some s := quiet.found
  have pumped : pumpStep (x.ep .initiator).geometry s (.read (plainRead 1) (some 0)) =
      some ({ s with
        txSeq := wrap64 (s.txSeq + 1)
        txThread := some ⟨false, .posting 0 (x.byteWire s sendSyn) 1⟩ }, none) := by
    simp [pumpStep, quiet.thread, quiet.uds, fits, byteWire]
  simp only [step, Endpoint.pump, selected, unstamped, and_self, if_true, Endpoint.stepThread,
    found, bind_some]
  exact congrArg (fun r => Option.map _ (Option.map _ r)) pumped

theorem Quiet.step_post (quiet : Quiet x s sendSyn) :
    step (x.tookByte s sendSyn) (.pump .initiator 1 (.post false false true)) =
      some (x.postedByte s sendSyn) := by
  have found : ((x.tookByte s sendSyn).ep .initiator).streams 1 = some { s with
      txSeq := wrap64 (s.txSeq + 1)
      txThread := some ⟨false, .posting 0 (x.byteWire s sendSyn) 1⟩ } := by
    simp [tookByte]
  have noWindow : false = ((x.tookByte s sendSyn).ep .initiator).qps.windowNegotiated :=
    quiet.noWindow.symm
  simp [step, Endpoint.pump, ← noWindow, Endpoint.stepThread, found, pumpStep, postedByte]

theorem step_account (x : Proxy) (s : Stream) (sendSyn : Bool) :
    step (x.postedByte s sendSyn) (.pump .initiator 1 .account) =
      some (x.countedByte s sendSyn) := by
  have found : ((x.postedByte s sendSyn).ep .initiator).streams 1 = some { s with
      txSeq := wrap64 (s.txSeq + 1)
      credit := s.credit.consume.1
      txThread := some ⟨false, .accounting 1⟩ } := by
    simp [postedByte]
  simp [step, Endpoint.pump, Endpoint.stepThread, found, pumpStep, countedByte, sentByte]

theorem Quiet.run_sendingByte (quiet : Quiet x s sendSyn) :
    run step x sendingByte = some (x.countedByte s sendSyn) := by
  simp only [sendingByte, run, quiet.step_read, quiet.step_post, step_account, bind_some]

theorem countedByte_initiator : (x.countedByte s sendSyn).stream .initiator 1 =
    some (sentByte s) := by
  simp [stream, countedByte]

theorem countedByte_acceptor (x : Proxy) (s : Stream) (sendSyn : Bool) :
    (x.countedByte s sendSyn).ep .acceptor = x.ep .acceptor := by
  simp [countedByte, postedByte, tookByte]

theorem countedByte_read : (x.countedByte s sendSyn).read .initiator 1 =
    x.read .initiator 1 ++ [[0]] := by
  simp [countedByte, postedByte, tookByte, readBy, plainRead]

theorem Quiet.countedByte_wire (quiet : Quiet x s sendSyn) :
    (x.countedByte s sendSyn).wire .acceptor = [x.bytePacket s sendSyn] ∧
      (x.countedByte s sendSyn).wire .initiator = [] := by
  have up : (x.tookByte s sendSyn).up 0 = true := quiet.up
  have before : (x.tookByte s sendSyn).wire = x.wire := pumps_wire_silent ..
  constructor
  · rw [countedByte, pumps_wire_silent, postedByte]
    have posted := (x.tookByte s sendSyn).pumps_wire_posts .initiator 1 (.post false false true)
      (((x.tookByte s sendSyn).ep .initiator).put 1 (some { s with
        txSeq := wrap64 (s.txSeq + 1)
        credit := s.credit.consume.1
        txThread := some ⟨false, .accounting 1⟩ })) 0 (x.byteWire s sendSyn)
    rwa [up, before, quiet.wire] at posted
  · rw [countedByte, pumps_wire, postedByte, pumps_wire, before, quiet.wire]

def deliveredByte (x : Proxy) (s : Stream) (sendSyn : Bool) : Proxy :=
  (x.countedByte s sendSyn).receives .acceptor 0 answering (x.bytePacket s sendSyn)

section

variable (quiet : Quiet x s sendSyn)
include quiet

theorem Quiet.step_deliver : step (x.countedByte s sendSyn) (.deliver .acceptor 0 answering) =
      some (x.deliveredByte s sendSyn) := by
  have first : First [x.bytePacket s sendSyn] 0 (x.bytePacket s sendSyn) := by simp [First]
  simp only [step, quiet.countedByte_wire.1, List.getElem?_cons_zero, bind_some]
  rw [if_pos first]
  rfl

theorem Quiet.run_round : run step x round = some (x.deliveredByte s sendSyn) := by
  rw [round, run_append, quiet.run_sendingByte, bind_some, run, quiet.step_deliver]
  rfl

omit quiet in
theorem deliveredByte_initiator (x : Proxy) (s : Stream) (sendSyn : Bool) :
    (x.deliveredByte s sendSyn).ep .initiator = (x.countedByte s sendSyn).ep .initiator := by
  simp [deliveredByte, receives_ep]

omit quiet in
theorem deliveredByte_read : (x.deliveredByte s sendSyn).read .initiator 1 =
    x.read .initiator 1 ++ [[0]] := countedByte_read

theorem Quiet.fits :
    (plainRead 1).data.length ≤ epTxMaxPayload (x.ep .initiator).geometry.bufSize := by
  rw [quiet.bufSize, length_plainRead]
  decide

theorem Quiet.length_byteWire :
    (x.byteWire s sendSyn).length ≤ (x.ep .acceptor).geometry.bufSize := by
  have fits := quiet.fits
  rw [length_plainRead] at fits
  rw [byteWire, length_plainWire _ _ _ fits, quiet.bufSize]
  decide

theorem Quiet.next (tidy : x.Tidy) : Quiet (x.deliveredByte s sendSyn) (sentByte s) false := by
  have counted : (x.countedByte s sendSyn).Tidy := tidy.run quiet.run_sendingByte
  obtain ⟨k, k_pos, k_lt, frame⟩ := counted.frames .acceptor (x.bytePacket s sendSyn)
    (by simp [quiet.countedByte_wire.1])
  obtain ⟨touches, -, -⟩ := recvDone_tidy frame k_pos k_lt (counted.tables .acceptor) answering 0
  have settings : ((x.deliveredByte s sendSyn).ep .acceptor).settings =
      (x.ep .acceptor).settings := by
    rw [← countedByte_acceptor x s sendSyn, ← touches.settings]
    rfl
  have initiator := deliveredByte_initiator x s sendSyn
  refine ⟨?_, rfl, quiet.uds, forall_side .acceptor ?_ ?_, quiet.up, forall_side .acceptor ?_ ?_,
    ?_, ?_, ?_, ?_⟩
  · rw [stream, initiator]
    exact countedByte_initiator
  · simp [deliveredByte, receives, answering, quiet.countedByte_wire.1]
  · have empty : (x.countedByte s sendSyn).wire Side.acceptor.peer = [] := quiet.countedByte_wire.2
    simp [deliveredByte, receives, answering, empty]
  · rw [Endpoint.geometry, settings]
    exact quiet.bufSize .acceptor
  · rw [show Side.acceptor.peer = .initiator from rfl, initiator]
    exact quiet.bufSize .initiator
  · rw [initiator]
    exact quiet.numQps
  · rw [initiator]
    exact quiet.eligible
  · rw [initiator]
    exact quiet.noWindow
  · rw [initiator]
    exact quiet.noTstamp

theorem Quiet.settled : x.Settled .initiator 1 := by
  constructor
  · simp [quiet.found, Stream.holding, quiet.thread]
  · intro p mem
    rw [quiet.wire] at mem
    cases mem

theorem Quiet.lossless (word : s.txSeq < 2 ^ 64)
    (room : ∀ r, x.stream .acceptor 1 = some r → s.txSeq = r.reorder.nextExpected ∨
      r.reorder.pendingCount < r.reorder.maxBuffered) : Along step (Lossless 1) x round := by
  have up : (x.tookByte s sendSyn).up 0 = true := quiet.up
  have held : (x.tookByte s sendSyn).stream .initiator 1 = some { s with
      txSeq := wrap64 (s.txSeq + 1)
      txThread := some ⟨false, .posting 0 (x.byteWire s sendSyn) 1⟩ } := by
    simp [stream, tookByte]
  have number : wireSeq (x.byteWire s sendSyn) = s.txSeq := wireSeq_frameWire _ _ quiet.fits word
  refine ⟨⟨trivial, by simp [Loses, Drops, PostsDown]⟩, ?_⟩
  rw [quiet.step_read]
  rintro _ ⟨⟩
  refine ⟨⟨trivial, ?_⟩, ?_⟩
  · rintro side ⟨rfl, -, dropped | ⟨-, s', sendSyn', qp, wire, len, found, thread, down⟩⟩
    · cases dropped
    · cases held.symm.trans found
      cases thread
      cases up.symm.trans down
  rw [quiet.step_post]
  rintro _ ⟨⟩
  refine ⟨⟨trivial, by simp [Loses, Drops, PostsDown]⟩, ?_⟩
  rw [step_account]
  rintro _ ⟨⟩
  refine ⟨⟨?_, by simp [Loses]⟩, fun _ _ => trivial⟩
  intro p found named
  rw [quiet.countedByte_wire.1] at found
  cases found
  rw [stream, countedByte_acceptor]
  refine ⟨answering_succeed, quiet.length_byteWire, fun r present => ?_⟩
  rw [bytePacket, number]
  exact room r present

end

theorem numbered_round (x : Proxy) (bound : (x.read .initiator 1).length < 2 ^ 64) :
    Along step (Numbered 1) x round := by
  refine ⟨fun _ _ => bound, fun _ _ => ⟨fun _ silent => absurd rfl silent, fun _ _ =>
    ⟨fun _ silent => absurd rfl silent, fun _ _ => ⟨trivial, fun _ _ => trivial⟩⟩⟩⟩

end Round

/-! ## Rounds from the start -/

theorem opening_quiet : ∃ x s, run step (new smallPair) opening = some x ∧ Quiet x s true ∧
    x.read .initiator 1 = [] := by
  have evaluated : (run step (new smallPair) opening).any (fun x =>
      (x.stream .initiator 1).any fun s => decide (s.txThread = some ⟨true, .reading⟩ ∧
        s.udsSock.isSome = true ∧ (∀ side, x.wire side = []) ∧ x.up 0 = true ∧
        (∀ side, (x.ep side).geometry.bufSize = 4096) ∧ (x.ep .initiator).qps.numQps = 1 ∧
        ((x.ep .initiator).qps.qp 0).eligible = true ∧
        (x.ep .initiator).qps.windowNegotiated = false ∧
        (x.ep .initiator).qps.tstampNegotiated = false ∧ x.read .initiator 1 = [])) = true := by
    decide +kernel
  obtain ⟨x, reached, opened⟩ := (Option.any_eq_true ..).mp evaluated
  obtain ⟨s, found, facts⟩ := (Option.any_eq_true ..).mp opened
  obtain ⟨thread, uds, wire, up, bufSize, numQps, eligible, noWindow, noTstamp, unread⟩ :=
    of_decide_eq_true facts
  exact ⟨x, s, reached, ⟨found, thread, uds, wire, up, bufSize, numQps, eligible, noWindow,
    noTstamp⟩, unread⟩

theorem opening_lossless : Along step (Lossless 1) (new smallPair) opening ∧
    Along step (Numbered 1) (new smallPair) opening := by
  constructor <;> refine along_of_forall (fun x e mem => ?_) _ <;>
    simp only [opening, connecting, cons_append, nil_append, mem_cons,
      not_mem_nil, or_false] at mem <;>
    rcases mem with rfl | rfl | rfl | rfl | rfl | rfl | rfl <;>
    simp [Lossless, Answered, Loses, Numbered]

structure Rounds (k : Nat) (es : List Event) (x : Proxy) (s : Stream) (sendSyn : Bool) : Prop where
  reached : run step (new smallPair) es = some x
  lossless : Along step (Lossless 1) (new smallPair) es
  numbered : Along step (Numbered 1) (new smallPair) es
  quiet : Quiet x s sendSyn
  read : x.read .initiator 1 = List.replicate k [0]

variable {r : Stream}

section Rounds

variable {k : Nat} {es : List Event} {x : Proxy} {s : Stream} {sendSyn : Bool}

section

variable (rounds : Rounds k es x s sendSyn)
include rounds

theorem Rounds.handled : Along step (Handled 1) (new smallPair) es := by
  exact (rounds.lossless.mono fun _ _ lossless => lossless.1).and rounds.numbered

theorem Rounds.sound : Sound 1 x :=
  sound_of_run rounds.handled rounds.reached

theorem Rounds.whole : x.WholeAt 1 .initiator :=
  (wholeAt_iff .initiator rounds.handled rounds.reached).mpr
    (rounds.lossless.mono fun _ _ lossless => lossless.2 .initiator)

theorem Rounds.settled : x.Settled .initiator 1 :=
  rounds.quiet.settled

theorem Rounds.number : s.txSeq = wrap64 k ∧ sendSyn = decide (k = 0) := by
  obtain ⟨-, pump, before, held, thread, sending, split⟩ :=
    (rounds.sound.flow .initiator).sending s rounds.quiet.found
  cases thread.symm.trans rounds.quiet.thread
  obtain ⟨rfl, seq, syn⟩ := sending
  obtain rfl : x.read .initiator 1 = before := by simpa using split
  simpa [rounds.read] using And.intro seq syn

theorem Rounds.receiver (found : x.stream .acceptor 1 = some r) :
    r.reorder.nextExpected = min k u64Max ∧ r.reorder.pendingCount = 0 ∧
      r.reorder.drained = [] ∧ 0 < r.reorder.maxBuffered := by
  obtain ⟨next, pending, drained⟩ := rounds.sound.drained rounds.settled rounds.whole found
  rw [rounds.read, length_replicate] at next
  exact ⟨next, pending, drained, (rounds.sound.flow .initiator).depth r found⟩

theorem Rounds.room (found : x.stream .acceptor 1 = some r) : s.txSeq = r.reorder.nextExpected ∨
      r.reorder.pendingCount < r.reorder.maxBuffered := by
  obtain ⟨-, pending, -, depth⟩ := rounds.receiver found
  exact .inr (by omega)

theorem Rounds.word : s.txSeq < 2 ^ 64 := by
  rw [rounds.number.1]
  exact Nat.mod_lt _ (by decide)

theorem Rounds.append_lossless : Along step (Lossless 1) (new smallPair) (es ++ round) := by
  refine rounds.lossless.append fun t reached => ?_
  cases rounds.reached.symm.trans reached
  exact rounds.quiet.lossless rounds.word fun r found => rounds.room found

theorem Rounds.run_append :
    run step (new smallPair) (es ++ round) = some (x.deliveredByte s sendSyn) :=
  run_append_eq_some.mpr ⟨x, rounds.reached, rounds.quiet.run_round⟩

theorem Rounds.next (bound : k < 2 ^ 64) :
    Rounds (k + 1) (es ++ round) (x.deliveredByte s sendSyn) (sentByte s) false where
  reached := rounds.run_append
  lossless := rounds.append_lossless
  numbered := by
    refine rounds.numbered.append fun t reached => ?_
    cases rounds.reached.symm.trans reached
    exact numbered_round x (by rw [rounds.read, length_replicate]; exact bound)
  quiet := rounds.quiet.next rounds.sound.tidy
  read := by rw [deliveredByte_read, rounds.read, replicate_succ']

end

end Rounds

theorem rounds_opening : ∃ x s, Rounds 0 opening x s true := by
  obtain ⟨x, s, reached, quiet, unread⟩ := opening_quiet
  exact ⟨x, s, reached, opening_lossless.1, opening_lossless.2, quiet, unread⟩

theorem rounds_exist {k : Nat} (bound : k ≤ 2 ^ 64) :
    ∃ es x s sendSyn, Rounds k es x s sendSyn := by
  induction k with
  | zero =>
    obtain ⟨x, s, rounds⟩ := rounds_opening
    exact ⟨opening, x, s, true, rounds⟩
  | succ k ih =>
    obtain ⟨es, x, s, sendSyn, rounds⟩ := ih (by omega)
    exact ⟨_, _, _, _, rounds.next (by omega)⟩

/-! ## The frame after the last number -/

theorem recvDone_stale (ep : Endpoint) (a : Answers) {id seq : Nat} {stamped : Bool}
    {data rest wire : List UInt8} (id_pos : id ≠ 0) (id_lt : id < 2 ^ 32) (encoded : wire =
      encode id seq typeData (dataFlags false stamped) 0 data.length ++ (data ++ rest))
    (bound : seq < 2 ^ 64) (found : ep.streams id = some r) (opened : r.udsSock.isSome = true)
    (stale : seq < r.reorder.nextExpected) (idle : r.reorder.drained = [])
    (unknown : a.known = false) (qp : Nat) :
    (ep.recvDone a qp wire).1.streams id = some r := by
  have frame : DataFrame id false wire := ⟨seq, stamped, data, rest, encoded⟩
  have located : ∀ {s}, Endpoint.Dispatched a.creation ep id false (some s) → s = r := by
    intro s dispatched
    generalize target : some s = out at dispatched
    cases dispatched with
    | known found' =>
      exact (Option.some.inj target).trans (Option.some.inj (found'.symm.trans found))
    | greeted _ greets => cases greets
    | rejected => cases target
    | made absent => cases absent.symm.trans found
    | unmade => cases target
  rcases Endpoint.recvDone_data frame id_pos id_lt a ep qp
    with ⟨-, ignored⟩ | ⟨fits, dec, -, received⟩
  · rwa [ignored]
  · generalize ep.recvDone a qp wire = result at received ⊢
    cases received with
    | dropped => exact found
    | unopened dispatched closed =>
      obtain rfl := located dispatched
      rw [withBackend_opened a opened, opened] at closed
      cases closed
    | delivered dispatched _ _ stored =>
      obtain rfl := located dispatched
      subst encoded
      have number := decodeSeq_encode (header_landing a.mem (length_encode ..) fits) bound
      rw [stored, withBackend_opened a opened, unknown, Bool.false_and, receiveData_plain, number,
        deliverFrame_stale _ _ _ _ _ stale idle]

theorem Rounds.wraps {es : List Event} {x : Proxy} {s : Stream} {sendSyn : Bool}
    (rounds : Rounds (2 ^ 64) es x s sendSyn) :
    (x.deliveredByte s sendSyn).written .acceptor 1 = x.written .acceptor 1 := by
  have flow := rounds.sound.flow .initiator
  obtain ⟨seq, syn⟩ := rounds.number
  obtain rfl : sendSyn = false := syn
  obtain ⟨names, -⟩ := flow.sending s rounds.quiet.found
  obtain ⟨r, found⟩ : ∃ r, x.stream .acceptor 1 = some r := by
    cases found : x.stream .acceptor 1 with
    | some r => exact ⟨r, rfl⟩
    | none =>
      have first :=
        (rounds.whole 0 (by rw [rounds.read, length_replicate]; decide)).resolve_left
        (by rw [rounds.settled.nothing_pending]; exact not_mem_nil)
      rw [flow.unopened found] at first
      cases first
  obtain ⟨next, -, idle, -⟩ := rounds.receiver found
  obtain ⟨c, receiving⟩ := flow.receiving r found
  obtain ⟨uds, socket, -, -⟩ := receiving.socket
  have encoded : x.byteWire s false = _ := frameWire_eq s.id s.txSeq false rounds.quiet.fits
  rw [frameFlags_eq, names, seq] at encoded
  have kept := recvDone_stale (x.ep .acceptor) answering (by decide) (by decide)
    encoded (by decide) found (by rw [socket]; rfl) (by rw [next]; decide) idle rfl 0
  have stored : (x.deliveredByte s false).stream .acceptor 1 = some r := by
    rwa [stream, deliveredByte, receives_ep, Function.update_self, countedByte_acceptor]
  rw [written, written, stored, found]

end Urp.Proxy
