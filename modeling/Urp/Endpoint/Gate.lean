import Urp.Endpoint.Credits

/-!
# The window gate and grants of any value
-/

namespace Urp

open Urp.Lib Urp.Frame Urp.Window Urp.Rx Urp.Tx Option
open Urp.Stream (Socket Phase)

/-- What the gate in `urp_stream_tx_fn` looks at. -/
structure Gauge where
  sent : Nat
  acked : Nat
  window : Nat
  waiting : Option Nat
  accounting : Nat
deriving DecidableEq

def Gauge.posted (g : Gauge) : Nat := g.sent + g.accounting

variable {s s' : Stream}

namespace Stream

def gauge (s : Stream) : Gauge where
  sent := s.txBytes
  acked := s.txBytesAcked
  window := s.windowBytes
  waiting := match s.txThread with
    | some ⟨_, .posting _ _ len⟩ => some len
    | _ => none
  accounting := match s.txThread with
    | some ⟨_, .accounting len⟩ => len
    | _ => 0

theorem gauge_congr (txBytes : s'.txBytes = s.txBytes)
    (txBytesAcked : s'.txBytesAcked = s.txBytesAcked) (windowBytes : s'.windowBytes = s.windowBytes)
    (txThread : s'.txThread = s.txThread) : s'.gauge = s.gauge := by
  simp only [gauge, txBytes, txBytesAcked, windowBytes, txThread]

theorem gauge_pumpStart (s : Stream) : (pumpStart s).gauge = s.gauge := by
  unfold pumpStart
  split
  · rfl
  · rename_i absent
    have none : s.txThread = none := by simpa using absent
    simp only [gauge, none]

theorem gauge_openBackend (a : Answers) (s : Stream) :
    (Endpoint.openBackend a s).gauge = s.gauge := by
  unfold Endpoint.openBackend
  split
  · rfl
  · split
    · dsimp only
      split
      · exact gauge_pumpStart { s with udsSock := some Socket.fresh }
      · rfl
    · rfl

theorem gauge_withBackend (a : Answers) (ep : Endpoint) (s : Stream) :
    (ep.withBackend a s).gauge = s.gauge := by
  unfold Endpoint.withBackend
  split
  · exact gauge_openBackend a s
  · rfl

theorem gauge_windowGrant (s : Stream) : (windowGrant s).1.gauge = s.gauge := by
  unfold windowGrant
  split <;> rfl

theorem gauge_receiveData (kmalloc : Nat → Bool) (results : Nat → Stream.SendResult) (g : Geometry)
    (negotiated : Bool) (s : Stream) (slot : Memory) (dec : RxDecoded) :
    (receiveData kmalloc results g negotiated s slot dec).1.gauge = s.gauge := by
  have untouched := untouched_deliverFrame kmalloc results g s slot (decodeSeq (slot 0))
    dec.payloadLen
  have delivered := gauge_congr untouched.txBytes untouched.txBytesAcked untouched.windowBytes
    untouched.txThread
  cases negotiated with
  | true =>
    rwa [receiveData_negotiated, gauge_windowGrant]
  | false =>
    rwa [receiveData_plain]

def bytesGranted (slot : Memory) (dec : RxDecoded) : Option Nat :=
  if dec.flags &&& ctrlFlagCreditBytes ≠ 0 then
    creditBytesDecode (fun i => slot 0 (headerSize + i)) dec.payloadLen
  else none

theorem gauge_receiveCredit (s : Stream) (slot : Memory) (dec : RxDecoded) :
    (receiveCredit s slot dec).gauge = match bytesGranted slot dec with
      | some n => { s.gauge with acked := applyGrant s.gauge.acked n }
      | none => s.gauge := by
  unfold receiveCredit bytesGranted
  have frames : ∀ s' : Stream, s' = (if dec.flags &&& ctrlFlagCredit ≠ 0 then
      { s with credit := s.credit.grant dec.credits } else s) → s'.gauge = s.gauge := by
    rintro s' rfl
    split <;> rfl
  generalize credited : (if dec.flags &&& ctrlFlagCredit ≠ 0 then
    { s with credit := s.credit.grant dec.credits } else s) = s'
  have same := frames s' credited.symm
  split
  · cases creditBytesDecode (fun i => slot 0 (headerSize + i)) dec.payloadLen with
    | none => exact same
    | some n =>
      have acked : s'.txBytesAcked = s.gauge.acked := congrArg Gauge.acked same
      dsimp only
      rw [acked, ← same]
      rfl
  · exact same

end Stream

namespace Endpoint

def gauge (ep : Endpoint) (id : Nat) : Option Gauge := (ep.streams id).map Stream.gauge

def byteGrant (a : Answers) (ep : Endpoint) (wire : List UInt8) : Option (Nat × Nat) :=
  if wire.length ≤ ep.geometry.bufSize then
    let slot := landing ep.geometry a.mem wire
    match classifyFrame wire.length (slot 0) with
    | (.credit, dec) =>
      if dec.streamId ≠ 0 then (Stream.bytesGranted slot dec).map (dec.streamId, ·) else none
    | _ => none
  else none

inductive Regauged (settings : Settings) (grant : Option (Nat × Nat)) (id : Nat) :
    Option Gauge → Option Gauge → Prop where
  | same {g} (unnamed : ∀ n, g.isSome = true → grant ≠ some (id, n)) :
    Regauged settings grant id g g
  | gone {g} : Regauged settings grant id g none
  | made {window} (least : settings.geometry.bufSize ≤ window) (most : window ≤ windowBytesMax) :
    Regauged settings grant id none (some ⟨0, 0, window, none, 0⟩)
  | granted {g n} (named : grant = some (id, n)) :
    Regauged settings grant id (some g) (some { g with acked := applyGrant g.acked n })

variable {a : Answers} {ep : Endpoint} {id : Nat}

theorem window_bounds (ep : Endpoint) (c : Creation) :
    ep.geometry.bufSize ≤ (ep.sizes c).window ∧ (ep.sizes c).window ≤ windowBytesMax := by
  have size : ep.settings.sizes.bufSize ≤ bufferSizeMax :=
    ep.settings.size ▸ ep.settings.geometry.size_max
  have bounds := windowForStream_bounds ep.settings.sizes.sysctlWindow c.linkMbps c.rttNs
    ep.settings.pool size
  refine ⟨le_trans ?_ bounds.1, bounds.2⟩
  rw [ep.settings.size]
  exact Nat.le_mul_of_pos_left _ (by decide)

theorem gauge_put_of_eq (there : ep.streams id = some s)
    (same : s'.gauge = s.gauge) : (ep.put id (some s')).gauge id = ep.gauge id := by
  simp [gauge, there, same]

theorem rxFind_gauge (c : Creation) (ep : Endpoint) (flags : UInt8) (id_pos : id ≠ 0) :
    Regauged ep.settings none id (ep.gauge id) ((ep.rxFind c id flags).1.gauge id) ∧
      ∀ s, (ep.rxFind c id flags).2 = .ok s → (ep.rxFind c id flags).1.streams id = some s := by
  have stays : Regauged ep.settings none id (ep.gauge id) (ep.gauge id) := .same (by simp)
  have greets : Regauged ep.settings none id (ep.gauge id) ((ep.rxSyn c id).1.gauge id) ∧
      ∀ s, (ep.rxSyn c id).2 = .ok s → (ep.rxSyn c id).1.streams id = some s := by
    unfold rxSyn
    cases found : ep.streams id with
    | some s =>
      dsimp only
      split
      · refine ⟨?_, fun s' handed => by simpa using handed⟩
        have same : ({ s with state := (Stream.nextState s.state .rxSyn).next } : Stream).gauge =
            s.gauge := rfl
        rwa [gauge_put_of_eq found same]
      · exact ⟨stays, fun s' handed => by cases handed⟩
    | none =>
      rcases streamCreate_absent c found id_pos with ⟨e, failed, -⟩ | created
      · simp only [failed]
        exact ⟨stays, fun s' handed => by cases handed⟩
      · simp only [created, put_put]
        refine ⟨?_, fun s' handed => by simpa using handed⟩
        have fresh : (ep.put id (some { Stream.blank (ep.sizes c) id with
            state := .synReceived })).gauge id = some ⟨0, 0, (ep.sizes c).window, none, 0⟩ := by
          simp [gauge, Stream.gauge, Stream.blank]
        have absent : ep.gauge id = none := by simp [gauge, found]
        rw [fresh, absent]
        exact .made (window_bounds ep c).1 (window_bounds ep c).2
  unfold rxFind
  split
  · exact greets
  · split
    · rename_i s found
      exact ⟨stays, fun s' handed => by rw [found, Except.ok.inj handed]⟩
    · split
      · exact ⟨stays, fun s' handed => by cases handed⟩
      · exact greets

theorem rxDispatch_gauge (c : Creation) (ep : Endpoint) (flags : UInt8) (id_pos : id ≠ 0) :
    Regauged ep.settings none id (ep.gauge id) ((ep.rxDispatch c id flags).1.gauge id) ∧
      ∀ s, (ep.rxDispatch c id flags).2 = .ok (some s) →
        (ep.rxDispatch c id flags).1.streams id = some s := by
  obtain ⟨moved, handed⟩ := rxFind_gauge c ep flags id_pos
  rw [rxDispatch]
  split
  · rename_i after e found
    rw [found] at moved
    exact ⟨moved, fun s given => by cases given⟩
  · rename_i after s found
    rw [found] at moved
    have there := handed s (by rw [found])
    rw [found] at there
    split
    · refine ⟨?_, fun s given => by cases given⟩
      have removed : (after.put id none).gauge id = none := by simp [gauge]
      rw [removed]
      exact .gone
    · split
      · refine ⟨?_, fun s given => by simpa using given⟩
        have same : (rxFin s).gauge = s.gauge := rfl
        rwa [gauge_put_of_eq there same]
      · exact ⟨moved, fun s' given => by rw [there, Option.some.inj (Except.ok.inj given)]⟩

theorem receiveStream_gauge (a : Answers) (ep : Endpoint) (qp : Nat) (slot : Memory)
    {dec : RxDecoded} (id_pos : dec.streamId ≠ 0) :
    Regauged ep.settings none dec.streamId (ep.gauge dec.streamId)
      ((ep.receiveStream a qp slot dec).1.gauge dec.streamId) := by
  obtain ⟨moved, handed⟩ := rxDispatch_gauge a.creation ep dec.flags id_pos
  unfold receiveStream
  split
  · rename_i after s found
    rw [found] at moved
    have there := handed s (by rw [found])
    rw [found] at there
    have backend := Stream.gauge_withBackend a after s
    unfold withBackend at backend
    dsimp only
    generalize (if after.needsBackend s then openBackend a s else s) = opened at backend
    have delivered := fun negotiated => (Stream.gauge_receiveData a.kmalloc a.results
      after.geometry negotiated opened slot dec).trans backend
    have kept : ∀ negotiated, (after.put dec.streamId (some (receiveData a.kmalloc a.results
        after.geometry negotiated opened slot dec).1)).gauge dec.streamId =
          after.gauge dec.streamId :=
      fun negotiated => gauge_put_of_eq there (delivered negotiated)
    split
    · split
      · split
        · rwa [kept]
        · change Regauged _ _ _ _ ((after.put dec.streamId _).gauge dec.streamId)
          rwa [kept]
      · rwa [kept]
    · rwa [gauge_put_of_eq there backend]
  · rename_i after other found
    rwa [found] at moved

theorem gauge_others {ep' : Endpoint} {other : Nat} (touches : Touches id ep ep')
    (unnamed : other ≠ id) : ep'.gauge other = ep.gauge other := by
  unfold gauge
  rw [touches.others other unnamed]

theorem receiveControl_gauge (a : Answers) (ep : Endpoint) (qp : Nat) (slot : Memory)
    (dec : RxDecoded) (id : Nat) :
    Regauged ep.settings
      (if dec.streamId ≠ 0 then (Stream.bytesGranted slot dec).map (dec.streamId, ·) else none) id
      (ep.gauge id) ((ep.receiveControl a qp slot dec).gauge id) := by
  unfold receiveControl
  by_cases zero : dec.streamId = 0
  · rw [if_pos zero, if_neg (fun nonzero => nonzero zero)]
    split <;> exact .same (by simp)
  · rw [if_neg zero, if_pos zero]
    cases found : ep.streams dec.streamId with
    | none =>
      refine .same fun n present named => ?_
      obtain ⟨m, -, same⟩ := map_eq_some_iff.mp named
      rw [← (Prod.mk.inj same).1] at present
      simp [gauge, found] at present
    | some s =>
      rcases eq_or_ne id dec.streamId with rfl | named
      · have credited := Stream.gauge_receiveCredit s slot dec
        have before : ep.gauge dec.streamId = some s.gauge := by simp [gauge, found]
        cases granted : Stream.bytesGranted slot dec with
        | none =>
          rw [granted] at credited
          rw [gauge_put_of_eq found credited]
          exact .same (by simp)
        | some n =>
          rw [granted] at credited
          have after : (ep.put dec.streamId (some (receiveCredit s slot dec))).gauge dec.streamId =
              some { s.gauge with acked := applyGrant s.gauge.acked n } := by
            simp [gauge, credited]
          rw [before, after]
          exact .granted rfl
      · have same := gauge_others (touches_put (Touches.refl dec.streamId ep)
          (some (receiveCredit s slot dec))) named
        rw [same]
        refine .same fun n _ grants => named ?_
        obtain ⟨m, -, same⟩ := map_eq_some_iff.mp grants
        exact (Prod.mk.inj same).1.symm

theorem recvDone_gauge (a : Answers) (ep : Endpoint) (qp : Nat) (wire : List UInt8) (id : Nat) :
    Regauged ep.settings (ep.byteGrant a wire) id (ep.gauge id)
      ((ep.recvDone a qp wire).1.gauge id) := by
  unfold recvDone byteGrant
  by_cases length : wire.length ≤ ep.geometry.bufSize
  · simp only [if_pos length]
    rcases classified : classifyFrame wire.length (landing ep.geometry a.mem wire 0) with
      ⟨action, dec⟩
    cases action with
    | deliverStream =>
      have id_pos := streamId_ne_zero classified
      rcases eq_or_ne id dec.streamId with rfl | named
      · exact receiveStream_gauge a ep qp _ id_pos
      · have touches := receiveStream_touches a ep qp (landing ep.geometry a.mem wire) id_pos
        rw [gauge_others touches named]
        exact .same (by simp)
    | credit => exact receiveControl_gauge a ep qp _ dec id
    | dropShort | dropOversize | dropPayloadOverrun | dropShortProbe | probePong | probePing
    | deliverLegacy => exact .same (by simp)
  · simp only [if_neg length]
    exact .same (by simp)

theorem recvDone_setup (a : Answers) (ep : Endpoint) (qp : Nat) (wire : List UInt8) :
    (ep.recvDone a qp wire).1.settings = ep.settings ∧
      (ep.recvDone a qp wire).1.qps.windowNegotiated = ep.qps.windowNegotiated := by
  unfold recvDone
  split
  · dsimp only
    split
    · rename_i dec classified
      have touches := receiveStream_touches a ep qp (landing ep.geometry a.mem wire)
        (streamId_ne_zero classified)
      refine ⟨touches.settings, ?_⟩
      have same := rxDispatch_qps a.creation ep dec.streamId dec.flags
      unfold receiveStream
      split
      · rename_i after s found
        rw [found] at same
        rw [← same]
        dsimp only
        generalize (if after.needsBackend s then openBackend a s else s) = opened
        split
        · split
          · split <;> rfl
          · rfl
        · rfl
      · rename_i after other found
        rw [found] at same
        rw [← same]
    · rename_i dec classified
      refine ⟨?_, (receiveControl_counts a ep qp _ dec).windowNegotiated⟩
      unfold receiveControl
      split
      · split <;> rfl
      · split <;> rfl
    · exact ⟨rfl, rfl⟩
  · exact ⟨rfl, rfl⟩

theorem acceptClient_gauge (c : Creation) (thread : Bool) (ep : Endpoint) (id : Nat) :
    Regauged ep.settings none id (ep.gauge id) ((ep.acceptClient c thread).1.gauge id) ∧
      (ep.acceptClient c thread).1.settings = ep.settings := by
  have accepted := acceptClient_sound c thread ep
  generalize ep.acceptClient c thread = result at accepted
  cases accepted with
  | refused => exact ⟨.same (by simp), rfl⟩
  | served absent =>
    refine ⟨?_, rfl⟩
    rcases eq_or_ne id ep.nextStreamId with rfl | named
    · have fresh : ({ ep with nextStreamId := wrap32 (ep.nextStreamId + 2) }.put ep.nextStreamId
          (some (clientStream (ep.sizes c) ep.nextStreamId))).gauge ep.nextStreamId =
            some ⟨0, 0, (ep.sizes c).window, none, 0⟩ := by
        have client : (clientStream (ep.sizes c) ep.nextStreamId).gauge =
            ⟨0, 0, (ep.sizes c).window, none, 0⟩ := (Stream.gauge_pumpStart _).trans rfl
        simp [gauge, client]
      have before : ep.gauge ep.nextStreamId = none := by simp [gauge, absent]
      rw [before]
      exact fresh ▸ .made (window_bounds ep c).1 (window_bounds ep c).2
    · have same : ({ ep with nextStreamId := wrap32 (ep.nextStreamId + 2) }.put ep.nextStreamId
          (some (clientStream (ep.sizes c) ep.nextStreamId))).gauge id = ep.gauge id := by
        simp [gauge, named]
      rw [same]
      exact .same (by simp)

end Endpoint

/-! ## Senders and their peers -/

namespace Gate

open Endpoint

/-- `told` counts a grant up to what was posted when it came. -/
structure State where
  ep : Endpoint
  told : Nat → Nat

inductive Event where
  | receive (a : Answers) (qp : Nat) (wire : List UInt8)
  | accept (a : Creation) (thread : Bool)
  | pump (id : Nat) (e : PumpEvent)

def State.hears (s : State) (grant : Option (Nat × Nat)) (ep : Endpoint) (id : Nat) : Nat :=
  match s.ep.gauge id, ep.gauge id with
  | some g, some _ =>
    match grant with
    | some (named, n) => if named = id then max (s.told id) (min n g.posted) else s.told id
    | none => s.told id
  | _, _ => 0

def State.moves (s : State) (grant : Option (Nat × Nat)) (ep : Endpoint) : State :=
  ⟨ep, s.hears grant ep⟩

def step (s : State) : Event → Option State
  | .receive a qp wire => some (s.moves (s.ep.byteGrant a wire) (s.ep.recvDone a qp wire).1)
  | .accept a thread => some (s.moves none (s.ep.acceptClient a thread).1)
  | .pump id e => (s.ep.pump id e).map fun r => s.moves none r.1

def Held (s : State) : Prop :=
  ∀ id g, s.ep.gauge id = some g →
    (g.waiting.isSome = true → g.acked ≤ g.sent) ∧ g.posted ≤ s.told id + g.window

def honest (s : State) : Event → Bool
  | .receive a _ wire => (s.ep.byteGrant a wire).all fun (id, n) =>
      (s.ep.gauge id).all fun g => decide (n ≤ g.posted)
  | .pump id (.post _ stalled _) => (s.ep.gauge id).all fun g => g.waiting.all fun len =>
      (!stalled || hasRoom g.sent g.acked g.window len) && decide (g.posted + len < 2 ^ 64)
  | _ => true

structure Fair (bufSize told : Nat) (g : Gauge) : Prop where
  acked : g.acked = told
  below : told ≤ g.posted
  window : g.posted ≤ told + g.window
  word : g.posted < 2 ^ 64
  frame : ∀ len ∈ g.waiting, len ≤ bufSize ∧ g.accounting = 0
  least : bufSize ≤ g.window
  most : g.window ≤ windowBytesMax

theorem Fair.regauged {settings : Settings} {s : State} {grant : Option (Nat × Nat)} {ep : Endpoint}
    {id : Nat} {g' : Gauge}
    (fair : ∀ g, s.ep.gauge id = some g → Fair settings.geometry.bufSize (s.told id) g)
    (truthful : ∀ n g, grant = some (id, n) → s.ep.gauge id = some g → n ≤ g.posted)
    (moved : Regauged settings grant id (s.ep.gauge id) (ep.gauge id))
    (after : ep.gauge id = some g') : Fair settings.geometry.bufSize (s.hears grant ep id) g' := by
  unfold State.hears
  rw [after] at moved ⊢
  cases before : s.ep.gauge id with
  | none =>
    rw [before] at moved
    cases moved with
    | made least most =>
      exact ⟨rfl, Nat.le_refl 0, Nat.zero_le _, Nat.two_pow_pos 64, by simp, least, most⟩
  | some g =>
    have old := fair g before
    rw [before] at moved
    cases moved with
    | same unnamed =>
      dsimp only
      split
      · rename_i named n
        rwa [if_neg fun same => unnamed n rfl (by rw [same])]
      · exact old
    | granted named =>
      have bound := truthful _ g named before
      rw [named]
      dsimp only
      rw [if_pos rfl, applyGrant_eq_max, Nat.min_eq_left bound, old.acked]
      have below := old.below
      have window := old.window
      refine ⟨rfl, ?_, ?_, old.word, old.frame, old.least, old.most⟩
      · change max _ _ ≤ g.posted
        omega
      · change g.posted ≤ max _ _ + g.window
        omega

theorem Fair.pump {layout : Geometry} {told : Nat} {e : PumpEvent}
    {out : Option (Nat × List UInt8)} (fair : Fair layout.bufSize told s.gauge)
    (moved : PumpStep layout s e s' out)
    (gated : ∀ negotiated stalled ok len, e = .post negotiated stalled ok →
      s.gauge.waiting = some len → negotiated = true ∧
          (stalled = true → hasRoom s.gauge.sent s.gauge.acked s.gauge.window len = true) ∧
          s.gauge.posted + len < 2 ^ 64) :
    Fair layout.bufSize told s'.gauge := by
  have acked := fair.acked
  have below := fair.below
  have window := fair.window
  have word := fair.word
  have least := fair.least
  have most := fair.most
  unfold Gauge.posted at below window word
  cases moved with
  | stop thread | eof thread | drop thread | abort thread | fail thread =>
    simp only [Stream.gauge, thread] at acked below window word
    exact ⟨acked, below, window, word, by simp [Stream.gauge], least, most⟩
  | read thread uds nonempty fits =>
    simp only [Stream.gauge, thread] at acked below window word
    refine ⟨acked, below, window, word, ?_, least, most⟩
    intro len waiting
    simp only [Stream.gauge, mem_def, Option.some.injEq] at waiting
    unfold epTxMaxPayload epMaxPayload at fits
    exact ⟨by omega, rfl⟩
  | @post sendSyn negotiated stalled qp len wire thread gate =>
    have waiting : s.gauge.waiting = some len := by simp [Stream.gauge, thread]
    obtain ⟨negotiates, valve, room⟩ := gated _ _ _ len rfl waiting
    obtain ⟨fits, settled⟩ := fair.frame len waiting
    have open_ : hasRoom s.gauge.sent s.gauge.acked s.gauge.window len = true :=
      (gate negotiates).elim id valve
    unfold Gauge.posted at room
    rw [settled, Nat.add_zero] at below window word room
    have bytes : s.gauge.sent = s.gauge.acked ∨
        s.gauge.sent - s.gauge.acked + len ≤ s.gauge.window := by
      refine (hasRoom_iff (by omega) word ?_).mp open_
      omega
    have sent : s.gauge.sent = s.txBytes := rfl
    have width : s.gauge.window = s.windowBytes := rfl
    refine ⟨acked, ?_, ?_, room, by simp [Stream.gauge], least, most⟩
    · change told ≤ s.txBytes + len
      omega
    · change s.txBytes + len ≤ told + s.windowBytes
      omega
  | @account sendSyn len thread =>
    have accounting : s.gauge.accounting = len := by simp [Stream.gauge, thread]
    have counted : wrap64 (s.txBytes + len) = s.gauge.sent + s.gauge.accounting := by
      rw [accounting]
      exact wrap64_of_lt (accounting ▸ word)
    refine ⟨acked, ?_, ?_, ?_, by simp [Stream.gauge], least, most⟩
    · change told ≤ wrap64 (s.txBytes + len) + 0
      omega
    · change wrap64 (s.txBytes + len) + 0 ≤ told + s.gauge.window
      omega
    · change wrap64 (s.txBytes + len) + 0 < 2 ^ 64
      omega

structure Sound (s : State) : Prop where
  negotiated : s.ep.qps.windowNegotiated = true
  fair : ∀ id g, s.ep.gauge id = some g → Fair s.ep.geometry.bufSize (s.told id) g

theorem Sound.held {s : State} (sound : Sound s) : Held s := by
  intro id g found
  have fair := sound.fair id g found
  refine ⟨fun waiting => ?_, fair.window⟩
  obtain ⟨len, waits⟩ := isSome_iff_exists.mp waiting
  have settled := (fair.frame len waits).2
  have below := fair.below
  unfold Gauge.posted at below
  rwa [settled, ← fair.acked] at below

theorem Sound.start {ep : Endpoint} (negotiated : ep.qps.windowNegotiated = true)
    (unused : ∀ id, ep.streams id = none) : Sound ⟨ep, fun _ => 0⟩ where
  negotiated := negotiated
  fair id g found := by simp [Endpoint.gauge, unused] at found

theorem Sound.pump {s : State} (sound : Sound s) {id : Nat} {e : PumpEvent}
    {r : Endpoint × Option (Nat × List UInt8)} (allowed : honest s (.pump id e) = true)
    (moved : s.ep.pump id e = some r) : Sound (s.moves none r.1) := by
  obtain ⟨stream, stream', found, stepped, stored, touches⟩ := pump_sound moved
  have counts := pump_counts moved
  have settings : r.1.geometry = s.ep.geometry := congrArg Settings.geometry touches.settings
  have before : s.ep.gauge id = some stream.gauge := by simp [Endpoint.gauge, found]
  have after : r.1.gauge id = some stream'.gauge := by simp [Endpoint.gauge, stored]
  refine ⟨counts.windowNegotiated.trans sound.negotiated, fun other g present => ?_⟩
  change Fair r.1.geometry.bufSize (s.hears none r.1 other) g
  rw [settings]
  rcases eq_or_ne other id with rfl | named
  · cases after.symm.trans present
    have told : s.hears none r.1 other = s.told other := by
      simp only [State.hears, before, after]
    rw [told]
    refine (sound.fair other _ before).pump stepped ?_
    rintro negotiated stalled ok len rfl waiting
    simp only [honest, before, waiting, all_some, Bool.and_eq_true, Bool.or_eq_true,
      Bool.not_eq_true', decide_eq_true_eq] at allowed
    refine ⟨?_, fun valve => ?_, allowed.2⟩
    · simp only [Endpoint.pump, ite_none_right_eq_some] at moved
      exact moved.1.trans sound.negotiated
    · exact allowed.1.resolve_left (by simp [valve])
  · have same := gauge_others touches named
    have told : s.hears none r.1 other = s.told other := by
      simp only [State.hears, same, same.symm.trans present]
    rw [told]
    exact sound.fair other g (same.symm.trans present)

theorem Sound.step {s s' : State} {e : Event} (sound : Sound s) (allowed : honest s e = true)
    (moved : step s e = some s') : Sound s' := by
  cases e with
  | receive a qp wire =>
    cases moved
    obtain ⟨settings, negotiated⟩ := recvDone_setup a s.ep qp wire
    refine ⟨negotiated.trans sound.negotiated, fun id g present => ?_⟩
    have layout : (s.ep.recvDone a qp wire).1.geometry = s.ep.geometry :=
      congrArg Settings.geometry settings
    change Fair (s.ep.recvDone a qp wire).1.geometry.bufSize _ g
    rw [layout]
    refine Fair.regauged (sound.fair id) ?_ (recvDone_gauge a s.ep qp wire id) present
    intro n before grant found
    rw [honest, grant, all_some] at allowed
    simpa [found] using allowed
  | accept a thread =>
    cases moved
    have accepted := fun id => acceptClient_gauge a thread s.ep id
    have layout : (s.ep.acceptClient a thread).1.geometry = s.ep.geometry :=
      congrArg Settings.geometry (accepted 0).2
    have qps := acceptClient_qps a thread s.ep
    refine ⟨(congrArg Qps.windowNegotiated qps).trans sound.negotiated, fun id g present => ?_⟩
    change Fair (s.ep.acceptClient a thread).1.geometry.bufSize _ g
    rw [layout]
    exact Fair.regauged (sound.fair id) (fun n before grant => by cases grant) (accepted id).1
      present
  | pump id e =>
    obtain ⟨r, pumped, rfl⟩ := map_eq_some_iff.mp moved
    exact sound.pump allowed pumped

/-- At the gate no more bytes are acknowledged than were sent, and the window is kept, in every run
in which no grant names bytes that were not posted and no thread posts past a closed gate. -/
theorem held_throughout {ep : Endpoint} (negotiated : ep.qps.windowNegotiated = true)
    (unused : ∀ id, ep.streams id = none) {events : List Event}
    (admitted : Along step (fun s e => honest s e = true) ⟨ep, fun _ => 0⟩ events) :
    Throughout step Held ⟨ep, fun _ => 0⟩ events :=
  throughout_of_along (fun _ _ _ sound allowed moved => sound.step allowed moved)
    (fun _ sound => sound.held) (Sound.start negotiated unused) admitted

def tinySettings : Settings where
  geometry := Geometry.resolve 68 1
  sizes := ⟨0, 68, 16, 0, 0⟩
  size := by decide
  pool := by decide

def tinyInitiator : Endpoint :=
  { Endpoint.init tinySettings true 1 with
    qps := { Qps.init true 1 16 with
      qp := fun _ => ⟨true, true, true, false, true, false, 0, .active, .init 8⟩
      qpsConnected := 1
      connected := true
      windowNegotiated := true } }

def reads : Event := .pump 1 (.read ⟨fun _ _ => 0, List.replicate 40 0, false, 0, 0⟩ (some 0))

def sends : List Event := [reads, .pump 1 (.post true false true), .pump 1 .account]

def client : Event := .accept ⟨true, true, 0, 0⟩ true

def grants (n : Nat) : Event := .receive answering 0 (creditBytesFrame 1 n)

theorem held_throughout_granted :
    Throughout step Held ⟨tinyInitiator, fun _ => 0⟩ ([client] ++ sends ++ [grants 40, reads]) ∧
      ∃ s, run step ⟨tinyInitiator, fun _ => 0⟩ ([client] ++ sends ++ [grants 40, reads]) = some s ∧
        s.ep.gauge 1 = some ⟨40, 40, 544, some 40, 0⟩ ∧ s.told 1 = 40 := by
  refine ⟨held_throughout rfl (fun _ => rfl) ?_, ?_⟩
  all_goals decide +kernel

/-- A grant of any number becomes the count of acknowledged bytes, though nothing was sent. A grant
that comes before the first frame widens the window by what it names: fourteen frames pass the open
gate, 560 bytes in a window of 544. And a thread that has waited long enough posts past the gate
with no grant at all. -/
theorem grant_not_checked :
    (∃ s, run step ⟨tinyInitiator, fun _ => 0⟩ [client, reads, grants (2 ^ 64 - 1)] = some s ∧
      s.ep.gauge 1 = some ⟨0, 2 ^ 64 - 1, 544, some 40, 0⟩) ∧
    (∃ s, run step ⟨tinyInitiator, fun _ => 0⟩
        ([client, grants 40] ++ (List.replicate 14 sends).flatten) = some s ∧
      s.ep.gauge 1 = some ⟨560, 40, 544, none, 0⟩ ∧ s.told 1 = 0) ∧
    ∃ s, run step ⟨tinyInitiator, fun _ => 0⟩
        ([client] ++ (List.replicate 13 sends).flatten ++ [reads, .pump 1 (.post true true true)]) =
          some s ∧
      s.ep.gauge 1 = some ⟨520, 0, 544, none, 40⟩ ∧ s.told 1 = 0 := by
  decide +kernel

end Gate

end Urp
