import Urp.Endpoint.Streams
import Urp.Tx.Sending

/-!
# What the threads of an endpoint can do to its table
-/

namespace Urp

open Urp.Lib Urp.Frame Urp.Window Urp.Rx Urp.Tx Option
open Urp.Stream (SendResult Socket)

/-! ## Frames on the wire -/

def DataFrame (id : Nat) (syn : Bool) (wire : List UInt8) : Prop :=
  ∃ seq stamped data rest,
    wire = encode id seq typeData (dataFlags syn stamped) 0 data.length ++ (data ++ rest)

def ControlFrame (id : Nat) (wire : List UInt8) : Prop :=
  ∃ flags credits data, wire = encode id 0 typeControl flags credits data.length ++ (data ++ [])

section Frames

variable {id : Nat} {syn : Bool} {wire : List UInt8}

theorem dataFrame_of_carries {frames : List Reorder.Payload} {seq : Nat}
    (carries : Carries id frames seq wire) : DataFrame id (decide (seq = 0)) wire := by
  obtain ⟨stamped, data, rest, same, -⟩ := carries
  exact ⟨seq, stamped, data, rest, same⟩

theorem DataFrame.type (frame : DataFrame id syn wire) : wireType wire = typeData := by
  obtain ⟨seq, stamped, data, rest, rfl⟩ := frame
  exact decodeType_encode (wire_points id seq _ _ _ _ _)

theorem DataFrame.names (frame : DataFrame id syn wire) (word : id < 2 ^ 32) :
    wireId wire = id := by
  obtain ⟨seq, stamped, data, rest, rfl⟩ := frame
  exact decodeStreamId_encode (wire_points id seq _ _ _ _ _) word

theorem DataFrame.classify (frame : DataFrame id syn wire) (id_pos : id ≠ 0) (word : id < 2 ^ 32)
    {g : Geometry} (length : wire.length ≤ g.bufSize) (mem : Memory) :
    ∃ stamped dec, classifyFrame wire.length (landing g mem wire 0) = (.deliverStream, dec) ∧
      dec.streamId = id ∧ dec.flags = dataFlags syn stamped := by
  obtain ⟨seq, stamped, data, rest, rfl⟩ := frame
  have classified := classifyFrame_landing mem word (by decide) length
  rw [if_neg (by decide), if_neg id_pos] at classified
  exact ⟨stamped, _, classified, rfl, rfl⟩

theorem ControlFrame.type (frame : ControlFrame id wire) : wireType wire = typeControl := by
  obtain ⟨flags, credits, data, rfl⟩ := frame
  exact decodeType_encode (wire_points id 0 _ _ _ _ _)

theorem ControlFrame.names (frame : ControlFrame id wire) (word : id < 2 ^ 32) :
    wireId wire = id := by
  obtain ⟨flags, credits, data, rfl⟩ := frame
  exact decodeStreamId_encode (wire_points id 0 _ _ _ _ _) word

theorem ControlFrame.classify (frame : ControlFrame id wire) (word : id < 2 ^ 32) {g : Geometry}
    (length : wire.length ≤ g.bufSize) (mem : Memory) :
    ∃ dec, classifyFrame wire.length (landing g mem wire 0) = (.credit, dec) ∧
      dec.streamId = id := by
  obtain ⟨flags, credits, data, rfl⟩ := frame
  have classified := classifyFrame_landing mem word (by decide) length
  exact ⟨_, classified, rfl⟩

theorem controlFrame_creditBytes (id n : Nat) : ControlFrame id (creditBytesFrame id n) :=
  ⟨_, _, _, creditBytesFrame_eq id n⟩

theorem controlFrame_credit (id n : Nat) : ControlFrame id (creditFrame id n) :=
  ⟨ctrlFlagCredit, n, [], by simp [creditFrame]⟩

end Frames

namespace Endpoint

/-! ## The parts of an endpoint that a thread leaves alone -/

structure Touches (id : Nat) (ep ep' : Endpoint) : Prop where
  settings : ep'.settings = ep.settings
  connectPath : ep'.connectPath = ep.connectPath
  isInitiator : ep'.qps.isInitiator = ep.qps.isInitiator
  nextStreamId : ep'.nextStreamId = ep.nextStreamId
  others : ∀ k, k ≠ id → ep'.streams k = ep.streams k

structure SameSetup (ep ep' : Endpoint) : Prop where
  settings : ep'.settings = ep.settings
  connectPath : ep'.connectPath = ep.connectPath
  isInitiator : ep'.qps.isInitiator = ep.qps.isInitiator

theorem SameSetup.refl (ep : Endpoint) : SameSetup ep ep := ⟨rfl, rfl, rfl⟩

variable {id : Nat} {ep ep' : Endpoint}

theorem Touches.setup (touches : Touches id ep ep') : SameSetup ep ep' :=
  { touches with }

theorem Touches.refl (id : Nat) (ep : Endpoint) : Touches id ep ep :=
  ⟨rfl, rfl, rfl, rfl, fun _ _ => rfl⟩

@[simp] theorem put_streams (ep : Endpoint) (id : Nat) (s : Option Stream) :
    (ep.put id s).streams = Function.update ep.streams id s := rfl

theorem put_streams_self (ep : Endpoint) (id : Nat) (s : Option Stream) :
    (ep.put id s).streams id = s := by simp

@[simp] theorem put_qps (ep : Endpoint) (id : Nat) (s : Option Stream) :
    (ep.put id s).qps = ep.qps := rfl

@[simp] theorem put_geometry (ep : Endpoint) (id : Nat) (s : Option Stream) :
    (ep.put id s).geometry = ep.geometry := rfl

@[simp] theorem put_put (ep : Endpoint) (id : Nat) (s s' : Option Stream) :
    (ep.put id s).put id s' = ep.put id s' := by
  simp [put, Function.update_idem]

theorem put_self {s : Option Stream} (found : ep.streams id = s) : ep.put id s = ep := by
  subst found
  simp [put]

theorem touches_put (touches : Touches id ep ep')
    (s : Option Stream) : Touches id ep (ep'.put id s) where
  __ := touches
  others k other := by rw [put_streams, Function.update_of_ne other, touches.others k other]

theorem touches_qps (touches : Touches id ep ep') {q : Qps}
    (same : q.isInitiator = ep'.qps.isInitiator) : Touches id ep { ep' with qps := q } where
  __ := touches
  isInitiator := same.trans touches.isInitiator

/-! ## The accept thread -/

def clientStream (z : Sizes) (id : Nat) : Stream :=
  pumpStart { Stream.blank z id with udsSock := some Socket.fresh }

inductive Accepted (a : Creation) (ep : Endpoint) : Endpoint × Option Nat → Prop where
  | served (absent : ep.streams ep.nextStreamId = none) :
    Accepted a ep ({ ep with nextStreamId := wrap32 (ep.nextStreamId + 2) }.put ep.nextStreamId
        (some (clientStream (ep.sizes a) ep.nextStreamId)), some ep.nextStreamId)
  | refused {next} (number : next = ep.nextStreamId ∨ next = wrap32 (ep.nextStreamId + 2)) :
    Accepted a ep ({ ep with nextStreamId := next }, none)

theorem acceptClient_sound (a : Creation) (thread : Bool) (ep : Endpoint) :
    Accepted a ep (ep.acceptClient a thread) := by
  unfold acceptClient streamCreate
  by_cases record : a.record = true
  · by_cases buffer : a.buffer = true
    · simp only [record, buffer, if_true, nextId, Stream.create_eq]
      cases found : ep.streams ep.nextStreamId with
      | some s => exact .refused (.inr rfl)
      | none =>
        cases thread with
        | true =>
          simp only [isSome_none, Bool.false_eq_true, if_false, if_true, Stream.blank, put_put]
          exact .served found
        | false =>
          simp only [isSome_none, Bool.false_eq_true, if_false, Stream.blank, put_put]
          have same : { ep with nextStreamId := wrap32 (ep.nextStreamId + 2) }.put ep.nextStreamId
              none = { ep with nextStreamId := wrap32 (ep.nextStreamId + 2) } := put_self found
          rw [same]
          exact .refused (.inr rfl)
    · simp only [record, buffer, if_true, nextId]
      exact .refused (.inr rfl)
  · simp only [record]
    exact .refused (.inl rfl)

/-! ## The receive completion -/

def peerStream (z : Sizes) (id : Nat) : Stream := { Stream.blank z id with state := .synReceived }

inductive Dispatched (a : Creation) (ep : Endpoint) (id : Nat) (syn : Bool) :
    Option Stream → Prop where
  | known {s} (found : ep.streams id = some s) (plain : syn = false) :
    Dispatched a ep id syn (some s)
  | greeted {s} (found : ep.streams id = some s) (greets : syn = true)
    (accepted : (Stream.nextState s.state .rxSyn).accepted = true) :
    Dispatched a ep id syn (some { s with state := (Stream.nextState s.state .rxSyn).next })
  | rejected {s} (found : ep.streams id = some s) (greets : syn = true)
    (closing : (Stream.nextState s.state .rxSyn).accepted = false) : Dispatched a ep id syn none
  | made (absent : ep.streams id = none) :
    Dispatched a ep id syn (some (peerStream (ep.sizes a) id))
  | unmade (absent : ep.streams id = none) (failed : ¬(a.record = true ∧ a.buffer = true)) :
    Dispatched a ep id syn none

section Receive

variable {ep : Endpoint} {id : Nat} {syn stamped : Bool}

theorem streamCreate_absent (a : Creation) (absent : ep.streams id = none) (id_pos : id ≠ 0) :
    (∃ e, ep.streamCreate a id = (ep, .error e) ∧ ¬(a.record = true ∧ a.buffer = true)) ∨
      ep.streamCreate a id =
        (ep.put id (some (Stream.blank (ep.sizes a) id)), .ok (Stream.blank (ep.sizes a) id)) := by
  unfold streamCreate
  by_cases record : a.record = true
  · by_cases buffer : a.buffer = true
    · right
      simp [record, buffer, id_pos, Stream.create_eq, absent]
    · left
      simp [record, buffer, id_pos]
  · left
    simp [record]

theorem rxDispatch_data (a : Creation) (ep : Endpoint) (syn stamped : Bool) (id_pos : id ≠ 0) :
    (∃ s, Dispatched a ep id syn (some s) ∧
      ep.rxDispatch a id (dataFlags syn stamped) = (ep.put id (some s), .ok (some s))) ∨
    (∃ e, Dispatched a ep id syn none ∧
      ep.rxDispatch a id (dataFlags syn stamped) = (ep, .error e)) := by
  have greets : (dataFlags syn stamped &&& dataFlagSyn ≠ 0) ↔ syn = true := by
    cases syn <;> cases stamped <;> decide
  have noRst : ¬dataFlags syn stamped &&& dataFlagRst ≠ 0 := by
    cases syn <;> cases stamped <;> decide
  have noFin : ¬dataFlags syn stamped &&& dataFlagFin ≠ 0 := by
    cases syn <;> cases stamped <;> decide
  simp only [rxDispatch, rxFind, greets, if_neg noRst, if_neg noFin]
  cases found : ep.streams id with
  | some s =>
    cases syn with
    | false =>
      left
      exact ⟨s, .known found rfl, by simp [put_self found]⟩
    | true =>
      cases accepted : (Stream.nextState s.state .rxSyn).accepted with
      | true =>
        left
        exact ⟨_, .greeted found rfl accepted, by simp [rxSyn, found, accepted]⟩
      | false =>
        right
        exact ⟨.EEXIST, .rejected found rfl accepted, by simp [rxSyn, found, accepted]⟩
  | none =>
    rcases streamCreate_absent a found id_pos with ⟨e, failed, reason⟩ | created
    · right
      exact ⟨e, .unmade found reason, by cases syn <;> simp [rxSyn, found, failed]⟩
    · left
      exact ⟨_, .made found, by cases syn <;> simp [rxSyn, found, created, peerStream]⟩

def withBackend (a : Answers) (ep : Endpoint) (s : Stream) : Stream :=
  if ep.needsBackend s then openBackend a s else s

inductive Received (a : Answers) (ep : Endpoint) (id : Nat) (syn : Bool) (slot : Memory)
    (dec : RxDecoded) : Endpoint × Option (List UInt8) → Prop where
  | dropped (dispatched : Dispatched a.creation ep id syn none) :
    Received a ep id syn slot dec (ep, none)
  | unopened {s} (dispatched : Dispatched a.creation ep id syn (some s))
    (closed : (withBackend a ep s).udsSock.isSome = false) :
    Received a ep id syn slot dec (ep.put id (some (withBackend a ep s)), none)
  | delivered {s r} (dispatched : Dispatched a.creation ep id syn (some s))
    (opened : (withBackend a ep s).udsSock.isSome = true) (touches : Touches id ep r.1)
    (stored : r.1.streams id = some (receiveData a.kmalloc a.results ep.geometry
      (a.known && ep.qps.windowNegotiated) (withBackend a ep s) slot dec).1)
    (control : ∀ wire ∈ r.2, ControlFrame id wire) : Received a ep id syn slot dec r

theorem grantFrames_touches {ep' : Endpoint} (touches : Touches id ep ep') (qp : Nat) :
    Touches id ep (ep'.grantFrames qp id).1 ∧ (ep'.grantFrames qp id).1.streams = ep'.streams ∧
      ∀ wire ∈ (ep'.grantFrames qp id).2, ControlFrame id wire := by
  refine ⟨touches_qps touches rfl, rfl, ?_⟩
  intro wire emitted
  simp only [grantFrames, mem_def, ite_none_left_eq_some, Option.some.injEq] at emitted
  rw [← emitted.2]
  exact controlFrame_credit id _

theorem receiveStream_sound (a : Answers) (qp : Nat) (slot : Memory) {dec : RxDecoded}
    (id_pos : id ≠ 0) (names : dec.streamId = id) (flags : dec.flags = dataFlags syn stamped) :
    Received a ep id syn slot dec (ep.receiveStream a qp slot dec) := by
  unfold receiveStream
  rw [names, flags]
  rcases rxDispatch_data a.creation ep syn stamped id_pos with
    ⟨s, dispatched, found⟩ | ⟨e, dispatched, refused⟩
  · rw [found]
    have backend : (if (ep.put id (some s)).needsBackend s then openBackend a s else s) =
        withBackend a ep s := rfl
    simp only [backend, put_put, put_qps, put_geometry]
    by_cases opened : (withBackend a ep s).udsSock.isSome = true
    · rw [if_pos opened]
      have touches := touches_put (Touches.refl id ep) (some (receiveData a.kmalloc a.results
        ep.geometry (a.known && ep.qps.windowNegotiated) (withBackend a ep s) slot dec).1)
      by_cases known : a.known = true
      · rw [if_pos known]
        by_cases negotiated : ep.qps.windowNegotiated = true
        · rw [if_pos negotiated]
          refine .delivered dispatched opened touches (by simp) ?_
          intro wire emitted
          obtain ⟨n, -, rfl⟩ := map_eq_some_iff.mp emitted
          exact controlFrame_creditBytes id n
        · rw [if_neg negotiated]
          obtain ⟨touches', streams, control⟩ := grantFrames_touches touches qp
          exact .delivered dispatched opened touches' (by rw [streams]; simp) control
      · rw [if_neg known]
        exact .delivered dispatched opened touches (by simp) (by simp)
    · rw [if_neg opened]
      exact .unopened dispatched (by simpa using opened)
  · rw [refused]
    exact .dropped dispatched

theorem recvDone_data {wire : List UInt8} (frame : DataFrame id syn wire) (id_pos : id ≠ 0)
    (word : id < 2 ^ 32) (a : Answers) (ep : Endpoint) (qp : Nat) :
    (ep.geometry.bufSize < wire.length ∧ ep.recvDone a qp wire = (ep, none)) ∨
      (wire.length ≤ ep.geometry.bufSize ∧
        ∃ dec, classifyFrame wire.length (landing ep.geometry a.mem wire 0) =
            (.deliverStream, dec) ∧
          Received a ep id syn (landing ep.geometry a.mem wire) dec (ep.recvDone a qp wire)) := by
  by_cases length : wire.length ≤ ep.geometry.bufSize
  · right
    obtain ⟨stamped, dec, classified, names, flags⟩ := frame.classify id_pos word length a.mem
    refine ⟨length, dec, classified, ?_⟩
    simp only [recvDone, if_pos length, classified]
    exact receiveStream_sound a qp _ id_pos names flags
  · left
    exact ⟨Nat.lt_of_not_le length, by simp [recvDone, length]⟩

theorem recvDone_control {wire : List UInt8} (frame : ControlFrame id wire) (id_pos : id ≠ 0)
    (word : id < 2 ^ 32) (a : Answers) (ep : Endpoint) (qp : Nat) :
    (ep.recvDone a qp wire).2 = none ∧ ((ep.recvDone a qp wire).1 = ep ∨
        ∃ s dec, ep.streams id = some s ∧ (ep.recvDone a qp wire).1 =
          ep.put id (some (receiveCredit s (landing ep.geometry a.mem wire) dec))) := by
  by_cases length : wire.length ≤ ep.geometry.bufSize
  · obtain ⟨dec, classified, names⟩ := frame.classify word length a.mem
    simp only [recvDone, if_pos length, classified, receiveControl, names, if_neg id_pos]
    cases found : ep.streams id with
    | none => exact ⟨trivial, .inl rfl⟩
    | some s => exact ⟨trivial, .inr ⟨s, dec, rfl, rfl⟩⟩
  · simp [recvDone, length]

end Receive

/-! ## The transmit thread -/

theorem stepThread_sound {e : PumpEvent}
    {out : Option (Nat × List UInt8)} (moved : ep.stepThread id e = some (ep', out)) :
    ∃ s s', ep.streams id = some s ∧ PumpStep ep.geometry s e s' out ∧
      ep' = ep.put id (some s') := by
  simp only [stepThread, bind_eq_some_iff, map_eq_some_iff, Prod.mk.injEq] at moved
  obtain ⟨s, found, ⟨s', out'⟩, stepped, rfl, rfl⟩ := moved
  exact ⟨s, s', found, pumpStep_sound stepped, rfl⟩

theorem pump_sound {e : PumpEvent}
    {r : Endpoint × Option (Nat × List UInt8)} (moved : ep.pump id e = some r) :
    ∃ s s', ep.streams id = some s ∧ PumpStep ep.geometry s e s' r.2 ∧
      r.1.streams id = some s' ∧ Touches id ep r.1 := by
  have plain : ep.stepThread id e = some r → ∃ s s', ep.streams id = some s ∧
      PumpStep ep.geometry s e s' r.2 ∧ r.1.streams id = some s' ∧ Touches id ep r.1 := by
    intro stepped
    obtain ⟨s, s', found, moved, same⟩ := stepThread_sound stepped
    exact ⟨s, s', found, moved, by simp [same], same ▸ touches_put (Touches.refl id ep) _⟩
  cases e with
  | read data qp =>
    simp only [pump, ite_none_right_eq_some] at moved
    obtain ⟨s, s', found, moved, same⟩ := stepThread_sound moved.2
    refine ⟨s, s', found, moved, by simp [same], ?_⟩
    have selected : Touches id ep { ep with qps := ep.qps.selectRoundRobin.1 } :=
      touches_qps (Touches.refl id ep) rfl
    exact same ▸ touches_put selected (some s')
  | post windowNegotiated stalled ok =>
    simp only [pump, ite_none_right_eq_some] at moved
    exact plain moved.2
  | stop | eof | abort | account => exact plain moved

end Endpoint

end Urp
