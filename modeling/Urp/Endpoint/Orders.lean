import Urp.Endpoint.Inversion

/-!
# Arrival orders of a stream

The frames of a stream reach an endpoint in any order, each with its own answers of the kernel.
-/

namespace Urp

open Urp.Lib Urp.Reorder Urp.Frame Urp.Window Urp.Rx List Option
open Urp.Stream (SendResult Socket)

/-- A frame in `urp_recv_done`. -/
structure Completion where
  answers : Answers
  qp : Nat
  wire : List UInt8

namespace Endpoint

def receiveAll (ep : Endpoint) (arrivals : List Completion) : Endpoint :=
  arrivals.foldl (fun ep c => (ep.recvDone c.answers c.qp c.wire).1) ep

theorem receiveAll_concat (ep : Endpoint) (arrivals : List Completion) (c : Completion) :
    ep.receiveAll (arrivals ++ [c]) =
      ((ep.receiveAll arrivals).recvDone c.answers c.qp c.wire).1 := by
  simp [receiveAll]

/-! ## What no frame changes -/

theorem settings_streamCreate (a : Creation) (ep : Endpoint) (id : Nat) :
    (ep.streamCreate a id).1.settings = ep.settings := by
  unfold streamCreate nextId
  by_cases own : id = 0
  · simp only [own, if_true]
    split
    · split
      · rfl
      · split <;> rfl
    · rfl
  · simp only [own, if_false]
    split
    · split
      · rfl
      · split <;> rfl
    · rfl

theorem settings_rxSyn (a : Creation) (ep : Endpoint) (id : Nat) :
    (ep.rxSyn a id).1.settings = ep.settings := by
  unfold rxSyn
  split
  · simp only
    split <;> rfl
  · have kept := settings_streamCreate a ep id
    split <;> rename_i made <;> rw [made] at kept <;> exact kept

theorem settings_rxFind (a : Creation) (ep : Endpoint) (id : Nat) (flags : UInt8) :
    (ep.rxFind a id flags).1.settings = ep.settings := by
  unfold rxFind
  split
  · exact settings_rxSyn a ep id
  · split
    · rfl
    · split
      · rfl
      · exact settings_rxSyn a ep id

theorem settings_rxDispatch (a : Creation) (ep : Endpoint) (id : Nat) (flags : UInt8) :
    (ep.rxDispatch a id flags).1.settings = ep.settings := by
  have kept := settings_rxFind a ep id flags
  rw [rxDispatch]
  split <;> rename_i found <;> rw [found] at kept
  · exact kept
  · split
    · exact kept
    · split <;> exact kept

theorem settings_recvDone (a : Answers) (ep : Endpoint) (qp : Nat) (wire : List UInt8) :
    (ep.recvDone a qp wire).1.settings = ep.settings := by
  unfold recvDone
  split
  · simp only
    split
    · rename_i dec _
      have kept := settings_rxDispatch a.creation ep dec.streamId dec.flags
      unfold receiveStream
      split
      · rename_i ep' s dispatched
        rw [dispatched] at kept
        simp only
        generalize (if ep'.needsBackend s = true then openBackend a s else s) = opened
        split
        · split
          · split <;> exact kept
          · exact kept
        · exact kept
      · rename_i ep' _ _ dispatched
        rwa [dispatched] at kept
    · unfold receiveControl
      split
      · split <;> rfl
      · split <;> rfl
    · rfl
  · rfl

theorem settings_receiveAll (ep : Endpoint) (arrivals : List Completion) :
    (ep.receiveAll arrivals).settings = ep.settings := by
  induction arrivals generalizing ep with
  | nil => rfl
  | cons c rest ih => exact (ih _).trans (settings_recvDone c.answers ep c.qp c.wire)

/-! ## The stream after one frame -/

def handled (a : Answers) (ep : Endpoint) (s : Stream) (slot : Memory) (dec : RxDecoded) : Stream :=
  if (ep.withBackend a s).udsSock.isSome then
    (receiveData a.kmalloc a.results ep.geometry (a.known && ep.qps.windowNegotiated)
      (ep.withBackend a s) slot dec).1
  else ep.withBackend a s

variable {wire : List UInt8}

section Handled

variable {ep : Endpoint} {id : Nat} {s : Stream} {a : Answers} {slot : Memory} {dec : RxDecoded}

theorem receiveStream_dispatched (qp : Nat) (names : dec.streamId = id)
    (found : ep.rxDispatch a.creation id dec.flags = (ep.put id (some s), .ok (some s))) :
    Touches id ep (ep.receiveStream a qp slot dec).1 ∧
      (ep.receiveStream a qp slot dec).1.streams id = some (ep.handled a s slot dec) := by
  have backend : (if (ep.put id (some s)).needsBackend s then openBackend a s else s) =
      ep.withBackend a s := rfl
  unfold receiveStream handled
  simp only [names, found, backend, put_put, put_qps, put_geometry]
  have touches := fun s => touches_put (Touches.refl id ep) (some s)
  split
  · split
    · split
      · exact ⟨touches _, put_streams_self ..⟩
      · exact ⟨(grantFrames_touches (touches _) qp).1, put_streams_self ..⟩
    · exact ⟨touches _, put_streams_self ..⟩
  · exact ⟨touches _, put_streams_self ..⟩

theorem receiveStream_refused {e : Errno} (qp : Nat) (names : dec.streamId = id)
    (refused : ep.rxDispatch a.creation id dec.flags = (ep, .error e)) :
    (ep.receiveStream a qp slot dec).1 = ep := by
  unfold receiveStream
  simp only [names, refused]

theorem recvDone_deliver (qp : Nat) (length : wire.length ≤ ep.geometry.bufSize)
    (classified : classifyFrame wire.length (landing ep.geometry a.mem wire 0) =
      (.deliverStream, dec)) :
    ep.recvDone a qp wire = ep.receiveStream a qp (landing ep.geometry a.mem wire) dec := by
  simp only [recvDone, if_pos length, classified]

end Handled

theorem pumpStart_fields (s : Stream) :
    (Tx.pumpStart s).state = s.state ∧ (Tx.pumpStart s).reorder = s.reorder ∧
      (Tx.pumpStart s).udsSock = s.udsSock := by
  unfold Tx.pumpStart
  split <;> exact ⟨rfl, rfl, rfl⟩

theorem withBackend_fields (a : Answers) (ep : Endpoint) (s : Stream) :
    (ep.withBackend a s).state = s.state ∧ (ep.withBackend a s).reorder = s.reorder ∧
      ((ep.withBackend a s).udsSock = s.udsSock ∨
        s.udsSock = none ∧ (ep.withBackend a s).udsSock = some Socket.fresh) := by
  unfold withBackend openBackend needsBackend
  cases socket : s.udsSock with
  | some uds => simp [socket]
  | none =>
    simp only [isNone_none, Bool.true_and, isSome_none, Bool.false_eq_true, if_false]
    split
    · split
      · split
        · obtain ⟨state, reorder, opened⟩ := pumpStart_fields { s with udsSock := some .fresh }
          exact ⟨state, reorder, .inr ⟨trivial, opened⟩⟩
        · exact ⟨rfl, rfl, .inr ⟨trivial, rfl⟩⟩
      · exact ⟨rfl, rfl, .inl socket⟩
    · exact ⟨rfl, rfl, .inl socket⟩

theorem state_handled (a : Answers) (ep : Endpoint) (s : Stream) (slot : Memory)
    (dec : RxDecoded) : (ep.handled a s slot dec).state = s.state := by
  unfold handled
  split
  · rw [(receiveData_fields _ _ _ _ _ slot dec rfl).1]
    exact (untouched_deliverFrame ..).state.trans (withBackend_fields a ep s).1
  · exact (withBackend_fields a ep s).1

theorem recvDone_dispatched {ep : Endpoint} {id : Nat} {syn : Bool}
    (frame : DataFrame id syn wire) (id_pos : id ≠ 0) (word : id < 2 ^ 32)
    (length : wire.length ≤ ep.geometry.bufSize) (a : Answers) (qp : Nat) :
    (Dispatched a.creation ep id syn none ∧ (ep.recvDone a qp wire).1 = ep) ∨
      ∃ s dec, Dispatched a.creation ep id syn (some s) ∧
        classifyFrame wire.length (landing ep.geometry a.mem wire 0) = (.deliverStream, dec) ∧
        Touches id ep (ep.recvDone a qp wire).1 ∧ (ep.recvDone a qp wire).1.streams id =
          some (ep.handled a s (landing ep.geometry a.mem wire) dec) := by
  obtain ⟨stamped, dec, classified, names, flags⟩ := frame.classify id_pos word length a.mem
  rw [recvDone_deliver qp length classified]
  rcases rxDispatch_data a.creation ep syn stamped id_pos with
    ⟨s, dispatched, found⟩ | ⟨e, dispatched, refused⟩
  · rw [← flags] at found
    obtain ⟨touches, stored⟩ := receiveStream_dispatched qp names found
    exact .inr ⟨s, dec, dispatched, classified, touches, stored⟩
  · rw [← flags] at refused
    exact .inl ⟨dispatched, receiveStream_refused qp names refused⟩

/-! ## The state that an order leaves -/

/-- What the frame `k` makes of the state of its stream: any first frame makes the stream, and
only a SYN that meets a stream acts on it. -/
def stateAfter (state : Option Stream.State) (k : Nat) : Stream.State :=
  match state with
  | none => .synReceived
  | some state => if k = 0 then (Stream.nextState state .rxSyn).next else state

def Opens (ep : Endpoint) (id : Nat) (frames : List Payload) (f : Nat → Completion) : Prop :=
  ∀ k < frames.length, Carries id frames k (f k).wire ∧ (f k).wire.length ≤ ep.geometry.bufSize ∧
    (f k).answers.creation.record = true ∧ (f k).answers.creation.buffer = true

def stateOf (ep : Endpoint) (id : Nat) : Option Stream.State := (ep.streams id).map Stream.state

section Opening

variable {ep : Endpoint} {id : Nat} {frames : List Payload} {f : Nat → Completion}

theorem Opens.step (opens : Opens ep id frames f) (id_pos : id ≠ 0) (word : id < 2 ^ 32) {k : Nat}
    (bound : k < frames.length) :
    stateOf (ep.recvDone (f k).answers (f k).qp (f k).wire).1 id =
        some (stateAfter (ep.stateOf id) k) ∧
      Opens (ep.recvDone (f k).answers (f k).qp (f k).wire).1 id frames f := by
  obtain ⟨carries, length, record, buffer⟩ := opens k bound
  rcases recvDone_dispatched (dataFrame_of_carries carries) id_pos word length (f k).answers
    (f k).qp with ⟨dispatched, same⟩ | ⟨s, dec, dispatched, -, touches, stored⟩
  · rw [same]
    refine ⟨?_, opens⟩
    cases dispatched with
    | rejected found greets closing =>
      rename_i s
      have start : k = 0 := of_decide_eq_true greets
      have kept : (Stream.nextState s.state .rxSyn).next = s.state := by
        revert closing
        cases s.state <;> decide
      simp [stateOf, found, stateAfter, start, kept]
    | unmade absent failed => exact absurd ⟨record, buffer⟩ failed
  · constructor
    · have known : ep.stateOf id = (ep.streams id).map Stream.state := rfl
      rw [stateOf, stored, map_some, state_handled, known]
      cases dispatched with
      | known found plain =>
        have later : k ≠ 0 := of_decide_eq_false plain
        simp [found, stateAfter, later]
      | greeted found greets accepted =>
        have start : k = 0 := of_decide_eq_true greets
        simp [found, stateAfter, start]
      | made absent => simp [absent, stateAfter, peerStream]
    · intro j hj
      have geometry : (ep.recvDone (f k).answers (f k).qp (f k).wire).1.geometry = ep.geometry :=
        congrArg Settings.geometry touches.settings
      rw [geometry]
      exact opens j hj

variable {order : List Nat}

theorem Opens.run (opens : Opens ep id frames f) (id_pos : id ≠ 0) (word : id < 2 ^ 32)
    (bound : ∀ k ∈ order, k < frames.length) :
    (ep.receiveAll (order.map f)).stateOf id =
      order.foldl (fun state k => some (stateAfter state k)) (ep.stateOf id) := by
  induction order generalizing ep with
  | nil => rfl
  | cons k rest ih =>
    obtain ⟨state, opens'⟩ := opens.step id_pos word (bound k mem_cons_self)
    have later := ih opens' fun j hj => bound j (mem_cons_of_mem k hj)
    rwa [state] at later

theorem foldl_stateAfter {rest : List Nat} {state : Stream.State} (once : rest.Nodup)
    (handshake : state = .synReceived ∨ state = .established) :
    rest.foldl (fun state k => some (stateAfter state k)) (some state) =
      some (if 0 ∈ rest then .established else state) := by
  induction rest generalizing state with
  | nil => simp
  | cons k rest ih =>
    have absent := (nodup_cons.mp once).1
    rw [foldl_cons]
    rcases eq_or_ne k 0 with rfl | start
    · have next : stateAfter (some state) 0 = .established := by
        rcases handshake with rfl | rfl <;> rfl
      rw [next, ih (nodup_cons.mp once).2 (.inr rfl)]
      simp [absent]
    · have next : stateAfter (some state) k = state := by simp [stateAfter, start]
      rw [next, ih (nodup_cons.mp once).2 handshake]
      simp [Ne.symm start]

theorem Opens.final (opens : Opens ep id frames f) (id_pos : id ≠ 0) (word : id < 2 ^ 32)
    (absent : ep.streams id = none) (perm : order.Perm (List.range frames.length)) :
    (ep.receiveAll (order.map f)).stateOf id =
      order.head?.map fun k => if k = 0 then .synReceived else .established := by
  have once : order.Nodup := perm.nodup_iff.mpr nodup_range
  have members : ∀ k, k ∈ order ↔ k < frames.length := fun k => by
    rw [perm.mem_iff, mem_range]
  rw [opens.run id_pos word fun k hk => (members k).mp hk]
  have unknown : ep.stateOf id = none := by simp [stateOf, absent]
  cases order with
  | nil => exact unknown
  | cons k rest =>
    have made : stateAfter none k = .synReceived := rfl
    rw [foldl_cons, unknown, made,
      foldl_stateAfter (nodup_cons.mp once).2 (.inl rfl), List.head?_cons, map_some]
    rcases eq_or_ne k 0 with rfl | start
    · simp [(nodup_cons.mp once).1]
    · have zero : 0 ∈ k :: rest := (members 0).mpr (by
        have bound := (members k).mp mem_cons_self
        omega)
      have later : 0 ∈ rest := (mem_cons.mp zero).resolve_left (Ne.symm start)
      simp [start, later]

/-- Two orders leave the stream in the same state, with the same reactions to a close, exactly if
the SYN comes first in both or in neither. -/
theorem orders_agree_iff {g : Nat → Completion} (id_pos : id ≠ 0) (word : id < 2 ^ 32)
    (absent : ep.streams id = none) (opens : Opens ep id frames f) (opens' : Opens ep id frames g)
    {order order' : List Nat} (perm : order.Perm (List.range frames.length))
    (perm' : order'.Perm (List.range frames.length)) :
    ((ep.receiveAll (order.map f)).stateOf id = (ep.receiveAll (order'.map g)).stateOf id ∧
      ∀ close ∈ [Stream.Event.txFin, Stream.Event.rxFin],
        ((ep.receiveAll (order.map f)).stateOf id).map (fun s => (Stream.nextState s close).next) =
          ((ep.receiveAll (order'.map g)).stateOf id).map
            fun s => (Stream.nextState s close).next) ↔
      (order.head? = some 0 ↔ order'.head? = some 0) := by
  rw [opens.final id_pos word absent perm, opens'.final id_pos word absent perm']
  have lengths : order.length = order'.length := perm.length_eq.trans perm'.length_eq.symm
  cases order with
  | nil =>
    obtain rfl : order' = [] := length_eq_zero_iff.mp lengths.symm
    simp
  | cons k rest =>
    cases order' with
    | nil => simp at lengths
    | cons k' rest' =>
      by_cases start : k = 0 <;> by_cases start' : k' = 0 <;> simp [start, start', Stream.nextState]

end Opening

/-- The frame `k` of the stream 1, with one byte, as its sender makes it without a time stamp. -/
def byteFrame (flags : UInt8) (k : Nat) (b : UInt8) : Completion :=
  ⟨answering, 0, encode 1 k typeData flags 0 1 ++ [b]⟩

def pairFrames (k : Nat) : Completion := byteFrame (dataFlags (decide (k = 0)) false) k 7

def smallAcceptor : Endpoint := init smallSettings false 1

theorem opens_pairFrames : Opens smallAcceptor 1 [[7], [7]] pairFrames := by
  intro k bound
  refine ⟨⟨false, [7], [], rfl, ?_⟩, by decide +revert, rfl, rfl⟩
  have cases : k = 0 ∨ k = 1 := by
    simp at bound
    omega
  rcases cases with rfl | rfl <;> rfl

theorem orders_agree_iff_two_frames : (smallAcceptor.receiveAll ([0, 1].map pairFrames)).stateOf 1 ≠
      (smallAcceptor.receiveAll ([1, 0].map pairFrames)).stateOf 1 := by
  have first : [0, 1].Perm (List.range [[7], [(7 : UInt8)]].length) := by decide
  have overtaken : [1, 0].Perm (List.range [[7], [(7 : UInt8)]].length) := by decide
  have agree := orders_agree_iff (by decide) (by decide) rfl opens_pairFrames opens_pairFrames first
    overtaken
  intro same
  have both := agree.mp ⟨same, fun close _ => by rw [same]⟩
  exact absurd both (by decide)

/-- A SYN that is overtaken establishes the stream; one that comes first does not, and the stream
then never leaves its state on a FIN of either side. -/
theorem overtaken_syn_establishes : let first := smallAcceptor.receiveAll ([0, 1].map pairFrames)
    let overtaken := smallAcceptor.receiveAll ([1, 0].map pairFrames)
    first.stateOf 1 = some .synReceived ∧ overtaken.stateOf 1 = some .established ∧
      (Stream.nextState .synReceived .txFin).next = .synReceived ∧
      (Stream.nextState .established .txFin).next = .finWait ∧
      (Stream.nextState .synReceived .rxFin).next = .synReceived ∧
      (Stream.nextState .established .rxFin).next = .closeWait := by
  decide +kernel

end Endpoint

end Urp
