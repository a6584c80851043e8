import Urp.Proxy.Sound

/-!
# A frame of the stream that comes
-/

namespace Urp.Proxy

open Urp.Lib Urp.Reorder Urp.Frame Urp.Rx Urp.Tx List Function
open Urp.Stream (Socket Phase Pump)

section Step

variable {x : Proxy} {id : Nat}

def backendStream (z : Sizes) (id : Nat) : Stream :=
  pumpStart { Endpoint.peerStream z id with udsSock := some Socket.fresh }

variable {a : Answers}

theorem withBackend_made {ep : Endpoint} (succeed : a.Succeed)
    (role : ep.qps.isInitiator = false) (path : ep.connectPath = true) (z : Sizes) (id : Nat) :
    ep.withBackend a (Endpoint.peerStream z id) = backendStream z id := by
  simp [Endpoint.withBackend, Endpoint.needsBackend, Endpoint.openBackend, Endpoint.peerStream,
    Stream.blank, role, path, succeed.connects, succeed.thread, backendStream]

theorem withBackend_opened {ep : Endpoint} {s : Stream} (a : Answers)
    (opened : s.udsSock.isSome = true) : ep.withBackend a s = s := by
  have some : s.udsSock.isNone = false := by
    simpa [← Option.not_isSome] using opened
  simp [Endpoint.withBackend, Endpoint.needsBackend, some]

theorem opened_blank (z : Sizes) (id : Nat) {state : Stream.State}
    (waiting : state = .synSent ∨ state = .synReceived) :
    Opened (pumpStart { Stream.blank z id with state := state, udsSock := some Socket.fresh }) where
  reorder := by
    have bounds := Window.reorderDepthForWindow_bounds z.window
    refine ⟨_, ?_, ?_, rfl⟩
    · exact Nat.lt_of_lt_of_le (by decide) bounds.1
    · exact bounds.2.trans (by decide)
  udsSock := rfl
  rxBytes := rfl
  state := waiting

theorem opened_backendStream (z : Sizes) (id : Nat) : Opened (backendStream z id) :=
  opened_blank z id (.inr rfl)

inductive Found (x : Proxy) (id : Nat) (side : Side) (k : Nat) (z : Sizes) (s : Stream) : Prop where
  | same {r} (found : x.stream side id = some r) (reorder : s.reorder = r.reorder)
    (udsSock : s.udsSock = r.udsSock) (rxBytes : s.rxBytes = r.rxBytes)
    (state : k ≠ 0 → s.state = r.state) (tx : SameTx r s)
  | made (absent : x.stream side id = none) (role : side = .acceptor)
    (new : s = Endpoint.peerStream z id)

variable {side : Side} {k : Nat}

theorem Sound.dispatch (sound : Sound id x) {a : Creation} {out : Option Stream}
    (pending : k ∈ numbersOf id (x.wire side)) (record : a.record = true) (buffer : a.buffer = true)
    (dispatched : Endpoint.Dispatched a (x.ep side) id (decide (k = 0)) out) :
    ∃ s, out = some s ∧ Found x id side k ((x.ep side).sizes a) s := by
  have flow := (flowAt_peer side).mp (sound.flow side.peer)
  have missing := flow.transit.fresh k (mem_append_right _ pending)
  cases dispatched with
  | @known r found plain =>
    exact ⟨r, rfl, .same found rfl rfl rfl (fun _ => rfl) ⟨rfl, rfl, rfl⟩⟩
  | @greeted r found greets accepted =>
    have first : k = 0 := by simpa using greets
    exact ⟨_, rfl, .same found rfl rfl rfl (fun later => absurd first later) ⟨rfl, rfl, rfl⟩⟩
  | @rejected r found greets closing =>
    have first : k = 0 := by simpa using greets
    rcases flow.handshake r found (first ▸ missing) with waiting | waiting <;>
      simp [waiting, Stream.nextState] at closing
  | made absent =>
    refine ⟨_, rfl, .made absent ?_ rfl⟩
    cases side with
    | acceptor => rfl
    | initiator =>
      have frames : x.read .acceptor id = [] := flow.unsent (sound.known absent)
      have below := flow.transit.pending_lt k (mem_append_right _ pending)
      rw [show x.read Side.initiator.peer id = [] from frames] at below
      exact absurd below (Nat.not_lt_zero k)
  | unmade absent failed => exact absurd ⟨record, buffer⟩ failed

inductive Continues (x : Proxy) (id : Nat) (side : Side) (r' : Stream) : Prop where
  | same {r} (found : x.stream side id = some r) (same : SameTx r r')
  | opened (absent : x.stream side id = none) (role : side = .acceptor) (names : r'.id = id)
    (unused : r'.txSeq = 0) (thread : r'.txThread = some ⟨true, .reading⟩)

theorem Continues.keeps {r r' : Stream} (continues : Continues x id side r)
    (same : SameTx r r') : Continues x id side r' := by
  cases continues with
  | same found first => exact .same found (first.trans same)
  | opened absent role names unused thread =>
    exact .opened absent role (same.id.trans names) (same.txSeq.trans unused)
      (same.txThread.trans thread)

theorem Continues.flow {r' : Stream} (continues : Continues x id side r')
    (flow : x.FlowAt id side) :
    Flow (x.ep side).geometry (x.ep side.peer).geometry id (some r') (x.stream side.peer id)
        (x.read side id) (x.flight side id) (x.came side.peer id) ∧
      (x.WholeAt id side ↔
        FlowWhole (some r') (x.read side id) (x.flight side id) (x.came side.peer id)) := by
  rw [FlowAt] at flow
  rw [WholeAt]
  cases continues with
  | same found same =>
    rw [found] at flow ⊢
    exact ⟨flow.txKeeps same, flowWhole_txKeeps same⟩
  | opened absent role names unused thread =>
    rw [absent] at flow ⊢
    exact flow.txOpen names unused thread

structure Prepared (x : Proxy) (id : Nat) (side : Side) (k : Nat) (r t : Stream) : Prop where
  flow : Flow (x.ep side.peer).geometry (x.ep side).geometry id (x.stream side.peer id) (some r)
    (x.read side.peer id) (numbersOf id (x.wire side)) (x.came side id)
  reorder : t.reorder = r.reorder
  udsSock : t.udsSock = r.udsSock
  rxBytes : t.rxBytes = r.rxBytes
  state : k ≠ 0 → t.state = r.state
  room : k = r.reorder.nextExpected ∨ r.reorder.pendingCount < r.reorder.maxBuffered
  opened : t.udsSock.isSome = true
  continues : Continues x id side t

theorem Sound.prepare (sound : Sound id x) {s : Stream} (succeed : a.Succeed)
    (room : ∀ s, x.stream side id = some s → k = s.reorder.nextExpected ∨
      s.reorder.pendingCount < s.reorder.maxBuffered)
    (found : Found x id side k ((x.ep side).sizes a.creation) s) :
    ∃ r, Prepared x id side k r ((x.ep side).withBackend a s) := by
  have flow := (flowAt_peer side).mp (sound.flow side.peer)
  cases found with
  | @same r found reorder udsSock rxBytes state tx =>
    rw [found] at flow
    obtain ⟨c, receiving⟩ := flow.receiving r rfl
    obtain ⟨uds, socket, -, -⟩ := receiving.socket
    have opened : s.udsSock.isSome = true := by rw [udsSock, socket]; rfl
    rw [withBackend_opened a opened]
    exact ⟨r, flow, reorder, udsSock, rxBytes, state, room r found, opened, .same found tx⟩
  | made absent role new =>
    subst new role
    rw [withBackend_made succeed sound.acceptor.1 sound.acceptor.2]
    rw [absent] at flow
    have opened := opened_backendStream ((x.ep .acceptor).sizes a.creation) id
    obtain ⟨m, positive, -, empty⟩ := opened.reorder
    refine ⟨_, flow.rxOpen opened, rfl, rfl, rfl, fun _ => rfl, .inr ?_, rfl,
      .opened absent rfl rfl rfl rfl⟩
    rwa [empty]

variable {i : Nat} {p : Packet}

theorem Sound.receiveFar (sound : Sound id x)
    (found : (x.wire side)[i]? = some p) (named : Names id p) (succeed : a.Succeed)
    (length : p.wire.length ≤ (x.ep side).geometry.bufSize)
    (room : ∀ s, x.stream side id = some s → wireSeq p.wire = s.reorder.nextExpected ∨
      s.reorder.pendingCount < s.reorder.maxBuffered) :
    ∃ r', ((x.ep side).recvDone a p.qp p.wire).1.streams id = some r' ∧ Continues x id side r' ∧
      Flow (x.ep side.peer).geometry (x.ep side).geometry id (x.stream side.peer id) (some r')
        (x.read side.peer id) (numbersOf id ((x.wire side).eraseIdx i))
        (x.came side id ++ [wireSeq p.wire]) ∧
      (x.WholeAt id side.peer ↔ FlowWhole (x.stream side.peer id) (x.read side.peer id)
        (numbersOf id ((x.wire side).eraseIdx i)) (x.came side id ++ [wireSeq p.wire])) := by
  have mem := mem_of_getElem? found
  have carries := sound.carried side.peer p (by rwa [Side.peer_peer]) named
  have first := numbersOf_erase found named
  have pending : wireSeq p.wire ∈ numbersOf id (x.wire side) := first.mem_iff.mpr mem_cons_self
  obtain ⟨id', id_pos, id_lt, frame⟩ := sound.tidy.frames side p mem
  obtain rfl : id = id' := named.2.symm.trans (frame.names id_lt)
  rcases Endpoint.recvDone_data (dataFrame_of_carries carries) id_pos id_lt a (x.ep side) p.qp with
    ⟨long, -⟩ | ⟨-, dec, classified, received⟩
  · exact absurd long (Nat.not_lt.mpr length)
  · generalize (x.ep side).recvDone a p.qp p.wire = result at received ⊢
    cases received with
    | dropped dispatched =>
      obtain ⟨s, impossible, -⟩ := sound.dispatch pending succeed.record succeed.buffer dispatched
      cases impossible
    | unopened dispatched closed =>
      obtain ⟨s, same, located⟩ := sound.dispatch pending succeed.record succeed.buffer dispatched
      cases same
      obtain ⟨r, prepared⟩ := sound.prepare succeed room located
      rw [prepared.opened] at closed
      cases closed
    | delivered dispatched _ touches stored =>
      obtain ⟨s, same, located⟩ := sound.dispatch pending succeed.record succeed.buffer dispatched
      cases same
      obtain ⟨r, prepared⟩ := sound.prepare succeed room located
      obtain ⟨flow', whole⟩ := prepared.flow.deliver first carries (sound.word side.peer) id_lt
        length classified succeed.kmalloc succeed.results prepared.room prepared.reorder
        prepared.udsSock prepared.rxBytes prepared.state
        (a.known && (x.ep side).qps.windowNegotiated)
      exact ⟨_, stored, prepared.continues.keeps (sameTx_receiveData ..), flow',
        (wholeAt_peer side).trans whole⟩

theorem unnamed_of_control (control : ControlFrame k p.wire) : ¬Names id p := by
  intro named
  rw [Names, control.type] at named
  exact absurd named.1 (by decide)

section Receives

variable {side : Side} {i : Nat} {a : Answers} {p : Packet}

theorem receives_ep : (x.receives side i a p).ep =
    Function.update x.ep side ((x.ep side).recvDone a p.qp p.wire).1 := rfl

theorem receives_read : (x.receives side i a p).read = x.read := rfl

theorem receives_came_named (i : Nat) (a : Answers) (named : Names id p) :
    (x.receives side i a p).came side id = x.came side id ++ [wireSeq p.wire] ∧
      (x.receives side i a p).came side.peer id = x.came side.peer id := by
  have came : (x.receives side i a p).came = Function.update x.came side
      (Function.update (x.came side) id (x.came side id ++ [wireSeq p.wire])) := by
    simp [receives, posts, setEp, takes, meets, named.1, named.2]
  simp [came]

theorem receives_came_unnamed (unnamed : ¬Names id p) (other : Side) :
    (x.receives side i a p).came other id = x.came other id := by
  simp only [receives, posts, setEp, takes, meets]
  split
  · rename_i data
    rcases eq_or_ne other side with rfl | same
    · rw [update_self, update_of_ne fun same => unnamed ⟨data, same.symm⟩]
    · rw [update_of_ne same]
  · rfl

theorem receives_wire (id i : Nat) {k : Nat}
    (control : ∀ reply ∈ ((x.ep side).recvDone a p.qp p.wire).2, ControlFrame k reply) :
    numbersOf id ((x.receives side i a p).wire side) = numbersOf id ((x.wire side).eraseIdx i) ∧
      numbersOf id ((x.receives side i a p).wire side.peer) = numbersOf id (x.wire side.peer) ∧
      ∀ other, ∀ q ∈ (x.receives side i a p).wire other, Names id q → q ∈ x.wire other := by
  have unnamed : ∀ q ∈ (if a.emits then ((x.ep side).recvDone a p.qp p.wire).2 else none).map
      (fun wire => (⟨p.qp, wire, (((x.meets side p).takes side i).setEp side
        ((x.ep side).recvDone a p.qp p.wire).1).client side (wireId p.wire)⟩ : Packet)),
      ¬Names id q := by
    intro q emitted
    obtain ⟨wire, reply, rfl⟩ := Option.map_eq_some_iff.mp emitted
    split at reply
    · exact unnamed_of_control (control wire reply)
    · cases reply
  refine ⟨?_, ?_, ?_⟩
  · rw [receives, numbersOf_posts unnamed]
    simp
  · rw [receives, numbersOf_posts unnamed]
    simp
  · intro other q mem named
    rcases mem_posts mem with old | ⟨new, -⟩
    · exact mem_takes old
    · exact absurd named (unnamed q new)

end Receives

section

variable (sound : Sound id x)
include sound

theorem Sound.receives {r : Stream} {came : List Nat}
    (frame : FrameOf id p.wire) (id_pos : id ≠ 0) (id_lt : id < 2 ^ 32)
    (tidy : (x.receives side i a p).Tidy)
    (stored : ((x.ep side).recvDone a p.qp p.wire).1.streams id = some r)
    (continues : Continues x id side r) (partner : side = .acceptor → x.stream .initiator id ≠ none)
    (cameNear : (x.receives side i a p).came side id = came)
    (cameFar : (x.receives side i a p).came side.peer id = x.came side.peer id)
    (far : Flow (x.ep side.peer).geometry (x.ep side).geometry id (x.stream side.peer id) (some r)
      (x.read side.peer id) (numbersOf id ((x.wire side).eraseIdx i)) came)
    (whole : x.WholeAt id side.peer ↔ FlowWhole (x.stream side.peer id) (x.read side.peer id)
      (numbersOf id ((x.wire side).eraseIdx i)) came) :
    Sound id (x.receives side i a p) ∧ ∀ other,
      (x.WholeAt id other ↔ (x.receives side i a p).WholeAt id other) := by
  obtain ⟨touches, -, control⟩ := recvDone_tidy frame id_pos id_lt (sound.tidy.tables side) a p.qp
  obtain ⟨numbersNear, numbersFar, wires⟩ := receives_wire id i control
  have streamNear : (x.receives side i a p).stream side id = some r := by
    simpa [stream, receives_ep] using stored
  have streamFar : (x.receives side i a p).stream side.peer id = x.stream side.peer id := by
    simp [stream, receives_ep]
  obtain ⟨near, whole'⟩ := continues.flow (sound.flow side)
  constructor
  · apply sound.assemble side tidy (setup_setEp touches.setup)
    · exact known_of_opened side streamNear streamFar partner
    · rwa [streamNear, streamFar, receives_read, cameFar, flight, numbersFar]
    · rwa [streamNear, streamFar, receives_read, cameNear, numbersNear]
    · intro q mem named
      exact sound.carried side q (wires side.peer q mem named) named
    · intro q mem named
      have old := wires side q mem named
      exact sound.carried side.peer q (by rwa [Side.peer_peer]) named
    · exact ⟨sound.word side, sound.word side.peer⟩
  · refine forall_side side ?_ ?_
    · have after : (x.receives side i a p).WholeAt id side ↔
          FlowWhole (some r) (x.read side id) (x.flight side id) (x.came side.peer id) := by
        rw [WholeAt, streamNear, receives_read, cameFar, flight, numbersFar]
        rfl
      rw [after, whole']
    · rw [whole, wholeAt_peer, streamFar, receives_read, cameNear, numbersNear]

theorem Sound.deliverNamed (found : (x.wire side)[i]? = some p)
    (named : Names id p) (answered : Answered id x (.deliver side i a))
    (tidy : (x.receives side i a p).Tidy) :
    Sound id (x.receives side i a p) ∧ ∀ other,
      (x.WholeAt id other ↔ (x.receives side i a p).WholeAt id other) := by
  obtain ⟨succeed, length, room⟩ := answered p found named
  obtain ⟨r', stored, continues, far, whole⟩ := sound.receiveFar found named succeed length room
  obtain ⟨k, id_pos, id_lt, frame⟩ := sound.tidy.frames side p (mem_of_getElem? found)
  obtain rfl : id = k := named.2.symm.trans (frame.names id_lt)
  refine sound.receives frame id_pos id_lt tidy stored continues ?_
    (receives_came_named i a named).1 (receives_came_named i a named).2 far whole
  rintro rfl absent
  have below := far.transit.arrived_lt (wireSeq p.wire) (by simp)
  rw [far.unsent absent] at below
  exact absurd below (Nat.not_lt_zero _)

theorem Sound.deliverControl (found : (x.wire side)[i]? = some p)
    (control : ControlFrame id p.wire) (id_pos : id ≠ 0) (id_lt : id < 2 ^ 32)
    (tidy : (x.receives side i a p).Tidy) :
    Sound id (x.receives side i a p) ∧ ∀ other,
      (x.WholeAt id other ↔ (x.receives side i a p).WholeAt id other) := by
  have unnamed : ¬Names id p := unnamed_of_control control
  have came : ∀ other, (x.receives side i a p).came other id = x.came other id :=
    receives_came_unnamed unnamed
  have erased := numbersOf_erase_unnamed found unnamed
  obtain ⟨-, ignored | ⟨s, dec, present, stored⟩⟩ :=
    Endpoint.recvDone_control control id_pos id_lt a (x.ep side) p.qp
  · obtain ⟨touches, -, replies⟩ :=
      recvDone_tidy (.inr control) id_pos id_lt (sound.tidy.tables side) a p.qp
    obtain ⟨numbersNear, numbersFar, wires⟩ := receives_wire id i replies
    refine sound.elsewhere tidy (setup_setEp touches.setup) (forall_side side ?_ ?_) (fun _ => rfl)
      came (forall_side side (numbersNear.trans erased) numbersFar) wires
    · simp [stream, receives_ep, ignored]
    · simp [stream, receives_ep]
  · have tx := sameTx_receiveCredit s (landing (x.ep side).geometry a.mem p.wire) dec
    have rx := sameRx_receiveCredit s (landing (x.ep side).geometry a.mem p.wire) dec
    refine sound.receives (.inr control) id_pos id_lt tidy (by simp [stored]) (.same present tx) ?_
      (came side) (came side.peer) ?_ ?_
    · rintro rfl absent
      cases present.symm.trans (sound.known absent)
    · have far := (flowAt_peer side).mp (sound.flow side.peer)
      rw [show x.stream side id = some s from present] at far
      rw [erased]
      exact far.rxKeeps rx
    · rw [erased, wholeAt_peer]

theorem Sound.deliver (found : (x.wire side)[i]? = some p)
    (answered : Answered id x (.deliver side i a)) (tidy : (x.receives side i a p).Tidy) :
    Sound id (x.receives side i a p) ∧ ∀ other,
      (x.WholeAt id other ↔ (x.receives side i a p).WholeAt id other) := by
  obtain ⟨k, k_pos, k_lt, frame⟩ := sound.tidy.frames side p (mem_of_getElem? found)
  rcases eq_or_ne k id with rfl | same
  · rcases frame with ⟨syn, data⟩ | control
    · exact sound.deliverNamed found ⟨data.type, data.names k_lt⟩ answered tidy
    · exact sound.deliverControl found control k_pos k_lt tidy
  · have unnamed : ¬Names id p := fun named => same ((frame.names k_lt).symm.trans named.2)
    obtain ⟨touches, -, replies⟩ := recvDone_tidy frame k_pos k_lt (sound.tidy.tables side) a p.qp
    obtain ⟨numbersNear, numbersFar, wires⟩ := receives_wire id i replies
    refine sound.elsewhere tidy (setup_setEp touches.setup) (forall_side side ?_ ?_) (fun _ => rfl)
      (receives_came_unnamed unnamed) (forall_side side ?_ numbersFar) wires
    · rw [stream, stream, receives_ep, update_self]
      exact touches.others id (Ne.symm same)
    · simp [stream, receives_ep]
    · exact numbersNear.trans (numbersOf_erase_unnamed found unnamed)

end

end Step

end Urp.Proxy
