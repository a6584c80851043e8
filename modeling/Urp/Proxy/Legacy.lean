import Urp.Proxy.Runs

/-!
# The legacy connection

In K0 mode an acceptor has, beside its streams, one connection whose frames carry stream id 0.
-/

namespace Urp

open Urp.Lib Urp.Frame Urp.Rx Urp.Tx Option
open Function (update update_of_ne)
open Urp.Stream (Socket)

namespace Legacy

inductive Phase where
  | reading
  | posting (qp : Nat) (wire : List UInt8)
  | exited

/-- `struct urp_connection`. -/
structure Connection where
  udsSock : Option Socket
  txThread : Option Phase
  seq : Nat
  active : Bool

inductive PumpEvent where
  | stop
  | eof
  | fail (fatal : Bool)
  | read (r : Reading) (qp : Option Nat)
  | post (ok : Bool)

namespace Connection

def idle : Connection := ⟨none, none, 0, false⟩

def cleanup (c : Connection) : Connection :=
  { c with udsSock := none, txThread := none, active := false }

def connectUds (c : Connection) : Connection :=
  { c with udsSock := some Socket.fresh, seq := 0, active := true }

def eagerConnect (connects starts : Bool) (c : Connection) : Connection :=
  if connects then
    if starts then { c.cleanup.connectUds with txThread := some .reading }
    else c.cleanup.connectUds
  else c.cleanup

/-- A step of `urp_tx_thread_fn`, and the frame it posts on a queue pair. -/
def pumpStep (g : Geometry) (c : Connection) (e : PumpEvent) :
    Option (Connection × Option (Nat × List UInt8)) :=
  match c.txThread, e with
  | some .reading, .stop => some ({ c with txThread := some .exited }, none)
  | some .reading, .eof => some ({ c with txThread := some .exited }, none)
  | some .reading, .fail fatal =>
    some ({ c with txThread := some .exited, active := c.active && !fatal }, none)
  | some .reading, .read r qp =>
    if c.active ∧ c.udsSock.isSome ∧ 0 < r.data.length ∧
        r.data.length ≤ epTxMaxPayload g.bufSize then
      match qp with
      | none => some ({ c with seq := wrap64 (c.seq + 1) }, none)
      | some qp =>
        some ({ c with
          seq := wrap64 (c.seq + 1)
          txThread := some (.posting qp (frameWire g 0 c.seq false r)) }, none)
    else none
  | some (.posting qp wire), .post ok =>
    if ok then some ({ c with txThread := some .reading }, some (qp, wire))
    else some ({ c with txThread := some .exited, active := false }, none)
  | _, _ => none

def deliver (a : Answers) (g : Geometry) (slot : Memory) (dec : RxDecoded) (c : Connection) :
    Connection × List UInt8 :=
  match c.active, c.udsSock with
  | true, some uds =>
    let sent := (rxSendUdsSg a.results g uds slot dec.payloadLen).1
    ({ c with udsSock := some sent }, sent.written.drop uds.written.length)
  | _, _ => (c, [])

end Connection

/-- A pair with its legacy connections, whose frames are on a `wire` of their own. -/
structure State where
  proxy : Proxy
  k0 : Side → Bool
  conn : Side → Connection
  wire : Side → List Packet
  read : Side → List UInt8
  wrote : Side → List UInt8

inductive Event where
  | proxy (e : Proxy.Event)
  | request (peerIndex : Option Nat) (c : Capabilities) (a : Accepting)
      (created connects starts : Bool)
  | pump (side : Side) (e : PumpEvent)
  | deliver (side : Side) (i : Nat) (a : Answers)
  | cleanup (side : Side)

def State.new (c : Proxy.Config) (k0 : Side → Bool) : State :=
  ⟨.new c, k0, fun _ => .idle, fun _ => [], fun _ => [], fun _ => []⟩

namespace State

def hears (s : State) (side : Side) (a : Answers) (qp : Nat) (wire : List UInt8) : State :=
  let ep := s.proxy.ep side
  let slot := landing ep.geometry a.mem wire
  if wire.length ≤ ep.geometry.bufSize then
    match classifyFrame wire.length (slot 0) with
    | (.deliverLegacy, dec) =>
      let r := (s.conn side).deliver a ep.geometry slot dec
      let counts := (s.conn side).active && (s.conn side).udsSock.isSome && a.known
      { s with
        proxy := if counts then s.proxy.setEp side { ep with
            qps := ep.qps.modify qp fun q => { q with credit := q.credit.recordRecv } }
          else s.proxy
        conn := update s.conn side r.1
        wrote := update s.wrote side (s.wrote side ++ r.2) }
    | _ => s
  else s

def downCleans (q : Qps) (i maxAttempts : Nat) : Bool :=
  i == 0 && (!q.isInitiator ||
    ((q.qp i).established && decide ((q.qp i).connectAttempts < maxAttempts)))

def cleans (s : State) (side : Side) : State :=
  { s with conn := update s.conn side (s.conn side).cleanup }

def follows (s : State) (x : Proxy) : Proxy.Event → State
  | .deliver side i a =>
    match (s.proxy.wire side)[i]? with
    | some p => { s with proxy := x }.hears side a p.qp p.wire
    | none => { s with proxy := x }
  | .cm side (.down i maxAttempts) =>
    if downCleans (s.proxy.ep side).qps i maxAttempts then { s with proxy := x }.cleans side
    else { s with proxy := x }
  | _ => { s with proxy := x }

def requests (s : State) (peerIndex : Option Nat) (c : Capabilities) (a : Accepting)
    (created connects starts : Bool) : State :=
  let ep := s.proxy.ep .acceptor
  let eager := created && (ep.qps.slotDecide peerIndex == some 0) && s.k0 .acceptor &&
    ep.connectPath
  let outcome := if eager && !(connects && starts) then .uncreated else a
  { s with
    proxy := s.proxy.setEp .acceptor { ep with qps := ep.qps.acceptOne peerIndex c outcome }
    conn := if eager then
        update s.conn .acceptor ((s.conn .acceptor).eagerConnect connects starts)
      else s.conn }

def posts (s : State) (side : Side) (out : Option (Nat × List UInt8)) : State :=
  match out with
  | none => s
  | some (qp, wire) =>
    { s with wire := update s.wire side.peer (s.wire side.peer ++ [⟨qp, wire, 0⟩]) }

def pumps (s : State) (side : Side) (read : List UInt8)
    (r : Connection × Option (Nat × List UInt8)) : State :=
  { s with
    conn := update s.conn side r.1
    read := update s.read side (s.read side ++ read) }.posts side r.2

/-- The credit goes before the post, whose failure does not give it back. -/
def consumes (q : Qps) : Option Nat → Qps
  | none => q
  | some qp => q.modify qp fun q => { q with credit := q.credit.consume.1 }

end State

/-- With `urp_tx_thread_fn` and the eager connect of `urp_cm_accept_one`. -/
def step (s : State) : Event → Option State
  | .proxy (.cm .acceptor (.connectRequest _ _ _)) => none
  | .proxy e => (s.proxy.step e).map fun x => s.follows x e
  | .request peerIndex c a created connects starts =>
    if (a = .accepted → created = true) ∧ (a = .unshared → created = false) then
      some (s.requests peerIndex c a created connects starts)
    else none
  | .pump side (.read r qp) =>
    let ep := s.proxy.ep side
    let found := ep.qps.selectRoundRobin
    if qp = found.2 ∧ r.tstampNegotiated = ep.qps.tstampNegotiated then
      ((s.conn side).pumpStep ep.geometry (.read r qp)).map fun moved =>
        { s with
          proxy := s.proxy.setEp side { ep with qps := State.consumes found.1 found.2 } }.pumps
            side r.data moved
    else none
  | .pump side e =>
    ((s.conn side).pumpStep (s.proxy.ep side).geometry e).map (s.pumps side [])
  | .deliver side i a =>
    (s.wire side)[i]?.bind fun p =>
      if Proxy.First (s.wire side) i p then
        some ({ s with wire := update s.wire side ((s.wire side).eraseIdx i) }.hears
          side a p.qp p.wire)
      else none
  | .cleanup side => some (s.cleans side)

/-! ## Nothing is written -/

section Hears

variable {s : State} {side : Side}

theorem hears_closed (closed : (s.conn side).udsSock = none) (a : Answers) (qp : Nat)
    (wire : List UInt8) : s.hears side a qp wire = s := by
  have silent : ∀ g slot dec, (s.conn side).deliver a g slot dec = (s.conn side, []) := by
    intro g slot dec
    unfold Connection.deliver
    rw [closed]
    split <;> trivial
  unfold State.hears
  dsimp only
  split
  · split
    · rw [silent, closed]
      simp
    · rfl
  · rfl

theorem hears_stream {id : Nat} {wire : List UInt8} (frame : FrameOf id wire) (id_pos : id ≠ 0)
    (word : id < 2 ^ 32) (a : Answers) (qp : Nat) : s.hears side a qp wire = s := by
  unfold State.hears
  dsimp only
  split
  · rename_i length
    rcases frame with ⟨syn, data⟩ | control
    · obtain ⟨stamped, dec, classified, -⟩ := data.classify id_pos word length a.mem
      rw [classified]
    · obtain ⟨dec, classified, -⟩ := control.classify word length a.mem
      rw [classified]
  · rfl

end Hears

theorem tidy_setQps {x : Proxy} (tidy : x.Tidy) (side : Side) {q : Qps}
    (same : q.isInitiator = (x.ep side).qps.isInitiator) :
    (x.setEp side { x.ep side with qps := q }).Tidy := by
  have touches := Endpoint.touches_qps (.refl 0 (x.ep side)) same
  exact tidy.moves 0 _ rfl touches (tidy.tables side) fun _ _ => .inl

structure Quiet (s : State) : Prop where
  tidy : s.proxy.Tidy
  closed : (s.conn .initiator).udsSock = none
  unstarted : (s.conn .initiator).txThread = none
  wire : s.wire .acceptor = []
  wrote : ∀ side, s.wrote side = []

namespace Quiet

variable {s s' : State}

theorem new (c : Proxy.Config) (k0 : Side → Bool) : Quiet (.new c k0) where
  tidy := Proxy.tidy_new c
  closed := rfl
  unstarted := rfl
  wire := rfl
  wrote _ := rfl

variable {x : Proxy}

theorem setProxy (quiet : Quiet s) (tidy : x.Tidy) : Quiet { s with proxy := x } :=
  { quiet with tidy }

theorem cleans (quiet : Quiet s) (side : Side) : Quiet (s.cleans side) := by
  refine ⟨quiet.tidy, ?_, ?_, quiet.wire, quiet.wrote⟩
  · cases side with
    | initiator => rfl
    | acceptor => exact quiet.closed
  · cases side with
    | initiator => rfl
    | acceptor => exact quiet.unstarted

variable {side : Side}

section

variable (quiet : Quiet s)
include quiet

theorem hears {p : Packet} (mem : p ∈ s.proxy.wire side) (tidy : x.Tidy) (a : Answers) :
    Quiet ({ s with proxy := x }.hears side a p.qp p.wire) := by
  obtain ⟨id, id_pos, word, frame⟩ := quiet.tidy.frames side p mem
  rw [hears_stream frame id_pos word]
  exact quiet.setProxy tidy

theorem follows {e : Proxy.Event} (moved : s.proxy.step e = some x) : Quiet (s.follows x e) := by
  have tidy := quiet.tidy.step (Proxy.step_sound moved)
  have plain := quiet.setProxy tidy
  cases e with
  | deliver side i a =>
    unfold State.follows
    dsimp only
    split
    · rename_i p found
      exact quiet.hears (List.mem_of_getElem? found) tidy a
    · exact plain
  | cm side e =>
    cases e with
    | down i maxAttempts =>
      unfold State.follows
      dsimp only
      split
      · exact plain.cleans side
      · exact plain
    | dial | routeResolved | connectRequest | established | missed | retry => exact plain
  | accept | pump | linkDown | linkUp | lose => exact plain

theorem requests (peerIndex : Option Nat) (c : Capabilities) (a : Accepting)
    (created connects starts : Bool) :
    Quiet (s.requests peerIndex c a created connects starts) := by
  have role : ∀ a, ((s.proxy.ep .acceptor).qps.acceptOne peerIndex c a).isInitiator =
      (s.proxy.ep .acceptor).qps.isInitiator :=
    fun a => Qps.isInitiator_cm _ (.connectRequest peerIndex c a)
  have others : ∀ conn : Connection, update s.conn .acceptor conn .initiator = s.conn .initiator :=
    fun conn => update_of_ne (by decide) ..
  unfold State.requests
  refine ⟨tidy_setQps quiet.tidy .acceptor (role _), ?_, ?_, quiet.wire, quiet.wrote⟩
  · dsimp only
    split
    · rw [others, quiet.closed]
    · exact quiet.closed
  · dsimp only
    split
    · rw [others, quiet.unstarted]
    · exact quiet.unstarted

theorem pumps {g : Geometry} {e : PumpEvent}
    {r : Connection × Option (Nat × List UInt8)} (read : List UInt8)
    (moved : (s.conn side).pumpStep g e = some r) : Quiet (s.pumps side read r) := by
  cases side with
  | initiator =>
    unfold Connection.pumpStep at moved
    rw [quiet.unstarted] at moved
    cases e <;> cases moved
  | acceptor =>
    obtain ⟨conn, out⟩ := r
    have stored : Quiet { s with
        conn := update s.conn .acceptor conn
        read := update s.read .acceptor (s.read .acceptor ++ read) } :=
      { quiet with }
    cases out <;> exact { stored with }

theorem deliver {i : Nat} {p : Packet} (found : (s.wire side)[i]? = some p) (a : Answers) :
    Quiet ({ s with wire := update s.wire side ((s.wire side).eraseIdx i) }.hears
      side a p.qp p.wire) := by
  cases side with
  | acceptor => simp [quiet.wire] at found
  | initiator =>
    have taken : (({ s with
        wire := update s.wire .initiator ((s.wire .initiator).eraseIdx i) } :
          State).conn .initiator).udsSock = none := quiet.closed
    rw [hears_closed taken]
    exact { quiet with }

theorem step {e : Event} (moved : step s e = some s') : Quiet s' := by
  unfold Legacy.step at moved
  split at moved
  · cases moved
  · obtain ⟨x, stepped, rfl⟩ := map_eq_some_iff.mp moved
    exact quiet.follows stepped
  · obtain ⟨-, rfl⟩ := guarded moved
    exact quiet.requests ..
  · rename_i side r qp
    simp only [ite_none_right_eq_some] at moved
    obtain ⟨conn, stepped, rfl⟩ := map_eq_some_iff.mp moved.2
    have selected : ∀ qp : Option Nat,
        (State.consumes (s.proxy.ep side).qps.selectRoundRobin.1 qp).isInitiator =
          (s.proxy.ep side).qps.isInitiator := by
      rintro (_ | qp) <;> rfl
    exact (quiet.setProxy (tidy_setQps quiet.tidy side (selected _))).pumps _ stepped
  · obtain ⟨r, stepped, rfl⟩ := map_eq_some_iff.mp moved
    exact quiet.pumps [] stepped
  · simp only [bind_eq_some_iff, ite_none_right_eq_some, Option.some.injEq] at moved
    obtain ⟨p, found, -, rfl⟩ := moved
    exact quiet.deliver found _
  · cases moved
    exact quiet.cleans _

end

end Quiet

/-- What the legacy path of one side writes is a prefix of what the legacy pump of the other side
reads, in every state of every run of a pair, whatever its modes and numbers of queue pairs. -/
theorem wrote_prefix_read (c : Proxy.Config) (k0 : Side → Bool) (events : List Event) :
    Throughout step (fun s => ∀ side, s.wrote side.peer <+: s.read side) (.new c k0) events := by
  refine throughout_of_invariant (fun _ _ _ quiet moved => Quiet.step quiet moved) ?_
    (Quiet.new c k0) events
  intro s quiet side
  rw [quiet.wrote]
  exact List.nil_prefix

def twoFrames : List Event :=
  let up : Capabilities := ⟨true, true, true, true⟩
  [.request (some 0) up .accepted true true true, .request (some 1) up .accepted true true true,
    .proxy (.cm .acceptor (.established 0 up)), .proxy (.cm .acceptor (.established 1 up)),
    .pump .acceptor (.read ⟨fun _ _ => 0, [7], true, 0, 0⟩ (some 1)), .pump .acceptor (.post true),
    .pump .acceptor (.read ⟨fun _ _ => 0, [8], true, 0, 0⟩ (some 0)), .pump .acceptor (.post true),
    .deliver .initiator 1 answering]

theorem wrote_prefix_read_two : Throughout step (fun s => ∀ side, s.wrote side.peer <+: s.read side)
        (.new ⟨fun _ => smallSettings, fun _ => 2⟩ fun _ => true) twoFrames ∧
      ∃ s, run step (.new ⟨fun _ => smallSettings, fun _ => 2⟩ fun _ => true) twoFrames = some s ∧
        s.read .acceptor = [7, 8] ∧ (s.wire .initiator).length = 1 ∧ s.wrote .initiator = [] :=
  ⟨wrote_prefix_read _ _ twoFrames, by decide +kernel⟩

end Legacy

end Urp
