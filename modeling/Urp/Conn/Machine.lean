import Urp.Conn.Control
import Urp.Conn.Slots
import Urp.Lib.Custody
import Urp.Lib.Run

/-!
# The connection machinery of an endpoint
-/

namespace Urp.Conn

open Urp.Lib Urp.Control

inductive CmPhase where
  | resolvingAddr | resolvingRoute | routed | connecting | accepted | established | down
  | destroyed
deriving DecidableEq, Repr

/-- The id of a queue pair, if it has one, and the work items of the queue pair. -/
structure Line where
  phase : Option CmPhase
  connectWork : Bool
  retryQueued : Bool
  retryRunning : Bool
deriving DecidableEq, Repr

def Line.idle : Line := ⟨none, false, false, false⟩

inductive Thread where
  | listening | accepted | unconnected | parked
deriving DecidableEq, Repr

inductive Dial where
  | unmade | refused | started
deriving DecidableEq, Repr

/-- The listener has the first place among the ids, the queue pair `i` the place `i + 1`. -/
structure Machine where
  state : EpState
  qps : Qps
  pd : Bool
  connectStarted : Bool
  cmDone : Nat
  thread : Thread
  line : Nat → Line
  ids : Custody

inductive Event where
  | listen (d : Dial)
  | activate
  | client (dials : Nat → Dial)
  | check
  | park
  | wake
  | addrResolved (i : Nat) (routed : Bool)
  | routeResolved (i : Nat) (shared created : Bool)
  | connect (i : Nat) (sent : Bool)
  | request (admitted : Bool) (peerIndex : Option Nat) (c : Capabilities) (a : Accepting)
      (context : Bool)
  | established (i : Nat) (c : Capabilities)
  | down (i maxAttempts : Nat)
  | missed (i maxAttempts : Nat)
  | retryStart (i : Nat)
  | retryRun (i maxAttempts : Nat) (d : Dial)

namespace Machine

def init (isInitiator : Bool) (numQps numBufs : Nat) : Machine where
  state := .creating
  qps := Qps.init isInitiator numQps numBufs
  pd := false
  connectStarted := false
  cmDone := 0
  thread := .listening
  line _ := .idle
  ids := .empty

def setLine (m : Machine) (i : Nat) (f : Line → Line) : Machine :=
  { m with line := Function.update m.line i (f (m.line i)) }

def setPhase (m : Machine) (i : Nat) (phase : Option CmPhase) : Machine :=
  m.setLine i fun l => { l with phase }

def queueRetry (m : Machine) (i : Nat) : Machine :=
  m.setLine i fun l => { l with retryQueued := true }

def handlerFailed (m : Machine) (i : Nat) : Machine :=
  { m.setPhase i (some .destroyed) with ids := m.ids.kill (i + 1) }

def qpResolveAddr (m : Machine) (i : Nat) : Dial → Machine
  | .unmade => m
  | .refused => { m with ids := m.ids.discard true }
  | .started =>
    { m.setPhase i (some .resolvingAddr) with
      qps := m.qps.cm (.dial i)
      ids := m.ids.record (i + 1) }

def lazyDial (dials : Nat → Dial) (m : Machine) (i : Nat) : Machine :=
  if dials i = .started then m.qpResolveAddr i (dials i)
  else (m.qpResolveAddr i (dials i)).queueRetry i

def lazyConnectStart (m : Machine) (dials : Nat → Dial) : Machine :=
  (List.range m.qps.numQps).foldl (lazyDial dials) m

def rearm (m : Machine) (q : Qps) : Nat := if m.qps.connected && !q.connected then 0 else m.cmDone

def shouldRetryConnect (q : Qps) (i maxAttempts : Nat) : Bool :=
  q.isInitiator && decide ((q.qp i).connectAttempts < maxAttempts)

def retryOrComplete (m : Machine) (i : Nat) (retries : Bool) : Machine :=
  if retries then m.queueRetry i else { m with cmDone := m.cmDone + 1 }

def acceptOne (m : Machine) (i : Nat) (peerIndex : Option Nat) (c : Capabilities) (a : Accepting)
    (context : Bool) : Machine :=
  let q := m.qps.acceptOne peerIndex c a
  let m := { m with qps := q, cmDone := m.rearm q }
  match a with
  | .unshared => { m with ids := m.ids.discard false }
  | .uncreated =>
    { m.setPhase i none with
      pd := true
      ids := (m.ids.dispose (i + 1)).discard context }
  | .accepted =>
    { m.setPhase i (some .accepted) with
      pd := true
      ids := (m.ids.dispose (i + 1)).record (i + 1) }

def connectRequest (m : Machine) (admitted : Bool) (peerIndex : Option Nat) (c : Capabilities)
    (a : Accepting) (context : Bool) : Machine :=
  if admitted then
    match m.qps.slotDecide peerIndex with
    | none => { m with ids := m.ids.leak }
    | some i => m.acceptOne i peerIndex c a context
  else { m with ids := m.ids.leak }

def established (m : Machine) (i : Nat) (c : Capabilities) : Machine :=
  { m.setPhase i (some .established) with
    qps := m.qps.established i c
    cmDone := if incr32 m.qps.qpsConnected = m.qps.numQps then m.cmDone + 1 else m.cmDone }

def down (m : Machine) (i maxAttempts : Nat) : Machine :=
  retryOrComplete { m.setPhase i (some .down) with
      qps := m.qps.down i maxAttempts
      cmDone := m.rearm (m.qps.demoteEstablished i) }
    i (shouldRetryConnect m.qps i maxAttempts)

def missed (m : Machine) (i maxAttempts : Nat) : Machine :=
  let q := m.qps.missed i maxAttempts
  if (m.qps.qp i).established ∧ (m.qps.qp i).qp ∧ (m.qps.qp i).health = .active ∧
      m.qps.isInitiator then
    retryOrComplete { m with qps := q, cmDone := m.rearm (m.qps.demote i) } i
      (shouldRetryConnect m.qps i maxAttempts)
  else { m with qps := q }

def retryRun (m : Machine) (i maxAttempts : Nat) (d : Dial) : Machine :=
  let torn : Machine :=
    { m.setPhase i none with qps := m.qps.hardTeardown i, ids := m.ids.dispose (i + 1) }
  let dialed := torn.qpResolveAddr i d
  if d = .started then dialed
  else
    retryOrComplete { dialed with qps := dialed.qps.retryConnect i maxAttempts } i
      (shouldRetryConnect dialed.qps i maxAttempts)

/-- A client in `urp_accept_thread_fn`, an event of `urp_cm_handler`, or a work item. -/
def step (m : Machine) : Event → Option Machine
  | .listen d =>
    if m.state = .creating ∧ !m.qps.isInitiator ∧ m.ids.place 0 = none then
      some (match d with
        | .unmade => m
        | .refused => { m with ids := m.ids.discard true }
        | .started => { m with ids := m.ids.record 0 })
    else none
  | .activate => if m.state = .creating then some { m with state := .active } else none
  | .client dials =>
    if m.qps.isInitiator ∧ m.thread = .listening then
      let m := { m with thread := .accepted }
      some (if m.state = .active ∧ !m.connectStarted then
        { m with connectStarted := true }.lazyConnectStart dials else m)
    else none
  | .check =>
    if m.thread = .accepted then
      some { m with thread := if m.qps.connected then .listening else .unconnected }
    else none
  | .park =>
    if m.thread = .unconnected then
      some { m with thread := if m.qps.connectFailed then .listening else .parked }
    else none
  | .wake =>
    if m.thread = .parked ∧ 0 < m.cmDone then
      some { m with thread := .listening, cmDone := m.cmDone - 1 }
    else none
  | .addrResolved i routed =>
    if i < m.qps.numQps ∧ (m.line i).phase = some .resolvingAddr then
      some (if routed then m.setPhase i (some .resolvingRoute) else m.handlerFailed i)
    else none
  | .routeResolved i shared created =>
    if i < m.qps.numQps ∧ (m.line i).phase = some .resolvingRoute ∧ (m.pd → shared) then
      some (if shared then
        let m := { m with pd := true }
        if created then
          { m.setLine i (fun l => { l with phase := some .routed, connectWork := true }) with
            qps := m.qps.cm (.routeResolved i) }
        else m.handlerFailed i
      else m.handlerFailed i)
    else none
  | .connect i sent =>
    if i < m.qps.numQps ∧ (m.line i).connectWork then
      match (m.line i).phase with
      | none => none
      | some .destroyed => none
      | some .routed =>
        some (m.setLine i fun l =>
          { l with connectWork := false, phase := some (if sent then .connecting else .routed) })
      | some _ => some (m.setLine i fun l => { l with connectWork := false })
    else none
  | .request admitted peerIndex c a context =>
    if !m.qps.isInitiator ∧ (m.ids.place 0).isSome ∧ (m.pd → a ≠ .unshared) then
      some (m.connectRequest admitted peerIndex c a context)
    else none
  | .established i c =>
    if i < m.qps.numQps ∧
        ((m.line i).phase = some .connecting ∨ (m.line i).phase = some .accepted) then
      some (m.established i c)
    else none
  | .down i maxAttempts =>
    if i < m.qps.numQps ∧ (m.line i).phase.any (· ≠ .destroyed) then some (m.down i maxAttempts)
    else none
  | .missed i maxAttempts =>
    if i < m.qps.numQps then some (m.missed i maxAttempts) else none
  | .retryStart i =>
    if i < m.qps.numQps ∧ (m.line i).retryQueued ∧ !(m.line i).retryRunning then
      some (m.setLine i fun l => { l with retryQueued := false, retryRunning := true })
    else none
  | .retryRun i maxAttempts d =>
    if i < m.qps.numQps ∧ (m.line i).retryRunning then
      let m := m.setLine i fun l => { l with retryRunning := false }
      some (if m.state = .active then m.retryRun i maxAttempts d else m)
    else none

def cleanup (m : Machine) : Machine :=
  { m with
    qps :=
      { m.qps with
        qp := fun i =>
          { m.qps.qp i with
            established := (m.qps.qp i).established && !(m.qps.qp i).cmId
            qp := false
            cmId := false }
        connected := false }
    line := fun _ => .idle
    ids := m.ids.disposeAll (m.qps.numQps + 1) }

/-! ## What a step can do -/

inductive Moves (m : Machine) : Event → Machine → Prop where
  | unlistened : Moves m (.listen .unmade) m
  | unbound : Moves m (.listen .refused) { m with ids := m.ids.discard true }
  | listening (free : m.ids.place 0 = none) :
      Moves m (.listen .started) { m with ids := m.ids.record 0 }
  | activate (creating : m.state = .creating) : Moves m .activate { m with state := .active }
  | dial {dials} (initiator : m.qps.isInitiator = true)
      (thread : m.thread = .listening) (active : m.state = .active)
      (unstarted : m.connectStarted = false) : Moves m (.client dials)
        (lazyConnectStart { m with thread := .accepted, connectStarted := true } dials)
  | accept {dials} (initiator : m.qps.isInitiator = true) (thread : m.thread = .listening)
      (later : m.state = .active → m.connectStarted = true) :
      Moves m (.client dials) { m with thread := .accepted }
  | check (thread : m.thread = .accepted) :
      Moves m .check { m with thread := if m.qps.connected then .listening else .unconnected }
  | park (thread : m.thread = .unconnected) :
      Moves m .park { m with thread := if m.qps.connectFailed then .listening else .parked }
  | wake (thread : m.thread = .parked) (done : 0 < m.cmDone) :
      Moves m .wake { m with thread := .listening, cmDone := m.cmDone - 1 }
  | addrResolved {i} (bound : i < m.qps.numQps) (phase : (m.line i).phase = some .resolvingAddr) :
      Moves m (.addrResolved i true) (m.setPhase i (some .resolvingRoute))
  | addrFailed {i} (bound : i < m.qps.numQps) (phase : (m.line i).phase = some .resolvingAddr) :
      Moves m (.addrResolved i false) (m.handlerFailed i)
  | routeResolved {i} (bound : i < m.qps.numQps) (phase : (m.line i).phase = some .resolvingRoute) :
      Moves m (.routeResolved i true true)
        { m.setLine i (fun l => { l with phase := some .routed, connectWork := true }) with
          pd := true
          qps := m.qps.cm (.routeResolved i) }
  | routeFailed {i shared created} (bound : i < m.qps.numQps)
      (phase : (m.line i).phase = some .resolvingRoute) (failed : (shared && created) = false)
      {pd : Bool} (grows : m.pd = true → pd = true) :
      Moves m (.routeResolved i shared created) { m.handlerFailed i with pd }
  | connect {i sent} (bound : i < m.qps.numQps)
      (work : (m.line i).connectWork = true) (phase : (m.line i).phase = some .routed) :
      Moves m (.connect i sent) (m.setLine i fun l =>
        { l with connectWork := false, phase := some (if sent then .connecting else .routed) })
  | connectStale {i sent phase} (bound : i < m.qps.numQps)
      (work : (m.line i).connectWork = true) (present : (m.line i).phase = some phase)
      (unrouted : phase ≠ .routed) (live : phase ≠ .destroyed) :
      Moves m (.connect i sent) (m.setLine i fun l => { l with connectWork := false })
  | reject {admitted peerIndex c a context} (acceptor : m.qps.isInitiator = false)
      (rejected : admitted = true → m.qps.slotDecide peerIndex = none) :
      Moves m (.request admitted peerIndex c a context) { m with ids := m.ids.leak }
  | request {peerIndex c a context i}
      (acceptor : m.qps.isInitiator = false) (decided : m.qps.slotDecide peerIndex = some i)
      (shared : m.pd = true → a ≠ .unshared) :
      Moves m (.request true peerIndex c a context) (m.acceptOne i peerIndex c a context)
  | established {i c phase} (bound : i < m.qps.numQps) (present : (m.line i).phase = some phase)
      (awaited : phase = .connecting ∨ phase = .accepted) :
      Moves m (.established i c) (m.established i c)
  | down {i maxAttempts phase} (bound : i < m.qps.numQps)
      (present : (m.line i).phase = some phase) (live : phase ≠ .destroyed) :
      Moves m (.down i maxAttempts) (m.down i maxAttempts)
  | missed {i maxAttempts} (bound : i < m.qps.numQps) :
      Moves m (.missed i maxAttempts) (m.missed i maxAttempts)
  | retryStart {i} (bound : i < m.qps.numQps) (queued : (m.line i).retryQueued = true) :
      Moves m (.retryStart i)
        (m.setLine i fun l => { l with retryQueued := false, retryRunning := true })
  | retryRun {i maxAttempts d} (bound : i < m.qps.numQps)
      (running : (m.line i).retryRunning = true) (active : m.state = .active) :
      Moves m (.retryRun i maxAttempts d)
        ((m.setLine i fun l => { l with retryRunning := false }).retryRun i maxAttempts d)
  | retryEarly {i maxAttempts d} (bound : i < m.qps.numQps)
      (running : (m.line i).retryRunning = true) (inactive : m.state ≠ .active) :
      Moves m (.retryRun i maxAttempts d) (m.setLine i fun l => { l with retryRunning := false })

variable {m m' : Machine}

theorem Moves.of_connect {i : Nat} {sent : Bool} (moved : m.step (.connect i sent) = some m') :
    Moves m (.connect i sent) m' := by
  simp only [step] at moved
  split at moved
  · rename_i guard
    split at moved
    · cases moved
    · cases moved
    · rename_i phase
      cases moved
      exact .connect guard.1 guard.2 phase
    · rename_i phase live unrouted present
      cases moved
      refine .connectStale guard.1 guard.2 present ?_ ?_
      · rintro rfl
        exact unrouted rfl
      · rintro rfl
        exact live rfl
  · cases moved

theorem Moves.of_routeResolved {i : Nat} {shared created : Bool}
    (moved : m.step (.routeResolved i shared created) = some m') :
    Moves m (.routeResolved i shared created) m' := by
  obtain ⟨⟨bound, phase, -⟩, rfl⟩ := guarded moved
  cases shared with
  | false => exact .routeFailed bound phase rfl fun h : m.pd = true => h
  | true =>
    cases created with
    | false => exact .routeFailed bound phase rfl fun _ => rfl
    | true => exact .routeResolved bound phase

theorem Moves.of_client {dials : Nat → Dial} (moved : m.step (.client dials) = some m') :
    Moves m (.client dials) m' := by
  obtain ⟨⟨initiator, thread⟩, rfl⟩ := guarded moved
  split
  · rename_i first
    exact .dial initiator thread first.1 (by simpa using first.2)
  · rename_i later
    refine .accept initiator thread fun active => ?_
    simpa [active] using later

theorem Moves.of_request {admitted : Bool} {peerIndex : Option Nat} {c : Capabilities}
    {a : Accepting} {context : Bool}
    (moved : m.step (.request admitted peerIndex c a context) = some m') :
    Moves m (.request admitted peerIndex c a context) m' := by
  obtain ⟨⟨passive, -, shared⟩, rfl⟩ := guarded moved
  have acceptor : m.qps.isInitiator = false := by simpa using passive
  unfold connectRequest
  split
  · rename_i passed
    subst passed
    split
    · rename_i unfit
      exact .reject acceptor fun _ => unfit
    · rename_i i decided
      exact .request acceptor decided shared
  · rename_i refused
    exact .reject acceptor fun passed => absurd passed refused

theorem moves_of_step {e : Event} (moved : m.step e = some m') : Moves m e m' := by
  cases e with
  | client dials => exact .of_client moved
  | connect i sent => exact .of_connect moved
  | routeResolved i shared created => exact .of_routeResolved moved
  | request admitted peerIndex c a context => exact .of_request moved
  | listen d =>
    obtain ⟨⟨-, -, free⟩, rfl⟩ := guarded moved
    cases d with
    | unmade => exact .unlistened
    | refused => exact .unbound
    | started => exact .listening free
  | activate =>
    obtain ⟨creating, rfl⟩ := guarded moved
    exact .activate creating
  | check =>
    obtain ⟨thread, rfl⟩ := guarded moved
    exact .check thread
  | park =>
    obtain ⟨thread, rfl⟩ := guarded moved
    exact .park thread
  | wake =>
    obtain ⟨⟨thread, done⟩, rfl⟩ := guarded moved
    exact .wake thread done
  | addrResolved i routed =>
    obtain ⟨⟨bound, phase⟩, rfl⟩ := guarded moved
    cases routed with
    | false => exact .addrFailed bound phase
    | true => exact .addrResolved bound phase
  | established i c =>
    obtain ⟨⟨bound, present | present⟩, rfl⟩ := guarded moved
    · exact .established bound present (.inl rfl)
    · exact .established bound present (.inr rfl)
  | down i maxAttempts =>
    obtain ⟨⟨bound, any⟩, rfl⟩ := guarded moved
    obtain ⟨phase, present, live⟩ := (Option.any_eq_true ..).mp any
    exact .down bound present (by simpa using live)
  | missed i maxAttempts =>
    obtain ⟨bound, rfl⟩ := guarded moved
    exact .missed bound
  | retryStart i =>
    obtain ⟨⟨bound, queued, -⟩, rfl⟩ := guarded moved
    exact .retryStart bound queued
  | retryRun i maxAttempts d =>
    obtain ⟨⟨bound, running⟩, rfl⟩ := guarded moved
    split
    · exact .retryRun bound running ‹_›
    · exact .retryEarly bound running ‹_›

end Machine

end Urp.Conn
