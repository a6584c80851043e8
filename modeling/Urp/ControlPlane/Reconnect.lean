import Urp.ControlPlane.Logic

/-!
# The reconnecting client

The client runs one session after the other and sleeps between them.
-/

namespace Urp.ControlPlane

open Urp.Lib

structure ConnectConfig where
  baseMs : UInt32
  ceilMs : UInt32
  doRendezvous : Bool

inductive Code where
  | unauthenticated
  | resourceExhausted
  | other
deriving DecidableEq

inductive SelectEvent where
  | timer (sent : Bool)
  | rdmaDown (sent : Bool)
  | message (msg : Except Code (Option HeartbeatPong))

/-- What a session meets. -/
structure Peer where
  channel : Bool
  rendezvous : Except Code Unit
  initialSent : Bool
  heartbeat : Except Code Unit
  events : List SelectEvent

/-- A session in its loop, with the pongs that it has received. -/
structure Session where
  gate : Gate
  seq : Nat
  notified : Nat
  pongs : List PongClass

def nextSeq (prev : Nat) : Nat := saturatingIncr64 prev

def Session.select (s : Session) : SelectEvent → Option ConnEvent × Session
  | .timer sent | .rdmaDown sent =>
    (if sent then none else some .transportError, { s with seq := nextSeq s.seq })
  | .message (.ok (some pong)) =>
    let received := { s with pongs := s.pongs ++ [classifyPong pong] }
    match classifyPong pong with
    | .ready =>
      let (opened, gate) := s.gate.observe true true
      (none, { received with gate := gate, notified := s.notified + opened.toNat })
    | .notReady => (none, received)
    | .busy ms => (some (.busyPong ms), received)
    | .draining => (some .drainingPong, received)
  | .message (.ok none) => (some .transportError, s)
  | .message (.error .unauthenticated) => (some .unauthenticated, s)
  | .message (.error _) => (some .transportError, s)

def Session.loop : Session → List SelectEvent → Option (ConnEvent × Session)
  | _, [] => none
  | s, e :: es =>
    match s.select e with
    | (some ev, s') => some (ev, s')
    | (none, s') => s'.loop es

def session (cfg : ConnectConfig) (gate : Gate) (peer : Peer) : Option (ConnEvent × Session) :=
  let s : Session := ⟨gate, 0, 0, []⟩
  if !peer.channel then some (.transportError, s)
  else if cfg.doRendezvous ∧ peer.rendezvous = .error .unauthenticated then
    some (.unauthenticated, s)
  else if !peer.initialSent then some (.transportError, s)
  else
    match peer.heartbeat with
    | .ok () => s.loop peer.events
    | .error .unauthenticated => some (.unauthenticated, s)
    | .error .resourceExhausted => some (.busyPong cfg.baseMs.toNat, s)
    | .error .other => some (.transportError, s)

structure Ending where
  pongs : List PongClass
  event : ConnEvent
  delay : Nat
deriving DecidableEq

structure Client where
  gate : Gate
  backoff : Backoff

def Client.start (cfg : ConnectConfig) : Client := ⟨⟨false⟩, .new cfg.baseMs cfg.ceilMs⟩

def ConnAction.delay : ConnAction → Nat
  | .openGate | .wait => minBackoffMs
  | .reconnectAfter ms => ms
  | .hardFailAfter ms => ms

def runSessions (cfg : ConnectConfig) : Client → List Peer → Option (List Ending)
  | _, [] => some []
  | c, peer :: peers => do
    let (ev, s) ← session cfg c.gate peer
    let (action, backoff) := planConn ev c.backoff
    let rest ← runSessions cfg ⟨s.gate, backoff⟩ peers
    return ⟨s.pongs, ev, action.delay⟩ :: rest

/-! ## The two counts -/

def ConnEvent.backsOff : ConnEvent → Bool
  | .transportError | .drainingPong => true
  | _ => false

def failures (endings : List Ending) : Nat := endings.countP (·.event.backsOff)

def sinceReady (endings : List Ending) : Nat :=
  endings.foldl (fun n e => (if .ready ∈ e.pongs then 0 else n) + e.event.backsOff.toNat) 0

def Ending.since (earlier : List Ending) (e : Ending) : Nat :=
  if .ready ∈ e.pongs then 0 else sinceReady earlier

theorem sinceReady_le (endings : List Ending) : sinceReady endings ≤ failures endings := by
  have general : ∀ n m, n ≤ m →
      endings.foldl (fun n e => (if .ready ∈ e.pongs then 0 else n) + e.event.backsOff.toNat) n ≤
        m + failures endings := by
    induction endings with
    | nil => exact fun n m le => le
    | cons e endings ih =>
      intro n m le
      have next : (if .ready ∈ e.pongs then 0 else n) + e.event.backsOff.toNat ≤
          m + e.event.backsOff.toNat := by
        split <;> omega
      have rest := ih _ _ next
      have count : failures (e :: endings) = failures endings + e.event.backsOff.toNat := by
        rw [failures, List.countP_cons, failures]
        cases e.event.backsOff <;> rfl
      rw [List.foldl_cons, count]
      omega
  have whole := general 0 0 (Nat.le_refl _)
  rwa [Nat.zero_add] at whole

theorem since_le (earlier : List Ending) (e : Ending) : e.since earlier ≤ failures earlier := by
  unfold Ending.since
  split
  · exact Nat.zero_le _
  · exact sinceReady_le earlier

/-! ## The sessions -/

section Sessions

variable {cfg : ConnectConfig}

def ConnEvent.Ends : ConnEvent → Prop
  | .readyPong | .notReadyPong => False
  | _ => True

variable {s : Session} {ev : ConnEvent}

theorem select_ends {s' : Session} {e : SelectEvent}
    (ended : s.select e = (some ev, s')) : ev.Ends := by
  unfold Session.select at ended
  split at ended
  · split at ended <;> cases ended
    trivial
  · split at ended <;> cases ended
    trivial
  · split at ended <;> cases ended <;> trivial
  all_goals
    cases ended
    trivial

theorem loop_ends {s' : Session} {es : List SelectEvent}
    (ended : s.loop es = some (ev, s')) : ev.Ends := by
  induction es generalizing s with
  | nil => cases ended
  | cons e es ih =>
    unfold Session.loop at ended
    split at ended
    next ev' s₁ selected =>
      cases ended
      exact select_ends selected
    next => exact ih ended

theorem session_ends {gate : Gate} {peer : Peer}
    (ended : session cfg gate peer = some (ev, s)) : ev.Ends := by
  unfold session at ended
  extract_lets start at ended
  clear_value start
  split_ifs at ended
  · cases ended
    trivial
  · cases ended
    trivial
  · cases ended
    trivial
  · split at ended
    next => exact loop_ends ended
    all_goals
      cases ended
      trivial

theorem planConn_next (ends : ev.Ends) (b : Backoff) :
    (planConn ev b).2 = if ev.backsOff then b.next.2 else b := by
  cases ev with
  | readyPong | notReadyPong => cases ends
  | busyPong ms | drainingPong | transportError | unauthenticated => rfl

theorem planConn_delay (backsOff : ev.backsOff = true) (b : Backoff) :
    (planConn ev b).1.delay = max b.next.1 minBackoffMs := by
  cases ev with
  | drainingPong | transportError => rfl
  | _ => cases backsOff

theorem runSessions_cons {c : Client} {peer : Peer} {peers : List Peer} {endings : List Ending}
    (ran : runSessions cfg c (peer :: peers) = some endings) :
    ∃ ev s rest, session cfg c.gate peer = some (ev, s) ∧
      runSessions cfg ⟨s.gate, (planConn ev c.backoff).2⟩ peers = some rest ∧
      endings = ⟨s.pongs, ev, (planConn ev c.backoff).1.delay⟩ :: rest := by
  obtain ⟨⟨ev, s⟩, ended, ran⟩ := Option.bind_eq_some_iff.mp ran
  obtain ⟨rest, later, made⟩ := Option.bind_eq_some_iff.mp ran
  exact ⟨ev, s, rest, ended, later, (Option.some.inj made).symm⟩

theorem runSessions_delay {c : Client} {peers : List Peer} {earlier later : List Ending}
    {e : Ending} (ran : runSessions cfg c peers = some (earlier ++ e :: later))
    (backsOff : e.event.backsOff = true) :
    e.delay = max (nextBackoff (c.backoff.attempt + failures earlier) c.backoff.baseMs
      c.backoff.ceilMs) minBackoffMs := by
  induction peers generalizing c earlier with
  | nil =>
    have none := Option.some.inj ran
    cases earlier <;> cases none
  | cons peer peers ih =>
    obtain ⟨ev, s, rest, ended, ran, made⟩ := runSessions_cons ran
    cases earlier with
    | nil =>
      obtain ⟨rfl, rfl⟩ := List.cons.inj made
      exact planConn_delay backsOff c.backoff
    | cons first earlier =>
      obtain ⟨rfl, rfl⟩ := List.cons.inj made
      have count : failures (⟨s.pongs, ev, (planConn ev c.backoff).1.delay⟩ :: earlier) =
          failures earlier + if ev.backsOff then 1 else 0 := List.countP_cons
      rw [ih ran, planConn_next (session_ends ended), count, nextBackoff_eq, nextBackoff_eq]
      split
      · have attempts : min (min (c.backoff.attempt + 1) u32Max + failures earlier) 31 =
            min (c.backoff.attempt + (failures earlier + 1)) 31 := by
          unfold u32Max
          omega
        rw [← attempts]
        rfl
      · rfl

end Sessions

theorem delay_eq_iff {base ceil k t : Nat} (le : k ≤ t) :
    max (min (base * 2 ^ t) ceil) minBackoffMs = max minBackoffMs (min (base * 2 ^ k) ceil) ↔
      t = k ∨ ceil ≤ base * 2 ^ k ∨ min (base * 2 ^ t) ceil ≤ minBackoffMs := by
  rcases Nat.eq_or_lt_of_le le with rfl | less
  · simp [Nat.max_comm]
  · have doubled : 2 * (base * 2 ^ k) ≤ base * 2 ^ t := by
      calc 2 * (base * 2 ^ k) = base * 2 ^ (k + 1) := by
            rw [Nat.pow_succ, ← Nat.mul_assoc base, Nat.mul_comm 2]
        _ ≤ base * 2 ^ t := Nat.mul_le_mul_left _ (Nat.pow_le_pow_right (by decide) less)
    omega

/-- The delay after an ending is the one that starts again at each ready pong where no such ending
came before a ready pong, or where the delay no longer grows. -/
theorem reconnect_delay_iff {cfg : ConnectConfig} {peers : List Peer}
    {earlier later : List Ending} {e : Ending}
    (ran : runSessions cfg (.start cfg) peers = some (earlier ++ e :: later))
    (backsOff : e.event.backsOff = true) (few : e.since earlier ≤ 31) :
    e.delay = max minBackoffMs (min (cfg.baseMs.toNat * 2 ^ e.since earlier) cfg.ceilMs.toNat) ↔
      min (failures earlier) 31 = e.since earlier ∨
      cfg.ceilMs.toNat ≤ cfg.baseMs.toNat * 2 ^ e.since earlier ∨
      min (cfg.baseMs.toNat * 2 ^ min (failures earlier) 31) cfg.ceilMs.toNat ≤ minBackoffMs := by
  have delay := runSessions_delay ran backsOff
  rw [nextBackoff_eq] at delay
  have le : e.since earlier ≤ min (failures earlier) 31 := Nat.le_min.mpr ⟨since_le earlier e, few⟩
  have attempts : (Client.start cfg).backoff.attempt + failures earlier = failures earlier :=
    Nat.zero_add _
  rw [attempts] at delay
  rw [delay]
  exact delay_eq_iff le

section Runs

def hundredMs : ConnectConfig := ⟨100, 2000, true⟩

def unreachable : Peer := ⟨true, .error .other, true, .error .other, []⟩

def readyOnce : Peer :=
  ⟨true, .ok (), true, .ok (), [.message (.ok (some ⟨true, 0, 0⟩)), .message (.ok none)]⟩

theorem second_failure_delay :
    (⟨[], .transportError, 200⟩ : Ending).delay = max minBackoffMs (min (100 * 2 ^ 1) 2000) := by
  have ran : runSessions hundredMs (.start hundredMs) [unreachable, unreachable] =
      some ([⟨[], .transportError, 100⟩] ++ ⟨[], .transportError, 200⟩ :: []) := rfl
  exact (reconnect_delay_iff ran rfl (by decide)).mpr (.inl rfl)

/-- After two failures and a ready pong, the delay is that of a third failure. -/
theorem ready_pong_ignored :
    runSessions hundredMs (.start hundredMs) [unreachable, unreachable, readyOnce] =
      some [⟨[], .transportError, 100⟩, ⟨[], .transportError, 200⟩,
        ⟨[.ready], .transportError, 400⟩] ∧
    (⟨[.ready], .transportError, 400⟩ : Ending).since
      [⟨[], .transportError, 100⟩, ⟨[], .transportError, 200⟩] = 0 ∧
    400 ≠ max minBackoffMs (min (hundredMs.baseMs.toNat * 2 ^ 0) hundredMs.ceilMs.toNat) :=
  ⟨rfl, rfl, by decide⟩

end Runs

end Urp.ControlPlane
