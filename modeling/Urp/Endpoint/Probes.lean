import Urp.Conn.Control
import Urp.Endpoint.Qps
import Urp.Lib.Run

/-!
# Probes and the kind of the peer
-/

namespace Urp

open Urp.Lib Urp.Conn List Option Bool
open Urp.Control (EpKind)

/-! ## What connection events leave of a queue pair -/

structure Calm (a b : Qp) : Prop where
  established : b.established = true → a.established = true ∧ (a.cmId = true → b.cmId = true)
  health : b.health = a.health ∨ b.health = .draining

theorem Calm.refl (a : Qp) : Calm a a := ⟨fun up => ⟨up, id⟩, .inl rfl⟩

theorem Calm.trans {a b c : Qp} (first : Calm a b) (second : Calm b c) : Calm a c where
  established up := by
    obtain ⟨before, kept⟩ := second.established up
    obtain ⟨start, keeps⟩ := first.established before
    exact ⟨start, fun there => kept (keeps there)⟩
  health := by
    rcases second.health with same | down
    · rw [same]
      exact first.health
    · exact .inr down

namespace Qps

theorem modify_qp (q : Qps) (k : Nat) (f : Qp → Qp) (i : Nat) :
    (q.modify k f).qp i = if i = k then f (q.qp k) else q.qp i := by
  simp [modify, Function.update_apply]

section Calm

variable (q : Qps) (k i maxAttempts : Nat)

theorem calm_modify {f : Qp → Qp} (calm : Calm (q.qp k) (f (q.qp k))) :
    Calm (q.qp i) ((q.modify k f).qp i) := by
  rw [modify_qp]
  split
  · rename_i same
    exact same ▸ calm
  · exact .refl _

theorem calm_demote : Calm (q.qp i) ((q.demote k).qp i) :=
  calm_modify (f := fun qp => { qp with established := false }) q k i
    ⟨fun up => by simp at up, .inl rfl⟩

theorem calm_demoteEstablished : Calm (q.qp i) ((q.demoteEstablished k).qp i) := by
  unfold demoteEstablished
  split
  · exact calm_demote q k i
  · exact .refl _

theorem calm_releaseSlot : Calm (q.qp i) ((q.releaseSlot k).qp i) :=
  calm_modify (f := fun qp => { qp with acceptSlotHeld := false }) q k i
    ⟨fun up => ⟨up, id⟩, .inl rfl⟩

theorem calm_retryConnect : Calm (q.qp i) ((q.retryConnect k maxAttempts).qp i) := by
  unfold retryConnect
  split
  · exact calm_modify q k i ⟨fun up => ⟨up, id⟩, .inl rfl⟩
  · exact .refl _

theorem calm_hardTeardown : Calm (q.qp i) ((q.hardTeardown k).qp i) :=
  calm_modify q k i ⟨fun up => by simp at up, .inl rfl⟩

theorem calm_down : Calm (q.qp i) ((q.down k maxAttempts).qp i) := by
  unfold down
  split
  · refine (calm_demoteEstablished q k i).trans ?_
    generalize q.demoteEstablished k = q
    refine Calm.trans ?_ (calm_retryConnect _ k i maxAttempts)
    split
    · exact calm_releaseSlot q k i
    · exact .refl _
  · exact .refl _

theorem calm_missed : Calm (q.qp i) ((q.missed k maxAttempts).qp i) := by
  unfold missed
  split
  · have drained : Calm (q.qp i) ((q.modify k fun qp => { qp with health := .draining }).qp i) :=
      calm_modify q k i ⟨fun up => ⟨up, id⟩, .inr rfl⟩
    dsimp only
    split
    · exact (drained.trans (calm_demote _ k i)).trans (calm_retryConnect _ k i maxAttempts)
    · exact drained
  · exact .refl _

theorem calm_retry (dialed : Bool) : Calm (q.qp i) ((q.retry k maxAttempts dialed).qp i) := by
  unfold retry
  refine (calm_hardTeardown q k i).trans ?_
  split
  · exact calm_modify _ k i ⟨fun up => ⟨up, fun _ => rfl⟩, .inl rfl⟩
  · exact calm_retryConnect _ k i maxAttempts

theorem calm_releaseStale : Calm (q.qp i) ((q.releaseStale k).qp i) := by
  unfold releaseStale
  split
  · exact (calm_demoteEstablished q k i).trans (calm_releaseSlot _ k i)
  · exact .refl _

theorem calm_teardownStale : Calm (q.qp i) ((q.teardownStale k).qp i) := by
  unfold teardownStale
  split
  · exact calm_hardTeardown q k i
  · exact .refl _

theorem calm_claim (c : Capabilities) : Calm (q.qp i) ((q.claim k c).qp i) := by
  have same : (q.claim k c).qp i = (q.modify k fun qp =>
      { qp with
        cmId := true
        qp := true
        acceptSlotHeld := true
        peerSupportsWindow := c.window
        peerSupportsTstamp := c.tstamp }).qp i := rfl
  rw [same]
  exact calm_modify q k i ⟨fun up => ⟨up, fun _ => rfl⟩, .inl rfl⟩

theorem calm_acceptOne (peerIndex : Option Nat) (c : Capabilities) (a : Accepting) :
    Calm (q.qp i) ((q.acceptOne peerIndex c a).qp i) := by
  unfold acceptOne
  split
  · exact .refl _
  · rename_i slot decided
    cases a with
    | unshared => exact calm_releaseStale q slot i
    | uncreated => exact (calm_releaseStale q slot i).trans (calm_teardownStale _ slot i)
    | accepted =>
      exact ((calm_releaseStale q slot i).trans (calm_teardownStale _ slot i)).trans
        (calm_claim _ slot i c)

end Calm

theorem acceptOne_torn {q : Qps} {peerIndex : Option Nat} {i : Nat} (c : Capabilities)
    {a : Accepting} (decided : q.slotDecide peerIndex = some i) (torn : a ≠ .unshared)
    (listed : (q.qp i).established = true → (q.qp i).cmId = true) :
    ((q.acceptOne peerIndex c a).qp i).established = false := by
  have stale : (((q.releaseStale i).teardownStale i).qp i).established = false := by
    have calm := calm_releaseStale q i i
    unfold teardownStale
    split
    · simp [hardTeardown, modify_qp]
    · rename_i absent
      by_contra up
      obtain ⟨before, kept⟩ := calm.established (by simpa using up)
      exact absent (kept (listed before))
  unfold acceptOne
  rw [decided]
  cases a with
  | unshared => exact absurd rfl torn
  | uncreated => exact stale
  | accepted =>
    have claimed := (calm_claim ((q.releaseStale i).teardownStale i) i i c).established
    by_contra up
    rw [(claimed (by simpa using up)).1] at stale
    cases stale

theorem latch_qp (q : Qps) (i : Nat) (c : Capabilities) : (q.latch i c).qp = q.qp := by
  unfold latch
  split <;> rfl

theorem established_qp {q : Qps} {k : Nat} (inside : k < q.numQps) (c : Capabilities) (i : Nat) :
    ((q.established k c).qp i) = if i = k then q.establish c (q.qp k) else q.qp i := by
  rw [established, if_pos inside, latch_qp]
  exact modify_qp q k _ i

theorem calm_cm (q : Qps) {i : Nat} {e : CmEvent} (other : ∀ c, e ≠ .established i c) :
    Calm (q.qp i) ((q.cm e).qp i) := by
  cases e with
  | dial k =>
    exact calm_modify (f := fun qp => { qp with cmId := true }) q k i
      ⟨fun up => ⟨up, fun _ => rfl⟩, .inl rfl⟩
  | routeResolved k =>
    exact calm_modify (f := fun qp => { qp with qp := true }) q k i ⟨fun up => ⟨up, id⟩, .inl rfl⟩
  | connectRequest peerIndex c a => exact calm_acceptOne q i peerIndex c a
  | established k c =>
    have unnamed : i ≠ k := by
      rintro rfl
      exact other c rfl
    by_cases inside : k < q.numQps
    · change Calm _ ((q.established k c).qp i)
      rw [established_qp inside, if_neg unnamed]
      exact .refl _
    · change Calm _ ((q.established k c).qp i)
      rw [established, if_neg inside]
      exact .refl _
  | down k maxAttempts => exact calm_down q k i maxAttempts
  | missed k maxAttempts => exact calm_missed q k i maxAttempts
  | retry k maxAttempts dialed => exact calm_retry q k i maxAttempts dialed

end Qps

/-! ## Probing -/

namespace Probes

def missThreshold : Nat := 3

/-- The probe fields of `struct urp_qp`. -/
structure Probe where
  peerIsFast : Bool
  probeSeq : Nat
  lastPingNs : Nat
  consecutiveMisses : Nat
  consecutivePongs : Nat
  rttEwmaNs : Nat

inductive Sent where
  | endpoint (auth : List UInt8) (kind qpIndex caps : UInt8) (pad : List UInt8)
  | foreign (bytes : List UInt8)

def Sent.bytes : Sent → List UInt8
  | .endpoint auth kind qpIndex caps pad => privBuildFull auth kind qpIndex caps ++ pad
  | .foreign bytes => bytes

def Sent.fast : Sent → Bool
  | .endpoint _ kind _ _ _ => kind == EpKind.fast.byte
  | .foreign _ => false

def readsFast (priv : List UInt8) (authLen : Nat) : Bool :=
  (privPeerKind priv authLen).any (· == EpKind.fast.byte)

/-- `sentFast` and `pinged` remember what the peer sent and whether a fast peer got a PING. -/
structure State where
  auth : List UInt8
  probing : Bool
  qps : Qps
  probe : Nat → Probe
  sentFast : Nat → Bool
  pinged : Bool

def State.init (auth : List UInt8) (probing isInitiator : Bool) (numQps numBufs : Nat) : State where
  auth := auth
  probing := probing
  qps := .init isInitiator numQps numBufs
  probe _ := ⟨false, 0, 0, 0, 0, 0⟩
  sentFast _ := false
  pinged := false

inductive Event where
  | dial (i : Nat)
  | routeResolved (i : Nat)
  | connectRequest (sent : Sent) (sysctls : Sysctls) (a : Accepting) (failed : Bool)
  | established (i : Nat) (sent : Sent) (sysctls : Sysctls)
  | down (i maxAttempts : Nat)
  | retry (i maxAttempts : Nat) (dialed : Bool)
  | ping (i now : Nat) (buffer : Bool) (maxAttempts : Nat)
  | pong (i tSendMono now : Nat)

namespace State

def capabilities (s : State) (priv : List UInt8) (sysctls : Sysctls) : Capabilities :=
  ⟨peerSupportsWindow priv s.auth.length, peerSupportsTstamp priv s.auth.length,
    sysctls.advertises, sysctls.samples⟩

def setProbe (s : State) (i : Nat) (p : Probe) : State :=
  { s with probe := Function.update s.probe i p }

def request (s : State) (sent : Sent) (sysctls : Sysctls) (a : Accepting) (failed : Bool) : State :=
  if s.auth.isPrefixOf sent.bytes then
    let peerIndex := (privPeerQpIndex sent.bytes s.auth.length).map UInt8.toNat
    let accepted :=
      { s with qps := s.qps.acceptOne peerIndex (s.capabilities sent.bytes sysctls) a }
    match s.qps.slotDecide peerIndex with
    | none => accepted
    | some i =>
      if a = .accepted ∨ (a = .uncreated ∧ failed) then
        { accepted.setProbe i { s.probe i with
            peerIsFast := readsFast sent.bytes s.auth.length } with
          sentFast := Function.update s.sentFast i sent.fast }
      else accepted
  else s

def establishes (s : State) (i : Nat) (sent : Sent) (sysctls : Sysctls) : State :=
  if i < s.qps.numQps then
    let priv := if s.qps.isInitiator then sent.bytes else []
    { s.setProbe i { s.probe i with
        peerIsFast := readsFast priv s.auth.length
        lastPingNs := 0
        consecutiveMisses := 0
        consecutivePongs := 0 } with
      qps := s.qps.established i (s.capabilities priv sysctls)
      sentFast := if s.qps.isInitiator then Function.update s.sentFast i sent.fast else s.sentFast }
  else s

def emitPing (s : State) (i now : Nat) (buffer : Bool) (maxAttempts : Nat) : State :=
  if (s.qps.qp i).established && (s.qps.qp i).qp then
    let late := decide ((s.probe i).lastPingNs ≠ 0)
    let p := if late then
        { s.probe i with
          consecutiveMisses := incr32 (s.probe i).consecutiveMisses
          consecutivePongs := 0 }
      else s.probe i
    let demotes := late && decide (missThreshold ≤ p.consecutiveMisses) &&
      decide ((s.qps.qp i).health = .active)
    let s' := { s.setProbe i p with qps := if demotes then s.qps.missed i maxAttempts else s.qps }
    if demotes && s.qps.isInitiator then s'
    else if buffer then
      { s'.setProbe i { p with probeSeq := incr32 p.probeSeq, lastPingNs := now } with
        pinged := s.pinged || s.sentFast i }
    else s'
  else s

def receivePong (s : State) (i tSendMono now : Nat) : State :=
  if tSendMono < now then
    let rtt := now - tSendMono
    let p := s.probe i
    s.setProbe i { p with
      rttEwmaNs := if p.rttEwmaNs = 0 then rtt else wrap64 (p.rttEwmaNs * 4 + rtt) / 5
      lastPingNs := 0
      consecutiveMisses := 0
      consecutivePongs := incr32 p.consecutivePongs }
  else s

end State

/-- An event of `urp_cm_handler`, a turn of `urp_probe_work_fn`, or a PONG. -/
def step (s : State) : Event → Option State
  | .dial i => some { s with qps := s.qps.cm (.dial i) }
  | .routeResolved i => some { s with qps := s.qps.cm (.routeResolved i) }
  | .connectRequest sent sysctls a failed =>
    if s.qps.isInitiator then none else some (s.request sent sysctls a failed)
  | .established i sent sysctls =>
    if (s.qps.qp i).cmId then some (s.establishes i sent sysctls) else none
  | .down i maxAttempts => some { s with qps := s.qps.cm (.down i maxAttempts) }
  | .retry i maxAttempts dialed => some { s with qps := s.qps.cm (.retry i maxAttempts dialed) }
  | .ping i now buffer maxAttempts =>
    if s.probing ∧ (1 < s.qps.numQps ∨ s.qps.isInitiator) ∧ i < s.qps.numQps ∧
        (s.probe i).peerIsFast = false then
      some (s.emitPing i now buffer maxAttempts)
    else none
  | .pong i tSendMono now =>
    if i < s.qps.numQps then some (s.receivePong i tSendMono now) else none

/-! ## What a step does to the queue pairs -/

variable {e : Event}

section Steps

variable {s s' : State}

theorem request_qps (s : State) (sent : Sent) (sysctls : Sysctls) (a : Accepting) (failed : Bool) :
    (s.request sent sysctls a failed).qps = s.qps ∨
      ∃ peerIndex c, (s.request sent sysctls a failed).qps = s.qps.acceptOne peerIndex c a := by
  unfold State.request
  split
  · right
    dsimp only
    split
    · exact ⟨_, _, rfl⟩
    · split <;> exact ⟨_, _, rfl⟩
  · exact .inl rfl

theorem emitPing_qps (s : State) (i now : Nat) (buffer : Bool) (maxAttempts : Nat) :
    (s.emitPing i now buffer maxAttempts).qps = s.qps ∨
      (s.emitPing i now buffer maxAttempts).qps = s.qps.missed i maxAttempts := by
  unfold State.emitPing
  split
  · dsimp only
    generalize (decide ((s.probe i).lastPingNs ≠ 0) && decide (missThreshold ≤ _) &&
      decide ((s.qps.qp i).health = .active)) = demotes
    cases demotes with
    | false =>
      left
      simp only [Bool.false_and, false_eq_true, if_false]
      split <;> rfl
    | true =>
      right
      split
      · rfl
      · split <;> rfl
  · exact .inl rfl

def Event.establishes (i : Nat) : Event → Bool
  | .established k _ _ => k == i
  | _ => false

section

variable (moved : step s e = some s')
include moved

theorem qps_step :
    s'.qps = s.qps ∨ ∃ cm, s'.qps = s.qps.cm cm ∧
      ∀ i, e.establishes i = false → ∀ c, cm ≠ .established i c := by
  cases e with
  | dial k =>
    cases moved
    exact .inr ⟨.dial k, rfl, nofun⟩
  | routeResolved k =>
    cases moved
    exact .inr ⟨.routeResolved k, rfl, nofun⟩
  | connectRequest sent sysctls a failed =>
    simp only [step, ite_none_left_eq_some, Option.some.injEq] at moved
    obtain ⟨-, rfl⟩ := moved
    rcases request_qps s sent sysctls a failed with same | ⟨peerIndex, c, accepted⟩
    · exact .inl same
    · exact .inr ⟨.connectRequest peerIndex c a, accepted, nofun⟩
  | established k sent sysctls =>
    obtain ⟨-, rfl⟩ := guarded moved
    unfold State.establishes
    split
    · refine .inr ⟨.established k _, rfl, ?_⟩
      rintro i other c ⟨⟩
      simp [Event.establishes] at other
    · exact .inl rfl
  | down k maxAttempts =>
    cases moved
    exact .inr ⟨.down k maxAttempts, rfl, nofun⟩
  | retry k maxAttempts dialed =>
    cases moved
    exact .inr ⟨.retry k maxAttempts dialed, rfl, nofun⟩
  | ping k now buffer maxAttempts =>
    obtain ⟨-, rfl⟩ := guarded moved
    rcases emitPing_qps s k now buffer maxAttempts with same | missed
    · exact .inl same
    · exact .inr ⟨.missed k maxAttempts, missed, nofun⟩
  | pong k tSendMono now =>
    obtain ⟨-, rfl⟩ := guarded moved
    unfold State.receivePong
    split <;> exact .inl rfl

theorem calm_step {i : Nat}
    (other : e.establishes i = false) : Calm (s.qps.qp i) (s'.qps.qp i) := by
  rcases qps_step moved with same | ⟨cm, same, others⟩
  · rw [same]
    exact .refl _
  · rw [same]
    exact Qps.calm_cm s.qps (others i other)

theorem numQps_step : s'.qps.numQps = s.qps.numQps := by
  rcases qps_step moved with same | ⟨cm, same, -⟩
  · rw [same]
  · rw [same, Qps.numQps_cm]

end

end Steps

/-! ## A queue pair out of service -/

def outOfService (q : Qp) : Bool := q.health = .draining || q.health = .removed

def Returns (i : Nat) (s : State) (events : List Event) : Prop :=
  ∃ before after t, events = before ++ after ∧ run step s before = some t ∧
    outOfService (t.qps.qp i) = false

theorem active_of_establishes {s s' : State} {i : Nat} (inside : i < s.qps.numQps)
    (establishes : e.establishes i = true) (moved : step s e = some s') :
    (s'.qps.qp i).health = .active := by
  cases e with
  | established k sent sysctls =>
    obtain rfl : k = i := by simpa [Event.establishes] using establishes
    obtain ⟨-, rfl⟩ := guarded moved
    simp only [State.establishes, if_pos inside]
    rw [Qps.established_qp inside, if_pos rfl]
    rfl
  | dial | routeResolved | connectRequest | down | retry | ping | pong => cases establishes

/-- A queue pair that was taken out of service returns to it exactly if its connection is made
anew, however its probes are answered. -/
theorem returns_iff_established {s t : State} {i : Nat} {events : List Event}
    (demoted : (s.qps.qp i).health = .draining) (inside : i < s.qps.numQps)
    (reached : run step s events = some t) :
    Returns i s events ↔ ∃ e ∈ events, e.establishes i = true := by
  constructor
  · rintro ⟨before, after, m, rfl, there, service⟩
    by_contra none
    have others : ∀ e ∈ before, e.establishes i = false := by
      intro e mem
      by_contra establishes
      exact none ⟨e, mem_append_left _ mem, by simpa using establishes⟩
    have out : (m.qps.qp i).health = .draining := by
      refine run_preserves (A := fun _ e => e.establishes i = false)
        (P := fun s => (s.qps.qp i).health = .draining) ?_ demoted
        (along_of_forall (fun _ => others) s) there
      intro s e s' draining other moved
      rcases (calm_step moved other).health with same | down
      · rwa [same]
      · exact down
    simp [outOfService, out] at service
  · rintro ⟨e, mem, establishes⟩
    obtain ⟨before, after, rfl⟩ := append_of_mem mem
    obtain ⟨m, first, rest⟩ := run_append_eq_some.mp reached
    obtain ⟨n, moved, -⟩ := run_cons_eq_some.mp rest
    have width : m.qps.numQps = s.qps.numQps :=
      run_invariant (P := fun x => x.qps.numQps = s.qps.numQps)
        (fun _ _ _ same stepped => (numQps_step stepped).trans same) rfl first
    refine ⟨before ++ [e], after, n, by simp, ?_, ?_⟩
    · exact run_append_eq_some.mpr ⟨m, first, run_cons_eq_some.mpr ⟨n, moved, rfl⟩⟩
    · simp [outOfService, active_of_establishes (width ▸ inside) establishes moved]

def unanswered : List Event :=
  let sysctls : Sysctls := ⟨1, 0⟩
  [.connectRequest (.endpoint [] 0 0 1 []) sysctls .accepted false,
    .connectRequest (.endpoint [] 0 1 1 []) sysctls .accepted false,
    .established 0 (.foreign []) sysctls, .established 1 (.foreign []) sysctls,
    .ping 0 1 true 5, .ping 0 2 true 5, .ping 0 3 true 5, .ping 0 4 true 5]

def reconnected : List Event :=
  [.pong 0 4 5, .connectRequest (.endpoint [] 0 0 1 []) ⟨1, 0⟩ .accepted false,
    .established 0 (.foreign []) ⟨1, 0⟩]

theorem returns_reconnected :
    ∃ s, run step (.init [] true false 2 16) unanswered = some s ∧ Returns 0 s reconnected := by
  have evaluated : (run step (.init [] true false 2 16) unanswered).any (fun s =>
      decide ((s.qps.qp 0).health = .draining) && (decide (0 < s.qps.numQps) &&
        (run step s reconnected).isSome)) = true := by
    decide +kernel
  obtain ⟨s, reached, values⟩ := (Option.any_eq_true ..).mp evaluated
  simp only [and_eq_true, decide_eq_true_eq] at values
  obtain ⟨demoted, inside, goes⟩ := values
  obtain ⟨t, later⟩ := isSome_iff_exists.mp goes
  exact ⟨s, reached, (returns_iff_established demoted inside later).mpr
    ⟨.established 0 (.foreign []) ⟨1, 0⟩, by simp [reconnected], rfl⟩⟩

structure Demoted (s : State) : Prop where
  probing : s.probing = true
  several : 1 < s.qps.numQps
  slow : (s.probe 0).peerIsFast = false
  up : (s.qps.qp 0).established = true ∧ (s.qps.qp 0).qp = true
  out : (s.qps.qp 0).health = .draining

def round : List Event := [.ping 0 1 true 5, .pong 0 1 2]

theorem Demoted.round {s : State} (demoted : Demoted s) :
    ∃ t, run step s round = some t ∧ Demoted t := by
  have inside : 0 < s.qps.numQps := Nat.lt_trans Nat.one_pos demoted.several
  obtain ⟨pinged, moved, same, slow, probing⟩ : ∃ s', step s (.ping 0 1 true 5) = some s' ∧
      s'.qps = s.qps ∧ (s'.probe 0).peerIsFast = false ∧ s'.probing = true := by
    refine ⟨s.emitPing 0 1 true 5, ?_, ?_, ?_, ?_⟩
    · simp only [step, demoted.probing, demoted.several, demoted.slow, inside]
      simp
    all_goals
      simp only [State.emitPing, demoted.up, demoted.out, State.setProbe]
      simp [demoted.slow, demoted.probing]
    split
    · exact demoted.slow
    · rfl
  refine ⟨pinged.receivePong 0 1 2, ?_, ?_⟩
  · have answered : step pinged (.pong 0 1 2) = some (pinged.receivePong 0 1 2) := by
      rw [step, same, if_pos inside]
    rw [Probes.round, run, moved, bind_some, run, answered, bind_some, run_nil]
  · refine ⟨probing, same ▸ demoted.several, ?_, same ▸ demoted.up, same ▸ demoted.out⟩
    simp [State.receivePong, State.setProbe, slow]

/-- The queue pair stays out of service however many PINGs are answered while it is up. -/
theorem answers_do_not_restore : ∃ s, run step (.init [] true false 2 16) unanswered = some s ∧
      (s.qps.qp 0).established = true ∧ (s.qps.qp 0).health = .draining ∧
      ∀ n, ∃ t, run step s (List.replicate n round).flatten = some t ∧
        (t.qps.qp 0).eligible = false ∧ (t.qps.qp 0).established = true := by
  have evaluated : (run step (.init [] true false 2 16) unanswered).any (fun s =>
      s.probing && (decide (1 < s.qps.numQps) && (!(s.probe 0).peerIsFast &&
        ((s.qps.qp 0).established && ((s.qps.qp 0).qp &&
          decide ((s.qps.qp 0).health = .draining)))))) = true := by
    decide +kernel
  obtain ⟨s, reached, values⟩ := (Option.any_eq_true ..).mp evaluated
  simp only [and_eq_true, decide_eq_true_eq, not_eq_true'] at values
  obtain ⟨probing, several, slow, up, qp, out⟩ := values
  refine ⟨s, reached, up, out, fun n => ?_⟩
  have later : ∃ t, run step s (List.replicate n round).flatten = some t ∧ Demoted t := by
    clear reached
    induction n generalizing s with
    | zero => exact ⟨s, rfl, probing, several, slow, ⟨up, qp⟩, out⟩
    | succ n ih =>
      obtain ⟨m, first, demoted⟩ := Demoted.round ⟨probing, several, slow, ⟨up, qp⟩, out⟩
      obtain ⟨t, rest, last⟩ := ih m demoted.probing demoted.several demoted.slow demoted.up.1
        demoted.up.2 demoted.out
      refine ⟨t, ?_, last⟩
      rw [replicate_succ, flatten_cons]
      exact run_append_eq_some.mpr ⟨m, first, rest⟩
  obtain ⟨t, last, demoted⟩ := later
  exact ⟨t, last, by simp [Qp.eligible, demoted.out], demoted.up.1⟩

/-! ## The kind of the peer -/

structure Known (s : State) : Prop where
  flag : ∀ i, (s.qps.qp i).established = true → (s.probe i).peerIsFast = s.sentFast i
  pinged : s.pinged = false

def plain (s : State) : Event → Bool
  | .established i sent _ =>
    if i < s.qps.numQps then
      if s.qps.isInitiator then readsFast sent.bytes s.auth.length == sent.fast
      else !s.sentFast i
    else true
  | _ => true

section Kind

variable {s s' : State}

theorem readsFast_nil (authLen : Nat) : readsFast [] authLen = false := by
  have absent : privPeerKind [] authLen = none := privPeer_absent (by simp) _ _
  simp [readsFast, absent]

theorem known_established {i : Nat} (known : Known s) (sent : Sent) (sysctls : Sysctls) :
    plain s (.established i sent sysctls) = true ↔ Known (s.establishes i sent sysctls) := by
  unfold plain State.establishes
  by_cases inside : i < s.qps.numQps
  · simp only [if_pos inside]
    constructor
    · intro truthful
      refine ⟨fun k up => ?_, known.pinged⟩
      rw [Qps.established_qp inside] at up
      rcases eq_or_ne k i with rfl | named
      · cases role : s.qps.isInitiator with
        | true => simpa [State.setProbe, role] using truthful
        | false => simpa [State.setProbe, role, readsFast_nil] using truthful
      · rw [if_neg named] at up
        have before := known.flag k up
        cases role : s.qps.isInitiator <;> simpa [State.setProbe, role, named] using before
    · intro known'
      have flag := known'.flag i (by rw [Qps.established_qp inside, if_pos rfl]; rfl)
      cases role : s.qps.isInitiator with
      | true => simpa [State.setProbe, role] using flag
      | false => simpa [State.setProbe, role, readsFast_nil] using flag
  · simp only [if_neg inside, true_iff]
    exact known

theorem known_request (known : Known s)
    (listed : ∀ i, (s.qps.qp i).established = true → (s.qps.qp i).cmId = true) (sent : Sent)
    (sysctls : Sysctls) (a : Accepting) (failed : Bool) :
    Known (s.request sent sysctls a failed) := by
  unfold State.request
  split
  · dsimp only
    generalize (privPeerQpIndex sent.bytes s.auth.length).map UInt8.toNat = peerIndex
    generalize s.capabilities sent.bytes sysctls = c
    have calm := fun k => (Qps.calm_acceptOne s.qps k peerIndex c a).established
    split
    · exact ⟨fun k up => known.flag k (calm k up).1, known.pinged⟩
    · rename_i i decided
      split
      · rename_i noted
        have torn : a ≠ .unshared := by
          rintro rfl
          rcases noted with accepted | ⟨uncreated, -⟩
          · cases accepted
          · cases uncreated
        have released := Qps.acceptOne_torn c decided torn (listed i)
        refine ⟨fun k up => ?_, known.pinged⟩
        rcases eq_or_ne k i with rfl | named
        · exact nomatch released.symm.trans up
        · simpa [State.setProbe, named] using known.flag k (calm k up).1
      · exact ⟨fun k up => known.flag k (calm k up).1, known.pinged⟩
  · exact known

theorem emitPing_fields (s : State) (i now : Nat) (buffer : Bool) (maxAttempts : Nat) :
    (∀ k, ((s.emitPing i now buffer maxAttempts).probe k).peerIsFast = (s.probe k).peerIsFast) ∧
      (s.emitPing i now buffer maxAttempts).sentFast = s.sentFast ∧
      ((s.emitPing i now buffer maxAttempts).pinged = s.pinged ∨
        (s.qps.qp i).established = true ∧
          (s.emitPing i now buffer maxAttempts).pinged = (s.pinged || s.sentFast i)) := by
  unfold State.emitPing
  split
  · rename_i up
    rw [and_eq_true] at up
    dsimp only
    have flag : (if decide ((s.probe i).lastPingNs ≠ 0) = true then
        { s.probe i with
          consecutiveMisses := incr32 (s.probe i).consecutiveMisses
          consecutivePongs := 0 }
        else s.probe i).peerIsFast = (s.probe i).peerIsFast := by
      split <;> rfl
    generalize (if decide ((s.probe i).lastPingNs ≠ 0) = true then
      { s.probe i with
        consecutiveMisses := incr32 (s.probe i).consecutiveMisses
        consecutivePongs := 0 }
      else s.probe i) = p at flag
    generalize (decide ((s.probe i).lastPingNs ≠ 0) && decide (missThreshold ≤ _) &&
      decide ((s.qps.qp i).health = .active)) = demotes
    split
    · refine ⟨fun k => ?_, rfl, .inl rfl⟩
      by_cases named : k = i <;> simp [State.setProbe, named, flag]
    · split
      · refine ⟨fun k => ?_, rfl, .inr ⟨up.1, rfl⟩⟩
        by_cases named : k = i <;> simp [State.setProbe, named, flag]
      · refine ⟨fun k => ?_, rfl, .inl rfl⟩
        by_cases named : k = i <;> simp [State.setProbe, named, flag]
  · exact ⟨fun _ => rfl, rfl, .inl rfl⟩

theorem known_step (known : Known s)
    (listed : ∀ i, (s.qps.qp i).established = true → (s.qps.qp i).cmId = true)
    (moved : step s e = some s') : plain s e = true ↔ Known s' := by
  have kept : (∀ k, (s'.probe k).peerIsFast = (s.probe k).peerIsFast) →
      s'.sentFast = s.sentFast → s'.pinged = s.pinged →
      (∀ k, (s'.qps.qp k).established = true → (s.qps.qp k).established = true) → Known s' := by
    intro flags sent pinged calm
    exact ⟨fun k up => by rw [flags, sent]; exact known.flag k (calm k up),
      pinged.trans known.pinged⟩
  have calm : ∀ k, e.establishes k = false → (s'.qps.qp k).established = true →
      (s.qps.qp k).established = true :=
    fun k other up => ((calm_step moved other).established up).1
  cases e with
  | established i sent sysctls =>
    obtain ⟨-, rfl⟩ := guarded moved
    exact known_established known sent sysctls
  | connectRequest sent sysctls a failed =>
    simp only [step, ite_none_left_eq_some, Option.some.injEq] at moved
    obtain ⟨-, rfl⟩ := moved
    exact iff_of_true rfl (known_request known listed sent sysctls a failed)
  | dial i | routeResolved i | down i maxAttempts | retry i maxAttempts dialed =>
    cases moved
    exact iff_of_true rfl (kept (fun _ => rfl) rfl rfl fun k => calm k rfl)
  | ping i now buffer maxAttempts =>
    obtain ⟨⟨-, -, -, slow⟩, rfl⟩ := guarded moved
    obtain ⟨flags, sent, pinged⟩ := emitPing_fields s i now buffer maxAttempts
    refine iff_of_true rfl (kept flags sent ?_ fun k => calm k rfl)
    rcases pinged with same | ⟨up, noted⟩
    · exact same
    · rw [noted, ← known.flag i up, slow, Bool.or_false]
  | pong i tSendMono now =>
    obtain ⟨-, rfl⟩ := guarded moved
    refine iff_of_true rfl (kept (fun k => ?_) ?_ ?_ fun k => calm k rfl)
    · unfold State.receivePong
      split
      · by_cases named : k = i <;> simp [State.setProbe, named]
      · rfl
    · unfold State.receivePong
      split <;> rfl
    · unfold State.receivePong
      split <;> rfl

theorem listed_step (listed : ∀ i, (s.qps.qp i).established = true → (s.qps.qp i).cmId = true)
    (moved : step s e = some s') :
    ∀ i, (s'.qps.qp i).established = true → (s'.qps.qp i).cmId = true := by
  intro i up
  cases new : e.establishes i with
  | false =>
    obtain ⟨before, kept⟩ := (calm_step moved new).established up
    exact kept (listed i before)
  | true =>
    cases e with
    | established k sent sysctls =>
      obtain rfl : k = i := by simpa [Event.establishes] using new
      obtain ⟨there, rfl⟩ := guarded moved
      unfold State.establishes
      split
      · rename_i inside
        rwa [Qps.established_qp inside, if_pos rfl]
      · exact there
    | dial | routeResolved | connectRequest | down | retry | ping | pong => cases new

end Kind

/-- While a queue pair is established its flag says what the peer sent, and no PING goes to a fast
peer, exactly in the runs in which every reply is read as it was meant and no acceptor gets a fast
peer. -/
theorem known_throughout_iff (auth : List UInt8) (probing isInitiator : Bool) (numQps numBufs : Nat)
    {events : List Event} {t : State}
    (reached : run step (.init auth probing isInitiator numQps numBufs) events = some t) :
    Throughout step Known (.init auth probing isInitiator numQps numBufs) events ↔
      Along step (fun s e => plain s e = true)
        (.init auth probing isInitiator numQps numBufs) events := by
  refine throughout_iff
    (I := fun s => ∀ i, (s.qps.qp i).established = true → (s.qps.qp i).cmId = true)
    (fun s e s' listed _ _ moved => listed_step listed moved)
    (fun s e s' listed known moved => known_step known listed moved) ?_ ?_ reached
  · intro i up
    cases up
  · exact ⟨fun i up => absurd up false_ne_true, rfl⟩

def fastReply : List Event :=
  [.dial 0, .routeResolved 0, .established 0 (.endpoint [] 1 0 1 []) ⟨1, 0⟩]

theorem known_throughout_reply : Throughout step Known (.init [] true true 1 16) fastReply ∧
      ∃ t, run step (.init [] true true 1 16) fastReply = some t ∧
        (t.qps.qp 0).established = true ∧ (t.probe 0).peerIsFast = true := by
  obtain ⟨t, reached, values⟩ : ∃ t, run step (.init [] true true 1 16) fastReply = some t ∧
      (t.qps.qp 0).established = true ∧ (t.probe 0).peerIsFast = true := by decide +kernel
  exact ⟨(known_throughout_iff [] true true 1 16 reached).mpr (by decide +kernel),
    t, reached, values⟩

def fastRequest : List Event :=
  let sysctls : Sysctls := ⟨1, 0⟩
  [.connectRequest (.endpoint [] 1 0 1 []) sysctls .accepted false,
    .connectRequest (.endpoint [] 1 1 1 []) sysctls .accepted false,
    .established 0 (.foreign []) sysctls, .established 1 (.foreign []) sysctls,
    .ping 0 1 true 5]

/-- The event that brings up the connection wipes out what the acceptor had read in the request,
and the fast peer gets a PING. An initiator with a key does not find the kind in the reply of a fast
acceptor without one. -/
theorem fast_peer_forgotten : (∃ s, run step (.init [] true false 2 16) fastRequest = some s ∧
      (s.qps.qp 0).established = true ∧ s.sentFast 0 = true ∧ (s.probe 0).peerIsFast = false ∧
      s.pinged = true) ∧
    ∃ s, run step (.init (List.replicate 33 1) true true 1 16) fastReply = some s ∧
      (s.qps.qp 0).established = true ∧ s.sentFast 0 = true ∧ (s.probe 0).peerIsFast = false := by
  decide +kernel

end Probes

end Urp
