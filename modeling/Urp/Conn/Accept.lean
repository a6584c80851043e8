import Urp.Conn.Ownership

/-!
# The slot of a connection request
-/

namespace Urp.Conn.Machine

open Urp.Lib Urp.Control Function

/-- The request with the private data `priv`, as the handler of `ep` sees it. -/
def requestOf (ep : Endpoint) (s : Sysctls) (priv : List UInt8) (a : Accepting) (context : Bool) :
    Event :=
  .request (pskCheck ep priv) ((privPeerQpIndex priv ep.authLen).map UInt8.toNat)
    ⟨peerSupportsWindow priv ep.authLen, peerSupportsTstamp priv ep.authLen, s.advertises,
      s.samples⟩ a context

structure TakesSlot (m m' : Machine) (slot : Nat) : Prop where
  child : m'.ids.place (slot + 1) = some m.ids.next
  accepted : (m'.line slot).phase = some .accepted
  held : m'.qps.held slot = true
  fresh : m'.qps.up slot = false
  released : ∀ id, m.ids.place (slot + 1) = some id → m'.ids.destroyed id = m.ids.destroyed id + 1
  others : ∀ k ≠ slot, m'.qps.qp k = m.qps.qp k
  counted : m'.Counted

structure Accepts (m : Machine) : Prop where
  acceptor : m.qps.isInitiator = false
  disciplined : m.Disciplined
  recorded : m.Recorded
  live : m.qps.Live

section History

variable {m m' : Machine} {slot : Nat}

theorem Accepts.findsDown (x : m.Accepts) {e : Event} (moved : m.step e = some m') :
    m.findsDown e = true := by
  cases moves_of_step moved with
  | @retryRun i maxAttempts dial bound running active =>
    have passive := (x.disciplined.lines i bound).passive x.acceptor
    exact nomatch passive.2.symm.trans running
  | retryEarly bound running inactive => exact decide_eq_true fun active => absurd active inactive
  | _ => rfl

theorem Accepts.step (x : m.Accepts) {e : Event} (moved : m.step e = some m') : m'.Accepts where
  acceptor := (isInitiator_step moved).trans x.acceptor
  disciplined := x.disciplined.step moved
  recorded := x.recorded.step x.disciplined moved
  live := (x.disciplined.live_step_iff x.live moved).mp (x.findsDown moved)

theorem accepts_of_run (numQps : NumQps) (numBufs : Nat) {events : List Event}
    (reached : run Machine.step (init false numQps numBufs) events = some m) :
    m.Accepts ∧ m.qps.numQps = numQps.1 := by
  have start : (init false numQps numBufs).Accepts ∧ (init false numQps numBufs).qps.numQps =
      numQps.1 := ⟨⟨rfl, disciplined_init false numBufs (NumQps.word numQps),
      recorded_init false numQps numBufs, Qps.live_init false numBufs numQps.2.1⟩, rfl⟩
  refine run_invariant (P := fun m => m.Accepts ∧ m.qps.numQps = numQps.1) ?_ start reached
  exact fun s e s' before moved => ⟨before.1.step moved, (numQps_step moved).trans before.2⟩

theorem Accepts.takesSlot (x : m.Accepts) {peerIndex : Option Nat}
    (decided : m.qps.slotDecide peerIndex = some slot) (c : Capabilities)
    (moved : m.step (.request true peerIndex c .accepted true) =
      some (m.acceptOne slot peerIndex c .accepted true)) :
    TakesSlot m (m.acceptOne slot peerIndex c .accepted true) slot where
  child := by
    refine (update_self ..).trans (congrArg some ?_)
    exact Custody.next_dispose m.ids (slot + 1)
  accepted := congrArg Line.phase (update_self slot _ m.line)
  held := by
    rw [qps_acceptOne]
    unfold Qps.acceptOne
    rw [decided]
    exact Qps.held_claim_self ..
  fresh := by
    rw [qps_acceptOne]
    have bound := Qps.slotDecide_lt decided
    exact Qps.up_acceptOne_self decided (x.disciplined.held_of_up x.acceptor bound)
  released := by
    intro id placed
    have destroyed : ((m.ids.dispose (slot + 1)).record (slot + 1)).destroyed id =
        m.ids.destroyed id + 1 := by
      rw [Custody.dispose_of_some placed]
      exact update_self ..
    exact destroyed
  others := by
    rw [qps_acceptOne]
    exact (m.qps.sameBut_acceptOne decided c .accepted).qp
  counted := by
    have after := x.step moved
    exact after.disciplined.counted_iff.mpr after.live

theorem Accepts.takesSlot_iff (x : m.Accepts) (listening : (m.ids.place 0).isSome = true)
    (peerIndex : Option Nat) (c : Capabilities) :
    (∃ m', m.step (.request true peerIndex c .accepted true) = some m' ∧ TakesSlot m m' slot) ↔
      m.qps.slotDecide peerIndex = some slot := by
  have enabled : m.step (.request true peerIndex c .accepted true) =
      some (m.connectRequest true peerIndex c .accepted true) := by
    simp [Machine.step, x.acceptor, listening]
  cases decided : m.qps.slotDecide peerIndex with
  | none =>
    have leaked : m.connectRequest true peerIndex c .accepted true =
        { m with ids := m.ids.leak } := by simp [connectRequest, decided]
    rw [enabled, leaked]
    refine iff_of_false ?_ (by simp)
    rintro ⟨m', moved, takes⟩
    cases moved
    exact absurd (x.recorded.known _ _ takes.child) (Nat.lt_irrefl _)
  | some j =>
    have taken : m.connectRequest true peerIndex c .accepted true =
        m.acceptOne j peerIndex c .accepted true := by simp [connectRequest, decided]
    rw [taken] at enabled
    constructor
    · rintro ⟨m', moved, takes⟩
      cases enabled.symm.trans moved
      by_contra other
      have differ : slot + 1 ≠ j + 1 := fun same => other (congrArg some (Nat.succ.inj same).symm)
      have child : m.ids.place (slot + 1) = some m.ids.next := by
        rw [← place_dispose_of_ne m.ids differ, ← takes.child]
        exact (update_of_ne differ ..).symm
      exact absurd (x.recorded.known _ _ child) (Nat.lt_irrefl _)
    · intro same
      cases same
      exact ⟨_, enabled, x.takesSlot decided c enabled⟩

end History

/-- After any history, a request that passes the check is accepted into the slot of its index
exactly if the acceptor goes by the index and can read it, or the count of held slots happens to be
the index. -/
theorem request_takes_own_slot_iff {sha256 : List UInt8 → Vector UInt8 pskHashLen}
    {fastEnabled fastEnabled' : Bool} (commands commands' : List Command) {i a : Endpoint}
    (initiator : (Account.run sha256 fastEnabled commands).endpoint = some i)
    (acceptor : (Account.run sha256 fastEnabled' commands').endpoint = some a)
    (numBufs : Nat) {events : List Event} {m : Machine}
    (reached : run step (init false a.numQps numBufs) events = some m)
    (listening : (m.ids.place 0).isSome = true) {index : Nat} (bound : index < i.numQps)
    (below : index < a.numQps) (s : Sysctls) (caps : UInt8) (pad : List UInt8)
    (admitted : pskCheck a (connectPriv i index caps ++ pad) = true) :
    (∃ m', m.step (requestOf a s (connectPriv i index caps ++ pad) .accepted true) = some m' ∧
        TakesSlot m m' index) ↔
      (1 < a.numQps.1 ∧ i.authLen = a.authLen) ∨ raised m.qps.held a.numQps = index := by
  obtain ⟨x, numQps⟩ := accepts_of_run a.numQps numBufs reached
  have derived := Account.kept_run commands i initiator
  have derived' := Account.kept_run commands' a acceptor
  have count : m.qps.qpsAccepted = raised m.qps.held a.numQps := by
    rw [x.disciplined.slots.accepted, numQps]
  rw [requestOf, admitted, x.takesSlot_iff listening, Qps.slotDecide_eq_some_iff, numQps, count]
  rcases derived.admitted_cases derived' admitted with same | absent
  · rw [← same, derived.index_arrives bound]
    by_cases several : 1 < a.numQps.1
    · simp [several, below]
    · simp [several, below]
  · have unread : privPeerQpIndex (connectPriv i index caps ++ pad) a.authLen = none :=
      privPeer_absent absent _ _
    have differ : i.authLen ≠ a.authLen := fun same => by
      have arrives := derived.index_arrives bound caps pad
      rw [same, unread] at arrives
      cases arrives
    simp [unread, differ, below]

def serving : List Event :=
  [.listen .started, .activate, .request true (some 0) ⟨true, true, true, true⟩ .accepted true,
    .established 0 ⟨true, true, true, true⟩]

/-- With two queue pairs, an initiator that was reset gets its slot back. -/
theorem reset_initiator_gets_slot_back : ∃ i a m m', (Account.run plainDigest false [newEndpoint
        { initiatorConfig none with numQps := some ⟨2, by decide⟩ }]).endpoint = some i ∧
      (Account.run plainDigest false [newEndpoint
        { acceptorConfig none with numQps := some ⟨2, by decide⟩ }]).endpoint = some a ∧
      run step (init false a.numQps 16) serving = some m ∧ m.qps.up 0 = true ∧
      m.step (requestOf a ⟨1, 1⟩ (connectPriv i 0 3 ++ []) .accepted true) = some m' ∧
      TakesSlot m m' 0 := by
  have made : ∃ i a, (Account.run plainDigest false [newEndpoint
        { initiatorConfig none with numQps := some ⟨2, by decide⟩ }]).endpoint = some i ∧
      (Account.run plainDigest false [newEndpoint
        { acceptorConfig none with numQps := some ⟨2, by decide⟩ }]).endpoint = some a ∧
      0 < i.numQps.1 ∧ a.numQps.1 = 2 ∧ pskCheck a (connectPriv i 0 3 ++ []) = true ∧
      i.authLen = a.authLen := ⟨_, _, rfl, rfl, by decide, rfl, by decide, rfl⟩
  obtain ⟨i, a, initiator, acceptor, bound, two, admitted, same⟩ := made
  have evaluated : (run step (init false 2 16) serving).any (fun m =>
      decide (m.qps.up 0 = true ∧ (m.ids.place 0).isSome = true)) = true := by decide +kernel
  obtain ⟨m, reached, facts⟩ := (Option.any_eq_true ..).mp evaluated
  obtain ⟨up, listening⟩ := of_decide_eq_true facts
  rw [← two] at reached
  have below : 0 < a.numQps.1 := by rw [two]; decide
  have several : 1 < a.numQps.1 := by rw [two]; decide
  obtain ⟨m', moved, takes⟩ := (request_takes_own_slot_iff _ _ initiator acceptor 16 reached
    listening bound below ⟨1, 1⟩ 3 [] admitted).mpr (.inl ⟨several, same⟩)
  exact ⟨i, a, m, m', initiator, acceptor, reached, up, moved, takes⟩

/-- With one queue pair it is turned away: the slot of the dead connection still counts. -/
theorem reset_initiator_turned_away :
    ∃ i a m, (Account.run plainDigest false [newEndpoint (initiatorConfig none)]).endpoint =
        some i ∧
      (Account.run plainDigest false [newEndpoint (acceptorConfig none)]).endpoint = some a ∧
      pskCheck a (connectPriv i 0 3 ++ []) = true ∧
      privPeerQpIndex (connectPriv i 0 3 ++ []) a.authLen = some 0 ∧ 0 < a.numQps.1 ∧
      run step (init false a.numQps 16) serving = some m ∧
      m.step (requestOf a ⟨1, 1⟩ (connectPriv i 0 3 ++ []) .accepted true) =
        some { m with ids := m.ids.leak } := by
  have made : ∃ i a, (Account.run plainDigest false [newEndpoint (initiatorConfig none)]).endpoint =
        some i ∧
      (Account.run plainDigest false [newEndpoint (acceptorConfig none)]).endpoint = some a ∧
      pskCheck a (connectPriv i 0 3 ++ []) = true ∧
      privPeerQpIndex (connectPriv i 0 3 ++ []) a.authLen = some 0 ∧ a.numQps.1 = 1 :=
    ⟨_, _, rfl, rfl, by decide, by decide, rfl⟩
  obtain ⟨i, a, initiator, acceptor, admitted, sent, one⟩ := made
  have evaluated : (run step (init false 1 16) serving).any (fun m =>
      decide (m.qps.slotDecide (some 0) = none ∧ m.qps.isInitiator = false ∧
        (m.ids.place 0).isSome = true)) = true := by decide +kernel
  obtain ⟨m, reached, facts⟩ := (Option.any_eq_true ..).mp evaluated
  obtain ⟨full, role, listening⟩ := of_decide_eq_true facts
  refine ⟨i, a, m, initiator, acceptor, admitted, sent, by rw [one]; decide, ?_, ?_⟩
  · rwa [one]
  · have index : (some (0 : UInt8)).map UInt8.toNat = some 0 := rfl
    rw [requestOf, admitted, sent, index]
    simp [step, role, listening, connectRequest, full]

end Urp.Conn.Machine
