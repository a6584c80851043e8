import Urp.Conn.Counters

/-!
# Who destroys an id
-/

namespace Urp.Conn.Machine

open Urp.Lib Urp.Control List
open Function (update update_of_ne update_self)

def clean (m : Machine) : Event → Bool
  | .addrResolved _ routed => routed
  | .routeResolved _ shared created => shared && created
  | .request admitted peerIndex _ _ _ => admitted && (m.qps.slotDecide peerIndex).isSome
  | _ => true

def Accounted (m : Machine) : Prop :=
  m.ids.Owned (m.qps.numQps + 1) ∧
    ∀ id < m.cleanup.ids.next, m.cleanup.ids.Gone (m.qps.numQps + 1) id

theorem accounted_iff (m : Machine) : m.Accounted ↔ m.ids.Owned (m.qps.numQps + 1) := by
  refine ⟨fun accounted => accounted.1, fun owned => ⟨owned, ?_⟩⟩
  obtain ⟨next, gone⟩ := owned.disposeAll
  intro id small
  exact gone id (next ▸ small)

structure Recorded (m : Machine) : Prop where
  known : m.ids.Known
  present : ∀ i < m.qps.numQps, ∀ phase, (m.line i).phase = some phase →
    ∃ id, m.ids.place (i + 1) = some id
  undialed : m.qps.isInitiator = true → m.connectStarted = false → ∀ i < m.qps.numQps,
    m.ids.place (i + 1) = none

theorem recorded_init (isInitiator : Bool) (numQps numBufs : Nat) :
    (init isInitiator numQps numBufs).Recorded where
  known p id held := by cases held
  present i _ phase present := by cases present
  undialed _ _ i _ := rfl

section Steps

variable {m m' : Machine} {i : Nat}

theorem Recorded.aside (r : m.Recorded) (ids : m'.ids = m.ids)
    (numQps : m'.qps.numQps = m.qps.numQps)
    (phases : ∀ k phase, (m'.line k).phase = some phase → ∃ before, (m.line k).phase = some before)
    (role : m'.qps.isInitiator = m.qps.isInitiator)
    (started : m'.connectStarted = m.connectStarted) : m'.Recorded where
  known := by
    rw [ids]
    exact r.known
  present k inside phase present := by
    obtain ⟨before, was⟩ := phases k phase present
    rw [ids]
    exact r.present k (numQps ▸ inside) before was
  undialed initiator unstarted k inside := by
    rw [ids]
    exact r.undialed (role ▸ initiator) (started ▸ unstarted) k (numQps ▸ inside)

variable {line : Nat → Line} {phase : CmPhase}

theorem phases_update {l : Line}
    (was : (m.line i).phase = some phase) (updated : line = update m.line i l) (k : Nat)
    (after : CmPhase) (present : (line k).phase = some after) :
    ∃ before, (m.line k).phase = some before := by
  by_cases self : k = i
  · exact ⟨phase, self ▸ was⟩
  · rw [updated, update_of_ne self] at present
    exact ⟨after, present⟩

theorem phases_keep {l : Line} (updated : line = update m.line i l)
    (keeps : l.phase = (m.line i).phase) (k : Nat) (after : CmPhase)
    (present : (line k).phase = some after) : ∃ before, (m.line k).phase = some before := by
  by_cases self : k = i
  · rw [updated, self, update_self, keeps] at present
    exact ⟨after, self ▸ present⟩
  · rw [updated, update_of_ne self] at present
    exact ⟨after, present⟩

/-! ## Dialing -/

theorem place_lazyDial_of_ne (dials : Nat → Dial) {k : Nat} (other : k ≠ i) :
    (lazyDial dials m i).ids.place (k + 1) = m.ids.place (k + 1) := by
  have differ : k + 1 ≠ i + 1 := fun same => other (Nat.succ.inj same)
  unfold lazyDial
  cases dials i with
  | unmade | refused => rfl
  | started => exact update_of_ne differ ..

variable {places : Nat}

theorem owned_lazyDial (owned : m.ids.Owned places) (bound : i + 1 < places)
    (free : m.ids.place (i + 1) = none) (dials : Nat → Dial) :
    (lazyDial dials m i).ids.Owned places := by
  unfold lazyDial
  cases dials i with
  | unmade => exact owned
  | refused => exact owned.discard true
  | started => exact owned.record bound free

theorem owned_lazyConnectStart (owned : m.ids.Owned places)
    (bound : m.qps.numQps < places) (free : ∀ i < m.qps.numQps, m.ids.place (i + 1) = none)
    (dials : Nat → Dial) : (m.lazyConnectStart dials).ids.Owned places := by
  have each : ∀ i ∈ List.range m.qps.numQps, i + 1 < places ∧ m.ids.place (i + 1) = none :=
    fun i member => ⟨Nat.lt_of_le_of_lt (mem_range.mp member) bound, free i (mem_range.mp member)⟩
  have distinct : (List.range m.qps.numQps).Nodup := nodup_range
  unfold lazyConnectStart
  generalize List.range m.qps.numQps = is at each distinct
  clear free bound
  induction is generalizing m with
  | nil => exact owned
  | cons i is ih =>
    obtain ⟨absent, distinct⟩ := nodup_cons.mp distinct
    refine ih (owned_lazyDial owned (each i mem_cons_self).1 (each i mem_cons_self).2
      dials) ?_ distinct
    intro k member
    have other : k ≠ i := fun same => absent (same ▸ member)
    rw [place_lazyDial_of_ne dials other]
    exact each k (mem_cons_of_mem i member)

theorem known_lazyConnectStart (known : m.ids.Known) (dials : Nat → Dial) :
    (m.lazyConnectStart dials).ids.Known := by
  unfold lazyConnectStart
  generalize List.range m.qps.numQps = is
  induction is generalizing m with
  | nil => exact known
  | cons i is ih =>
    refine ih ?_
    unfold lazyDial
    cases dials i with
    | unmade => exact known
    | refused => exact known.discard true
    | started => exact known.record (i + 1)

theorem present_lazyConnectStart {k : Nat}
    (present : ∀ phase, (m.line k).phase = some phase → ∃ id, m.ids.place (k + 1) = some id)
    (dials : Nat → Dial) (phase : CmPhase)
    (after : ((m.lazyConnectStart dials).line k).phase = some phase) :
    ∃ id, (m.lazyConnectStart dials).ids.place (k + 1) = some id := by
  unfold lazyConnectStart at after ⊢
  generalize List.range m.qps.numQps = is at after ⊢
  induction is generalizing m with
  | nil => exact present phase after
  | cons i is ih =>
    refine ih (fun before was => ?_) after
    rcases eq_or_ne k i with rfl | self
    · unfold lazyDial at was ⊢
      cases dial : dials k with
      | unmade | refused =>
        rw [dial] at was
        refine present before ?_
        simpa [qpResolveAddr, queueRetry, setLine] using was
      | started => exact ⟨m.ids.next, update_self ..⟩
    · rw [place_lazyDial_of_ne dials self]
      refine present before ?_
      rw [← was]
      unfold lazyDial
      cases dials i <;> simp [qpResolveAddr, queueRetry, setPhase, setLine, self]

/-! ## The other steps that move an id -/

@[simp] theorem ids_retryOrComplete (retries : Bool) :
    (m.retryOrComplete i retries).ids = m.ids := by
  unfold retryOrComplete
  split <;> rfl

def dialIds (c : Custody) (p : Nat) : Dial → Custody
  | .unmade => c
  | .refused => c.discard true
  | .started => c.record p

theorem ids_retryRun (m : Machine) (i maxAttempts : Nat) (d : Dial) :
    (m.retryRun i maxAttempts d).ids = dialIds (m.ids.dispose (i + 1)) (i + 1) d := by
  cases d <;> simp [retryRun, qpResolveAddr, dialIds]

theorem known_dialIds {c : Custody} (known : c.Known) (p : Nat) (d : Dial) :
    (dialIds c p d).Known := by
  cases d with
  | unmade => exact known
  | refused => exact known.discard true
  | started => exact known.record p

theorem owned_dialIds {c : Custody} {places p : Nat} (owned : c.Owned places) (bound : p < places)
    (free : c.place p = none) (d : Dial) : (dialIds c p d).Owned places := by
  cases d with
  | unmade => exact owned
  | refused => exact owned.discard true
  | started => exact owned.record bound free

theorem place_dispose_self (c : Custody) (p : Nat) : (c.dispose p).place p = none := by
  rw [Custody.place_dispose, update_self]

theorem place_dispose_of_ne (c : Custody) {p k : Nat} (other : k ≠ p) :
    (c.dispose p).place k = c.place k := by
  rw [Custody.place_dispose, update_of_ne other]

theorem Recorded.handlerFailed (r : m.Recorded)
    (present : (m.line i).phase = some phase) (pd : Bool) :
    Recorded { m.handlerFailed i with pd } where
  known := r.known.kill (i + 1)
  present k inside after there := by
    obtain ⟨before, was⟩ := phases_update present rfl k after there
    obtain ⟨id, placed⟩ := r.present k inside before was
    exact ⟨id, (congrFun (Custody.place_kill m.ids (i + 1)) (k + 1)).trans placed⟩
  undialed initiator unstarted k inside :=
    (congrFun (Custody.place_kill m.ids (i + 1)) (k + 1)).trans
      (r.undialed initiator unstarted k inside)

theorem Recorded.acceptOne (r : m.Recorded) (acceptor : m.qps.isInitiator = false)
    {peerIndex : Option Nat} (decided : m.qps.slotDecide peerIndex = some i) (c : Capabilities)
    (a : Accepting) (context : Bool) : (m.acceptOne i peerIndex c a context).Recorded := by
  have numQps := (m.qps.sameBut_acceptOne decided c a).numQps
  have role : (m.acceptOne i peerIndex c a context).qps.isInitiator = false := by
    rw [qps_acceptOne]
    exact (m.qps.isInitiator_cm (.connectRequest peerIndex c a)).trans acceptor
  have elsewhere : ∀ k ≠ i, (m.acceptOne i peerIndex c a context).ids.place (k + 1) =
      m.ids.place (k + 1) := by
    intro k other
    have differ : k + 1 ≠ i + 1 := fun same => other (Nat.succ.inj same)
    cases a with
    | unshared => rfl
    | uncreated => exact place_dispose_of_ne m.ids differ
    | accepted =>
      exact (update_of_ne differ ..).trans (place_dispose_of_ne m.ids differ)
  refine ⟨?_, ?_, ?_⟩
  · cases a with
    | unshared => exact r.known.discard false
    | uncreated => exact (r.known.dispose (i + 1)).discard context
    | accepted => exact (r.known.dispose (i + 1)).record (i + 1)
  · rw [qps_acceptOne, numQps]
    intro k inside phase present
    rcases eq_or_ne k i with rfl | self
    · cases a with
      | unshared => exact r.present k inside phase present
      | uncreated => simp [Machine.acceptOne, setPhase, setLine] at present
      | accepted => exact ⟨_, update_self ..⟩
    · rw [elsewhere k self]
      rw [line_acceptOne_of_ne self] at present
      exact r.present k inside phase present
  · intro initiator
    cases role.symm.trans initiator

theorem Recorded.retryRun (r : m.Recorded) (started : m.connectStarted = true)
    (maxAttempts : Nat) (d : Dial) : (m.retryRun i maxAttempts d).Recorded := by
  have still : (m.retryRun i maxAttempts d).connectStarted = m.connectStarted := by
    cases d <;> simp [Machine.retryRun, qpResolveAddr, setPhase, setLine]
  have numQps := (m.qps.sameBut_retry i maxAttempts (decide (d = .started))).numQps
  refine ⟨?_, ?_, ?_⟩
  · rw [ids_retryRun]
    exact known_dialIds (r.known.dispose (i + 1)) (i + 1) d
  · rw [qps_retryRun, numQps, ids_retryRun, line_retryRun]
    intro k inside phase present
    rcases eq_or_ne k i with rfl | self
    · cases d with
      | unmade | refused => simp at present
      | started => exact ⟨_, update_self ..⟩
    · have differ : k + 1 ≠ i + 1 := fun same => self (Nat.succ.inj same)
      rw [update_of_ne self] at present
      obtain ⟨id, placed⟩ := r.present k inside phase present
      refine ⟨id, ?_⟩
      rw [← placed, ← place_dispose_of_ne m.ids differ]
      cases d with
      | unmade | refused => rfl
      | started => exact update_of_ne differ ..
  · intro _ unstarted
    rw [still, started] at unstarted
    cases unstarted

theorem Recorded.step (r : m.Recorded) (d : m.Disciplined) {e : Event}
    (moved : m.step e = some m') : m'.Recorded := by
  cases moves_of_step moved with
  | unlistened => exact r
  | unbound => exact ⟨r.known.discard true, r.present, r.undialed⟩
  | listening free =>
    have elsewhere : ∀ k, (m.ids.record 0).place (k + 1) = m.ids.place (k + 1) :=
      fun k => by rw [Custody.place_record, update_of_ne (Nat.succ_ne_zero k)]
    refine ⟨r.known.record 0, fun k inside phase present => ?_,
      fun initiator unstarted k inside => ?_⟩
    · rw [elsewhere]
      exact r.present k inside phase present
    · rw [elsewhere]
      exact r.undialed initiator unstarted k inside
  | activate creating => exact r.aside rfl rfl (fun _ phase was => ⟨phase, was⟩) rfl rfl
  | @dial dials initiator thread active unstarted =>
    have dialed := dialed_lazyConnectStart
      { m with thread := .accepted, connectStarted := true } dials
    refine ⟨?_, fun k inside phase present => ?_, ?_⟩
    · refine known_lazyConnectStart ?_ dials
      exact r.known
    · rw [dialed.slots.numQps] at inside
      refine present_lazyConnectStart ?_ dials phase present
      exact r.present k inside
    · intro _ still
      rw [dialed.connectStarted] at still
      cases still
  | accept initiator thread later | check thread | park thread | wake thread done =>
    exact r.aside rfl rfl (fun _ phase was => ⟨phase, was⟩) rfl rfl
  | addrResolved bound phase | routeResolved bound phase | connect bound work phase =>
    exact r.aside rfl rfl (phases_update phase rfl) rfl rfl
  | addrFailed bound phase => exact r.handlerFailed phase m.pd
  | routeFailed bound phase failed grows => exact r.handlerFailed phase _
  | connectStale bound work present unrouted live =>
    exact r.aside rfl rfl (phases_update present rfl) rfl rfl
  | reject acceptor rejected => exact ⟨r.known.leak, r.present, r.undialed⟩
  | request acceptor decided shared => exact r.acceptOne acceptor decided _ _ _
  | @established i c phase bound present awaited =>
    exact r.aside rfl (Qps.numQps_established m.qps i c) (phases_update present rfl)
      (m.qps.isInitiator_cm (.established i c)) rfl
  | @down i maxAttempts phase bound present live =>
    refine r.aside ?_ ?_ (phases_update present (line_down m i maxAttempts)) ?_ ?_
    · simp [Machine.down, setPhase, setLine]
    · rw [Machine.down, qps_retryOrComplete]
      exact (m.qps.sameBut_down i maxAttempts).numQps
    · rw [Machine.down, qps_retryOrComplete]
      exact m.qps.isInitiator_cm (.down i maxAttempts)
    · simp [Machine.down, setPhase, setLine]
  | @missed i maxAttempts bound =>
    refine r.aside ?_ ?_ ?_ ?_ ?_
    · unfold Machine.missed
      split <;> simp
    · rw [qps_missed]
      exact (m.qps.sameBut_missed i maxAttempts).numQps
    · intro k after present
      rcases line_missed m i maxAttempts with same | ⟨-, -, updated⟩
      · rw [same] at present
        exact ⟨after, present⟩
      · exact phases_keep updated rfl k after present
    · rw [qps_missed]
      exact m.qps.isInitiator_cm (.missed i maxAttempts)
    · unfold Machine.missed
      split <;> simp
  | retryStart bound queued | retryEarly bound running inactive =>
    exact r.aside rfl rfl (phases_keep rfl rfl) rfl rfl
  | @retryRun i maxAttempts dial bound running active =>
    have taken : Recorded (m.setLine i fun l => { l with retryRunning := false }) :=
      r.aside rfl rfl (phases_keep rfl rfl) rfl rfl
    exact taken.retryRun (d.dialing bound running).2 maxAttempts dial

/-! ## Exactly the clean steps keep the ids -/

theorem owned_acceptOne (owned : m.ids.Owned places) (bound : i + 1 < places)
    (peerIndex : Option Nat) (c : Capabilities) (a : Accepting) (context : Bool) :
    (m.acceptOne i peerIndex c a context).ids.Owned places := by
  cases a with
  | unshared => exact owned.discard false
  | uncreated => exact (owned.dispose bound).discard context
  | accepted => exact (owned.dispose bound).record bound (place_dispose_self m.ids (i + 1))

theorem Recorded.owned_step_iff (r : m.Recorded)
    (owned : m.ids.Owned (m.qps.numQps + 1)) {e : Event} (moved : m.step e = some m') :
    m.clean e = true ↔ m'.ids.Owned (m.qps.numQps + 1) := by
  cases moves_of_step moved with
  | unbound => exact iff_of_true rfl (owned.discard true)
  | listening free => exact iff_of_true rfl (owned.record (Nat.succ_pos _) free)
  | dial initiator thread active unstarted =>
    refine iff_of_true rfl (owned_lazyConnectStart ?_ (Nat.lt_succ_self _) ?_ _)
    · exact owned
    · exact r.undialed initiator unstarted
  | unlistened | activate creating | accept initiator thread later | check thread | park thread
  | wake thread done | addrResolved bound phase | routeResolved bound phase
  | connect bound work phase | connectStale bound work present unrouted live
  | established bound present awaited | retryStart bound queued
  | retryEarly bound running inactive => exact iff_of_true rfl owned
  | addrFailed bound phase =>
    obtain ⟨id, placed⟩ := r.present _ bound _ phase
    exact iff_of_false Bool.false_ne_true (Custody.not_owned_kill (Nat.succ_lt_succ bound) placed)
  | @routeFailed i shared created bound phase failed pd grows =>
    obtain ⟨id, placed⟩ := r.present _ bound _ phase
    refine iff_of_false ?_ (Custody.not_owned_kill (Nat.succ_lt_succ bound) placed)
    rw [clean, failed]
    exact Bool.false_ne_true
  | @reject admitted peerIndex c a context acceptor rejected =>
    refine iff_of_false ?_ owned.not_leak
    rw [clean, Bool.and_eq_true]
    rintro ⟨passed, decided⟩
    rw [rejected passed] at decided
    cases decided
  | @request peerIndex c a context i acceptor decided shared =>
    refine iff_of_true ?_ (owned_acceptOne owned (Nat.succ_lt_succ (Qps.slotDecide_lt decided)) ..)
    rw [clean, decided]
    rfl
  | down bound present live =>
    refine iff_of_true rfl ?_
    rwa [Machine.down, ids_retryOrComplete]
  | missed bound =>
    refine iff_of_true rfl ?_
    unfold Machine.missed
    split
    · rwa [ids_retryOrComplete]
    · exact owned
  | @retryRun i maxAttempts dial bound running active =>
    have bound := Nat.succ_lt_succ bound
    refine iff_of_true rfl ?_
    rw [ids_retryRun]
    exact owned_dialIds (owned.dispose bound) bound (place_dispose_self m.ids (i + 1)) dial

end Steps

/-- In every state of a run each id is recorded once or was destroyed once with its context, and the
cleanup would destroy the rest, exactly if no request was rejected and no handler of a queue pair's
id failed. -/
theorem ids_accounted_iff (isInitiator : Bool) (numQps : NumQps) (numBufs : Nat)
    {events : List Event} {m : Machine}
    (reached : run step (init isInitiator numQps numBufs) events = some m) :
    Throughout step Accounted (init isInitiator numQps numBufs) events ↔
      Along step (fun m e => m.clean e = true) (init isInitiator numQps numBufs) events := by
  refine throughout_iff (I := fun m => m.Disciplined ∧ m.Recorded) ?_ ?_
    ⟨disciplined_init isInitiator numBufs (NumQps.word numQps),
      recorded_init isInitiator numQps numBufs⟩ ?_ reached
  · exact fun s e s' ⟨d, r⟩ _ _ moved => ⟨d.step moved, r.step d moved⟩
  · intro s e s' ⟨d, r⟩ accounted moved
    rw [accounted_iff, numQps_step moved]
    exact r.owned_step_iff ((accounted_iff s).mp accounted) moved
  · exact (accounted_iff _).mpr (Custody.owned_empty _)

def reaccepted : List Event :=
  [.listen .started, .activate, .request true none ⟨true, true, true, true⟩ .accepted true,
    .established 0 ⟨true, true, true, true⟩, .down 0 5,
    .request true none ⟨true, true, true, true⟩ .accepted true]

theorem ids_accounted_reaccepted :
    ∃ m, run step (init false 1 16) reaccepted = some m ∧ m.ids.next = 3 ∧
      Throughout step Accounted (init false 1 16) reaccepted := by
  obtain ⟨m, reached, count⟩ : ∃ m, run step (init false 1 16) reaccepted = some m ∧
      m.ids.next = 3 := by decide +kernel
  exact ⟨m, reached, count,
    (ids_accounted_iff false ⟨1, by decide⟩ 16 reached).mpr (by decide +kernel)⟩

/-- The id of a rejected request is in no place and never destroyed, not by the cleanup either. An
id whose handler failed stays in its place although it is destroyed, and the cleanup destroys it
again. -/
theorem rejected_id_leaks_failed_id_dangles :
    (∃ m, run step (init false 1 16) [.listen .started, .activate,
        .request false none ⟨true, true, true, true⟩ .accepted true] = some m ∧
      m.ids.holders 2 1 = 0 ∧ m.ids.destroyed 1 = 0 ∧ m.cleanup.ids.destroyed 1 = 0) ∧
    ∃ m, run step (init true 1 16) [.activate, .client (fun _ => .started),
        .addrResolved 0 false] = some m ∧
      m.ids.place 1 = some 0 ∧ m.ids.destroyed 0 = 1 ∧ m.cleanup.ids.destroyed 0 = 2 := by
  decide +kernel

end Urp.Conn.Machine
