import Urp.Conn.Counters

/-!
# The client that waits for the connection

The accept thread sleeps with its client until the endpoint is connected or has given up.
-/

namespace Urp.Conn

open Urp.Lib Urp.Control Bool Function

def CmPhase.outstanding : CmPhase → Bool
  | .resolvingAddr | .resolvingRoute | .connecting => true
  | _ => false

def Line.retryDue (l : Line) : Bool := l.retryQueued || l.retryRunning

def Line.pending (l : Line) : Bool :=
  l.phase.any CmPhase.outstanding || l.connectWork || l.retryDue

def Line.driven (l : Line) : Bool :=
  l.phase.any CmPhase.outstanding || (l.connectWork && l.phase = some .routed) || l.retryDue

theorem Line.pending_of_driven {l : Line} (driven : l.driven = true) : l.pending = true := by
  unfold Line.driven at driven
  unfold Line.pending
  simp only [or_eq_true, and_eq_true] at driven ⊢
  rcases driven with (outstanding | work) | retry
  · exact .inl (.inl outstanding)
  · exact .inl (.inr work.1)
  · exact .inr retry

namespace Machine

def Wakeable (m : Machine) : Prop :=
  m.state = .active → m.thread = .parked →
    ((∀ i < m.qps.numQps, m.qps.up i = false → (m.line i).pending = true) ∨
      (m.qps.connectFailed = true ∧ 0 < m.cmDone)) ∧
    (0 < m.cmDone ∨ ∃ i < m.qps.numQps, m.qps.up i = false ∧ (m.line i).pending = true)

def steady (m : Machine) : Event → Bool
  | .client _ => m.state = .active
  | .addrResolved i routed => routed || (m.line i).retryDue
  | .routeResolved i shared created => (shared && created) || (m.line i).retryDue
  | .connect i sent => sent || (m.line i).phase ≠ some .routed || (m.line i).retryDue
  | e => m.findsDown e

def Cared (m : Machine) : Prop :=
  ∀ i < m.qps.numQps, m.qps.up i = false → (m.line i).driven = true

structure Cares (m m' : Machine) : Prop where
  care : m.Cared → m'.Cared ∨ (m'.qps.connectFailed = true ∧ 0 < m'.cmDone)
  done : 0 < m.cmDone → m'.Cared ∨ 0 < m'.cmDone
  failed : m.qps.connectFailed = true → m'.qps.connectFailed = true
  latched : (m.qps.connected = true → 0 < m.cmDone) → m'.qps.connected = true → 0 < m'.cmDone
  thread : m'.thread = m.thread
  started : m'.connectStarted = m.connectStarted
  state : m.state = .active → m'.state = .active

section Steps

variable {m m' : Machine} {i : Nat}

variable {l : Line}

theorem Cared.update (cared : m.Cared) (ups : Qps.SameUp m.qps m'.qps)
    (line : m'.line = Function.update m.line i l) (driven : m.qps.up i = false → l.driven = true) :
    m'.Cared := by
  intro k inside down
  rw [ups.numQps] at inside
  rw [ups.up] at down
  rw [line]
  by_cases self : k = i
  · rw [self, update_self]
    exact driven (self ▸ down)
  · rw [update_of_ne self]
    exact cared k inside down

theorem Cares.update (ups : Qps.SameUp m.qps m'.qps) (line : m'.line = Function.update m.line i l)
    (driven : m.Cared → m.qps.up i = false → l.driven = true) (done : m'.cmDone = m.cmDone)
    (failed : m'.qps.connectFailed = m.qps.connectFailed) (thread : m'.thread = m.thread)
    (started : m'.connectStarted = m.connectStarted) (state : m'.state = m.state) : Cares m m' where
  care cared := .inl (cared.update ups line (driven cared))
  done some := .inr (done ▸ some)
  failed was := failed ▸ was
  latched before connected := by
    rw [done]
    exact before (ups.connected ▸ connected)
  thread := thread
  started := started
  state active := state.trans active

theorem Cares.aside (qps : m'.qps = m.qps) (line : m'.line = m.line) (done : m'.cmDone = m.cmDone)
    (thread : m'.thread = m.thread) (started : m'.connectStarted = m.connectStarted)
    (state : m.state = .active → m'.state = .active) : Cares m m' where
  care cared := by
    refine .inl fun k inside down => ?_
    rw [line]
    rw [qps] at inside down
    exact cared k inside down
  done some := .inr (done ▸ some)
  failed was := qps ▸ was
  latched before connected := by
    rw [done]
    exact before (qps ▸ connected)
  thread := thread
  started := started
  state := state

/-! ## A queue pair that goes down -/

structure Demoted (i : Nat) (q q' : Qps) : Prop where
  others : Qps.SameBut i q q'
  initiator : q'.isInitiator = true
  attempts : (q'.qp i).connectAttempts = (q.qp i).connectAttempts
  failed : q'.connectFailed = q.connectFailed
  connected : q'.connected = true → q.connected = true

variable {q : Qps}

section

variable (initiator : q.isInitiator = true)
include initiator

theorem demoted_demote (i : Nat) : Demoted i q (q.demote i) where
  others := .update rfl (q.qp_demote i)
  initiator := initiator
  attempts := by rw [Qps.qp_demote, update_self]
  failed := rfl
  connected still := by
    simp only [Qps.demote, and_eq_true] at still
    exact still.1

theorem demoted_demoteEstablished (i : Nat) : Demoted i q (q.demoteEstablished i) := by
  unfold Qps.demoteEstablished
  split
  · exact demoted_demote initiator i
  · exact ⟨.refl i q, initiator, rfl, rfl, id⟩

theorem demoted_draining (i : Nat) :
    Demoted i q ((q.modify i fun qp => { qp with health := .draining }).demote i) := by
  have draining : Qps.SameBut i q (q.modify i fun qp => { qp with health := .draining }) :=
    .update rfl (q.qp_modify i _)
  have down := demoted_demote (q := q.modify i fun qp => { qp with health := .draining })
    initiator i
  refine ⟨draining.trans down.others, initiator, down.attempts.trans ?_, rfl, down.connected⟩
  rw [Qps.qp_modify, update_self]

theorem connectFailed_retryConnect (i maxAttempts : Nat) :
    (q.retryConnect i maxAttempts).connectFailed =
      (q.connectFailed || !shouldRetryConnect q i maxAttempts) := by
  unfold Qps.retryConnect shouldRetryConnect
  by_cases more : (q.qp i).connectAttempts < maxAttempts
  · simp [initiator, more, Qps.modify]
  · simp [initiator, more, Qps.terminal]

end

theorem Cares.retry (maxAttempts : Nat) {demoted : Qps} (live : m.qps.Live)
    (down : Demoted i m.qps demoted) (qps : m'.qps = demoted.retryConnect i maxAttempts)
    (line : m'.line = Function.update m.line i l)
    (queued : shouldRetryConnect m.qps i maxAttempts = true → l.retryQueued = true)
    (done : m'.cmDone = (if m.qps.connected && !demoted.connected then 0 else m.cmDone) +
      if shouldRetryConnect m.qps i maxAttempts then 0 else 1)
    (initiator : m.qps.isInitiator = true) (thread : m'.thread = m.thread)
    (started : m'.connectStarted = m.connectStarted) (state : m'.state = m.state) :
    Cares m m' := by
  have same := Qps.sameUp_retryConnect demoted i maxAttempts
  have others := down.others.trans (demoted.sameBut_retryConnect i maxAttempts)
  have retries : shouldRetryConnect demoted i maxAttempts =
      shouldRetryConnect m.qps i maxAttempts := by
    unfold shouldRetryConnect
    rw [down.initiator, initiator, down.attempts]
  have failed := connectFailed_retryConnect down.initiator i maxAttempts
  rw [← qps, retries] at failed
  -- with the retry queued, the other queue pairs decide
  have cares : shouldRetryConnect m.qps i maxAttempts = true →
      (∀ k < m.qps.numQps, k ≠ i → m.qps.up k = false → (m.line k).driven = true) → m'.Cared := by
    intro again rest k inside low
    rw [qps, others.numQps] at inside
    rw [line]
    by_cases self : k = i
    · rw [self, update_self]
      simp [Line.driven, Line.retryDue, queued again]
    · rw [update_of_ne self]
      refine rest k inside self ?_
      rwa [qps, Qps.up, others.qp k self] at low
  refine ⟨?_, ?_, ?_, ?_, thread, started, fun active => state.trans active⟩
  · intro cared
    cases again : shouldRetryConnect m.qps i maxAttempts with
    | true => exact .inl (cares again fun k inside _ => cared k inside)
    | false =>
      rw [again] at failed done
      refine .inr ⟨by simp [failed], ?_⟩
      rw [done]
      exact Nat.succ_pos _
  · intro some
    cases again : shouldRetryConnect m.qps i maxAttempts with
    | false =>
      refine .inr ?_
      rw [done, again]
      exact Nat.succ_pos _
    | true =>
      by_cases lost : (m.qps.connected && !demoted.connected) = true
      · -- the endpoint was connected, so every other queue pair is established
        rw [and_eq_true] at lost
        refine .inl (cares again fun k inside _ low => ?_)
        cases low.symm.trans (live.latched.mp lost.1 k inside)
      · rw [if_neg lost] at done
        exact .inr (done ▸ Nat.add_pos_left some _)
  · intro was
    rw [failed, down.failed, was, Bool.true_or]
  · intro before connected
    rw [qps, same.connected] at connected
    have kept : ¬(m.qps.connected && !demoted.connected) = true := by simp [connected]
    rw [done, if_neg kept]
    exact Nat.add_pos_left (before (down.connected connected)) _

theorem cmDone_retryOrComplete (m : Machine) (i : Nat) (retries : Bool) :
    (m.retryOrComplete i retries).cmDone = m.cmDone + if retries then 0 else 1 := by
  cases retries <;> rfl

@[simp] theorem thread_retryOrComplete (m : Machine) (i : Nat) (retries : Bool) :
    (m.retryOrComplete i retries).thread = m.thread := by
  cases retries <;> rfl

@[simp] theorem state_retryOrComplete (m : Machine) (i : Nat) (retries : Bool) :
    (m.retryOrComplete i retries).state = m.state := by
  cases retries <;> rfl

theorem cares_down (live : m.qps.Live) (initiator : m.qps.isInitiator = true)
    (bound : i < m.qps.numQps) (maxAttempts : Nat) : Cares m (m.down i maxAttempts) := by
  have down := demoted_demoteEstablished initiator i
  refine Cares.retry maxAttempts live down ?_ (line_down m i maxAttempts)
    (fun again => ?_) ?_ initiator ?_ ?_ ?_
  · have role : (m.qps.demoteEstablished i).isInitiator = true :=
      (congrArg Prod.fst (m.qps.kind_demoteEstablished i)).trans initiator
    rw [Machine.down, qps_retryOrComplete]
    simp [Qps.down, bound, role]
  · simp [again]
  · rw [Machine.down, cmDone_retryOrComplete]
    rfl
  · simp [Machine.down, setPhase, setLine]
  · simp [Machine.down, setPhase, setLine]
  · simp [Machine.down, setPhase, setLine]

theorem cares_missed (live : m.qps.Live) (initiator : m.qps.isInitiator = true)
    (maxAttempts : Nat) : Cares m (m.missed i maxAttempts) := by
  by_cases seen : (m.qps.qp i).established = true ∧ (m.qps.qp i).qp = true ∧
      (m.qps.qp i).health = .active ∧ m.qps.isInitiator = true
  · have qps : m.qps.missed i maxAttempts =
        ((m.qps.modify i fun qp => { qp with health := .draining }).demote i).retryConnect i
          maxAttempts := by
      unfold Qps.missed
      rw [if_pos ⟨seen.1, seen.2.1, seen.2.2.1⟩]
      exact if_pos initiator
    have moved : m.missed i maxAttempts = retryOrComplete { m with
          qps := m.qps.missed i maxAttempts
          cmDone := m.rearm (m.qps.demote i) } i (shouldRetryConnect m.qps i maxAttempts) :=
      if_pos seen
    rw [moved]
    refine Cares.retry maxAttempts live (demoted_draining initiator i) ?_
      (line_retryOrComplete ..) (fun again => ?_) ?_ initiator ?_ ?_ ?_
    · rw [qps_retryOrComplete, qps]
    · simp [again]
    · rw [cmDone_retryOrComplete]
      rfl
    · rw [thread_retryOrComplete]
    · rw [connectStarted_retryOrComplete]
    · rw [state_retryOrComplete]
  · have same : m.missed i maxAttempts = m := by
      have unseen : ¬((m.qps.qp i).established = true ∧ (m.qps.qp i).qp = true ∧
          (m.qps.qp i).health = .active) := fun h => seen ⟨h.1, h.2.1, h.2.2, initiator⟩
      have qps : m.qps.missed i maxAttempts = m.qps := if_neg unseen
      unfold Machine.missed
      rw [if_neg seen, qps]
    rw [same]
    exact .aside rfl rfl rfl rfl rfl id

theorem demoted_hardTeardown (initiator : q.isInitiator = true) (i : Nat) :
    Demoted i q (q.hardTeardown i) where
  others := .update rfl (q.qp_modify i _)
  initiator := initiator
  attempts := by rw [Qps.hardTeardown, Qps.qp_modify, update_self]
  failed := rfl
  connected := id

theorem cares_retryRun (live : m.qps.Live) (initiator : m.qps.isInitiator = true)
    (maxAttempts : Nat) (d : Dial) :
    Cares m ((m.setLine i fun l => { l with retryRunning := false }).retryRun i maxAttempts d) := by
  generalize taken : (m.setLine i fun l => { l with retryRunning := false }) = m₁
  have qps₁ : m₁.qps = m.qps := by rw [← taken, qps_setLine]
  have line := line_retryRun m₁ i maxAttempts d
  have line₁ : m₁.line = Function.update m.line i { m.line i with retryRunning := false } := by
    rw [← taken]
    rfl
  rw [line₁, update_idem] at line
  have torn := demoted_hardTeardown initiator i
  have others := m.qps.sameBut_retry i maxAttempts (decide (d = .started))
  have qps := qps_retryRun m₁ i maxAttempts d
  rw [qps₁] at qps
  rcases eq_or_ne d .started with rfl | dialed
  · refine ⟨fun cared => .inl fun k inside down => ?_, ?_, ?_, ?_, ?_, ?_, ?_⟩
    · rw [line]
      by_cases self : k = i
      · rw [self, update_self]
        rfl
      · rw [update_of_ne self]
        rw [qps] at inside down
        refine cared k (others.numQps ▸ inside) ?_
        rwa [Qps.up, others.qp k self] at down
    all_goals rw [← taken]
    · exact .inr
    · exact id
    · exact id
    · rfl
    · rfl
    · exact id
  · have retries : shouldRetryConnect (m.qps.hardTeardown i) i maxAttempts =
        shouldRetryConnect m.qps i maxAttempts := by
      unfold shouldRetryConnect
      rw [torn.initiator, initiator, torn.attempts]
    have kept : ¬(m.qps.connected && !(m.qps.hardTeardown i).connected) = true := by
      simp [Qps.hardTeardown, Qps.modify]
    refine Cares.retry maxAttempts live torn ?_ line (fun again => ?_) ?_ initiator ?_ ?_ ?_
    · rw [qps, decide_eq_false dialed]
      rfl
    · rw [qps₁, retries, again]
      simp [dialed]
    · rw [if_neg kept, ← retries, ← taken]
      cases d with
      | unmade | refused => exact cmDone_retryOrComplete ..
      | started => exact absurd rfl dialed
    all_goals
      rw [← taken]
      cases d <;> simp [Machine.retryRun, qpResolveAddr, setPhase, setLine]

theorem cares_established (bound : i < m.qps.numQps) (c : Capabilities) :
    Cares m (m.established i c) := by
  have connected := Qps.connected_established c bound
  have grows : m.cmDone ≤ (m.established i c).cmDone := by
    unfold Machine.established
    split
    · exact Nat.le_succ _
    · exact Nat.le_refl _
  refine ⟨fun cared => .inl fun k inside down => ?_,
    fun some => .inr (Nat.lt_of_lt_of_le some grows),
    ?_, ?_, rfl, rfl, id⟩
  · have down := (Qps.up_established c bound k).symm.trans down
    rw [line_established]
    rcases eq_or_ne k i with rfl | self
    · simp at down
    · rw [if_neg self] at down
      rw [update_of_ne self]
      exact cared k (Qps.numQps_established m.qps i c ▸ inside) down
  · intro was
    exact (Qps.connectFailed_established m.qps i c).trans was
  · intro before now
    have now := connected.symm.trans now
    rw [or_eq_true, decide_eq_true_eq] at now
    rcases now with was | full
    · exact Nat.lt_of_lt_of_le (before was) grows
    · unfold Machine.established
      rw [if_pos full]
      exact Nat.succ_pos _

/-! ## The first dial -/

theorem line_lazyDial_of_ne (dials : Nat → Dial) {k : Nat} (other : k ≠ i) :
    (lazyDial dials m i).line k = m.line k := by
  unfold lazyDial
  cases dials i <;> simp [qpResolveAddr, queueRetry, setPhase, setLine, other]

theorem driven_lazyDial_self (dials : Nat → Dial) (m : Machine) (i : Nat) :
    ((lazyDial dials m i).line i).driven = true := by
  unfold lazyDial
  cases dials i <;> simp [qpResolveAddr, queueRetry, setPhase, setLine, Line.driven, Line.retryDue,
      CmPhase.outstanding]

theorem cared_lazyConnectStart (m : Machine) (dials : Nat → Dial) :
    (m.lazyConnectStart dials).Cared := by
  have all : ∀ is : List Nat, ∀ m : Machine, ∀ k, k ∈ is ∨ (m.line k).driven = true →
      ((is.foldl (lazyDial dials) m).line k).driven = true := by
    intro is
    induction is with
    | nil =>
      rintro m k (member | driven)
      · cases member
      · exact driven
    | cons i is ih =>
      intro m k reached
      refine ih _ k ?_
      by_cases self : k = i
      · exact .inr (self ▸ driven_lazyDial_self dials m k)
      · rw [line_lazyDial_of_ne dials self]
        exact reached.imp_left fun member => (List.mem_cons.mp member).resolve_left self
  intro k inside _
  rw [(dialed_lazyConnectStart m dials).slots.numQps] at inside
  exact all _ m k (.inl (List.mem_range.mpr inside))

/-! ## The one who waits -/

structure Watched (m : Machine) : Prop where
  initiator : m.qps.isInitiator = true
  disciplined : m.Disciplined
  live : m.qps.Live
  active : m.connectStarted = true → m.state = .active
  started : m.thread ≠ .listening → m.connectStarted = true
  cared : m.connectStarted = true → m.Cared ∨ m.qps.connectFailed = true
  released : m.thread = .parked → m.qps.connectFailed = true → m.Cared ∨ 0 < m.cmDone
  latched : m.thread = .unconnected ∨ m.thread = .parked → m.qps.connected = true → 0 < m.cmDone

theorem Watched.wakeable (w : m.Watched) : m.Wakeable := by
  intro _ parked
  have started := w.started (by rw [parked]; decide)
  have either : m.Cared ∨ (m.qps.connectFailed = true ∧ 0 < m.cmDone) := by
    rcases w.cared started with cared | failed
    · exact .inl cared
    · exact (w.released parked failed).imp_right fun done => ⟨failed, done⟩
  constructor
  · exact either.imp_left fun cared i inside down => Line.pending_of_driven (cared i inside down)
  · by_cases all : ∀ i < m.qps.numQps, m.qps.up i = true
    · exact .inl (w.latched (.inr parked) (w.live.latched.mpr all))
    · push Not at all
      obtain ⟨i, inside, unset⟩ := all
      have down : m.qps.up i = false := eq_false_iff.mpr unset
      rcases either with cared | ⟨-, done⟩
      · exact .inr ⟨i, inside, down, Line.pending_of_driven (cared i inside down)⟩
      · exact .inl done

theorem Watched.cares (w : m.Watched) (c : Cares m m') (initiator : m'.qps.isInitiator = true)
    (disciplined : m'.Disciplined) (live : m'.qps.Live) : m'.Watched where
  initiator := initiator
  disciplined := disciplined
  live := live
  active started := c.state (w.active (c.started ▸ started))
  started away := by
    rw [c.thread] at away
    rw [c.started]
    exact w.started away
  cared started := by
    rw [c.started] at started
    rcases w.cared started with cared | failed
    · exact (c.care cared).imp_right And.left
    · exact .inr (c.failed failed)
  released parked _ := by
    rw [c.thread] at parked
    by_cases failed : m.qps.connectFailed = true
    · rcases w.released parked failed with cared | done
      · exact (c.care cared).imp_right And.right
      · exact c.done done
    · have started := w.started (by rw [parked]; decide)
      exact (c.care ((w.cared started).resolve_right failed)).imp_right And.right
  latched waits := by
    rw [c.thread] at waits
    exact c.latched (w.latched waits)

theorem driven_of_retryDue {l' : Line} (due : l.retryDue = true)
    (queued : l'.retryQueued = l.retryQueued) (running : l'.retryRunning = l.retryRunning) :
    l'.driven = true := by
  have still : l'.retryDue = true := by
    rwa [Line.retryDue, queued, running]
  rw [Line.driven, still, Bool.or_true]

theorem Watched.cares_step (w : m.Watched) {e : Event} (moved : m.step e = some m')
    (steady : m.steady e = true)
    (beside : ∀ dials, e ≠ .client dials ∧ e ≠ .check ∧ e ≠ .park ∧ e ≠ .wake) : Cares m m' := by
  have live := w.live
  have initiator := w.initiator
  cases moves_of_step moved with
  | unlistened | unbound | listening free => exact .aside rfl rfl rfl rfl rfl id
  | activate creating => exact .aside rfl rfl rfl rfl rfl fun _ => rfl
  | @dial dials | @accept dials => exact absurd rfl (beside dials).1
  | check thread => exact absurd rfl (beside fun _ => .unmade).2.1
  | park thread => exact absurd rfl (beside fun _ => .unmade).2.2.1
  | wake thread done => exact absurd rfl (beside fun _ => .unmade).2.2.2
  | addrResolved bound phase => exact .update (.refl _) rfl (fun _ _ => rfl) rfl rfl rfl rfl rfl
  | @addrFailed i bound phase =>
    have due : (m.line i).retryDue = true := by simpa [Machine.steady] using steady
    exact .update (.refl _) rfl (fun _ _ => driven_of_retryDue due rfl rfl) rfl rfl rfl rfl rfl
  | @routeResolved i bound phase =>
    exact .update (.modify m.qps i (f := fun qp => { qp with qp := true }) rfl) rfl
      (fun _ _ => by simp [Line.driven]) rfl rfl rfl rfl rfl
  | @routeFailed i shared created bound phase failed pd grows =>
    have due : (m.line i).retryDue = true := by simpa [Machine.steady, failed] using steady
    exact .update (.refl _) rfl (fun _ _ => driven_of_retryDue due rfl rfl) rfl rfl rfl rfl rfl
  | @connect i sent bound work phase =>
    cases sent with
    | true => exact .update (.refl _) rfl (fun _ _ => rfl) rfl rfl rfl rfl rfl
    | false =>
      have due : (m.line i).retryDue = true := by simpa [Machine.steady, phase] using steady
      exact .update (.refl _) rfl (fun _ _ => driven_of_retryDue due rfl rfl) rfl rfl rfl rfl rfl
  | @connectStale i sent phase bound work present unrouted alive =>
    -- the work had nothing to connect, so it was not what the line lived on
    refine .update (.refl _) rfl (fun cared down => ?_) rfl rfl rfl rfl rfl
    have before := cared i bound down
    have same : (m.line i).phase ≠ some .routed := fun routed =>
      unrouted (Option.some.inj (present.symm.trans routed))
    simpa [Line.driven, Line.retryDue, same] using before
  | reject acceptor rejected | request acceptor decided shared =>
    exact nomatch acceptor.symm.trans initiator
  | established bound present awaited => exact cares_established bound _
  | down bound present alive => exact cares_down live initiator bound _
  | missed bound => exact cares_missed live initiator _
  | retryStart bound queued =>
    exact .update (.refl _) rfl (fun _ _ => by simp [Line.driven, Line.retryDue]) rfl rfl rfl rfl
      rfl
  | retryRun bound running active => exact cares_retryRun live initiator _ _
  | retryEarly bound running inactive =>
    exact absurd (w.active (w.disciplined.dialing bound running).2) inactive

theorem Watched.turn (w : m.Watched) {thread : Thread} {cmDone : Nat}
    (started : thread ≠ .listening → m.connectStarted = true)
    (released : thread = .parked → m.qps.connectFailed = true → m.Cared ∨ 0 < cmDone)
    (latched : thread = .unconnected ∨ thread = .parked → m.qps.connected = true → 0 < cmDone) :
    Watched { m with thread, cmDone } where
  __ := w
  disciplined := w.disciplined.aside rfl rfl id rfl
  started := started
  released := released
  latched := latched

theorem Watched.step (w : m.Watched) {e : Event} (steady : m.steady e = true)
    (moved : m.step e = some m') : m'.Watched := by
  have initiator := (isInitiator_step moved).trans w.initiator
  have disciplined := w.disciplined.step moved
  have live : m'.qps.Live := by
    refine (w.disciplined.live_step_iff w.live moved).mp ?_
    cases e <;> first | rfl | exact steady
  have cares := w.cares_step moved steady
  cases moves_of_step moved with
  | @dial dials initiator' thread active unstarted =>
    have dialed := dialed_lazyConnectStart
      { m with thread := .accepted, connectStarted := true } dials
    have accepted : (lazyConnectStart { m with thread := .accepted, connectStarted := true }
        dials).thread = .accepted := dialed.thread
    refine ⟨initiator, disciplined, live, fun _ => dialed.state.trans active,
      fun _ => dialed.connectStarted, fun _ => .inl (cared_lazyConnectStart _ dials), ?_, ?_⟩
    · exact fun parked => nomatch accepted.symm.trans parked
    · rintro (waits | waits)
      · exact nomatch accepted.symm.trans waits
      · exact nomatch accepted.symm.trans waits
  | @accept dials initiator' thread later =>
    have active : m.state = .active := by simpa [Machine.steady] using steady
    refine w.turn (fun _ => later active) nofun ?_
    rintro (waits | waits) <;> cases waits
  | check thread =>
    refine w.turn (fun _ => w.started (by rw [thread]; decide)) ?_ ?_
    · split <;> exact nofun
    · split
      · rintro (waits | waits) <;> cases waits
      · rename_i down
        exact fun _ connected => absurd connected down
  | park thread =>
    refine w.turn (fun _ => w.started (by rw [thread]; decide)) ?_ ?_
    · split
      · exact nofun
      · rename_i hope
        exact fun _ failed => absurd failed hope
    · exact fun _ => w.latched (.inl thread)
  | wake thread done =>
    refine w.turn (fun away => absurd rfl away) nofun ?_
    rintro (waits | waits) <;> cases waits
  | _ => exact w.cares (cares fun _ => ⟨nofun, nofun, nofun, nofun⟩) initiator disciplined live

end Steps

theorem watched_init (numQps : NumQps) (numBufs : Nat) : (init true numQps numBufs).Watched := by
  refine ⟨rfl, disciplined_init true numBufs (NumQps.word numQps),
    Qps.live_init true numBufs numQps.2.1, nofun,
    fun away => absurd rfl away, nofun, nofun, ?_⟩
  rintro (waits | waits) <;> cases waits

/-- In every state that an initiator reaches by steady steps, something can wake the client that
waits. -/
theorem waiting_client_wakeable (numQps : NumQps) (numBufs : Nat) {events : List Event}
    {m : Machine} (reached : run step (init true numQps numBufs) events = some m)
    (steady : Along step (fun m e => m.steady e = true) (init true numQps numBufs) events) :
    m.Wakeable :=
  Watched.wakeable (run_preserves (fun _ _ _ before admitted moved => before.step admitted moved)
    (watched_init numQps numBufs) steady reached)

def patient : List Event :=
  [.activate, .client (fun _ => .started), .check, .park, .addrResolved 0 true, .down 0 5]

theorem waiting_client_wakeable_patient :
    ∃ m, run step (init true 1 16) patient = some m ∧ m.state = .active ∧ m.thread = .parked ∧
      m.qps.up 0 = false ∧ m.Wakeable := by
  obtain ⟨m, reached, active, parked, down⟩ : ∃ m, run step (init true 1 16) patient = some m ∧
      m.state = .active ∧ m.thread = .parked ∧ m.qps.up 0 = false := by decide +kernel
  exact ⟨m, reached, active, parked, down,
    waiting_client_wakeable ⟨1, by decide⟩ 16 reached (by decide +kernel)⟩

def strandings : List (List Event) :=
  [[.client (fun _ => .started), .check, .park, .activate],
    [.activate, .client (fun _ => .started), .check, .park, .addrResolved 0 false],
    [.activate, .client (fun _ => .started), .check, .park, .addrResolved 0 true,
      .routeResolved 0 true false],
    [.activate, .client (fun _ => .started), .check, .park, .addrResolved 0 true,
      .routeResolved 0 true true, .connect 0 false]]

/-- In each of the four the client waits, nothing is outstanding or queued for the one queue pair,
and the endpoint has not given up. -/
theorem client_stranded : strandings.length = 4 ∧ ∀ events ∈ strandings, ∃ m,
      run step (init true 1 16) events = some m ∧ m.state = .active ∧ m.thread = .parked ∧
      m.cmDone = 0 ∧ m.qps.connectFailed = false ∧ m.qps.up 0 = false ∧
      (m.line 0).pending = false := by
  decide +kernel

end Machine

end Urp.Conn
