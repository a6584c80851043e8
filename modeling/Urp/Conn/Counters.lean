import Urp.Conn.Machine

/-!
# The counters along a run
-/

namespace Urp.Conn.Machine

open Urp.Lib Urp.Control Bool
open Function (update update_eq_self update_of_ne update_self)

section Fields

variable (m : Machine) (i : Nat)

@[simp] theorem qps_setLine (f : Line → Line) : (m.setLine i f).qps = m.qps := rfl

@[simp] theorem qps_retryOrComplete (retries : Bool) :
    (m.retryOrComplete i retries).qps = m.qps := by
  unfold retryOrComplete
  split <;> rfl

@[simp] theorem pd_retryOrComplete (retries : Bool) : (m.retryOrComplete i retries).pd = m.pd := by
  unfold retryOrComplete
  split <;> rfl

@[simp] theorem connectStarted_retryOrComplete (retries : Bool) :
    (m.retryOrComplete i retries).connectStarted = m.connectStarted := by
  unfold retryOrComplete
  split <;> rfl

theorem line_retryOrComplete (retries : Bool) :
    (m.retryOrComplete i retries).line = update m.line i
      { m.line i with retryQueued := (m.line i).retryQueued || retries } := by
  cases retries with
  | false =>
    rw [Bool.or_false]
    exact (update_eq_self i m.line).symm
  | true =>
    rw [Bool.or_true]
    rfl

theorem line_established (c : Capabilities) : (m.established i c).line = update m.line i
      { m.line i with phase := some .established } := rfl

theorem line_down (maxAttempts : Nat) : (m.down i maxAttempts).line = update m.line i
      { m.line i with
        phase := some .down
        retryQueued := (m.line i).retryQueued || shouldRetryConnect m.qps i maxAttempts } := by
  simp [down, line_retryOrComplete, setPhase, setLine]

theorem line_retryRun (maxAttempts : Nat) (d : Dial) :
    (m.retryRun i maxAttempts d).line = update m.line i { m.line i with
        phase := if d = .started then some .resolvingAddr else none
        retryQueued := (m.line i).retryQueued ||
          (decide (d ≠ .started) && shouldRetryConnect (m.qps.hardTeardown i) i maxAttempts) } := by
  cases d <;> simp [retryRun, qpResolveAddr, line_retryOrComplete, setPhase, setLine]

end Fields

/-! ## Dialing -/

structure Dialed (m m' : Machine) : Prop where
  state : m'.state = m.state
  thread : m'.thread = m.thread
  pd : m'.pd = m.pd
  connectStarted : m'.connectStarted = m.connectStarted
  isInitiator : m'.qps.isInitiator = m.qps.isInitiator
  slots : Qps.SameSlots m.qps m'.qps
  ups : Qps.SameUp m.qps m'.qps

theorem Dialed.refl (m : Machine) : Dialed m m :=
  ⟨rfl, rfl, rfl, rfl, rfl, Qps.SameSlots.refl _, Qps.SameUp.refl _⟩

theorem Dialed.trans {m m' m'' : Machine} (first : Dialed m m') (second : Dialed m' m'') :
    Dialed m m'' where
  state := second.state.trans first.state
  thread := second.thread.trans first.thread
  pd := second.pd.trans first.pd
  connectStarted := second.connectStarted.trans first.connectStarted
  isInitiator := second.isInitiator.trans first.isInitiator
  slots := first.slots.trans second.slots
  ups := first.ups.trans second.ups

theorem dialed_qpResolveAddr (m : Machine) (i : Nat) (d : Dial) :
    Dialed m (m.qpResolveAddr i d) := by
  cases d with
  | unmade => exact Dialed.refl m
  | refused => exact ⟨rfl, rfl, rfl, rfl, rfl, Qps.SameSlots.refl _, Qps.SameUp.refl _⟩
  | started =>
    exact ⟨rfl, rfl, rfl, rfl, rfl,
      Qps.SameSlots.modify m.qps i (f := fun qp => { qp with cmId := true }) rfl,
      Qps.SameUp.modify m.qps i (f := fun qp => { qp with cmId := true }) rfl⟩

theorem dialed_queueRetry (m : Machine) (i : Nat) : Dialed m (m.queueRetry i) :=
  ⟨rfl, rfl, rfl, rfl, rfl, Qps.SameSlots.refl _, Qps.SameUp.refl _⟩

theorem dialed_lazyDial (dials : Nat → Dial) (m : Machine) (i : Nat) :
    Dialed m (lazyDial dials m i) := by
  have resolved := dialed_qpResolveAddr m i (dials i)
  unfold lazyDial
  split
  · exact resolved
  · exact resolved.trans (dialed_queueRetry _ i)

theorem dialed_lazyConnectStart (m : Machine) (dials : Nat → Dial) :
    Dialed m (m.lazyConnectStart dials) := by
  unfold lazyConnectStart
  generalize List.range m.qps.numQps = is
  induction is generalizing m with
  | nil => exact Dialed.refl m
  | cons i is ih => exact (dialed_lazyDial dials m i).trans (ih _)

/-! ## What the connection manager and the work items keep to -/

structure LineKept (m : Machine) (k : Nat) : Prop where
  up : m.qps.up k = true → (m.line k).phase = some .established
  held : m.qps.isInitiator = false → ∀ phase, (m.line k).phase = some phase → phase ≠ .down →
    m.qps.held k = true
  unshared : m.qps.isInitiator = false → m.pd = false → m.qps.held k = false
  passive : m.qps.isInitiator = false →
    (m.line k).retryQueued = false ∧ (m.line k).retryRunning = false
  idle : m.qps.isInitiator = true → m.connectStarted = false → m.line k = .idle

structure Disciplined (m : Machine) : Prop where
  slots : m.qps.Slots
  lines : ∀ k < m.qps.numQps, m.LineKept k

theorem disciplined_init (isInitiator : Bool) {numQps : Nat} (numBufs : Nat)
    (word : numQps < 2 ^ 32) : (init isInitiator numQps numBufs).Disciplined where
  slots := Qps.slots_init isInitiator numBufs word
  lines _ _ := ⟨nofun, nofun, fun _ _ => rfl, fun _ => ⟨rfl, rfl⟩, fun _ _ => rfl⟩

section Keeping

variable {m m' : Machine} {i : Nat}

section

variable {k : Nat} (role : m'.qps.isInitiator = m.qps.isInitiator)
  (shared : m'.pd = false → m.pd = false) (started : m'.connectStarted = m.connectStarted)
include role shared started

theorem LineKept.same (x : m.LineKept k) (line : m'.line k = m.line k)
    (up : m'.qps.up k = m.qps.up k) (held : m'.qps.held k = m.qps.held k) : m'.LineKept k := by
  refine ⟨?_, ?_, ?_, ?_, ?_⟩
  · rw [up, line]
    exact x.up
  · rw [role, line, held]
    exact x.held
  · rw [role, held]
    exact fun acceptor unshared => x.unshared acceptor (shared unshared)
  · rw [role, line]
    exact x.passive
  · rw [role, started, line]
    exact x.idle

theorem Disciplined.change (d : m.Disciplined) (slots : m'.qps.Slots)
    (numQps : m'.qps.numQps = m.qps.numQps)
    (up : ∀ k ≠ i, m'.qps.up k = m.qps.up k) (held : ∀ k ≠ i, m'.qps.held k = m.qps.held k)
    (line : ∀ k ≠ i, m'.line k = m.line k)
    (mine : i < m.qps.numQps → m.LineKept i → m'.LineKept i) : m'.Disciplined := by
  refine ⟨slots, fun k bound => ?_⟩
  rw [numQps] at bound
  rcases eq_or_ne k i with rfl | self
  · exact mine bound (d.lines k bound)
  · exact (d.lines k bound).same role shared started (line k self) (up k self) (held k self)

theorem Disciplined.changeBut (d : m.Disciplined) (slots : m'.qps.Slots)
    (others : Qps.SameBut i m.qps m'.qps) (line : ∀ k ≠ i, m'.line k = m.line k)
    (mine : i < m.qps.numQps → m.LineKept i → m'.LineKept i) : m'.Disciplined :=
  d.change role shared started slots others.numQps
    (fun k other => congrArg Qp.established (others.qp k other))
    (fun k other => congrArg Qp.acceptSlotHeld (others.qp k other)) line mine

end

section

variable (d : m.Disciplined)
include d

theorem Disciplined.started (bound : i < m.qps.numQps)
    (busy : m.line i ≠ .idle) (role : m.qps.isInitiator = true) : m.connectStarted = true := by
  by_contra unstarted
  exact busy ((d.lines i bound).idle role (eq_false_iff.mpr unstarted))

theorem Disciplined.aside (qps : m'.qps = m.qps) (line : m'.line = m.line)
    (pd : m'.pd = false → m.pd = false) (started : m'.connectStarted = m.connectStarted) :
    m'.Disciplined := by
  refine ⟨qps ▸ d.slots, fun k bound => ?_⟩
  rw [qps] at bound
  exact (d.lines k bound).same (by rw [qps]) pd started (by rw [line]) (by rw [qps]) (by rw [qps])

theorem Disciplined.advance (busy : m.line i ≠ .idle) {l : Line}
    (line : m'.line = update m.line i l) (slots : Qps.SameSlots m.qps m'.qps)
    (ups : Qps.SameUp m.qps m'.qps) (role : m'.qps.isInitiator = m.qps.isInitiator)
    (shared : m'.pd = false → m.pd = false) (started : m'.connectStarted = m.connectStarted)
    (up : m.LineKept i → m.qps.up i = true → l.phase = some .established)
    (phases : ∀ phase, l.phase = some phase → phase ≠ .down →
      ∃ before, (m.line i).phase = some before ∧ before ≠ .down)
    (passive : m.qps.isInitiator = false → m.LineKept i →
      l.retryQueued = false ∧ l.retryRunning = false) : m'.Disciplined := by
  refine d.change role shared started (d.slots.congr slots) slots.numQps (fun k _ => ups.up k)
    (fun k _ => slots.held k) (fun k other => by rw [line, update_of_ne other]) fun _ x => ?_
  have mine : m'.line i = l := by rw [line, update_self]
  refine ⟨?_, ?_, ?_, ?_, ?_⟩
  · rw [ups.up, mine]
    exact up x
  · rw [role, mine, slots.held]
    intro acceptor phase present live
    obtain ⟨before, was, up⟩ := phases phase present live
    exact x.held acceptor before was up
  · rw [role, slots.held]
    exact fun acceptor unshared => x.unshared acceptor (shared unshared)
  · rw [role, mine]
    exact fun acceptor => passive acceptor x
  · rw [role, started]
    exact fun initiator unstarted => absurd (x.idle initiator unstarted) busy

end

variable {phase : CmPhase}

theorem ne_idle_of_phase (present : (m.line i).phase = some phase) : m.line i ≠ .idle := by
  intro idle
  rw [idle] at present
  cases present

section

variable (d : m.Disciplined)
include d

theorem Disciplined.proceed (present : (m.line i).phase = some phase)
    (early : phase ≠ .established) (live : phase ≠ .down) {l : Line}
    (line : m'.line = update m.line i l) (slots : Qps.SameSlots m.qps m'.qps)
    (ups : Qps.SameUp m.qps m'.qps) (role : m'.qps.isInitiator = m.qps.isInitiator)
    (shared : m'.pd = false → m.pd = false) (started : m'.connectStarted = m.connectStarted)
    (queued : l.retryQueued = (m.line i).retryQueued)
    (running : l.retryRunning = (m.line i).retryRunning) : m'.Disciplined := by
  refine d.advance (ne_idle_of_phase present) line slots ups role shared started ?_ ?_ ?_
  · exact fun x up => absurd (Option.some.inj (present.symm.trans (x.up up))) early
  · exact fun _ _ _ => ⟨phase, present, live⟩
  · rw [queued, running]
    exact fun acceptor x => x.passive acceptor

theorem Disciplined.handlerFailed (present : (m.line i).phase = some phase)
    (early : phase ≠ .established) (live : phase ≠ .down) : (m.handlerFailed i).Disciplined :=
  d.proceed present early live rfl (.refl _) (.refl _) rfl id rfl rfl rfl

/-- Only the flags of a line change. -/
theorem Disciplined.flags (busy : m.line i ≠ .idle) {f : Line → Line}
    (phase : (f (m.line i)).phase = (m.line i).phase)
    (passive : m.qps.isInitiator = false → m.LineKept i →
      (f (m.line i)).retryQueued = false ∧ (f (m.line i)).retryRunning = false) :
    (m.setLine i f).Disciplined :=
  d.advance busy rfl (.refl _) (.refl _) rfl id rfl (fun x up => phase.trans (x.up up))
    (fun _ present live => ⟨_, phase.symm.trans present, live⟩) passive

theorem Disciplined.established (bound : i < m.qps.numQps) (present : (m.line i).phase = some phase)
    (live : phase ≠ .down) (c : Capabilities) : (m.established i c).Disciplined := by
  have slots := Qps.sameSlots_established m.qps i c
  have role : (m.established i c).qps.isInitiator = m.qps.isInitiator :=
    m.qps.isInitiator_cm (.established i c)
  have mine : (m.established i c).line i = { m.line i with phase := some .established } := by
    rw [line_established, update_self]
  refine d.change role id rfl (d.slots.congr slots) slots.numQps
    (fun k other => (Qps.up_established c bound k).trans (if_neg other)) (fun k _ => slots.held k)
    (fun k other => by rw [line_established, update_of_ne other]) fun _ x => ⟨?_, ?_, ?_, ?_, ?_⟩
  · rw [mine]
    exact fun _ => rfl
  · rw [role]
    exact fun acceptor _ _ _ => (slots.held i).trans (x.held acceptor phase present live)
  · rw [role]
    exact fun acceptor unshared => (slots.held i).trans (x.unshared acceptor unshared)
  · rw [role, mine]
    exact x.passive
  · rw [role]
    exact fun initiator unstarted => absurd (x.idle initiator unstarted) (ne_idle_of_phase present)

theorem Disciplined.down (busy : m.line i ≠ .idle) (maxAttempts : Nat) :
    (m.down i maxAttempts).Disciplined := by
  have qps : (m.down i maxAttempts).qps = m.qps.down i maxAttempts := by simp [Machine.down]
  have role : (m.down i maxAttempts).qps.isInitiator = m.qps.isInitiator := by
    rw [qps]
    exact m.qps.isInitiator_cm (.down i maxAttempts)
  have shared : (m.down i maxAttempts).pd = m.pd := by simp [Machine.down, setPhase, setLine]
  have started : (m.down i maxAttempts).connectStarted = m.connectStarted := by
    simp [Machine.down, setPhase, setLine]
  refine d.changeBut role (shared ▸ id) started (qps ▸ d.slots.down maxAttempts)
    (qps ▸ m.qps.sameBut_down i maxAttempts)
    (fun k other => by rw [line_down, update_of_ne other]) fun bound x => ⟨?_, ?_, ?_, ?_, ?_⟩
  · rw [qps, Qps.up_down_self bound]
    exact nofun
  · rw [line_down, update_self]
    exact fun _ phase present live => absurd (Option.some.inj present).symm live
  · rw [role, shared, qps]
    exact fun acceptor unshared => eq_false_iff.mpr fun held =>
      eq_false_iff.mp (x.unshared acceptor unshared) (Qps.held_of_held_down held)
  · rw [role, line_down, update_self]
    exact fun acceptor => by simpa [shouldRetryConnect, acceptor] using x.passive acceptor
  · rw [role, started]
    exact fun initiator unstarted => absurd (x.idle initiator unstarted) busy

omit d in
theorem line_missed (m : Machine) (i maxAttempts : Nat) : (m.missed i maxAttempts).line = m.line ∨
      m.qps.isInitiator = true ∧ m.qps.up i = true ∧
        (m.missed i maxAttempts).line = update m.line i
          { m.line i with
            retryQueued := (m.line i).retryQueued || shouldRetryConnect m.qps i maxAttempts } := by
  unfold Machine.missed
  split
  · rename_i seen
    exact .inr ⟨seen.2.2.2, seen.1, line_retryOrComplete ..⟩
  · exact .inl rfl

omit d in
theorem qps_missed (m : Machine) (i maxAttempts : Nat) :
    (m.missed i maxAttempts).qps = m.qps.missed i maxAttempts := by
  unfold Machine.missed
  split
  · rw [qps_retryOrComplete]
  · rfl

theorem Disciplined.missed (maxAttempts : Nat) : (m.missed i maxAttempts).Disciplined := by
  have qps := qps_missed m i maxAttempts
  have slots := Qps.sameSlots_missed m.qps i maxAttempts
  have role : (m.missed i maxAttempts).qps.isInitiator = m.qps.isInitiator := by
    rw [qps]
    exact m.qps.isInitiator_cm (.missed i maxAttempts)
  have kept : (m.missed i maxAttempts).pd = m.pd ∧
      (m.missed i maxAttempts).connectStarted = m.connectStarted := by
    unfold Machine.missed
    split
    · rw [pd_retryOrComplete, connectStarted_retryOrComplete]
      exact ⟨rfl, rfl⟩
    · exact ⟨rfl, rfl⟩
  have phases : ((m.missed i maxAttempts).line i).phase = (m.line i).phase := by
    rcases line_missed m i maxAttempts with same | ⟨-, -, moved⟩
    · rw [same]
    · rw [moved, update_self]
  refine d.changeBut role (kept.1 ▸ id) kept.2 (qps ▸ d.slots.congr slots)
    (qps ▸ m.qps.sameBut_missed i maxAttempts) ?_ fun _ x => ⟨?_, ?_, ?_, ?_, ?_⟩
  · intro k other
    rcases line_missed m i maxAttempts with same | ⟨-, -, moved⟩
    · rw [same]
    · rw [moved, update_of_ne other]
  · rw [qps, phases]
    exact fun up => x.up (Qps.up_of_up_missed up)
  · rw [role, qps, phases, slots.held]
    exact x.held
  · rw [role, qps, kept.1, slots.held]
    exact x.unshared
  · rw [role]
    intro acceptor
    rcases line_missed m i maxAttempts with same | ⟨initiator, -, -⟩
    · rw [same]
      exact x.passive acceptor
    · cases acceptor.symm.trans initiator
  · rw [role, kept.2]
    intro initiator unstarted
    have idle := x.idle initiator unstarted
    rcases line_missed m i maxAttempts with same | ⟨-, up, -⟩
    · rwa [same]
    · -- an established queue pair was dialed for
      exact absurd idle (ne_idle_of_phase (x.up up))

omit d in
theorem qps_retryRun (m : Machine) (i maxAttempts : Nat) (d : Dial) :
    (m.retryRun i maxAttempts d).qps = m.qps.retry i maxAttempts (decide (d = .started)) := by
  cases d <;> simp [retryRun, qpResolveAddr, Qps.retry, Qps.cm]

theorem Disciplined.retryRun (initiator : m.qps.isInitiator = true)
    (started : m.connectStarted = true) (maxAttempts : Nat) (dial : Dial) :
    (m.retryRun i maxAttempts dial).Disciplined := by
  have qps := qps_retryRun m i maxAttempts dial
  have still : (m.retryRun i maxAttempts dial).connectStarted = m.connectStarted := by
    cases dial <;> simp [Machine.retryRun, qpResolveAddr, setPhase, setLine]
  have shared : (m.retryRun i maxAttempts dial).pd = m.pd := by
    cases dial <;> simp [Machine.retryRun, qpResolveAddr, setPhase, setLine]
  have role : (m.retryRun i maxAttempts dial).qps.isInitiator = m.qps.isInitiator := by
    rw [qps]
    exact m.qps.isInitiator_cm (.retry i maxAttempts _)
  have active : ∀ {P : Prop}, (m.retryRun i maxAttempts dial).qps.isInitiator = false → P :=
    fun acceptor => nomatch (role.symm.trans acceptor).symm.trans initiator
  refine d.changeBut role (shared ▸ id) still
    (qps ▸ d.slots.congr (Qps.sameSlots_retry m.qps i maxAttempts _))
    (qps ▸ m.qps.sameBut_retry i maxAttempts _)
    (fun k other => by rw [line_retryRun, update_of_ne other])
    fun _ _ => ⟨?_, fun acceptor => active acceptor, fun acceptor => active acceptor,
      fun acceptor => active acceptor, ?_⟩
  · rw [qps, Qps.up_retry_self]
    exact nofun
  · rw [still, started]
    exact fun _ => nofun

theorem Disciplined.held_of_up (acceptor : m.qps.isInitiator = false)
    (bound : i < m.qps.numQps) (up : m.qps.up i = true) : m.qps.held i = true :=
  (d.lines i bound).held acceptor _ ((d.lines i bound).up up) (by decide)

omit d in
theorem qps_acceptOne (m : Machine) (i : Nat) (peerIndex : Option Nat) (c : Capabilities)
    (a : Accepting) (context : Bool) :
    (m.acceptOne i peerIndex c a context).qps = m.qps.acceptOne peerIndex c a := by
  cases a <;> rfl

omit d in
theorem line_acceptOne_of_ne {k : Nat} (other : k ≠ i) (peerIndex : Option Nat) (c : Capabilities)
    (a : Accepting) (context : Bool) : (m.acceptOne i peerIndex c a context).line k = m.line k := by
  cases a with
  | unshared => rfl
  | uncreated | accepted => exact update_of_ne other ..

theorem Disciplined.acceptOne (acceptor : m.qps.isInitiator = false)
    {peerIndex : Option Nat} (decided : m.qps.slotDecide peerIndex = some i) (c : Capabilities)
    (a : Accepting) (shared : m.pd = true → a ≠ .unshared) (context : Bool) :
    (m.acceptOne i peerIndex c a context).Disciplined := by
  have qps := qps_acceptOne m i peerIndex c a context
  have role : (m.acceptOne i peerIndex c a context).qps.isInitiator = m.qps.isInitiator := by
    rw [qps]
    exact m.qps.isInitiator_cm (.connectRequest peerIndex c a)
  refine d.changeBut role ?_ (by cases a <;> rfl) (qps ▸ d.slots.acceptOne peerIndex c a)
    (qps ▸ m.qps.sameBut_acceptOne decided c a)
    (fun k other => line_acceptOne_of_ne other peerIndex c a context)
    fun bound x => ⟨?_, ?_, ?_, ?_, ?_⟩
  · intro unshared
    cases a with
    | unshared => exact unshared
    | uncreated | accepted => cases unshared
  · rw [qps, Qps.up_acceptOne_self decided (d.held_of_up acceptor bound)]
    exact Bool.noConfusion
  · rw [qps]
    intro _ phase present live
    cases a with
    | unshared =>
      -- nothing was shared yet, so no slot is held and no id is under way
      have free := x.unshared acceptor (eq_false_iff.mpr fun pd => shared pd rfl)
      exact absurd (x.held acceptor phase present live) (eq_false_iff.mp free)
    | uncreated => simp [Machine.acceptOne, setPhase, setLine] at present
    | accepted =>
      unfold Qps.acceptOne
      rw [decided]
      exact Qps.held_claim_self ..
  · rw [qps]
    intro _ unshared
    cases a with
    | unshared =>
      have free := x.unshared acceptor unshared
      have same : m.qps.acceptOne peerIndex c .unshared = m.qps := by
        unfold Qps.acceptOne Qps.releaseStale
        rw [decided]
        exact if_neg (by simpa [Qps.held] using free)
      rwa [same]
    | uncreated | accepted => cases unshared
  · intro _
    cases a with
    | unshared => exact x.passive acceptor
    | uncreated | accepted =>
      simpa [Machine.acceptOne, setPhase, setLine] using x.passive acceptor
  · rw [role, acceptor]
    exact Bool.noConfusion

theorem Disciplined.lazyConnectStart (initiator : m.qps.isInitiator = true)
    (unstarted : m.connectStarted = false) (dials : Nat → Dial) :
    (Machine.lazyConnectStart { m with thread := .accepted, connectStarted := true }
      dials).Disciplined := by
  have dialed := dialed_lazyConnectStart { m with thread := .accepted, connectStarted := true }
    dials
  have active : ∀ {P : Prop}, (Machine.lazyConnectStart
      { m with thread := .accepted, connectStarted := true } dials).qps.isInitiator = false → P :=
    fun acceptor => nomatch (dialed.isInitiator.symm.trans acceptor).symm.trans initiator
  refine ⟨d.slots.congr dialed.slots, fun k bound => ⟨?_, fun acceptor => active acceptor,
    fun acceptor => active acceptor, fun acceptor => active acceptor, ?_⟩⟩
  · rw [dialed.slots.numQps] at bound
    rw [dialed.ups.up]
    have x := d.lines k bound
    exact fun up => absurd (x.idle initiator unstarted) (ne_idle_of_phase (x.up up))
  · rw [dialed.connectStarted]
    exact fun _ => nofun

theorem Disciplined.dialing (bound : i < m.qps.numQps) (running : (m.line i).retryRunning = true) :
    m.qps.isInitiator = true ∧ m.connectStarted = true := by
  have initiator : m.qps.isInitiator = true := by
    by_contra acceptor
    have passive := (d.lines i bound).passive (eq_false_iff.mpr acceptor)
    exact nomatch passive.2.symm.trans running
  refine ⟨initiator, d.started bound (fun idle => ?_) initiator⟩
  rw [idle] at running
  cases running

theorem Disciplined.retryTaken (bound : i < m.qps.numQps)
    (running : (m.line i).retryRunning = true) :
    (m.setLine i fun l => { l with retryRunning := false }).Disciplined := by
  refine d.flags (fun idle => ?_) rfl fun acceptor => ?_
  · rw [idle] at running
    cases running
  · cases acceptor.symm.trans (d.dialing bound running).1

end

variable {e : Event}

theorem Disciplined.step (d : m.Disciplined) (moved : m.step e = some m') : m'.Disciplined := by
  cases moves_of_step moved with
  | unlistened => exact d
  | unbound | listening free | activate creating | accept initiator thread later | check thread
  | park thread | wake thread done | reject acceptor rejected => exact d.aside rfl rfl id rfl
  | dial initiator thread active unstarted => exact d.lazyConnectStart initiator unstarted _
  | addrResolved bound phase | connect bound work phase =>
    exact d.proceed phase (by decide) (by decide) rfl (.refl _) (.refl _) rfl id rfl rfl rfl
  | addrFailed bound phase => exact d.handlerFailed phase (by decide) (by decide)
  | @routeResolved i bound phase =>
    exact d.proceed phase (by decide) (by decide) rfl
      (.modify m.qps i (f := fun qp => { qp with qp := true }) rfl)
      (.modify m.qps i (f := fun qp => { qp with qp := true }) rfl) rfl nofun rfl rfl rfl
  | @routeFailed i shared created bound phase failed pd grows =>
    refine (d.handlerFailed phase (by decide) (by decide)).aside rfl rfl (fun unshared => ?_) rfl
    exact eq_false_iff.mpr fun shared => nomatch unshared.symm.trans (grows shared)
  | connectStale bound work present unrouted live =>
    exact d.flags (ne_idle_of_phase present) rfl fun acceptor x => x.passive acceptor
  | request acceptor decided shared => exact d.acceptOne acceptor decided _ _ shared _
  | established bound present awaited =>
    refine d.established bound present ?_ _
    rcases awaited with rfl | rfl <;> decide
  | down bound present live => exact d.down (ne_idle_of_phase present) _
  | missed bound => exact d.missed _
  | retryStart bound queued =>
    refine d.flags (fun idle => ?_) rfl fun acceptor x => ?_
    · rw [idle] at queued
      cases queued
    · cases (x.passive acceptor).1.symm.trans queued
  | @retryRun i maxAttempts dial bound running active =>
    obtain ⟨initiator, started⟩ := d.dialing bound running
    exact (d.retryTaken bound running).retryRun initiator started maxAttempts dial
  | retryEarly bound running inactive => exact d.retryTaken bound running

section

variable (moved : m.step e = some m')
include moved

theorem kind_step : m'.qps.kind = m.qps.kind := by
  cases moves_of_step moved with
  | @dial dials =>
    have dialed := dialed_lazyConnectStart
      { m with thread := .accepted, connectStarted := true } dials
    exact Prod.ext dialed.isInitiator dialed.slots.numQps
  | @request peerIndex c a =>
    rw [qps_acceptOne]
    exact m.qps.kind_cm (.connectRequest peerIndex c a)
  | @established i c => exact m.qps.kind_cm (.established i c)
  | @down i maxAttempts =>
    rw [Machine.down, qps_retryOrComplete]
    exact m.qps.kind_cm (.down i maxAttempts)
  | @missed i maxAttempts =>
    rw [qps_missed]
    exact m.qps.kind_cm (.missed i maxAttempts)
  | @retryRun i maxAttempts dial =>
    rw [qps_retryRun]
    exact m.qps.kind_cm (.retry i maxAttempts _)
  | _ => rfl

theorem isInitiator_step : m'.qps.isInitiator = m.qps.isInitiator :=
  congrArg Prod.fst (kind_step moved)

theorem numQps_step : m'.qps.numQps = m.qps.numQps :=
  congrArg Prod.snd (kind_step moved)

end

/-! ## The counters -/

def Counted (m : Machine) : Prop :=
  m.qps.qpsConnected = raised m.qps.up m.qps.numQps ∧
    m.qps.qpsAccepted = raised m.qps.held m.qps.numQps ∧
    (m.qps.connected = true ↔ ∀ i < m.qps.numQps, m.qps.up i = true)

theorem Disciplined.counted_iff (d : m.Disciplined) : m.Counted ↔ m.qps.Live :=
  ⟨fun counted => ⟨counted.1, counted.2.2⟩,
    fun live => ⟨live.counted, d.slots.accepted, live.latched⟩⟩

def findsDown (m : Machine) : Event → Bool
  | .retryRun i _ _ => decide (m.state = .active → m.qps.up i = false)
  | _ => true

theorem live_retryRun_iff (live : m.qps.Live) (bound : i < m.qps.numQps) (maxAttempts : Nat)
    (dial : Dial) : (m.retryRun i maxAttempts dial).qps.Live ↔ m.qps.up i = false := by
  rw [qps_retryRun, ← live.hardTeardown_iff bound]
  have same := Qps.sameUp_retry m.qps i maxAttempts (decide (dial = .started))
  exact ⟨fun after => after.congr same.symm, fun torn => torn.congr same⟩

theorem Disciplined.live_step_iff (d : m.Disciplined) (live : m.qps.Live)
    (moved : m.step e = some m') : m.findsDown e = true ↔ m'.qps.Live := by
  have word := d.slots.word
  cases moves_of_step moved with
  | unlistened | unbound | listening free | activate creating => exact iff_of_true rfl live
  | @dial dials initiator thread active unstarted =>
    have dialed := dialed_lazyConnectStart
      { m with thread := .accepted, connectStarted := true } dials
    exact iff_of_true rfl (live.congr dialed.ups)
  | accept initiator thread later | check thread | park thread | wake thread done
  | addrResolved bound phase | addrFailed bound phase => exact iff_of_true rfl live
  | @routeResolved i bound phase =>
    exact iff_of_true rfl (live.congr (.modify m.qps i (f := fun qp => { qp with qp := true }) rfl))
  | routeFailed bound phase failed grows | connect bound work phase
  | connectStale bound work present unrouted live' | reject acceptor rejected =>
    exact iff_of_true rfl live
  | request acceptor decided shared =>
    refine iff_of_true rfl ?_
    rw [qps_acceptOne]
    exact live.acceptOne word (fun k bound => d.held_of_up acceptor bound) _ _ _
  | @established i c phase bound present awaited =>
    refine iff_of_true rfl (live.established word bound (eq_false_iff.mpr fun up => ?_) c)
    have same := Option.some.inj (present.symm.trans ((d.lines i bound).up up))
    rcases awaited with rfl | rfl <;> cases same
  | @down i maxAttempts phase bound present live' =>
    refine iff_of_true rfl ?_
    rw [Machine.down, qps_retryOrComplete]
    exact live.down word maxAttempts
  | @missed i maxAttempts bound =>
    refine iff_of_true rfl ?_
    rw [qps_missed]
    exact live.missed word bound maxAttempts
  | retryStart bound queued => exact iff_of_true rfl live
  | @retryRun i maxAttempts dial bound running active =>
    have taken : (m.setLine i fun l => { l with retryRunning := false }).qps.Live := live
    rw [live_retryRun_iff taken bound, findsDown, decide_eq_true_eq]
    exact ⟨fun down => down active, fun down _ => down⟩
  | retryEarly bound running inactive =>
    exact iff_of_true (decide_eq_true fun active => absurd active inactive) live

end Keeping

/-- In every state of a run the counters are right, exactly if no retry work tears down a queue pair
that is established. -/
theorem counters_right_iff (isInitiator : Bool) (numQps : NumQps) (numBufs : Nat)
    {events : List Event} {m : Machine}
    (reached : run step (init isInitiator numQps numBufs) events = some m) :
    Throughout step Counted (init isInitiator numQps numBufs) events ↔
      Along step (fun m e => m.findsDown e = true) (init isInitiator numQps numBufs) events := by
  have start := disciplined_init isInitiator numBufs (NumQps.word numQps)
  refine throughout_iff (I := Disciplined) ?_ ?_ start ?_ reached
  · exact fun s e s' d _ _ moved => d.step moved
  · intro s e s' d counted moved
    rw [(d.step moved).counted_iff]
    exact d.live_step_iff (d.counted_iff.mp counted) moved
  · exact start.counted_iff.mpr (Qps.live_init isInitiator numBufs numQps.2.1)

def dialOne : List Event :=
  [.addrResolved 0 true, .routeResolved 0 true true, .connect 0 true,
    .established 0 ⟨true, true, true, true⟩]

def healed : List Event :=
  .activate :: .client (fun _ => .started) :: dialOne ++
    [.missed 0 5, .retryStart 0, .retryRun 0 5 .started] ++ dialOne

def tornTwice : List Event :=
  .activate :: .client (fun _ => .started) :: dialOne ++
    [.missed 0 5, .retryStart 0, .down 0 5, .retryRun 0 5 .started] ++ dialOne ++
    [.retryStart 0, .retryRun 0 5 .started]

theorem counters_right_healed :
    ∃ m, run step (init true 1 16) healed = some m ∧ m.qps.connected = true ∧
      Throughout step Counted (init true 1 16) healed := by
  obtain ⟨m, reached, connected⟩ : ∃ m, run step (init true 1 16) healed = some m ∧
      m.qps.connected = true := by decide +kernel
  exact ⟨m, reached, connected,
    (counters_right_iff true ⟨1, by decide⟩ 16 reached).mpr (by decide +kernel)⟩

/-- The endpoint takes itself for connected and counts one queue pair, and has none. -/
theorem requeued_retry_overcounts :
    ∃ m, run step (init true 1 16) tornTwice = some m ∧ m.qps.qpsConnected = 1 ∧
      raised m.qps.up m.qps.numQps = 0 ∧ m.qps.connected = true := by
  decide +kernel

end Urp.Conn.Machine
