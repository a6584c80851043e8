import Urp.Conn.Sharing
import Urp.Lib.Run

/-!
# A drain among the other contexts

A drain may come at any time, also while the endpoint is still activated or its eager dial is
under way.
-/

namespace Urp.Conn

open Urp.Control Bool
open Urp.Lib (run Along run_preserves checkAlong along_of_checkAlong)

namespace Contexts

/-! ## The pass -/

section Pass

variable {m m' : Contexts}

variable {l : Lock}

theorem Sound.move (x : m.Sound) {t : Table} {a : Bool}
    (table : t.Sound m.numQps m.isInitiator ({ m with allocated := a, lock := l } : Contexts).mark)
    (serving : ∀ r, m.request = some r →
      ({ m with table := t, allocated := a, lock := l } : Contexts).Serving r)
    (listening : m.listening = true → (!a || l.unlistened) = false)
    (fresh : m.isInitiator = true → m.connectStarted = false → ∀ i, t.entry i = .fresh)
    (dialing : (!a || l.cleaning) = false → m.noDial = false ∧ t = m.table)
    (joined : (!a || l.cleaning) = true → m.thread.resting = true ∧ m.probing = false)
    (unused : m.state = .creating → l = .free → a = false)
    (operating : m.state = .active → l = .free ∧ a = true)
    (activating : l = .activating → m.state = .creating ∧ a = true) :
    ({ m with table := t, allocated := a, lock := l } : Contexts).Sound := by
  refine { x with
    table, serving, listening := fun on => ⟨(x.listening on).1, listening on⟩,
    fresh, dialers := fun w => { x.dialers w with expects := fun busy => ?_, resolving := ?_ }
    joined, unused, operating, activating }
  · obtain ⟨busy', rfl⟩ := dialing busy
    exact (x.dialers w).expects busy'
  · intro busy
    obtain ⟨busy', rfl⟩ := dialing busy
    exact (x.dialers w).resolving busy'

theorem Sound.relock (x : m.Sound) {a : Bool}
    (grows : ∀ i, m.past i = true → (!a || l.dropped i) = true)
    (gone : ∀ i, (!a || l.dropped i) = true → (m.table.entry i).cmId = none)
    (retries : ∀ i, (m.table.entry i).retryWork ≠ .idle → m.noRetry i = false →
      (!a || l.cancelled i) = false)
    (queued : ∀ i, (m.table.entry i).retryQueued = true → m.noWork i = false →
      (!a || l.stopped i) = false)
    (listening : m.request ≠ none ∨ m.listening = true → m.noRequest = false →
      (!a || l.unlistened) = false)
    (dialing : (!a || l.cleaning) = false → m.noDial = false)
    (joined : (!a || l.cleaning) = true → m.thread.resting = true ∧ m.probing = false)
    (unused : m.state = .creating → l = .free → a = false)
    (operating : m.state = .active → l = .free ∧ a = true)
    (activating : l = .activating → m.state = .creating ∧ a = true) :
    ({ m with allocated := a, lock := l } : Contexts).Sound := by
  refine x.move { x.table with entries := fun i => ?_ } (fun r found => ?_)
    (fun on => listening (.inr on) (x.listening on).2)
    x.fresh (fun busy => ⟨dialing busy, rfl⟩) joined
    unused operating activating
  · have entry := x.table.entries i
    exact { entry with
      created := fun created => (entry.created created).imp_left (grows i)
      up := fun up => (entry.up up).imp_left (grows i)
      gone := gone i
      retries := fun runs => (entry.retries runs).imp_right (retries i runs)
      queued := fun again => (entry.queued again).imp_right (queued i again) }
  · have serving := x.serving r found
    have asked : m.request ≠ none := fun none => by
      cases none.symm.trans found
    exact { serving with early := listening (.inl asked) serving.early }

theorem Sound.enter (x : m.Sound) (early : ∀ i, m.lock.dropped i = false)
    (uncancelled : ∀ i, l.cancelled i = false)
    (dialing : l.cleaning = false → m.lock.cleaning = false)
    (joined : l.cleaning = true → m.thread.resting = true ∧ m.probing = false)
    (unused : m.state = .creating → l ≠ .free) (operating : m.state = .active → l = .free)
    (activating : l ≠ .activating) : ({ m with lock := l } : Contexts).Sound := by
  have retry : ∀ i, m.allocated = true → ({ m with lock := l } : Contexts).noRetry i = false :=
    fun i used => by
      rw [noRetry, show ({ m with lock := l } : Contexts).allocated = true from used]
      exact uncancelled i
  have request := fun i used => noRequest_of_noRetry (retry i used)
  have ahead := fun i used => past_of_noRequest (request 0 used) i
  refine x.relock (a := m.allocated) (l := l) ?_ ?_
    (fun i _ busy => retry i (allocated_of busy))
    ?_ (fun _ busy => request 0 (allocated_of busy)) ?_ ?_
    (fun new free => absurd free (unused new)) (fun active => ?_) fun busy => absurd busy activating
  · intro i passed
    rw [past, early i, Bool.or_false] at passed
    rw [passed, Bool.true_or]
  · intro i passed
    cases used : m.allocated with
    | false =>
      refine (x.table.entries i).gone ?_
      change m.past i = true
      rw [past, used]
      rfl
    | true => cases (ahead i used).symm.trans passed
  · intro i _ busy
    obtain ⟨freed, -⟩ := or_eq_false_iff.mp busy
    exact noWork_of_past (ahead i (by simpa using freed))
  · intro busy
    obtain ⟨freed, unclean⟩ := or_eq_false_iff.mp busy
    exact or_eq_false_iff.mpr ⟨freed, dialing unclean⟩
  · intro still
    rcases or_eq_true_iff.mp still with freed | cleaning
    · refine x.joined ?_
      rw [noDial, freed, Bool.true_or]
    · exact joined cleaning
  · exact ⟨operating active, (x.operating active).2⟩

variable {s : Stage} {d : Bool}

theorem Sound.advance (x : m.Sound) {s' : Stage} (here : m.lock = .pass s d)
    (cleaning : (Lock.pass s d).cleaning = true) (cleaning' : (Lock.pass s' d).cleaning = true)
    (grows : ∀ i, (Lock.pass s d).dropped i = true → (Lock.pass s' d).dropped i = true)
    (gone : m.allocated = true → ∀ i, (Lock.pass s' d).dropped i = true →
      (m.table.entry i).cmId = none)
    (retries : m.allocated = true → ∀ i, (m.table.entry i).retryWork ≠ .idle →
      (Lock.pass s d).cancelled i = false → (Lock.pass s' d).cancelled i = false)
    (queued : m.allocated = true → ∀ i, (m.table.entry i).retryQueued = true →
      (Lock.pass s d).stopped i = false → (Lock.pass s' d).stopped i = false)
    (listening : m.allocated = true → m.request ≠ none ∨ m.listening = true →
      (Lock.pass s d).unlistened = false → (Lock.pass s' d).unlistened = false) :
    ({ m with lock := .pass s' d } : Contexts).Sound := by
  have still : m.noDial = true := by
    rw [noDial, here, cleaning, Bool.or_true]
  have passed : m.allocated = false → ∀ i, (m.table.entry i).cmId = none := fun freed i => by
    refine (x.table.entries i).gone ?_
    change m.past i = true
    rw [past, freed]
    rfl
  refine x.relock (a := m.allocated) (l := .pass s' d) ?_ ?_ ?_ ?_ ?_ ?_ (fun _ => x.joined still)
    nofun ?_ nofun
  · intro i past
    rw [Contexts.past, here] at past
    exact or_eq_true_iff.mpr ((or_eq_true_iff.mp past).imp_right (grows i))
  · intro i past
    cases used : m.allocated with
    | false => exact passed used i
    | true =>
      rw [used] at past
      exact gone used i past
  · intro i runs early
    obtain ⟨freed, before⟩ := or_eq_false_iff.mp early
    rw [here] at before
    exact or_eq_false_iff.mpr ⟨freed, retries (by simpa using freed) i runs before⟩
  · intro i again early
    obtain ⟨freed, before⟩ := or_eq_false_iff.mp early
    rw [here] at before
    exact or_eq_false_iff.mpr ⟨freed, queued (by simpa using freed) i again before⟩
  · intro asked early
    obtain ⟨freed, before⟩ := or_eq_false_iff.mp early
    rw [here] at before
    exact or_eq_false_iff.mpr ⟨freed, listening (by simpa using freed) asked before⟩
  · rw [cleaning', Bool.or_true]
    exact nofun
  · intro active
    have free := (x.operating active).1
    cases here.symm.trans free

theorem Sound.proceed (x : m.Sound) {s' : Stage} (here : m.lock = .pass s d)
    (unlistened : (Lock.pass s d).unlistened = true) (cleaning' : (Lock.pass s' d).cleaning = true)
    (undropped : ∀ i, (Lock.pass s d).dropped i = false ∧ (Lock.pass s' d).dropped i = false) :
    ({ m with lock := .pass s' d } : Contexts).Sound := by
  have cancelled := Lock.cancelled_of_unlistened unlistened
  refine x.advance here (Lock.cleaning_of_cancelled (cancelled 0)) cleaning' ?_ ?_ ?_ ?_ ?_
  · exact fun i passed => nomatch (undropped i).1.symm.trans passed
  · exact fun _ i passed => nomatch (undropped i).2.symm.trans passed
  · exact fun _ i _ early => nomatch early.symm.trans (cancelled i)
  · intro _ i _ _
    rw [eq_false_iff]
    exact fun stopped => absurd ((undropped i).2.symm.trans (Lock.dropped_of_stopped stopped))
      (by decide)
  · exact fun _ _ early => nomatch early.symm.trans unlistened

variable {i : Nat}

section

variable (x : m.Sound)
include x

theorem Sound.reaches {j : Nat} (allocated : m.allocated = true)
    (outside : (m.allocated && decide (i < m.numQps)) ≠ true) (used : m.table.entry j ≠ .fresh) :
    j < i := by
  have inside := x.table.inside used
  have beyond : ¬i < m.numQps := by simpa [allocated] using outside
  omega

theorem Sound.pass_join (here : m.lock = .pass .join d) :
    ({ m with thread := .finished, probing := false, lock := .pass (.cancelRetry 0) d } :
      Contexts).Sound := by
  have parted : ({ m with thread := .finished } : Contexts).Sound :=
    x.rest .thread rfl (fun other => absurd rfl other) fun _ => nofun
  have quiet : ({ m with thread := .finished, probing := false } : Contexts).Sound :=
    { parted with
      serving := fun r found => { parted.serving r found with }
      joined := fun _ => ⟨rfl, rfl⟩
      creating := fun new => ⟨(x.creating new).1, (x.creating new).2.1, rfl⟩ }
  refine quiet.enter (l := .pass (.cancelRetry 0) d) (fun i => ?_) (fun i => rfl) nofun
    (fun _ => ⟨rfl, rfl⟩) nofun (fun active => ?_) nofun
  · rw [here]
    rfl
  · have free := (x.operating active).1
    cases here.symm.trans free

theorem Sound.unqueue (i : Nat) : (m.modify i fun e => { e with retryQueued := false }).Sound := by
  cases queued : (m.table.entry i).retryQueued with
  | false =>
    rwa [modify_of_same (by rw [← queued])]
  | true =>
    exact x.modify rfl (dialed_of_mark Entry.retryQueued (fun _ => rfl) queued) rfl
      (fun bare _ => bare) { x.table.entries i with queued := nofun }

theorem Sound.pass_cancelRetry
    (here : m.lock = .pass (.cancelRetry i) d) (idle : (m.table.entry i).retryWork = .idle) :
    ({ (m.modify i fun e => { e with retryQueued := false }) with
      lock := .pass (.cancelRetry (i + 1)) d } : Contexts).Sound := by
  refine (x.unqueue i).advance here rfl rfl (fun _ passed => passed) nofun ?_
    (fun _ _ _ early => early)
    fun _ _ early => early
  intro _ j runs before
  have above : ¬j < i := of_decide_eq_false before
  have other : j ≠ i := by
    rintro rfl
    refine runs ?_
    rw [Contexts.modify, setTable, Table.entry_modify_self, idle]
  exact decide_eq_false (by omega)

theorem Sound.pass_cancelRetry_done (here : m.lock = .pass (.cancelRetry i) d)
    (outside : (m.allocated && decide (i < m.numQps)) ≠ true) :
    ({ m with lock := .pass .listener d } : Contexts).Sound := by
  refine x.advance here rfl rfl (fun _ passed => passed) nofun ?_ (fun _ _ _ early => early)
    fun _ _ early => early
  intro allocated j runs before
  have below := x.reaches (j := j) allocated outside fun fresh => by
    rw [fresh] at runs
    exact runs rfl
  exact absurd below (of_decide_eq_false before)

theorem Sound.pass_listener (here : m.lock = .pass .listener d) (served : m.request = none) :
    ({ m with listening := false, lock := .pass (.disconnect 0) d } : Contexts).Sound := by
  have deaf : ({ m with listening := false } : Contexts).Sound :=
    { x with
      serving := fun r found => { x.serving r found with }
      listening := nofun }
  refine deaf.advance here rfl rfl (fun _ passed => passed) nofun (fun _ _ _ early => early)
    (fun _ _ _ early => early) ?_
  rintro _ (asked | on)
  · exact absurd served asked
  · cases on

theorem Sound.pass_disconnect
    (here : m.lock = .pass (.disconnect i) d) (allocated : m.allocated = true) :
    ({ (if (m.table.entry i).established ∧ (m.table.entry i).cmId.isSome then
          (m.call .disconnect (m.table.entry i).cmId).modify i
            fun e => { e with established := false }
        else m) with lock := .pass (.disconnect (i + 1)) d } : Contexts).Sound := by
  have ahead : m.past i ≠ true := by
    rw [past, allocated, here]
    exact nofun
  split
  · rename_i up
    have reporting := ((x.table.entries i).up up.1).resolve_left ahead
    rw [call_of_alive reporting.anchored.alive]
    have down : (m.modify i fun e => { e with established := false }).Sound :=
      x.modify rfl (dialed_of_mark Entry.established (fun _ => rfl) up.1) rfl (fun bare _ => bare)
        { x.table.entries i with up := nofun }
    exact down.proceed here rfl rfl fun _ => ⟨rfl, rfl⟩
  · exact x.proceed here rfl rfl fun _ => ⟨rfl, rfl⟩

theorem Sound.pass_destroyQp
    (here : m.lock = .pass (.destroyQp i) d) (allocated : m.allocated = true) :
    ({ m.destroyQp i with lock := .pass (.destroyQp (i + 1)) d } : Contexts).Sound := by
  have ahead : m.past i = false := by
    rw [past, allocated, here]
    rfl
  rw [x.destroyQp_eq ahead]
  have destroyed : (m.modify i fun e => { e with qp := false }).Sound := by
    cases created : (m.table.entry i).qp with
    | false =>
      rwa [modify_of_same (by rw [← created])]
    | true =>
      exact x.modify rfl (dialed_of_mark Entry.qp (fun _ => rfl) created) rfl (fun _ _ => rfl)
        { x.table.entries i with created := nofun }
  exact destroyed.proceed here rfl rfl fun _ => ⟨rfl, rfl⟩

theorem Sound.pass_destroyId
    (here : m.lock = .pass (.destroyId i) d) (unconnecting : (m.table.entry i).unconnecting = true)
    (idle : m.table.unhandled (m.table.entry i).cmId = true) :
    ({ m.setTable (m.table.cmIdDestroy i) with lock := .pass (.destroyId (i + 1)) d } :
      Contexts).Sound := by
  cases held : (m.table.entry i).cmId with
  | none =>
    rw [Table.cmIdDestroy_of_none held]
    refine x.advance here rfl rfl (fun j passed => ?_) (fun used j passed => ?_)
      (fun _ _ _ early => early) (fun _ _ _ early => early) fun _ _ early => early
    · exact decide_eq_true (Nat.lt_succ_of_lt (of_decide_eq_true passed))
    · by_cases self : j = i
      · rw [self, held]
      · refine (x.table.entries j).gone ?_
        have below : j < i + 1 := of_decide_eq_true passed
        change m.past j = true
        rw [past, here, used]
        exact decide_eq_true (by omega)
  | some k =>
    rw [held] at idle
    have used := allocated_of ((x.table.entries i).ahead held)
    have still : m.noDial = true := by
      rw [noDial, here, or_eq_true_iff]
      exact .inr rfl
    have deaf : m.noRequest ≠ false := by
      rw [noRequest, here, ne_eq, not_eq_false, or_eq_true_iff]
      exact .inr rfl
    have resting : (m.table.entry i).retryWork = .idle := by
      by_contra runs
      exact deaf (noRequest_of_noRetry ((x.table.entries i).retries runs).2)
    have unmade : ∀ k, (m.table.entry i).retryWork ≠ .made k := by
      rw [resting]
      exact nofun
    have passed : (!m.allocated || (Lock.pass (.destroyId (i + 1)) d).dropped i) = true := by
      rw [used]
      exact decide_eq_true (Nat.lt_succ_self i)
    have marks : ∀ j ≠ i, ({ m with lock := .pass (.destroyId (i + 1)) d } : Contexts).mark j =
        m.mark j := by
      intro j other
      have below : decide (j < i + 1) = decide (j < i) := decide_eq_decide.mpr (by omega)
      simp only [mark, past, noRetry, noWork, here, Lock.dropped, Lock.cancelled, Lock.stopped,
        below]
    have dropped := x.table.drop (f := fun e => { e with cmId := none }) held (unhandled_some idle)
      rfl marks rfl (fun _ => passed) (fun _ => passed) unconnecting
      unmade (fun runs => absurd resting runs)
      fun again => ⟨((x.table.entries i).queued again).1, ?_⟩
    · rw [Table.cmIdDestroy_of_some held]
      refine x.move (a := m.allocated) (l := .pass (.destroyId (i + 1)) d) dropped
        (fun r found => absurd (x.serving r found).early deaf)
        (fun on => absurd (x.listening on).2 deaf) (fun role unstarted => ?_) (fun busy => ?_)
        (fun _ => x.joined still) (fun _ free => ?_) (fun active => ?_) fun activating => ?_
      · rw [x.fresh role unstarted i] at held
        cases held
      · rw [used] at busy
        cases busy
      · cases free
      · have free := (x.operating active).1
        cases here.symm.trans free
      · cases activating
    · exact or_eq_false_iff.mpr ⟨by simp [used], rfl⟩

theorem Sound.pass_destroyId_done (here : m.lock = .pass (.destroyId i) d)
    (outside : (m.allocated && decide (i < m.numQps)) ≠ true) :
    ({ m with lock := .pass (.cancelWork 0) d } : Contexts).Sound := by
  refine x.advance here rfl rfl (fun _ _ => rfl) (fun used j _ => ?_) (fun _ _ _ early => early)
    (fun _ _ _ _ => rfl) fun _ _ early => early
  cases held : (m.table.entry j).cmId with
  | none => rfl
  | some k =>
    have below := x.reaches (j := j) used outside fun fresh => by
      rw [fresh] at held
      cases held
    have passed : m.past j = true := by
      rw [past, used, here]
      exact decide_eq_true below
    exact ((x.table.entries j).gone passed).symm.trans held |>.symm

theorem Sound.pass_cancelWork (here : m.lock = .pass (.cancelWork i) d) :
    ({ (m.modify i fun e => { e with connectQueued := false, retryQueued := false }) with
      lock := .pass (.cancelWork (i + 1)) d } : Contexts).Sound := by
  have passed : m.past i = true := by
    rw [past, here, or_eq_true_iff]
    exact .inr rfl
  have unqueued : (m.table.entry i).connectQueued = false := by
    rw [eq_false_iff]
    intro queued
    have connecting : (m.table.entry i).unconnecting = false := by
      rw [Entry.unconnecting, queued]
      rfl
    have entry := x.table.entries i
    exact Table.not_anchored_of_none (entry.gone passed) (entry.pending connecting).2.1
  have same : (m.modify i fun e => { e with connectQueued := false, retryQueued := false }) =
      m.modify i fun e => { e with retryQueued := false } :=
    modify_congr (by rw [← unqueued])
  rw [same]
  refine (x.unqueue i).advance here rfl rfl (fun _ passed => passed)
    (fun _ j _ => ?_) (fun _ _ _ early => early) (fun _ j again before => ?_) fun _ _ early => early
  · refine ((x.unqueue i).table.entries j).gone (or_eq_true_iff.mpr (.inr ?_))
    exact (congrArg (Lock.dropped j) here).trans rfl
  · have above : ¬j < i := of_decide_eq_false before
    have other : j ≠ i := by
      rintro rfl
      rw [Contexts.modify, setTable, Table.entry_modify_self] at again
      cases again
    exact decide_eq_false (by omega)

theorem Sound.pass_cancelWork_done (here : m.lock = .pass (.cancelWork i) d)
    (outside : (m.allocated && decide (i < m.numQps)) ≠ true) :
    ({ m with lock := .pass .free d } : Contexts).Sound := by
  refine x.advance here rfl rfl (fun _ _ => rfl) (fun used j _ => ?_) (fun _ _ _ early => early)
    (fun used j again before => ?_) fun _ _ early => early
  · refine (x.table.entries j).gone ?_
    change m.past j = true
    rw [past, used, here]
    rfl
  · have below := x.reaches (j := j) used outside fun fresh => by
      rw [fresh] at again
      cases again
    exact absurd below (of_decide_eq_false before)

theorem Sound.pass_free (here : m.lock = .pass .free d) :
    ({ m with
      allocated := false
      state := if d then .stopped else m.state
      lock := .free } : Contexts).Sound := by
  have still : m.noDial = true := by
    rw [noDial, here, or_eq_true_iff]
    exact .inr rfl
  have stopped : ({ m with state := if d then .stopped else m.state } : Contexts).Sound := by
    cases d with
    | false => exact x
    | true =>
      refine { x with
        serving := fun r found => { x.serving r found with }
        creating := nofun
        unused := nofun
        operating := nofun
        activating := fun busy => ?_
        marked := fun _ => .inr rfl }
      exact nomatch here.symm.trans busy
  refine stopped.relock (a := false) (l := .free) (fun _ _ => rfl) (fun i _ => ?_)
    (fun i _ busy => ?_) (fun i _ busy => ?_) (fun _ busy => ?_) nofun (fun _ => x.joined still)
    (fun _ _ => rfl) (fun active => ?_) nofun
  · refine (x.table.entries i).gone (or_eq_true_iff.mpr (.inr ?_))
    rw [here]
    rfl
  · have early := (or_eq_false_iff.mp busy).2
    rw [here] at early
    cases early
  · have early := (or_eq_false_iff.mp busy).2
    rw [here] at early
    cases early
  · have early := (or_eq_false_iff.mp busy).2
    rw [here] at early
    cases early
  · have free := (stopped.operating active).1
    rw [here] at free
    cases free

theorem Sound.passStep (here : m.lock = .pass s d)
    (unconnecting : ∀ i, s = .destroyId i → (m.table.entry i).unconnecting = true)
    (moved : m.passStep d s = some m') : m'.Sound := by
  unfold Contexts.passStep at moved
  cases s with
  | join =>
    obtain ⟨-, rfl⟩ := Lib.guarded moved
    exact x.pass_join here
  | cancelRetry i =>
    dsimp only at moved
    split at moved
    · obtain ⟨idle, rfl⟩ := Lib.guarded moved
      exact x.pass_cancelRetry here idle
    · rename_i outside
      cases moved
      exact x.pass_cancelRetry_done here outside
  | listener =>
    obtain ⟨served, rfl⟩ := Lib.guarded moved
    exact x.pass_listener here served
  | disconnect i =>
    cases moved
    split
    · rename_i inside
      exact x.pass_disconnect here (and_eq_true_iff.mp inside).1
    · exact x.proceed here rfl rfl fun _ => ⟨rfl, rfl⟩
  | destroyQp i =>
    cases moved
    split
    · rename_i inside
      exact x.pass_destroyQp here (and_eq_true_iff.mp inside).1
    · exact x.proceed here rfl rfl fun _ => ⟨rfl, rfl⟩
  | destroyId i =>
    dsimp only at moved
    split at moved
    · obtain ⟨idle, rfl⟩ := Lib.guarded moved
      exact x.pass_destroyId here (unconnecting i rfl) idle
    · rename_i outside
      cases moved
      exact x.pass_destroyId_done here outside
  | cancelWork i =>
    dsimp only at moved
    split at moved
    · obtain ⟨-, rfl⟩ := Lib.guarded moved
      exact x.pass_cancelWork here
    · rename_i outside
      cases moved
      exact x.pass_cancelWork_done here outside
  | free =>
    cases moved
    exact x.pass_free here

end

end Pass

/-! ## Activation, the first client and the drain -/

section Steps

variable {m m' : Contexts}

section

variable (x : m.Sound)
include x

theorem Sound.activate (free : m.lock = .free) (new : m.state = .creating) : ({ m with
      lock := .activating
      allocated := true
      table := { m.table with entry := fun _ => .fresh } } : Contexts).Sound := by
  have unused := x.unused new free
  have passed : ∀ i, m.past i = true := fun i => by
    rw [past, unused]
    rfl
  have deaf : m.noRequest = true := by
    rw [noRequest, unused]
    rfl
  have still : m.noDial = true := by
    rw [noDial, unused]
    rfl
  have resting : ∀ w, (m.dialer w).resting = true := by
    rintro (_ | _)
    · exact (x.joined still).1
    · exact congrArg Dialer.resting (x.creating new).1
  refine { x with
    table := ⟨fun _ _ => rfl, fun _ => Table.entrySound_fresh, fun k => ?_⟩
    serving := fun r found => nomatch (x.serving r found).early.symm.trans deaf
    listening := fun on => nomatch (x.listening on).2.symm.trans deaf
    fresh := fun _ _ _ => rfl
    dialers := fun w => { x.dialers w with
      expects := fun _ i e expected => ?_
      resolving := fun _ i k dialer => ?_ }
    joined := nofun
    unused := nofun
    operating := fun active => nomatch new.symm.trans active
    activating := fun _ => ⟨new, rfl⟩ }
  · refine ⟨fun active => ?_, (x.table.ids k).handled, (x.table.ids k).accepting⟩
    have recorded := (x.table.ids k).active active
    cases ((x.table.entries _).gone (passed _)).symm.trans recorded
  · exact nomatch (Dialer.expects_of_resting (resting w) i).symm.trans expected
  · have moving := resting w
    rw [show m.dialer w = _ from dialer] at moving
    cases moving

theorem Sound.listen (activating : m.lock = .activating)
    (role : m.isInitiator = false) : ({ m with listening := true } : Contexts).Sound := by
  have early : m.noRequest = false := by
    rw [noRequest, activating, (x.activating activating).2]
    rfl
  exact { x with
    serving := fun r found => { x.serving r found with }
    listening := fun _ => ⟨role, early⟩ }

theorem Sound.activated (activating : m.lock = .activating) : ({ m with
      lock := .free
      state := .active
      probing := !m.fast
      eager := if m.fast && m.isInitiator then .waiting else .finished } : Contexts).Sound := by
  obtain ⟨new, used⟩ := x.activating activating
  have active :
      ({ m with lock := .free, state := .active, probing := !m.fast } : Contexts).Sound := by
    obtain ⟨isInitiator, fast, numQps, state, allocated, table, listening, request, connectStarted,
      thread, eager, probing, lock, drains, faults⟩ := m
    obtain rfl : lock = .activating := activating
    obtain rfl : allocated = true := used
    -- nothing is cancelled under either lock
    exact { x with
      table := x.table
      serving := fun r found => { x.serving r found with }
      joined := nofun
      creating := nofun
      unused := nofun
      operating := fun _ => ⟨rfl, rfl⟩
      activating := nofun
      marked := fun marked => by
        rcases x.marked marked with draining | stopped
        · exact nomatch new.symm.trans draining
        · exact nomatch new.symm.trans stopped }
  refine active.rest .eager ?_ (fun dials => ?_) nofun
  · split <;> rfl
  · have eagerly : (m.fast && m.isInitiator) = true := by
      by_contra lazily
      exact dials (if_neg lazily)
    obtain ⟨fast, role⟩ := and_eq_true_iff.mp eagerly
    exact ⟨role, fun _ => rfl, fun _ => fast⟩

theorem Sound.unwind (activating : m.lock = .activating) (finished : m.thread = .finished) :
    ({ m with lock := .pass (.cancelRetry 0) false } : Contexts).Sound := by
  obtain ⟨new, -⟩ := x.activating activating
  refine x.enter (fun i => ?_) (fun _ => rfl) nofun (fun _ => ⟨?_, (x.creating new).2.2⟩)
    (fun _ => nofun) (fun active => nomatch new.symm.trans active) nofun
  · rw [activating]
    rfl
  · rw [finished]
    rfl

theorem Sound.markDraining (free : m.lock = .free) :
    ({ m with state := .draining, drains := m.drains + 1 } : Contexts).Sound :=
  { x with
    serving := fun r found => { x.serving r found with }
    creating := nofun
    unused := nofun
    operating := nofun
    activating := fun busy => nomatch free.symm.trans busy
    marked := fun _ => .inl rfl }

theorem Sound.drain (free : m.lock = .free) (marked : 0 < m.drains) :
    ({ m with drains := m.drains - 1, lock := .pass .join true } : Contexts).Sound := by
  have taken : ({ m with drains := m.drains - 1 } : Contexts).Sound :=
    { x with
      serving := fun r found => { x.serving r found with }
      marked := fun _ => x.marked marked }
  refine taken.enter (l := .pass .join true) (fun i => ?_) (fun _ => rfl) (fun _ => ?_) nofun
    (fun _ => nofun) (fun active => ?_) nofun
  · rw [free]
    rfl
  · rw [free]
    rfl
  · rcases x.marked marked with draining | stopped
    · exact nomatch draining.symm.trans active
    · exact nomatch stopped.symm.trans active

end

def orderly (m : Contexts) : ContextEvent → Bool
  | .dial .eager _ => m.allocated && !m.lock.cleaning
  | .retry i _ _ =>
    (m.table.entry i).retryWork ≠ .qpDestroyed ||
      (m.table.entry i).unconnecting && !(m.table.entry i).qp
  | .pass =>
    match m.lock with
    | .pass (.destroyId i) _ => (m.table.entry i).unconnecting
    | _ => true
  | _ => true

theorem Sound.step (x : m.Sound) {e : ContextEvent} (orderly : m.orderly e = true)
    (moved : m.step e = some m') : m'.Sound := by
  unfold Contexts.step at moved
  cases e with
  | activate =>
    obtain ⟨⟨free, new⟩, rfl⟩ := Lib.guarded moved
    exact x.activate free new
  | listen =>
    obtain ⟨⟨activating, role⟩, rfl⟩ := Lib.guarded moved
    exact x.listen activating (by simpa using role)
  | listenUds =>
    obtain ⟨⟨activating, role, plain⟩, rfl⟩ := Lib.guarded moved
    have plain : m.fast = false := by simpa using plain
    refine x.rest .thread rfl (fun _ => ⟨role, fun fast => ?_, nofun⟩) fun _ => nofun
    exact nomatch plain.symm.trans fast
  | activated =>
    obtain ⟨⟨activating, -⟩, rfl⟩ := Lib.guarded moved
    exact x.activated activating
  | unwind =>
    obtain ⟨⟨activating, finished⟩, rfl⟩ := Lib.guarded moved
    exact x.unwind activating finished
  | client =>
    obtain ⟨waiting, rfl⟩ := Lib.guarded moved
    split
    · rename_i starts
      obtain ⟨free, used⟩ := x.operating starts.1
      refine x.start (w := .thread) waiting (by simpa using starts.2) ?_ fun _ => ?_
      · rw [starts.1]
        decide
      · rw [noDial, used, free]
        rfl
    · exact x
  | dialEagerly =>
    obtain ⟨waiting, rfl⟩ := Lib.guarded moved
    split
    · exact x.rest .eager rfl (fun other => absurd rfl other) fun _ _ => rfl
    · rename_i unstarted
      refine x.start (w := .eager) waiting (eq_false_iff.mpr unstarted) (fun new => ?_) nofun
      exact nomatch waiting.symm.trans (x.creating new).1
  | dial w ok =>
    refine x.dial ?_ moved
    cases w with
    | thread =>
      -- the thread is joined before the pass goes on
      rw [eq_false_iff]
      intro still
      have none := dial_of_resting (w := .thread) ok (x.joined still).1
      exact nomatch none.symm.trans moved
    | eager =>
      obtain ⟨used, unclean⟩ := and_eq_true_iff.mp orderly
      rw [noDial, used]
      simpa using unclean
  | deliver k r => exact x.deliver moved
  | handle k ok again => exact x.handle moved
  | reject =>
    obtain ⟨⟨listening, -⟩, rfl⟩ := Lib.guarded moved
    exact x.reject listening
  | request i reuse =>
    obtain ⟨⟨listening, -, inside⟩, rfl⟩ := Lib.guarded moved
    exact x.request reuse listening inside
  | accept ok => exact x.accept moved
  | connectStart i =>
    obtain ⟨⟨-, queued, -⟩, rfl⟩ := Lib.guarded moved
    exact x.connectStart queued
  | connect i ok =>
    simp only [Option.ite_none_right_eq_some] at moved
    exact x.connect moved.2
  | missed i again =>
    obtain ⟨⟨-, probing⟩, rfl⟩ := Lib.guarded moved
    exact x.missed again probing
  | retryStart i =>
    obtain ⟨⟨-, queued, -⟩, rfl⟩ := Lib.guarded moved
    exact x.retryStart queued
  | retry i ok again =>
    simp only [Option.ite_none_right_eq_some] at moved
    refine x.retry (fun work => ?_) moved.2
    simpa [Contexts.orderly, work] using orderly
  | markDraining =>
    obtain ⟨⟨free, -⟩, rfl⟩ := Lib.guarded moved
    exact x.markDraining free
  | drain =>
    obtain ⟨⟨free, marked⟩, rfl⟩ := Lib.guarded moved
    exact x.drain free marked
  | pass =>
    cases lock : m.lock with
    | free | activating =>
      rw [lock] at moved
      cases moved
    | pass stage drain =>
      rw [lock] at moved
      refine x.passStep lock (fun i stage' => ?_) moved
      subst stage'
      rwa [Contexts.orderly, lock] at orderly

end Steps

theorem sound_init (isInitiator fast : Bool) {numQps : Nat} (positive : 0 < numQps) :
    (init isInitiator fast numQps).Sound where
  faults := rfl
  positive := positive
  table := Table.sound_empty
  serving := nofun
  listening := nofun
  fresh _ _ _ := rfl
  dialers := by
    rintro (_ | _) <;> exact ⟨nofun, nofun, nofun, trivial, fun dials => absurd rfl dials⟩
  joined _ := ⟨rfl, rfl⟩
  creating _ := ⟨rfl, rfl, rfl⟩
  unused _ _ := rfl
  operating := nofun
  activating := nofun
  marked := nofun

/-- In every run of orderly steps, of an endpoint of either role and with any number of drains, no
access finds the array freed and no call gets an id that is missing or destroyed. -/
theorem faultless_of_orderly (isInitiator fast : Bool) (numQps : NumQps)
    {events : List ContextEvent}
    {m : Contexts} (reached : run step (init isInitiator fast numQps) events = some m)
    (orderly : Along step (fun m e => m.orderly e = true) (init isInitiator fast numQps) events) :
    m.faults = [] :=
  Sound.faults (run_preserves (fun _ _ _ before admitted moved => before.step admitted moved)
    (sound_init isInitiator fast numQps.2.1) orderly reached)

def drained : List ContextEvent :=
  [.activate, .listenUds, .activated, .client, .dial .thread true, .dial .thread true,
    .deliver 0 .addrResolved, .handle 0 true false, .deliver 0 .routeResolved, .handle 0 true false,
    .handle 0 true false, .connectStart 0, .connect 0 true, .deliver 0 .established,
    .handle 0 true false, .markDraining, .drain, .pass, .pass, .pass, .pass, .pass, .pass, .pass,
    .pass, .pass, .pass, .pass, .pass, .pass]

theorem faultless_of_orderly_drained :
    ∃ m, run step (init true false 1) drained = some m ∧ m.state = .stopped ∧ m.allocated = false ∧
      m.faults = [] := by
  obtain ⟨m, reached, stopped, freed⟩ : ∃ m, run step (init true false 1) drained = some m ∧
      m.state = .stopped ∧ m.allocated = false := by decide +kernel
  exact ⟨m, reached, stopped, freed,
    faultless_of_orderly true false ⟨1, by decide⟩ reached (by decide +kernel)⟩

def eagerAfterDrain : List ContextEvent :=
  [.activate, .activated, .markDraining, .drain, .pass, .pass, .pass, .pass, .pass, .pass, .pass,
    .pass, .pass, .pass, .pass, .pass, .pass, .dialEagerly, .dial .eager true]

def connectAfterDrain : List ContextEvent :=
  [.activate, .listenUds, .activated, .client, .dial .thread true, .dial .thread true,
    .deliver 0 .addrResolved, .handle 0 true false, .deliver 0 .routeResolved, .handle 0 true false,
    .handle 0 true false, .markDraining, .drain, .pass, .pass, .pass, .pass, .pass, .pass, .pass,
    .pass, .pass, .connectStart 0, .connect 0 true]

def connectAfterRetry : List ContextEvent :=
  [.activate, .listenUds, .activated, .client, .dial .thread true, .dial .thread true,
    .deliver 0 .addrResolved, .handle 0 true false, .deliver 0 .routeResolved, .handle 0 true false,
    .handle 0 true false, .connectStart 0, .connect 0 true, .deliver 0 .established,
    .handle 0 true false, .missed 0 true, .retryStart 0, .deliver 0 .down, .handle 0 true true,
    .retry 0 true false, .retry 0 true false, .retry 0 true false, .retry 0 true false,
    .deliver 1 .addrResolved, .handle 1 true false, .deliver 1 .routeResolved, .handle 1 true false,
    .handle 1 true false, .retryStart 0, .retry 0 true false, .retry 0 true false,
    .retry 0 false false, .connectStart 0, .connect 0 true]

theorem faults_of_drain_and_retry :
    (∃ m, run step (init true true 1) eagerAfterDrain = some m ∧ .freed ∈ m.faults) ∧
      (∃ m, run step (init true false 1) connectAfterDrain = some m ∧ .connect ∈ m.faults) ∧
      ∃ m, run step (init true false 1) connectAfterRetry = some m ∧ .connect ∈ m.faults := by
  decide +kernel

end Contexts

end Urp.Conn
