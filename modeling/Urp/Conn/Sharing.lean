import Urp.Conn.Anchors
import Urp.Lib.Run

/-!
# What each context leaves to the others
-/

namespace Urp.Conn

open Urp.Control Bool

/-! ## How far the pass is -/

namespace Lock

def cleaning : Lock → Bool
  | .pass .join _ => false
  | .pass _ _ => true
  | _ => false

/-- The retry work of the queue pair `i` is cancelled. -/
def cancelled (i : Nat) : Lock → Bool
  | .pass .join _ => false
  | .pass (.cancelRetry j) _ => i < j
  | .pass _ _ => true
  | _ => false

def unlistened : Lock → Bool
  | .pass .join _ | .pass (.cancelRetry _) _ | .pass .listener _ => false
  | .pass _ _ => true
  | _ => false

/-- The id of the queue pair `i` is destroyed. -/
def dropped (i : Nat) : Lock → Bool
  | .pass (.destroyId j) _ => i < j
  | .pass (.cancelWork _) _ | .pass .free _ => true
  | _ => false

/-- Both works of the queue pair `i` are cancelled for good. -/
def stopped (i : Nat) : Lock → Bool
  | .pass (.cancelWork j) _ => i < j
  | .pass .free _ => true
  | _ => false

variable {l : Lock} {i : Nat}

theorem dropped_of_stopped (stopped : l.stopped i = true) : l.dropped i = true := by
  unfold Lock.stopped at stopped
  split at stopped
  · rfl
  · rfl
  · cases stopped

theorem unlistened_of_dropped (dropped : l.dropped i = true) : l.unlistened = true := by
  unfold Lock.dropped at dropped
  split at dropped
  · rfl
  · rfl
  · rfl
  · cases dropped

theorem cancelled_of_unlistened (unlistened : l.unlistened = true) (i : Nat) :
    l.cancelled i = true := by
  cases l with
  | pass stage drain =>
    cases stage with
    | join | cancelRetry => cases unlistened
    | _ => rfl
  | _ => cases unlistened

theorem cleaning_of_cancelled (cancelled : l.cancelled i = true) : l.cleaning = true := by
  cases l with
  | pass stage drain =>
    cases stage with
    | join => cases cancelled
    | _ => rfl
  | _ => cases cancelled

end Lock

/-- What the entry `i` is like as long as a context has not dialed it. -/
def Dialer.expects (i : Nat) : Dialer → Option Entry
  | .make j => if j ≤ i then some .fresh else none
  | .resolve j k =>
    if i = j then some { Entry.fresh with cmId := some k } else if j < i then some .fresh else none
  | _ => none

theorem Dialer.expects_of_resting {d : Dialer} (resting : d.resting = true) (i : Nat) :
    d.expects i = none := by
  cases d with
  | finished | waiting => rfl
  | _ => cases resting

def Dialer.within (n : Nat) : Dialer → Prop
  | .make i => i < n
  | .resolve i _ => i < n
  | _ => True

structure DialerSound (t : Table) (n : Nat) (initiator fast still started : Bool) (w : Who)
    (d : Dialer) : Prop where
  expects : still = false → ∀ i e, d.expects i = some e → t.entry i = e
  resolving : still = false → ∀ i k, d = .resolve i k → (t.id k).phase = .made
  started : d.resting = false → started = true
  within : d.within n
  role : d ≠ .finished → initiator = true ∧ (fast = true ↔ w = .eager)

namespace Contexts

def noDial (m : Contexts) : Bool := !m.allocated || m.lock.cleaning

def noRetry (m : Contexts) (i : Nat) : Bool := !m.allocated || m.lock.cancelled i

def noRequest (m : Contexts) : Bool := !m.allocated || m.lock.unlistened

def past (m : Contexts) (i : Nat) : Bool := !m.allocated || m.lock.dropped i

def noWork (m : Contexts) (i : Nat) : Bool := !m.allocated || m.lock.stopped i

def mark (m : Contexts) (i : Nat) : Table.Mark := ⟨m.past i, m.noRetry i, m.noWork i⟩

def Dials (m : Contexts) (i : Nat) (e : Entry) : Prop :=
  (m.isInitiator = true → m.connectStarted = false → e = .fresh) ∧
    (m.noDial = false → ∀ w e', (m.dialer w).expects i = some e' → e = e')

structure Serving (m : Contexts) (r : Request) : Prop where
  role : m.isInitiator = false
  early : m.noRequest = false
  inside : r.slot < m.numQps
  below : r.child < m.table.next
  child : m.table.id r.child = ⟨r.slot, .requested, .idle⟩
  loose : r.step ≠ .recorded → ∀ i, (m.table.entry i).cmId ≠ some r.child
  held : r.step = .recorded → (m.table.entry r.slot).cmId = some r.child
  bare : r.step = .qpDestroyed → (m.table.entry r.slot).qp = false
  empty : r.step = .tornDown → (m.table.entry r.slot).cmId = none

structure Sound (m : Contexts) : Prop where
  faults : m.faults = []
  positive : 0 < m.numQps
  table : m.table.Sound m.numQps m.isInitiator m.mark
  serving : ∀ r, m.request = some r → m.Serving r
  listening : m.listening = true → m.isInitiator = false ∧ m.noRequest = false
  fresh : m.isInitiator = true → m.connectStarted = false → ∀ i, m.table.entry i = .fresh
  dialers : ∀ w, DialerSound m.table m.numQps m.isInitiator m.fast m.noDial m.connectStarted w
    (m.dialer w)
  joined : m.noDial = true → m.thread.resting = true ∧ m.probing = false
  creating : m.state = .creating →
    m.eager = .finished ∧ m.connectStarted = false ∧ m.probing = false
  unused : m.state = .creating → m.lock = .free → m.allocated = false
  operating : m.state = .active → m.lock = .free ∧ m.allocated = true
  activating : m.lock = .activating → m.state = .creating ∧ m.allocated = true
  marked : 0 < m.drains → m.state = .draining ∨ m.state = .stopped

variable {q : Option Request}

section Frames

variable {m : Contexts} {i k : Nat}

theorem touch_of_allocated (allocated : m.allocated = true) : m.touch = m := if_pos allocated

theorem call_of_alive {f : Fault} {c : Option Nat} (alive : m.table.alive c = true) :
    m.call f c = m := if_pos alive

theorem allocated_of {b : Bool} (busy : (!m.allocated || b) = false) : m.allocated = true := by
  simpa using (or_eq_false_iff.mp busy).1

/-- Each of the marks of the pass comes after the one before. -/
theorem busy_of {b b' : Bool} (busy : (!m.allocated || b) = false) (later : b' = true → b = true) :
    (!m.allocated || b') = false := by
  obtain ⟨allocated, before⟩ := or_eq_false_iff.mp busy
  refine or_eq_false_iff.mpr ⟨allocated, eq_false_iff.mpr fun after => ?_⟩
  rw [later after] at before
  cases before

theorem noWork_of_past (busy : m.past i = false) : m.noWork i = false :=
  busy_of busy Lock.dropped_of_stopped

theorem past_of_noRequest (busy : m.noRequest = false) (i : Nat) : m.past i = false :=
  busy_of busy Lock.unlistened_of_dropped

theorem noRequest_of_noRetry (busy : m.noRetry i = false) : m.noRequest = false :=
  busy_of busy fun unlistened => Lock.cancelled_of_unlistened unlistened i

theorem noRetry_of_noDial (busy : m.noDial = false) (i : Nat) : m.noRetry i = false :=
  busy_of busy Lock.cleaning_of_cancelled

theorem past_of_noDial (busy : m.noDial = false) (i : Nat) : m.past i = false :=
  past_of_noRequest (noRequest_of_noRetry (noRetry_of_noDial busy i)) i

theorem Sound.request_none (x : m.Sound) (role : m.isInitiator = true) : m.request = none := by
  cases found : m.request with
  | none => rfl
  | some r =>
    have acceptor := (x.serving r found).role
    cases role.symm.trans acceptor

theorem Sound.no_request (x : m.Sound) (role : m.isInitiator = true) {P : Request → Prop} :
    ∀ r, m.request = some r → P r := by
  rw [x.request_none role]
  exact nofun

def Dialed (m : Contexts) (i : Nat) : Prop :=
  m.table.entry i ≠ .fresh ∧
    ∀ k, m.table.entry i = { Entry.fresh with cmId := some k } → (m.table.id k).phase ≠ .made

theorem Sound.expects_none (x : m.Sound) (dialed : m.Dialed i) (busy : m.noDial = false) (w : Who) :
    (m.dialer w).expects i = none := by
  cases expected : (m.dialer w).expects i with
  | none => rfl
  | some e =>
    have found := (x.dialers w).expects busy i e expected
    cases dialer : m.dialer w with
    | finished | waiting =>
      rw [dialer] at expected
      cases expected
    | make j =>
      rw [dialer, Dialer.expects] at expected
      split at expected
      · exact absurd (found.trans (Option.some.inj expected).symm) dialed.1
      · cases expected
    | resolve j k =>
      have made := (x.dialers w).resolving busy j k dialer
      rw [dialer, Dialer.expects] at expected
      split at expected
      · exact absurd made (dialed.2 k (found.trans (Option.some.inj expected).symm))
      · split at expected
        · exact absurd (found.trans (Option.some.inj expected).symm) dialed.1
        · cases expected

theorem Sound.dials_of_dialed (x : m.Sound) (dialed : m.Dialed i) (e : Entry) : m.Dials i e := by
  refine ⟨fun role unstarted => absurd (x.fresh role unstarted i) dialed.1, ?_⟩
  intro busy w e' expected
  rw [x.expects_none dialed busy w] at expected
  cases expected

theorem Sound.dials_of_acceptor (x : m.Sound) (role : m.isInitiator = false) (i : Nat) (e : Entry) :
    m.Dials i e := by
  refine ⟨fun other => ?_, fun _ w e' expected => ?_⟩
  · rw [role] at other
    cases other
  · have finished : m.dialer w = .finished := by
      by_contra dials
      have other := ((x.dialers w).role dials).1
      cases role.symm.trans other
    rw [finished] at expected
    cases expected

variable {t : Table}

theorem Sound.withTable (x : m.Sound) (i : Nat) (table : t.Sound m.numQps m.isInitiator m.mark)
    (same : ∀ j ≠ i, t.entry j = m.table.entry j)
    (serving : ∀ r, q = some r → (m.setTable t).Serving r) (dials : m.Dials i (t.entry i))
    (resolving : m.noDial = false → ∀ w k, m.dialer w = .resolve i k → (t.id k).phase = .made)
    (others : ∀ k, (m.table.id k).qpIndex ≠ i → (m.table.id k).phase = .made →
      (t.id k).phase = .made) : ({ m with table := t, request := q } : Contexts).Sound := by
  refine { x with
    table, serving := fun r found => { serving r found with }, fresh := ?_
    dialers := fun w => { x.dialers w with expects := ?_, resolving := ?_ } }
  · intro role unstarted j
    rcases eq_or_ne j i with rfl | self
    · exact dials.1 role unstarted
    · exact (same j self).trans (x.fresh role unstarted j)
  · intro busy j e expected
    rcases eq_or_ne j i with rfl | self
    · exact dials.2 busy w e expected
    · exact (same j self).trans ((x.dialers w).expects busy j e expected)
  · intro busy j k (dialer : m.dialer w = .resolve j k)
    rcases eq_or_ne j i with rfl | self
    · exact resolving busy w k dialer
    · have expected : (m.dialer w).expects j = some { Entry.fresh with cmId := some k } := by
        rw [dialer]
        exact if_pos rfl
      have found := (x.dialers w).expects busy j _ expected
      have recorded : (m.table.entry j).cmId = some k := by rw [found]
      have index := ((x.table.entries j).recorded k recorded).2
      exact others k (index ▸ self) ((x.dialers w).resolving busy j k dialer)

theorem Sound.withDialed (x : m.Sound) (dialed : m.Dialed i)
    (table : t.Sound m.numQps m.isInitiator m.mark)
    (same : ∀ j ≠ i, t.entry j = m.table.entry j)
    (serving : ∀ r, m.request = some r → (m.setTable t).Serving r)
    (others : ∀ k, (m.table.id k).qpIndex ≠ i → (m.table.id k).phase = .made →
      (t.id k).phase = .made) : (m.setTable t).Sound := by
  refine x.withTable (q := m.request) i table same serving (x.dials_of_dialed dialed _) ?_ others
  intro busy w k dialer
  have expected := x.expects_none dialed busy w
  rw [dialer, Dialer.expects, if_pos rfl] at expected
  cases expected

theorem made_of_index {t' : Table} (others : ∀ j ≠ k, t'.id j = t.id j)
    (index : (t.id k).qpIndex = i) (j : Nat) (other : (t.id j).qpIndex ≠ i)
    (made : (t.id j).phase = .made) : (t'.id j).phase = .made := by
  rw [others j]
  · exact made
  · rintro rfl
    exact other index

theorem Serving.frame {r : Request} (s : m.Serving r) (next : m.table.next ≤ t.next)
    (child : t.id r.child = m.table.id r.child)
    (cmId : ∀ j, (t.entry j).cmId = (m.table.entry j).cmId)
    (qp : (m.table.entry r.slot).qp = false → (t.entry r.slot).qp = false) :
    (m.setTable t).Serving r where
  __ := s
  below := Nat.lt_of_lt_of_le s.below next
  child := child.trans s.child
  loose early j := fun held => s.loose early j ((cmId j).symm.trans held)
  held recorded := (cmId r.slot).trans (s.held recorded)
  bare torn := qp (s.bare torn)
  empty torn := (cmId r.slot).trans (s.empty torn)

theorem dialed_of_recorded (recorded : (m.table.entry i).cmId = some k)
    (phase : (m.table.id k).phase ≠ .made) : m.Dialed i := by
  constructor
  · intro fresh
    rw [fresh] at recorded
    cases recorded
  · intro k' plain
    rw [plain] at recorded
    cases recorded
    exact phase

theorem dialed_of_mark (mark : Entry → Bool)
    (plain : ∀ c, mark { Entry.fresh with cmId := c } = false)
    (marked : mark (m.table.entry i) = true) : m.Dialed i := by
  constructor
  · intro fresh
    have unmarked := plain none
    rw [fresh] at marked
    rw [show mark .fresh = false from unmarked] at marked
    cases marked
  · intro k found
    rw [found, plain] at marked
    cases marked

theorem modify_modify (m : Contexts) (i : Nat) (f g : Entry → Entry) :
    (m.modify i f).modify i g = m.modify i fun e => g (f e) :=
  congrArg m.setTable (m.table.modify_modify i f g)

variable {f g : Entry → Entry}

theorem modify_congr (same : f (m.table.entry i) = g (m.table.entry i)) :
    m.modify i f = m.modify i g := by
  unfold Contexts.modify Table.modify
  rw [same]

theorem modify_of_same (same : f (m.table.entry i) = m.table.entry i) : m.modify i f = m := by
  unfold Contexts.modify
  rw [m.table.modify_of_same i same]
  rfl

end Frames

/-! ## The handlers -/

variable {e : Entry}

section Handlers

variable {m m' : Contexts} {k : Nat}

section

variable (x : m.Sound)
include x

theorem Sound.dialed_of_active (active : (m.table.id k).phase.active = true) :
    m.Dialed (m.table.id k).qpIndex :=
  dialed_of_recorded ((x.table.ids k).active active) (IdPhase.ne_made_of_active active)

theorem Sound.setId {f : CmId → CmId} (active : (m.table.id k).phase.active = true)
    (index : (f (m.table.id k)).qpIndex = (m.table.id k).qpIndex)
    (handled : (f (m.table.id k)).Handled)
    (solid : (m.table.id k).phase.solid = true → (f (m.table.id k)).phase.solid = true ∧
      ((m.table.id k).phase.active = true → (f (m.table.id k)).phase.active = true))
    (accepting : m.isInitiator = false → (f (m.table.id k)).phase.accepting = true) :
    (m.setTable (m.table.setId k f)).Sound := by
  have table := x.table.setId ((x.table.ids k).active active) index handled solid
    (IdPhase.ne_made_of_active active) accepting
  refine x.withDialed (x.dialed_of_active active) table (fun _ _ => rfl) (fun r found => ?_)
    (made_of_index (fun _ other => Table.id_setId_of_ne _ k other f) rfl)
  have serving := x.serving r found
  refine serving.frame (Nat.le_refl _) (Table.id_setId_of_ne _ k ?_ f) (fun _ => rfl)
    fun bare => bare
  rintro rfl
  rw [serving.child] at active
  cases active

theorem Sound.deliver {r : Report} (moved : m.deliver k r = some m') : m'.Sound := by
  have starts : ∀ h, (m.table.id k).phase.active = true →
      ({ m.table.id k with handler := h } : CmId).Handled →
      (m.setTable (m.table.setId k fun c => { c with handler := h })).Sound := by
    intro h active handled
    refine x.setId active rfl handled (fun solid => ⟨solid, fun live => live⟩) fun role => ?_
    exact (x.table.ids k).accepting role
  unfold Contexts.deliver at moved
  dsimp only at moved
  split at moved
  · cases r with
    | addrResolved =>
      obtain ⟨phase, rfl⟩ := Lib.guarded moved
      exact starts .addrResolved (by rw [phase]; rfl) phase
    | routeResolved =>
      obtain ⟨phase, rfl⟩ := Lib.guarded moved
      exact starts .routeResolved (by rw [phase]; rfl) phase
    | established =>
      obtain ⟨phase, rfl⟩ := Lib.guarded moved
      rcases phase with phase | phase
      · exact starts .established (by rw [phase]; rfl) ⟨by rw [phase]; rfl, by rw [phase]; rfl⟩
      · exact starts .established (by rw [phase]; rfl) ⟨by rw [phase]; rfl, by rw [phase]; rfl⟩
    | down =>
      obtain ⟨⟨unmade, unrequested, alive⟩, rfl⟩ := Lib.guarded moved
      have active : (m.table.id k).phase.active = true := by
        cases phase : (m.table.id k).phase with
        | made => exact absurd phase unmade
        | requested => exact absurd phase unrequested
        | destroyed => exact absurd phase alive
        | _ => rfl
      exact starts .down active active
  · cases moved

theorem Sound.modify {i : Nat} {f : Entry → Entry} (new : f (m.table.entry i) = e)
    (dialed : m.Dialed i) (cmId : e.cmId = (m.table.entry i).cmId)
    (qp : (m.table.entry i).qp = false → m.isInitiator = false → e.qp = false)
    (entry : m.table.EntrySound m.isInitiator (m.mark i) i e) : (m.modify i f).Sound := by
  subst new
  have table := x.table.modify rfl (x.table.inside dialed.1) (fun k held => cmId.trans held) entry
  refine x.withDialed dialed table (fun j other => Table.entry_modify_of_ne _ i other f)
    (fun r found => ?_) fun _ _ made => made
  have serving := x.serving r found
  refine serving.frame (Nat.le_refl _) rfl (fun j => ?_) fun bare => ?_
  · by_cases self : j = i
    · rw [self, Table.entry_modify_self, cmId]
    · rw [Table.entry_modify_of_ne _ i self]
  · by_cases self : r.slot = i
    · rw [self, Table.entry_modify_self]
      exact qp (self ▸ bare) serving.role
    · rwa [Table.entry_modify_of_ne _ i self]

theorem Sound.report {f : CmId → CmId} {c : CmId} (new : f (m.table.id k) = c)
    (active : (m.table.id k).phase.active = true) (index : c.qpIndex = (m.table.id k).qpIndex)
    (handled : c.Handled) (live : c.phase.active = true ∧ c.phase.solid = true)
    (accepting : m.isInitiator = false → c.phase.accepting = true) :
    (m.setTable (m.table.setId k f)).Sound ∧
      (m.setTable (m.table.setId k f)).Dialed (m.table.id k).qpIndex ∧
      (m.table.setId k f).Reporting (m.table.entry (m.table.id k).qpIndex).cmId := by
  subst new
  have recorded := (x.table.ids k).active active
  have here : (m.table.setId k f).id k = f (m.table.id k) := Table.id_setId_self ..
  refine ⟨x.setId active index handled (fun _ => ⟨live.2, fun _ => live.1⟩) accepting,
    dialed_of_recorded recorded ?_, k, recorded, here ▸ live⟩
  exact here ▸ IdPhase.ne_made_of_active live.1

theorem Sound.handle {ok again : Bool} (moved : m.handle k ok again = some m') :
    m'.Sound := by
  have handled := (x.table.ids k).handled
  by_cases idle : (m.table.id k).handler = .idle
  · unfold Contexts.handle at moved
    dsimp only at moved
    rw [idle] at moved
    cases moved
  have active := handled.active idle
  have recorded := (x.table.ids k).active active
  have ahead := (x.table.entries _).ahead recorded
  have allocated := allocated_of ahead
  have inside : (m.table.id k).qpIndex < m.numQps := x.table.inside (x.dialed_of_active active).1
  -- an id before its route has nothing that hangs on it
  have early : ∀ next : IdPhase, (m.table.id k).phase.solid = false → m.isInitiator = true →
      (m.setTable (m.table.returns k next)).Sound := by
    intro next loose role
    refine x.setId active rfl trivial (fun solid => ?_) fun other => ?_
    · rw [loose] at solid
      cases solid
    · rw [role] at other
      cases other
  unfold Contexts.handle at moved
  dsimp only at moved
  cases handler : (m.table.id k).handler with
  | idle => exact absurd handler idle
  | addrResolved =>
    have phase : (m.table.id k).phase = .resolvingAddr := by rwa [CmId.Handled, handler] at handled
    have role := (x.table.ids k).initiates (by rw [phase]; rfl)
    rw [handler] at moved
    cases moved
    split
    · exact early .resolvingRoute (by rw [phase]; rfl) role
    · exact early .destroyed (by rw [phase]; rfl) role
  | routeResolved =>
    have phase : (m.table.id k).phase = .resolvingRoute := by rwa [CmId.Handled, handler] at handled
    have role := (x.table.ids k).initiates (by rw [phase]; rfl)
    rw [handler] at moved
    cases moved
    split
    · have initiates : m.isInitiator ≠ false := by simp [role]
      rw [touch_of_allocated allocated]
      obtain ⟨moved, dialed, reporting⟩ := x.report
        (f := fun c => { c with phase := .routed, handler := .qpCreated }) rfl active rfl (.inl rfl)
        ⟨rfl, rfl⟩ fun other => absurd other initiates
      have created := moved.modify (f := fun e => { e with qp := true }) rfl dialed rfl
        (fun _ other => absurd other initiates)
        { moved.table.entries _ with created := fun _ => .inr reporting.anchored }
      rwa [modify_congr (g := fun e => { e with qp := true, cmId := some k })
        (by rw [← recorded]; rfl)] at created
    · exact early .destroyed (by rw [phase]; rfl) role
  | qpCreated =>
    have phase : (m.table.id k).phase = .routed ∨ (m.table.id k).phase = .connecting := by
      rwa [CmId.Handled, handler] at handled
    have role : m.isInitiator = true := by
      rcases phase with phase | phase <;> exact (x.table.ids k).initiates (by rw [phase]; rfl)
    have solid : (m.table.id k).phase.solid = true := by
      rcases phase with phase | phase <;> rw [phase] <;> rfl
    rw [handler] at moved
    cases moved
    rw [touch_of_allocated allocated]
    obtain ⟨moved, dialed, reporting⟩ := x.report
      (f := fun c => { c with phase := (m.table.id k).phase, handler := .idle }) rfl active rfl
      trivial ⟨active, solid⟩ (x.table.ids k).accepting
    exact moved.modify rfl dialed rfl (fun bare _ => bare) { moved.table.entries _ with
      pending := fun _ => ⟨role, reporting.anchored, fun c work =>
        ((x.table.entries _).pending (Entry.unconnecting_of_work work)).2.2 c work⟩ }
  | established =>
    rw [handler] at moved
    cases moved
    rw [if_pos ⟨allocated, inside⟩]
    obtain ⟨moved, dialed, reporting⟩ := x.report
      (f := fun c => { c with phase := .established, handler := .idle }) rfl active rfl trivial
      ⟨rfl, rfl⟩ fun _ => rfl
    exact moved.modify rfl dialed rfl (fun bare _ => bare)
      { moved.table.entries _ with up := fun _ => .inr reporting }
  | down =>
    rw [handler] at moved
    cases moved
    rw [if_pos ⟨allocated, inside⟩]
    obtain ⟨moved, dialed, reporting⟩ := x.report
      (f := fun c => { c with phase := .down, handler := .idle }) rfl active rfl trivial ⟨rfl, rfl⟩
      fun _ => rfl
    refine moved.modify rfl dialed rfl (fun bare _ => bare)
      { moved.table.entries _ with
        up := fun up => absurd up Bool.false_ne_true
        queued := fun queued => ?_ }
    rcases or_eq_true_iff.mp queued with before | again
    · exact (x.table.entries _).queued before
    · exact ⟨(and_eq_true_iff.mp again).1, noWork_of_past ahead⟩

end

end Handlers

/-! ## The work items -/

variable {ok : Bool}

section Works

variable {m m' : Contexts} {i : Nat}

variable {f : Entry → Entry}

theorem Sound.connectStart (x : m.Sound) (queued : (m.table.entry i).connectQueued = true) :
    (m.touch.modify i fun e =>
      { e with connectQueued := false, connectWork := some e.cmId }).Sound := by
  have connecting : (m.table.entry i).unconnecting = false := by
    rw [Entry.unconnecting, queued]
    rfl
  obtain ⟨role, anchored, -⟩ := (x.table.entries i).pending connecting
  obtain ⟨k, recorded, -⟩ := id anchored
  rw [touch_of_allocated (allocated_of ((x.table.entries i).ahead recorded))]
  exact x.modify rfl (dialed_of_mark Entry.connectQueued (fun _ => rfl) queued) rfl
    (fun bare _ => bare) { x.table.entries i with
      pending := fun _ => ⟨role, anchored, fun c work => (Option.some.inj work).symm⟩ }

theorem handled_connecting {c : CmId} (handled : c.Handled) (routed : c.phase = .routed) :
    ({ c with phase := .connecting } : CmId).Handled := by
  unfold CmId.Handled at handled ⊢
  cases handler : c.handler with
  | idle => trivial
  | addrResolved | routeResolved =>
    rw [handler] at handled
    exact nomatch routed.symm.trans handled
  | qpCreated => exact .inr rfl
  | established => exact ⟨rfl, rfl⟩
  | down => rfl

theorem Sound.connect (x : m.Sound) (moved : m.connect i ok = some m') : m'.Sound := by
  unfold Contexts.connect at moved
  cases work : (m.table.entry i).connectWork with
  | none =>
    rw [work] at moved
    cases moved
  | some c =>
    have connecting := Entry.unconnecting_of_work work
    obtain ⟨role, anchored, loaded⟩ := (x.table.entries i).pending connecting
    obtain ⟨k, recorded, -⟩ := id anchored
    obtain rfl : c = some k := (loaded c work).trans recorded
    have alive := anchored.alive
    rw [recorded] at alive
    have done : (m.modify i fun e => { e with connectWork := none }).Sound := by
      refine x.modify rfl (dialed_of_mark (fun e => e.connectWork.isSome) (fun _ => rfl) ?_) rfl
        (fun bare _ => bare)
        { x.table.entries i with pending := fun _ => ⟨role, anchored, nofun⟩ }
      rw [work]
      rfl
    rw [work] at moved
    cases moved
    dsimp only
    rw [call_of_alive alive]
    split
    · rename_i routed
      refine done.setId (k := k) ?_ rfl (handled_connecting (x.table.ids k).handled routed.2)
        (fun _ => ⟨rfl, fun _ => rfl⟩) fun other => nomatch role.symm.trans other
      exact (congrArg IdPhase.active routed.2).trans rfl
    · exact done

theorem Sound.missed (x : m.Sound) (again : Bool) (probing : m.probing = true) :
    (m.touch.modify i (.retryOnSilentDrop m.isInitiator again)).Sound := by
  have busy : m.noDial = false := by
    rw [eq_false_iff]
    intro still
    rw [(x.joined still).2] at probing
    cases probing
  rw [touch_of_allocated (allocated_of busy)]
  by_cases drops : ((m.table.entry i).established && (m.table.entry i).qp && m.isInitiator) = true
  · have same : m.modify i (.retryOnSilentDrop m.isInitiator again) =
        m.modify i fun e => { e with established := false }.queueRetry again :=
      modify_congr (if_pos drops)
    rw [same]
    simp only [and_eq_true] at drops
    exact x.modify rfl (dialed_of_mark Entry.established (fun _ => rfl) drops.1.1) rfl
      (fun bare _ => bare) { x.table.entries i with
        up := nofun
        queued := fun _ => ⟨drops.2, noWork_of_past (past_of_noDial busy i)⟩ }
  · have same : m.modify i (.retryOnSilentDrop m.isInitiator again) = m :=
      modify_of_same (if_neg drops)
    rwa [same]

theorem Sound.retryStart (x : m.Sound) (queued : (m.table.entry i).retryQueued = true) :
    (m.touch.modify i fun e =>
      { e with
        retryQueued := false
        retryWork := if m.state = .active then .started else .idle }).Sound := by
  obtain ⟨role, working⟩ := (x.table.entries i).queued queued
  have allocated := allocated_of working
  rw [touch_of_allocated allocated]
  refine x.modify rfl (dialed_of_mark Entry.retryQueued (fun _ => rfl) queued) rfl
    (fun bare _ => bare) { x.table.entries i with
      tornDown := ?_, made := fun k => ?_, retries := ?_, queued := nofun }
  · dsimp only
    split <;> exact nofun
  · dsimp only
    split <;> exact nofun
  · dsimp only
    split
    · rename_i active
      refine fun _ => ⟨role, ?_⟩
      change m.noRetry i = false
      rw [noRetry, allocated, (x.operating active).1]
      rfl
    · exact fun runs => absurd rfl runs

theorem Sound.destroyQp_eq (x : m.Sound) (ahead : m.past i = false) :
    m.destroyQp i = m.modify i fun e => { e with qp := false } := by
  unfold destroyQp
  split
  · rename_i created
    have anchored := ((x.table.entries i).created created).resolve_left
      fun passed => nomatch ahead.symm.trans passed
    rw [call_of_alive anchored.alive]
  · rename_i bare
    refine (modify_of_same ?_).symm
    rw [← eq_false_iff.mpr bare]

variable {k : Nat}

theorem Sound.drop (x : m.Sound) (new : f (m.table.entry i) = e) (dialed : m.Dialed i)
    (role : m.isInitiator = true) (recorded : (m.table.entry i).cmId = some k)
    (idle : (m.table.id k).handler = .idle) (cmId : e.cmId = none)
    (bare : e.qp = false ∧ e.established = false) (unconnecting : e.unconnecting = true)
    (unmade : ∀ k, e.retryWork ≠ .made k) (retries : e.retryWork ≠ .idle → m.noRetry i = false)
    (queued : e.retryQueued = true → m.noWork i = false) :
    (m.setTable ((m.table.setPhase k .destroyed).modify i f)).Sound := by
  have table := x.table.drop recorded idle new (fun _ _ => rfl) cmId
    (fun created => nomatch bare.1.symm.trans created) (fun up => nomatch bare.2.symm.trans up)
    unconnecting unmade (fun runs => ⟨role, retries runs⟩) fun again => ⟨role, queued again⟩
  exact x.withDialed dialed table (fun j other => Table.entry_modify_of_ne _ i other f)
    (x.no_request role) (made_of_index (fun _ other => m.table.id_setPhase_of_ne k other .destroyed)
      ((x.table.entries i).recorded k recorded).2)

theorem unhandled_some {t : Table} (idle : t.unhandled (some k) = true) :
    (t.id k).handler = .idle := by
  simpa [Table.unhandled] using idle

section

variable (x : m.Sound)
include x

theorem Sound.retrying (running : (m.table.entry i).retryWork ≠ .idle) :
    m.isInitiator = true ∧ m.noRetry i = false ∧ m.past i = false ∧ m.Dialed i := by
  obtain ⟨role, early⟩ := (x.table.entries i).retries running
  refine ⟨role, early, past_of_noRequest (noRequest_of_noRetry early) i, ?_⟩
  exact dialed_of_mark (fun e => decide (e.retryWork ≠ .idle)) (fun _ => rfl)
    (decide_eq_true running)

theorem Sound.retry_qpDestroyed (work : (m.table.entry i).retryWork = .qpDestroyed)
    (unconnecting : (m.table.entry i).unconnecting = true) (bare : (m.table.entry i).qp = false)
    (idle : m.table.unhandled (m.table.entry i).cmId = true) :
    ((m.destroyCmId i).modify i fun e => { e with retryWork := .tornDown }).Sound := by
  obtain ⟨role, early, -, dialed⟩ := x.retrying (i := i) (by rw [work]; decide)
  unfold destroyCmId
  cases held : (m.table.entry i).cmId with
  | none =>
    rw [Table.cmIdDestroy_of_none held]
    have torn : ((m.modify i fun e => { e with established := false }).modify i fun e =>
        { e with retryWork := .tornDown }).Sound := by
      rw [modify_modify]
      exact x.modify rfl dialed rfl (fun bare _ => bare) { x.table.entries i with
        up := nofun
        tornDown := fun _ => held
        made := nofun
        retries := fun _ => ⟨role, early⟩ }
    exact torn
  | some k =>
    rw [held] at idle
    rw [Table.cmIdDestroy_of_some held, Table.modify_modify]
    have torn : (m.setTable (((m.table.setPhase k .destroyed).modify i fun e =>
        { e with cmId := none, established := false }).modify i fun e =>
          { e with retryWork := .tornDown })).Sound := by
      rw [Table.modify_modify]
      exact x.drop rfl dialed role held (unhandled_some idle) rfl ⟨bare, rfl⟩ unconnecting nofun
        (fun _ => early) fun queued => ((x.table.entries i).queued queued).2
    exact torn

theorem Sound.retry_tornDown (work : (m.table.entry i).retryWork = .tornDown) :
    ((m.setTable (m.table.makeCmId i)).modify i fun e =>
      { e with retryWork := .made m.table.next }).Sound := by
  obtain ⟨role, early, ahead, dialed⟩ := x.retrying (i := i) (by rw [work]; decide)
  have none := (x.table.entries i).tornDown work
  obtain ⟨bare, down, unconnecting⟩ :=
    (x.table.entries i).free ahead (Table.not_anchored_of_none none)
  have new := m.table.id_newId_self i .made
  have grown := x.table.newId i .made rfl fun other => nomatch role.symm.trans other
  have made : (((m.table.newId i .made).modify i fun e =>
      { e with cmId := some m.table.next }).modify i fun e =>
        { e with retryWork := .made m.table.next }).Sound m.numQps m.isInitiator m.mark := by
    rw [Table.modify_modify]
    refine grown.modify rfl (x.table.inside dialed.1) (fun k held => nomatch none.symm.trans held)
      { grown.entries i with
        recorded := ?_
        created := fun created => nomatch bare.symm.trans created
        up := fun up => nomatch down.symm.trans up
        pending := fun connecting => nomatch unconnecting.symm.trans connecting
        gone := fun passed => nomatch ahead.symm.trans passed
        tornDown := nofun
        made := ?_
        retries := fun _ => ⟨role, early⟩ }
    · rintro _ ⟨⟩
      exact ⟨Nat.lt_succ_self _, by rw [new]⟩
    · rintro _ ⟨⟩
      exact ⟨rfl, by rw [new]⟩
  have final := x.withDialed dialed made (fun j other =>
      (Table.entry_modify_of_ne _ i other _).trans (Table.entry_modify_of_ne _ i other _))
    (x.no_request role) fun k _ phase => ?_
  · exact final
  · by_cases self : k = m.table.next
    · rw [self]
      exact congrArg CmId.phase new
    · exact (congrArg CmId.phase (m.table.id_newId_of_ne i self .made)).trans phase

theorem Sound.retry_made (work : (m.table.entry i).retryWork = .made k)
    (again : Bool) : ((m.setTable (m.table.setPhase k .resolvingAddr)).retryEnd i again).Sound := by
  obtain ⟨role, early, ahead, dialed⟩ := x.retrying (i := i) (by rw [work]; exact nofun)
  obtain ⟨recorded, phase⟩ := (x.table.entries i).made k work
  have asked := x.table.resolveAddr
    (f := fun e => { e with retryWork := .idle }.queueRetry (m.isInitiator && again)) recorded phase
    rfl rfl rfl rfl rfl rfl fun _ => noWork_of_past ahead
  exact x.withDialed dialed asked (fun j other => Table.entry_modify_of_ne _ i other _)
    (x.no_request role) (made_of_index
      (fun _ other => m.table.id_setPhase_of_ne k other .resolvingAddr)
      ((x.table.entries i).recorded k recorded).2)

theorem Sound.retry {ok again : Bool} (settled : (m.table.entry i).retryWork = .qpDestroyed →
      (m.table.entry i).unconnecting = true ∧ (m.table.entry i).qp = false)
    (moved : m.retry i ok again = some m') : m'.Sound := by
  unfold Contexts.retry at moved
  dsimp only at moved
  cases work : (m.table.entry i).retryWork with
  | idle =>
    rw [work] at moved
    cases moved
  | started =>
    rw [work] at moved
    cases moved
    obtain ⟨role, early, ahead, dialed⟩ := x.retrying (i := i) (by rw [work]; decide)
    rw [touch_of_allocated (allocated_of ahead), x.destroyQp_eq ahead, modify_modify]
    exact x.modify rfl dialed rfl (fun _ _ => rfl) { x.table.entries i with
      created := nofun
      tornDown := nofun
      made := nofun
      retries := fun _ => ⟨role, early⟩ }
  | qpDestroyed =>
    obtain ⟨unconnecting, bare⟩ := settled work
    obtain ⟨-, -, ahead, -⟩ := x.retrying (i := i) (by rw [work]; decide)
    rw [work] at moved
    dsimp only at moved
    split at moved
    · rename_i idle
      cases moved
      rw [touch_of_allocated (allocated_of ahead)]
      exact x.retry_qpDestroyed work unconnecting bare idle
    · cases moved
  | tornDown =>
    obtain ⟨role, early, ahead, dialed⟩ := x.retrying (i := i) (by rw [work]; decide)
    rw [work] at moved
    cases moved
    rw [touch_of_allocated (allocated_of ahead)]
    split
    · exact x.retry_tornDown work
    · exact x.modify rfl dialed rfl (fun bare _ => bare) { x.table.entries i with
        tornDown := nofun
        made := nofun
        retries := fun runs => absurd rfl runs
        queued := fun _ => ⟨role, noWork_of_past ahead⟩ }
  | made k =>
    obtain ⟨role, early, ahead, dialed⟩ := x.retrying (i := i) (by rw [work]; exact nofun)
    obtain ⟨recorded, phase⟩ := (x.table.entries i).made k work
    obtain ⟨bare, down, unconnecting⟩ := (x.table.entries i).free ahead
      (Table.not_anchored_of_recorded recorded (by rw [phase]; rfl))
    rw [work] at moved
    dsimp only at moved
    split at moved
    · cases moved
      exact x.retry_made work false
    · split at moved
      · rename_i idle
        cases moved
        rw [recorded] at idle
        rw [touch_of_allocated (allocated_of ahead), Table.cmIdDestroy_of_some recorded]
        have torn : (m.setTable (((m.table.setPhase k .destroyed).modify i fun e =>
            { e with cmId := none }).modify i fun e =>
              { e with retryWork := .idle }.queueRetry (m.isInitiator && again))).Sound := by
          rw [Table.modify_modify]
          exact x.drop rfl dialed role recorded (unhandled_some idle) rfl ⟨bare, down⟩ unconnecting
            nofun (fun runs => absurd rfl runs) fun _ => noWork_of_past ahead
        exact torn
      · cases moved

end

end Works

/-! ## The first dial -/

section Dials

variable {m m' : Contexts} {w : Who} {i : Nat}

theorem dialer_setDialer_self (m : Contexts) (w : Who) (d : Dialer) :
    (m.setDialer w d).dialer w = d := by
  cases w <;> rfl

theorem dialer_setDialer_of_ne {w' : Who} (other : w' ≠ w) (d : Dialer) :
    (m.setDialer w d).dialer w' = m.dialer w' := by
  cases w <;> cases w' <;> first | rfl | exact absurd rfl other

theorem setDialer_eq (m : Contexts) (w : Who) (d : Dialer) : m.setDialer w d = { m with
      thread := (m.setDialer w d).dialer .thread
      eager := (m.setDialer w d).dialer .eager } := by
  cases w <;> rfl

theorem Sound.other_finished (x : m.Sound) {w' : Who} (other : w' ≠ w)
    (dials : m.dialer w ≠ .finished) : m.dialer w' = .finished := by
  by_contra dials'
  have fast := ((x.dialers w).role dials).2
  have fast' := ((x.dialers w').role dials').2
  cases w <;> cases w'
  · exact other rfl
  · exact absurd (fast.mp (fast'.mpr rfl)) (by decide)
  · exact absurd (fast'.mp (fast.mpr rfl)) (by decide)
  · exact other rfl

variable {t : Table} {d : Dialer}

theorem Sound.setDialer (x : m.Sound) {c : Bool} (w : Who)
    (table : t.Sound m.numQps m.isInitiator m.mark)
    (serving : ∀ r, m.request = some r → (m.setTable t).Serving r)
    (fresh : m.isInitiator = true → c = false → ∀ j, t.entry j = .fresh)
    (others : ∀ w' ≠ w, m.dialer w' = .finished ∨ t = m.table ∧ c = m.connectStarted)
    (dialer : DialerSound t m.numQps m.isInitiator m.fast m.noDial c w d)
    (joined : m.noDial = true → w = .thread → d.resting = true)
    (creating : m.state = .creating → (w = .eager → d = .finished) ∧ c = false) :
    (({ m with table := t, connectStarted := c } : Contexts).setDialer w d).Sound := by
  have here := dialer_setDialer_self { m with table := t, connectStarted := c } w d
  have there : ∀ w' ≠ w,
      (({ m with table := t, connectStarted := c } : Contexts).setDialer w d).dialer
      w' = m.dialer w' := fun w' other => dialer_setDialer_of_ne other d
  rw [setDialer_eq]
  generalize
    (({ m with table := t, connectStarted := c } : Contexts).setDialer w d).dialer = dialers
    at here there
  have dials : ∀ w', DialerSound t m.numQps m.isInitiator m.fast m.noDial c w' (dialers w') := by
    intro w'
    rcases eq_or_ne w' w with rfl | self
    · rwa [here]
    · rw [there w' self]
      rcases others w' self with finished | ⟨rfl, rfl⟩
      · rw [finished]
        exact ⟨nofun, nofun, nofun, trivial, fun moving => absurd rfl moving⟩
      · exact x.dialers w'
  refine { x with
    table, serving := fun r found => { serving r found with }, fresh, dialers := ?_, joined := ?_,
    creating := ?_ }
  · rintro (_ | _)
    · exact dials .thread
    · exact dials .eager
  · intro still
    refine ⟨?_, (x.joined still).2⟩
    by_cases self : Who.thread = w
    · exact self ▸ here ▸ joined still self.symm
    · exact there _ self ▸ (x.joined still).1
  · intro new
    refine ⟨?_, (creating new).2, (x.creating new).2.2⟩
    by_cases self : Who.eager = w
    · exact self ▸ here ▸ (creating new).1 self.symm
    · exact (there _ self).trans (x.creating new).1

theorem Sound.withDialer (x : m.Sound) (busy : m.noDial = false)
    (dials : (m.dialer w).resting = false) (table : t.Sound m.numQps m.isInitiator m.mark)
    (expects : ∀ j e, d.expects j = some e → t.entry j = e)
    (resolving : ∀ j k, d = .resolve j k → (t.id k).phase = .made) (within : d.within m.numQps) :
    ((m.setTable t).setDialer w d).Sound := by
  have moving : m.dialer w ≠ .finished := fun finished => by
    rw [finished] at dials
    cases dials
  have role := (x.dialers w).role moving
  have started := (x.dialers w).started dials
  refine x.setDialer w table (x.no_request role.1) ?_
    (fun w' other => .inl (x.other_finished other moving))
    ⟨fun _ => expects, fun _ => resolving, fun _ => started, within, fun _ => role⟩ ?_ ?_
  · exact fun _ unstarted => nomatch unstarted.symm.trans started
  · exact fun still => nomatch busy.symm.trans still
  · exact fun new => nomatch (x.creating new).2.1.symm.trans started

theorem Sound.rest (x : m.Sound) (w : Who) (resting : d.resting = true)
    (role : d ≠ .finished → m.isInitiator = true ∧ (m.fast = true ↔ w = .eager))
    (creating : m.state = .creating → w = .eager → d = .finished) : (m.setDialer w d).Sound := by
  refine x.setDialer w x.table (fun r found => { x.serving r found with }) x.fresh
    (fun _ _ => .inr ⟨rfl, rfl⟩) ⟨fun _ j e expected => ?_, fun _ j k dialing => ?_,
      fun busy => ?_, ?_, role⟩ (fun _ _ => resting) fun new => ⟨creating new, (x.creating new).2.1⟩
  · rw [Dialer.expects_of_resting resting] at expected
    cases expected
  · rw [dialing] at resting
    cases resting
  · exact nomatch resting.symm.trans busy
  · cases d with
    | finished | waiting => trivial
    | _ => cases resting

theorem Sound.start (x : m.Sound) (waiting : m.dialer w = .waiting)
    (unstarted : m.connectStarted = false) (created : m.state ≠ .creating)
    (early : w = .thread → m.noDial = false) :
    (({ m with connectStarted := true } : Contexts).setDialer w (.make 0)).Sound := by
  have moving : m.dialer w ≠ .finished := by
    rw [waiting]
    exact nofun
  have role := (x.dialers w).role moving
  refine x.setDialer w x.table (fun r found => { x.serving r found with }) nofun
    (fun w' other => .inl (x.other_finished other moving))
    ⟨fun _ j e expected => ?_, nofun, fun _ => rfl, x.positive, fun _ => role⟩
    (fun still first => ?_) fun new => absurd new created
  · rw [Dialer.expects, if_pos (Nat.zero_le j)] at expected
    exact Option.some.inj expected ▸ x.fresh role.1 unstarted j
  · exact nomatch (early first).symm.trans still

theorem expects_next {n j : Nat} (expected : (w.next n i).expects j = some e) :
    i < j ∧ e = .fresh := by
  unfold Who.next at expected
  split at expected
  · rw [Dialer.expects] at expected
    split at expected
    · rename_i above
      exact ⟨by omega, (Option.some.inj expected).symm⟩
    · cases expected
  · cases w <;> cases expected

theorem within_next (w : Who) (n i : Nat) : (w.next n i).within n := by
  unfold Who.next
  split
  · rename_i inside
    exact inside
  · cases w <;> trivial

theorem next_ne_resolve {n j k : Nat} : w.next n i ≠ .resolve j k := by
  unfold Who.next
  split
  · exact nofun
  · cases w <;> exact nofun

theorem Sound.nextDial (x : m.Sound) (busy : m.noDial = false)
    (dials : (m.dialer w).resting = false) (table : t.Sound m.numQps m.isInitiator m.mark)
    (fresh : ∀ j, i < j → t.entry j = .fresh) : ((m.setTable t).nextDial w i).Sound := by
  refine x.withDialer busy dials table (fun j e expected => ?_)
    (fun j k resolves => absurd resolves next_ne_resolve) (within_next w m.numQps i)
  obtain ⟨above, rfl⟩ := expects_next expected
  exact fresh j above

theorem dial_of_resting (ok : Bool) (resting : (m.dialer w).resting = true) :
    m.dial w ok = none := by
  unfold Contexts.dial
  cases dialer : m.dialer w with
  | finished | waiting => rfl
  | make i | resolve i k =>
    rw [dialer] at resting
    cases resting

theorem Sound.dial (x : m.Sound) (busy : m.noDial = false)
    (moved : m.dial w ok = some m') : m'.Sound := by
  have allocated := allocated_of busy
  have aheads := past_of_noDial busy
  unfold Contexts.dial at moved
  cases dialer : m.dialer w with
  | finished | waiting =>
    rw [dialer] at moved
    cases moved
  | make i =>
    have dials : (m.dialer w).resting = false := by
      rw [dialer]
      rfl
    have role := ((x.dialers w).role (by rw [dialer]; exact nofun)).1
    have inside : i < m.numQps := by
      have within := (x.dialers w).within
      rwa [dialer] at within
    have fresh : ∀ j, i ≤ j → m.table.entry j = .fresh := fun j above => by
      refine (x.dialers w).expects busy j .fresh ?_
      rw [dialer]
      exact if_pos above
    have entry := fresh i (Nat.le_refl i)
    have working : m.isInitiator = true ∧ (m.mark i).noWork = false :=
      ⟨role, noWork_of_past (aheads i)⟩
    rw [dialer] at moved
    cases moved
    rw [touch_of_allocated allocated]
    split
    · have new := m.table.id_newId_self i .made
      have grown := x.table.newId i .made rfl fun other => nomatch role.symm.trans other
      have made : (m.table.makeCmId i).Sound m.numQps m.isInitiator m.mark := by
        refine grown.modify (e := { Entry.fresh with cmId := some m.table.next })
          (by rw [show (m.table.newId i .made).entry i = .fresh from entry]) inside
          (fun k held => ?_) ⟨?_, nofun, nofun, nofun, fun passed => ?_, nofun, nofun,
            fun runs => absurd rfl runs, nofun⟩
        · rw [show (m.table.newId i .made).entry i = .fresh from entry] at held
          cases held
        · rintro _ ⟨⟩
          exact ⟨Nat.lt_succ_self _, by rw [new]⟩
        · exact nomatch (aheads i).symm.trans passed
      refine x.withDialer busy dials made (fun j e expected => ?_) (fun j k resolves => ?_) inside
      · rw [Dialer.expects] at expected
        split at expected
        · rename_i self
          subst self
          rw [← Option.some.inj expected, Table.makeCmId, Table.entry_modify_self,
            show (m.table.newId j .made).entry j = .fresh from fresh j (Nat.le_refl j)]
        · rename_i other
          split at expected
          · rename_i above
            rw [← Option.some.inj expected, Table.makeCmId, Table.entry_modify_of_ne _ i other]
            exact fresh j (Nat.le_of_lt above)
          · cases expected
      · injection resolves with _ same
        rw [← same]
        exact congrArg CmId.phase new
    · have queued := x.table.modify (f := .queueRetry true) rfl inside (fun _ held => held)
        { x.table.entries i with queued := fun _ => working }
      refine x.nextDial busy dials queued fun j above => ?_
      rw [Table.entry_modify_of_ne _ i (by omega)]
      exact fresh j (Nat.le_of_lt above)
  | resolve i k =>
    have dials : (m.dialer w).resting = false := by
      rw [dialer]
      rfl
    have entry : m.table.entry i = { Entry.fresh with cmId := some k } := by
      refine (x.dialers w).expects busy i _ ?_
      rw [dialer]
      exact if_pos rfl
    have fresh : ∀ j, i < j → m.table.entry j = .fresh := fun j above => by
      refine (x.dialers w).expects busy j .fresh ?_
      rw [dialer, Dialer.expects, if_neg (by omega), if_pos above]
    have role := ((x.dialers w).role (by rw [dialer]; exact nofun)).1
    have phase := (x.dialers w).resolving busy i k dialer
    have recorded : (m.table.entry i).cmId = some k := by rw [entry]
    rw [dialer] at moved
    dsimp only at moved
    split at moved
    · cases moved
      have asked := x.table.resolveAddr (f := fun e => e) recorded phase rfl rfl rfl rfl rfl
        (by rw [entry]; rfl) fun _ => noWork_of_past (aheads i)
      rw [Table.modify_of_same _ i rfl] at asked
      exact x.nextDial busy dials asked fresh
    · split at moved
      · rename_i idle
        cases moved
        rw [recorded] at idle
        rw [touch_of_allocated allocated, Table.cmIdDestroy_of_some recorded]
        have dropped : (((m.table.setPhase k .destroyed).modify i fun e =>
            { e with cmId := none }).modify i (.queueRetry true)).Sound m.numQps m.isInitiator
              m.mark := by
          rw [Table.modify_modify]
          exact x.table.drop (e := { Entry.fresh with retryQueued := true }) recorded
            (unhandled_some idle) (by rw [entry]; rfl) (fun _ _ => rfl) rfl nofun nofun rfl nofun
            (fun runs => absurd rfl runs) fun _ => ⟨role, noWork_of_past (aheads i)⟩
        refine x.nextDial busy dials dropped fun j above => ?_
        have other : j ≠ i := by omega
        have kept := (m.table.setPhase k .destroyed).entry_modify_of_ne i other fun e =>
          { e with cmId := none }
        exact (Table.entry_modify_of_ne _ i other _).trans (kept.trans (fresh j above))
      · cases moved

end Dials

/-! ## The listener -/

section Listener

variable {m m' : Contexts} {i : Nat}

theorem Sound.withAcceptor (x : m.Sound) {t : Table} (i : Nat) (role : m.isInitiator = false)
    (table : t.Sound m.numQps m.isInitiator m.mark) (same : ∀ j ≠ i, t.entry j = m.table.entry j)
    (serving : ∀ r, q = some r → (m.setTable t).Serving r) :
    ({ m with table := t, request := q } : Contexts).Sound := by
  refine x.withTable i table same serving (x.dials_of_acceptor role i _) ?_ ?_
  · intro _ w k dialer
    have other := ((x.dialers w).role (by rw [dialer]; exact nofun)).1
    rw [role] at other
    cases other
  · intro k _ made
    have accepting := (x.table.ids k).accepting role
    rw [made] at accepting
    cases accepting

theorem Sound.reject (x : m.Sound) (listening : m.listening = true) :
    (m.touch.setTable (m.table.newId 0 .requested)).Sound := by
  obtain ⟨role, early⟩ := x.listening listening
  rw [touch_of_allocated (allocated_of early)]
  refine x.withAcceptor (q := m.request) 0 role (x.table.newId 0 .requested rfl fun _ => rfl)
    (fun _ _ => rfl) fun r found => ?_
  have serving := x.serving r found
  exact serving.frame (Nat.le_succ _)
    (m.table.id_newId_of_ne 0 (Nat.ne_of_lt serving.below) .requested) (fun _ => rfl)
    fun bare => bare

theorem Sound.request (x : m.Sound) (reuse : Bool) (listening : m.listening = true)
    (inside : i < m.numQps) :
    ({ m.touch.setTable ((m.table.newId i .requested).modify i fun e =>
        { e with established := e.established && !reuse }) with
      request := some ⟨m.table.next, i, .decided⟩ } : Contexts).Sound := by
  obtain ⟨role, early⟩ := x.listening listening
  rw [touch_of_allocated (allocated_of early)]
  have grown := x.table.newId i .requested rfl fun _ => rfl
  have table := grown.modify (f := fun e => { e with established := e.established && !reuse }) rfl
    inside (fun _ held => held) { grown.entries i with
      up := fun up => (grown.entries i).up (and_eq_true_iff.mp up).1 }
  have new := m.table.id_newId_self i .requested
  generalize next : ((m.table.newId i .requested).modify i fun e =>
    { e with established := e.established && !reuse }) = t at table
  have here : t.entry i = { m.table.entry i with
      established := (m.table.entry i).established && !reuse } :=
    next ▸ (m.table.newId i .requested).entry_modify_self i _
  have same : ∀ j ≠ i, t.entry j = m.table.entry j := fun j other =>
    next ▸ (m.table.newId i .requested).entry_modify_of_ne i other _
  have ids : t.id = (m.table.newId i .requested).id ∧ t.next = m.table.next + 1 :=
    next ▸ ⟨rfl, rfl⟩
  have served : (m.setTable t).Serving ⟨m.table.next, i, .decided⟩ := by
    refine ⟨role, early, inside, ids.2 ▸ Nat.lt_succ_self _, (congrFun ids.1 _).trans new,
      fun _ j held => ?_, nofun, nofun, nofun⟩
    have cmId : (t.entry j).cmId = (m.table.entry j).cmId := by
      by_cases self : j = i
      · rw [self, here]
      · rw [same j self]
    exact absurd ((x.table.entries j).recorded _ (cmId.symm.trans held)).1 (Nat.lt_irrefl _)
  exact x.withAcceptor (q := some ⟨m.table.next, i, .decided⟩) i role table same
    fun r found => Option.some.inj found ▸ served

variable {r : Request}

section

variable (x : m.Sound)
include x

theorem Sound.accepting (serving : m.Serving r) :
    m.allocated = true ∧ m.past r.slot = false ∧ (m.table.entry r.slot).retryWork = .idle ∧
      (m.table.entry r.slot).unconnecting = true := by
  exact ⟨allocated_of serving.early, past_of_noRequest serving.early r.slot,
    (x.table.entries r.slot).quiet serving.role⟩

theorem Sound.refuse (found : m.request = some r) (early : r.step ≠ .recorded) :
    ({ m.setTable (m.table.setPhase r.child .destroyed) with
      request := none } : Contexts).Sound := by
  have serving := x.serving r found
  refine x.withAcceptor r.slot serving.role ?_ (fun _ _ => rfl) nofun
  exact x.table.loose rfl le_rfl
    (fun _ other => m.table.id_setPhase_of_ne r.child other .destroyed) (serving.loose early)
    (m.table.id_setPhase_self r.child .destroyed) rfl (by rw [serving.child]) fun _ => rfl

theorem Sound.serve (step : RequestStep) (t : Table) (g : Entry → Entry)
    (found : m.request = some r) (early : r.step ≠ .recorded) (entries : t.entry = m.table.entry)
    (next : t.next = m.table.next) (child : t.id r.child = m.table.id r.child)
    (table : (t.modify r.slot g).Sound m.numQps m.isInitiator m.mark)
    (loose : step ≠ .recorded → (g (m.table.entry r.slot)).cmId ≠ some r.child)
    (held : step = .recorded → (g (m.table.entry r.slot)).cmId = some r.child)
    (bare : step = .qpDestroyed → (g (m.table.entry r.slot)).qp = false)
    (empty : step = .tornDown → (g (m.table.entry r.slot)).cmId = none) :
    ({ m with table := t.modify r.slot g, request := some { r with step } } : Contexts).Sound := by
  have serving := x.serving r found
  have here : (t.modify r.slot g).entry r.slot = g (m.table.entry r.slot) := by
    rw [Table.entry_modify_self, entries]
  have same : ∀ j ≠ r.slot, (t.modify r.slot g).entry j = m.table.entry j := fun j other => by
    rw [Table.entry_modify_of_ne t r.slot other, entries]
  refine x.withAcceptor r.slot serving.role table same fun r' found' => ?_
  cases found'
  refine { serving with
    below := Nat.lt_of_lt_of_eq serving.below next.symm
    child := child.trans serving.child
    loose := fun unrecorded j => ?_
    held := fun recorded => (congrArg Entry.cmId here).trans (held recorded)
    bare := fun destroyed => (congrArg Entry.qp here).trans (bare destroyed)
    empty := fun torn => (congrArg Entry.cmId here).trans (empty torn) }
  by_cases self : j = r.slot
  · rw [self]
    exact fun held => loose unrecorded ((congrArg Entry.cmId here).symm.trans held)
  · exact fun held => serving.loose early j ((congrArg Entry.cmId (same j self)).symm.trans held)

section

variable (found : m.request = some r)
include found

theorem Sound.accept_decided (step : r.step = .decided) :
    ({ m.destroyQp r.slot with request := some { r with step := .qpDestroyed } } :
      Contexts).Sound := by
  have serving := x.serving r found
  have early : r.step ≠ .recorded := by
    rw [step]
    decide
  rw [x.destroyQp_eq (x.accepting serving).2.1]
  exact x.serve .qpDestroyed m.table (fun e => { e with qp := false }) found early rfl rfl rfl
    (x.table.modify rfl serving.inside (fun _ held => held)
      { x.table.entries r.slot with created := nofun })
    (fun _ => serving.loose early _) nofun (fun _ => rfl) nofun

theorem Sound.accept_qpDestroyed (step : r.step = .qpDestroyed)
    (idle : m.table.unhandled (m.table.entry r.slot).cmId = true) :
    ({ m.destroyCmId r.slot with request := some { r with step := .tornDown } } :
      Contexts).Sound := by
  have serving := x.serving r found
  have bare := serving.bare step
  obtain ⟨-, -, still, quiet⟩ := x.accepting serving
  have early : r.step ≠ .recorded := by
    rw [step]
    decide
  unfold destroyCmId
  cases held : (m.table.entry r.slot).cmId with
  | none =>
    rw [Table.cmIdDestroy_of_none held]
    exact x.serve .tornDown m.table (fun e => { e with established := false }) found early rfl rfl
      rfl (x.table.modify rfl serving.inside (fun _ held => held)
        { x.table.entries r.slot with up := nofun })
      (fun _ => serving.loose early _) nofun nofun fun _ => held
  | some k =>
    rw [held] at idle
    have other : r.child ≠ k := by
      rintro rfl
      exact serving.loose early _ held
    rw [Table.cmIdDestroy_of_some held, Table.modify_modify]
    refine x.serve .tornDown (m.table.setPhase k .destroyed)
      (fun e => { e with cmId := none, established := false }) found early rfl rfl
      (m.table.id_setPhase_of_ne k other .destroyed) ?_ nofun nofun nofun fun _ => rfl
    exact x.table.drop held (unhandled_some idle) rfl (fun _ _ => rfl) rfl
      (fun created => nomatch bare.symm.trans created) nofun quiet
      (fun k making => nomatch still.symm.trans making) (x.table.entries r.slot).retries
      (x.table.entries r.slot).queued

theorem Sound.accept_tornDown (step : r.step = .tornDown) :
    ({ m.modify r.slot (fun e => { e with qp := true, cmId := some r.child }) with
      request := some { r with step := .recorded } } : Contexts).Sound := by
  have serving := x.serving r found
  have none := serving.empty step
  obtain ⟨-, ahead, still, quiet⟩ := x.accepting serving
  obtain ⟨-, down, -⟩ := (x.table.entries r.slot).free ahead (Table.not_anchored_of_none none)
  have early : r.step ≠ .recorded := by
    rw [step]
    decide
  refine x.serve .recorded m.table (fun e => { e with qp := true, cmId := some r.child }) found
    early rfl rfl rfl ?_ (fun other => absurd rfl other) (fun _ => rfl) nofun nofun
  refine x.table.modify rfl serving.inside (fun k held => nomatch none.symm.trans held)
    { x.table.entries r.slot with
      recorded := ?_
      created := fun _ => .inr ⟨r.child, rfl, by rw [serving.child]; rfl⟩
      up := fun up => nomatch down.symm.trans up
      pending := fun connecting => nomatch quiet.symm.trans connecting
      gone := fun passed => nomatch ahead.symm.trans passed
      tornDown := fun torn => nomatch still.symm.trans torn
      made := fun k making => nomatch still.symm.trans making }
  rintro _ ⟨⟩
  exact ⟨serving.below, by rw [serving.child]⟩

theorem Sound.accept_recorded (step : r.step = .recorded) :
    ({ m.setTable (m.table.setPhase r.child .accepted) with
      request := none } : Contexts).Sound := by
  have serving := x.serving r found
  refine x.withAcceptor r.slot serving.role ?_ (fun _ _ => rfl) nofun
  refine x.table.setId (g := fun c => { c with phase := .accepted }) ?_ rfl ?_
    (fun _ => ⟨rfl, fun _ => rfl⟩) ?_ fun _ => rfl
  · rw [serving.child]
    exact serving.held step
  · rw [serving.child]
    trivial
  · rw [serving.child]
    exact nofun

theorem Sound.accept_failed (step : r.step = .recorded) :
    ({ (m.modify r.slot fun e => { e with qp := false, cmId := none }).setTable
        ((m.modify r.slot fun e => { e with qp := false, cmId := none }).table.setPhase r.child
          .destroyed) with request := none } : Contexts).Sound := by
  have serving := x.serving r found
  have held := serving.held step
  obtain ⟨-, -, still, quiet⟩ := x.accepting serving
  have table := x.table.drop (f := fun e => { e with qp := false, cmId := none }) held
    (by rw [serving.child]) rfl (fun _ _ => rfl) rfl nofun (fun up => ?_) quiet
    (fun k making => nomatch still.symm.trans making) (x.table.entries r.slot).retries
    (x.table.entries r.slot).queued
  · have final := x.withAcceptor (q := none) r.slot serving.role table
      (fun j other => Table.entry_modify_of_ne _ r.slot other _) nofun
    exact final
  -- a slot is established only after its id was accepted
  · obtain passed | ⟨k, recorded, active, -⟩ := (x.table.entries r.slot).up up
    · exact passed
    · cases held.symm.trans recorded
      rw [serving.child] at active
      cases active

end

theorem Sound.accept (moved : m.accept ok = some m') : m'.Sound := by
  unfold Contexts.accept at moved
  cases found : m.request with
  | none =>
    rw [found] at moved
    cases moved
  | some r =>
    have serving := x.serving r found
    have touched := touch_of_allocated (x.accepting serving).1
    rw [found] at moved
    dsimp only at moved
    rw [touched] at moved
    cases step : r.step with
    | decided =>
      rw [step] at moved
      cases moved
      have early : r.step ≠ .recorded := by
        rw [step]
        decide
      split
      · split
        · rename_i none
          have next := x.serve .tornDown m.table (fun e => e) found early rfl rfl rfl
            (by rw [Table.modify_of_same _ _ rfl]; exact x.table)
            (fun _ => serving.loose early _) nofun nofun fun _ => none
          rwa [Table.modify_of_same _ _ rfl] at next
        · exact x.accept_decided found step
      · exact x.refuse found early
    | qpDestroyed =>
      rw [step] at moved
      dsimp only at moved
      split at moved
      · rename_i idle
        cases moved
        exact x.accept_qpDestroyed found step idle
      · cases moved
    | tornDown =>
      rw [step] at moved
      cases moved
      split
      · exact x.accept_tornDown found step
      · exact x.refuse found (by rw [step]; decide)
    | recorded =>
      rw [step] at moved
      cases moved
      have alive : m.table.alive (some r.child) = true := by
        rw [Table.alive, Option.any_some, serving.child]
        rfl
      split
      · exact x.accept_recorded found step
      · rw [call_of_alive alive]
        exact x.accept_failed found step

end

end Listener

end Contexts

end Urp.Conn
