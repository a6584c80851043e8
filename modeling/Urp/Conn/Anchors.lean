import Urp.Conn.Contexts

/-!
# The ids that the entries anchor
-/

namespace Urp.Conn

open Bool
open Function (update_eq_self update_idem update_of_ne update_self)

namespace IdPhase

def active : IdPhase → Bool
  | .made | .requested | .destroyed => false
  | _ => true

def solid : IdPhase → Bool
  | .made | .resolvingAddr | .resolvingRoute | .destroyed => false
  | _ => true

def accepting : IdPhase → Bool
  | .requested | .accepted | .established | .down | .destroyed => true
  | _ => false

theorem ne_made_of_active {p : IdPhase} (active : p.active = true) : p ≠ .made := by
  rintro rfl
  cases active

end IdPhase

def CmId.Handled (c : CmId) : Prop :=
  match c.handler with
  | .idle => True
  | .addrResolved => c.phase = .resolvingAddr
  | .routeResolved => c.phase = .resolvingRoute
  | .qpCreated => c.phase = .routed ∨ c.phase = .connecting
  | .established => c.phase.active = true ∧ c.phase.solid = true
  | .down => c.phase.active = true

theorem CmId.Handled.active {c : CmId} (handled : c.Handled) (busy : c.handler ≠ .idle) :
    c.phase.active = true := by
  unfold CmId.Handled at handled
  cases handler : c.handler with
  | idle => exact absurd handler busy
  | addrResolved =>
    rw [handler] at handled
    rw [show c.phase = .resolvingAddr from handled]
    rfl
  | routeResolved =>
    rw [handler] at handled
    rw [show c.phase = .resolvingRoute from handled]
    rfl
  | qpCreated =>
    rw [handler] at handled
    rcases handled with routed | connecting
    · rw [routed]
      rfl
    · rw [connecting]
      rfl
  | established =>
    rw [handler] at handled
    exact handled.1
  | down =>
    rwa [handler] at handled

theorem Entry.unconnecting_of_work {e : Entry} {c : Option Nat} (work : e.connectWork = some c) :
    e.unconnecting = false := by
  simp [Entry.unconnecting, work]

namespace Table

section Operations

variable (t : Table) (i k : Nat)

theorem entry_modify_self (f : Entry → Entry) : (t.modify i f).entry i = f (t.entry i) :=
  update_self ..

variable {j : Nat}

theorem entry_modify_of_ne (other : j ≠ i) (f : Entry → Entry) :
    (t.modify i f).entry j = t.entry j := update_of_ne other ..

theorem id_setId_self (f : CmId → CmId) : (t.setId k f).id k = f (t.id k) := update_self ..

theorem id_setId_of_ne (other : j ≠ k) (f : CmId → CmId) : (t.setId k f).id j = t.id j :=
  update_of_ne other ..

theorem id_setPhase_self (phase : IdPhase) : (t.setPhase k phase).id k = { t.id k with phase } :=
  update_self ..

theorem id_setPhase_of_ne (other : j ≠ k) (phase : IdPhase) :
    (t.setPhase k phase).id j = t.id j := update_of_ne other ..

theorem id_newId_self (phase : IdPhase) : (t.newId i phase).id t.next = ⟨i, phase, .idle⟩ :=
  update_self ..

theorem id_newId_of_ne (other : j ≠ t.next) (phase : IdPhase) :
    (t.newId i phase).id j = t.id j := update_of_ne other ..

theorem modify_modify (f g : Entry → Entry) :
    (t.modify i f).modify i g = t.modify i fun e => g (f e) := by
  unfold modify
  dsimp only
  rw [update_self, update_idem]

theorem modify_of_same {f : Entry → Entry} (same : f (t.entry i) = t.entry i) :
    t.modify i f = t := by
  unfold modify
  rw [same, update_eq_self]

theorem cmIdDestroy_of_none {t : Table} {i : Nat} (none : (t.entry i).cmId = none) :
    t.cmIdDestroy i = t := by
  unfold cmIdDestroy
  rw [none]

theorem cmIdDestroy_of_some {t : Table} {i k : Nat} (some : (t.entry i).cmId = some k) :
    t.cmIdDestroy i = (t.setPhase k .destroyed).modify i fun e => { e with cmId := .none } := by
  unfold cmIdDestroy
  rw [some]

end Operations

/-- An id that a verbs QP can hang on. -/
def Anchored (t : Table) (c : Option Nat) : Prop :=
  ∃ k, c = some k ∧ (t.id k).phase.solid = true

def Reporting (t : Table) (c : Option Nat) : Prop :=
  ∃ k, c = some k ∧ (t.id k).phase.active = true ∧ (t.id k).phase.solid = true

section Anchors

variable {t : Table} {c : Option Nat} {k : Nat}

theorem Reporting.anchored (reporting : t.Reporting c) : t.Anchored c := by
  obtain ⟨k, recorded, -, solid⟩ := reporting
  exact ⟨k, recorded, solid⟩

theorem Anchored.alive (anchored : t.Anchored c) : t.alive c = true := by
  obtain ⟨k, rfl, solid⟩ := anchored
  rw [Table.alive, Option.any_some, decide_eq_true_eq]
  intro destroyed
  rw [destroyed] at solid
  cases solid

theorem not_anchored_of_recorded (recorded : c = some k)
    (loose : (t.id k).phase.solid = false) : ¬t.Anchored c := by
  rintro ⟨k', recorded', solid⟩
  cases recorded.symm.trans recorded'
  cases loose.symm.trans solid

theorem not_anchored_of_none (none : c = none) : ¬t.Anchored c := by
  rintro ⟨k, recorded, -⟩
  cases none.symm.trans recorded

end Anchors

/-- How far the pass is with an entry: its id is destroyed, its retry work and then all its work is
cancelled. -/
structure Mark where
  past : Bool
  noRetry : Bool
  noWork : Bool

structure EntrySound (initiator : Bool) (p : Mark) (t : Table) (i : Nat) (e : Entry) : Prop where
  recorded : ∀ k, e.cmId = some k → k < t.next ∧ (t.id k).qpIndex = i
  created : e.qp = true → p.past = true ∨ t.Anchored e.cmId
  up : e.established = true → p.past = true ∨ t.Reporting e.cmId
  pending : e.unconnecting = false →
    initiator = true ∧ t.Anchored e.cmId ∧ ∀ c, e.connectWork = some c → c = e.cmId
  gone : p.past = true → e.cmId = none
  tornDown : e.retryWork = .tornDown → e.cmId = none
  made : ∀ k, e.retryWork = .made k → e.cmId = some k ∧ (t.id k).phase = .made
  retries : e.retryWork ≠ .idle → initiator = true ∧ p.noRetry = false
  queued : e.retryQueued = true → initiator = true ∧ p.noWork = false

structure IdSound (initiator : Bool) (t : Table) (k : Nat) : Prop where
  active : (t.id k).phase.active = true → (t.entry (t.id k).qpIndex).cmId = some k
  handled : (t.id k).Handled
  accepting : initiator = false → (t.id k).phase.accepting = true

structure Sound (n : Nat) (initiator : Bool) (marks : Nat → Mark) (t : Table) : Prop where
  bound : ∀ i, n ≤ i → t.entry i = .fresh
  entries : ∀ i, t.EntrySound initiator (marks i) i (t.entry i)
  ids : ∀ k, t.IdSound initiator k

section Sound

variable {n : Nat} {initiator : Bool} {p : Mark} {marks marks' : Nat → Mark} {t t' : Table}
  {i k : Nat} {e : Entry}

theorem entrySound_fresh : t.EntrySound initiator p i .fresh where
  recorded := nofun
  created := nofun
  up := nofun
  pending := nofun
  gone _ := rfl
  tornDown := nofun
  made := nofun
  retries runs := absurd rfl runs
  queued := nofun

theorem sound_empty : (empty).Sound n initiator marks where
  bound _ _ := rfl
  entries _ := entrySound_fresh
  ids _ := ⟨nofun, trivial, fun _ => rfl⟩

namespace EntrySound

section

variable (x : t.EntrySound initiator p i e)
include x

theorem free (ahead : p.past = false) (loose : ¬t.Anchored e.cmId) :
    e.qp = false ∧ e.established = false ∧ e.unconnecting = true := by
  have passed : p.past ≠ true := eq_false_iff.mp ahead
  refine ⟨eq_false_iff.mpr fun created => ?_, eq_false_iff.mpr fun up => ?_, ?_⟩
  · exact loose ((x.created created).resolve_left passed)
  · exact loose ((x.up up).resolve_left passed).anchored
  · rw [← not_eq_false]
    exact fun pending => loose (x.pending pending).2.1

theorem ahead (recorded : e.cmId = some k) : p.past = false := by
  rw [eq_false_iff]
  intro passed
  cases (x.gone passed).symm.trans recorded

theorem quiet (role : initiator = false) : e.retryWork = .idle ∧ e.unconnecting = true := by
  constructor
  · by_contra runs
    exact nomatch role.symm.trans (x.retries runs).1
  · rw [← not_eq_false]
    exact fun pending => nomatch role.symm.trans (x.pending pending).1

theorem follow (next : t.next ≤ t'.next)
    (index : ∀ k, e.cmId = some k → (t'.id k).qpIndex = (t.id k).qpIndex)
    (anchors : t.Anchored e.cmId → t'.Anchored e.cmId)
    (reports : t.Reporting e.cmId → t'.Reporting e.cmId)
    (made : ∀ k, e.retryWork = .made k → (t'.id k).phase = .made) :
    t'.EntrySound initiator p i e :=
  { x with
    recorded := fun k held =>
      ⟨(x.recorded k held).1.trans_le next, (index k held).trans (x.recorded k held).2⟩
    created := fun created => (x.created created).imp_right anchors
    up := fun up => (x.up up).imp_right reports
    pending := fun pending => (x.pending pending).imp_right (And.imp_left anchors)
    made := fun k making => ⟨(x.made k making).1, made k making⟩ }

theorem keep (next : t.next ≤ t'.next) (ids : ∀ k, e.cmId = some k → t'.id k = t.id k) :
    t'.EntrySound initiator p i e := by
  refine x.follow next (fun k held => by rw [ids k held]) ?_ ?_ fun k making => ?_
  · rintro ⟨k, held, solid⟩
    exact ⟨k, held, ids k held ▸ solid⟩
  · rintro ⟨k, held, live⟩
    exact ⟨k, held, ids k held ▸ live⟩
  · obtain ⟨held, phase⟩ := x.made k making
    exact ids k held ▸ phase

end

end EntrySound

theorem IdSound.initiates (x : t.IdSound initiator k) (phase : (t.id k).phase.accepting = false) :
    initiator = true := by
  rw [← not_eq_false]
  exact fun role => nomatch phase.symm.trans (x.accepting role)

namespace Sound

variable {f : Entry → Entry} {g : CmId → CmId}

section

variable (x : t.Sound n initiator marks)
include x

theorem inside (used : t.entry i ≠ .fresh) : i < n := by
  by_contra large
  exact used (x.bound i (Nat.not_lt.mp large))

theorem inside_of_recorded (recorded : (t.entry i).cmId = some k) : i < n := by
  refine x.inside fun fresh => ?_
  rw [fresh] at recorded
  cases recorded

/-- Only the entry of an id records it. -/
theorem ne_of_recorded {j k' : Nat} (recorded : (t.entry i).cmId = some k) (other : j ≠ i)
    (held : (t.entry j).cmId = some k') : k' ≠ k := by
  rintro rfl
  exact other (((x.entries j).recorded k' held).2.symm.trans ((x.entries i).recorded k' recorded).2)

theorem ids_of (others : ∀ j ≠ k, t'.id j = t.id j)
    (held : ∀ j ≠ k, (t.entry (t.id j).qpIndex).cmId = some j →
      (t'.entry (t.id j).qpIndex).cmId = some j)
    (here : t'.IdSound initiator k) (j : Nat) : t'.IdSound initiator j := by
  rcases eq_or_ne j k with rfl | self
  · exact here
  · obtain ⟨active, handled, accepting⟩ := x.ids j
    constructor <;> rw [others j self]
    · exact fun live => held j self (active live)
    · exact handled
    · exact accepting

theorem put (inside : i < n) (elsewhere : ∀ j ≠ i, t'.entry j = t.entry j)
    (same : ∀ j ≠ i, marks' j = marks j) (next : t.next ≤ t'.next)
    (keep : ∀ j ≠ i, ∀ k, (t.entry j).cmId = some k → t'.id k = t.id k)
    (ids : ∀ k, t'.IdSound initiator k)
    (entry : t'.EntrySound initiator (marks' i) i (t'.entry i)) : t'.Sound n initiator marks' where
  bound j large := by rw [elsewhere j (by omega), x.bound j large]
  entries j := by
    rcases eq_or_ne j i with rfl | self
    · exact entry
    · rw [elsewhere j self, same j self]
      exact (x.entries j).keep next (keep j self)
  ids := ids

theorem modify (new : f (t.entry i) = e) (inside : i < n)
    (keeps : ∀ k, (t.entry i).cmId = some k → e.cmId = some k)
    (entry : t.EntrySound initiator (marks i) i e) : (t.modify i f).Sound n initiator marks := by
  have here : (t.modify i f).entry i = e := (entry_modify_self ..).trans new
  refine x.put inside (fun j other => entry_modify_of_ne t i other f) (fun _ _ => rfl) le_rfl
    (fun _ _ _ _ => rfl) (fun k => ?_) (here ▸ entry.keep le_rfl fun _ _ => rfl)
  refine ⟨fun live => ?_, (x.ids k).handled, (x.ids k).accepting⟩
  have held : (t.entry (t.id k).qpIndex).cmId = some k := (x.ids k).active live
  change ((t.modify i f).entry (t.id k).qpIndex).cmId = some k
  by_cases self : (t.id k).qpIndex = i
  · rw [self, here]
    exact keeps k (self ▸ held)
  · rwa [entry_modify_of_ne t i self]

theorem setId (recorded : (t.entry (t.id k).qpIndex).cmId = some k)
    (index : (g (t.id k)).qpIndex = (t.id k).qpIndex) (handled : (g (t.id k)).Handled)
    (solid : (t.id k).phase.solid = true → (g (t.id k)).phase.solid = true ∧
      ((t.id k).phase.active = true → (g (t.id k)).phase.active = true))
    (unmade : (t.id k).phase ≠ .made)
    (accepting : initiator = false → (g (t.id k)).phase.accepting = true) :
    (t.setId k g).Sound n initiator marks := by
  have here : (t.setId k g).id k = g (t.id k) := id_setId_self ..
  have others : ∀ j ≠ k, (t.setId k g).id j = t.id j := fun j other => id_setId_of_ne t k other g
  refine x.put (x.inside_of_recorded recorded) (fun _ _ => rfl) (fun _ _ => rfl) le_rfl
    (fun j other k' held => others k' (x.ne_of_recorded recorded other held))
    (x.ids_of others (fun _ _ held => held) ⟨fun _ => ?_, here ▸ handled, here ▸ accepting⟩)
    ((x.entries _).follow le_rfl (fun k' held => ?_) ?_ ?_ fun k' making => ?_)
  · rwa [here, index]
  · cases recorded.symm.trans held
    rw [here, index]
  · rintro ⟨k', held, firm⟩
    cases recorded.symm.trans held
    exact ⟨k, held, here ▸ (solid firm).1⟩
  · rintro ⟨k', held, live, firm⟩
    cases recorded.symm.trans held
    exact ⟨k, held, here ▸ (solid firm).2 live, here ▸ (solid firm).1⟩
  · obtain ⟨held, phase⟩ := (x.entries _).made k' making
    cases recorded.symm.trans held
    exact absurd phase unmade

/-- Both the id of an entry and the entry. -/
theorem move (recorded : (t.entry i).cmId = some k) (new : f (t.entry i) = e)
    (same : ∀ j ≠ i, marks' j = marks j)
    (active : (g (t.id k)).phase.active = true →
      (g (t.id k)).qpIndex = (t.id k).qpIndex ∧ e.cmId = some k)
    (handled : (g (t.id k)).Handled)
    (accepting : initiator = false → (g (t.id k)).phase.accepting = true)
    (entry : (t.setId k g).EntrySound initiator (marks' i) i e) :
    ((t.setId k g).modify i f).Sound n initiator marks' := by
  have here : ((t.setId k g).modify i f).entry i = e := (entry_modify_self ..).trans new
  have there : ((t.setId k g).modify i f).id k = g (t.id k) := id_setId_self ..
  have elsewhere : ∀ j ≠ i, ((t.setId k g).modify i f).entry j = t.entry j := fun j other =>
    entry_modify_of_ne _ i other f
  have others : ∀ j ≠ k, ((t.setId k g).modify i f).id j = t.id j := fun j other =>
    id_setId_of_ne t k other g
  refine x.put (x.inside_of_recorded recorded) elsewhere same le_rfl
    (fun j other k' held => others k' (x.ne_of_recorded recorded other held))
    (x.ids_of others (fun j self held => ?_) ⟨fun live => ?_, there ▸ handled, there ▸ accepting⟩)
    (here ▸ entry.keep le_rfl fun _ _ => rfl)
  · rw [elsewhere]
    · exact held
    · intro index
      rw [index] at held
      exact self (Option.some.inj (held.symm.trans recorded))
  · rw [there] at live ⊢
    rw [(active live).1, ((x.entries i).recorded k recorded).2, here]
    exact (active live).2

theorem drop (recorded : (t.entry i).cmId = some k) (idle : (t.id k).handler = .idle)
    (new : f (t.entry i) = e) (same : ∀ j ≠ i, marks' j = marks j) (cmId : e.cmId = none)
    (created : e.qp = true → (marks' i).past = true)
    (up : e.established = true → (marks' i).past = true) (unconnecting : e.unconnecting = true)
    (unmade : ∀ k, e.retryWork ≠ .made k)
    (retries : e.retryWork ≠ .idle → initiator = true ∧ (marks' i).noRetry = false)
    (queued : e.retryQueued = true → initiator = true ∧ (marks' i).noWork = false) :
    ((t.setPhase k .destroyed).modify i f).Sound n initiator marks' := by
  refine x.move recorded new same nofun ?_ (fun _ => rfl) ?_
  · rw [CmId.Handled, idle]
    trivial
  constructor
  case recorded =>
    rw [cmId]
    exact nofun
  case created => exact fun qp => .inl (created qp)
  case up => exact fun established => .inl (up established)
  case pending =>
    rw [unconnecting]
    exact nofun
  case gone | tornDown => exact fun _ => cmId
  case made => exact fun k' making => absurd making (unmade k')
  case retries => exact retries
  case queued => exact queued

/-- An id that no entry records. -/
theorem loose {c : CmId} (entries : t'.entry = t.entry) (next : t.next ≤ t'.next)
    (others : ∀ j ≠ k, t'.id j = t.id j) (free : ∀ j, (t.entry j).cmId ≠ some k)
    (here : t'.id k = c) (inactive : c.phase.active = false) (idle : c.handler = .idle)
    (accepting : initiator = false → c.phase.accepting = true) : t'.Sound n initiator marks := by
  refine ⟨entries ▸ x.bound, fun j => ?_, x.ids_of others (fun _ _ held => entries ▸ held) ?_⟩
  · rw [entries]
    refine (x.entries j).keep next fun k' held => others k' ?_
    rintro rfl
    exact free j held
  · constructor <;> rw [here]
    · exact fun active => nomatch inactive.symm.trans active
    · rw [CmId.Handled, idle]
      trivial
    · exact accepting

theorem newId (i : Nat) (phase : IdPhase) (inactive : phase.active = false)
    (accepting : initiator = false → phase.accepting = true) :
    (t.newId i phase).Sound n initiator marks :=
  x.loose rfl (Nat.le_succ _) (fun _ other => id_newId_of_ne t i other phase)
    (fun j held => Nat.lt_irrefl _ ((x.entries j).recorded _ held).1) (id_newId_self ..) inactive
    rfl accepting

theorem resolveAddr (recorded : (t.entry i).cmId = some k) (phase : (t.id k).phase = .made)
    (new : f (t.entry i) = e) (cmId : e.cmId = (t.entry i).cmId) (qp : e.qp = (t.entry i).qp)
    (established : e.established = (t.entry i).established)
    (unconnecting : e.unconnecting = (t.entry i).unconnecting) (idle : e.retryWork = .idle)
    (queued : e.retryQueued = true → (marks i).noWork = false) :
    ((t.setPhase k .resolvingAddr).modify i f).Sound n initiator marks := by
  have role : initiator = true := (x.ids k).initiates (by rw [phase]; rfl)
  have ahead := (x.entries i).ahead recorded
  obtain ⟨bare, down, quiet⟩ := (x.entries i).free ahead
    (not_anchored_of_recorded recorded (by rw [phase]; rfl))
  refine x.move recorded new (fun _ _ => rfl) (fun _ => ⟨rfl, cmId.trans recorded⟩) ?_
    (fun other => nomatch role.symm.trans other) ?_
  · rw [CmId.Handled]
    by_cases busy : (t.id k).handler = .idle
    · rw [busy]
      trivial
    · have active := (x.ids k).handled.active busy
      rw [phase] at active
      cases active
  constructor
  case recorded =>
    rw [cmId, recorded]
    rintro _ ⟨⟩
    obtain ⟨below, index⟩ := (x.entries i).recorded k recorded
    exact ⟨below, (congrArg CmId.qpIndex (t.id_setPhase_self k .resolvingAddr)).trans index⟩
  case created =>
    rw [qp, bare]
    exact nofun
  case up =>
    rw [established, down]
    exact nofun
  case pending =>
    rw [unconnecting, quiet]
    exact nofun
  case gone => exact fun passed => nomatch ahead.symm.trans passed
  case tornDown =>
    rw [idle]
    exact nofun
  case made =>
    rw [idle]
    exact nofun
  case retries => exact fun runs => absurd idle runs
  case queued => exact fun again => ⟨role, queued again⟩

end

end Sound

end Sound

end Table

end Urp.Conn
