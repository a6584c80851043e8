import Urp.Fast.Custody

/-!
# One answer for every command
-/

namespace Urp.Fast

open Urp.Lib Urp.Lib.Pool List Option Bool
open Function (update update_of_ne update_self)

namespace Thread

def answers (t : Thread) (c : Nat) : Nat :=
  match t with
  | .sendSchedule c' _ _ | .task _ c' | .refused _ (some c') => if c' = c then 1 else 0
  | _ => 0

def cancels (t : Thread) (c : Nat) : Nat :=
  match t with
  | .cancelled c' => if c' = c then 1 else 0
  | _ => 0

def cmd : Thread → Option Nat
  | .claim c _ | .fill c _ | .mark c _ | .post c _ | .release c _ | .refuse c _ _ | .flying c _
  | .sendStore c _ _ | .sendRelease c _ _ | .sendSchedule c _ _ | .recvStore c _ _
  | .recvRelease c _ _ | .task _ c | .cancel c | .cancelled c | .refused _ (some c) => some c
  | _ => none

def Quiet (t : Thread) : Prop := ∀ c, t.answers c = 0 ∧ t.revokes c = false

def reads (d : Device) : Thread → Option Nat
  | .fill _ r | .mark _ r | .post _ r | .release _ r | .refuse _ r _ | .flying _ r
  | .sendStore _ r _ | .sendRelease _ r _ | .sendSchedule _ r _ | .recvStore _ r _
  | .recvRelease _ r _ => some r.bufIndex
  | .task _ c => some (d.pdu c)
  | _ => none

end Thread

structure Begun (d : Device) (c : Nat) (r : Req) : Prop where
  request : d.request c = r
  known : c < d.next
  idle : d.stage c = .idle

structure Filled (d : Device) (c : Nat) (r : Req) : Prop where
  request : d.request c = r
  pdu : d.pdu c = r.bufIndex
  done : (d.ops r.bufIndex).done = r.kind
  len : (d.ops r.bufIndex).len = r.len

def Armed (d : Device) (c : Nat) (r : Req) : Prop :=
  d.stage c = .armed ∧ (d.ops r.bufIndex).ioucmd = some c ∨
    r.kind = .recv ∧ (d.stage c = .cancelling ∨ d.stage c = .answered) ∧
      (d.ops r.bufIndex).ioucmd = none

structure Held (d : Device) (c : Nat) (r : Req) : Prop extends Filled d c r where
  armed : Armed d c r

def Fits (d : Device) : Thread → Prop
  | .claim c r => Begun d c r ∧ ∀ b, d.own b ≠ some c
  | .fill c r | .release c r => Begun d c r
  | .mark c r =>
    Begun d c r ∧ Filled d c r ∧ (d.ops r.bufIndex).ioucmd = some c ∧ r.kind = .recv
  | .post c r =>
    (Begun d c r ∧ Filled d c r ∧ (d.ops r.bufIndex).ioucmd = some c ∧ r.kind = .send) ∨
      Held d c r ∧ r.kind = .recv
  | .refuse c r _ => Held d c r ∧ r.kind = .recv
  | .flying c r => Held d c r
  | .sendStore c r w => Held d c r ∧ r.kind = .send ∧ (c, .wc w) ∈ d.outcomes
  | .sendRelease c r w =>
    Held d c r ∧ r.kind = .send ∧ (c, .wc w) ∈ d.outcomes ∧ (d.ops r.bufIndex).res = w.sendRes r.len
  | .sendSchedule c r w =>
    Filled d c r ∧ r.kind = .send ∧ (c, .wc w) ∈ d.outcomes ∧
      (d.ops r.bufIndex).res = w.sendRes r.len ∧ (d.ops r.bufIndex).ioucmd = some c
  | .recvStore c r w => Held d c r ∧ r.kind = .recv ∧ (c, .wc w) ∈ d.outcomes
  | .recvRelease c r w =>
    Held d c r ∧ r.kind = .recv ∧ (c, .wc w) ∈ d.outcomes ∧
      (d.ops r.bufIndex).res = w.recvRes.1 ∧ (d.ops r.bufIndex).streamId = w.recvRes.2
  | .task k c =>
    (d.request c).kind = k ∧ d.pdu c = (d.request c).bufIndex ∧ ∃ w, (c, .wc w) ∈ d.outcomes ∧
        (d.ops (d.pdu c)).res = Outcome.res (d.request c) (.wc w) ∧
        (k = .recv → (d.ops (d.pdu c)).streamId = w.recvRes.2)
  | .refused e (some c) => (c, .refused e) ∈ d.outcomes
  | .cancel c =>
    (d.request c).kind = .recv ∧ d.stage c ≠ .idle ∧
      (d.own (d.pdu c) = none ∨ d.own (d.pdu c) = some c ∧ d.stage c = .armed)
  | .cancelled c => (c, .cancelled) ∈ d.outcomes
  | _ => True

variable {d d' : Device} {t t' u : Thread} {i j b c : Nat} {r : Req}

structure Agrees (d d' : Device) (c : Nat) : Prop where
  request : d'.request c = d.request c
  pdu : d'.pdu c = d.pdu c
  stage : d'.stage c = d.stage c

theorem Begun.frame (begun : Begun d c r) (next : d.next ≤ d'.next) (same : Agrees d d' c) :
    Begun d' c r :=
  ⟨same.request.trans begun.request, begun.known.trans_le next, same.stage.trans begun.idle⟩

theorem Filled.frame (filled : Filled d c r) (same : Agrees d d' c)
    (slot : d'.ops r.bufIndex = d.ops r.bufIndex) : Filled d' c r :=
  ⟨same.request.trans filled.request, same.pdu.trans filled.pdu, slot ▸ filled.done,
    slot ▸ filled.len⟩

theorem Held.frame (held : Held d c r) (same : Agrees d d' c)
    (slot : d'.ops r.bufIndex = d.ops r.bufIndex) : Held d' c r :=
  ⟨held.toFilled.frame same slot, by
    rw [Armed, same.stage, slot]
    exact held.armed⟩

theorem Fits.frame (fits : Fits d u) (next : d.next ≤ d'.next)
    (outcomes : ∀ x ∈ d.outcomes, x ∈ d'.outcomes) (command : ∀ c, u.cmd = some c → Agrees d d' c)
    (slot : ∀ b, u.reads d = some b → d'.ops b = d.ops b)
    (claims : ∀ c r, u = .claim c r → ∀ b, d'.own b ≠ some c)
    (cancels : ∀ c, u = .cancel c → d'.own (d.pdu c) = none ∨ d'.own (d.pdu c) = d.own (d.pdu c)) :
    Fits d' u := by
  cases u with
  | claim c r => exact ⟨fits.1.frame next (command c rfl), claims c r rfl⟩
  | fill c r | release c r => exact Begun.frame fits next (command c rfl)
  | mark c r =>
    have same := command c rfl
    have slot := slot r.bufIndex rfl
    simp only [Fits, slot]
    exact ⟨fits.1.frame next same, fits.2.1.frame same slot, fits.2.2⟩
  | post c r =>
    have same := command c rfl
    have slot := slot r.bufIndex rfl
    simp only [Fits, slot]
    rcases fits with ⟨begun, filled, rest⟩ | ⟨held, kind⟩
    · exact .inl ⟨begun.frame next same, filled.frame same slot, rest⟩
    · exact .inr ⟨held.frame same slot, kind⟩
  | refuse c r e => exact ⟨fits.1.frame (command c rfl) (slot _ rfl), fits.2⟩
  | flying c r => exact Held.frame fits (command c rfl) (slot _ rfl)
  | sendStore c r w | recvStore c r w =>
    obtain ⟨held, kind, outcome⟩ := fits
    exact ⟨held.frame (command c rfl) (slot _ rfl), kind, outcomes _ outcome⟩
  | sendRelease c r w | sendSchedule c r w | recvRelease c r w =>
    have slot := slot r.bufIndex rfl
    obtain ⟨held, kind, outcome, rest⟩ := fits
    simp only [Fits, slot]
    exact ⟨held.frame (command c rfl) slot, kind, outcomes _ outcome, rest⟩
  | task k c =>
    obtain ⟨request, pdu, -⟩ := command c rfl
    obtain ⟨kind, index, w, outcome, rest⟩ := fits
    simp only [Fits, request, pdu, slot (d.pdu c) rfl]
    exact ⟨kind, index, w, outcomes _ outcome, rest⟩
  | refused e ic =>
    cases ic with
    | none => trivial
    | some c => exact outcomes _ fits
  | cancel c =>
    obtain ⟨request, pdu, stage⟩ := command c rfl
    obtain ⟨kind, queued, own⟩ := fits
    simp only [Fits, request, pdu, stage]
    refine ⟨kind, queued, ?_⟩
    rcases cancels c rfl with free | same
    · exact .inl free
    · rwa [same]
  | cancelled c => exact outcomes _ fits
  | enter | unregister | unregisterCheck | poolRelease | done => trivial

theorem Thread.cancels_eq_zero (quiet : t.revokes c = false) : t.cancels c = 0 := by
  cases t with
  | cancelled c' => simpa [Thread.revokes, Thread.cancels] using quiet
  | _ => rfl

/-! ## The invariant -/

structure Standing (d : Device) (c : Nat) : Prop where
  armed : d.stage c = .armed → d.own (d.pdu c) = some c
  kept : d.stage c = .cancelling ∨ d.stage c = .finishing →
    d.own (d.pdu c) = none ∨ d.own (d.pdu c) = some c
  cancelable : d.cancelable c = true →
    (d.request c).kind = .recv ∧ d.stage c ≠ .idle ∧ d.stage c ≠ .answered

structure Stages (d : Device) : Prop where
  each : ∀ c, Standing d c
  fresh : ∀ c, d.next ≤ c → d.stage c = .idle ∧ ∀ b, d.own b ≠ some c
  injective : ∀ b b' c, d.own b = some c → d.own b' = some c → b = b'

/-- The second word that a receive is answered with. -/
def Posted (r : Req) (o : Outcome) (word : Nat) : Prop :=
  r.kind = .recv → word = if o.early then 0 else res2 r.bufIndex o.streamId

structure Logged (d : Device) : Prop where
  once : ∀ c, d.cqes.countP (fun q => decide (q.cmd = c)) = if d.stage c = .answered then 1 else 0
  own : ∀ q ∈ d.cqes, ∃ o, (q.cmd, o) ∈ d.outcomes ∧ q.res = o.res (d.request q.cmd) ∧
    Posted (d.request q.cmd) o q.res2
  alive : d.crashed = false

structure Sound (d : Device) : Prop where
  owned : Owned d
  fits : ∀ (i : Nat) t, d.threads[i]? = some t → Fits d t
  stages : Stages d
  logged : Logged d
  answers : ∀ c, (d.threads.map (Thread.answers · c)).sum = if d.stage c = .finishing then 1 else 0
  cancels : ∀ c, (d.threads.map (Thread.cancels · c)).sum = if d.stage c = .cancelling then 1 else 0
  serial : ∀ c, (d.threads.map (fun t => (t.revokes c).toNat)).sum ≤ 1

theorem sound_init (count : Nat) : Sound (.init count) where
  owned := owned_init count
  fits i t here := by simp [Device.init] at here
  stages :=
    { each := fun c => ⟨nofun, by simp [Device.init], nofun⟩
      fresh := fun c _ => ⟨rfl, fun b => by simp [Device.init]⟩
      injective := fun b b' c own => by simp [Device.init] at own }
  logged :=
    { once := fun c => by simp [Device.init]
      own := fun q member => by simp [Device.init] at member
      alive := rfl }
  answers c := by simp [Device.init]
  cancels c := by simp [Device.init]
  serial c := by simp [Device.init]

variable {q : Cqe}

namespace Sound

theorem stage_of_answers (sound : Sound d) (there : d.threads[j]? = some u)
    (answers : 0 < u.answers c) : d.stage c = .finishing := by
  have part := le_sum (Thread.answers · c) there
  have total := sound.answers c
  by_contra other
  rw [if_neg other] at total
  omega

theorem stage_of_cancelled (sound : Sound d) (there : d.threads[j]? = some (.cancelled c)) :
    d.stage c = .cancelling := by
  have part := le_sum (Thread.cancels · c) there
  have total := sound.cancels c
  have one : (Thread.cancelled c).cancels c = 1 := by simp [Thread.cancels]
  by_contra other
  rw [if_neg other] at total
  omega

theorem custodian (sound : Sound d) (own : d.own b = some c) :
    ∃ (j : Nat) (u : Thread), d.threads[j]? = some u ∧ u.custody = some (b, c) := by
  have total := sound.owned.custody b
  rw [own, if_neg (by simp)] at total
  obtain ⟨j, u, there, has⟩ := exists_of_sum_pos (by omega : 0 < (d.threads.map (·.has b)).sum)
  cases custody : u.custody with
  | none => simp [Thread.has_of_none custody] at has
  | some held =>
    obtain ⟨b', c'⟩ := held
    rw [Thread.has_of_custody custody] at has
    split at has
    · rename_i same
      subst same
      have owner := (sound.owned.owner j u b' c' there custody).1
      cases owner.symm.trans own
      exact ⟨j, u, there, custody⟩
    · omega

theorem not_finishing_of_fits (fits : Fits d u) (custody : u.custody = some (b, c)) :
    d.stage c ≠ .finishing := by
  have held : ∀ {r}, Held d c r → d.stage c ≠ .finishing := by
    intro r held
    rcases held.armed with ⟨armed, -⟩ | ⟨-, gone | gone, -⟩ <;> simp [*]
  have begun : ∀ {r}, Begun d c r → d.stage c ≠ .finishing := by
    intro r begun
    simp [begun.idle]
  cases u <;> cases custody
  case fill | release => exact begun fits
  case mark => exact begun fits.1
  case post => exact fits.elim (fun first => begun first.1) (fun second => held second.1)
  case flying => exact held fits
  all_goals exact held fits.1

theorem not_finishing (sound : Sound d) (own : d.own b = some c) : d.stage c ≠ .finishing := by
  obtain ⟨j, u, there, custody⟩ := sound.custodian own
  exact not_finishing_of_fits (sound.fits j u there) custody

theorem exists_answers (sound : Sound d) (finishing : d.stage c = .finishing) :
    ∃ (j : Nat) (u : Thread), d.threads[j]? = some u ∧ 0 < u.answers c := by
  have total := sound.answers c
  rw [if_pos finishing] at total
  exact exists_of_sum_pos (by omega)

theorem exists_cancels (sound : Sound d) (cancelling : d.stage c = .cancelling) :
    ∃ (j : Nat) (u : Thread), d.threads[j]? = some u ∧ 0 < u.cancels c := by
  have total := sound.cancels c
  rw [if_pos cancelling] at total
  exact exists_of_sum_pos (by omega)

theorem answered_of_cqe (sound : Sound d) (member : q ∈ d.cqes) : d.stage q.cmd = .answered := by
  by_contra other
  have none_yet := sound.logged.once q.cmd
  rw [if_neg other, countP_eq_zero] at none_yet
  exact none_yet q member (by simp)

end Sound

theorem Thread.cmd_cases (cmd : u.cmd = some c) :
    (∃ b, u.custody = some (b, c)) ∨ (∃ r, u = .claim c r) ∨ 0 < u.answers c ∨ u = .cancel c ∨
      u = .cancelled c := by
  cases u with
  | refused e ic =>
    cases ic with
    | none => cases cmd
    | some c' => simp_all [Thread.cmd, Thread.answers]
  | _ => simp_all [Thread.cmd, Thread.custody, Thread.answers]

theorem Fits.reads_cases (fits : Fits d u) (reads : u.reads d = some b) :
    (∃ c, u.custody = some (b, c)) ∨ ∃ c, 0 < u.answers c ∧ d.pdu c = b := by
  cases u with
  | sendSchedule c r w =>
    cases reads
    exact .inr ⟨c, by simp [Thread.answers], fits.1.pdu⟩
  | task k c =>
    cases reads
    exact .inr ⟨c, by simp [Thread.answers], rfl⟩
  | _ => simp_all [Thread.reads, Thread.custody]

/-- What a thread may change that has the buffer `b` for the command `c`. -/
structure Within (d d' : Device) (b c : Nat) : Prop where
  next : d'.next = d.next
  request : d'.request = d.request
  outcomes : ∀ x ∈ d.outcomes, x ∈ d'.outcomes
  cqes : d'.cqes = d.cqes
  crashed : d'.crashed = d.crashed
  pdu : ∀ c' ≠ c, d'.pdu c' = d.pdu c'
  ops : ∀ b' ≠ b, d'.ops b' = d.ops b'
  stage : ∀ c' ≠ c, d'.stage c' = d.stage c'
  listed : ∀ c' ≠ c, d'.cancelable c' = d.cancelable c'
  own : d'.own = d.own ∨ d'.own = update d.own b none

theorem Within.refl (d : Device) (b c : Nat) : Within d d b c :=
  ⟨rfl, rfl, fun _ => id, rfl, rfl, fun _ _ => rfl, fun _ _ => rfl, fun _ _ => rfl,
    fun _ _ => rfl, .inl rfl⟩

variable {c' : Nat}

namespace Sound

theorem apart_reads (sound : Sound d) (here : d.threads[i]? = some t)
    (custody : t.custody = some (b, c)) (there : d.threads[j]? = some u) (other : j ≠ i)
    {b' : Nat} (reads : u.reads d = some b') : b' ≠ b := by
  rcases (sound.fits j u there).reads_cases reads with ⟨c', custody'⟩ | ⟨c', answers, rfl⟩
  · exact sound.owned.apart here there other custody custody'
  · rintro rfl
    have own := (sound.owned.owner i t _ c here custody).1
    have finishing := sound.stage_of_answers there answers
    rcases (sound.stages.each c').kept (.inr finishing) with free | owner
    · simp [free] at own
    · cases owner.symm.trans own
      exact sound.not_finishing own finishing

theorem apart_cmd (sound : Sound d) (here : d.threads[i]? = some t)
    (custody : t.custody = some (b, c)) (there : d.threads[j]? = some u) (other : j ≠ i)
    (cmd : u.cmd = some c') : c' ≠ c ∨ u = .cancel c ∨ u = .cancelled c := by
  rcases eq_or_ne c' c with rfl | same
  · have own := (sound.owned.owner i t b c' here custody).1
    rcases Thread.cmd_cases cmd with ⟨b', custody'⟩ | ⟨r, rfl⟩ | answers | cancel
    · have own' := (sound.owned.owner j u b' c' there custody').1
      exact absurd (sound.stages.injective b' b c' own' own)
        (sound.owned.apart here there other custody custody')
    · exact absurd own ((sound.fits j _ there).2 b)
    · exact absurd (sound.stage_of_answers there answers) (sound.not_finishing own)
    · exact .inr cancel
  · exact .inl same

theorem fits_others (sound : Sound d) (here : d.threads[i]? = some t)
    (custody : t.custody = some (b, c)) (within : Within d d' b c)
    (cancel : Fits d (.cancel c) → Fits d' (.cancel c)) :
    ∀ (j : Nat) u, j ≠ i → d.threads[j]? = some u → Fits d' u := by
  have lower : ∀ b', d'.own b' = none ∨ d'.own b' = d.own b' := by
    intro b'
    rcases within.own with same | dropped
    · exact .inr (congrFun same b')
    · rw [dropped]
      by_cases this : b' = b
      · exact .inl (by rw [this, update_self])
      · exact .inr (update_of_ne this _ _)
  intro j u other there
  have fits := sound.fits j u there
  by_cases cancelling : u = .cancel c ∨ u = .cancelled c
  · rcases cancelling with rfl | rfl
    · exact cancel fits
    · exact within.outcomes _ fits
  · refine fits.frame within.next.ge within.outcomes ?_ ?_ ?_ ?_
    · intro c' cmd
      have apart := (sound.apart_cmd here custody there other cmd).resolve_right cancelling
      exact ⟨congrFun within.request c', within.pdu c' apart, within.stage c' apart⟩
    · exact fun b' reads => within.ops b' (sound.apart_reads here custody there other reads)
    · rintro c' r rfl b' owner
      rcases lower b' with free | same
      · simp [free] at owner
      · exact fits.2 b' (same.symm.trans owner)
    · exact fun c' _ => lower (d.pdu c')

theorem of_moves (sound : Sound d) (here : d.threads[i]? = some t) (moves : Moves d t d' t')
    (fits : Fits d' t') (others : ∀ (j : Nat) u, j ≠ i → d.threads[j]? = some u → Fits d' u)
    (stages : Stages d') (logged : Logged d')
    (answers : ∀ c, t'.answers c + (if d.stage c = .finishing then 1 else 0) =
      t.answers c + if d'.stage c = .finishing then 1 else 0)
    (cancels : ∀ c, t'.cancels c + (if d.stage c = .cancelling then 1 else 0) =
      t.cancels c + if d'.stage c = .cancelling then 1 else 0)
    (serial : ∀ c, (t'.revokes c).toNat ≤ (t.revokes c).toNat) :
    Sound { d' with threads := d.threads.set i t' } where
  owned := sound.owned.moves here moves
  fits j u there := by
    have before : Fits d' u := by
      rcases getElem?_set_cases here there with ⟨-, rfl⟩ | ⟨other, there⟩
      · exact fits
      · exact others j u other there
    exact before.frame le_rfl (fun _ => id) (fun _ _ => ⟨rfl, rfl, rfl⟩)
      (fun _ _ => rfl) (fun c r same => by subst same; exact before.2) (fun _ _ => .inr rfl)
  stages := { stages with each := fun c => { stages.each c with } }
  logged := { logged with }
  answers c := sum_set_eq here (sound.answers c) (answers c)
  cancels c := sum_set_eq here (sound.cancels c) (cancels c)
  serial c := by
    have moved := sum_set (fun t => (t.revokes c).toNat) here t'
    have total := sound.serial c
    have less := serial c
    change ((d.threads.set i t').map (fun t => (t.revokes c).toNat)).sum ≤ 1
    omega

end Sound

structure Same (d d' : Device) : Prop where
  own : d'.own = d.own
  ops : d'.ops = d.ops
  pdu : d'.pdu = d.pdu
  next : d'.next = d.next
  cancelable : d'.cancelable = d.cancelable
  cqes : d'.cqes = d.cqes
  request : d'.request = d.request
  stage : d'.stage = d.stage
  outcomes : ∀ x ∈ d.outcomes, x ∈ d'.outcomes
  crashed : d'.crashed = d.crashed

theorem Same.record (d : Device) (c : Nat) (o : Outcome) : Same d (d.touch.record c o) :=
  ⟨rfl, rfl, rfl, rfl, rfl, rfl, rfl, rfl, fun _ => mem_cons_of_mem _, rfl⟩

theorem Same.lock (d : Device) (r k s : Bool) :
    Same d { d with registered := r, ctxLock := k, stale := s } :=
  ⟨rfl, rfl, rfl, rfl, rfl, rfl, rfl, rfl, fun _ => id, rfl⟩

section

variable (same : Same d d')
include same

theorem Same.agrees (c : Nat) : Agrees d d' c :=
  ⟨congrFun same.request c, congrFun same.pdu c, congrFun same.stage c⟩

theorem Same.held (held : Held d c r) : Held d' c r :=
  held.frame (same.agrees c) (congrFun same.ops _)

theorem Same.fits (fits : Fits d u) : Fits d' u := by
  refine fits.frame same.next.ge same.outcomes (fun c _ => same.agrees c)
    (fun b _ => congrFun same.ops b) ?_ (fun c _ => .inr (congrFun same.own _))
  rintro c r rfl b
  rw [same.own]
  exact fits.2 b

theorem Same.stages (stages : Stages d) : Stages d' := by
  refine ⟨fun c => ?_, ?_, ?_⟩
  · obtain ⟨armed, kept, cancelable⟩ := stages.each c
    refine ⟨?_, ?_, ?_⟩
    · simpa only [same.stage, same.own, same.pdu] using armed
    · simpa only [same.stage, same.own, same.pdu] using kept
    · simpa only [same.cancelable, same.stage, same.request] using cancelable
  · simpa only [same.stage, same.own, same.next] using stages.fresh
  · simpa only [same.own] using stages.injective

theorem Same.logged (logged : Logged d) : Logged d' := by
  refine ⟨?_, ?_, same.crashed.trans logged.alive⟩
  · simpa only [same.cqes, same.stage] using logged.once
  · intro q member
    rw [same.cqes] at member
    obtain ⟨o, outcome, own⟩ := logged.own q member
    exact ⟨o, same.outcomes _ outcome, by rw [same.request]; exact own⟩

end

theorem Sound.same (sound : Sound d) (here : d.threads[i]? = some t) (moves : Moves d t d' t')
    (same : Same d d') (fits : Fits d' t')
    (alike : ∀ c, t'.answers c = t.answers c ∧ t'.cancels c = t.cancels c ∧
      (t'.revokes c).toNat ≤ (t.revokes c).toNat) :
    Sound { d' with threads := d.threads.set i t' } := by
  refine sound.of_moves here moves fits (fun j u _ there => same.fits (sound.fits j u there))
    (same.stages sound.stages) (same.logged sound.logged) ?_ ?_ fun c => (alike c).2.2
  · intro c
    rw [(alike c).1, same.stage]
  · intro c
    rw [(alike c).2.1, same.stage]

/-! ## Changes to one command -/

theorem Stages.of_change (stages : Stages d) (known : c < d.next) (next : d'.next = d.next)
    (request : d'.request = d.request) (pdu : ∀ c' ≠ c, d'.pdu c' = d.pdu c')
    (stage : ∀ c' ≠ c, d'.stage c' = d.stage c')
    (listed : ∀ c' ≠ c, d'.cancelable c' = d.cancelable c')
    (own : d'.own = d.own ∨ d'.own = update d.own b none ∧ d.own b = some c)
    (standing : Standing d' c) : Stages d' := by
  have lower : ∀ b' c', d'.own b' = some c' → d.own b' = some c' := by
    intro b' c' owner
    rcases own with same | ⟨dropped, -⟩
    · rwa [same] at owner
    · rw [dropped] at owner
      rcases eq_or_ne b' b with rfl | this
      · simp at owner
      · rwa [update_of_ne this] at owner
  have others : ∀ b' c', c' ≠ c → d.own b' = some c' → d'.own b' = some c' := by
    intro b' c' other owner
    rcases own with same | ⟨dropped, mine⟩
    · rwa [same]
    · have this : b' ≠ b := by
        rintro rfl
        exact other (Option.some.inj (owner.symm.trans mine))
      rwa [dropped, update_of_ne this]
  have free : ∀ b', d.own b' = none → d'.own b' = none := by
    intro b' before
    cases after : d'.own b' with
    | none => rfl
    | some c' => simp [lower b' c' after] at before
  refine ⟨?_, ?_, ?_⟩
  · intro c'
    rcases eq_or_ne c' c with rfl | mine
    · exact standing
    obtain ⟨armed, kept, cancelable⟩ := stages.each c'
    refine ⟨?_, ?_, ?_⟩
    · rw [stage c' mine, pdu c' mine]
      exact fun here => others _ c' mine (armed here)
    · rw [stage c' mine, pdu c' mine]
      exact fun here => (kept here).imp (free _) (others _ c' mine)
    · rwa [listed c' mine, request, stage c' mine]
  · intro c' later
    rw [next] at later
    have other : c' ≠ c := by
      rintro rfl
      omega
    rw [stage c' other]
    obtain ⟨idle, nothing⟩ := stages.fresh c' later
    exact ⟨idle, fun b' owner => nothing b' (lower b' c' owner)⟩
  · intro b₁ b₂ c' first second
    exact stages.injective b₁ b₂ c' (lower b₁ c' first) (lower b₂ c' second)

theorem Logged.of_stage (logged : Logged d) (cqes : d'.cqes = d.cqes)
    (request : d'.request = d.request) (outcomes : ∀ x ∈ d.outcomes, x ∈ d'.outcomes)
    (crashed : d'.crashed = d.crashed)
    (stage : ∀ c, d'.stage c = .answered ↔ d.stage c = .answered) : Logged d' := by
  refine ⟨?_, ?_, crashed.trans logged.alive⟩
  · intro c
    rw [cqes, logged.once c]
    simp only [stage c]
  · intro q member
    rw [cqes] at member
    obtain ⟨o, outcome, own⟩ := logged.own q member
    exact ⟨o, outcomes _ outcome, by rw [request]; exact own⟩

namespace Sound

section

variable (sound : Sound d)
include sound

theorem known (own : d.own b = some c) : c < d.next := by
  by_contra later
  exact (sound.stages.fresh c (by omega)).2 b own

theorem known_of_stage (queued : d.stage c ≠ .idle) : c < d.next := by
  by_contra later
  exact queued (sound.stages.fresh c (by omega)).1

theorem cmd_known (there : d.threads[j]? = some u) (cmd : u.cmd = some c) : c < d.next := by
  rcases Thread.cmd_cases cmd with ⟨b, custody⟩ | ⟨r, rfl⟩ | answers | rfl | rfl
  · exact sound.known (sound.owned.owner j u b c there custody).1
  · exact (sound.fits j _ there).1.known
  · exact sound.known_of_stage (by simp [sound.stage_of_answers there answers])
  · exact sound.known_of_stage (sound.fits j _ there).2.1
  · exact sound.known_of_stage (by simp [sound.stage_of_cancelled there])

theorem enter (here : d.threads[i]? = some (.enter r))
    (free : d.ctxLock = false) (registered : d.registered = true) (bound : r.bufIndex < d.count) :
    Sound { d with
      ctxLock := true
      next := d.next + 1
      request := update d.request d.next r
      threads := d.threads.set i (.claim d.next r) } := by
  obtain ⟨idle, nothing⟩ := sound.stages.fresh d.next le_rfl
  refine sound.of_moves here (.enter free registered bound) ?_ ?_ ?_ ?_ (fun _ => rfl)
    (fun _ => rfl) (fun _ => Nat.le_refl _)
  · exact ⟨⟨update_self .., Nat.lt_succ_self _, idle⟩, nothing⟩
  · intro j u other there
    refine (sound.fits j u there).frame (Nat.le_succ _) (fun _ => id) ?_
      (fun _ _ => rfl) ?_ (fun _ _ => .inr rfl)
    · intro c cmd
      exact ⟨update_of_ne (Nat.ne_of_lt (sound.cmd_known there cmd)) _ _, rfl, rfl⟩
    · rintro c r rfl
      exact (sound.fits j _ there).2
  · exact { sound.stages with
      fresh := fun c later => sound.stages.fresh c (Nat.le_of_succ_le later)
      each := fun c => { sound.stages.each c with
        cancelable := fun listed => by
          obtain ⟨kind, queued, open_⟩ := (sound.stages.each c).cancelable listed
          have old := sound.known_of_stage queued
          exact ⟨by simpa only [update_of_ne (Nat.ne_of_lt old)] using kind, queued, open_⟩ } }
  · refine ⟨sound.logged.once, ?_, sound.logged.alive⟩
    intro q member
    have old := sound.known_of_stage (c := q.cmd) (by simp [sound.answered_of_cqe member])
    simp only [update_of_ne (Nat.ne_of_lt old)]
    exact sound.logged.own q member

theorem claim (here : d.threads[i]? = some (.claim c r)) (free : d.own r.bufIndex = none)
    (settled : ∀ c', d.stage c' ≠ .idle → d.pdu c' = r.bufIndex → d.stage c' = .answered)
    (uncancelled : ∀ c', .cancel c' ∈ d.threads → d.pdu c' ≠ r.bufIndex) :
    Sound { d.setOwn r.bufIndex (some c) with threads := d.threads.set i (.fill c r) } := by
  obtain ⟨begun, nothing⟩ := sound.fits i _ here
  have others : ∀ b', b' ≠ r.bufIndex → (d.setOwn r.bufIndex (some c)).own b' = d.own b' :=
    fun b' this => update_of_ne this _ _
  have mine : (d.setOwn r.bufIndex (some c)).own r.bufIndex = some c := update_self ..
  refine sound.of_moves here (.claim free) { begun with } ?_ ?_ ?_
    (fun _ => rfl) (fun _ => rfl) (fun _ => Nat.le_refl _)
  · intro j u other there
    refine (sound.fits j u there).frame le_rfl (fun _ => id)
      (fun _ _ => ⟨rfl, rfl, rfl⟩) (fun _ _ => rfl) ?_ ?_
    · rintro c' r' rfl
      have apart := sound.owned.lock_apart here there other rfl
      cases apart
    · rintro c' rfl
      exact .inr (others _ (uncancelled c' (mem_of_getElem? there)))
  · refine ⟨fun c' => ⟨?_, ?_, (sound.stages.each c').cancelable⟩, ?_, ?_⟩
    · intro armed
      have owner := (sound.stages.each c').armed armed
      have this : d.pdu c' ≠ r.bufIndex := by
        intro same
        rw [same, free] at owner
        cases owner
      exact (others _ this).trans owner
    · intro (kept : d.stage c' = .cancelling ∨ d.stage c' = .finishing)
      have this : d.pdu c' ≠ r.bufIndex := by
        intro same
        have answered := settled c' (by rcases kept with stage | stage <;> simp [stage]) same
        rcases kept with stage | stage <;> simp [stage] at answered
      rw [show (d.setOwn r.bufIndex (some c)).pdu c' = d.pdu c' from rfl, others _ this]
      exact (sound.stages.each c').kept kept
    · intro c' later
      refine ⟨(sound.stages.fresh c' later).1, fun b' owner => ?_⟩
      rcases eq_or_ne b' r.bufIndex with rfl | this
      · cases mine.symm.trans owner
        exact absurd begun.known (Nat.not_lt.mpr later)
      · exact (sound.stages.fresh c' later).2 b' ((others b' this).symm.trans owner)
    · intro b₁ b₂ c' first second
      by_cases this : b₁ = r.bufIndex
      · by_cases that : b₂ = r.bufIndex
        · exact this.trans that.symm
        · rw [this, mine] at first
          rw [others b₂ that, ← Option.some.inj first] at second
          exact absurd second (nothing b₂)
      · by_cases that : b₂ = r.bufIndex
        · rw [that, mine] at second
          rw [others b₁ this, ← Option.some.inj second] at first
          exact absurd first (nothing b₁)
        · exact sound.stages.injective b₁ b₂ c' ((others b₁ this).symm.trans first)
            ((others b₂ that).symm.trans second)
  · exact sound.logged.of_stage rfl rfl (fun _ => id) rfl (fun _ => Iff.rfl)

section

variable (here : d.threads[i]? = some t)
include here

theorem custodial (moves : Moves d t d' t')
    (custody : t.custody = some (b, c)) (within : Within d d' b c)
    (answered : d'.stage c = .answered ↔ d.stage c = .answered)
    (cancelling : d'.stage c = .cancelling ↔ d.stage c = .cancelling)
    (standing : Standing d' c) (fits : Fits d' t')
    (cancel : Fits d (.cancel c) → Fits d' (.cancel c))
    (answers : ∀ c', t'.answers c' = if c' = c ∧ d'.stage c = .finishing then 1 else 0)
    (other : ∀ c, t'.revokes c = false) :
    Sound { d' with threads := d.threads.set i t' } := by
  have mine := (sound.owned.owner i t b c here custody).1
  have working : ∀ c', t.answers c' = 0 ∧ t.cancels c' = 0 := by
    intro c'
    cases t <;> first | exact ⟨rfl, rfl⟩ | cases custody
  have ⟨next, request, outcomes, cqes, crashed, pdu, _, stage, listed, own⟩ := within
  refine sound.of_moves here moves fits (sound.fits_others here custody within cancel)
    ?_ ?_ ?_ ?_ ?_
  · exact sound.stages.of_change (sound.known mine) next request pdu stage listed
      (own.imp_right fun dropped => ⟨dropped, mine⟩) standing
  · refine sound.logged.of_stage cqes request outcomes crashed fun c' => ?_
    rcases eq_or_ne c' c with rfl | this
    · exact answered
    · rw [stage c' this]
  · intro c'
    rw [answers, (working c').1]
    rcases eq_or_ne c' c with rfl | this
    · simp [sound.not_finishing mine]
    · simp [this, stage c' this]
  · intro c'
    rw [Thread.cancels_eq_zero (other c'), (working c').2]
    rcases eq_or_ne c' c with rfl | this
    · simp only [cancelling]
    · rw [stage c' this]
  · simp [other]

theorem begun (moves : Moves d t d' t')
    (custody : t.custody = some (b, c)) (begun : Begun d c r) (within : Within d d' b c)
    (stage : d'.stage c = d.stage c) (listed : d'.cancelable c = d.cancelable c)
    (fits : Fits d' t') (quiet : t'.Quiet) :
    Sound { d' with threads := d.threads.set i t' } := by
  have idle := stage.trans begun.idle
  refine sound.custodial here moves custody within (by rw [stage]) (by rw [stage]) ⟨?_, ?_, ?_⟩
    fits ?_ ?_ fun c => (quiet c).2
  · simp [idle]
  · simp [idle]
  · rw [listed]
    exact fun here => absurd begun.idle ((sound.stages.each c).cancelable here).2.1
  · exact fun cancel => absurd begun.idle cancel.2.1
  · simp [quiet _, idle]

theorem arm (moves : Moves d t d' t')
    (custody : t.custody = some (r.bufIndex, c)) (begun : Begun d c r) (filled : Filled d c r)
    (within : Within d d' r.bufIndex c) (own : d'.own = d.own) (pdu : d'.pdu c = d.pdu c)
    (stage : d'.stage c = .armed) (listed : d'.cancelable c = true → r.kind = .recv)
    (fits : Fits d' t') (quiet : t'.Quiet) :
    Sound { d' with threads := d.threads.set i t' } := by
  have mine := (sound.owned.owner i t _ _ here custody).1
  refine sound.custodial here moves custody within ?_ ?_ ⟨?_, ?_, ?_⟩ fits ?_ ?_
    fun c => (quiet c).2
  · simp [stage, begun.idle]
  · simp [stage, begun.idle]
  · rw [own, pdu, filled.pdu]
    exact fun _ => mine
  · simp [stage]
  · rw [within.request, begun.request, stage]
    exact fun here => ⟨listed here, nofun, nofun⟩
  · exact fun cancel => absurd begun.idle cancel.2.1
  · simp [quiet _, stage]

end

end

end Sound

theorem Begun.fillOp (begun : Begun d c r) (op : Slot) (done : op.done = r.kind)
    (len : op.len = r.len) :
    Begun (d.fillOp c r.bufIndex op) c r ∧ Filled (d.fillOp c r.bufIndex op) c r ∧
      (d.fillOp c r.bufIndex op).ops r.bufIndex = op := by
  have slot : (d.fillOp c r.bufIndex op).ops r.bufIndex = op := update_self ..
  exact ⟨{ begun with }, ⟨begun.request, update_self ..,
    by rw [slot]; exact done, by rw [slot]; exact len⟩, slot⟩

variable {op : Slot}

namespace Sound

section

variable (sound : Sound d)
include sound

theorem fill (here : d.threads[i]? = some (.fill c r))
    (moves : Moves d (.fill c r) (d.fillOp c r.bufIndex op) t')
    (fits : Fits (d.fillOp c r.bufIndex op) t') (quiet : t'.Quiet) :
    Sound { d.fillOp c r.bufIndex op with threads := d.threads.set i t' } :=
  sound.begun here moves rfl (sound.fits i _ here)
    { Within.refl d r.bufIndex c with
      pdu := fun _ this => update_of_ne this _ _
      ops := fun _ this => update_of_ne this _ _ }
    rfl rfl fits quiet

theorem mark (here : d.threads[i]? = some (.mark c r)) :
    Sound { d.setStage c .armed with
      cancelable := update d.cancelable c true
      threads := d.threads.set i (.post c r) } := by
  obtain ⟨begun, filled, ioucmd, kind⟩ := sound.fits i _ here
  have armed : (d.setStage c .armed).stage c = .armed := update_self ..
  refine sound.arm here .mark rfl begun filled
    { Within.refl d r.bufIndex c with
      stage := fun _ this => update_of_ne this _ _
      listed := fun _ this => update_of_ne this _ _ }
    rfl rfl armed (fun _ => kind) (.inr ⟨⟨?_, .inl ⟨armed, ioucmd⟩⟩, kind⟩) fun _ => ⟨rfl, rfl⟩
  exact { filled with }

theorem postSend (here : d.threads[i]? = some (.post c r)) (send : r.kind = .send) :
    Sound { (d.setStage c .armed).unlock with threads := d.threads.set i (.flying c r) } := by
  obtain ⟨begun, filled, ioucmd, -⟩ | ⟨-, recv⟩ := sound.fits i _ here
  · have armed : (d.setStage c .armed).stage c = .armed := update_self ..
    refine sound.arm here (.postSend send) rfl begun filled
      { Within.refl d r.bufIndex c with stage := fun _ this => update_of_ne this _ _ } rfl rfl
      armed ?_ ⟨?_, .inl ⟨armed, ioucmd⟩⟩ fun _ => ⟨rfl, rfl⟩
    · exact fun listed => absurd begun.idle ((sound.stages.each c).cancelable listed).2.1
    · exact { filled with }
  · cases send.symm.trans recv

theorem release (here : d.threads[i]? = some (.release c r)) :
    Sound { (d.setOwn r.bufIndex none).unlock with threads := d.threads.set i .done } :=
  sound.begun here .release rfl (sound.fits i _ here)
    { Within.refl d r.bufIndex c with own := .inr rfl } rfl rfl trivial fun _ => ⟨rfl, rfl⟩

theorem store (here : d.threads[i]? = some t) (custody : t.custody = some (b, c))
    (moves : Moves d t (d.setOp b op) t') (fits : Fits (d.setOp b op) t')
    (quiet : t'.Quiet) :
    Sound { d.setOp b op with threads := d.threads.set i t' } := by
  have own := (sound.owned.owner i t b c here custody).1
  refine sound.custodial here moves custody
    { Within.refl d b c with ops := fun _ this => update_of_ne this _ _ } Iff.rfl Iff.rfl
    { sound.stages.each c with } fits ?_ ?_ fun c => (quiet c).2
  · exact fun cancel => ⟨cancel.1, cancel.2.1, cancel.2.2⟩
  · intro c'
    rw [(quiet c').1, if_neg]
    exact fun finishing => sound.not_finishing own finishing.2

end

end Sound

theorem Held.setRes (held : Held d c r) (done : op.done = (d.ops r.bufIndex).done)
    (len : op.len = (d.ops r.bufIndex).len) (ioucmd : op.ioucmd = (d.ops r.bufIndex).ioucmd) :
    Held (d.setOp r.bufIndex op) c r := by
  have slot : (d.setOp r.bufIndex op).ops r.bufIndex = op := update_self ..
  refine ⟨⟨held.request, held.pdu, ?_, ?_⟩, ?_⟩
  · rw [slot, done]
    exact held.done
  · rw [slot, len]
    exact held.len
  · unfold Armed
    rw [slot, ioucmd]
    exact held.armed

variable {w : Wc}

namespace Sound

theorem sendStore (sound : Sound d) (here : d.threads[i]? = some (.sendStore c r w)) :
    Sound { d.setOp r.bufIndex
        { d.ops r.bufIndex with res := w.sendRes (d.ops r.bufIndex).len } with
      threads := d.threads.set i (.sendRelease c r w) } := by
  obtain ⟨held, kind, outcome⟩ := sound.fits i _ here
  refine sound.store here rfl .sendStore ⟨held.setRes rfl rfl rfl, kind, outcome, ?_⟩
    fun _ => ⟨rfl, rfl⟩
  rw [Device.setOp, ← held.len]
  simp

theorem recvStore (sound : Sound d) (here : d.threads[i]? = some (.recvStore c r w)) :
    Sound { d.setOp r.bufIndex
        { d.ops r.bufIndex with res := w.recvRes.1, streamId := w.recvRes.2 } with
      threads := d.threads.set i (.recvRelease c r w) } := by
  obtain ⟨held, kind, outcome⟩ := sound.fits i _ here
  refine sound.store here rfl .recvStore ⟨held.setRes rfl rfl rfl, kind, outcome, ?_, ?_⟩
    fun _ => ⟨rfl, rfl⟩
  · simp [Device.setOp]
  · simp [Device.setOp]

theorem handOn (sound : Sound d) (here : d.threads[i]? = some t) (moves : Moves d t d' t')
    (custody : t.custody = some (r.bufIndex, c)) (filled : Filled d c r)
    (armed : d.stage c = .armed) (within : Within d d' r.bufIndex c) (pdu : d'.pdu = d.pdu)
    (stage : d'.stage c = .finishing) (listed : d'.cancelable = d.cancelable)
    (own : d'.own = update d.own r.bufIndex none) (fits : Fits d' t')
    (answers : ∀ c', t'.answers c' = if c' = c then 1 else 0)
    (other : ∀ c, t'.revokes c = false) : Sound { d' with threads := d.threads.set i t' } := by
  have free : d'.own (d'.pdu c) = none := by rw [pdu, own, filled.pdu, update_self]
  refine sound.custodial here moves custody within ?_ ?_ ⟨?_, fun _ => .inl free, ?_⟩ fits ?_ ?_
    other
  · simp [stage, armed]
  · simp [stage, armed]
  · simp [stage]
  · rw [listed, within.request, stage]
    exact fun here => ⟨((sound.stages.each c).cancelable here).1, nofun, nofun⟩
  · exact fun cancel => ⟨by rw [within.request]; exact cancel.1, by simp [stage], .inl free⟩
  · simp [answers, stage]

theorem letGo (sound : Sound d) (here : d.threads[i]? = some t) (moves : Moves d t d' t')
    (custody : t.custody = some (r.bufIndex, c)) (held : Held d c r)
    (missing : (d.ops r.bufIndex).ioucmd = none) (within : Within d d' r.bufIndex c)
    (pdu : d'.pdu = d.pdu) (stage : d'.stage = d.stage) (listed : d'.cancelable = d.cancelable)
    (own : d'.own = update d.own r.bufIndex none) (fits : Fits d' t') (quiet : t'.Quiet) :
    Sound { d' with threads := d.threads.set i t' } := by
  have gone : d.stage c = .cancelling ∨ d.stage c = .answered := by
    rcases held.armed with ⟨-, ioucmd⟩ | ⟨-, gone, -⟩
    · cases missing.symm.trans ioucmd
    · exact gone
  have free : d'.own (d'.pdu c) = none := by rw [pdu, own, held.pdu, update_self]
  refine sound.custodial here moves custody within (by rw [stage]) (by rw [stage])
    ⟨?_, fun _ => .inl free, ?_⟩ fits ?_ ?_ fun c => (quiet c).2
  · rw [stage]
    rcases gone with gone | gone <;> simp [gone]
  · rw [listed, within.request, stage]
    exact (sound.stages.each c).cancelable
  · intro cancel
    rw [Fits, within.request, stage]
    exact ⟨cancel.1, cancel.2.1, .inl free⟩
  · intro c'
    rw [(quiet c').1, stage, if_neg]
    rcases gone with gone | gone <;> simp [gone]

end Sound

theorem Held.of_ioucmd (held : Held d c r)
    (found : (d.ops r.bufIndex).ioucmd = some c') : c' = c ∧ d.stage c = .armed := by
  rcases held.armed with ⟨armed, ioucmd⟩ | ⟨-, -, missing⟩
  · exact ⟨Option.some.inj (found.symm.trans ioucmd), armed⟩
  · cases missing.symm.trans found

theorem Held.armed_of_send (held : Held d c r) (send : r.kind = .send) :
    d.stage c = .armed ∧ (d.ops r.bufIndex).ioucmd = some c := by
  rcases held.armed with armed | ⟨recv, -⟩
  · exact armed
  · cases send.symm.trans recv

theorem Filled.task (filled : Filled d c r) {k : Kind} (kind : r.kind = k)
    (outcome : (c, .wc w) ∈ d.outcomes) (res : (d.ops r.bufIndex).res = Outcome.res r (.wc w))
    (stream : k = .recv → (d.ops r.bufIndex).streamId = w.recvRes.2) : Fits d (.task k c) := by
  obtain ⟨rfl, pdu, -, -⟩ := filled
  exact ⟨kind, pdu, w, outcome, by rw [pdu]; exact res, by rw [pdu]; exact stream⟩

theorem answers_eq (c c' : Nat) : (if c = c' then 1 else 0) = if c' = c then 1 else 0 := by
  simp only [eq_comm]

namespace Sound

section

variable (sound : Sound d)
include sound

theorem sendRelease (here : d.threads[i]? = some (.sendRelease c r w)) :
    Sound { (d.setOwn r.bufIndex none).setStage c .finishing with
      threads := d.threads.set i (.sendSchedule c r w) } := by
  obtain ⟨held, kind, outcome, res⟩ := sound.fits i _ here
  obtain ⟨armed, ioucmd⟩ := held.armed_of_send kind
  refine sound.handOn here .sendRelease rfl held.toFilled armed
    { Within.refl d r.bufIndex c with
      stage := fun _ this => update_of_ne this _ _
      own := .inr rfl }
    rfl (update_self ..) rfl rfl ?_ (fun c' => answers_eq c c') (fun _ => rfl)
  exact ⟨{ held with }, kind, outcome, res, ioucmd⟩

theorem recvRelease (here : d.threads[i]? = some (.recvRelease c r w))
    (found : (d.ops r.bufIndex).ioucmd = some c') :
    Sound { (d.setOwn r.bufIndex none).setStage c' .finishing with
      threads := d.threads.set i (.task .recv c') } := by
  obtain ⟨held, kind, outcome, res, stream⟩ := sound.fits i _ here
  obtain ⟨rfl, armed⟩ := held.of_ioucmd found
  refine sound.handOn here (.recvRelease found) rfl held.toFilled armed
    { Within.refl d r.bufIndex c' with
      stage := fun _ this => update_of_ne this _ _
      own := .inr rfl }
    rfl (update_self ..) rfl rfl ?_ (fun c => answers_eq c' c) (fun _ => rfl)
  have filled : Filled ((d.setOwn r.bufIndex none).setStage c' .finishing) c' r :=
    { held with }
  have result : (d.ops r.bufIndex).res = Outcome.res r (.wc w) := by
    simpa [Outcome.res, kind] using res
  exact filled.task kind outcome result (fun _ => stream)

theorem recvSkip (here : d.threads[i]? = some (.recvRelease c r w))
    (missing : (d.ops r.bufIndex).ioucmd = none) :
    Sound { d.setOwn r.bufIndex none with threads := d.threads.set i .done } := by
  obtain ⟨held, -⟩ := sound.fits i _ here
  exact sound.letGo here (.recvSkip missing) rfl held missing
    { Within.refl d r.bufIndex c with own := .inr rfl } rfl rfl rfl rfl trivial
    fun _ => ⟨rfl, rfl⟩

theorem refuse {e : Errno} (here : d.threads[i]? = some (.refuse c r e))
    (found : (d.ops r.bufIndex).ioucmd = some c') :
    Sound { (d.giveUp c r.bufIndex e).setStage c' .finishing with
      threads := d.threads.set i (.refused e (some c')) } := by
  obtain ⟨held, -⟩ := sound.fits i _ here
  obtain ⟨rfl, armed⟩ := held.of_ioucmd found
  exact sound.handOn here (.refuse found) rfl held.toFilled armed
    { Within.refl d r.bufIndex c' with
      outcomes := fun _ => mem_cons_of_mem _
      ops := fun _ this => update_of_ne this _ _
      stage := fun _ this => update_of_ne this _ _
      own := .inr rfl }
    rfl (update_self ..) rfl rfl mem_cons_self (fun c => answers_eq c' c) (fun _ => rfl)

theorem refuseSkip {e : Errno} (here : d.threads[i]? = some (.refuse c r e))
    (missing : (d.ops r.bufIndex).ioucmd = none) :
    Sound { d.giveUp c r.bufIndex e with
      threads := d.threads.set i (.refused e none) } := by
  obtain ⟨held, -⟩ := sound.fits i _ here
  exact sound.letGo here (.refuseSkip missing) rfl held missing
    { Within.refl d r.bufIndex c with
      outcomes := fun _ => mem_cons_of_mem _
      ops := fun _ this => update_of_ne this _ _
      own := .inr rfl }
    rfl rfl rfl rfl trivial fun _ => ⟨rfl, rfl⟩

end

end Sound

/-! ## Answers and cancellations -/

theorem Fits.rearm (fits : Fits d u) (custody : u.custody = some (b, c))
    (queued : d.stage c ≠ .idle) (outcomes : ∀ x ∈ d.outcomes, x ∈ d'.outcomes)
    (request : d'.request c = d.request c) (pdu : d'.pdu c = d.pdu c)
    (done : (d'.ops b).done = (d.ops b).done) (len : (d'.ops b).len = (d.ops b).len)
    (res : (d'.ops b).res = (d.ops b).res) (stream : (d'.ops b).streamId = (d.ops b).streamId)
    (armed : ∀ r, d.request c = r → r.bufIndex = b → Armed d c r → Armed d' c r) : Fits d' u := by
  have rearm : ∀ r, r.bufIndex = b → Held d c r → Held d' c r := by
    rintro r rfl held
    exact ⟨⟨request.trans held.request, pdu.trans held.pdu, done.trans held.done,
      len.trans held.len⟩, armed r held.request rfl held.armed⟩
  cases u <;> cases custody
  case fill | release => exact absurd (Begun.idle fits) queued
  case mark => exact absurd fits.1.idle queued
  case post =>
    rcases fits with ⟨begun, -⟩ | ⟨held, kind⟩
    · exact absurd begun.idle queued
    · exact .inr ⟨rearm _ rfl held, kind⟩
  case refuse => exact ⟨rearm _ rfl fits.1, fits.2⟩
  case flying => exact rearm _ rfl fits
  case sendStore | recvStore => exact ⟨rearm _ rfl fits.1, fits.2.1, outcomes _ fits.2.2⟩
  case sendRelease =>
    obtain ⟨held, kind, outcome, stored⟩ := fits
    exact ⟨rearm _ rfl held, kind, outcomes _ outcome, res.trans stored⟩
  case recvRelease =>
    obtain ⟨held, kind, outcome, stored, named⟩ := fits
    exact ⟨rearm _ rfl held, kind, outcomes _ outcome, res.trans stored, stream.trans named⟩

structure Completes (d d' : Device) (q : Cqe) : Prop where
  own : d'.own = d.own
  ops : d'.ops = d.ops
  pdu : d'.pdu = d.pdu
  next : d'.next = d.next
  request : d'.request = d.request
  outcomes : d'.outcomes = d.outcomes
  crashed : d'.crashed = d.crashed
  cqes : d'.cqes = d.cqes ++ [q]
  stage : d'.stage = update d.stage q.cmd .answered
  listed : d'.cancelable = update d.cancelable q.cmd false

theorem Completes.logged (completes : Completes d d' q) (logged : Logged d)
    (open_ : d.stage q.cmd ≠ .answered) {o : Outcome} (outcome : (q.cmd, o) ∈ d.outcomes)
    (res : q.res = o.res (d.request q.cmd)) (posted : Posted (d.request q.cmd) o q.res2) :
    Logged d' := by
  refine ⟨?_, ?_, completes.crashed.trans logged.alive⟩
  · intro c
    rw [completes.cqes, countP_append, logged.once c, completes.stage]
    rcases eq_or_ne q.cmd c with rfl | mine
    · simp [open_]
    · simp [mine, update_of_ne (Ne.symm mine)]
  · intro q' member
    rw [completes.cqes] at member
    rw [completes.outcomes, completes.request]
    rcases mem_append.mp member with old | new
    · exact logged.own q' old
    · rw [mem_singleton.mp new]
      exact ⟨o, outcome, res, posted⟩

theorem Completes.stages (completes : Completes d d' q) (sound : Sound d)
    (queued : d.stage q.cmd ≠ .idle) : Stages d' := by
  have answered : d'.stage q.cmd = .answered := by rw [completes.stage, update_self]
  refine sound.stages.of_change (b := 0) (sound.known_of_stage queued) completes.next
    completes.request (fun c' _ => congrFun completes.pdu c') ?_ ?_ (.inl completes.own)
    ⟨?_, ?_, ?_⟩
  · intro c' this
    rw [completes.stage, update_of_ne this]
  · intro c' this
    rw [completes.listed, update_of_ne this]
  · simp [answered]
  · simp [answered]
  · simp [completes.listed]

theorem balance {f : Thread → Nat → Nat} {s x : Stage} (stage : d'.stage = update d.stage c s)
    (others : ∀ c' ≠ c, f t' c' = f t c')
    (mine : f t' c + (if d.stage c = x then 1 else 0) = f t c + if s = x then 1 else 0) (c' : Nat) :
    f t' c' + (if d.stage c' = x then 1 else 0) = f t c' + if d'.stage c' = x then 1 else 0 := by
  rw [stage]
  rcases eq_or_ne c' c with rfl | this
  · rwa [update_self]
  · rw [update_of_ne this, others c' this]

namespace Sound

section

variable (sound : Sound d)
include sound

theorem answer (here : d.threads[i]? = some t) (moves : Moves d t d' .done)
    (answers : ∀ c, t.answers c = if q.cmd = c then 1 else 0) (idle : ∀ c, t.revokes c = false)
    (completes : Completes d d' q) {o : Outcome} (outcome : (q.cmd, o) ∈ d.outcomes)
    (res : q.res = o.res (d.request q.cmd)) (posted : Posted (d.request q.cmd) o q.res2) :
    Sound { d' with threads := d.threads.set i .done } := by
  have finishing : d.stage q.cmd = .finishing :=
    sound.stage_of_answers here (by rw [answers, if_pos rfl]; omega)
  have uncancels := fun c => Thread.cancels_eq_zero (idle c)
  refine sound.of_moves here moves trivial ?_ (completes.stages sound (by simp [finishing]))
    (completes.logged sound.logged (by simp [finishing]) outcome res posted)
    (balance completes.stage ?_ ?_) (balance completes.stage ?_ ?_) (by simp [Thread.revokes])
  · intro j u other there
    have fits := sound.fits j u there
    by_cases cancel : u = .cancel q.cmd
    · subst cancel
      obtain ⟨kind, -, free | ⟨-, armed⟩⟩ := fits
      · refine ⟨by rw [completes.request]; exact kind, by simp [completes.stage], .inl ?_⟩
        rwa [completes.own, completes.pdu]
      · cases finishing.symm.trans armed
    · refine fits.frame completes.next.ge (by rw [completes.outcomes]; exact fun _ => id) ?_
        (fun b _ => congrFun completes.ops b) ?_ (fun c _ => .inr (congrFun completes.own _))
      · intro c cmd
        have this : c ≠ q.cmd := by
          rintro rfl
          rcases Thread.cmd_cases cmd with ⟨b, custody⟩ | ⟨r, rfl⟩ | twice | same | rfl
          · exact sound.not_finishing (sound.owned.owner j u b _ there custody).1 finishing
          · cases fits.1.idle.symm.trans finishing
          · have both := add_le_sum (Thread.answers · q.cmd) here there (Ne.symm other)
            have total := sound.answers q.cmd
            rw [answers, if_pos rfl] at both
            rw [if_pos finishing] at total
            omega
          · exact cancel same
          · cases (sound.stage_of_cancelled there).symm.trans finishing
        exact ⟨congrFun completes.request c, congrFun completes.pdu c,
          by rw [completes.stage, update_of_ne this]⟩
      · rintro c r rfl b
        rw [completes.own]
        exact fits.2 b
  · exact fun c this => by rw [answers, if_neg (Ne.symm this)]; rfl
  · rw [answers, if_pos rfl, if_pos finishing]
    rfl
  · exact fun c _ => (uncancels c).symm
  · rw [uncancels, if_neg (by simp [finishing])]
    rfl

theorem cancel_alone (here : d.threads[i]? = some t)
    (cancels : t.revokes c = true) (there : d.threads[j]? = some u) (other : j ≠ i) :
    u.revokes c = false := by
  have both := add_le_sum (fun t : Thread => (t.revokes c).toNat) here there (Ne.symm other)
  have total := sound.serial c
  cases second : u.revokes c with
  | false => rfl
  | true =>
    simp only [cancels, second, toNat_true] at both
    omega

theorem ne_of_cancelled (here : d.threads[i]? = some t)
    (revokes : t.revokes c = true) (there : d.threads[j]? = some u) (other : j ≠ i)
    (queued : d.stage c ≠ .idle) (unanswered : d.stage c ≠ .finishing)
    (custody : ¬ ∃ b, u.custody = some (b, c)) (cmd : u.cmd = some c') : c' ≠ c := by
  rintro rfl
  have alone := sound.cancel_alone here revokes there other
  rcases Thread.cmd_cases cmd with held | ⟨r, rfl⟩ | answers | rfl | rfl
  · exact custody held
  · exact queued (sound.fits j _ there).1.idle
  · exact unanswered (sound.stage_of_answers there answers)
  · simp [Thread.revokes] at alone
  · simp [Thread.revokes] at alone

theorem cancelled (here : d.threads[i]? = some (.cancelled c)) :
    Sound { d.complete c (.error .ECANCELED) 0 with threads := d.threads.set i .done } := by
  have cancelling := sound.stage_of_cancelled here
  have completes : Completes d (d.complete c (.error .ECANCELED) 0) ⟨c, .error .ECANCELED, 0⟩ :=
    ⟨rfl, rfl, rfl, rfl, rfl, rfl, rfl, rfl, rfl, rfl⟩
  refine sound.of_moves here .cancelled trivial ?_ (completes.stages sound (by simp [cancelling]))
    (completes.logged sound.logged (by simp [cancelling]) (sound.fits i _ here) rfl fun _ => rfl)
    (balance rfl (fun _ _ => rfl) ?_) (balance rfl ?_ ?_) (by simp [Thread.revokes])
  · intro j u other there
    have fits := sound.fits j u there
    by_cases custody : ∃ b, u.custody = some (b, c)
    · obtain ⟨b, custody⟩ := custody
      refine fits.rearm custody (by simp [cancelling]) (fun _ => id) rfl rfl rfl rfl rfl
        rfl ?_
      rintro r - - (⟨armed, -⟩ | ⟨kind, -, missing⟩)
      · cases cancelling.symm.trans armed
      · exact .inr ⟨kind, .inr (update_self ..), missing⟩
    · refine fits.frame le_rfl (fun _ => id) ?_ (fun _ _ => rfl) ?_ (fun _ _ => .inr rfl)
      · intro c' cmd
        have this := sound.ne_of_cancelled here (decide_eq_true rfl) there other
          (by simp [cancelling]) (by simp [cancelling]) custody cmd
        exact ⟨rfl, rfl, update_of_ne this _ _⟩
      · rintro c' r rfl
        exact fits.2
  · simp [cancelling, Thread.answers]
  · exact fun c' this => (if_neg (Ne.symm this)).symm
  · simp [cancelling, Thread.cancels]

theorem cancel (here : d.threads[i]? = some (.cancel c)) (kernel : d.own (d.pdu c) ≠ none) :
    Sound { ((d.setOp (d.pdu c) { d.ops (d.pdu c) with ioucmd := none }).record c
        .cancelled).setStage c .cancelling with
      threads := d.threads.set i (.cancelled c) } := by
  obtain ⟨kind, queued, free | ⟨own, armed⟩⟩ := sound.fits i _ here
  · exact absurd free kernel
  have slots : ∀ b' ≠ d.pdu c, (d.setOp (d.pdu c)
      { d.ops (d.pdu c) with ioucmd := none }).ops b' = d.ops b' :=
    fun b' this => update_of_ne this _ _
  have slot : (d.setOp (d.pdu c) { d.ops (d.pdu c) with ioucmd := none }).ops (d.pdu c) =
      { d.ops (d.pdu c) with ioucmd := none } := update_self ..
  refine sound.of_moves here (.cancel kernel) mem_cons_self ?_ ?_ ?_
    (balance rfl (fun _ _ => rfl) ?_) (balance rfl ?_ ?_) (fun _ => le_rfl)
  · intro j u other there
    have fits := sound.fits j u there
    by_cases custody : ∃ b, u.custody = some (b, c)
    · obtain ⟨b, custody⟩ := custody
      obtain rfl := sound.stages.injective _ _ c (sound.owned.owner j u b c there custody).1 own
      have done := congrArg Slot.done slot
      have len := congrArg Slot.len slot
      have res := congrArg Slot.res slot
      have stream := congrArg Slot.streamId slot
      refine fits.rearm custody queued (fun _ member => mem_cons_of_mem _ member) rfl rfl done
        len res stream ?_
      intro r request index _
      refine .inr ⟨by rw [← request]; exact kind, .inl (update_self ..), ?_⟩
      rw [index]
      exact congrArg Slot.ioucmd slot
    · refine fits.frame le_rfl (fun _ member => mem_cons_of_mem _ member) ?_ ?_ ?_
        (fun _ _ => .inr rfl)
      · intro c' cmd
        have this := sound.ne_of_cancelled here (decide_eq_true rfl) there other queued
          (by simp [armed]) custody cmd
        exact ⟨rfl, rfl, update_of_ne this _ _⟩
      · intro b' reads
        refine slots b' ?_
        rintro rfl
        rcases fits.reads_cases reads with ⟨c', held⟩ | ⟨c', answers, same⟩
        · have owner := (sound.owned.owner j u _ c' there held).1
          cases owner.symm.trans own
          exact custody ⟨_, held⟩
        · have finishing := sound.stage_of_answers there answers
          rcases (sound.stages.each c').kept (.inr finishing) with free | owner
          · rw [same] at free
            exact kernel free
          · rw [same] at owner
            cases owner.symm.trans own
            cases finishing.symm.trans armed
      · rintro c' r rfl
        exact fits.2
  · refine sound.stages.of_change (b := 0) (sound.known own) rfl rfl (fun _ _ => rfl) ?_
      (fun _ _ => rfl) (.inl rfl) ⟨?_, fun _ => .inr own, ?_⟩
    · exact fun c' this => update_of_ne this _ _
    · simp [Device.setStage]
    · exact fun listed => ⟨kind, by simp [Device.setStage], by simp [Device.setStage]⟩
  · refine sound.logged.of_stage rfl rfl (fun _ member => mem_cons_of_mem _ member) rfl ?_
    intro c'
    rcases eq_or_ne c' c with rfl | this
    · simp [Device.setStage, armed]
    · simp [Device.setStage, update_of_ne this, Device.record, Device.setOp, Device.touch]
  · simp [armed, Thread.answers]
  · exact fun c' this => if_neg (Ne.symm this)
  · simp [armed, Thread.cancels]

end

end Sound

def Device.settled (d : Device) (b : Nat) : Bool :=
  (List.range d.next).all (fun c =>
      d.stage c == .idle || d.pdu c != b || d.cqes.any (fun q => q.cmd == c)) &&
    d.threads.all (fun t => match t with
      | .cancel c => d.pdu c != b
      | _ => true)

def fresh (d : Device) : Event → Bool
  | .unregister => false
  | .act i _ => match d.threads[i]? with
    | some (.claim _ r) => (d.own r.bufIndex).isSome || d.settled r.bufIndex
    | _ => true
  | _ => true

namespace Sound

section

variable (sound : Sound d)
include sound

theorem answered_of_settled (settled : d.settled b = true)
    (queued : d.stage c ≠ .idle) (index : d.pdu c = b) : d.stage c = .answered := by
  have known := sound.known_of_stage queued
  simp only [Device.settled, and_eq_true, List.all_eq_true, mem_range] at settled
  have answered : ∃ q ∈ d.cqes, q.cmd = c := by simpa [queued, index] using settled.1 c known
  obtain ⟨q, member, rfl⟩ := answered
  exact sound.answered_of_cqe member

theorem moves (here : d.threads[i]? = some t) (moves : Moves d t d' t')
    (fresh : ∀ c r, t = .claim c r → d.own r.bufIndex = none → d.settled r.bufIndex = true) :
    Sound { d' with threads := d.threads.set i t' } := by
  have fits := sound.fits i t here
  have moved := moves
  cases moves with
  | enter free registered bound => exact sound.enter here free registered bound
  | claim free =>
    have settled := fresh _ _ rfl free
    refine sound.claim here free (fun c' => sound.answered_of_settled settled) ?_
    simp only [Device.settled, and_eq_true, List.all_eq_true] at settled
    intro c' member
    simpa using settled.2 _ member
  | fillSend send =>
    obtain ⟨begun, filled, slot⟩ := Begun.fillOp fits ⟨.send, some _, _, _, .ok 0⟩ send.symm rfl
    refine sound.fill here moved (.inl ⟨begun, filled, ?_, send⟩) fun _ => ⟨rfl, rfl⟩
    rw [slot]
  | fillRecv recv =>
    obtain ⟨begun, filled, slot⟩ := Begun.fillOp fits ⟨.recv, some _, _, 0, .ok 0⟩ recv.symm rfl
    refine sound.fill here moved ⟨begun, filled, ?_, recv⟩ fun _ => ⟨rfl, rfl⟩
    rw [slot]
  | mark => exact sound.mark here
  | postSend send => exact sound.postSend here send
  | release => exact sound.release here
  | refuse found => exact sound.refuse here found
  | refuseSkip missing => exact sound.refuseSkip here missing
  | sendStore => exact sound.sendStore here
  | recvStore => exact sound.recvStore here
  | sendRelease => exact sound.sendRelease here
  | recvRelease found => exact sound.recvRelease here found
  | recvSkip missing => exact sound.recvSkip here missing
  | cancel kernel => exact sound.cancel here kernel
  | cancelled => exact sound.cancelled here
  | crash missing =>
    obtain ⟨-, -, -, -, ioucmd⟩ := fits
    cases missing.symm.trans ioucmd
  | schedule found =>
    obtain ⟨filled, kind, outcome, res, ioucmd⟩ := fits
    cases found.symm.trans ioucmd
    refine sound.same here moved (.lock d ..) ((Same.lock d ..).fits ?_)
      fun _ => ⟨rfl, rfl, le_rfl⟩
    exact filled.task kind outcome (by simpa [Outcome.res, kind] using res) nofun
  | sent done | received done =>
    have same := Same.record d
    refine sound.same here moved (same _ _) ⟨(same _ _).held fits, ?_, mem_cons_self⟩
      fun _ => ⟨rfl, rfl, le_rfl⟩
    exact (Held.toFilled fits).done.symm.trans done
  | unready =>
    exact sound.same here moved (.lock d ..) fits fun _ => ⟨rfl, rfl, le_rfl⟩
  | postRecv recv =>
    rcases fits with ⟨-, -, -, send⟩ | ⟨held, -⟩
    · cases send.symm.trans recv
    · exact sound.same here moved (.lock d ..) ((Same.lock d ..).held held)
        fun _ => ⟨rfl, rfl, le_rfl⟩
  | failSend send =>
    rcases fits with ⟨begun, -⟩ | ⟨-, recv⟩
    · exact sound.same here moved (.lock d ..) begun fun _ => ⟨rfl, rfl, le_rfl⟩
    · cases send.symm.trans recv
  | failRecv recv =>
    rcases fits with ⟨-, -, -, send⟩ | held
    · cases send.symm.trans recv
    · exact sound.same here moved (.lock d ..) held fun _ => ⟨rfl, rfl, le_rfl⟩
  | @refused c e =>
    exact sound.answer here (q := ⟨c, .error e, 0⟩) moved (fun _ => rfl)
      (fun _ => rfl) ⟨rfl, rfl, rfl, rfl, rfl, rfl, rfl, rfl, rfl, rfl⟩ fits rfl fun _ => rfl
  | @sendTask c =>
    obtain ⟨kind, index, w, outcome, res, -⟩ := fits
    exact sound.answer here (q := ⟨c, (d.ops (d.pdu c)).res, 0⟩) moved (fun _ => rfl) (fun _ => rfl)
      ⟨rfl, rfl, rfl, rfl, rfl, rfl, rfl, rfl, rfl, rfl⟩ outcome res
      (fun recv => nomatch kind.symm.trans recv)
  | @recvTask c =>
    obtain ⟨kind, index, w, outcome, res, stream⟩ := fits
    refine sound.answer here (q := ⟨c, (d.ops (d.pdu c)).res,
      res2 (d.pdu c) (d.ops (d.pdu c)).streamId⟩) moved (fun _ => rfl) (fun _ => rfl) ⟨rfl, rfl,
      rfl, rfl, rfl, rfl, rfl, rfl, rfl, rfl⟩ outcome res ?_
    exact fun _ => by rw [stream rfl, index]; rfl
  | reject | busy | unrefused | cancelLate | unregister | unregistered | unregisterBusy
  | unregisterCheck | poolRelease =>
    exact sound.same here moved (.lock d ..) trivial fun _ => ⟨rfl, rfl, Nat.zero_le _⟩

theorem spawn (fits : Fits d t) (custody : t.custody = none)
    (outside : t.locks = 0) (answers : ∀ c, t.answers c = 0) (cancels : ∀ c, t.cancels c = 0)
    (alone : ∀ c, t.revokes c = true → ∀ u ∈ d.threads, u.revokes c = false) :
    Sound { d with threads := d.threads ++ [t] } where
  owned := sound.owned.spawn custody outside (by rintro c r rfl; cases outside)
  fits j u there := by
    have before : Fits d u := by
      rcases getElem?_spawn_cases there with rfl | there
      · exact fits
      · exact sound.fits j u there
    exact before.frame le_rfl (fun _ => id) (fun _ _ => ⟨rfl, rfl, rfl⟩)
      (fun _ _ => rfl) (fun c r same => by subst same; exact before.2) (fun _ _ => .inr rfl)
  stages := { sound.stages with each := fun c => { sound.stages.each c with } }
  logged := { sound.logged with }
  answers c := by
    change ((d.threads ++ [t]).map (Thread.answers · c)).sum =
      if d.stage c = .finishing then 1 else 0
    rw [sum_spawn, answers]
    exact sound.answers c
  cancels c := by
    change ((d.threads ++ [t]).map (Thread.cancels · c)).sum =
      if d.stage c = .cancelling then 1 else 0
    rw [sum_spawn, cancels]
    exact sound.cancels c
  serial c := by
    rw [sum_spawn]
    cases revokes : t.revokes c with
    | false => exact sound.serial c
    | true =>
      have others : (d.threads.map (fun t => (t.revokes c).toNat)).sum = 0 := by
        refine sum_eq_zero fun n member => ?_
        obtain ⟨u, there, rfl⟩ := mem_map.mp member
        rw [alone c revokes u there, toNat_false]
      rw [others]
      exact Nat.le_refl 1

theorem fits_cancel (listed : d.cancelable c = true)
    (alone : ∀ u ∈ d.threads, u.revokes c = false) : Fits d (.cancel c) := by
  obtain ⟨kind, queued, unanswered⟩ := (sound.stages.each c).cancelable listed
  refine ⟨kind, queued, ?_⟩
  cases stage : d.stage c with
  | idle => exact absurd stage queued
  | answered => exact absurd stage unanswered
  | armed => exact .inr ⟨(sound.stages.each c).armed stage, rfl⟩
  | finishing =>
    refine ((sound.stages.each c).kept (.inr stage)).imp_right fun own => ?_
    exact absurd stage (sound.not_finishing own)
  | cancelling =>
    obtain ⟨j, u, there, cancels⟩ := sound.exists_cancels stage
    have other := Thread.cancels_eq_zero (alone u (mem_of_getElem? there))
    omega

theorem step {e : Event} (fresh : fresh d e = true) (moved : step d e = some d') : Sound d' := by
  cases e with
  | submit r =>
    cases moved
    exact sound.spawn trivial rfl rfl (fun _ => rfl) (fun _ => rfl) nofun
  | unregister => cases fresh
  | cancel c =>
    simp only [Fast.step, ite_none_right_eq_some, Option.some.injEq, List.all_eq_true,
      not_eq_true'] at moved
    obtain ⟨⟨listed, alone⟩, rfl⟩ := moved
    refine sound.spawn (sound.fits_cancel listed alone) rfl rfl (fun _ => rfl) (fun _ => rfl) ?_
    intro c' revokes
    obtain rfl : c = c' := of_decide_eq_true revokes
    exact alone
  | act i ch =>
    obtain ⟨t, d'', t', here, moves, rfl⟩ := moves_of_step moved
    refine sound.moves here moves ?_
    rintro c r rfl free
    simpa [Fast.fresh, here, free] using fresh

theorem served (queued : d.stage c ≠ .idle) (unanswered : d.stage c ≠ .answered) :
    ∃ (j : Nat) (u : Thread), d.threads[j]? = some u ∧
      ((∃ b, u.custody = some (b, c)) ∨ 0 < u.answers c ∨ 0 < u.cancels c) := by
  cases stage : d.stage c with
  | idle => exact absurd stage queued
  | answered => exact absurd stage unanswered
  | armed =>
    obtain ⟨j, u, there, custody⟩ := sound.custodian ((sound.stages.each c).armed stage)
    exact ⟨j, u, there, .inl ⟨_, custody⟩⟩
  | finishing =>
    obtain ⟨j, u, there, answers⟩ := sound.exists_answers stage
    exact ⟨j, u, there, .inr (.inl answers)⟩
  | cancelling =>
    obtain ⟨j, u, there, cancels⟩ := sound.exists_cancels stage
    exact ⟨j, u, there, .inr (.inr cancels)⟩

end

end Sound

theorem Thread.acts_of_serves (ch : Choice)
    (serves : (∃ b, t.custody = some (b, c)) ∨ 0 < t.answers c ∨ 0 < t.cancels c) :
    (act d ch t).isSome = true := by
  cases t with
  | fill | post | sendSchedule => simp only [act]; split <;> rfl
  | refused e ic =>
    cases ic with
    | none => simp [Thread.custody, Thread.answers, Thread.cancels] at serves
    | some c' => rfl
  | enter | claim | cancel | unregister | unregisterCheck | poolRelease | done =>
    simp [Thread.custody, Thread.answers, Thread.cancels] at serves
  | _ => rfl

/-! ## Every run -/

def Thread.remaining : Thread → Nat
  | .enter _ => 10
  | .claim _ _ => 9
  | .fill _ _ => 8
  | .mark _ _ => 7
  | .post _ _ => 6
  | .flying _ _ => 5
  | .sendStore _ _ _ => 4
  | .sendRelease _ _ _ | .recvStore _ _ _ | .unregister => 3
  | .sendSchedule _ _ _ | .recvRelease _ _ _ | .refuse _ _ _ | .cancel _ | .unregisterCheck => 2
  | .release _ _ | .refused _ _ | .task _ _ | .cancelled _ | .poolRelease => 1
  | .done => 0

theorem remaining_lt {ch : Choice} (moved : step d (.act i ch) = some d') :
    (d'.threads.map Thread.remaining).sum < (d.threads.map Thread.remaining).sum := by
  obtain ⟨t, d'', t', here, moves, rfl⟩ := moves_of_step moved
  have total := sum_set Thread.remaining here t'
  have less : t'.remaining < t.remaining := by
    cases moves <;> simp [Thread.remaining]
  change ((d.threads.set i t').map Thread.remaining).sum < _
  omega

/-- No command has two answers, when nothing is left to do every queued command has one, and an
answer carries the result of its own command. -/
structure AnsweredOnce (d : Device) : Prop where
  once : ∀ c, d.cqes.countP (fun q => decide (q.cmd = c)) ≤ 1
  all : (∀ i ch, step d (.act i ch) = none) → ∀ c, d.stage c ≠ .idle →
    d.cqes.countP (fun q => decide (q.cmd = c)) = 1
  result : ∀ q ∈ d.cqes, ∃ o, (q.cmd, o) ∈ d.outcomes ∧ q.res = o.res (d.request q.cmd)
  alive : d.crashed = false

/-- The answer of a receive also names its buffer and the stream of the frame; that of a send has
no second word. -/
structure Answered (d : Device) : Prop extends AnsweredOnce d where
  named : ∀ q ∈ d.cqes, (d.request q.cmd).kind = .recv → ∃ o, (q.cmd, o) ∈ d.outcomes ∧
    q.res = o.res (d.request q.cmd) ∧ q.res2 % 2 ^ 32 = (d.request q.cmd).bufIndex ∧
      q.res2 / 2 ^ 32 = o.streamId

theorem Sound.answeredOnce (sound : Sound d) : AnsweredOnce d where
  once c := by
    rw [sound.logged.once]
    split <;> omega
  all quiet c queued := by
    rw [sound.logged.once, if_pos]
    by_contra unanswered
    obtain ⟨i, t, here, serves⟩ := sound.served queued unanswered
    let ch : Choice := ⟨true, Errno.EIO, .error⟩
    have stuck := quiet i ch
    simp only [Fast.step, here, map_eq_none_iff] at stuck
    have acts := Thread.acts_of_serves (d := d) ch serves
    rw [stuck] at acts
    cases acts
  result q member := (sound.logged.own q member).imp fun _ own => ⟨own.1, own.2.1⟩
  alive := sound.logged.alive

/-! ## Which buffer an answer names -/

/-- A receive that is refused, or cancelled while it is posted, is one of buffer 0. Both paths
answer with 0 for the second word. -/
def zeroed (d : Device) : Event → Bool
  | .act i _ => match d.threads[i]? with
    | some (.refuse _ r _) => r.bufIndex == 0
    | some (.cancel c) => (d.own (d.pdu c)).isNone || (d.request c).bufIndex == 0
    | _ => true
  | .submit _ | .cancel _ | .unregister => true

structure Named (d : Device) : Prop where
  size : d.count ≤ 2 ^ 32
  bounded : ∀ c < d.next, (d.request c).bufIndex < d.count
  outcomes : ∀ x ∈ d.outcomes, x.1 < d.next ∧ (x.2.early = true → (d.request x.1).bufIndex = 0)

section

variable (named : Named d)
include named

theorem Named.record {o : Outcome} (known : c < d.next)
    (zero : o.early = true → (d.request c).bufIndex = 0) :
    Named { d with outcomes := (c, o) :: d.outcomes } :=
  ⟨named.size, named.bounded, forall_mem_cons.mpr ⟨⟨known, zero⟩, named.outcomes⟩⟩

theorem Named.enter (bound : r.bufIndex < d.count) :
    Named { d with next := d.next + 1, request := update d.request d.next r } := by
  refine ⟨named.size, fun c known => ?_, fun x member => ?_⟩
  · rcases Nat.lt_succ_iff_lt_or_eq.mp known with old | rfl
    · simpa only [update_of_ne (Nat.ne_of_lt old)] using named.bounded c old
    · simpa only [update_self] using bound
  · obtain ⟨known, zero⟩ := named.outcomes x member
    refine ⟨Nat.lt_succ_of_lt known, ?_⟩
    simpa only [update_of_ne (Nat.ne_of_lt known)] using zero

theorem Named.moves (sound : Sound d) (here : d.threads[i]? = some t) (moves : Moves d t d' t')
    (refuses : ∀ c r e, t = .refuse c r e → r.bufIndex = 0)
    (cancels : ∀ c, t = .cancel c → d.own (d.pdu c) ≠ none → (d.request c).bufIndex = 0) :
    Named { d' with threads := d.threads.set i t' } := by
  have fits := sound.fits i t here
  cases moves with
  | enter free registered bound =>
    obtain ⟨size, bounded, outcomes⟩ := named.enter bound
    exact ⟨size, bounded, outcomes⟩
  | @refuse c _ r e | @refuseSkip c r e =>
    have zero : (d.request c).bufIndex = 0 := by rw [fits.1.request]; exact refuses c r e rfl
    obtain ⟨size, bounded, outcomes⟩ :=
      named.record (o := .refused e) (sound.cmd_known here rfl) fun _ => zero
    exact ⟨size, bounded, outcomes⟩
  | @sent c _ w | @received c _ w =>
    obtain ⟨size, bounded, outcomes⟩ := named.record (o := .wc w) (sound.cmd_known here rfl) nofun
    exact ⟨size, bounded, outcomes⟩
  | @cancel c kernel =>
    obtain ⟨size, bounded, outcomes⟩ := named.record (o := .cancelled) (sound.cmd_known here rfl)
      fun _ => cancels c rfl kernel
    exact ⟨size, bounded, outcomes⟩
  | _ => exact { named with }

theorem Named.step (sound : Sound d) {e : Event} (zeroed : zeroed d e = true)
    (moved : step d e = some d') : Named d' := by
  cases e with
  | submit | unregister =>
    cases moved
    exact { named with }
  | cancel c =>
    obtain ⟨-, rfl⟩ := guarded moved
    exact { named with }
  | act i ch =>
    obtain ⟨t, d'', t', here, moves, rfl⟩ := moves_of_step moved
    simp only [Fast.zeroed, here] at zeroed
    refine named.moves sound here moves ?_ ?_
    · rintro c r e rfl
      simpa using zeroed
    · rintro c rfl kernel
      simpa [kernel] using zeroed

theorem Named.answered (sound : Sound d) : Answered d where
  toAnsweredOnce := sound.answeredOnce
  named q member recv := by
    obtain ⟨o, outcome, res, posted⟩ := sound.logged.own q member
    have queued : d.stage q.cmd ≠ .idle := by simp [sound.answered_of_cqe member]
    have index := (named.bounded q.cmd (sound.known_of_stage queued)).trans_le named.size
    refine ⟨o, outcome, res, ?_⟩
    have zero := (named.outcomes _ outcome).2
    rw [posted recv]
    cases o with
    | wc w => exact res2_parts index w.recvRes.2
    | refused | cancelled => simp [Outcome.early, Outcome.streamId, zero rfl]

end

/-- So it is in every run in which a buffer is submitted again only after the commands on it are
settled, and every answer names its buffer if no receive of a buffer other than 0 is refused or
cancelled. -/
theorem answered_throughout {count : Nat} (size : count ≤ 2 ^ 32) {events : List Event}
    (admitted : Along step (fun d e => fresh d e = true) (.init count) events) :
    Throughout step AnsweredOnce (.init count) events ∧
      (Along step (fun d e => zeroed d e = true) (.init count) events →
        Throughout step Answered (.init count) events) := by
  refine ⟨throughout_of_along (fun _ _ _ sound admitted moved => sound.step admitted moved)
    (fun _ sound => sound.answeredOnce) (sound_init count) admitted, fun zeroed => ?_⟩
  have start : Named (.init count) := ⟨size, nofun, nofun⟩
  exact throughout_of_along (I := fun d => Sound d ∧ Named d)
    (fun _ _ _ both admitted moved =>
      ⟨both.1.step admitted.1 moved, both.2.step both.1 admitted.2 moved⟩)
    (fun _ both => both.2.answered both.1) ⟨sound_init count, start⟩ (admitted.and zeroed)

def threeCommands : List Event :=
  let ok : Choice := ⟨true, Errno.EIO, .success 0 fun _ => 0⟩
  let flushed : Choice := ⟨true, Errno.EIO, .error⟩
  Event.submit ⟨.send, 0, 4, 1⟩ :: List.replicate 9 (Event.act 0 ok) ++
    Event.submit ⟨.recv, 0, 4, 0⟩ :: List.replicate 5 (Event.act 1 ok) ++
    Event.cancel 1 :: List.replicate 2 (Event.act 2 ok) ++ List.replicate 3 (Event.act 1 flushed) ++
    Event.submit ⟨.recv, 1, 4, 0⟩ :: List.replicate 9 (Event.act 3 flushed)

theorem answered_throughout_three : Throughout step Answered (.init 2) threeCommands ∧
    ∃ d, run step (.init 2) threeCommands = some d ∧
      d.cqes = [⟨0, .ok 4, 0⟩, ⟨1, .error .ECANCELED, 0⟩, ⟨2, .error .ECONNRESET, res2 1 0⟩] := by
  refine ⟨(answered_throughout (by decide) ?_).2 ?_, ?_⟩
  all_goals decide +kernel

def refilledSlot : List Event :=
  let ok : Choice := ⟨true, Errno.EIO, .success 0 fun _ => 0⟩
  Event.submit ⟨.send, 0, 4, 1⟩ :: List.replicate 7 (Event.act 0 ok) ++
    Event.submit ⟨.send, 0, 8, 1⟩ :: List.replicate 3 (Event.act 1 ok) ++
    List.replicate 2 (Event.act 0 ok) ++ List.replicate 6 (Event.act 1 ok)

/-- The handler then finds the second command there: that one is answered twice, the first
never. -/
theorem second_send_answered_twice : ∃ d, run step (.init 1) refilledSlot = some d ∧
    d.cqes = [⟨1, .ok 0, 0⟩, ⟨1, .ok 8, 0⟩] ∧ d.stage 0 = .finishing ∧
    (∀ t ∈ d.threads, t.remaining = 0) ∧ ¬ Answered d := by
  obtain ⟨d, reached, cqes, stage, ended⟩ : ∃ d, run step (.init 1) refilledSlot = some d ∧
      d.cqes = [⟨1, .ok 0, 0⟩, ⟨1, .ok 8, 0⟩] ∧ d.stage 0 = .finishing ∧
      ∀ t ∈ d.threads, t.remaining = 0 := by decide +kernel
  refine ⟨d, reached, cqes, stage, ended, fun answered => ?_⟩
  have once := answered.once 1
  simp [cqes] at once

end Urp.Fast
