import Urp.Fast.Device
import Urp.Lib.Pool

/-!
# Pools and the endpoint they are bound to
-/

namespace Urp.Fast.Teardown

open Urp.Lib Urp.Lib.Pool List Bool

/-! ## The state -/

inductive Work where
  | regMr (orphan : Bool)
  | data (k : Kind) (bufIndex : Nat)
deriving DecidableEq, Repr

structure Wr where
  no : Nat
  file : Nat
  qp : Nat
  work : Work
deriving DecidableEq, Repr

inductive Pc where
  | idle
  -- `urp_cmd_map_pool` and `urp_cmd_reg_mr_sync`
  | check
  | alloc
  | post
  | wait (status : Option Bool)
  | dereg
  -- a registered pool, and `urp_cmd_do_send` or `urp_cmd_do_recv` on it
  | bound
  | claimed (k : Kind) (bufIndex : Nat)
  -- `urp_cmd_pool_release`; the drain of a queue waits for what was posted before it began
  | drain (qp : Nat)
  | drainWait (qp posted : Nat)
  | free
deriving DecidableEq, Repr

/-- A file of the device. `own` are the buffers of its pool that the kernel has. -/
structure File where
  pc : Pc
  own : List Nat
deriving DecidableEq, Repr

inductive Cleanup where
  | none
  | drainQp (qp : Nat)
  | drainWait (qp posted : Nat)
  | destroyQp (qp : Nat)
  | clearQp (qp : Nat)
  | deallocPd
  | stopped
deriving DecidableEq, Repr

/-- `early` notes that a queue pair or the protection domain went while a pool still used them. -/
structure State where
  numQps : Nat
  qp : Nat → Bool
  pd : Bool
  cleanup : Cleanup
  files : List File
  wrs : List Wr
  next : Nat
  early : Bool

def State.init (numQps : Nat) (qp : Nat → Bool) : State where
  numQps := numQps
  qp := qp
  pd := true
  cleanup := .none
  files := []
  wrs := []
  next := 0
  early := false

def Pc.hasMr : Pc → Bool
  | .idle | .check | .alloc => false
  | _ => true

def Work.isRecv : Work → Bool
  | .data .recv _ => true
  | _ => false

def Work.isSend : Work → Bool
  | .data .send _ => true
  | _ => false

/-- `rw->mr` is set for the registration of file `f`. -/
def Wr.giveUp (f : Nat) (w : Wr) : Wr :=
  if w.file = f ∧ w.work = .regMr false then { w with work := .regMr true } else w

namespace State

def regions (s : State) : Bool :=
  s.files.any (·.pc.hasMr) || s.wrs.any (fun w => w.work == .regMr true)

def namesBuffer (s : State) : Bool :=
  s.wrs.any fun w => match w.work with
    | .data _ _ => true
    | .regMr _ => false

def tear (s : State) : State := { s with early := s.early || s.regions || s.namesBuffer }

def setFile (s : State) (f : Nat) (file : File) : State := { s with files := s.files.set f file }

def post (s : State) (f qp : Nat) (work : Work) : State :=
  { s with wrs := s.wrs ++ [⟨s.next, f, qp, work⟩], next := s.next + 1 }

def abandon (s : State) (f : Nat) : State := { s with wrs := s.wrs.map (Wr.giveUp f) }

end State

structure Choice where
  ok : Bool
  qp : Nat

inductive Event where
  | openFile
  | register (f : Nat)
  | submit (f : Nat) (k : Kind) (bufIndex : Nat)
  | unregister (f : Nat)
  | close (f : Nat)
  | giveUp (f : Nat)
  | act (f : Nat) (ch : Choice)
  | complete (j : Nat) (ok : Bool)
  | startCleanup
  | cleanup

/-! ## The steps -/

/-- One step of the command that runs on file `f`, or `none` while it waits. -/
def act (s : State) (f : Nat) (file : File) (ch : Choice) : Option State :=
  let goto (pc : Pc) (s : State) : State := s.setFile f { file with pc := pc }
  match file.pc with
  | .idle | .bound => none
  | .check => some (goto (if s.pd && s.qp 0 && decide (0 < s.numQps) then .alloc else .idle) s)
  | .alloc => some (goto (if ch.ok then .post else .idle) s)
  | .post =>
    some (if ch.ok then goto (.wait none) (s.post f 0 (.regMr false)) else goto .dereg s)
  | .wait none => none
  -- Without memory for the bitmap or the slots the pool is released at once.
  | .wait (some true) => some (goto (if ch.ok then .bound else .free) s)
  | .wait (some false) => some (goto .dereg s)
  | .dereg => some (goto .idle s)
  | .claimed k b =>
    if ch.ok ∧ ch.qp < s.numQps ∧ s.qp ch.qp then some (goto .bound (s.post f ch.qp (.data k b)))
    else some (s.setFile f { pc := .bound, own := file.own.erase b })
  | .drain qp =>
    if qp < s.numQps then
      some (goto (if s.qp qp then .drainWait qp s.next else .drain (qp + 1)) s)
    else some (goto .free s)
  | .drainWait qp posted =>
    if s.wrs.any (fun w => w.qp == qp && w.work.isRecv && decide (w.no < posted)) then none
    else some (goto (.drain (qp + 1)) s)
  | .free => some (s.setFile f { pc := .idle, own := [] })

def completed (s : State) (w : Wr) (ok : Bool) : State :=
  match s.files[w.file]? with
  | none => s
  | some file => match w.work with
    | .regMr true => s
    | .regMr false =>
      if file.pc = .wait none then s.setFile w.file { file with pc := .wait (some ok) } else s
    | .data _ b => s.setFile w.file { file with own := file.own.erase b }

/-- The next statement of `urp_rdma_cleanup`. -/
def cleanupStep (s : State) : Option State :=
  match s.cleanup with
  | .none | .stopped => none
  | .drainQp i =>
    if i < s.numQps then
      some { s with cleanup := if s.qp i then .drainWait i s.next else .drainQp (i + 1) }
    else some { s with cleanup := .deallocPd }
  | .drainWait i posted =>
    if s.wrs.any (fun w => w.qp == i && decide (w.no < posted)) then none
    else some { s with cleanup := .destroyQp i }
  | .destroyQp i =>
    some { s.tear with cleanup := .clearQp i, wrs := s.wrs.filter (fun w => w.qp != i) }
  | .clearQp i => some { s with qp := Function.update s.qp i false, cleanup := .drainQp (i + 1) }
  | .deallocPd => some { s.tear with pd := false, cleanup := .stopped }

/-- A file is closed once no SEND on it is left unanswered, since io_uring holds it until then. -/
def step (s : State) : Event → Option State
  | .openFile => some { s with files := s.files ++ [⟨.idle, []⟩] }
  | .register f => match s.files[f]? with
    | some file => if file.pc = .idle then some (s.setFile f { file with pc := .check }) else none
    | none => none
  | .submit f k b => match s.files[f]? with
    | some file =>
      if file.pc = .bound ∧ b ∉ file.own then some (s.setFile f ⟨.claimed k b, b :: file.own⟩)
      else none
    | none => none
  | .unregister f => match s.files[f]? with
    | some file => if file.pc = .bound ∧ file.own = [] then some (s.setFile f ⟨.free, []⟩) else none
    | none => none
  | .close f => match s.files[f]? with
    | some file =>
      if file.pc = .bound ∧ s.wrs.all (fun w => !(w.file == f && w.work.isSend)) then
        some (s.setFile f { file with pc := if file.own = [] then .free else .drain 0 })
      else none
    | none => none
  | .giveUp f => match s.files[f]? with
    | some file => match file.pc with
      | .wait _ => some ((s.abandon f).setFile f { file with pc := .idle })
      | _ => none
    | none => none
  | .act f ch => s.files[f]?.bind (act s f · ch)
  | .complete j ok => s.wrs[j]?.map fun w => completed { s with wrs := s.wrs.eraseIdx j } w ok
  | .startCleanup => if s.cleanup = .none then some { s with cleanup := .drainQp 0 } else none
  | .cleanup => cleanupStep s

/-! ## What the pools have posted -/

def Work.token : Work → Option (Option Nat)
  | .regMr true => none
  | .regMr false => some none
  | .data _ b => some (some b)

def Wr.isFor (f : Nat) (t : Option Nat) (w : Wr) : Bool := w.file == f && w.work.token == some t

def File.has (file : File) : Option Nat → Nat
  | none => if file.pc = .wait none then 1 else 0
  | some b => file.own.count b

def Pc.claims : Pc → Option Nat → Nat
  | .claimed _ b, t => if t = some b then 1 else 0
  | _, _ => 0

def Pc.fits (pc : Pc) (w : Wr) : Prop :=
  match w.work with
  | .regMr _ => w.qp = 0
  | .data k _ => match pc with
    | .bound | .claimed _ _ => True
    | .drain q => k = .recv ∧ q ≤ w.qp
    | .drainWait q posted => k = .recv ∧ q ≤ w.qp ∧ w.no < posted
    | _ => False

def Pc.outside : Pc → Bool
  | .idle | .check => true
  | _ => false

def State.isUp (s : State) : Bool := s.pd && s.qp 0 && decide (0 < s.numQps)

namespace Cleanup

def onFirst : Cleanup → Bool
  | .drainWait 0 _ | .destroyQp 0 | .clearQp 0 => true
  | _ => false

def pastFirst : Cleanup → Bool
  | .drainQp (_ + 1) | .drainWait (_ + 1) _ | .destroyQp (_ + 1) | .clearQp (_ + 1) | .deallocPd
  | .stopped => true
  | _ => false

end Cleanup

def State.Sealed (s : State) : Prop := s.isUp = false ∨ s.cleanup.onFirst = true

structure Placed (s : State) (w : Wr) : Prop where
  known : w.no < s.next
  bound : w.qp < s.numQps
  alive : s.qp w.qp = true

structure Sound (s : State) : Prop where
  tokens : ∀ (f : Nat) file, s.files[f]? = some file → ∀ t,
    s.wrs.countP (Wr.isFor f t) + file.pc.claims t = file.has t
  placed : ∀ w ∈ s.wrs, Placed s w
  fits : ∀ w ∈ s.wrs, ∃ file, s.files[w.file]? = some file ∧ file.pc.fits w
  outside : s.Sealed → ∀ file ∈ s.files, file.pc.outside = true
  unposted : s.isUp = false ∨ s.cleanup = .destroyQp 0 ∨ s.cleanup = .clearQp 0 → s.wrs = []
  awaited : ∀ posted, s.cleanup = .drainWait 0 posted → ∀ w ∈ s.wrs, w.no < posted
  down : s.cleanup.pastFirst = true → s.isUp = false
  inTime : s.early = false

theorem sound_init (numQps : Nat) (qp : Nat → Bool) : Sound (.init numQps qp) where
  tokens f file here := by simp [State.init] at here
  placed w posted := by simp [State.init] at posted
  fits w posted := by simp [State.init] at posted
  outside _ file member := by simp [State.init] at member
  unposted _ := rfl
  awaited posted phase := by cases phase
  down phase := by cases phase
  inTime := rfl

variable {s s' : State} {f : Nat} {file file' : File} {w : Wr}

theorem fits_of_data {pc pc' : Pc} (fits : pc.fits w)
    (data : ∀ k b, w.work = .data k b → pc'.fits w) : pc'.fits w := by
  cases work : w.work with
  | regMr orphan => simpa [Pc.fits, work] using fits
  | data k b => exact data k b work

def Pc.plain : Pc → Bool
  | .wait none | .claimed _ _ => false
  | _ => true

theorem claims_of_plain {pc : Pc} (plain : pc.plain = true) (t : Option Nat) : pc.claims t = 0 := by
  cases pc with
  | claimed k b => cases plain
  | _ => rfl

theorem has_none_of_plain {pc : Pc} (plain : pc.plain = true) (own : List Nat) :
    (File.mk pc own).has none = 0 := by
  refine if_neg ?_
  rintro rfl
  cases plain

theorem Wr.giveUp_kept (f : Nat) (w : Wr) :
    (w.giveUp f).file = w.file ∧ (w.giveUp f).no = w.no ∧ (w.giveUp f).qp = w.qp := by
  unfold Wr.giveUp
  split <;> exact ⟨rfl, rfl, rfl⟩

namespace Sound

section

variable (sound : Sound s)
include sound

section

variable (here : s.files[f]? = some file)
include here

theorem unnamed (free : file.own = [])
    (posted : w ∈ s.wrs) (mine : w.file = f) (k : Kind) (b : Nat) : w.work ≠ .data k b := by
  intro work
  have total := sound.tokens f file here (some b)
  simp only [File.has, free, count_nil, Nat.add_eq_zero_iff, countP_eq_zero] at total
  exact total.1 w posted (by simp [Wr.isFor, mine, work, Work.token])

theorem of_file {wrs : List Wr} {next : Nat}
    (tokens : ∀ t, wrs.countP (Wr.isFor f t) + file'.pc.claims t = file'.has t)
    (others : ∀ g ≠ f, ∀ t, wrs.countP (Wr.isFor g t) = s.wrs.countP (Wr.isFor g t))
    (later : s.next ≤ next)
    (mine : ∀ w ∈ wrs, w.file = f → w.no < next ∧ w.qp < s.numQps ∧ s.qp w.qp = true ∧
      file'.pc.fits w)
    (kept : ∀ w ∈ wrs, w.file ≠ f → w ∈ s.wrs)
    (outside : s.Sealed → file'.pc.outside = true ∧ ∀ w ∈ wrs, ∃ w' ∈ s.wrs, w'.no = w.no) :
    Sound { s with files := s.files.set f file', wrs := wrs, next := next } where
  __ := sound
  tokens g file₁ there t := by
    rcases getElem?_set_cases here there with ⟨rfl, rfl⟩ | ⟨other, there⟩
    · exact tokens t
    · exact (congrArg (· + _) (others g other t)).trans (sound.tokens g file₁ there t)
  placed w posted := by
    by_cases same : w.file = f
    · obtain ⟨known, bound, alive, -⟩ := mine w posted same
      exact ⟨known, bound, alive⟩
    · have before := sound.placed w (kept w posted same)
      exact ⟨Nat.lt_of_lt_of_le before.known later, before.bound, before.alive⟩
  fits w posted := by
    by_cases same : w.file = f
    · refine ⟨file', ?_, (mine w posted same).2.2.2⟩
      rw [same, List.getElem?_set_self (List.getElem?_eq_some_iff.mp here).1]
    · obtain ⟨file₁, there, fits⟩ := sound.fits w (kept w posted same)
      refine ⟨file₁, ?_, fits⟩
      rw [List.getElem?_set_ne (Ne.symm same), there]
  outside closed file₁ member := by
    rcases mem_or_eq_of_mem_set member with old | rfl
    · exact sound.outside closed file₁ old
    · exact (outside closed).1
  unposted phase := by
    have closed : s.Sealed := by
      rcases phase with down | destroying | clearing
      · exact .inl down
      · exact .inr (by rw [show s.cleanup = _ from destroying]; rfl)
      · exact .inr (by rw [show s.cleanup = _ from clearing]; rfl)
    have before := sound.unposted phase
    refine eq_nil_iff_forall_not_mem.mpr fun w posted => ?_
    obtain ⟨w', old, -⟩ := (outside closed).2 w posted
    simp [before] at old
  awaited posted phase w member := by
    have closed : s.Sealed := .inr (by rw [show s.cleanup = _ from phase]; rfl)
    obtain ⟨w', old, same⟩ := (outside closed).2 w member
    exact same ▸ sound.awaited posted phase w' old

theorem goto (tokens : ∀ t, file'.has t + file.pc.claims t = file.has t + file'.pc.claims t)
    (fits : ∀ w ∈ s.wrs, w.file = f → file.pc.fits w → file'.pc.fits w)
    (outside : s.Sealed → file'.pc.outside = true) : Sound (s.setFile f file') := by
  refine sound.of_file here ?_ (fun _ _ _ => rfl) le_rfl ?_ (fun _ posted _ => posted)
    fun closed => ⟨outside closed, fun w posted => ⟨w, posted, rfl⟩⟩
  · intro t
    have before := sound.tokens f file here t
    have change := tokens t
    omega
  · intro w posted same
    have placed := sound.placed w posted
    obtain ⟨file₁, there, before⟩ := sound.fits w posted
    rw [same, here] at there
    cases there
    exact ⟨placed.known, placed.bound, placed.alive, fits w posted same before⟩

end

theorem opened : Sound { s with files := s.files ++ [⟨.idle, []⟩] } where
  __ := sound
  tokens f file here t := by
    by_cases old : f < s.files.length
    · rw [List.getElem?_append_left old] at here
      exact sound.tokens f file here t
    · obtain rfl : file = ⟨.idle, []⟩ := by
        rcases getElem?_spawn_cases here with new | there
        · exact new
        · exact absurd (List.getElem?_eq_some_iff.mp there).1 old
      have unposted : s.wrs.countP (Wr.isFor f t) = 0 := by
        refine countP_eq_zero.mpr fun w posted mine => ?_
        obtain ⟨file, there, -⟩ := sound.fits w posted
        simp only [Wr.isFor, and_eq_true, beq_iff_eq] at mine
        rw [mine.1] at there
        exact old (List.getElem?_eq_some_iff.mp there).1
      change s.wrs.countP (Wr.isFor f t) + 0 = _
      cases t with
      | none | some b => simpa [File.has] using unposted
  placed w posted := { sound.placed w posted with }
  fits w posted := by
    obtain ⟨file, there, fits⟩ := sound.fits w posted
    refine ⟨file, ?_, fits⟩
    rw [List.getElem?_append_left (List.getElem?_eq_some_iff.mp there).1, there]
  outside closed file member := by
    rcases mem_append.mp member with old | new
    · exact sound.outside closed file old
    · exact mem_singleton.mp new ▸ rfl

theorem orphan_of_outside (outside : ∀ file ∈ s.files, file.pc.outside = true)
    (posted : w ∈ s.wrs) : w.work = .regMr true ∧ w.qp = 0 := by
  obtain ⟨file, there, fits⟩ := sound.fits w posted
  have out := outside file (mem_of_getElem? there)
  have waiting := sound.tokens w.file file there none
  cases work : w.work with
  | data k b =>
    cases pc : file.pc with
    | idle | check => simp [Pc.fits, work, pc] at fits
    | _ => simp [pc, Pc.outside] at out
  | regMr orphan =>
    refine ⟨?_, by simpa [Pc.fits, work] using fits⟩
    cases orphan with
    | true => rfl
    | false =>
      have counted : 0 < s.wrs.countP (Wr.isFor w.file none) :=
        countP_pos_iff.mpr ⟨w, posted, by simp [Wr.isFor, work, Work.token]⟩
      have unwaiting : file.has none = 0 := by
        cases pc : file.pc with
        | idle | check => simp [File.has, pc]
        | _ => simp [pc, Pc.outside] at out
      omega

section

variable (here : s.files[f]? = some file)
include here

theorem unsealed (inside : file.pc.outside = false) : ¬ s.Sealed := by
  intro closed
  have out := sound.outside closed file (mem_of_getElem? here)
  cases inside.symm.trans out

theorem fits_of_mine (posted : w ∈ s.wrs) (mine : w.file = f) : file.pc.fits w := by
  obtain ⟨file₁, there, fits⟩ := sound.fits w posted
  rw [mine, here] at there
  exact Option.some.inj there ▸ fits

theorem posts {qp : Nat} {work : Work}
    (tokens : ∀ t, (if work.token = some t then 1 else 0) + file.has t + file'.pc.claims t =
      file'.has t + file.pc.claims t)
    (bound : qp < s.numQps) (alive : s.qp qp = true) (new : file'.pc.fits ⟨s.next, f, qp, work⟩)
    (fits : ∀ w ∈ s.wrs, w.file = f → file.pc.fits w → file'.pc.fits w) (unsealed : ¬ s.Sealed) :
    Sound ((s.post f qp work).setFile f file') := by
  refine sound.of_file here ?_ ?_ (Nat.le_succ _) ?_ ?_ (fun closed => absurd closed unsealed)
  · intro t
    have before := sound.tokens f file here t
    have change := tokens t
    have one : (if Wr.isFor f t ⟨s.next, f, qp, work⟩ = true then 1 else 0) =
        if work.token = some t then 1 else 0 := by simp [Wr.isFor]
    change (s.wrs ++ [_]).countP (Wr.isFor f t) + _ = _
    rw [countP_append, countP_singleton, one]
    omega
  · intro g other t
    change (s.wrs ++ [_]).countP (Wr.isFor g t) = _
    simp [countP_append, Wr.isFor, Ne.symm other]
  · intro w posted mine
    rcases mem_append.mp posted with old | last
    · have placed := sound.placed w old
      exact ⟨Nat.lt_succ_of_lt placed.known, placed.bound, placed.alive,
        fits w old mine (sound.fits_of_mine here old mine)⟩
    · obtain rfl := mem_singleton.mp last
      exact ⟨Nat.lt_succ_self _, bound, alive, new⟩
  · intro w posted other
    rcases mem_append.mp posted with old | last
    · exact old
    · obtain rfl := mem_singleton.mp last
      exact absurd rfl other

theorem abandons {status : Option Bool} (waiting : file.pc = .wait status) :
    Sound ((s.abandon f).setFile f { file with pc := .idle }) := by
  have counted : ∀ g t, (g ≠ f ∨ t ≠ none) →
      (s.wrs.map (Wr.giveUp f)).countP (Wr.isFor g t) = s.wrs.countP (Wr.isFor g t) := by
    intro g t other
    rw [countP_map]
    refine countP_congr fun w _ => ?_
    simp only [Function.comp_apply, Wr.giveUp]
    split
    · rename_i mine
      rcases other with other | other
      · simp [Wr.isFor, mine.1, Ne.symm other]
      · simp [Wr.isFor, mine.2, Work.token, Ne.symm other]
    · exact Iff.rfl
  refine sound.of_file here ?_ ?_ le_rfl ?_ ?_
    fun closed => ?_
  · intro t
    cases t with
    | none =>
      have gone : (s.wrs.map (Wr.giveUp f)).countP (Wr.isFor f none) = 0 := by
        refine countP_eq_zero.mpr fun w' posted mine => ?_
        obtain ⟨w, -, rfl⟩ := mem_map.mp posted
        simp only [Wr.isFor, and_eq_true, beq_iff_eq, (w.giveUp_kept f).1] at mine
        by_cases waiter : w.file = f ∧ w.work = .regMr false
        · simp [Wr.giveUp, waiter, Work.token] at mine
        · have work : w.work ≠ .regMr false := fun work => waiter ⟨mine.1, work⟩
          rw [show w.giveUp f = w from if_neg waiter] at mine
          cases kind : w.work with
          | data k b => simp [kind, Work.token] at mine
          | regMr orphan =>
            cases orphan with
            | true => simp [kind, Work.token] at mine
            | false => exact work kind
      exact (congrArg (· + 0) gone).trans (by simp [File.has])
    | some b =>
      have before := sound.tokens f file here (some b)
      rw [waiting] at before
      exact (congrArg (· + 0) (counted f (some b) (.inr (by simp)))).trans before
  · exact fun g other t => counted g t (.inl other)
  · intro w' posted mine
    obtain ⟨w, old, rfl⟩ := mem_map.mp posted
    have placed := sound.placed w old
    rw [(w.giveUp_kept f).1] at mine
    have fits := sound.fits_of_mine here old mine
    rw [(w.giveUp_kept f).2.1, (w.giveUp_kept f).2.2]
    refine ⟨placed.known, placed.bound, placed.alive, ?_⟩
    cases work : w.work with
    | data k b => simp [Pc.fits, work, waiting] at fits
    | regMr orphan =>
      have qp : w.qp = 0 := by simpa [Pc.fits, work] using fits
      cases orphan with
      | true => simpa [Pc.fits, Wr.giveUp, work] using qp
      | false => simpa [Pc.fits, Wr.giveUp, work, mine] using qp
  · intro w' posted other
    obtain ⟨w, old, rfl⟩ := mem_map.mp posted
    rw [(w.giveUp_kept f).1] at other
    rwa [show w.giveUp f = w from if_neg fun mine => other mine.1]
  · refine ⟨rfl, fun w' posted => ?_⟩
    obtain ⟨w, old, rfl⟩ := mem_map.mp posted
    exact ⟨w, old, (w.giveUp_kept f).2.1.symm⟩

end

theorem takes {j : Nat} (posted : s.wrs[j]? = some w)
    (here : s.files[w.file]? = some file)
    (tokens : ∀ t, file'.has t + (if w.work.token = some t then 1 else 0) + file.pc.claims t =
      file.has t + file'.pc.claims t)
    (fits : ∀ w', file.pc.fits w' → file'.pc.fits w')
    (outside : file.pc.outside = true → file'.pc.outside = true) :
    Sound { s with wrs := s.wrs.eraseIdx j, files := s.files.set w.file file' } := by
  obtain ⟨bound, at_j⟩ := List.getElem?_eq_some_iff.mp posted
  have perm := getElem_cons_eraseIdx_perm bound
  rw [at_j] at perm
  have counted : ∀ p : Wr → Bool, s.wrs.countP p =
      (s.wrs.eraseIdx j).countP p + if p w then 1 else 0 := by
    intro p
    rw [← perm.countP_eq, countP_cons]
  have member : ∀ w' ∈ s.wrs.eraseIdx j, w' ∈ s.wrs := fun w' => mem_of_mem_eraseIdx
  refine sound.of_file here ?_ ?_ le_rfl ?_ (fun w' there _ => member w' there) fun closed => ?_
  · intro t
    have before := sound.tokens w.file file here t
    have change := tokens t
    have one : s.wrs.countP (Wr.isFor w.file t) = (s.wrs.eraseIdx j).countP (Wr.isFor w.file t) +
        if w.work.token = some t then 1 else 0 := by
      simpa [Wr.isFor] using counted (Wr.isFor w.file t)
    omega
  · intro g other t
    have one := counted (Wr.isFor g t)
    rw [if_neg (by simp [Wr.isFor, Ne.symm other])] at one
    omega
  · intro w' there mine
    have placed := sound.placed w' (member w' there)
    exact ⟨placed.known, placed.bound, placed.alive,
      fits w' (sound.fits_of_mine here (member w' there) mine)⟩
  · have out := sound.outside closed file (mem_of_getElem? here)
    exact ⟨outside out, fun w' there => ⟨w', member w' there, rfl⟩⟩

theorem complete {j : Nat} (posted : s.wrs[j]? = some w) (ok : Bool) :
    Sound (completed { s with wrs := s.wrs.eraseIdx j } w ok) := by
  obtain ⟨file, here, fits⟩ := sound.fits w (mem_of_getElem? posted)
  have total := sound.tokens w.file file here
  simp only [completed, here]
  cases work : w.work with
  | regMr orphan =>
    cases orphan with
    | true =>
      have same : s.files.set w.file file = s.files := by
        obtain ⟨bound, at_f⟩ := List.getElem?_eq_some_iff.mp here
        rw [← at_f, set_getElem_self]
      have taken := sound.takes posted here (by simp [work, Work.token])
        (fun _ fits => fits) (fun out => out)
      rwa [same] at taken
    | false =>
      have counted : 0 < s.wrs.countP (Wr.isFor w.file none) := countP_pos_iff.mpr ⟨w,
        mem_of_getElem? posted, by simp [Wr.isFor, work, Work.token]⟩
      have waiting : file.pc = .wait none := by
        by_contra other
        have none_waits := total none
        simp only [File.has, if_neg other] at none_waits
        omega
      simp only [waiting, if_true]
      refine sound.takes posted here ?_ ?_ ?_
      · intro t
        cases t with
        | none | some b => simp [File.has, waiting, work, Work.token, Pc.claims]
      · intro w' fits
        rwa [waiting] at fits
      · intro out
        rw [waiting] at out
        cases out
  | data k b =>
    have counted : 0 < s.wrs.countP (Wr.isFor w.file (some b)) :=
      countP_pos_iff.mpr ⟨w, mem_of_getElem? posted, by simp [Wr.isFor, work, Work.token]⟩
    have mine : 0 < file.own.count b := by
      have marked := total (some b)
      simp only [File.has] at marked
      omega
    refine sound.takes posted here ?_ (fun _ fits => fits) (fun out => out)
    intro t
    cases t with
    | none => simp [File.has, work, Work.token]
    | some b' =>
      simp only [File.has, work, Work.token, count_erase, Option.some.injEq, beq_iff_eq]
      rcases eq_or_ne b b' with rfl | this
      · simp only [if_true]
        omega
      · simp [this]

end

theorem up_of_unsealed (unsealed : ¬ s.Sealed) : s.qp 0 = true ∧ 0 < s.numQps := by
  have up : s.isUp = true := by
    by_contra down
    exact unsealed (.inl (by simpa using down))
  simp only [State.isUp, and_eq_true, decide_eq_true_eq] at up
  exact ⟨up.1.2, up.2⟩

section Act

/-! What a step of a command does. Most of them neither post nor mark anything. -/

variable {pc pc' : Pc} {own : List Nat}

section

variable (sound : Sound s)
include sound

theorem move (here : s.files[f]? = some ⟨pc, own⟩) (before : pc.plain = true)
    (after : pc'.plain = true) (fits : ∀ w ∈ s.wrs, w.file = f → pc.fits w → pc'.fits w)
    (outside : s.Sealed → pc'.outside = true) : Sound (s.setFile f ⟨pc', own⟩) := by
  refine sound.goto here ?_ fits outside
  intro t
  rw [claims_of_plain before, claims_of_plain after]
  cases t with
  | none => rw [has_none_of_plain before, has_none_of_plain after]
  | some b => rfl

theorem moveInside (here : s.files[f]? = some ⟨pc, own⟩)
    (inside : pc.outside = false) (before : pc.plain = true) (after : pc'.plain = true)
    (fits : ∀ w ∈ s.wrs, w.file = f → pc.fits w → pc'.fits w) : Sound (s.setFile f ⟨pc', own⟩) :=
  sound.move here before after fits fun closed => absurd closed (sound.unsealed here inside)

theorem postsRegMr (here : s.files[f]? = some ⟨.post, own⟩) :
    Sound ((s.post f 0 (.regMr false)).setFile f ⟨.wait none, own⟩) := by
  have unsealed := sound.unsealed here rfl
  obtain ⟨alive, bound⟩ := up_of_unsealed unsealed
  refine sound.posts here ?_ bound alive rfl (fun _ _ _ fits => fits) unsealed
  intro t
  cases t with
  | none | some b => simp [File.has, Work.token, Pc.claims]

theorem postsData {k : Kind} {b qp : Nat} (here : s.files[f]? = some ⟨.claimed k b, own⟩)
    (bound : qp < s.numQps) (alive : s.qp qp = true) :
    Sound ((s.post f qp (.data k b)).setFile f ⟨.bound, own⟩) := by
  refine sound.posts here ?_ bound alive trivial (fun _ _ _ fits => fits) (sound.unsealed here rfl)
  intro t
  cases t with
  | none => simp [File.has, Work.token, Pc.claims]
  | some b' => simp [File.has, Work.token, Pc.claims, eq_comm, Nat.add_comm]

theorem unmarks {k : Kind} {b : Nat} (here : s.files[f]? = some ⟨.claimed k b, own⟩) :
    Sound (s.setFile f ⟨.bound, own.erase b⟩) := by
  have unsealed := sound.unsealed here rfl
  refine sound.goto here ?_ (fun _ _ _ fits => fits) fun closed => absurd closed unsealed
  intro t
  cases t with
  | none => simp [File.has, Pc.claims]
  | some b' =>
    rcases eq_or_ne b' b with rfl | this
    · have marked := sound.tokens f _ here (some b')
      simp only [File.has, Pc.claims, if_true] at marked ⊢
      rw [count_erase_self]
      omega
    · simp [File.has, Pc.claims, this]

theorem drains {q : Nat} (here : s.files[f]? = some ⟨.drain q, own⟩) : Sound (s.setFile f
      ⟨if q < s.numQps then if s.qp q then .drainWait q s.next else .drain (q + 1) else .free,
        own⟩) := by
  split_ifs with there alive
  · refine sound.moveInside here rfl rfl rfl fun w posted mine fits => ?_
    refine fits_of_data fits fun k b work => ?_
    simp only [Pc.fits, work] at fits ⊢
    exact ⟨fits.1, fits.2, (sound.placed w posted).known⟩
  · refine sound.moveInside here rfl rfl rfl fun w posted mine fits => ?_
    refine fits_of_data fits fun k b work => ?_
    simp only [Pc.fits, work] at fits ⊢
    have other : w.qp ≠ q := by
      rintro rfl
      exact alive (sound.placed w posted).alive
    exact ⟨fits.1, by omega⟩
  · refine sound.moveInside here rfl rfl rfl fun w posted mine fits => ?_
    refine fits_of_data fits fun k b work => ?_
    simp only [Pc.fits, work] at fits
    have bound := (sound.placed w posted).bound
    omega

theorem drained {q posted : Nat} (here : s.files[f]? = some ⟨.drainWait q posted, own⟩)
    (gone : ¬ s.wrs.any (fun w => w.qp == q && w.work.isRecv && decide (w.no < posted)) = true) :
    Sound (s.setFile f ⟨.drain (q + 1), own⟩) := by
  refine sound.moveInside here rfl rfl rfl fun w member mine fits => ?_
  refine fits_of_data fits fun k b work => ?_
  simp only [Pc.fits, work] at fits ⊢
  have other : w.qp ≠ q := by
    intro same
    refine gone (any_eq_true.mpr ⟨w, member, ?_⟩)
    simp [same, work, fits.1, fits.2.2, Work.isRecv]
  exact ⟨fits.1, by omega⟩

theorem frees (here : s.files[f]? = some ⟨.free, own⟩) : Sound (s.setFile f ⟨.idle, []⟩) := by
  refine sound.goto here ?_ (fun _ _ _ fits => fits) fun _ => rfl
  intro t
  cases t with
  | none => simp [File.has, Pc.claims]
  | some b =>
    have marked := sound.tokens f _ here (some b)
    have unposted : s.wrs.countP (Wr.isFor f (some b)) = 0 := by
      refine countP_eq_zero.mpr fun w posted mine => ?_
      simp only [Wr.isFor, and_eq_true, beq_iff_eq] at mine
      have fits := sound.fits_of_mine here posted mine.1
      cases work : w.work with
      | data k b' => simp [Pc.fits, work] at fits
      | regMr orphan => cases orphan <;> simp [work, Work.token] at mine
    simp only [File.has, Pc.claims] at marked ⊢
    rw [count_nil]
    omega

theorem moves {ch : Choice} (here : s.files[f]? = some file)
    (quiet : file.pc = .check → s.cleanup.onFirst = false) (moved : act s f file ch = some s') :
    Sound s' := by
  obtain ⟨pc, own⟩ := file
  have same : ∀ w ∈ s.wrs, w.file = f → pc.fits w → pc.fits w := fun _ _ _ fits => fits
  cases pc with
  | idle | bound => cases moved
  | check =>
    cases moved
    cases up : s.pd && s.qp 0 && decide (0 < s.numQps) with
    | false => exact sound.move here rfl rfl same fun _ => rfl
    | true =>
      refine sound.move here rfl rfl same fun closed => ?_
      rcases closed with down | first
      · cases up.symm.trans down
      · cases (quiet rfl).symm.trans first
  | alloc =>
    cases moved
    cases ch.ok with
    | true | false => exact sound.moveInside here rfl rfl rfl same
  | post =>
    cases moved
    cases ch.ok with
    | true => exact sound.postsRegMr here
    | false => exact sound.moveInside here rfl rfl rfl same
  | wait status =>
    cases status with
    | none => cases moved
    | some ok =>
      have gone {pc : Pc} : ∀ w ∈ s.wrs, w.file = f → (Pc.wait (some ok)).fits w → pc.fits w := by
        intro w posted mine fits
        refine fits_of_data fits fun k b work => ?_
        simp [Pc.fits, work] at fits
      cases ok with
      | false =>
        cases moved
        exact sound.moveInside here rfl rfl rfl gone
      | true =>
        cases moved
        cases ch.ok with
        | true | false => exact sound.moveInside here rfl rfl rfl gone
  | dereg =>
    cases moved
    exact sound.move here rfl rfl same fun _ => rfl
  | claimed k b =>
    simp only [act] at moved
    split at moved
    · next posted =>
      cases moved
      exact sound.postsData here posted.2.1 posted.2.2
    · cases moved
      exact sound.unmarks here
  | drain q =>
    have drains := sound.drains here
    simp only [act] at moved
    split_ifs at moved drains with there alive
    all_goals
      cases moved
      exact drains
  | drainWait q posted =>
    simp only [act] at moved
    split at moved
    · cases moved
    · next gone =>
      cases moved
      exact sound.drained here gone
  | free =>
    cases moved
    exact sound.frees here

end

end Act

section

variable (sound : Sound s)
include sound

theorem tear (outside : ∀ file ∈ s.files, file.pc.outside = true)
    (unposted : s.wrs = []) : s.tear.early = false := by
  have regions : s.files.any (·.pc.hasMr) = false := by
    refine any_eq_false.mpr fun file member => ?_
    have out := outside file member
    cases pc : file.pc with
    | idle | check => simp [Pc.hasMr]
    | _ => simp [pc, Pc.outside] at out
  simp [State.tear, State.regions, State.namesBuffer, sound.inTime, regions, unposted]

theorem phase {cleanup : Cleanup}
    (outside : cleanup.onFirst = true → ∀ file ∈ s.files, file.pc.outside = true)
    (unposted : cleanup = .destroyQp 0 ∨ cleanup = .clearQp 0 → s.wrs = [])
    (awaited : ∀ posted, cleanup = .drainWait 0 posted → ∀ w ∈ s.wrs, w.no < posted)
    (down : cleanup.pastFirst = true → s.isUp = false) : Sound { s with cleanup := cleanup } where
  __ := sound
  placed w posted := { sound.placed w posted with }
  outside closed := closed.elim (fun down => sound.outside (.inl down)) outside
  unposted phase := phase.elim (fun down => sound.unposted (.inl down)) unposted
  awaited := awaited
  down := down

theorem gone {cleanup : Cleanup} {qp : Nat → Bool} {pd early : Bool}
    (outside : ∀ file ∈ s.files, file.pc.outside = true) (unposted : s.wrs = [])
    (awaited : ∀ posted, cleanup ≠ .drainWait 0 posted)
    (down : cleanup.pastFirst = true → State.isUp { s with qp := qp, pd := pd } = false)
    (inTime : early = false) :
    Sound { s with cleanup := cleanup, qp := qp, pd := pd, early := early } where
  __ := sound
  placed w posted := by
    simp [unposted] at posted
  outside _ := outside
  unposted _ := unposted
  awaited posted phase := absurd phase (awaited posted)
  down := down
  inTime := inTime

theorem late (past : s.cleanup.pastFirst = true) :
    s.isUp = false ∧ (∀ file ∈ s.files, file.pc.outside = true) ∧ s.wrs = [] := by
  have down := sound.down past
  exact ⟨down, sound.outside (.inl down), sound.unposted (.inl down)⟩

theorem settled {i : Nat} (phase : s.cleanup = .destroyQp i ∨ s.cleanup = .clearQp i) :
    (∀ file ∈ s.files, file.pc.outside = true) ∧ s.wrs = [] ∧ (i = 0 ∨ s.isUp = false) := by
  cases i with
  | zero =>
    have first : s.cleanup.onFirst = true := by rcases phase with here | here <;> rw [here] <;> rfl
    exact ⟨sound.outside (.inr first), sound.unposted (.inr phase), .inl rfl⟩
  | succ i =>
    have past : s.cleanup.pastFirst = true := by
      rcases phase with here | here <;> rw [here] <;> rfl
    obtain ⟨down, outside, unposted⟩ := sound.late past
    exact ⟨outside, unposted, .inr down⟩

theorem drainsQp {i : Nat} (here : s.cleanup = .drainQp i)
    (quiet : i = 0 → ∀ file ∈ s.files, file.pc.outside = true) (moved : cleanupStep s = some s') :
    Sound s' := by
  simp only [cleanupStep, here] at moved
  cases i with
  | zero =>
    split_ifs at moved with there alive
    · cases moved
      exact sound.phase (fun _ => quiet rfl) (by simp)
        (fun posted same w member => by cases same; exact (sound.placed w member).known) nofun
    · cases moved
      exact sound.phase nofun (by simp) nofun fun _ => by simp [State.isUp, alive]
    · cases moved
      exact sound.phase nofun (by simp) nofun fun _ => by simp [State.isUp, there]
  | succ i =>
    have down := (sound.late (by rw [here]; rfl)).1
    split_ifs at moved with there alive
    all_goals
      cases moved
      exact sound.phase nofun (by simp) nofun fun _ => down

theorem drainedQp {i posted : Nat} (here : s.cleanup = .drainWait i posted)
    (drained : ¬ s.wrs.any (fun w => w.qp == i && decide (w.no < posted)) = true) :
    Sound { s with cleanup := .destroyQp i } := by
  cases i with
  | zero =>
    have outside := sound.outside (.inr (by rw [here]; rfl))
    have unposted : s.wrs = [] := by
      refine eq_nil_iff_forall_not_mem.mpr fun w member => drained ?_
      have old := sound.awaited posted here w member
      have first := (sound.orphan_of_outside outside member).2
      exact any_eq_true.mpr ⟨w, member, by simp [old, first]⟩
    exact sound.phase (fun _ => outside) (fun _ => unposted) nofun nofun
  | succ i =>
    have down := (sound.late (by rw [here]; rfl)).1
    exact sound.phase nofun (by simp) nofun fun _ => down

omit sound in
theorem isUp_clear {i : Nat} (down : i = 0 ∨ s.isUp = false) :
    State.isUp { s with qp := Function.update s.qp i false } = false := by
  rcases down with rfl | down
  · simp [State.isUp]
  · cases i with
    | zero => simp [State.isUp]
    | succ i => simpa [State.isUp, Function.update_of_ne (Nat.succ_ne_zero i).symm] using down

theorem cleanup (quiet : s.cleanup = .drainQp 0 → ∀ file ∈ s.files, file.pc.outside = true)
    (moved : cleanupStep s = some s') : Sound s' := by
  cases here : s.cleanup with
  | none | stopped => simp [cleanupStep, here] at moved
  | drainQp i =>
    refine sound.drainsQp here ?_ moved
    rintro rfl
    exact quiet here
  | drainWait i posted =>
    simp only [cleanupStep, here] at moved
    split at moved
    · cases moved
    · next drained =>
      cases moved
      exact sound.drainedQp here drained
  | destroyQp i =>
    simp only [cleanupStep, here, Option.some.injEq] at moved
    subst moved
    obtain ⟨outside, unposted, down⟩ := sound.settled (.inl here)
    have kept : s.wrs.filter (fun w => w.qp != i) = s.wrs := by rw [unposted]; rfl
    rw [kept]
    refine sound.gone outside unposted nofun (fun past => ?_) (sound.tear outside unposted)
    cases i with
    | zero => cases past
    | succ i => exact down.resolve_left (Nat.succ_ne_zero i)
  | clearQp i =>
    simp only [cleanupStep, here, Option.some.injEq] at moved
    subst moved
    obtain ⟨outside, unposted, down⟩ := sound.settled (.inr here)
    exact sound.gone outside unposted nofun (fun _ => isUp_clear down) sound.inTime
  | deallocPd =>
    simp only [cleanupStep, here, Option.some.injEq] at moved
    subst moved
    obtain ⟨-, outside, unposted⟩ := sound.late (by rw [here]; rfl)
    exact sound.gone outside unposted nofun (fun _ => rfl) (sound.tear outside unposted)

end

section Command

/-! A command begins. -/

theorem registers (sound : Sound s) (here : s.files[f]? = some file) (idle : file.pc = .idle) :
    Sound (s.setFile f { file with pc := .check }) := by
  obtain ⟨pc, own⟩ := file
  obtain rfl : pc = .idle := idle
  exact sound.move here rfl rfl (fun _ _ _ fits => fits) fun _ => rfl

theorem submits (sound : Sound s) (here : s.files[f]? = some file) (bound : file.pc = .bound)
    (k : Kind) (b : Nat) : Sound (s.setFile f ⟨.claimed k b, b :: file.own⟩) := by
  obtain ⟨pc, own⟩ := file
  obtain rfl : pc = .bound := bound
  have unsealed := sound.unsealed here rfl
  refine sound.goto here ?_ (fun _ _ _ fits => fits) fun closed => absurd closed unsealed
  intro t
  cases t with
  | none => simp [File.has, Pc.claims]
  | some b' =>
    rcases eq_or_ne b' b with rfl | this
    · simp [File.has, Pc.claims]
    · simp [File.has, Pc.claims, count_cons_of_ne (Ne.symm this), this]

theorem releases (sound : Sound s) (here : s.files[f]? = some file) (bound : file.pc = .bound)
    (free : file.own = []) : Sound (s.setFile f { file with pc := .free }) := by
  obtain ⟨pc, own⟩ := file
  obtain rfl : pc = .bound := bound
  refine sound.moveInside here rfl rfl rfl fun w posted mine fits => ?_
  exact fits_of_data fits fun k b work => absurd work (sound.unnamed here free posted mine k b)

theorem closes (sound : Sound s) (here : s.files[f]? = some file) (bound : file.pc = .bound)
    (unsent : s.wrs.all (fun w => !(w.file == f && w.work.isSend)) = true) :
    Sound (s.setFile f { file with pc := .drain 0 }) := by
  obtain ⟨pc, own⟩ := file
  obtain rfl : pc = .bound := bound
  refine sound.moveInside here rfl rfl rfl fun w posted mine fits => ?_
  refine fits_of_data fits fun k b work => ?_
  have other := all_eq_true.mp unsent w posted
  cases k with
  | send => simp [mine, work, Work.isSend] at other
  | recv => simp [Pc.fits, work]

end Command

end Sound

/-! ## Every run -/

def quiet (s : State) : Event → Bool
  | .cleanup => s.cleanup != .drainQp 0 || s.files.all (·.pc.outside)
  | .act f _ => match s.files[f]? with
    | some file => file.pc != .check || !s.cleanup.onFirst
    | none => true
  | _ => true

theorem Sound.step {e : Event} (sound : Sound s) (admitted : quiet s e = true)
    (moved : step s e = some s') : Sound s' := by
  cases e with
  | openFile =>
    cases moved
    exact sound.opened
  | register f =>
    simp only [Teardown.step] at moved
    split at moved
    · next file here =>
      obtain ⟨idle, rfl⟩ := guarded moved
      exact sound.registers here idle
    · cases moved
  | submit f k b =>
    simp only [Teardown.step] at moved
    split at moved
    · next file here =>
      obtain ⟨⟨bound, -⟩, rfl⟩ := guarded moved
      exact sound.submits here bound k b
    · cases moved
  | unregister f =>
    simp only [Teardown.step] at moved
    split at moved
    · next file here =>
      obtain ⟨⟨bound, free⟩, rfl⟩ := guarded moved
      have released := sound.releases here bound free
      rwa [free] at released
    · cases moved
  | close f =>
    simp only [Teardown.step] at moved
    split at moved
    · next file here =>
      obtain ⟨⟨bound, unsent⟩, rfl⟩ := guarded moved
      split
      · next free => exact sound.releases here bound free
      · exact sound.closes here bound unsent
    · cases moved
  | giveUp f =>
    simp only [Teardown.step] at moved
    split at moved
    · rename_i file here
      split at moved
      · rename_i status waiting
        cases moved
        exact sound.abandons here waiting
      · cases moved
    · cases moved
  | act f ch =>
    obtain ⟨file, here, moved⟩ := Option.bind_eq_some_iff.mp moved
    refine sound.moves here ?_ moved
    intro checking
    simpa [quiet, here, checking] using admitted
  | complete j ok =>
    obtain ⟨w, posted, rfl⟩ := Option.map_eq_some_iff.mp moved
    exact sound.complete posted ok
  | startCleanup =>
    obtain ⟨-, rfl⟩ := guarded moved
    exact sound.phase nofun (by simp) nofun nofun
  | cleanup =>
    refine sound.cleanup ?_ moved
    intro phase
    simpa [quiet, phase] using admitted

/-- Queue pairs and the protection domain go only when no pool uses them, in every run in which
the cleanup meets no pool. -/
theorem inTime_throughout (numQps : Nat) (qp : Nat → Bool) {events : List Event}
    (admitted : Along step (fun s e => quiet s e = true) (.init numQps qp) events) :
    Throughout step (fun s => s.early = false) (.init numQps qp) events :=
  throughout_of_along (fun _ _ _ sound admitted moved => sound.step admitted moved)
    (fun _ sound => sound.inTime) (sound_init numQps qp) admitted

def closedThenCleaned : List Event :=
  let ok : Choice := ⟨true, 1⟩
  [Event.openFile, .register 0] ++ List.replicate 3 (Event.act 0 ok) ++
    [Event.complete 0 true, .act 0 ok] ++
    [Event.submit 0 .recv 5, .act 0 ok, .close 0, .act 0 ok, .complete 0 false] ++
    List.replicate 5 (Event.act 0 ok) ++ Event.startCleanup :: List.replicate 10 Event.cleanup

theorem inTime_throughout_closed :
    Throughout step (fun s => s.early = false) (.init 2 fun _ => true) closedThenCleaned ∧
      ∃ s, run step (.init 2 fun _ => true) closedThenCleaned = some s ∧ s.pd = false := by
  refine ⟨inTime_throughout 2 _ ?_, ?_⟩
  all_goals decide +kernel

def cleanedUnderPool : List Event :=
  let ok : Choice := ⟨true, 0⟩
  [Event.openFile, .register 0] ++ List.replicate 3 (Event.act 0 ok) ++
    [Event.complete 0 true, .act 0 ok] ++
    Event.startCleanup :: List.replicate 6 Event.cleanup

theorem pool_outlives_domain : ∃ s, run step (.init 1 fun _ => true) cleanedUnderPool = some s ∧
    s.pd = false ∧ s.regions = true ∧ s.early = true := by
  decide +kernel

end Urp.Fast.Teardown
