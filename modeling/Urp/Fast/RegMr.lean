import Urp.Lib.Machine
import Urp.Lib.Run

/-!
# Registering a memory region and giving up on it

A registration posts a work request and waits for its completion.
-/

namespace Urp.Fast.RegMr

open Urp.Lib

abbrev Ret := Except Errno Unit

inductive Waiter where
  | alloc
  | post
  | dropCallback (e : Errno)
  | wait
  | readStatus
  | abandon (killed : Bool)
  | put (ret : Ret)
  | releaseMr (ret : Ret)
  | releaseFree (ret : Ret)
  | returned (ret : Ret)
  | finished (ret : Ret)
deriving DecidableEq

inductive Callback where
  | idle
  | store (success : Bool)
  | complete
  | put
  | releaseMr
  | releaseFree
  | finished
deriving DecidableEq

/-- `struct urp_reg_wait` with its work request; the counters and `fault` are ghosts. -/
structure State where
  waiter : Waiter
  callback : Callback
  inFlight : Bool
  allocated : Bool
  refs : Nat
  status : Ret
  done : Bool
  mr : Bool
  freed : Nat
  callerDeregs : Nat
  releaserDeregs : Nat
  fault : Bool
deriving DecidableEq

def State.init : State :=
  ⟨.alloc, .idle, false, false, 0, .ok (), false, false, 0, 0, 0, false⟩

namespace State

def touch (s : State) : State := { s with fault := s.fault || !s.allocated || s.freed != 0 }

def deregister (s : State) : State := { s with fault := s.fault || s.inFlight }

def releaseMr (s : State) : State :=
  if s.touch.mr then { s.touch.deregister with releaserDeregs := s.releaserDeregs + 1 } else s.touch

def free (s : State) : State := { s.touch with freed := s.freed + 1 }

end State

def Abandoned (ret : Ret) : Prop := ret = .error .ETIMEDOUT ∨ ret = .error .ERESTARTSYS

instance (ret : Ret) : Decidable (Abandoned ret) := inferInstanceAs (Decidable (_ ∨ _))

def gaveUp (killed : Bool) : Ret := .error (if killed then .ERESTARTSYS else .ETIMEDOUT)

theorem abandoned_gaveUp (killed : Bool) : Abandoned (gaveUp killed) := by
  cases killed
  · exact .inl rfl
  · exact .inr rfl

def State.settle (s : State) (ret : Ret) : State :=
  if ret = .ok () ∨ Abandoned ret then s
  else { s.deregister with callerDeregs := s.callerDeregs + 1 }

inductive Event where
  | kzalloc (ok : Bool)
  | postSend (ret : Ret)
  | wake
  | giveUp (killed : Bool)
  | waiter
  | wc (success : Bool)
  | callback
deriving DecidableEq

/-- The next statement of `urp_cmd_reg_mr_sync`. -/
def stepWaiter (s : State) : Option State :=
  match s.waiter with
  -- The first put after a failed post finds both references and so releases nothing.
  | .dropCallback e => some { s.touch with refs := s.refs - 1, waiter := .put (.error e) }
  | .readStatus => some { s.touch with waiter := .put s.status }
  | .abandon killed => some { s.touch with mr := true, waiter := .put (gaveUp killed) }
  | .put ret =>
    some { s.touch with
      refs := s.refs - 1
      waiter := if s.refs - 1 = 0 then .releaseMr ret else .returned ret }
  | .releaseMr ret => some { s.releaseMr with waiter := .releaseFree ret }
  | .releaseFree ret => some { s.free with waiter := .returned ret }
  | .returned ret => some { s.settle ret with waiter := .finished ret }
  | _ => none

/-- The next statement of `urp_cmd_reg_mr_done`. -/
def stepCallback (s : State) : Option State :=
  match s.callback with
  | .store success =>
    some { s.touch with
      status := if success then .ok () else .error Errno.EIO
      callback := .complete }
  | .complete => some { s.touch with done := true, callback := .put }
  | .put =>
    some { s.touch with
      refs := s.refs - 1
      callback := if s.refs - 1 = 0 then .releaseMr else .finished }
  | .releaseMr => some { s.releaseMr with callback := .releaseFree }
  | .releaseFree => some { s.free with callback := .finished }
  | _ => none

/-- The wait ends once the callback said so, or at any time by a signal or the timeout. -/
def step (s : State) : Event → Option State
  | .kzalloc ok =>
    if s.waiter = .alloc then
      some (if ok then { s with allocated := true, refs := 2, waiter := .post }
        else { s with waiter := .returned (.error .ENOMEM) })
    else none
  | .postSend ret =>
    if s.waiter = .post then
      match ret with
      | .ok () => some { s with inFlight := true, waiter := .wait }
      | .error e => some { s with waiter := .dropCallback e }
    else none
  | .wake =>
    if s.waiter = .wait ∧ s.done then some { s.touch with waiter := .readStatus } else none
  | .giveUp killed =>
    if s.waiter = .wait then
      some { s.touch with waiter := .abandon killed }
    else none
  | .waiter => stepWaiter s
  | .wc success =>
    if s.inFlight then some { s with inFlight := false, callback := .store success } else none
  | .callback => stepCallback s

/-! ## The references and who is releasing -/

def Waiter.holds : Waiter → Nat
  | .post | .dropCallback _ => 2
  | .wait | .readStatus | .abandon _ | .put _ => 1
  | _ => 0

def Waiter.releasing : Waiter → Nat
  | .releaseMr _ | .releaseFree _ => 1
  | _ => 0

def Waiter.freeing : Waiter → Nat
  | .releaseFree _ => 1
  | _ => 0

def Waiter.leaves : Waiter → Bool
  | .put ret | .releaseMr ret | .releaseFree ret | .returned ret | .finished ret =>
    decide (Abandoned ret)
  | _ => false

def Waiter.givenBack : Waiter → Nat
  | .finished ret => if ret = .ok () ∨ Abandoned ret then 0 else 1
  | _ => 0

def Waiter.drained : Waiter → Bool
  | .wait | .abandon _ => false
  | .put ret | .releaseMr ret | .releaseFree ret | .returned ret | .finished ret =>
    !decide (Abandoned ret)
  | _ => true

def Callback.holds : Callback → Nat
  | .store _ | .complete | .put => 1
  | _ => 0

def Callback.releasing : Callback → Nat
  | .releaseMr | .releaseFree => 1
  | _ => 0

def Callback.freeing : Callback → Nat
  | .releaseFree => 1
  | _ => 0

def Callback.Fired (inFlight done : Bool) : Callback → Prop
  | .idle => done = false
  | _ => inFlight = false

def Waiter.Early (callback : Callback) (allocated : Bool) : Waiter → Prop
  | .alloc => callback = .idle ∧ allocated = false
  | .post => callback = .idle
  | .dropCallback e => ¬ Abandoned (.error e)
  | _ => True

structure Counted (count freed holds releasing : Nat) (present : Bool) : Prop where
  refs : count = holds
  allocated : 0 < count → present = true
  released : freed + releasing = if present ∧ count = 0 then 1 else 0

structure Sound (s : State) : Prop extends Counted s.refs s.freed
    (s.waiter.holds + s.callback.holds + s.inFlight.toNat)
    (s.waiter.releasing + s.callback.releasing) s.allocated where
  faultless : s.fault = false
  kept : s.mr = s.waiter.leaves
  made : s.mr = true → s.allocated = true
  releaser : s.releaserDeregs = if s.mr then s.freed + s.waiter.freeing + s.callback.freeing else 0
  caller : s.callerDeregs = s.waiter.givenBack
  drained : s.waiter.drained = true → s.inFlight = false
  fired : s.callback.Fired s.inFlight s.done
  early : s.waiter.Early s.callback s.allocated
  status : ¬ Abandoned s.status

theorem sound_init : Sound .init where
  faultless := rfl
  refs := rfl
  allocated := nofun
  released := rfl
  kept := rfl
  made := nofun
  releaser := rfl
  caller := rfl
  drained _ := rfl
  fired := rfl
  early := ⟨rfl, rfl⟩
  status := by decide

theorem Waiter.Early.fired {w : Waiter} {c c' : Callback} {allocated : Bool}
    (early : w.Early c allocated) (fired : c ≠ .idle) : w.Early c' allocated := by
  cases w with
  | alloc => exact absurd early.1 fired
  | post => exact absurd early fired
  | _ => exact early

theorem Waiter.early_of_waiting {w : Waiter} {c : Callback} {allocated : Bool}
    (waiting : w.drained = false) : w.Early c allocated := by
  cases w with
  | alloc | post | dropCallback => cases waiting
  | _ => trivial

def Event.Specified (e : Event) : Prop := ∀ ret, e = .postSend ret → ¬ Abandoned ret

variable {s : State}

theorem touch_of_alive (allocated : s.allocated = true) (freed : s.freed = 0) : s.touch = s := by
  have same : (s.fault || !s.allocated || s.freed != 0) = s.fault := by simp [allocated, freed]
  rw [State.touch, same]

theorem Sound.alive (sound : Sound s) (held : 0 < s.refs) :
    s.allocated = true ∧ s.freed = 0 ∧ s.waiter.releasing = 0 ∧ s.callback.releasing = 0 := by
  have released := sound.released
  rw [if_neg (by omega)] at released
  exact ⟨sound.allocated held, by omega, by omega, by omega⟩

theorem Sound.held (sound : Sound s) (holds : 0 < s.waiter.holds + s.callback.holds) :
    0 < s.refs := by
  rw [sound.refs]
  omega

theorem Sound.touch_eq (sound : Sound s) (holds : 0 < s.waiter.holds + s.callback.holds) :
    s.touch = s := by
  obtain ⟨allocated, freed, -⟩ := sound.alive (sound.held holds)
  exact touch_of_alive allocated freed

theorem Sound.last (sound : Sound s) (one : 0 < s.waiter.releasing + s.callback.releasing) :
    s.touch = s ∧ s.allocated = true ∧ s.refs = 0 ∧ s.freed = 0 ∧ s.inFlight = false ∧
      s.waiter.releasing + s.callback.releasing = 1 := by
  have released := sound.released
  have refs := sound.refs
  split at released
  · rename_i gone
    have idle : s.inFlight.toNat = 0 := by omega
    have freed : s.freed = 0 := by omega
    exact ⟨touch_of_alive gone.1 freed, gone.1, gone.2, freed, by simpa using idle, by omega⟩
  · omega

structure Alike (w w' : Waiter) : Prop where
  holds : w'.holds = w.holds
  releasing : w'.releasing = w.releasing
  freeing : w'.freeing = w.freeing
  leaves : w'.leaves = w.leaves
  givenBack : w'.givenBack = w.givenBack

section

variable (sound : Sound s)
include sound

theorem Sound.move {w : Waiter} (alike : Alike s.waiter w)
    (drained : w.drained = true → s.inFlight = false)
    (early : w.Early s.callback s.allocated) : Sound { s with waiter := w } :=
  { sound with
    refs := alike.holds ▸ sound.refs
    released := alike.releasing ▸ sound.released
    kept := sound.kept.trans alike.leaves.symm
    releaser := alike.freeing ▸ sound.releaser
    caller := sound.caller.trans alike.givenBack.symm
    drained := drained
    early := early }

theorem Sound.kzalloc (here : s.waiter = .alloc) :
    Sound { s with allocated := true, refs := 2, waiter := .post } := by
  obtain ⟨_, callback, inFlight, allocated⟩ := s
  cases here
  obtain ⟨rfl, rfl⟩ : callback = .idle ∧ allocated = false := sound.early
  obtain rfl : inFlight = false := sound.drained rfl
  exact { sound with
    refs := rfl
    allocated := fun _ => rfl
    released := sound.released
    made := fun _ => rfl
    early := rfl }

theorem Sound.post (here : s.waiter = .post) :
    Sound { s with inFlight := true, waiter := .wait } := by
  obtain ⟨_, callback, inFlight⟩ := s
  cases here
  obtain rfl : inFlight = false := sound.drained rfl
  obtain rfl : callback = .idle := sound.early
  exact { sound with
    drained := nofun
    early := trivial }

theorem Sound.wc (flying : s.inFlight = true) (success : Bool) :
    Sound { s with inFlight := false, callback := .store success } := by
  obtain ⟨waiter, callback⟩ := s
  cases flying
  obtain rfl : callback = .idle := by
    cases callback with
    | idle => rfl
    | _ => cases sound.fired
  have waiting : waiter.drained = false := by
    by_contra drained
    exact Bool.noConfusion (sound.drained (by simpa using drained))
  exact { sound with
    drained := fun _ => rfl
    fired := rfl
    early := Waiter.early_of_waiting waiting }

/-! ## References and the record -/

theorem Sound.drop {w : Waiter} {c : Callback}
    (holds : w.holds + c.holds + 1 = s.waiter.holds + s.callback.holds)
    (releasing : w.releasing + c.releasing =
      s.waiter.releasing + s.callback.releasing + if s.refs - 1 = 0 then 1 else 0) :
    Counted (s.refs - 1) s.freed (w.holds + c.holds + s.inFlight.toNat)
      (w.releasing + c.releasing) s.allocated := by
  have refs := sound.refs
  obtain ⟨allocated, freed, waiter, callback⟩ := sound.alive (sound.held (by omega))
  refine ⟨by omega, fun _ => allocated, ?_⟩
  simp only [allocated, true_and]
  omega

omit sound in
theorem releaser_step {mr : Bool} {deregs freed freeing freeing' : Nat}
    (before : deregs = if mr then freed + freeing else 0) (one : freeing' = freeing + 1) :
    deregs + mr.toNat = if mr then freed + freeing' else 0 := by
  cases mr
  · exact before
  · simp only [if_true, Bool.toNat_true] at before ⊢
    omega

theorem Sound.releaseMr_eq (one : 0 < s.waiter.releasing + s.callback.releasing) :
    s.releaseMr = { s with releaserDeregs := s.releaserDeregs + s.mr.toNat } := by
  obtain ⟨touched, -, -, -, drained, -⟩ := sound.last one
  rw [State.releaseMr, touched]
  by_cases left : s.mr = true
  · have same : (s.fault || s.inFlight) = s.fault := by simp [drained]
    have once : s.mr.toNat = 1 := by simp [left]
    rw [if_pos left, State.deregister, same, once]
  · have never : s.mr.toNat = 0 := by simp [left]
    rw [if_neg left, never, Nat.add_zero]

/-! ## The thread that registers -/

theorem Sound.dropCallback {e : Errno} (here : s.waiter = .dropCallback e) :
    Sound { s.touch with refs := s.refs - 1, waiter := .put (.error e) } := by
  have hard := sound.early
  rw [here] at hard
  rw [sound.touch_eq (by rw [here, Waiter.holds]; omega)]
  obtain ⟨_, callback, inFlight, _, count⟩ := s
  cases here
  have more : count - 1 ≠ 0 := by
    have refs : count = 2 + callback.holds + inFlight.toNat := sound.refs
    omega
  have counted := sound.drop (w := .put (.error e)) (c := callback)
    (by simp only [Waiter.holds]; omega) (by simp only [Waiter.releasing, if_neg more]; omega)
  exact { counted, sound with
    kept := sound.kept.trans (decide_eq_false hard).symm
    drained := fun _ => sound.drained rfl
    early := trivial }

theorem Sound.abandon {killed : Bool} (here : s.waiter = .abandon killed) :
    Sound { s.touch with mr := true, waiter := .put (gaveUp killed) } := by
  have holds : 0 < s.waiter.holds + s.callback.holds := by rw [here, Waiter.holds]; omega
  rw [sound.touch_eq holds]
  obtain ⟨allocated, freed, -, releasing⟩ := sound.alive (sound.held holds)
  obtain ⟨_, callback, _, _, _, _, _, mr⟩ := s
  cases here
  obtain rfl : mr = false := sound.kept
  have left := abandoned_gaveUp killed
  have freeing : callback.freeing = 0 := by
    cases callback with
    | releaseFree => cases releasing
    | idle | store | complete | put | releaseMr | finished => rfl
  exact { sound with
    kept := (decide_eq_true left).symm
    made := fun _ => allocated
    releaser := by
      have none_yet := sound.releaser
      simp only [Bool.false_eq_true, if_false] at none_yet freed
      simp [none_yet, freed, freeing, Waiter.freeing]
    drained := fun drained => by simp [Waiter.drained, left] at drained
    early := trivial }

end

variable {ret : Ret}

section

variable (sound : Sound s)
include sound

theorem Sound.put (here : s.waiter = .put ret) : Sound { s.touch with
      refs := s.refs - 1
      waiter := if s.refs - 1 = 0 then .releaseMr ret else .returned ret } := by
  rw [sound.touch_eq (by rw [here, Waiter.holds]; omega)]
  obtain ⟨_, callback⟩ := s
  cases here
  split
  next last =>
    have counted := sound.drop (w := .releaseMr ret) (c := callback)
      (by simp only [Waiter.holds]; omega) (by simp only [Waiter.releasing, if_pos last]; omega)
    exact { counted, sound with early := trivial }
  next more =>
    have counted := sound.drop (w := .returned ret) (c := callback)
      (by simp only [Waiter.holds]; omega) (by simp only [Waiter.releasing, if_neg more]; omega)
    exact { counted, sound with early := trivial }

theorem Sound.releaseMr (here : s.waiter = .releaseMr ret) :
    Sound { s.releaseMr with waiter := .releaseFree ret } := by
  rw [sound.releaseMr_eq (by rw [here, Waiter.releasing]; omega)]
  cases s
  cases here
  exact { sound with
    releaser := by
      have before := sound.releaser
      rw [Nat.add_assoc] at before ⊢
      exact releaser_step before (by simp [Waiter.freeing]; omega)
    early := trivial }

theorem Sound.releaseFree (here : s.waiter = .releaseFree ret) :
    Sound { s.free with waiter := .returned ret } := by
  rw [State.free, (sound.last (by rw [here, Waiter.releasing]; omega)).1]
  cases s
  cases here
  exact { sound with
    released := by
      have before := sound.released
      simp only [Waiter.releasing] at before ⊢
      omega
    releaser := by
      have before := sound.releaser
      simp only [Waiter.freeing] at before ⊢
      omega
    early := trivial }

theorem Sound.settle (here : s.waiter = .returned ret) :
    Sound { s.settle ret with waiter := .finished ret } := by
  obtain ⟨_, _, inFlight, _, _, _, _, _, _, callerDeregs, _, fault⟩ := s
  cases here
  unfold State.settle
  split
  next keeps =>
    exact { sound with
      caller := sound.caller.trans (if_pos keeps).symm
      early := trivial }
  next fails =>
    have hard : ¬ Abandoned ret := fun left => fails (.inr left)
    have drained : inFlight = false := sound.drained (by simp [Waiter.drained, hard])
    have same : (fault || inFlight) = fault := by simp [drained]
    have none_yet : callerDeregs = 0 := sound.caller
    simp only [State.deregister, same]
    exact { sound with
      caller := by simp only [none_yet, Waiter.givenBack, if_neg fails]
      early := trivial }

theorem Sound.readStatus (here : s.waiter = .readStatus) :
    Sound { s.touch with waiter := .put s.status } := by
  have alike : Alike s.waiter (.put s.status) := by
    rw [here]
    exact ⟨rfl, rfl, rfl, decide_eq_false sound.status, rfl⟩
  have drained : s.inFlight = false := sound.drained (by rw [here]; rfl)
  rw [sound.touch_eq (by rw [here, Waiter.holds]; omega)]
  exact sound.move alike (fun _ => drained) trivial

end

variable {s' : State}

section

variable (sound : Sound s)
include sound

theorem Sound.stepWaiter (moved : stepWaiter s = some s') : Sound s' := by
  unfold RegMr.stepWaiter at moved
  split at moved <;> cases moved
  next here => exact sound.dropCallback here
  next here => exact sound.readStatus here
  next here => exact sound.abandon here
  next here => exact sound.put here
  next here => exact sound.releaseMr here
  next here => exact sound.releaseFree here
  next here => exact sound.settle here

/-! ## The callback -/

theorem Sound.settled (done : s.done = true) : s.inFlight = false := by
  have fired := sound.fired
  cases here : s.callback with
  | idle =>
    rw [here] at fired
    cases done.symm.trans fired
  | _ =>
    rw [here] at fired
    exact fired

theorem Sound.store {success : Bool} (here : s.callback = .store success) : Sound { s.touch with
      status := if success then .ok () else .error Errno.EIO
      callback := .complete } := by
  rw [sound.touch_eq (by rw [here, Callback.holds]; omega)]
  cases s
  cases here
  have hard : ¬ Abandoned (if success then .ok () else .error Errno.EIO) := by
    cases success <;> decide
  exact { sound with
    early := sound.early.fired nofun
    status := hard }

theorem Sound.complete (here : s.callback = .complete) :
    Sound { s.touch with done := true, callback := .put } := by
  rw [sound.touch_eq (by rw [here, Callback.holds]; omega)]
  cases s
  cases here
  exact { sound with
    early := sound.early.fired nofun }

theorem Sound.callbackPut (here : s.callback = .put) : Sound { s.touch with
      refs := s.refs - 1
      callback := if s.refs - 1 = 0 then .releaseMr else .finished } := by
  rw [sound.touch_eq (by rw [here, Callback.holds]; omega)]
  obtain ⟨waiter⟩ := s
  cases here
  split
  next last =>
    have counted := sound.drop (w := waiter) (c := .releaseMr) rfl (by rw [if_pos last]; rfl)
    exact { counted, sound with early := sound.early.fired nofun }
  next more =>
    have counted := sound.drop (w := waiter) (c := .finished) rfl (by rw [if_neg more]; rfl)
    exact { counted, sound with early := sound.early.fired nofun }

theorem Sound.callbackReleaseMr (here : s.callback = .releaseMr) :
    Sound { s.releaseMr with callback := .releaseFree } := by
  rw [sound.releaseMr_eq (by rw [here, Callback.releasing]; omega)]
  cases s
  cases here
  exact { sound with
    releaser := releaser_step sound.releaser rfl
    early := sound.early.fired nofun }

theorem Sound.callbackReleaseFree (here : s.callback = .releaseFree) :
    Sound { s.free with callback := .finished } := by
  rw [State.free, (sound.last (by rw [here, Callback.releasing]; omega)).1]
  obtain ⟨_, _, _, _, _, _, _, _, freed⟩ := s
  cases here
  exact { sound with
    released := by
      have before := sound.released
      simp only [Callback.releasing] at before ⊢
      omega
    releaser := by
      rw [Nat.add_right_comm freed]
      exact sound.releaser
    early := sound.early.fired nofun }

theorem Sound.stepCallback (moved : stepCallback s = some s') : Sound s' := by
  unfold RegMr.stepCallback at moved
  split at moved <;> cases moved
  next here => exact sound.store here
  next here => exact sound.complete here
  next here => exact sound.callbackPut here
  next here => exact sound.callbackReleaseMr here
  next here => exact sound.callbackReleaseFree here

/-! ## Whole runs -/

theorem Sound.step {e : Event} (specified : e.Specified)
    (moved : step s e = some s') : Sound s' := by
  cases e with
  | kzalloc ok =>
    obtain ⟨here, rfl⟩ := guarded moved
    cases ok with
    | true => exact sound.kzalloc here
    | false =>
      have alike : Alike s.waiter (.returned (.error .ENOMEM)) := by
        rw [here]
        exact ⟨rfl, rfl, rfl, rfl, rfl⟩
      exact sound.move alike (fun _ => sound.drained (by rw [here]; rfl)) trivial
  | postSend ret =>
    obtain ⟨here, moved⟩ := Option.ite_none_right_eq_some.mp moved
    cases ret with
    | ok _ => exact Option.some.inj moved ▸ sound.post here
    | error e =>
      have hard := specified (.error e) rfl
      have alike : Alike s.waiter (.dropCallback e) := by
        rw [here]
        exact ⟨rfl, rfl, rfl, rfl, rfl⟩
      have drained : s.inFlight = false := sound.drained (by rw [here]; rfl)
      exact Option.some.inj moved ▸ sound.move alike (fun _ => drained) hard
  | wake =>
    obtain ⟨⟨here, done⟩, rfl⟩ := guarded moved
    have alike : Alike s.waiter .readStatus := by
      rw [here]
      exact ⟨rfl, rfl, rfl, rfl, rfl⟩
    rw [sound.touch_eq (by rw [here, Waiter.holds]; omega)]
    have drained : s.inFlight = false := sound.settled done
    exact sound.move alike (fun _ => drained) trivial
  | giveUp killed =>
    obtain ⟨here, rfl⟩ := guarded moved
    have alike : Alike s.waiter (.abandon killed) := by
      rw [here]
      exact ⟨rfl, rfl, rfl, rfl, rfl⟩
    rw [sound.touch_eq (by rw [here, Waiter.holds]; omega)]
    exact sound.move alike nofun trivial
  | waiter => exact sound.stepWaiter moved
  | wc success =>
    obtain ⟨flying, rfl⟩ := guarded moved
    exact sound.wc flying success
  | callback => exact sound.stepCallback moved

omit sound in
theorem sound_run {events : List Event} {t : State} (specified : ∀ e ∈ events, e.Specified)
    (reached : run step .init events = some t) : Sound t :=
  run_preserves (fun _ _ _ sound admitted moved => sound.step admitted moved) sound_init
    ((along_iff_forall reached).mpr specified) reached

omit sound in
theorem ended {t : State} (stuck : ∀ e, step t e = none) :
    (∃ ret, t.waiter = .finished ret) ∧ (t.callback = .idle ∨ t.callback = .finished) ∧
      t.inFlight = false := by
  refine ⟨?_, ?_, ?_⟩
  · cases here : t.waiter with
    | finished ret => exact ⟨ret, rfl⟩
    | alloc => simpa [step, here] using stuck (.kzalloc false)
    | post => simpa [step, here] using stuck (.postSend (.ok ()))
    | wait => simpa [step, here] using stuck (.giveUp false)
    | dropCallback | readStatus | abandon | put | releaseMr | releaseFree | returned =>
      simpa [step, stepWaiter, here] using stuck .waiter
  · cases here : t.callback with
    | idle => exact .inl rfl
    | finished => exact .inr rfl
    | store | complete | put | releaseMr | releaseFree =>
      simpa [step, stepCallback, here] using stuck .callback
  · by_contra flying
    simpa [step, flying] using stuck (.wc true)

theorem Sound.freed_once :
    s.freed ≤ 1 ∧
      (s.freed = 1 → s.waiter.holds = 0 ∧ s.callback.holds = 0 ∧ s.inFlight = false) := by
  have released := sound.released
  have refs := sound.refs
  split at released
  · rename_i gone
    have idle : s.inFlight.toNat = 0 := by omega
    exact ⟨by omega, fun _ => ⟨by omega, by omega, by simpa using idle⟩⟩
  · exact ⟨by omega, fun freed => by omega⟩

theorem Sound.deregistered : s.callerDeregs + s.releaserDeregs ≤ 1 := by
  have caller := sound.caller
  have releaser := sound.releaser
  have once := sound.released
  have freeing : s.waiter.freeing ≤ s.waiter.releasing ∧
      s.callback.freeing ≤ s.callback.releasing := by
    constructor
    · cases s.waiter <;> simp [Waiter.freeing, Waiter.releasing]
    · cases s.callback <;> simp [Callback.freeing, Callback.releasing]
  have given : s.waiter.givenBack ≤ 1 ∧ (s.waiter.leaves = true → s.waiter.givenBack = 0) := by
    cases s.waiter with
    | finished ret =>
      simp only [Waiter.givenBack, Waiter.leaves]
      split
      · exact ⟨by omega, fun _ => rfl⟩
      · rename_i fails
        exact ⟨by omega, fun left => absurd (.inr (of_decide_eq_true left)) fails⟩
    | _ => exact ⟨by simp [Waiter.givenBack], fun _ => rfl⟩
  rw [← sound.kept] at given
  split at releaser
  · rename_i left
    have none_given := given.2 left
    split at once <;> omega
  · omega

theorem Sound.kept_ok (here : s.waiter = .returned (.ok ()) ∨ s.waiter = .finished (.ok ())) :
    s.callerDeregs + s.releaserDeregs = 0 := by
  have caller := sound.caller
  have releaser := sound.releaser
  have kept := sound.kept
  rcases here with here | here <;> rw [here] at caller kept <;>
    simp [kept, caller, releaser, Waiter.givenBack, Waiter.leaves, Abandoned]

theorem Sound.balance (here : s.waiter = .finished ret)
    (callback : s.callback = .idle ∨ s.callback = .finished) (drained : s.inFlight = false) :
    s.freed = (if s.allocated then 1 else 0) ∧
      s.callerDeregs + s.releaserDeregs = if ret = .ok () then 0 else 1 := by
  have gone : s.callback.holds = 0 ∧ s.callback.releasing = 0 ∧ s.callback.freeing = 0 := by
    rcases callback with same | same <;> rw [same] <;> exact ⟨rfl, rfl, rfl⟩
  have refs : s.refs = 0 := by
    rw [sound.refs, here, gone.1, drained]
    rfl
  have freed : s.freed = if s.allocated then 1 else 0 := by
    simpa [here, gone, refs, Waiter.releasing] using sound.released
  refine ⟨freed, ?_⟩
  rw [sound.caller, sound.releaser, here, gone.2.2]
  have left : s.mr = decide (Abandoned ret) := by rw [sound.kept, here, Waiter.leaves]
  by_cases gave : Abandoned ret
  · have left : s.mr = true := left.trans (decide_eq_true gave)
    have fails : ret ≠ .ok () := by
      rintro rfl
      simp [Abandoned] at gave
    simp [left, freed, sound.made left, fails, gave, Waiter.givenBack, Waiter.freeing]
  · have left : s.mr = false := left.trans (decide_eq_false gave)
    simp [left, gave, Waiter.givenBack]

end

/-- In every run the two threads never touch a freed record and never deregister a region under
way. When both are done the record was freed once, and the region was given back once exactly if
the call failed. -/
theorem region_given_back {events : List Event} {t : State}
    (specified : ∀ e ∈ events, e.Specified) (reached : run step .init events = some t) :
    t.fault = false ∧ t.freed ≤ 1 ∧
      (t.freed = 1 → t.waiter.holds = 0 ∧ t.callback.holds = 0 ∧ t.inFlight = false) ∧
      t.callerDeregs + t.releaserDeregs ≤ 1 ∧
      (t.waiter = .returned (.ok ()) ∨ t.waiter = .finished (.ok ()) →
        t.callerDeregs + t.releaserDeregs = 0) ∧
      ((∀ e, step t e = none) → ∃ ret, t.waiter = .finished ret ∧
        t.freed = (if t.allocated then 1 else 0) ∧
        t.callerDeregs + t.releaserDeregs = if ret = .ok () then 0 else 1) := by
  have sound := sound_run specified reached
  refine ⟨sound.faultless, sound.freed_once.1, sound.freed_once.2, sound.deregistered,
    sound.kept_ok, fun stuck => ?_⟩
  obtain ⟨⟨ret, here⟩, callback, drained⟩ := ended stuck
  exact ⟨ret, here, sound.balance here callback drained⟩

/-- The wait times out, and the completion that comes later releases the record and the region. -/
theorem region_given_back_late : ∃ events t,
    (∀ e ∈ events, e.Specified) ∧ run step .init events = some t ∧ (∀ e, step t e = none) ∧
      t.fault = false ∧ t.freed = 1 ∧ t.callerDeregs = 0 ∧ t.releaserDeregs = 1 := by
  let events : List Event := [.kzalloc true, .postSend (.ok ()), .giveUp false, .waiter, .waiter,
    .waiter, .wc false, .callback, .callback, .callback, .callback, .callback]
  have specified : ∀ e ∈ events, e.Specified := by
    simp [events, Event.Specified, Abandoned]
  have evaluated : run step .init events = some ⟨.finished (.error .ETIMEDOUT), .finished, false,
      true, 0, .error Errno.EIO, true, true, 1, 0, 1, false⟩ := by decide +kernel
  have stuck : ∀ e, step ⟨.finished (.error .ETIMEDOUT), .finished, false, true, 0,
    .error Errno.EIO, true, true, 1, 0, 1, false⟩ e = none := by
    rintro (_ | _ | _ | _ | _ | _ | _) <;> simp [step, stepWaiter, stepCallback]
  have given := region_given_back specified evaluated
  exact ⟨events, _, specified, evaluated, stuck, given.1, rfl, rfl, rfl⟩

end Urp.Fast.RegMr
