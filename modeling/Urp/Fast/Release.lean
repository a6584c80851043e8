import Urp.Fast.Custody
import Urp.Fast.Own

/-!
# Releasing a pool

UNREGISTER looks at the bitmap only.
-/

namespace Urp.Fast

open Urp.Lib Urp.Lib.Pool List Option

/-- UNREGISTER finds in the bitmap what the owners are. -/
theorem Device.ownAnyKernel_eq (d : Device) {bpw count : UInt32} {own : Own.Words bpw}
    {owned : Finset Nat} (positive : 0 < bpw.toNat) (rep : Own.Represents count own owned)
    (size : d.count = count.toNat) (same : ∀ b < d.count, b ∈ owned ↔ (d.own b).isSome = true) :
    Own.ownAnyKernel own count = some d.ownAnyKernel := by
  rw [rep.ownAnyKernel_eq positive, Device.ownAnyKernel, some_inj, Bool.eq_iff_iff,
    decide_eq_true_iff, List.any_eq_true]
  refine exists_congr fun b => ?_
  rw [mem_range]
  refine ⟨fun listed => ?_, fun ⟨bound, busy⟩ => (same b bound).mpr busy⟩
  have bound : b < d.count := size ▸ rep.below b listed
  exact ⟨bound, (same b bound).mp listed⟩

def Thread.accesses : Thread → Bool
  | .enter _ | .refused _ _ | .cancelled _ | .unregister | .poolRelease | .done => false
  | _ => true

def Thread.isCancel : Thread → Bool
  | .cancel _ | .cancelled _ => true
  | _ => false

variable {d d' : Device} {t t' : Thread} {i : Nat} {ch : Choice}

theorem Thread.accesses_cases (accesses : t.accesses = true) :
    (∃ b c, t.custody = some (b, c)) ∨ t.lingers = true ∨ t.locks = 1 ∨ t.isCancel = true := by
  cases t <;> simp_all [Thread.accesses, Thread.custody, Thread.lingers, Thread.locks,
    Thread.isCancel]

def Quiet (d : Device) (e : Event) : Prop :=
  ∀ i ch, e = .act i ch → d.threads[i]? = some .poolRelease → ∀ t ∈ d.threads, t.lingers = false

structure Live (d : Device) : Prop where
  owned : Owned d
  current : d.stale = false
  uncancelled : ∀ t ∈ d.threads, t.isCancel = false
  checked : ∀ i : Nat, d.threads[i]? = some .poolRelease → ∀ b < d.count, d.own b = none
  gone : d.registered = false → ∀ t ∈ d.threads, t.accesses = false

theorem live_init (count : Nat) : Live (.init count) where
  owned := owned_init count
  current := rfl
  uncancelled t here := by simp [Device.init] at here
  checked i here := by simp [Device.init] at here
  gone registered := by simp [Device.init] at registered

section

variable (moves : Moves d t d' t')
include moves

theorem Moves.current (registered : d.registered = true)
    (current : d.stale = false) : d'.stale = false := by
  cases moves <;> simp [Device.touch, Device.setOwn, Device.setOp, Device.fillOp, Device.giveUp,
    Device.setStage, Device.unlock, Device.record, Device.complete, registered, current]

theorem Moves.outside (registered : d.registered = false) (outside : t.accesses = false) :
    d'.stale = d.stale ∧ d'.registered = false ∧ t'.accesses = false := by
  cases moves <;> simp_all [Thread.accesses, Device.setStage, Device.complete]

theorem Moves.registered : d'.registered = d.registered ∨ t = .poolRelease := by
  cases moves with
  | poolRelease => exact .inr rfl
  | _ => exact .inl rfl

theorem Moves.isCancel (before : t.isCancel = false) : t'.isCancel = false := by
  cases moves with
  | cancel => cases before
  | _ => rfl

theorem Moves.count : d'.count = d.count := by
  cases moves <;> rfl

theorem Moves.own_none {b : Nat} (free : d.own b = none) : d'.own b = none ∨ t.locks = 1 := by
  have dropped : ∀ b', Function.update d.own b' none b = none := by
    intro b'
    by_cases this : b = b'
    · simp [this]
    · simp [Function.update_of_ne this, free]
  cases moves with
  | claim => exact .inr rfl
  | release | refuse | refuseSkip | sendRelease | recvRelease | recvSkip => exact .inl (dropped _)
  | _ => exact .inl free

end

theorem Live.moves (live : Live d) (here : d.threads[i]? = some t) (moves : Moves d t d' t')
    (quiet : t = .poolRelease → ∀ u ∈ d.threads, u.lingers = false) :
    Live { d' with threads := d.threads.set i t' } where
  owned := live.owned.moves here moves
  current := by
    cases registered : d.registered with
    | true => exact moves.current registered live.current
    | false =>
      have outside := live.gone registered t (mem_of_getElem? here)
      exact (moves.outside registered outside).1.trans live.current
  uncancelled u there := by
    rcases mem_or_eq_of_mem_set there with old | rfl
    · exact live.uncancelled u old
    · exact moves.isCancel (live.uncancelled t (mem_of_getElem? here))
  checked j there b bound := by
    rw [moves.count] at bound
    rcases getElem?_set_cases here there with ⟨-, same⟩ | ⟨other, there⟩
    · subst same
      cases moves with
      | unregisterCheck drained =>
        simp only [Device.ownAnyKernel, List.any_eq_false, mem_range] at drained
        exact not_isSome_iff_eq_none.mp (drained b bound)
    · refine (moves.own_none (live.checked j there b bound)).resolve_right fun inside => ?_
      have apart := live.owned.lock_apart here there other inside
      cases apart
  gone released u there := by
    obtain ⟨j, there⟩ := List.getElem?_of_mem there
    rcases getElem?_set_cases here there with ⟨-, rfl⟩ | ⟨other, there⟩
    · rcases moves.registered with same | rfl
      · have before : d.registered = false := same.symm.trans released
        exact (moves.outside before (live.gone before t (mem_of_getElem? here))).2.2
      · cases moves
        rfl
    · have member := mem_of_getElem? there
      rcases moves.registered with same | rfl
      · exact live.gone (same.symm.trans released) u member
      · by_contra accesses
        simp only [Bool.not_eq_false] at accesses
        rcases Thread.accesses_cases accesses with ⟨b, c, custody⟩ | lingers | inside | cancels
        · obtain ⟨owner, bound⟩ := live.owned.owner j u b c there custody
          simp [live.checked i here b bound] at owner
        · simp [quiet rfl u member] at lingers
        · have apart := live.owned.lock_apart here there other rfl
          omega
        · simp [live.uncancelled u member] at cancels

theorem Live.spawn (live : Live d) (custody : t.custody = none) (outside : t.locks = 0)
    (later : t.accesses = false) (other : t.isCancel = false) :
    Live { d with threads := d.threads ++ [t] } where
  owned := live.owned.spawn custody outside (by rintro c r rfl; cases outside)
  current := live.current
  uncancelled u there := by
    rcases mem_append.mp there with old | new
    · exact live.uncancelled u old
    · exact mem_singleton.mp new ▸ other
  checked j there := by
    rcases getElem?_spawn_cases there with rfl | there
    · cases outside
    · exact live.checked j there
  gone released u there := by
    rcases mem_append.mp there with old | new
    · exact live.gone released u old
    · exact mem_singleton.mp new ▸ later

theorem Live.step {e : Event} (live : Live d) (uncancelled : ∀ c, e ≠ .cancel c) (quiet : Quiet d e)
    (moved : step d e = some d') : Live d' := by
  cases e with
  | submit r | unregister =>
    cases moved
    exact live.spawn rfl rfl rfl rfl
  | cancel c => exact absurd rfl (uncancelled c)
  | act i ch =>
    obtain ⟨t, d'', t', here, moves, rfl⟩ := moves_of_step moved
    exact live.moves here moves (fun same => quiet i ch rfl (same ▸ here))

/-- No access to the slots or the bitmap of a released pool, in every run in which UNREGISTER
frees them only when no handler and no deferred work is left that reads a slot. -/
theorem current_throughout (count : Nat) {events : List Event}
    (uncancelled : ∀ e ∈ events, ∀ c, e ≠ .cancel c)
    (quiet : Along step Quiet (.init count) events) :
    Throughout step (fun d => d.stale = false) (.init count) events :=
  throughout_of_along (fun _ _ _ live admitted moved => live.step admitted.1 admitted.2 moved)
    (fun _ live => live.current) (live_init count)
    ((along_of_forall (fun _ => uncancelled) _).and quiet)

def sendThenUnregister (before after : Nat) : List Event :=
  let ok : Choice := ⟨true, Errno.EIO, .success 0 fun _ => 0⟩
  [.submit ⟨.send, 0, 4, 1⟩, .unregister] ++ List.replicate before (.act 0 ok) ++
    List.replicate 3 (.act 1 ok) ++ List.replicate after (.act 0 ok)

/-- The whole SEND is over, its answer included, before UNREGISTER looks. -/
theorem current_throughout_answered :
    Throughout step (fun d => d.stale = false) (.init 1) (sendThenUnregister 9 0) ∧
      ∃ d, run step (.init 1) (sendThenUnregister 9 0) = some d ∧ d.registered = false ∧
        d.cqes = [⟨0, .ok 4, 0⟩] := by
  let check (d : Device) : Event → Bool
    | .act i _ => (d.threads[i]?).all fun
      | .poolRelease => d.threads.all fun t => !t.lingers
      | _ => true
    | _ => true
  have checked : checkAlong step check (.init 1) (sendThenUnregister 9 0) = true := by
    decide +kernel
  have evaluated : (run step (.init 1) (sendThenUnregister 9 0)).any (fun d =>
      !d.registered && d.cqes == [⟨0, .ok 4, 0⟩]) = true := by
    decide +kernel
  obtain ⟨d, reached, released⟩ := (Option.any_eq_true ..).mp evaluated
  simp only [Bool.and_eq_true, Bool.not_eq_true', beq_iff_eq] at released
  refine ⟨current_throughout 1 ?_ (along_of_checkAlong ?_ checked), d, reached, released⟩
  · simp [sendThenUnregister]
  · rintro s _ - quiet i ch rfl here t member
    have all_quiet : s.threads.all (fun t => !t.lingers) = true := by
      simpa [check, here] using quiet
    simpa using all_eq_true.mp all_quiet t member

/-- The send is done and its buffer given back, UNREGISTER frees the pool, and the deferred work
then reads the slot. -/
theorem task_reads_released : ∃ d, run step (.init 1) (sendThenUnregister 8 1) = some d ∧
    d.registered = false ∧ d.stale = true := by
  decide +kernel

end Urp.Fast
