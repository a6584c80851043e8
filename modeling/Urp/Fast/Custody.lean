import Urp.Fast.Device
import Urp.Lib.Pool

/-!
# Who has a buffer
-/

namespace Urp.Fast

open Urp.Lib Urp.Lib.Pool Function

namespace Thread

def custody : Thread → Option (Nat × Nat)
  | .fill c r | .mark c r | .post c r | .release c r | .refuse c r _ | .flying c r
  | .sendStore c r _ | .sendRelease c r _ | .recvStore c r _ | .recvRelease c r _ =>
    some (r.bufIndex, c)
  | _ => none

def has (t : Thread) (b : Nat) : Nat :=
  match t.custody with
  | some (b', _) => if b' = b then 1 else 0
  | none => 0

/-- Inside `ctx->lock`. -/
def locks : Thread → Nat
  | .claim _ _ | .fill _ _ | .mark _ _ | .post _ _ | .release _ _ | .refuse _ _ _
  | .unregisterCheck | .poolRelease => 1
  | _ => 0

def lingers : Thread → Bool
  | .sendSchedule _ _ _ | .task _ _ => true
  | _ => false

theorem has_of_custody {t : Thread} {b c : Nat} (custody : t.custody = some (b, c)) (b' : Nat) :
    t.has b' = if b = b' then 1 else 0 := by
  simp [has, custody]

theorem has_of_none {t : Thread} (custody : t.custody = none) (b : Nat) : t.has b = 0 := by
  simp [has, custody]

theorem has_congr {t t' : Thread} (same : t'.custody = t.custody) (b : Nat) :
    t'.has b = t.has b := by
  simp only [has, same]

end Thread

structure Owned (d : Device) : Prop where
  custody : ∀ b, (d.threads.map (Thread.has · b)).sum = if d.own b = none then 0 else 1
  owner : ∀ (i : Nat) t b c, d.threads[i]? = some t → t.custody = some (b, c) →
    d.own b = some c ∧ b < d.count
  locked : (d.threads.map Thread.locks).sum = d.ctxLock.toNat
  bounded : ∀ (i : Nat) c r, d.threads[i]? = some (.claim c r) → r.bufIndex < d.count

theorem owned_init (count : Nat) : Owned (.init count) where
  custody b := by simp [Device.init]
  owner i t b c here := by simp [Device.init] at here
  locked := by simp [Device.init]
  bounded i c r here := by simp [Device.init] at here

variable {d d' : Device} {t t' : Thread} {i b c : Nat}

namespace Owned

section

variable (owned : Owned d)
include owned

section

variable (here : d.threads[i]? = some t)
include here

theorem apart {j : Nat} {u : Thread} {b' c' : Nat} (there : d.threads[j]? = some u) (other : j ≠ i)
    (custody : t.custody = some (b, c)) (custody' : u.custody = some (b', c')) : b' ≠ b := by
  rintro rfl
  have both := add_le_sum (Thread.has · b') here there (Ne.symm other)
  have once := owned.custody b'
  rw [Thread.has_of_custody custody, Thread.has_of_custody custody', if_pos rfl] at both
  split at once <;> omega

theorem lock_apart {j : Nat} {u : Thread}
    (there : d.threads[j]? = some u) (other : j ≠ i) (inside : t.locks = 1) : u.locks = 0 := by
  have both := add_le_sum Thread.locks here there (Ne.symm other)
  have once := owned.locked
  have one := Bool.toNat_le d.ctxLock
  omega

section

variable (count : d'.count = d.count)
  (locks : t'.locks + d.ctxLock.toNat = t.locks + d'.ctxLock.toNat)
  (bounded : ∀ c r, t' = .claim c r → r.bufIndex < d.count)
include count locks bounded

theorem of_act (sums : ∀ b, t'.has b + (if d.own b = none then 0 else 1) =
      t.has b + if d'.own b = none then 0 else 1)
    (others : ∀ (j : Nat) u b c, j ≠ i → d.threads[j]? = some u → u.custody = some (b, c) →
      d'.own b = d.own b)
    (own : ∀ b c, t'.custody = some (b, c) → d'.own b = some c ∧ b < d.count) :
    Owned { d' with threads := d.threads.set i t' } where
  custody b := sum_set_eq here (owned.custody b) (sums b)
  owner j u b c there custody := by
    rw [count]
    rcases getElem?_set_cases here there with ⟨-, rfl⟩ | ⟨other, there⟩
    · exact own b c custody
    · rw [others j u b c other there custody]
      exact owned.owner j u b c there custody
  locked := sum_set_eq here owned.locked locks
  bounded j c r there := by
    rw [count]
    rcases getElem?_set_cases here there with ⟨-, same⟩ | ⟨-, there⟩
    · exact bounded c r same.symm
    · exact owned.bounded j c r there

theorem stay (own : d'.own = d.own) (same : t'.custody = t.custody) :
    Owned { d' with threads := d.threads.set i t' } := by
  refine owned.of_act here count locks bounded ?_ ?_ ?_
  · intro b
    rw [Thread.has_congr same, own]
  · intro j u b c _ _ _
    rw [own]
  · intro b c custody
    rw [own]
    exact owned.owner i t b c here (same ▸ custody)

theorem take (free : d.own b = none) (own : d'.own = Function.update d.own b (some c))
    (before : t.custody = none) (after : t'.custody = some (b, c)) (bound : b < d.count) :
    Owned { d' with threads := d.threads.set i t' } := by
  refine owned.of_act here count locks bounded ?_ ?_ ?_
  · intro b'
    rw [Thread.has_of_custody after, Thread.has_of_none before, own]
    rcases eq_or_ne b' b with rfl | this
    · simp [free]
    · simp [update_of_ne this, Ne.symm this]
  · intro j u b' c' _ there custody
    have owner := (owned.owner j u b' c' there custody).1
    have this : b' ≠ b := by
      rintro rfl
      simp [free] at owner
    rw [own, update_of_ne this]
  · intro b' c' custody
    cases after.symm.trans custody
    exact ⟨by rw [own, update_self], bound⟩

theorem drop (own : d'.own = Function.update d.own b none) (before : t.custody = some (b, c))
    (after : t'.custody = none) :
    Owned { d' with threads := d.threads.set i t' } := by
  have owner := (owned.owner i t b c here before).1
  refine owned.of_act here count locks bounded ?_ ?_ ?_
  · intro b'
    rw [Thread.has_of_custody before, Thread.has_of_none after, own]
    rcases eq_or_ne b' b with rfl | this
    · simp [owner]
    · simp [update_of_ne this, Ne.symm this]
  · intro j u b' c' other there custody
    rw [own, update_of_ne (owned.apart here there other before custody)]
  · intro b' c' custody
    cases after.symm.trans custody

end

theorem lock_held (inside : t.locks = 1) : d.ctxLock = true := by
  have part := le_sum Thread.locks here
  have once := owned.locked
  by_contra free
  simp only [Bool.not_eq_true] at free
  simp only [free, Bool.toNat_false] at once
  omega

theorem moves (moves : Moves d t d' t') : Owned { d' with threads := d.threads.set i t' } := by
  cases moves with
  | enter free registered bound =>
    refine owned.stay here rfl (by simp [free, Thread.locks]) ?_ rfl rfl
    intro c r same
    exact (Thread.claim.inj same).2 ▸ bound
  | claim free => exact owned.take here rfl rfl nofun free rfl rfl rfl (owned.bounded i _ _ here)
  | busy | postSend | postRecv | unregisterBusy =>
    have held := owned.lock_held here rfl
    exact owned.stay here rfl (by simp [Thread.locks, Device.unlock, held]) nofun rfl rfl
  | release | refuse | refuseSkip =>
    have held := owned.lock_held here rfl
    exact owned.drop here rfl
      (by simp [Thread.locks, Device.unlock, Device.giveUp, Device.setStage, held]) nofun rfl rfl
      rfl
  | sendRelease | recvRelease | recvSkip => exact owned.drop here rfl rfl nofun rfl rfl rfl
  | unregister free => exact owned.stay here rfl (by simp [free, Thread.locks]) nofun rfl rfl
  | poolRelease =>
    have held := owned.lock_held here rfl
    exact owned.stay here rfl (by simp [Thread.locks, held]) nofun rfl rfl
  | reject | unready | fillSend | fillRecv | mark | failSend | failRecv | unrefused | refused | sent
  | received | sendStore | schedule | crash | recvStore | sendTask | recvTask | cancelLate | cancel
  | cancelled | unregistered | unregisterCheck => exact owned.stay here rfl rfl nofun rfl rfl

end

theorem spawn (custody : t.custody = none) (outside : t.locks = 0)
    (entering : ∀ c r, t ≠ .claim c r) : Owned { d with threads := d.threads ++ [t] } where
  custody b := by
    rw [sum_spawn, Thread.has_of_none custody]
    exact owned.custody b
  owner j u b c there custody' := by
    rcases getElem?_spawn_cases there with rfl | there
    · cases custody.symm.trans custody'
    · exact owned.owner j u b c there custody'
  locked := by
    rw [sum_spawn, outside]
    exact owned.locked
  bounded j c r there := by
    rcases getElem?_spawn_cases there with same | there
    · exact absurd same.symm (entering c r)
    · exact owned.bounded j c r there

end

end Owned

end Urp.Fast
