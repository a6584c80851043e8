import Urp.Lib.Pool

/-!
# Objects behind mutexes
-/

namespace Urp.Lib.Mutex

open Urp.Lib.Pool Function

universe u v

structure Monitor (X : Type u) (T : Type v) where
  objects : Nat → Option X
  lock : Nat → Option Nat
  threads : List T

inductive Effect (X : Type u) (T : Type v) where
  | move (t : T)
  | create (o : Nat) (x : X) (t : T)
  | acquire (o : Nat) (t : T)
  | update (o : Nat) (x : X) (t : T)
  | release (o : Nat) (x : X) (t : T)

variable {X : Type u} {T : Type v}

namespace Effect

def next : Effect X T → T
  | .move t | .create _ _ t | .acquire _ t | .update _ _ t | .release _ _ t => t

def write (objects : Nat → Option X) : Effect X T → Nat → Option X
  | .create o x _ | .update o x _ | .release o x _ => Function.update objects o (some x)
  | .move _ | .acquire _ _ => objects

def relock (i : Nat) (lock : Nat → Option Nat) : Effect X T → Nat → Option Nat
  | .acquire o _ => Function.update lock o (some i)
  | .release o _ _ => Function.update lock o none
  | .move _ | .create _ _ _ | .update _ _ _ => lock

def enabled (m : Monitor X T) : Effect X T → Bool
  | .create o _ _ => (m.objects o).isNone
  | .acquire o _ => (m.lock o).isNone
  | .move _ | .update _ _ _ | .release _ _ _ => true

end Effect

namespace Monitor

def init : Monitor X T := ⟨fun _ => none, fun _ => none, []⟩

def spawn (m : Monitor X T) (t : T) : Monitor X T := { m with threads := m.threads ++ [t] }

/-- Thread `i` takes its step, or `none` where it has to wait. -/
def apply (m : Monitor X T) (i : Nat) (e : Effect X T) : Option (Monitor X T) :=
  if e.enabled m then some ⟨e.write m.objects, e.relock i m.lock, m.threads.set i e.next⟩
  else none

theorem apply_eq_some {m m' : Monitor X T} {i : Nat} {e : Effect X T} : m.apply i e = some m' ↔
      e.enabled m = true ∧ m' = ⟨e.write m.objects, e.relock i m.lock, m.threads.set i e.next⟩ := by
  rw [apply, Option.ite_none_right_eq_some, Option.some.injEq, eq_comm (a := m')]

end Monitor

section Rules

/-! `locks` is the object whose mutex a thread has, `Rest` holds of every object that nobody has
locked, and `At` is what the owner knows. -/

variable (locks : T → Option Nat) (Rest : X → Prop) (At : T → X → Prop)

/-- What a step of a thread in the state `t` has to show. -/
def Effect.Proper (objects : Nat → Option X) (t : T) : Effect X T → Prop
  | .move t' => locks t = none ∧ locks t' = none
  | .create _ x t' => locks t = none ∧ locks t' = none ∧ Rest x
  | .acquire o t' =>
    locks t = none ∧ locks t' = some o ∧ ∃ x, objects o = some x ∧ (Rest x → At t' x)
  | .update o x' t' =>
    locks t = some o ∧ locks t' = some o ∧ ∀ x, objects o = some x → At t x → At t' x'
  | .release o x' t' =>
    locks t = some o ∧ locks t' = none ∧ ∀ x, objects o = some x → At t x → Rest x'

variable {locks Rest At} {m m' : Monitor X T} {i j o : Nat} {t t' u : T} {x x' : X}
  {objects : Nat → Option X} {e : Effect X T}

section

variable (made : objects o = some x)
include made

theorem Effect.proper_acquire (unlocked : locks t = none)
    (locked : locks t' = some o) (knows : Rest x → At t' x) :
    (Effect.acquire o t' : Effect X T).Proper locks Rest At objects t :=
  ⟨unlocked, locked, x, made, knows⟩

theorem Effect.proper_update (before : locks t = some o)
    (after : locks t' = some o) (knows : At t x → At t' x') :
    (Effect.update o x' t').Proper locks Rest At objects t := by
  refine ⟨before, after, fun y made' known => knows ?_⟩
  obtain rfl : x = y := Option.some.inj (made.symm.trans made')
  exact known

theorem Effect.proper_release (before : locks t = some o)
    (after : locks t' = none) (knows : At t x → Rest x') :
    (Effect.release o x' t').Proper locks Rest At objects t := by
  refine ⟨before, after, fun y made' known => knows ?_⟩
  obtain rfl : x = y := Option.some.inj (made.symm.trans made')
  exact known

end

variable (locks Rest At) in
structure Guarded (m : Monitor X T) : Prop where
  held : ∀ i t o, m.threads[i]? = some t → locks t = some o →
    m.lock o = some i ∧ ∃ x, m.objects o = some x ∧ At t x
  owned : ∀ i o, m.lock o = some i → ∃ t, m.threads[i]? = some t ∧ locks t = some o
  rest : ∀ o x, m.objects o = some x → m.lock o = none → Rest x

theorem guarded_init : Guarded locks Rest At (.init : Monitor X T) where
  held i t o here := by simp [Monitor.init] at here
  owned i o locked := by cases locked
  rest o x made := by cases made

section

variable (guarded : Guarded locks Rest At m)
include guarded

theorem Guarded.forall_objects {P : X → Prop} (of_rest : ∀ x, Rest x → P x)
    (of_at : ∀ t x, At t x → P x) (made : m.objects o = some x) : P x := by
  cases locked : m.lock o with
  | none => exact of_rest x (guarded.rest o x made locked)
  | some i =>
    obtain ⟨t, here, owns⟩ := guarded.owned i o locked
    obtain ⟨-, x', made', known⟩ := guarded.held i t o here owns
    obtain rfl : x' = x := Option.some.inj (made'.symm.trans made)
    exact of_at t x' known

theorem Guarded.spawn (unlocked : locks t = none) : Guarded locks Rest At (m.spawn t) where
  held i u o here owns := by
    rcases getElem?_spawn_cases here with rfl | here
    · cases unlocked.symm.trans owns
    · exact guarded.held i u o here owns
  owned i o locked := by
    obtain ⟨u, here, owns⟩ := guarded.owned i o locked
    refine ⟨u, ?_, owns⟩
    rw [Monitor.spawn, List.getElem?_append_left (List.getElem?_eq_some_iff.mp here).1, here]
  rest o x made locked := guarded.rest o x made locked

section

variable (here : m.threads[i]? = some t)
include here

theorem Guarded.apart (there : m.threads[j]? = some u) (other : j ≠ i) (owns : locks u = some o) :
    locks t ≠ some o := by
  intro mine
  have by_i := (guarded.held i t o here mine).1
  have by_j := (guarded.held j u o there owns).1
  exact other (Option.some.inj (by_j.symm.trans by_i))

section

variable (proper : e.Proper locks Rest At m.objects t)
include proper

theorem Guarded.frame (enabled : e.enabled m = true)
    (there : m.threads[j]? = some u) (other : j ≠ i) (owns : locks u = some o) :
    e.write m.objects o = m.objects o ∧ e.relock i m.lock o = m.lock o := by
  have apart := guarded.apart here there other owns
  obtain ⟨owner, x, made, -⟩ := guarded.held j u o there owns
  cases e with
  | move t' => exact ⟨rfl, rfl⟩
  | create o' x' t' =>
    have elsewhere : o ≠ o' := by
      rintro rfl
      simp [Effect.enabled, made] at enabled
    exact ⟨update_of_ne elsewhere _ _, rfl⟩
  | acquire o' t' =>
    have elsewhere : o ≠ o' := by
      rintro rfl
      simp [Effect.enabled, owner] at enabled
    exact ⟨rfl, update_of_ne elsewhere _ _⟩
  | update o' x' t' =>
    have elsewhere : o ≠ o' := by
      rintro rfl
      exact apart proper.1
    exact ⟨update_of_ne elsewhere _ _, rfl⟩
  | release o' x' t' =>
    have elsewhere : o ≠ o' := by
      rintro rfl
      exact apart proper.1
    exact ⟨update_of_ne elsewhere _ _, update_of_ne elsewhere _ _⟩

theorem Guarded.own (enabled : e.enabled m = true) (owns : locks e.next = some o) :
    e.relock i m.lock o = some i ∧ ∃ x, e.write m.objects o = some x ∧ At e.next x := by
  cases e with
  | move t' => cases proper.2.symm.trans owns
  | create o' x' t' => cases proper.2.1.symm.trans owns
  | acquire o' t' =>
    obtain ⟨-, acquires, x, made, known⟩ := proper
    obtain rfl : o' = o := Option.some.inj (acquires.symm.trans owns)
    have free : m.lock o' = none := Option.isNone_iff_eq_none.mp enabled
    exact ⟨update_self _ _ _, x, made, known (guarded.rest o' x made free)⟩
  | update o' x' t' =>
    obtain ⟨owned, keeps, knows⟩ := proper
    obtain rfl : o' = o := Option.some.inj (keeps.symm.trans owns)
    obtain ⟨owner, x, made, known⟩ := guarded.held i t o' here owned
    exact ⟨owner, x', update_self _ _ _, knows x made known⟩
  | release o' x' t' => cases proper.2.1.symm.trans owns

theorem Guarded.owned_apply (locked : e.relock i m.lock o = some j) :
    ∃ u, (m.threads.set i e.next)[j]? = some u ∧ locks u = some o := by
  have bound := (List.getElem?_eq_some_iff.mp here).1
  -- A mutex that was owned before still is, unless this thread gave it up.
  have kept (before : m.lock o = some j) (mine : locks t = some o → locks e.next = some o) :
      ∃ u, (m.threads.set i e.next)[j]? = some u ∧ locks u = some o := by
    obtain ⟨u, there, owns⟩ := guarded.owned j o before
    rcases eq_or_ne j i with rfl | same
    · obtain rfl : t = u := Option.some.inj (here.symm.trans there)
      exact ⟨e.next, List.getElem?_set_self bound, mine owns⟩
    · exact ⟨u, by rw [List.getElem?_set_ne (Ne.symm same), there], owns⟩
  cases e with
  | move t' | create o' x' t' => exact kept locked fun mine => by cases proper.1.symm.trans mine
  | acquire o' t' =>
    rcases eq_or_ne o o' with rfl | same
    · rw [Effect.relock, update_self] at locked
      obtain rfl : i = j := Option.some.inj locked
      exact ⟨t', List.getElem?_set_self bound, proper.2.1⟩
    · rw [Effect.relock, update_of_ne same] at locked
      exact kept locked fun mine => by cases proper.1.symm.trans mine
  | update o' x' t' =>
    refine kept locked fun mine => ?_
    obtain rfl : o' = o := Option.some.inj (proper.1.symm.trans mine)
    exact proper.2.1
  | release o' x' t' =>
    rcases eq_or_ne o o' with rfl | same
    · rw [Effect.relock, update_self] at locked
      cases locked
    · rw [Effect.relock, update_of_ne same] at locked
      refine kept locked fun mine => ?_
      exact absurd (Option.some.inj (mine.symm.trans proper.1)) same

theorem Guarded.rest_apply
    (made : e.write m.objects o = some x) (free : e.relock i m.lock o = none) : Rest x := by
  cases e with
  | move t' => exact guarded.rest o x made free
  | create o' x' t' =>
    rcases eq_or_ne o o' with rfl | same
    · rw [Effect.write, update_self] at made
      obtain rfl : x' = x := Option.some.inj made
      exact proper.2.2
    · rw [Effect.write, update_of_ne same] at made
      exact guarded.rest o x made free
  | acquire o' t' =>
    rcases eq_or_ne o o' with rfl | same
    · rw [Effect.relock, update_self] at free
      cases free
    · rw [Effect.relock, update_of_ne same] at free
      exact guarded.rest o x made free
  | update o' x' t' =>
    rcases eq_or_ne o o' with rfl | same
    · cases (guarded.held i t o here proper.1).1.symm.trans free
    · rw [Effect.write, update_of_ne same] at made
      exact guarded.rest o x made free
  | release o' x' t' =>
    rcases eq_or_ne o o' with rfl | same
    · obtain ⟨-, x₀, made₀, known⟩ := guarded.held i t o here proper.1
      rw [Effect.write, update_self] at made
      obtain rfl : x' = x := Option.some.inj made
      exact proper.2.2 x₀ made₀ known
    · rw [Effect.write, update_of_ne same] at made
      rw [Effect.relock, update_of_ne same] at free
      exact guarded.rest o x made free

theorem Guarded.apply (applied : m.apply i e = some m') : Guarded locks Rest At m' := by
  obtain ⟨enabled, rfl⟩ := Monitor.apply_eq_some.mp applied
  refine ⟨?_, ?_, ?_⟩
  · intro j u o there owns
    rcases getElem?_set_cases here there with ⟨rfl, rfl⟩ | ⟨other, there⟩
    · exact guarded.own here proper enabled owns
    · obtain ⟨same, owner⟩ := guarded.frame here proper enabled there other owns
      obtain ⟨locked, x, made, known⟩ := guarded.held j u o there owns
      exact ⟨owner.trans locked, x, same.trans made, known⟩
  · exact fun j o locked => guarded.owned_apply here proper locked
  · exact fun o x made free => guarded.rest_apply here proper made free

end

end

end

end Rules

end Urp.Lib.Mutex
