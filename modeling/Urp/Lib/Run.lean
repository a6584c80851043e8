import Mathlib.Algebra.Order.Ring.Nat

/-!
# Runs of a partial step function

A system is a function that gives the next state for an event, or `none` where the event cannot
happen.
-/

namespace Urp.Lib

open List Option

universe u v

variable {State : Type u} {Event : Type v}

def run (step : State → Event → Option State) : State → List Event → Option State
  | s, [] => some s
  | s, e :: es => (step s e).bind (fun s' => run step s' es)

def Along (step : State → Event → Option State) (A : State → Event → Prop) :
    State → List Event → Prop
  | _, [] => True
  | s, e :: es => A s e ∧ ∀ s', step s e = some s' → Along step A s' es

variable {step : State → Event → Option State} {A : State → Event → Prop}

@[simp] theorem run_nil (s : State) : run step s [] = some s := rfl

variable {es : List Event} {s t : State}

theorem run_cons_eq_some {e : Event} :
    run step s (e :: es) = some t ↔ ∃ s', step s e = some s' ∧ run step s' es = some t := by
  simp [run, bind_eq_some_iff]

theorem run_append (s : State) (es fs : List Event) :
    run step s (es ++ fs) = (run step s es).bind (fun t => run step t fs) := by
  induction es generalizing s with
  | nil => rfl
  | cons e es ih =>
    simp only [cons_append, run, bind_assoc]
    exact congrArg _ (funext ih)

theorem run_append_eq_some {fs : List Event} : run step s (es ++ fs) = some t ↔
      ∃ m, run step s es = some m ∧ run step m fs = some t := by
  simp [run_append, bind_eq_some_iff]

theorem guarded {c : Prop} [Decidable c]
    (moved : (if c then some s else none) = some t) : c ∧ s = t := by
  simpa using moved

theorem run_history {P : List Event → State → Prop}
    (keeps : ∀ es s e s', P es s → step s e = some s' → P (es ++ [e]) s') (initial : P [] s)
    (reached : run step s es = some t) : P es t := by
  have general : ∀ past s, P past s → run step s es = some t → P (past ++ es) t := by
    clear initial reached
    induction es with
    | nil =>
      intro past s holds reached
      obtain rfl : s = t := by simpa using reached
      simpa using holds
    | cons e es ih =>
      intro past s holds reached
      obtain ⟨m, first, rest⟩ := run_cons_eq_some.mp reached
      simpa using ih (past ++ [e]) m (keeps past s e m holds first) rest
  simpa using general [] s initial reached

variable {P : State → Prop}

theorem run_preserves (keeps : ∀ s e s', P s → A s e → step s e = some s' → P s')
    (initial : P s) (admitted : Along step A s es) (reached : run step s es = some t) : P t := by
  induction es generalizing s with
  | nil =>
    obtain rfl : s = t := by simpa using reached
    exact initial
  | cons e es ih =>
    obtain ⟨m, first, rest⟩ := run_cons_eq_some.mp reached
    exact ih (keeps s e m initial admitted.1 first) (admitted.2 m first) rest

variable {B : State → Event → Prop} {I : State → Prop}

theorem run_iff (invariant : ∀ s e s', I s → B s e → step s e = some s' → I s')
    (exact : ∀ s e s', I s → B s e → step s e = some s' → (P s ∧ A s e ↔ P s'))
    (initial : I s) (bounded : Along step B s es)
    (reached : run step s es = some t) : P s ∧ Along step A s es ↔ P t := by
  induction es generalizing s with
  | nil =>
    obtain rfl : s = t := by simpa using reached
    simp [Along]
  | cons e es ih =>
    obtain ⟨m, first, rest⟩ := run_cons_eq_some.mp reached
    have later := ih (invariant s e m initial bounded.1 first) (bounded.2 m first) rest
    have now := exact s e m initial bounded.1 first
    have tail : Along step A s (e :: es) ↔ A s e ∧ Along step A m es := by
      simp [Along, first]
    rw [tail, ← later, ← now]
    tauto

def Throughout (step : State → Event → Option State) (P : State → Prop) :
    State → List Event → Prop
  | s, [] => P s
  | s, e :: es => P s ∧ ∀ s', step s e = some s' → Throughout step P s' es

theorem Throughout.start (holds : Throughout step P s es) : P s := by
  cases es with
  | nil => exact holds
  | cons e es => exact holds.1

theorem throughout_iff (invariant : ∀ s e s', I s → P s → A s e → step s e = some s' → I s')
    (exact : ∀ s e s', I s → P s → step s e = some s' → (A s e ↔ P s'))
    (initial : I s) (holds : P s)
    (reached : run step s es = some t) : Throughout step P s es ↔ Along step A s es := by
  induction es generalizing s with
  | nil => simp [Throughout, Along, holds]
  | cons e es ih =>
    obtain ⟨m, first, rest⟩ := run_cons_eq_some.mp reached
    have now := exact s e m initial holds first
    constructor
    · intro throughout
      have later := throughout.2 m first
      have admitted := now.mpr later.start
      refine ⟨admitted, fun s' moved => ?_⟩
      cases first.symm.trans moved
      exact (ih (invariant s e m initial holds admitted first) later.start rest).mp later
    · intro along
      refine ⟨holds, fun s' moved => ?_⟩
      cases first.symm.trans moved
      exact (ih (invariant s e m initial holds along.1 first) (now.mp along.1) rest).mpr
        (along.2 m first)

section

variable (keeps : ∀ s e s', I s → A s e → step s e = some s' → I s')
include keeps

theorem throughout_of_along
    (implies : ∀ s, I s → P s) (initial : I s) (admitted : Along step A s es) :
    Throughout step P s es := by
  induction es generalizing s with
  | nil => exact implies s initial
  | cons e es ih =>
    refine ⟨implies s initial, fun s' moved => ?_⟩
    exact ih (keeps s e s' initial admitted.1 moved) (admitted.2 s' moved)

theorem Along.of_invariant (implies : ∀ s e, I s → A s e → B s e) (initial : I s)
    (admitted : Along step A s es) : Along step B s es := by
  induction es generalizing s with
  | nil => trivial
  | cons e es ih =>
    refine ⟨implies s e initial admitted.1, fun s' moved => ?_⟩
    exact ih (keeps s e s' initial admitted.1 moved) (admitted.2 s' moved)

end

theorem along_of_forall (admitted : ∀ s, ∀ e ∈ es, A s e) (s : State) : Along step A s es := by
  induction es generalizing s with
  | nil => trivial
  | cons e es ih =>
    exact ⟨admitted s e mem_cons_self,
      fun s' _ => ih (fun s e he => admitted s e (mem_cons_of_mem _ he)) s'⟩

theorem throughout_of_invariant (keeps : ∀ s e s', I s → step s e = some s' → I s')
    (implies : ∀ s, I s → P s) (initial : I s) (es : List Event) : Throughout step P s es :=
  throughout_of_along (A := fun _ _ => True) (fun s e s' before _ => keeps s e s' before) implies
    initial (along_of_forall (fun _ _ _ => trivial) s)

theorem along_iff_forall {C : Event → Prop}
    (reached : run step s es = some t) : Along step (fun _ e => C e) s es ↔ ∀ e ∈ es, C e := by
  induction es generalizing s with
  | nil => simp [Along]
  | cons e es ih =>
    obtain ⟨m, first, rest⟩ := run_cons_eq_some.mp reached
    simp [Along, first, ih rest]

theorem Along.mono (weaker : ∀ s e, A s e → B s e)
    (along : Along step A s es) : Along step B s es := by
  induction es generalizing s with
  | nil => trivial
  | cons e es ih => exact ⟨weaker s e along.1, fun s' moved => ih (along.2 s' moved)⟩

theorem Along.and (left : Along step A s es) (right : Along step B s es) :
    Along step (fun s e => A s e ∧ B s e) s es := by
  induction es generalizing s with
  | nil => trivial
  | cons e es ih =>
    exact ⟨⟨left.1, right.1⟩, fun s' moved => ih (left.2 s' moved) (right.2 s' moved)⟩

theorem Along.append {fs : List Event} (first : Along step A s es)
    (rest : ∀ t, run step s es = some t → Along step A t fs) : Along step A s (es ++ fs) := by
  induction es generalizing s with
  | nil => exact rest s rfl
  | cons e es ih =>
    refine ⟨first.1, fun s' moved => ih (first.2 s' moved) fun t reached => rest t ?_⟩
    exact run_cons_eq_some.mpr ⟨s', moved, reached⟩

/-! Runs on fixed events are evaluated. -/

instance Along.decidable [∀ s e, Decidable (A s e)] (s : State) (es : List Event) :
    Decidable (Along step A s es) :=
  match es with
  | [] => .isTrue trivial
  | e :: es =>
    match moved : step s e with
    | none => decidable_of_iff (A s e) (by simp [Along, moved])
    | some m =>
      have := Along.decidable m es
      decidable_of_iff (A s e ∧ Along step A m es) (by simp [Along, moved])

instance decidableExistsSome {α : Type u} (o : Option α) (P : α → Prop) [DecidablePred P] :
    Decidable (∃ x, o = some x ∧ P x) :=
  decidable_of_iff (o.any (P ·) = true) (by simp [Option.any_eq_true])

def checkAlong (step : State → Event → Option State) (check : State → Event → Bool) :
    State → List Event → Bool
  | _, [] => true
  | s, e :: es => check s e && (step s e).all (checkAlong step check · es)

theorem along_of_checkAlong {check : State → Event → Bool}
    (implies : ∀ s, ∀ e ∈ es, check s e = true → A s e)
    (checked : checkAlong step check s es = true) : Along step A s es := by
  induction es generalizing s with
  | nil => trivial
  | cons e es ih =>
    simp only [checkAlong, Bool.and_eq_true] at checked
    refine ⟨implies s e mem_cons_self checked.1, fun s' moved => ih ?_ ?_⟩
    · exact fun s e mem => implies s e (mem_cons_of_mem _ mem)
    · simpa [moved] using checked.2

theorem run_invariant (keeps : ∀ s e s', P s → step s e = some s' → P s')
    (initial : P s) (reached : run step s es = some t) : P t :=
  run_preserves (A := fun _ _ => True) (fun s e s' before _ => keeps s e s' before) initial
    (along_of_forall (fun _ _ _ => trivial) s) reached

end Urp.Lib
