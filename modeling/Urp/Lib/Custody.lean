import Urp.Lib.Flags

/-!
# Custody of handles

Handles are numbered in the order they come in, kept in numbered places and destroyed.
-/

namespace Urp.Lib

open List
open Function (update update_eq_self update_of_ne update_self)

structure Custody where
  next : Nat
  place : Nat → Option Nat
  context : Nat → Bool
  destroyed : Nat → Nat
  freed : Nat → Nat

namespace Custody

def empty : Custody := ⟨0, fun _ => none, fun _ => false, fun _ => 0, fun _ => 0⟩

def leak (c : Custody) : Custody := { c with next := c.next + 1 }

def record (c : Custody) (p : Nat) : Custody :=
  { c with
    next := c.next + 1
    place := update c.place p (some c.next)
    context := update c.context c.next true }

def discard (c : Custody) (context : Bool) : Custody :=
  { c with
    next := c.next + 1
    context := update c.context c.next context
    destroyed := update c.destroyed c.next (c.destroyed c.next + 1)
    freed := if context then update c.freed c.next (c.freed c.next + 1) else c.freed }

def dispose (c : Custody) (p : Nat) : Custody :=
  match c.place p with
  | none => c
  | some id =>
    { c with
      place := update c.place p none
      destroyed := update c.destroyed id (c.destroyed id + 1)
      freed := update c.freed id (c.freed id + 1) }

def kill (c : Custody) (p : Nat) : Custody :=
  match c.place p with
  | none => c
  | some id => { c with destroyed := update c.destroyed id (c.destroyed id + 1) }

def disposeAll (c : Custody) (places : Nat) : Custody :=
  (List.range places).foldl dispose c

def holders (c : Custody) (places id : Nat) : Nat :=
  raised (fun p => decide (c.place p = some id)) places

structure Kept (c : Custody) (places id : Nat) : Prop where
  holders : c.holders places id = 1
  context : c.context id = true
  destroyed : c.destroyed id = 0
  freed : c.freed id = 0

structure Gone (c : Custody) (places id : Nat) : Prop where
  holders : c.holders places id = 0
  destroyed : c.destroyed id = 1
  freed : c.freed id = if c.context id then 1 else 0

def Known (c : Custody) : Prop := ∀ p id, c.place p = some id → id < c.next

structure Owned (c : Custody) (places : Nat) : Prop where
  each : ∀ id < c.next, c.Kept places id ∨ c.Gone places id
  known : c.Known
  fresh : ∀ id, c.next ≤ id → c.destroyed id = 0 ∧ c.freed id = 0

section Rules

variable {c c' : Custody} {places p id : Nat}

theorem owned_empty (places : Nat) : empty.Owned places where
  each id small := absurd small (Nat.not_lt_zero id)
  known p id held := by cases held
  fresh id _ := ⟨rfl, rfl⟩

theorem holders_congr (same : ∀ k < places, c'.place k = some id ↔ c.place k = some id) :
    c'.holders places id = c.holders places id :=
  raised_congr fun k small => decide_eq_decide.mpr (same k small)

theorem holders_pos (bound : p < places) (held : c.place p = some id) :
    0 < c.holders places id := raised_pos bound (decide_eq_true held)

theorem holders_new (owned : c.Owned places) (beyond : c.next ≤ id) : c.holders places id = 0 := by
  rw [← raised_lowered places]
  refine raised_congr fun k _ => decide_eq_false fun held => ?_
  exact absurd (owned.known k id held) (Nat.not_lt.mpr beyond)

theorem Owned.kept (owned : c.Owned places) (bound : p < places) (held : c.place p = some id) :
    c.Kept places id := by
  rcases owned.each id (owned.known p id held) with kept | gone
  · exact kept
  · exact absurd gone.holders (Nat.ne_of_gt (holders_pos bound held))

theorem Owned.alone (owned : c.Owned places) (bound : p < places) (held : c.place p = some id)
    {k : Nat} (inside : k < places) (other : k ≠ p) : c.place k ≠ some id := by
  intro twice
  have kept := (owned.kept bound held).holders
  have lowered := raised_change (fun k => decide (c.place k = some id))
    (update (fun k => decide (c.place k = some id)) p false) bound
    fun j _ differs => update_of_ne differs ..
  rw [if_pos (decide_eq_true held), update_self, if_neg Bool.false_ne_true] at lowered
  have more : 0 < raised (update (fun k => decide (c.place k = some id)) p false) places :=
    raised_pos inside (by rw [update_of_ne other]; exact decide_eq_true twice)
  unfold Custody.holders at kept
  omega

theorem untouched (same : ∀ k < places, c'.place k = some id ↔ c.place k = some id)
    (context : c'.context id = c.context id) (destroyed : c'.destroyed id = c.destroyed id)
    (freed : c'.freed id = c.freed id) (before : c.Kept places id ∨ c.Gone places id) :
    c'.Kept places id ∨ c'.Gone places id := by
  have holders := holders_congr same
  rcases before with kept | gone
  · exact .inl ⟨holders.trans kept.holders, context.trans kept.context,
      destroyed.trans kept.destroyed, freed.trans kept.freed⟩
  · refine .inr ⟨holders.trans gone.holders, destroyed.trans gone.destroyed, ?_⟩
    rw [freed, context, gone.freed]

theorem place_record (c : Custody) (p : Nat) :
    (c.record p).place = update c.place p (some c.next) := rfl

theorem Known.leak (known : c.Known) : c.leak.Known :=
  fun p id held => Nat.lt_succ_of_lt (known p id held)

theorem Known.discard (known : c.Known) (context : Bool) : (c.discard context).Known :=
  fun p id held => Nat.lt_succ_of_lt (known p id held)

theorem Known.record (known : c.Known) (p : Nat) : (c.record p).Known := by
  intro k id held
  rw [place_record] at held
  by_cases self : k = p
  · rw [self, update_self] at held
    cases held
    exact Nat.lt_succ_self c.next
  · rw [update_of_ne self] at held
    exact Nat.lt_succ_of_lt (known k id held)

theorem Owned.record (owned : c.Owned places) (bound : p < places) (free : c.place p = none) :
    (c.record p).Owned places where
  each id small := by
    rcases eq_or_ne id c.next with rfl | new
    · refine .inl ⟨?_, update_self .., (owned.fresh _ le_rfl).1, (owned.fresh _ le_rfl).2⟩
      have none := holders_new owned (Nat.le_refl c.next)
      have change := raised_change (fun k => decide (c.place k = some c.next))
        (fun k => decide ((c.record p).place k = some c.next)) bound fun k _ other =>
          decide_eq_decide.mpr (by rw [place_record, update_of_ne other])
      rw [if_neg (by simp [free]), if_pos (by simp [place_record])] at change
      unfold Custody.holders at none ⊢
      omega
    · have old : id < c.next := by
        have bound : id < c.next + 1 := small
        omega
      refine untouched (fun k inside => ?_) (update_of_ne new ..) rfl rfl
        (owned.each id old)
      by_cases self : k = p
      · rw [self, free, place_record, update_self]
        simp only [Option.some.injEq, reduceCtorEq, iff_false]
        exact fun same => new same.symm
      · rw [place_record, update_of_ne self]
  known := owned.known.record p
  fresh id beyond := owned.fresh id (Nat.le_of_succ_le beyond)

theorem Owned.discard (owned : c.Owned places) (context : Bool) :
    (c.discard context).Owned places where
  each id small := by
    have fresh := owned.fresh c.next le_rfl
    rcases eq_or_ne id c.next with rfl | new
    · have outside : (c.discard context).holders places c.next = 0 :=
        (holders_congr (c := c) fun _ _ => Iff.rfl).trans (holders_new owned le_rfl)
      refine .inr ⟨outside, ?_, ?_⟩
      · simp [Custody.discard, fresh.1]
      · cases context <;> simp [Custody.discard, fresh.2]
    · have old : id < c.next := by
        have bound : id < c.next + 1 := small
        omega
      refine untouched (c := c) (fun _ _ => Iff.rfl) (update_of_ne new ..)
        (update_of_ne new ..) ?_ (owned.each id old)
      cases context
      · rfl
      · exact update_of_ne new ..
  known := owned.known.discard context
  fresh id beyond := by
    have old := owned.fresh id (Nat.le_of_succ_le beyond)
    have new : id ≠ c.next := Nat.ne_of_gt beyond
    cases context <;> simp [Custody.discard, new, old]

theorem place_dispose (c : Custody) (p : Nat) : (c.dispose p).place = update c.place p none := by
  unfold dispose
  split
  · rename_i free
    rw [← free, update_eq_self]
  · rfl

@[simp] theorem next_dispose (c : Custody) (p : Nat) : (c.dispose p).next = c.next := by
  unfold dispose
  split <;> rfl

theorem Known.dispose (known : c.Known) (p : Nat) : (c.dispose p).Known := by
  intro k id held
  rw [place_dispose] at held
  rw [next_dispose]
  by_cases self : k = p
  · rw [self, update_self] at held
    cases held
  · rw [update_of_ne self] at held
    exact known k id held

theorem place_kill (c : Custody) (p : Nat) : (c.kill p).place = c.place := by
  unfold kill
  split <;> rfl

theorem Known.kill (known : c.Known) (p : Nat) : (c.kill p).Known := by
  unfold Custody.kill
  split
  · exact known
  · exact fun k id held => known k id held

theorem dispose_of_some (held : c.place p = some id) : c.dispose p =
      { c with
        place := update c.place p none
        destroyed := update c.destroyed id (c.destroyed id + 1)
        freed := update c.freed id (c.freed id + 1) } := by
  unfold dispose
  rw [held]

theorem Owned.dispose_held (owned : c.Owned places) (bound : p < places)
    (held : c.place p = some id) : (c.dispose p).Gone places id := by
  have kept := owned.kept bound held
  refine ⟨?_, ?_, ?_⟩
  · rw [Custody.holders, ← raised_lowered places]
    refine raised_congr fun k inside => decide_eq_false fun placed => ?_
    rw [place_dispose] at placed
    by_cases self : k = p
    · rw [self, update_self] at placed
      cases placed
    · rw [update_of_ne self] at placed
      exact owned.alone bound held inside self placed
  · simp [dispose_of_some held, kept.destroyed]
  · simp [dispose_of_some held, kept.freed, kept.context]

theorem Owned.dispose (owned : c.Owned places) (bound : p < places) :
    (c.dispose p).Owned places := by
  cases held : c.place p with
  | none =>
    unfold Custody.dispose
    rwa [held]
  | some id =>
    refine ⟨fun id' small => ?_, owned.known.dispose p, fun id' beyond => ?_⟩
    · rw [next_dispose] at small
      by_cases same : id' = id
      · exact same ▸ .inr (owned.dispose_held bound held)
      · refine untouched (c := c) (fun k _ => ?_) ?_ ?_ ?_ (owned.each id' small)
        · rw [place_dispose]
          by_cases self : k = p
          · rw [self, update_self, held]
            simp only [reduceCtorEq, Option.some.injEq, false_iff]
            exact fun eq => same eq.symm
          · rw [update_of_ne self]
        · rw [dispose_of_some held]
        · rw [dispose_of_some held]
          exact update_of_ne same ..
        · rw [dispose_of_some held]
          exact update_of_ne same ..
    · rw [next_dispose] at beyond
      have old := owned.fresh id' beyond
      have differs : id' ≠ id := fun same =>
        absurd (owned.known p id held) (Nat.not_lt.mpr (same ▸ beyond))
      rw [dispose_of_some held]
      exact ⟨(update_of_ne differs ..).trans old.1, (update_of_ne differs ..).trans old.2⟩

theorem Owned.not_leak (owned : c.Owned places) : ¬c.leak.Owned places := by
  intro leaked
  have fresh := owned.fresh c.next le_rfl
  have none : c.leak.holders places c.next = 0 :=
    (holders_congr (c := c) fun _ _ => Iff.rfl).trans (holders_new owned le_rfl)
  rcases leaked.each c.next (Nat.lt_succ_self _) with kept | gone
  · exact absurd (kept.holders.symm.trans none) Nat.one_ne_zero
  · exact absurd (gone.destroyed.symm.trans fresh.1) Nat.one_ne_zero

theorem not_owned_kill (bound : p < places) (held : c.place p = some id) :
    ¬(c.kill p).Owned places := by
  intro killed
  have still : (c.kill p).place p = some id := by rw [place_kill, held]
  have kept := (killed.kept bound still).destroyed
  unfold kill at kept
  rw [held] at kept
  simp at kept

theorem Owned.foldl_dispose (owned : c.Owned places) {ps : List Nat}
    (inside : ∀ p ∈ ps, p < places) : (ps.foldl Custody.dispose c).Owned places := by
  induction ps generalizing c with
  | nil => exact owned
  | cons p ps ih =>
    exact ih (owned.dispose (inside p mem_cons_self)) fun k member =>
      inside k (mem_cons_of_mem p member)

theorem place_foldl_dispose (c : Custody) (ps : List Nat) (k : Nat) :
    (ps.foldl dispose c).place k = if k ∈ ps then none else c.place k := by
  induction ps generalizing c with
  | nil => simp
  | cons p ps ih =>
    rw [foldl_cons, ih, place_dispose]
    by_cases self : k = p <;> simp [self]

theorem next_foldl_dispose (c : Custody) (ps : List Nat) : (ps.foldl dispose c).next = c.next := by
  induction ps generalizing c with
  | nil => rfl
  | cons p ps ih => rw [foldl_cons, ih, next_dispose]

theorem Owned.disposeAll (owned : c.Owned places) : (c.disposeAll places).next = c.next ∧
      ∀ id < c.next, (c.disposeAll places).Gone places id := by
  have all : (c.disposeAll places).Owned places :=
    owned.foldl_dispose fun p member => mem_range.mp member
  have next : (c.disposeAll places).next = c.next := next_foldl_dispose c _
  refine ⟨next, fun id small => ?_⟩
  rcases all.each id (next.symm ▸ small) with kept | gone
  · have cleared : (c.disposeAll places).holders places id = 0 := by
      rw [holders, ← raised_lowered places]
      refine raised_congr fun k inside => decide_eq_false fun placed => ?_
      rw [Custody.disposeAll, place_foldl_dispose, if_pos (mem_range.mpr inside)] at placed
      cases placed
    exact absurd (kept.holders.symm.trans cleared) Nat.one_ne_zero
  · exact gone

end Rules

end Custody

end Urp.Lib
