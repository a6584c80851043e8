import Urp.Lib.Pool

/-!
# Reference-counted objects in a table

Objects are found through a table with one place.
-/

namespace Urp.Lib.Refcount

open Urp.Lib.Pool Function

universe u

structure Cell where
  refs : Nat
  released : Nat
  freed : Bool
  readers : List Nat

structure Store where
  cells : Nat → Cell
  next : Nat
  table : Option Nat
  fault : Bool

namespace Store

def init : Store := ⟨fun _ => ⟨0, 0, false, []⟩, 0, none, false⟩

def update (s : Store) (o : Nat) (c : Cell) : Store :=
  { s with cells := Function.update s.cells o c }

def create (s : Store) : Store :=
  { s.update s.next ⟨1, 0, false, []⟩ with next := s.next + 1, table := some s.next }

def discard (s : Store) : Store :=
  { s.update s.next ⟨0, 1, true, []⟩ with next := s.next + 1 }

def unpublish (s : Store) : Store := { s with table := none }

def use (s : Store) (o : Nat) : Store :=
  { s with fault := s.fault || (s.cells o).released != 0 }

def peek (s : Store) (o : Nat) : Store := { s with fault := s.fault || (s.cells o).freed }

def get (s : Store) (o : Nat) : Store :=
  { s.update o { s.cells o with refs := (s.cells o).refs + 1 } with
    fault := s.fault || (s.cells o).refs == 0 }

/-- The last reference releases the object; `readers` are in a read-side section now. -/
def put (s : Store) (readers : List Nat) (o : Nat) : Store :=
  let c := s.cells o
  (s.use o).update o (if c.refs - 1 = 0 then ⟨0, c.released + 1, c.freed, readers⟩
      else { c with refs := c.refs - 1 })

def readUnlock (s : Store) (i : Nat) : Store :=
  { s with cells := fun o => { s.cells o with readers := (s.cells o).readers.filter (· ≠ i) } }

def free (s : Store) (o : Nat) : Store := s.update o { s.cells o with freed := true }

/-- The memory of the object does not go before thread `i` left its read-side section. -/
def Stays (s : Store) (i o : Nat) : Prop :=
  o < s.next ∧ ((s.cells o).released = 0 ∨ i ∈ (s.cells o).readers)

@[simp] theorem update_cells (s : Store) (o : Nat) (c : Cell) :
    (s.update o c).cells = Function.update s.cells o c := rfl

@[simp] theorem update_next (s : Store) (o : Nat) (c : Cell) : (s.update o c).next = s.next := rfl

end Store

def readers {T : Type u} (reading : T → Bool) (pool : List T) : List Nat :=
  (List.range pool.length).filter (fun i => (pool[i]?.map reading).getD false)

section Counted

variable {T : Type u} (holds : T → Nat → Nat) (reading : T → Bool) (sees : T → Option Nat)

structure Counted (s : Store) (pool : List T) : Prop where
  faultless : s.fault = false
  refs : ∀ o, (s.cells o).refs = (if s.table = some o then 1 else 0) + (pool.map (holds · o)).sum
  released : ∀ o, (s.cells o).released = if o < s.next ∧ (s.cells o).refs = 0 then 1 else 0
  fresh : ∀ o, s.next ≤ o → (s.cells o).refs = 0
  freed : ∀ o, (s.cells o).freed = true → (s.cells o).released = 1 ∧ (s.cells o).readers = []
  waits : ∀ i t o, pool[i]? = some t → sees t = some o → s.Stays i o

variable {holds reading sees} {s : Store} {pool : List T} {i o : Nat} {t t' : T}

theorem counted_init : Counted holds sees .init ([] : List T) where
  faultless := rfl
  refs o := by simp [Store.init]
  released o := by simp [Store.init]
  fresh o _ := rfl
  freed o dead := by simp [Store.init] at dead
  waits i t o here := by simp at here

namespace Counted

section

variable (counted : Counted holds sees s pool)
include counted

theorem unreleased (held : 0 < (s.cells o).refs) :
    (s.cells o).released = 0 ∧ (s.cells o).freed = false ∧ o < s.next := by
  have none_yet : (s.cells o).released = 0 := by
    rw [counted.released o, if_neg (by omega)]
  refine ⟨none_yet, ?_, ?_⟩
  · by_contra dead
    have := counted.freed o (by simpa using dead)
    omega
  · by_contra new
    have := counted.fresh o (by omega)
    omega

theorem refs_of_holds (here : pool[i]? = some t) (held : 0 < holds t o) : 0 < (s.cells o).refs := by
  have counts := counted.refs o
  have part := le_sum (holds · o) here
  omega

theorem refs_of_table (entry : s.table = some o) : 0 < (s.cells o).refs := by
  have counts := counted.refs o
  rw [if_pos entry] at counts
  omega

section

variable (here : pool[i]? = some t)
include here

theorem use_eq (held : 0 < holds t o) : s.use o = s := by
  have none_yet := (counted.unreleased (counted.refs_of_holds here held)).1
  have same : (s.fault || (s.cells o).released != 0) = s.fault := by simp [none_yet]
  rw [Store.use, same]

theorem peek_eq (seen : sees t = some o) : s.peek o = s := by
  have alive : (s.cells o).freed = false := by
    by_contra dead
    obtain ⟨released, drained⟩ := counted.freed o (by simpa using dead)
    rcases (counted.waits i t o here seen).2 with none_yet | waiting
    · omega
    · simp [drained] at waiting
  have same : (s.fault || (s.cells o).freed) = s.fault := by simp [alive]
  rw [Store.peek, same]

theorem waits_set (own : ∀ o, sees t' = some o → s.Stays i o) :
    ∀ j h o, (pool.set i t')[j]? = some h → sees h = some o → s.Stays j o := by
  intro j h o there seen
  rcases getElem?_set_cases here there with ⟨rfl, rfl⟩ | ⟨-, there⟩
  · exact own o seen
  · exact counted.waits j h o there seen

theorem move (same : ∀ o, holds t' o = holds t o)
    (found : ∀ o, sees t' = some o → sees t = some o ∨ s.table = some o) :
    Counted holds sees s (pool.set i t') :=
  { counted with
    refs := fun o => by
      have counts := counted.refs o
      have moved := sum_set (holds · o) here t'
      simp only [same] at moved
      omega
    waits := counted.waits_set here fun o seen => by
      rcases found o seen with before | entry
      · exact counted.waits i t o here before
      · obtain ⟨none_yet, -, old⟩ := counted.unreleased (counted.refs_of_table entry)
        exact ⟨old, .inl none_yet⟩ }

end

theorem spawn (none_held : ∀ o, holds t o = 0)
    (blind : sees t = none) : Counted holds sees s (pool ++ [t]) :=
  { counted with
    refs := fun o => by
      have counts := counted.refs o
      simpa [none_held] using counts
    waits := fun j h o there seen => by
      rcases getElem?_spawn_cases there with rfl | there
      · cases blind.symm.trans seen
      · exact counted.waits j h o there seen }

section

variable (here : pool[i]? = some t)
include here

theorem add {c : Cell} {table : Option Nat} (same : ∀ o, holds t' o = holds t o)
    (blind : sees t' = none) (refs : c.refs = if table = some s.next then 1 else 0)
    (released : c.released = if c.refs = 0 then 1 else 0)
    (freed : c.freed = true → c.released = 1 ∧ c.readers = [])
    (others : ∀ o ≠ s.next, table = some o ↔ s.table = some o) :
    Counted holds sees { s.update s.next c with next := s.next + 1, table := table }
      (pool.set i t') where
  faultless := counted.faultless
  refs o := by
    have counts := counted.refs o
    have moved := sum_set (holds · o) here t'
    simp only [same] at moved
    rcases eq_or_ne o s.next with rfl | new
    · have fresh := counted.fresh s.next le_rfl
      simp only [Store.update_cells, update_self, refs]
      omega
    · simp only [Store.update_cells, update_of_ne new, others o new]
      omega
  released o := by
    rcases eq_or_ne o s.next with rfl | new
    · simp [released]
    · simp only [Store.update_cells, update_of_ne new, counted.released o]
      by_cases old : o < s.next
      · simp [old, Nat.lt_succ_of_lt old]
      · simp [old, show ¬ o < s.next + 1 by omega]
  fresh o later := by
    simp only at later
    simp only [Store.update_cells, update_of_ne (show o ≠ s.next by omega)]
    exact counted.fresh o (by omega)
  freed o dead := by
    rcases eq_or_ne o s.next with rfl | new
    · simp only [Store.update_cells, update_self] at dead ⊢
      exact freed dead
    · simp only [Store.update_cells, update_of_ne new] at dead ⊢
      exact counted.freed o dead
  waits j h o there seen := by
    obtain ⟨old, stays⟩ := counted.waits_set here (by simp [blind]) j h o there seen
    refine ⟨Nat.lt_succ_of_lt old, ?_⟩
    simpa only [Store.update_cells, update_of_ne (Nat.ne_of_lt old)] using stays

theorem create (empty : s.table = none) (same : ∀ o, holds t' o = holds t o)
    (blind : sees t' = none) : Counted holds sees s.create (pool.set i t') := by
  refine counted.add here same blind (if_pos rfl).symm rfl nofun fun o other => ?_
  simp [empty, Ne.symm other]

theorem discard (same : ∀ o, holds t' o = holds t o) (blind : sees t' = none) :
    Counted holds sees s.discard (pool.set i t') := by
  have unlisted : s.table ≠ some s.next := by
    intro entry
    have := counted.refs_of_table entry
    have := counted.fresh s.next le_rfl
    omega
  exact counted.add here same blind (if_neg unlisted).symm rfl (fun _ => ⟨rfl, rfl⟩)
    (fun _ _ => Iff.rfl)

theorem change {c : Cell} (old : o < s.next) (others : ∀ o' ≠ o, holds t' o' = holds t o')
    (blind : sees t' = none) (refs : c.refs + holds t o = (s.cells o).refs + holds t' o)
    (released : c.released = if c.refs = 0 then 1 else 0)
    (freed : c.freed = true → c.released = 1 ∧ c.readers = [])
    (waits : ∀ j h, pool[j]? = some h → sees h = some o → c.released = 0 ∨ j ∈ c.readers) :
    Counted holds sees (s.update o c) (pool.set i t') where
  faultless := counted.faultless
  refs o' := by
    have counts := counted.refs o'
    have moved := sum_set (holds · o') here t'
    change (Function.update s.cells o c o').refs = (if s.table = some o' then 1 else 0) + _
    rcases eq_or_ne o' o with rfl | this
    · rw [update_self]
      omega
    · have kept := others o' this
      rw [update_of_ne this]
      omega
  released o' := by
    rcases eq_or_ne o' o with rfl | this
    · simp [released, old]
    · simp only [Store.update_cells, update_of_ne this]
      exact counted.released o'
  fresh o' later := by
    have other : o' ≠ o := fun same => absurd later (by simp [same, old])
    simpa only [Store.update_cells, update_of_ne other] using counted.fresh o' later
  freed o' dead := by
    rcases eq_or_ne o' o with rfl | this
    · simp only [Store.update_cells, update_self] at dead ⊢
      exact freed dead
    · simp only [Store.update_cells, update_of_ne this] at dead ⊢
      exact counted.freed o' dead
  waits j h o' there seen := by
    obtain ⟨old', stays⟩ := counted.waits_set here (by simp [blind]) j h o' there seen
    refine ⟨old', ?_⟩
    rcases eq_or_ne o' o with rfl | this
    · rcases getElem?_set_cases here there with ⟨-, rfl⟩ | ⟨-, there⟩
      · simp [blind] at seen
      · simpa using waits j h there seen
    · simpa only [Store.update_cells, update_of_ne this] using stays

theorem get (positive : 0 < (s.cells o).refs) (more : holds t' o = holds t o + 1)
    (others : ∀ o' ≠ o, holds t' o' = holds t o') (blind : sees t' = none) :
    Counted holds sees (s.get o) (pool.set i t') := by
  obtain ⟨none_yet, alive, old⟩ := counted.unreleased positive
  have same : (s.fault || (s.cells o).refs == 0) = s.fault := by simp; omega
  rw [Store.get, same]
  refine counted.change here old others blind ?_ ?_ ?_ ?_
  · simp only [more]
    omega
  · simp [none_yet]
  · simp [alive]
  · intro j h _ _
    exact .inl none_yet

end

omit counted in
theorem mem_readers {reading : T → Bool} (here : pool[i]? = some t) (inside : reading t = true) :
    i ∈ readers reading pool := by
  have bound := (List.getElem?_eq_some_iff.mp here).1
  refine List.mem_filter.mpr ⟨List.mem_range.mpr bound, ?_⟩
  simpa [here] using inside

theorem put {reading : T → Bool} (guarded : ∀ t o, sees t = some o → reading t = true)
    (here : pool[i]? = some t) (less : holds t o = holds t' o + 1)
    (others : ∀ o' ≠ o, holds t' o' = holds t o') (blind : sees t' = none) :
    Counted holds sees (s.put (readers reading pool) o) (pool.set i t') := by
  have held := counted.refs_of_holds here (o := o) (by omega)
  obtain ⟨none_yet, alive, old⟩ := counted.unreleased held
  rw [Store.put, counted.use_eq here (by omega)]
  refine counted.change here old others blind ?_ ?_ ?_ ?_
  · split <;> simp only <;> omega
  · split
    · simp [none_yet]
    · simp_all
  · split <;> simp [alive]
  · intro j h there seen
    split
    · exact .inr (mem_readers there (guarded h o seen))
    · exact .inl none_yet

theorem unpublish (here : pool[i]? = some t) (entry : s.table = some o)
    (more : holds t' o = holds t o + 1) (others : ∀ o' ≠ o, holds t' o' = holds t o')
    (blind : sees t' = none) : Counted holds sees s.unpublish (pool.set i t') :=
  { counted with
    refs := fun o' => by
      have counts := counted.refs o'
      have moved := sum_set (holds · o') here t'
      rcases eq_or_ne o' o with rfl | this
      · simp only [entry, if_true] at counts
        simp only [Store.unpublish, reduceCtorEq, if_false]
        omega
      · have kept := others o' this
        have other : ¬ s.table = some o' := by
          rw [entry]
          exact fun same => this (Option.some.inj same).symm
        simp only [other, if_false] at counts
        simp only [Store.unpublish, reduceCtorEq, if_false]
        omega
    waits := counted.waits_set here (by simp [blind]) }

theorem readUnlock (here : pool[i]? = some t) (same : ∀ o, holds t' o = holds t o)
    (blind : sees t' = none) : Counted holds sees (s.readUnlock i) (pool.set i t') :=
  { counted with
    refs := (counted.move here same (by simp [blind])).refs
    freed := fun o dead => by
      obtain ⟨released, drained⟩ := counted.freed o dead
      exact ⟨released, by simp [Store.readUnlock, drained]⟩
    waits := fun j h o there seen => by
      obtain ⟨old, stays⟩ := counted.waits_set here (by simp [blind]) j h o there seen
      refine ⟨old, stays.imp_right fun waiting => ?_⟩
      have other : j ≠ i := by
        rcases getElem?_set_cases here there with ⟨-, rfl⟩ | ⟨other, -⟩
        · simp [blind] at seen
        · exact other
      simpa [Store.readUnlock, other] using waiting }

theorem free (released : (s.cells o).released ≠ 0)
    (drained : (s.cells o).readers = []) : Counted holds sees (s.free o) pool := by
  have once : (s.cells o).released = 1 := by
    have := counted.released o
    split at this <;> omega
  have cell : ∀ o', ((s.free o).cells o').refs = (s.cells o').refs ∧
      ((s.free o).cells o').released = (s.cells o').released ∧
      ((s.free o).cells o').readers = (s.cells o').readers := by
    intro o'
    rcases eq_or_ne o' o with rfl | this
    · simp [Store.free]
    · simp [Store.free, update_of_ne this]
  refine ⟨counted.faultless, ?_, ?_, ?_, ?_, ?_⟩
  · exact fun o' => (cell o').1.trans (counted.refs o')
  · intro o'
    rw [(cell o').1, (cell o').2.1]
    exact counted.released o'
  · exact fun o' later => (cell o').1.trans (counted.fresh o' later)
  · intro o' dead
    rw [(cell o').2.1, (cell o').2.2]
    by_cases this : o' = o
    · exact this ▸ ⟨once, drained⟩
    · simp only [Store.free, Store.update_cells, update_of_ne this] at dead
      exact counted.freed o' dead
  · intro j h o' there seen
    obtain ⟨old, stays⟩ := counted.waits j h o' there seen
    rw [← (cell o').2.1, ← (cell o').2.2] at stays
    exact ⟨old, stays⟩

theorem released_iff (old : o < s.next) :
    (s.cells o).released = if s.table = some o ∨ ∃ t ∈ pool, 0 < holds t o then 0 else 1 := by
  rw [counted.released o]
  have counts := counted.refs o
  split
  · rename_i gone
    rw [if_neg]
    rintro (entry | ⟨t, member, held⟩)
    · rw [if_pos entry] at counts
      omega
    · obtain ⟨i, here⟩ := List.getElem?_of_mem member
      have := counted.refs_of_holds here held
      omega
  · rename_i held
    rw [if_pos]
    by_contra nobody
    rw [not_or] at nobody
    rw [if_neg nobody.1] at counts
    by_cases some_left : 0 < (pool.map (holds · o)).sum
    · obtain ⟨i, t, here, positive⟩ := exists_of_sum_pos some_left
      exact nobody.2 ⟨t, List.mem_of_getElem? here, positive⟩
    · exact held ⟨old, by omega⟩

end

end Counted

end Counted

end Urp.Lib.Refcount
