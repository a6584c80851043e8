import Urp.Conn.Control
import Urp.Lib.Refcount
import Urp.Lib.Run

/-!
# The life of an endpoint

The commands of the control plane find an endpoint by its name, work on it and drop it.
-/

namespace Urp.Netlink.Lifetime

open Urp.Lib Urp.Lib.Pool Urp.Lib.Refcount Urp.Control Option
open Function (update update_of_ne)

inductive Lookup where
  | get | set | del | drainAll
deriving DecidableEq

inductive Handler where
  -- `urp_endpoint_create` and `urp_endpoint_activate`
  | create
  | takeRef (o : Nat)
  | activate (o : Nat)
  | activating (o : Nat)
  | raising (o : Nat)
  | raised (o : Nat)
  -- `urp_endpoint_get`, and the walk at module exit
  | enter (k : Lookup)
  | lookup (k : Lookup)
  | found (k : Lookup) (o : Nat)
  | leave (k : Lookup) (ep : Option Nat)
  -- the bodies of GET and SET
  | work (isSet : Bool) (o : Nat)
  | working (isSet : Bool) (o : Nat)
  -- `urp_endpoint_remove` and `urp_endpoint_drain`
  | remove (again : Bool) (o : Nat)
  | drain (again table : Bool) (o : Nat)
  | draining (again table : Bool) (o : Nat)
  | drainEvent (again table : Bool) (o : Nat)
  | drainAgain (again table : Bool) (o : Nat)
  | cleaning (again table : Bool) (o : Nat)
  | stopEvent (again table : Bool) (o : Nat)
  | putTable (again : Bool) (o : Nat)
  | putOwn (again : Bool) (o : Nat)
  -- the dump
  | walkStart
  | walk
  | dumping (o : Nat)
  | done
deriving DecidableEq

namespace Handler

def grip : Handler → Option (Nat × Nat)
  | .activate o | .activating o | .raising o | .raised o | .leave _ (some o) | .work _ o
  | .working _ o | .remove _ o | .putOwn _ o => some (o, 1)
  | .drain _ table o | .draining _ table o | .drainEvent _ table o | .drainAgain _ table o
  | .cleaning _ table o | .stopEvent _ table o => some (o, table.toNat + 1)
  | .putTable _ o => some (o, 2)
  | _ => none

def holds (h : Handler) (o : Nat) : Nat :=
  match h.grip with
  | some (o', n) => if o' = o then n else 0
  | none => 0

/-- Inside `rcu_read_lock`. -/
def reading : Handler → Bool
  | .lookup _ | .found _ _ | .leave _ _ | .walk | .dumping _ => true
  | _ => false

def sees : Handler → Option Nat
  | .found _ o | .dumping o => some o
  | _ => none

def locks : Handler → Option Nat
  | .activating o | .raising o | .working _ o | .draining _ _ o | .cleaning _ _ o => some o
  | _ => none

/-- What `urp_endpoint_get` returns to. -/
def after : Lookup → Option Nat → Handler
  | _, none => .done
  | .get, some o => .work false o
  | .set, some o => .work true o
  | .del, some o => .remove false o
  | .drainAll, some o => .remove true o

def afterDrain (again table : Bool) (o : Nat) : Handler :=
  if table then .putTable again o else .putOwn again o

end Handler

/-- The endpoints and the threads of the handlers. `regressed` notes that a state moved backward. -/
structure Machine where
  store : Store
  state : Nat → EpState
  lock : Nat → Option Nat
  handlers : List Handler
  regressed : Bool

def Machine.init : Machine := ⟨.init, fun _ => .creating, fun _ => none, [], false⟩

def rank : EpState → Nat
  | .creating => 0
  | .active => 1
  | .draining => 2
  | .stopped => 3

namespace Machine

def use (m : Machine) (o : Nat) : Machine := { m with store := m.store.use o }

def peek (m : Machine) (o : Nat) : Machine := { m with store := m.store.peek o }

def lockBy (m : Machine) (i o : Nat) : Machine :=
  { m.use o with lock := update m.lock o (some i) }

def unlock (m : Machine) (o : Nat) : Machine :=
  { m.use o with lock := update m.lock o none }

def setState (m : Machine) (o : Nat) (st : EpState) : Machine :=
  { m.use o with
    state := update m.state o st
    regressed := m.regressed || decide (rank st < rank (m.state o)) }

def put (m : Machine) (o : Nat) : Machine :=
  { m with store := m.store.put (readers Handler.reading m.handlers) o }

end Machine

structure Choice where
  ok : Bool
  drain : Bool

/-- One step of handler `i`, or `none` while it waits for a mutex. -/
def act (m : Machine) (i : Nat) (c : Choice) : Handler → Option (Machine × Handler)
  | .create =>
    if c.ok ∧ m.store.table = none then
      some ({ m with store := m.store.create }, .takeRef m.store.next)
    -- What does not get into the table was never seen and is freed directly.
    else some ({ m with store := m.store.discard }, .done)
  | .takeRef o => some ({ m with store := m.store.get o }, .activate o)
  | .activate o => if m.lock o = none then some (m.lockBy i o, .activating o) else none
  | .activating o =>
    if m.state o ≠ .creating then some (m.unlock o, .remove false o) else some (m.use o, .raising o)
  | .raising o =>
    if c.ok then some ((m.setState o .active).unlock o, .raised o)
    else some (m.unlock o, .remove false o)
  | .raised o => some (m.use o, .putOwn false o)
  | .enter k => some (m, .lookup k)
  | .lookup k =>
    match m.store.table with
    | some o => some (m, .found k o)
    | none => some (m, .leave k none)
  | .found k o =>
    if (m.store.cells o).refs = 0 then
      some (m.peek o, if k = .drainAll ∧ c.ok then .lookup k else .leave k none)
    else some ({ m.peek o with store := (m.store.peek o).get o }, .leave k (some o))
  | .leave k ep => some ({ m with store := m.store.readUnlock i }, .after k ep)
  | .work isSet o =>
    if !c.ok then some (m, .putOwn false o)
    else if m.lock o = none then some (m.lockBy i o, .working isSet o) else none
  | .working isSet o =>
    some (m.unlock o, if isSet && c.drain then .drain false false o else .putOwn false o)
  | .remove again o =>
    if m.store.table = some o then
      some ({ m.use o with store := (m.store.use o).unpublish }, .drain again true o)
    else some (m.use o, .putOwn again o)
  | .drain again table o =>
    if m.lock o = none then some (m.lockBy i o, .draining again table o) else none
  | .draining again table o =>
    if m.state o = .stopped then some (m.unlock o, .afterDrain again table o)
    else some ((m.setState o .draining).unlock o, .drainEvent again table o)
  | .drainEvent again table o => some (m.use o, .drainAgain again table o)
  | .drainAgain again table o =>
    if m.lock o = none then some (m.lockBy i o, .cleaning again table o) else none
  | .cleaning again table o =>
    some ((m.setState o .stopped).unlock o, .stopEvent again table o)
  | .stopEvent again table o => some (m.use o, .afterDrain again table o)
  | .putTable again o => some (m.put o, .putOwn again o)
  | .putOwn again o => some (m.put o, if again then .enter .drainAll else .done)
  | .walkStart => some (m, .walk)
  | .walk =>
    match c.ok, m.store.table with
    | true, some o => some (m, .dumping o)
    | _, _ =>
      some ({ m with store := m.store.readUnlock i }, if c.drain then .walkStart else .done)
  | .dumping o => some (m.peek o, .walk)
  | .done => none

inductive Command where
  | new | lookup (k : Lookup) | dump
deriving DecidableEq

def Command.handler : Command → Handler
  | .new => .create
  | .lookup k => .enter k
  | .dump => .walkStart

inductive Event where
  | spawn (c : Command)
  | act (i : Nat) (c : Choice)
  | free (o : Nat)

/-- A statement of a handler, under RCU and the locks. -/
def step (m : Machine) : Event → Option Machine
  | .spawn c => some { m with handlers := m.handlers ++ [c.handler] }
  | .act i c =>
    match m.handlers[i]? with
    | some h => (act m i c h).map fun (m', h') => { m' with handlers := m.handlers.set i h' }
    | none => none
  | .free o =>
    let cell := m.store.cells o
    if cell.released ≠ 0 ∧ cell.readers = [] ∧ cell.freed = false then
      some { m with store := m.store.free o }
    else none

/-! ## The invariant -/

structure Sound (m : Machine) : Prop where
  counted : Counted Handler.holds Handler.sees m.store m.handlers
  locked : ∀ i h o, m.handlers[i]? = some h → h.locks = some o → m.lock o = some i
  raising : ∀ i o : Nat, m.handlers[i]? = some (.raising o) → m.state o = .creating
  forward : m.regressed = false

theorem sound_init : Sound .init where
  counted := counted_init
  locked i h o here := by simp [Machine.init] at here
  raising i o here := by simp [Machine.init] at here
  forward := rfl

variable {m m' : Machine} {i o : Nat} {h h' : Handler} {c : Choice}

variable {n : Nat}

theorem Handler.holds_of_grip (grip : h.grip = some (o, n)) (o' : Nat) :
    h.holds o' = if o = o' then n else 0 := by
  simp [Handler.holds, grip]

theorem Handler.holds_self (grip : h.grip = some (o, n)) : h.holds o = n := by
  simp [Handler.holds_of_grip grip]

theorem Handler.grip_pos (grip : h.grip = some (o, n + 1)) : 0 < h.holds o := by
  rw [holds_self grip]
  omega

theorem Handler.holds_of_none (idle : h.grip = none) (o : Nat) : h.holds o = 0 := by
  simp [Handler.holds, idle]

section

variable (sound : Sound m)
include sound

theorem Sound.of_act (m' : Machine) (here : m.handlers[i]? = some h)
    (counted : Counted Handler.holds Handler.sees m'.store (m.handlers.set i h'))
    (others : ∀ o j, m.lock o = some j → j ≠ i → m'.lock o = some j)
    (own : ∀ o, h'.locks = some o → m'.lock o = some i)
    (states : ∀ o j, j ≠ i → m.handlers[j]? = some (.raising o) → m'.state o = m.state o)
    (raising : ∀ o, h' = .raising o → m'.state o = .creating) (forward : m'.regressed = false) :
    Sound { m' with handlers := m.handlers.set i h' } := by
  refine ⟨counted, ?_, ?_, forward⟩
  · intro j k o there locks
    rcases getElem?_set_cases here there with ⟨rfl, rfl⟩ | ⟨other, there⟩
    · exact own o locks
    · exact others o j (sound.locked j k o there locks) other
  · intro j o there
    rcases getElem?_set_cases here there with ⟨rfl, same⟩ | ⟨other, there⟩
    · exact raising o same.symm
    · exact (states o j other there).trans (sound.raising j o there)

section

variable (here : m.handlers[i]? = some h)
include here

theorem Sound.use_eq (held : 0 < h.holds o) : m.use o = m := by
  rw [Machine.use, sound.counted.use_eq here held]

theorem Sound.peek_eq (seen : h.sees = some o) : m.peek o = m := by
  rw [Machine.peek, sound.counted.peek_eq here seen]

theorem Sound.quiet {s : Store}
    (counted : Counted Handler.holds Handler.sees s (m.handlers.set i h'))
    (unlocked : h'.locks = none) :
    Sound { m with store := s, handlers := m.handlers.set i h' } := by
  refine sound.of_act { m with store := s } here counted (fun _ _ locked _ => locked) ?_
    (fun _ _ _ _ => rfl) ?_ sound.forward
  · intro o locks
    cases unlocked.symm.trans locks
  · rintro o rfl
    cases unlocked

theorem Sound.used (held : 0 < h.holds o)
    (same : ∀ o, h'.holds o = h.holds o) (blind : h'.sees = none) (unlocked : h'.locks = none) :
    Sound { m.use o with handlers := m.handlers.set i h' } := by
  rw [sound.use_eq here held]
  exact sound.quiet here (sound.counted.move here same (by simp [blind])) unlocked

theorem Sound.lockBy (held : 0 < h.holds o)
    (free : m.lock o = none) (same : ∀ o, h'.holds o = h.holds o) (blind : h'.sees = none)
    (locks : h'.locks = some o) (lower : ∀ o, h' ≠ .raising o) :
    Sound { m.lockBy i o with handlers := m.handlers.set i h' } := by
  rw [Machine.lockBy, sound.use_eq here held]
  refine sound.of_act _ here (sound.counted.move here same (by simp [blind])) ?_ ?_
    (fun _ _ _ _ => rfl) (fun o raising => absurd raising (lower o)) sound.forward
  · intro o' j locked other
    have this : o' ≠ o := by
      rintro rfl
      simp [free] at locked
    simpa [update_of_ne this] using locked
  · intro o' locks'
    obtain rfl : o = o' := Option.some.inj (locks.symm.trans locks')
    simp

theorem Sound.unlock_of (locks : h.locks = some o) {state : Nat → EpState}
    (others : ∀ o' ≠ o, state o' = m.state o') (same : ∀ o, h'.holds o = h.holds o)
    (blind : h'.sees = none) (unlocked : h'.locks = none) :
    Sound { m with
      lock := update m.lock o none
      state := state
      handlers := m.handlers.set i h' } := by
  have owner := sound.locked i h o here locks
  refine sound.of_act { m with lock := update m.lock o none, state := state } here
    (sound.counted.move here same (by simp [blind])) ?_ ?_ ?_ ?_ sound.forward
  · intro o' j locked other
    have this : o' ≠ o := by
      rintro rfl
      exact other (Option.some.inj (locked.symm.trans owner))
    simpa [update_of_ne this] using locked
  · intro o' locks'
    cases unlocked.symm.trans locks'
  · intro o' j other there
    refine others o' ?_
    rintro rfl
    exact other (Option.some.inj ((sound.locked j _ o' there rfl).symm.trans owner))
  · rintro o' rfl
    cases unlocked

end

theorem Sound.check (here : m.handlers[i]? = some (.activating o))
    (new : m.state o = .creating) : Sound { m with handlers := m.handlers.set i (.raising o) } := by
  refine sound.of_act m here (sound.counted.move here (fun _ => rfl) nofun)
    (fun _ _ locked _ => locked) ?_ (fun _ _ _ _ => rfl) ?_ sound.forward
  · exact fun o' locks => sound.locked i _ o' here locks
  · intro o' same
    exact Handler.raising.inj same ▸ new

theorem Sound.unlock (here : m.handlers[i]? = some h) (held : 0 < h.holds o)
    (locks : h.locks = some o) (same : ∀ o, h'.holds o = h.holds o) (blind : h'.sees = none)
    (unlocked : h'.locks = none) : Sound { m.unlock o with handlers := m.handlers.set i h' } := by
  rw [Machine.unlock, sound.use_eq here held]
  exact sound.unlock_of here locks (fun _ _ => rfl) same blind unlocked

theorem Sound.setState (here : m.handlers[i]? = some h) (held : 0 < h.holds o)
    (locks : h.locks = some o) {st : EpState} (forward : rank (m.state o) ≤ rank st)
    (same : ∀ o, h'.holds o = h.holds o) (blind : h'.sees = none) (unlocked : h'.locks = none) :
    Sound { (m.setState o st).unlock o with handlers := m.handlers.set i h' } := by
  have kept : (m.regressed || decide (rank st < rank (m.state o))) = m.regressed := by
    simp [Nat.not_lt.mpr forward]
  have moved : (m.setState o st).unlock o = { m with
      lock := update m.lock o none
      state := update m.state o st } := by
    rw [Machine.setState, sound.use_eq here held, kept, Machine.unlock, Machine.use]
    simp only [sound.counted.use_eq here held]
  rw [moved]
  exact sound.unlock_of here locks (fun o' other => update_of_ne other _ _) same blind unlocked

end

def RefTaken (m : Machine) (e : Event) : Prop :=
  ∀ i c o, e = .act i c → m.handlers[i]? = some (.takeRef o) → 0 < (m.store.cells o).refs

theorem Handler.afterDrain_alike (again table : Bool) (o : Nat) :
    (afterDrain again table o).grip = some (o, table.toNat + 1) ∧
      (afterDrain again table o).sees = none ∧ (afterDrain again table o).locks = none := by
  cases table <;> exact ⟨rfl, rfl, rfl⟩

theorem Handler.after_alike (k : Lookup) (ep : Option Nat) :
    (after k ep).grip = (Handler.leave k ep).grip ∧ (after k ep).sees = none ∧
      (after k ep).locks = none := by
  cases ep <;> cases k <;> exact ⟨rfl, rfl, rfl⟩

theorem Handler.holds_congr (same : h'.grip = h.grip) (o : Nat) : h'.holds o = h.holds o := by
  simp only [Handler.holds, same]

theorem Handler.sees_reading (seen : h.sees = some o) : h.reading = true := by
  cases h <;> first | rfl | cases seen

theorem Handler.holds_more (more : h'.grip = some (o, n + 1))
    (before : h.grip = some (o, n) ∨ n = 0 ∧ h.grip = none) :
    h'.holds o = h.holds o + 1 ∧ ∀ o' ≠ o, h'.holds o' = h.holds o' := by
  rcases before with grip | ⟨rfl, idle⟩
  · refine ⟨by rw [holds_self more, holds_self grip], fun o' other => ?_⟩
    rw [holds_of_grip more, holds_of_grip grip, if_neg (Ne.symm other), if_neg (Ne.symm other)]
  · refine ⟨by rw [holds_self more, holds_of_none idle], fun o' other => ?_⟩
    rw [holds_of_grip more, holds_of_none idle, if_neg (Ne.symm other)]

section

variable (sound : Sound m)
include sound

section

variable (here : m.handlers[i]? = some h)
include here

theorem Sound.get (positive : 0 < (m.store.cells o).refs) (idle : h.grip = none)
    (more : h'.grip = some (o, 1)) (blind : h'.sees = none) (unlocked : h'.locks = none) :
    Sound { m with store := m.store.get o, handlers := m.handlers.set i h' } := by
  obtain ⟨own, others⟩ := Handler.holds_more more (.inr ⟨rfl, idle⟩)
  exact sound.quiet here (sound.counted.get here positive own others blind) unlocked

theorem Sound.put (before : h.grip = some (o, n + 1))
    (after : h'.grip = some (o, n) ∨ n = 0 ∧ h'.grip = none) (blind : h'.sees = none)
    (unlocked : h'.locks = none) : Sound { m.put o with handlers := m.handlers.set i h' } := by
  obtain ⟨own, others⟩ := Handler.holds_more before after
  exact sound.quiet here (sound.counted.put (fun _ _ seen => Handler.sees_reading seen) here own
    (fun o' other => (others o' other).symm) blind) unlocked

theorem Sound.unpublish (entry : m.store.table = some o) (before : h.grip = some (o, n))
    (more : h'.grip = some (o, n + 1)) (blind : h'.sees = none) (unlocked : h'.locks = none) :
    Sound { m with store := m.store.unpublish, handlers := m.handlers.set i h' } := by
  obtain ⟨own, others⟩ := Handler.holds_more more (.inl before)
  exact sound.quiet here (sound.counted.unpublish here entry own others blind) unlocked

theorem Sound.readUnlock
    (same : h'.grip = h.grip) (blind : h'.sees = none) (unlocked : h'.locks = none) :
    Sound { m with store := m.store.readUnlock i, handlers := m.handlers.set i h' } :=
  sound.quiet here (sound.counted.readUnlock here (Handler.holds_congr same) blind) unlocked

theorem Sound.found (same : h'.grip = h.grip)
    (found : ∀ o, h'.sees = some o → h.sees = some o ∨ m.store.table = some o)
    (unlocked : h'.locks = none) : Sound { m with handlers := m.handlers.set i h' } :=
  sound.quiet here (sound.counted.move here (Handler.holds_congr same) found) unlocked

theorem Sound.act (taken : ∀ o, h = .takeRef o → 0 < (m.store.cells o).refs)
    (moved : act m i c h = some (m', h')) : Sound { m' with handlers := m.handlers.set i h' } := by
  cases h with
  | create =>
    simp only [Lifetime.act] at moved
    split at moved
    · rename_i ready
      cases moved
      exact sound.quiet here (sound.counted.create here ready.2 (fun _ => rfl) rfl) rfl
    · cases moved
      exact sound.quiet here (sound.counted.discard here (fun _ => rfl) rfl) rfl
  | takeRef o =>
    cases moved
    exact sound.get here (taken o rfl) rfl rfl rfl rfl
  | activate o | drain again table o | drainAgain again table o =>
    simp only [Lifetime.act, ite_none_right_eq_some, Option.some.injEq] at moved
    obtain ⟨free, moved⟩ := moved
    cases moved
    exact sound.lockBy here (Handler.grip_pos rfl) free (fun _ => rfl) rfl rfl nofun
  | activating o =>
    simp only [Lifetime.act] at moved
    split at moved
    · cases moved
      exact sound.unlock here (Handler.grip_pos rfl) rfl (fun _ => rfl) rfl rfl
    · rename_i new
      cases moved
      rw [sound.use_eq here (Handler.grip_pos rfl)]
      exact sound.check here (by simpa using new)
  | raising o =>
    simp only [Lifetime.act] at moved
    split at moved
    · cases moved
      have low : rank (m.state o) ≤ rank .active := by simp [sound.raising i o here, rank]
      exact sound.setState here (Handler.grip_pos rfl) rfl low (fun _ => rfl) rfl rfl
    · cases moved
      exact sound.unlock here (Handler.grip_pos rfl) rfl (fun _ => rfl) rfl rfl
  | raised o | drainEvent again table o =>
    cases moved
    exact sound.used here (Handler.grip_pos rfl) (fun _ => rfl) rfl rfl
  | enter k | walkStart =>
    cases moved
    exact sound.found here rfl nofun rfl
  | lookup k =>
    simp only [Lifetime.act] at moved
    split at moved
    · rename_i o entry
      cases moved
      exact sound.found here rfl (fun o' seen => .inr (entry.trans seen)) rfl
    · cases moved
      exact sound.found here rfl nofun rfl
  | found k o =>
    simp only [Lifetime.act] at moved
    split at moved
    · cases moved
      rw [sound.peek_eq here rfl]
      split
      · exact sound.found here rfl nofun rfl
      · exact sound.found here rfl nofun rfl
    · rename_i positive
      cases moved
      rw [sound.peek_eq here rfl, sound.counted.peek_eq here rfl]
      exact sound.get here (Nat.pos_of_ne_zero positive) rfl rfl rfl rfl
  | leave k ep =>
    cases moved
    obtain ⟨grip, blind, unlocked⟩ := Handler.after_alike k ep
    exact sound.readUnlock here grip blind unlocked
  | work isSet o =>
    simp only [Lifetime.act] at moved
    split at moved
    · cases moved
      exact sound.found here rfl nofun rfl
    · simp only [ite_none_right_eq_some, Option.some.injEq] at moved
      obtain ⟨free, moved⟩ := moved
      cases moved
      exact sound.lockBy here (Handler.grip_pos rfl) free (fun _ => rfl) rfl rfl nofun
  | working isSet o =>
    cases moved
    split
    · exact sound.unlock here (Handler.grip_pos rfl) rfl (fun _ => rfl) rfl rfl
    · exact sound.unlock here (Handler.grip_pos rfl) rfl (fun _ => rfl) rfl rfl
  | remove again o =>
    simp only [Lifetime.act] at moved
    split at moved
    · rename_i entry
      cases moved
      rw [sound.use_eq here (Handler.grip_pos rfl),
        sound.counted.use_eq here (Handler.grip_pos rfl)]
      exact sound.unpublish here entry rfl rfl rfl rfl
    · cases moved
      exact sound.used here (Handler.grip_pos rfl) (fun _ => rfl) rfl rfl
  | draining again table o =>
    simp only [Lifetime.act] at moved
    split at moved
    · cases moved
      obtain ⟨grip, blind, unlocked⟩ := Handler.afterDrain_alike again table o
      exact sound.unlock here (Handler.grip_pos rfl) rfl (Handler.holds_congr grip) blind unlocked
    · rename_i running
      cases moved
      have low : rank (m.state o) ≤ rank .draining := by
        cases here : m.state o with
        | stopped => exact absurd here running
        | creating | active | draining => decide
      exact sound.setState here (Handler.grip_pos rfl) rfl low (fun _ => rfl) rfl rfl
  | cleaning again table o =>
    cases moved
    have low : rank (m.state o) ≤ rank .stopped := by cases m.state o <;> decide
    exact sound.setState here (Handler.grip_pos rfl) rfl low (fun _ => rfl) rfl rfl
  | stopEvent again table o =>
    cases moved
    obtain ⟨grip, blind, unlocked⟩ := Handler.afterDrain_alike again table o
    exact sound.used here (Handler.grip_pos rfl) (Handler.holds_congr grip) blind unlocked
  | putTable again o =>
    cases moved
    exact sound.put here rfl (.inl rfl) rfl rfl
  | putOwn again o =>
    cases moved
    split
    · exact sound.put here rfl (.inr ⟨rfl, rfl⟩) rfl rfl
    · exact sound.put here rfl (.inr ⟨rfl, rfl⟩) rfl rfl
  | walk =>
    simp only [Lifetime.act] at moved
    split at moved
    · rename_i o _ entry
      cases moved
      exact sound.found here rfl (fun o' seen => .inr (entry.trans seen)) rfl
    · cases moved
      split
      · exact sound.readUnlock here rfl rfl rfl
      · exact sound.readUnlock here rfl rfl rfl
  | dumping o =>
    cases moved
    rw [sound.peek_eq here rfl]
    exact sound.found here rfl nofun rfl
  | done => cases moved

end

theorem Sound.spawn (k : Command) : Sound { m with handlers := m.handlers ++ [k.handler] } := by
  have idle : k.handler.grip = none ∧ k.handler.sees = none ∧ k.handler.locks = none := by
    cases k <;> exact ⟨rfl, rfl, rfl⟩
  refine ⟨sound.counted.spawn (Handler.holds_of_none idle.1) idle.2.1, ?_, ?_, sound.forward⟩
  · intro j h o there locks
    rcases getElem?_spawn_cases there with rfl | old
    · simp [idle.2.2] at locks
    · exact sound.locked j h o old locks
  · intro j o there
    rcases getElem?_spawn_cases there with new | old
    · simp [← new, Handler.locks] at idle
    · exact sound.raising j o old

theorem Sound.step {e : Event} (taken : RefTaken m e) (moved : step m e = some m') : Sound m' := by
  cases e with
  | spawn k =>
    cases moved
    exact sound.spawn k
  | act i c =>
    simp only [Lifetime.step] at moved
    split at moved
    · rename_i h here
      obtain ⟨⟨m'', h'⟩, acted, rfl⟩ := map_eq_some_iff.mp moved
      exact sound.act here (fun o same => taken i c o rfl (same ▸ here)) acted
    · cases moved
  | free o =>
    obtain ⟨⟨released, drained, -⟩, rfl⟩ := guarded moved
    exact { sound with counted := sound.counted.free released drained }

end

def Safe (m : Machine) : Prop :=
  m.store.fault = false ∧ m.regressed = false ∧ ∀ o < m.store.next, (m.store.cells o).released =
      if m.store.table = some o ∨ ∃ h ∈ m.handlers, 0 < h.holds o then 0 else 1

theorem Sound.safe (sound : Sound m) : Safe m :=
  ⟨sound.counted.faultless, sound.forward, fun _ old => sound.counted.released_iff old⟩

theorem taken_of_faultless {e : Event} (moved : step m e = some m')
    (faultless : m'.store.fault = false) : RefTaken m e := by
  rintro i c o rfl here
  simp only [step, here, act, map_some, Option.some.injEq] at moved
  subst moved
  simp only [Store.get, Bool.or_eq_false_iff, beq_eq_false_iff_ne] at faultless
  exact Nat.pos_of_ne_zero faultless.2

/-- In every interleaving of the commands the endpoints live as they should exactly if every
creator takes its own reference before the count of the new object came back to zero. -/
theorem safe_throughout_iff {events : List Event} {m : Machine}
    (reached : run step .init events = some m) :
    Throughout step Safe .init events ↔ Along step RefTaken .init events := by
  refine throughout_iff (I := Sound) ?_ ?_ sound_init sound_init.safe reached
  · exact fun _ _ _ sound _ taken moved => sound.step taken moved
  · intro m e m' sound _ moved
    exact ⟨fun taken => (sound.step taken moved).safe, fun safe => taken_of_faultless moved safe.1⟩

/-- The steps of handler `i` while everything succeeds. -/
def steps (i n : Nat) : List Event := List.replicate n (.act i ⟨true, false⟩)

/-- NEW and then DEL, and the memory goes. -/
theorem safe_throughout_new_del : ∃ events m, run step .init events = some m ∧
    Throughout step Safe .init events ∧ (m.store.cells 0).freed = true := by
  let events := [.spawn .new] ++ steps 0 7 ++ [.spawn (.lookup .del)] ++ steps 1 13 ++ [.free 0]
  let check (m : Machine) : Event → Bool
    | .act i _ => (m.handlers[i]?).all fun
      | .takeRef o => decide (0 < (m.store.cells o).refs)
      | _ => true
    | _ => true
  have evaluated : (run step .init events).any (fun m => (m.store.cells 0).freed) = true := by
    decide +kernel
  obtain ⟨m, reached, freed⟩ := (any_eq_true ..).mp evaluated
  refine ⟨events, m, reached, (safe_throughout_iff reached).mpr ?_, freed⟩
  have checked : checkAlong step check .init events = true := by decide +kernel
  refine along_of_checkAlong ?_ checked
  rintro s _ - positive i c o rfl here
  simpa [check, here] using positive

/-- A DEL comes between the publication of an endpoint and the reference of its creator: the
endpoint is released and freed, and the creator then takes a reference on it. -/
theorem creator_takes_freed : ∃ events m, run step .init events = some m ∧
    (m.store.cells 0).released = 1 ∧ (m.store.cells 0).freed = true ∧
    m.handlers[0]? = some (.activate 0) ∧ m.store.fault = true := by
  refine ⟨[.spawn .new, .spawn (.lookup .del)] ++ steps 0 1 ++ steps 1 13 ++ [.free 0] ++
    steps 0 1, ?_⟩
  decide +kernel

end Urp.Netlink.Lifetime
