import Urp.Proxy.Flow
import Urp.Proxy.Tidy

/-!
# A stream among others

What the state of the system says about one stream id, in both directions, and what a step may do
to it.
-/

namespace Urp.Proxy

open Urp.Lib Urp.Reorder Urp.Frame Urp.Rx Urp.Tx
open Urp.Stream (Socket Phase Pump)

def Names (id : Nat) (p : Packet) : Prop := wireType p.wire = typeData ∧ wireId p.wire = id

instance (id : Nat) (p : Packet) : Decidable (Names id p) :=
  inferInstanceAs (Decidable (_ ∧ _))

def numbersOf (id : Nat) (packets : List Packet) : List Nat :=
  packets.filterMap fun p => if Names id p then some (wireSeq p.wire) else none

section Numbers

variable {id : Nat} {p : Packet} {packets : List Packet}

@[simp] theorem numbersOf_nil : numbersOf id [] = [] := rfl

@[simp] theorem numbersOf_append (l r : List Packet) :
    numbersOf id (l ++ r) = numbersOf id l ++ numbersOf id r := List.filterMap_append

theorem numbersOf_named (named : Names id p) (rest : List Packet) :
    numbersOf id (p :: rest) = wireSeq p.wire :: numbersOf id rest := by
  simp [numbersOf, named]

theorem numbersOf_unnamed (unnamed : ¬Names id p) (rest : List Packet) :
    numbersOf id (p :: rest) = numbersOf id rest := by
  simp [numbersOf, unnamed]

variable {i : Nat}

section

variable (found : packets[i]? = some p)
include found

theorem split_eraseIdx :
    ∃ l r, packets = l ++ p :: r ∧ packets.eraseIdx i = l ++ r := by
  obtain ⟨bound, rfl⟩ := List.getElem?_eq_some_iff.mp found
  refine ⟨packets.take i, packets.drop (i + 1), ?_, List.eraseIdx_eq_take_drop_succ packets i⟩
  rw [List.getElem_cons_drop, List.take_append_drop]

theorem numbersOf_erase (named : Names id p) :
    (numbersOf id packets).Perm (wireSeq p.wire :: numbersOf id (packets.eraseIdx i)) := by
  obtain ⟨l, r, rfl, erased⟩ := split_eraseIdx found
  rw [erased, numbersOf_append, numbersOf_append, numbersOf_named named]
  exact List.perm_middle

theorem numbersOf_erase_unnamed (unnamed : ¬Names id p) :
    numbersOf id (packets.eraseIdx i) = numbersOf id packets := by
  obtain ⟨l, r, rfl, erased⟩ := split_eraseIdx found
  rw [erased, numbersOf_append, numbersOf_append, numbersOf_unnamed unnamed]

end

theorem numbersOf_posts {x : Proxy} {side : Side} {out : Option Packet}
    (unnamed : ∀ p ∈ out, ¬Names id p) (other : Side) :
    numbersOf id ((x.posts side out).wire other) = numbersOf id (x.wire other) := by
  rcases eq_or_ne other side with rfl | same
  · cases out with
    | none => simp
    | some p =>
      rw [posts_wire, Function.update_self, numbersOf_append]
      by_cases up : x.up p.qp = true
      · simp [up, numbersOf_unnamed (unnamed p rfl)]
      · simp [up]
  · rw [posts_wire, Function.update_of_ne same]

end Numbers

def stream (x : Proxy) (side : Side) (id : Nat) : Option Stream := (x.ep side).streams id

def flight (x : Proxy) (side : Side) (id : Nat) : List Nat := numbersOf id (x.wire side.peer)

def FlowAt (x : Proxy) (id : Nat) (side : Side) : Prop :=
  Flow (x.ep side).geometry (x.ep side.peer).geometry id (x.stream side id)
    (x.stream side.peer id) (x.read side id) (x.flight side id) (x.came side.peer id)

def WholeAt (x : Proxy) (id : Nat) (side : Side) : Prop :=
  FlowWhole (x.stream side id) (x.read side id) (x.flight side id) (x.came side.peer id)

structure Sound (id : Nat) (x : Proxy) : Prop where
  tidy : x.Tidy
  initiator : (x.ep .initiator).qps.isInitiator = true
  acceptor : (x.ep .acceptor).qps.isInitiator = false ∧ (x.ep .acceptor).connectPath = true
  known : x.stream .initiator id = none → x.stream .acceptor id = none
  flow : ∀ side, x.FlowAt id side
  carried : ∀ side, ∀ p ∈ x.wire side.peer, Names id p →
    Carries id (x.read side id) (wireSeq p.wire) p.wire
  word : ∀ side, (x.read side id).length ≤ 2 ^ 64

/-! ## What a step may do to the stream -/

end Urp.Proxy

namespace Urp

structure Answers.Succeed (a : Answers) : Prop where
  record : a.creation.record = true
  buffer : a.creation.buffer = true
  connects : a.connects = true
  thread : a.thread = true
  kmalloc : ∀ i, a.kmalloc i = true
  results : ∀ i, a.results i = .full

end Urp

namespace Urp.Proxy

open Urp.Lib Urp.Reorder Urp.Frame Urp.Rx Urp.Tx
open Urp.Stream (Socket Phase Pump)

def Answered (id : Nat) (x : Proxy) : Event → Prop
  | .deliver side i a => ∀ p, (x.wire side)[i]? = some p → Names id p →
    a.Succeed ∧ p.wire.length ≤ (x.ep side).geometry.bufSize ∧
      ∀ s, x.stream side id = some s → wireSeq p.wire = s.reorder.nextExpected ∨
        s.reorder.pendingCount < s.reorder.maxBuffered
  | _ => True

def Numbered (id : Nat) (x : Proxy) : Event → Prop
  | .pump side k e => k = id → readBy e ≠ [] → (x.read side id).length < 2 ^ 64
  | _ => True

def PostsDown (x : Proxy) (side : Side) (id : Nat) : PumpEvent → Prop
  | .post _ _ ok => ok = true ∧ ∃ s sendSyn qp wire len, x.stream side id = some s ∧
    s.txThread = some ⟨sendSyn, .posting qp wire len⟩ ∧ x.up qp = false
  | _ => False

def Loses (id : Nat) (side : Side) (x : Proxy) : Event → Prop
  | .pump other k e => other = side ∧ k = id ∧ (Drops e ∨ PostsDown x side id e)
  | .lose other i => other = side.peer ∧ ∃ p, (x.wire other)[i]? = some p ∧ Names id p
  | _ => False

theorem setup_setEp {x : Proxy} {side : Side} {ep : Endpoint}
    (setup : Endpoint.SameSetup (x.ep side) ep) (other : Side) :
    Endpoint.SameSetup (x.ep other) (Function.update x.ep side ep other) := by
  rcases eq_or_ne other side with rfl | same
  · rwa [Function.update_self]
  · rw [Function.update_of_ne same]
    exact .refl _

section Step

variable {x x' : Proxy} {id : Nat}

theorem flowAt_peer (side : Side) : x.FlowAt id side.peer ↔
    Flow (x.ep side.peer).geometry (x.ep side).geometry id (x.stream side.peer id)
      (x.stream side id) (x.read side.peer id) (numbersOf id (x.wire side)) (x.came side id) := by
  rw [FlowAt, flight, Side.peer_peer]

theorem wholeAt_peer (side : Side) : x.WholeAt id side.peer ↔
    FlowWhole (x.stream side.peer id) (x.read side.peer id) (numbersOf id (x.wire side))
      (x.came side id) := by
  rw [WholeAt, flight, Side.peer_peer]

theorem Sound.elsewhere (sound : Sound id x) (tidy : x'.Tidy)
    (setup : ∀ side, Endpoint.SameSetup (x.ep side) (x'.ep side))
    (streams : ∀ side, x'.stream side id = x.stream side id)
    (read : ∀ side, x'.read side id = x.read side id)
    (came : ∀ side, x'.came side id = x.came side id)
    (numbers : ∀ side, numbersOf id (x'.wire side) = numbersOf id (x.wire side))
    (wires : ∀ side, ∀ p ∈ x'.wire side, Names id p → p ∈ x.wire side) :
    Sound id x' ∧ ∀ side, (x.WholeAt id side ↔ x'.WholeAt id side) := by
  have geometry : ∀ side, (x'.ep side).geometry = (x.ep side).geometry := fun side =>
    congrArg Settings.geometry (setup side).settings
  refine ⟨⟨tidy, ?_, ?_, ?_, ?_, ?_, ?_⟩, ?_⟩
  · exact (setup .initiator).isInitiator.trans sound.initiator
  · exact ⟨(setup .acceptor).isInitiator.trans sound.acceptor.1,
      (setup .acceptor).connectPath.trans sound.acceptor.2⟩
  · rw [streams, streams]
    exact sound.known
  · intro side
    have flow := sound.flow side
    simp only [FlowAt, flight, geometry, streams, read, came, numbers] at flow ⊢
    exact flow
  · intro side p mem named
    rw [read]
    exact sound.carried side p (wires side.peer p mem named) named
  · intro side
    rw [read]
    exact sound.word side
  · intro side
    simp only [WholeAt, flight, streams, read, came, numbers]

theorem Sound.assemble (sound : Sound id x) (side : Side) (tidy : x'.Tidy)
    (setup : ∀ other, Endpoint.SameSetup (x.ep other) (x'.ep other))
    (known : x'.stream .initiator id = none → x'.stream .acceptor id = none)
    (near : Flow (x.ep side).geometry (x.ep side.peer).geometry id (x'.stream side id)
      (x'.stream side.peer id) (x'.read side id) (x'.flight side id) (x'.came side.peer id))
    (far : Flow (x.ep side.peer).geometry (x.ep side).geometry id (x'.stream side.peer id)
      (x'.stream side id) (x'.read side.peer id) (numbersOf id (x'.wire side)) (x'.came side id))
    (carriedNear : ∀ p ∈ x'.wire side.peer, Names id p →
      Carries id (x'.read side id) (wireSeq p.wire) p.wire)
    (carriedFar : ∀ p ∈ x'.wire side, Names id p →
      Carries id (x'.read side.peer id) (wireSeq p.wire) p.wire)
    (words : (x'.read side id).length ≤ 2 ^ 64 ∧ (x'.read side.peer id).length ≤ 2 ^ 64) :
    Sound id x' := by
  have geometry : ∀ other, (x'.ep other).geometry = (x.ep other).geometry := fun other =>
    congrArg Settings.geometry (setup other).settings
  refine ⟨tidy, (setup .initiator).isInitiator.trans sound.initiator,
    ⟨(setup .acceptor).isInitiator.trans sound.acceptor.1,
      (setup .acceptor).connectPath.trans sound.acceptor.2⟩, known, forall_side side ?_ ?_,
    forall_side side carriedNear ?_, forall_side side words.1 words.2⟩
  · rwa [FlowAt, geometry, geometry]
  · rwa [flowAt_peer, geometry, geometry]
  · rwa [Side.peer_peer]

/-! ## A step of the stream's own thread -/

variable {g : Geometry} {s s' : Stream} {e : PumpEvent}

theorem posted_by_thread {qp : Nat}
    {wire : List UInt8} (moved : PumpStep g s e s' (some (qp, wire))) :
    (∃ windowNegotiated stalled, e = .post windowNegotiated stalled true) ∧
      ∃ sendSyn len, s.txThread = some ⟨sendSyn, .posting qp wire len⟩ := by
  cases moved with
  | post thread => exact ⟨⟨_, _, rfl⟩, _, _, thread⟩

variable {side : Side}

theorem not_postsDown (moved : PumpStep g s e s' none) :
    Drops e ∨ PostsDown x side id e ↔ Drops e := by
  cases moved with
  | fail => simp [Drops]
  | _ => simp [PostsDown]

theorem postsDown_iff {qp : Nat} {wire : List UInt8} (found : x.stream side id = some s)
    (moved : PumpStep g s e s' (some (qp, wire))) :
    Drops e ∨ PostsDown x side id e ↔ x.up qp = false := by
  obtain ⟨⟨windowNegotiated, stalled, rfl⟩, sendSyn, len, thread⟩ := posted_by_thread moved
  constructor
  · rintro (dropped | ⟨-, s'', sendSyn', qp', wire', len', found', thread', down⟩)
    · cases dropped
    · cases found.symm.trans found'
      cases thread.symm.trans thread'
      exact down
  · intro down
    exact .inr ⟨rfl, s, sendSyn, qp, wire, len, found, thread, down⟩

theorem Sound.pumpNear (sound : Sound id x) {out : Option (Nat × List UInt8)} (ep : Endpoint)
    (found : x.stream side id = some s) (moved : PumpStep (x.ep side).geometry s e s' out)
    (numbered : readBy e ≠ [] → (x.read side id).length < 2 ^ 64) :
    Flow (x.ep side).geometry (x.ep side.peer).geometry id (some s') (x.stream side.peer id)
        (x.read side id ++ readBy e) ((x.pumps side id e (ep, out)).flight side id)
        (x.came side.peer id) ∧
      (x.WholeAt id side ∧ ¬(Drops e ∨ PostsDown x side id e) ↔
        FlowWhole (some s') (x.read side id ++ readBy e)
          ((x.pumps side id e (ep, out)).flight side id) (x.came side.peer id)) ∧
      ∀ p ∈ (x.pumps side id e (ep, out)).wire side.peer, Names id p →
        Carries id (x.read side id ++ readBy e) (wireSeq p.wire) p.wire := by
  have flow : Flow (x.ep side).geometry (x.ep side.peer).geometry id (some s)
      (x.stream side.peer id) (x.read side id) (x.flight side id) (x.came side.peer id) :=
    found ▸ sound.flow side
  have whole : x.WholeAt id side ↔ FlowWhole (some s) (x.read side id) (x.flight side id)
      (x.came side.peer id) := by
    rw [WholeAt, found]
  have move := (flow.sending s rfl).move moved numbered
  cases out with
  | none =>
    have wire : (x.pumps side id e (ep, none)).wire = x.wire := by simp [pumps, reads, setEp]
    obtain ⟨flow', whole'⟩ := flow.pump move
    rw [flight, wire, not_postsDown moved, whole]
    refine ⟨flow', whole', fun p mem named => (sound.carried side p mem named).append _⟩
  | some out =>
    obtain ⟨qp, wire⟩ := out
    obtain ⟨k, carries, silent, -, flow', whole', lost, notWhole⟩ := flow.post move
    rw [postsDown_iff found moved, silent, List.append_nil, whole]
    have number := wireSeq_carries carries (sound.word side)
    have id_lt : id < 2 ^ 32 := (sound.tidy.tables side id s found).2.1
    have named : Names id ⟨qp, wire, x.client side id⟩ :=
      ⟨(dataFrame_of_carries carries).type, (dataFrame_of_carries carries).names id_lt⟩
    by_cases up : x.up qp = true
    · have posted : (x.pumps side id e (ep, some (qp, wire))).wire side.peer =
          x.wire side.peer ++ [⟨qp, wire, x.client side id⟩] := by
        simp [pumps, reads, setEp, up]
      have flight' : (x.pumps side id e (ep, some (qp, wire))).flight side id =
          x.flight side id ++ [k] := by
        rw [flight, posted, numbersOf_append, numbersOf_named named, ← number]
        rfl
      rw [flight', posted]
      refine ⟨flow', by simp [up, whole'], fun p mem => ?_⟩
      rcases List.mem_append.mp mem with old | new
      · exact sound.carried side p old
      · obtain rfl := List.mem_singleton.mp new
        exact fun _ => number ▸ carries
    · have posted : (x.pumps side id e (ep, some (qp, wire))).wire side.peer =
          x.wire side.peer := by
        simp [pumps, reads, setEp, up]
      rw [flight, posted]
      refine ⟨lost, ?_, sound.carried side⟩
      simp only [up, not_true_eq_false, and_false, false_iff]
      exact notWhole

theorem known_of_opened (side : Side) (opened : x'.stream side id = some s)
    (other : x'.stream side.peer id = x.stream side.peer id)
    (partner : side = .acceptor → x.stream .initiator id ≠ none) :
    x'.stream .initiator id = none → x'.stream .acceptor id = none := by
  intro absent
  cases side with
  | initiator =>
    cases opened.symm.trans absent
  | acceptor => exact absurd (other.symm.trans absent) (partner rfl)

theorem Sound.pumpAt (sound : Sound id x) {r : Endpoint × Option (Nat × List UInt8)}
    (found : x.stream side id = some s) (moved : PumpStep (x.ep side).geometry s e s' r.2)
    (stored : r.1.streams id = some s') (touches : Endpoint.Touches id (x.ep side) r.1)
    (numbered : readBy e ≠ [] → (x.read side id).length < 2 ^ 64)
    (tidy : (x.pumps side id e r).Tidy) :
    Sound id (x.pumps side id e r) ∧ ∀ other,
      (x.WholeAt id other ∧ ¬Loses id other x (.pump side id e) ↔
        (x.pumps side id e r).WholeAt id other) := by
  obtain ⟨ep, out⟩ := r
  obtain ⟨near, whole, carried⟩ := sound.pumpNear ep found moved numbered
  have streamNear : (x.pumps side id e (ep, out)).stream side id = some s' := by
    simpa [stream, pumps, reads] using stored
  have streamFar : (x.pumps side id e (ep, out)).stream side.peer id = x.stream side.peer id := by
    simp [stream, pumps, reads]
  have readNear : (x.pumps side id e (ep, out)).read side id = x.read side id ++ readBy e := by
    simp [pumps, reads]
  have readFar : (x.pumps side id e (ep, out)).read side.peer = x.read side.peer := by
    simp [pumps, reads]
  have wireFar : (x.pumps side id e (ep, out)).wire side = x.wire side := by
    simp [pumps, reads]
  have cameSame : (x.pumps side id e (ep, out)).came = x.came := rfl
  constructor
  · apply sound.assemble side tidy (setup_setEp touches.setup)
    · refine known_of_opened side streamNear streamFar ?_
      rintro rfl absent
      cases found.symm.trans (sound.known absent)
    · rwa [streamNear, streamFar, readNear, cameSame]
    · rw [streamNear, streamFar, readFar, wireFar, cameSame]
      have far := (flowAt_peer side).mp (sound.flow side.peer)
      rw [found] at far
      exact far.rxKeeps (sameRx_pump moved)
    · rwa [readNear]
    · rw [readFar, wireFar]
      have carriedFar := sound.carried side.peer
      rwa [Side.peer_peer] at carriedFar
    · rw [readNear, readFar]
      refine ⟨?_, sound.word side.peer⟩
      have before := sound.word side
      cases e <;> simp [readBy] at numbered ⊢ <;> omega
  · refine forall_side side ?_ ?_
    · have after : (x.pumps side id e (ep, out)).WholeAt id side ↔
          FlowWhole (some s') (x.read side id ++ readBy e)
            ((x.pumps side id e (ep, out)).flight side id) (x.came side.peer id) := by
        rw [WholeAt, streamNear, readNear, cameSame]
      rw [after, ← whole]
      simp [Loses]
    · have after : (x.pumps side id e (ep, out)).WholeAt id side.peer ↔ x.WholeAt id side.peer := by
        rw [wholeAt_peer, wholeAt_peer, streamFar, readFar, wireFar, cameSame]
      rw [after]
      simp [Loses]

end Step

end Urp.Proxy
