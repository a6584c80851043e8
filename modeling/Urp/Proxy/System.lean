import Urp.Endpoint.Inversion
import Urp.Lib.Run
import Urp.Tx.Moves

/-!
# Two endpoints and the queue pairs between them

The initiator and the acceptor with all their streams, and the frames on the way to each of them.
-/

namespace Urp

open Urp.Lib Urp.Reorder Urp.Frame Urp.Rx Urp.Tx Option
open Function (update)
open Urp.Stream (Socket)

inductive Side where
  | initiator | acceptor
deriving DecidableEq, Repr

def Side.peer : Side → Side
  | .initiator => .acceptor
  | .acceptor => .initiator

@[simp] theorem Side.peer_peer (side : Side) : side.peer.peer = side := by cases side <;> rfl

theorem Side.eq_or_peer (side other : Side) : other = side ∨ other = side.peer := by
  cases side <;> cases other <;> simp [Side.peer]

@[simp] theorem Side.peer_ne (side : Side) : side.peer ≠ side := by cases side <;> decide

@[simp] theorem Side.ne_peer (side : Side) : side ≠ side.peer := side.peer_ne.symm

theorem forall_side {P : Side → Prop} (side : Side) (near : P side) (far : P side.peer) :
    ∀ other, P other := by
  intro other
  rcases Side.eq_or_peer side other with rfl | rfl
  · exact near
  · exact far

instance {P : Side → Prop} [DecidablePred P] : Decidable (∀ side, P side) :=
  decidable_of_iff (P .initiator ∧ P .acceptor)
    ⟨fun both => forall_side .initiator both.1 both.2, fun all => ⟨all _, all _⟩⟩

structure Packet where
  qp : Nat
  wire : List UInt8
  client : Nat
deriving DecidableEq, Repr

/-- A pair of endpoints, with what was read for each stream and the numbers that came. -/
structure Proxy where
  ep : Side → Endpoint
  wire : Side → List Packet
  up : Nat → Bool
  read : Side → Nat → List Payload
  came : Side → Nat → List Nat
  client : Side → Nat → Nat
  clients : Nat
  matched : List (Nat × Nat)

namespace Proxy

structure Config where
  settings : Side → Settings
  numQps : Side → Nat

def new (c : Config) : Proxy where
  ep side := Endpoint.init (c.settings side) (decide (side = .initiator)) (c.numQps side)
  wire _ := []
  up _ := false
  read _ _ := []
  came _ _ := []
  client _ _ := 0
  clients := 0
  matched := []

inductive Event where
  | accept (a : Creation) (thread : Bool)
  | pump (side : Side) (id : Nat) (e : PumpEvent)
  | deliver (side : Side) (i : Nat) (a : Answers)
  | cm (side : Side) (e : CmEvent)
  | linkDown (qp : Nat)
  | linkUp (qp : Nat)
  | lose (side : Side) (i : Nat)

def setEp (x : Proxy) (side : Side) (ep : Endpoint) : Proxy :=
  { x with ep := update x.ep side ep }

def posts (x : Proxy) (side : Side) (out : Option Packet) : Proxy :=
  { x with
    wire := update x.wire side (x.wire side ++ out.toList.filter fun p => x.up p.qp) }

def takes (x : Proxy) (side : Side) (i : Nat) : Proxy :=
  { x with wire := update x.wire side ((x.wire side).eraseIdx i) }

def accepts (x : Proxy) (r : Endpoint × Option Nat) : Proxy :=
  { x.setEp .initiator r.1 with
    client := match r.2 with
      | none => x.client
      | some id => update x.client .initiator
          (update (x.client .initiator) id x.clients)
    clients := x.clients + 1 }

def reads (x : Proxy) (side : Side) (id : Nat) (e : PumpEvent) : Proxy :=
  { x with
    read := update x.read side
      (update (x.read side) id (x.read side id ++ readBy e)) }

def pumps (x : Proxy) (side : Side) (id : Nat) (e : PumpEvent)
    (r : Endpoint × Option (Nat × List UInt8)) : Proxy :=
  ((x.setEp side r.1).reads side id e).posts side.peer
    (r.2.map fun out => ⟨out.1, out.2, x.client side id⟩)

def meets (x : Proxy) (side : Side) (p : Packet) : Proxy :=
  { x with
    came :=
      if wireType p.wire = typeData then
        update x.came side (update (x.came side) (wireId p.wire)
          (x.came side (wireId p.wire) ++ [wireSeq p.wire]))
      else x.came
    matched :=
      if wireType p.wire = typeData ∧ ((x.ep side).streams (wireId p.wire)).isSome then
        x.matched ++ [(p.client, x.client side (wireId p.wire))]
      else x.matched
    client :=
      if wireType p.wire = typeData ∧ ((x.ep side).streams (wireId p.wire)).isNone then
        update x.client side (update (x.client side) (wireId p.wire) p.client)
      else x.client }

def receives (x : Proxy) (side : Side) (i : Nat) (a : Answers) (p : Packet) : Proxy :=
  let r := (x.ep side).recvDone a p.qp p.wire
  let x' := ((x.meets side p).takes side i).setEp side r.1
  x'.posts side.peer
    ((if a.emits then r.2 else none).map fun wire => ⟨p.qp, wire, x'.client side (wireId p.wire)⟩)

def First (packets : List Packet) (i : Nat) (p : Packet) : Prop :=
  ∀ q ∈ packets.take i, q.qp ≠ p.qp

instance (packets : List Packet) (i : Nat) (p : Packet) : Decidable (First packets i p) :=
  inferInstanceAs (Decidable (∀ q ∈ packets.take i, q.qp ≠ p.qp))

/-- What either endpoint does, and what happens to the links between them. -/
def step (x : Proxy) : Event → Option Proxy
  | .accept a thread =>
    if (x.ep .initiator).qps.connected then
      some (x.accepts ((x.ep .initiator).acceptClient a thread))
    else none
  | .pump side id e => ((x.ep side).pump id e).map (x.pumps side id e)
  | .deliver side i a =>
    (x.wire side)[i]?.bind fun p =>
      if First (x.wire side) i p then some (x.receives side i a p) else none
  | .cm side e => some (x.setEp side { x.ep side with qps := (x.ep side).qps.cm e })
  | .linkDown qp => some { x with up := update x.up qp false }
  | .linkUp qp => some { x with up := update x.up qp true }
  | .lose side i =>
    (x.wire side)[i]?.bind fun p => if x.up p.qp then none else some (x.takes side i)

inductive Step (x : Proxy) : Event → Proxy → Prop where
  | accept {a thread r} (accepted : Endpoint.Accepted a (x.ep .initiator) r) :
    Step x (.accept a thread) (x.accepts r)
  | pump {side id e s s' r} (found : (x.ep side).streams id = some s)
    (moved : PumpStep (x.ep side).geometry s e s' r.2) (stored : r.1.streams id = some s')
    (touches : Endpoint.Touches id (x.ep side) r.1) : Step x (.pump side id e) (x.pumps side id e r)
  | deliver {side i a p} (found : (x.wire side)[i]? = some p)
    (first : First (x.wire side) i p) : Step x (.deliver side i a) (x.receives side i a p)
  | cm {side e} : Step x (.cm side e) (x.setEp side { x.ep side with qps := (x.ep side).qps.cm e })
  | linkDown {qp} : Step x (.linkDown qp) { x with up := update x.up qp false }
  | linkUp {qp} : Step x (.linkUp qp) { x with up := update x.up qp true }
  | lose {side i p} (found : (x.wire side)[i]? = some p)
    (down : x.up p.qp = false) : Step x (.lose side i) (x.takes side i)

theorem step_sound {x x' : Proxy} {e : Event} (h : step x e = some x') : Step x e x' := by
  cases e with
  | accept a thread =>
    simp only [step, ite_none_right_eq_some] at h
    obtain ⟨-, moved⟩ := h
    cases moved
    exact .accept (Endpoint.acceptClient_sound a thread _)
  | pump side id e =>
    obtain ⟨r, moved, rfl⟩ := map_eq_some_iff.mp h
    obtain ⟨s, s', found, pumped, stored, touches⟩ := Endpoint.pump_sound moved
    exact .pump found pumped stored touches
  | deliver side i a =>
    simp only [step, bind_eq_some_iff, ite_none_right_eq_some] at h
    obtain ⟨p, found, first, moved⟩ := h
    cases moved
    exact .deliver found first
  | cm side e =>
    cases h
    exact .cm
  | linkDown qp =>
    cases h
    exact .linkDown
  | linkUp qp =>
    cases h
    exact .linkUp
  | lose side i =>
    simp only [step, bind_eq_some_iff, ite_none_left_eq_some] at h
    obtain ⟨p, found, down, moved⟩ := h
    cases moved
    exact .lose found (by simpa using down)

/-! ## The parts of a state that an update leaves alone -/

section Updates

variable (x : Proxy) (side : Side)

@[simp] theorem setEp_wire (ep : Endpoint) : (x.setEp side ep).wire = x.wire := rfl

@[simp] theorem setEp_read (ep : Endpoint) : (x.setEp side ep).read = x.read := rfl

@[simp] theorem setEp_ep (ep : Endpoint) : (x.setEp side ep).ep = update x.ep side ep :=
  rfl

@[simp] theorem posts_ep (out : Option Packet) : (x.posts side out).ep = x.ep := rfl

@[simp] theorem posts_read (out : Option Packet) : (x.posts side out).read = x.read := rfl

@[simp] theorem posts_wire (out : Option Packet) :
    (x.posts side out).wire = update x.wire side
      (x.wire side ++ out.toList.filter fun p => x.up p.qp) := rfl

@[simp] theorem meets_ep (p : Packet) : (x.meets side p).ep = x.ep := rfl

@[simp] theorem meets_wire (p : Packet) : (x.meets side p).wire = x.wire := rfl

@[simp] theorem meets_read (p : Packet) : (x.meets side p).read = x.read := rfl

@[simp] theorem takes_ep (i : Nat) : (x.takes side i).ep = x.ep := rfl

@[simp] theorem takes_read (i : Nat) : (x.takes side i).read = x.read := rfl

@[simp] theorem takes_wire (i : Nat) :
    (x.takes side i).wire = update x.wire side ((x.wire side).eraseIdx i) := rfl

section Pumps

variable (id : Nat) (e : PumpEvent)

section

variable (r : Endpoint × Option (Nat × List UInt8))

@[simp] theorem pumps_up : (x.pumps side id e r).up = x.up := rfl

@[simp] theorem pumps_client : (x.pumps side id e r).client = x.client := rfl

@[simp] theorem pumps_ep : (x.pumps side id e r).ep = update x.ep side r.1 := rfl

@[simp] theorem pumps_wire : (x.pumps side id e r).wire side = x.wire side := by
  simp [pumps, reads]

@[simp] theorem pumps_wire_silent (ep : Endpoint) :
    (x.pumps side id e (ep, none)).wire = x.wire := by
  simp [pumps, reads]

theorem pumps_wire_posts (ep : Endpoint) (qp : Nat) (wire : List UInt8) :
    (x.pumps side id e (ep, some (qp, wire))).wire side.peer =
      x.wire side.peer ++ if x.up qp then [⟨qp, wire, x.client side id⟩] else [] := by
  cases up : x.up qp <;> simp [pumps, reads, setEp, up]

@[simp] theorem pumps_read_self :
    (x.pumps side id e r).read side id = x.read side id ++ readBy e := by
  simp [pumps, reads]

@[simp] theorem pumps_read_peer : (x.pumps side id e r).read side.peer = x.read side.peer := by
  simp [pumps, reads]

end

end Pumps

end Updates

end Proxy

end Urp
