import Urp.Lib.CumulativeCredit
import Urp.Lib.Run
import Urp.Settings
import Urp.Tx.Sending

/-!
# One stream between two endpoints
-/

namespace Urp

open Urp.Lib Urp.Reorder Urp.Frame Urp.Window Urp.Rx Urp.Tx Option
open Urp.Stream (Pump Phase SendResult Socket)

structure Config where
  id : Nat
  tx : Settings
  rx : Settings
  id_pos : id ≠ 0
  id_lt : id < 2 ^ 32

/-- One stream between two endpoints, with the frames and the grants under way. -/
structure Link where
  tx : Stream
  rx : Stream
  posted : List Payload
  flight : List (List UInt8)
  granted : List Nat

namespace Link

inductive Event where
  | pump (e : PumpEvent)
  | arrive (i : Nat) (kmalloc : Nat → Bool) (mem : Memory)
  | grant (i : Nat) (mem : Memory)

def Gated : PumpEvent → Bool
  | .read _ none => false
  | .post windowNegotiated stalled _ => windowNegotiated && !stalled
  | _ => true

def receive (g : Geometry) (kmalloc : Nat → Bool) (mem : Memory) (s : Stream)
    (wire : List UInt8) : Stream × Option Nat :=
  match classifyFrame wire.length (landing g mem wire 0) with
  | (.deliverStream, dec) =>
    receiveData kmalloc (fun _ => .full) g true s (landing g mem wire) dec
  | (.credit, dec) => (receiveCredit s (landing g mem wire) dec, none)
  | _ => (s, none)

def posts (x : Link) (tx : Stream) (wire : List UInt8) : Link :=
  { x with
    tx := tx
    posted := x.posted ++ [wirePayload wire]
    flight := x.flight ++ [wire] }

def receives (c : Config) (x : Link) (i : Nat) (kmalloc : Nat → Bool) (mem : Memory)
    (wire : List UInt8) : Link :=
  let r := receive c.rx.geometry kmalloc mem x.rx wire
  { x with
    rx := r.1
    flight := x.flight.eraseIdx i
    granted := x.granted ++ r.2.toList }

def learns (c : Config) (x : Link) (mem : Memory) (n : Nat) : Link :=
  { x with
    tx := (receive c.tx.geometry (fun _ => true) mem x.tx (creditBytesFrame c.id n)).1 }

/-- A step of `urp_stream_tx_fn`, a frame in `urp_recv_done`, or a grant at the sender. -/
def step (c : Config) (x : Link) : Event → Option Link
  | .pump e =>
    if Gated e then
      (pumpStep c.tx.geometry x.tx e).map fun r =>
        match r.2 with
        | none => { x with tx := r.1 }
        | some (_, wire) => x.posts r.1 wire
    else none
  | .arrive i kmalloc mem =>
    x.flight[i]?.bind fun wire =>
      if wire.length ≤ c.rx.geometry.bufSize then some (x.receives c i kmalloc mem wire) else none
  | .grant i mem => x.granted[i]?.map (x.learns c mem)

def start (c : Config) : Option Link := do
  let tx ← Stream.create c.tx.sizes c.id
  let rx ← Stream.create c.rx.sizes c.id
  some
    { tx := pumpStart { tx with udsSock := some .fresh }
      rx := { rx with state := .synReceived, udsSock := some .fresh }
      posted := [], flight := [], granted := [] }

def initial (c : Config) : Link where
  tx := pumpStart { Stream.blank c.tx.sizes c.id with udsSock := some .fresh }
  rx := { Stream.blank c.rx.sizes c.id with state := .synReceived, udsSock := some .fresh }
  posted := []
  flight := []
  granted := []

theorem start_eq (c : Config) : start c = some (initial c) := by
  simp [start, Stream.create_eq, initial]

def Reached (c : Config) (es : List Event) (x : Link) : Prop :=
  (start c).bind (fun x => run (step c) x es) = some x

def Event.Allocates : Event → Prop
  | .arrive _ kmalloc _ => ∀ i, kmalloc i = true
  | _ => True

inductive Step (c : Config) (x : Link) : Event → Link → Prop where
  | pump {e tx} (gated : Gated e = true)
    (pumped : PumpStep c.tx.geometry x.tx e tx none) : Step c x (.pump e) { x with tx := tx }
  | post {e tx qp wire} (gated : Gated e = true)
    (pumped : PumpStep c.tx.geometry x.tx e tx (some (qp, wire))) :
    Step c x (.pump e) (x.posts tx wire)
  | arrive {i kmalloc mem wire}
    (found : x.flight[i]? = some wire) (length : wire.length ≤ c.rx.geometry.bufSize) :
    Step c x (.arrive i kmalloc mem) (x.receives c i kmalloc mem wire)
  | grant {i mem n} (found : x.granted[i]? = some n) : Step c x (.grant i mem) (x.learns c mem n)

theorem step_sound {c : Config} {x x' : Link} {e : Event} (h : step c x e = some x') :
    Step c x e x' := by
  cases e with
  | pump e =>
    simp only [step, ite_none_right_eq_some, map_eq_some_iff] at h
    obtain ⟨gated, ⟨tx, out⟩, moved, rfl⟩ := h
    have pumped := pumpStep_sound moved
    cases out with
    | none => exact .pump gated pumped
    | some out => exact .post gated pumped
  | arrive i kmalloc mem =>
    simp only [step, bind_eq_some_iff, ite_none_right_eq_some] at h
    obtain ⟨wire, found, length, moved⟩ := h
    cases moved
    exact .arrive found length
  | grant i mem =>
    obtain ⟨n, found, rfl⟩ := map_eq_some_iff.mp h
    exact .grant found

end Link

end Urp
