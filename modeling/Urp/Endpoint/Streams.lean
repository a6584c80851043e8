import Urp.Endpoint.Qps
import Urp.Rx.Recv
import Urp.Settings
import Urp.Tx.Pump

/-!
# An endpoint and its streams
-/

namespace Urp

open Urp.Lib Urp.Frame Urp.Window Urp.Rx Urp.Tx
open Urp.Stream (SendResult Socket)

/-- `struct urp_endpoint` with its table of streams. -/
structure Endpoint where
  settings : Settings
  connectPath : Bool
  qps : Qps
  nextStreamId : Nat
  streams : Nat → Option Stream

/-- What `urp_stream_create` meets: its allocations, the speed of the link and its delay. -/
structure Creation where
  record : Bool
  buffer : Bool
  linkMbps : Nat
  rttNs : Nat

structure Answers where
  mem : Memory
  kmalloc : Nat → Bool
  results : Nat → SendResult
  creation : Creation
  connects : Bool
  thread : Bool
  known : Bool
  emits : Bool

def answering : Answers :=
  ⟨fun _ _ => 0, fun _ => true, fun _ => .full, ⟨true, true, 0, 0⟩, true, true, false, false⟩

namespace Endpoint

def geometry (ep : Endpoint) : Geometry := ep.settings.geometry

def put (ep : Endpoint) (id : Nat) (s : Option Stream) : Endpoint :=
  { ep with streams := Function.update ep.streams id s }

def init (settings : Settings) (isInitiator : Bool) (numQps : Nat) : Endpoint where
  settings := settings
  connectPath := !isInitiator
  qps := Qps.init isInitiator numQps settings.sizes.numBufs
  nextStreamId := if isInitiator then 1 else 2
  streams _ := none

def nextId (ep : Endpoint) : Endpoint × Nat :=
  ({ ep with nextStreamId := wrap32 (ep.nextStreamId + 2) }, ep.nextStreamId)

def sizes (ep : Endpoint) (a : Creation) : Sizes :=
  { ep.settings.sizes with linkMbps := a.linkMbps, rttNs := a.rttNs }

def streamCreate (a : Creation) (ep : Endpoint) (id : Nat) : Endpoint × Except Errno Stream :=
  if a.record then
    let numbered := if id = 0 then ep.nextId else (ep, id)
    match if a.buffer then Stream.create (ep.sizes a) numbered.2 else none with
    | none => (numbered.1, .error .ENOMEM)
    | some s =>
      if (ep.streams numbered.2).isSome then (numbered.1, .error .EEXIST)
      else (numbered.1.put numbered.2 s, .ok s)
  else (ep, .error .ENOMEM)

def rxSyn (a : Creation) (ep : Endpoint) (id : Nat) : Endpoint × Except Errno Stream :=
  match ep.streams id with
  | some s =>
    let t := Stream.nextState s.state .rxSyn
    if t.accepted then (ep.put id (some { s with state := t.next }), .ok { s with state := t.next })
    else (ep, .error .EEXIST)
  | none =>
    match ep.streamCreate a id with
    | (ep, .error e) => (ep, .error e)
    | (ep, .ok s) =>
      (ep.put id (some { s with state := .synReceived }), .ok { s with state := .synReceived })

def rxFin (s : Stream) : Stream :=
  let t := Stream.nextState s.state .rxFin
  { s with
    state := t.next
    udsSock := s.udsSock.map fun uds => if t.shutdownWr then { uds with shutWr := true } else uds }

def rxFind (a : Creation) (ep : Endpoint) (id : Nat) (flags : UInt8) :
    Endpoint × Except Errno Stream :=
  if flags &&& dataFlagSyn ≠ 0 then ep.rxSyn a id
  else
    match ep.streams id with
    | some s => (ep, .ok s)
    | none => if flags &&& dataFlagRst ≠ 0 then (ep, .error .ENOENT) else ep.rxSyn a id

/-- `urp_stream_rx_dispatch`, whose first half is `rxFind`. -/
def rxDispatch (a : Creation) (ep : Endpoint) (id : Nat) (flags : UInt8) :
    Endpoint × Except Errno (Option Stream) :=
  match ep.rxFind a id flags with
  | (ep, .error e) => (ep, .error e)
  | (ep, .ok s) =>
    if flags &&& dataFlagRst ≠ 0 then (ep.put id none, .ok none)
    else if flags &&& dataFlagFin ≠ 0 then (ep.put id (some (rxFin s)), .ok (some (rxFin s)))
    else (ep, .ok (some s))

def needsBackend (ep : Endpoint) (s : Stream) : Bool :=
  s.udsSock.isNone && !ep.qps.isInitiator && ep.connectPath

def openBackend (a : Answers) (s : Stream) : Stream :=
  if s.udsSock.isSome then s
  else if a.connects then
    let s := { s with udsSock := some Socket.fresh }
    if a.thread then pumpStart s else s
  else s

def grantFrames (ep : Endpoint) (qp id : Nat) : Endpoint × Option (List UInt8) :=
  let credit := (ep.qps.qp qp).credit.recordRecv
  let taken := if credit.shouldGrant then credit.takeGrants else (credit, 0)
  ({ ep with qps := ep.qps.modify qp fun q => { q with credit := taken.1 } },
    if taken.2 = 0 then none else some (creditFrame id taken.2))

def receiveStream (a : Answers) (ep : Endpoint) (qp : Nat) (slot : Memory) (dec : RxDecoded) :
    Endpoint × Option (List UInt8) :=
  match ep.rxDispatch a.creation dec.streamId dec.flags with
  | (ep, .ok (some s)) =>
    let s := if ep.needsBackend s then openBackend a s else s
    if s.udsSock.isSome then
      let r := receiveData a.kmalloc a.results ep.geometry
        (a.known && ep.qps.windowNegotiated) s slot dec
      let ep := ep.put dec.streamId (some r.1)
      if a.known then
        if ep.qps.windowNegotiated then (ep, r.2.map (creditBytesFrame dec.streamId))
        else ep.grantFrames qp dec.streamId
      else (ep, none)
    else (ep.put dec.streamId (some s), none)
  | (ep, _) => (ep, none)

def receiveControl (a : Answers) (ep : Endpoint) (qp : Nat) (slot : Memory) (dec : RxDecoded) :
    Endpoint :=
  if dec.streamId = 0 then
    if dec.flags &&& ctrlFlagCredit ≠ 0 ∧ a.known then
      { ep with qps := ep.qps.modify qp fun q => { q with credit := q.credit.grant dec.credits } }
    else ep
  else
    match ep.streams dec.streamId with
    | none => ep
    | some s => ep.put dec.streamId (some (receiveCredit s slot dec))

def recvDone (a : Answers) (ep : Endpoint) (qp : Nat) (wire : List UInt8) :
    Endpoint × Option (List UInt8) :=
  if wire.length ≤ ep.geometry.bufSize then
    let slot := landing ep.geometry a.mem wire
    match classifyFrame wire.length (slot 0) with
    | (.deliverStream, dec) => ep.receiveStream a qp slot dec
    | (.credit, dec) => (ep.receiveControl a qp slot dec, none)
    | _ => (ep, none)
  else (ep, none)

def acceptClient (a : Creation) (thread : Bool) (ep : Endpoint) : Endpoint × Option Nat :=
  match ep.streamCreate a 0 with
  | (ep, .error _) => (ep, none)
  | (ep, .ok s) =>
    if thread then
      (ep.put s.id (some (pumpStart { s with udsSock := some Socket.fresh })), some s.id)
    else (ep.put s.id none, none)

def stepThread (ep : Endpoint) (id : Nat) (e : PumpEvent) :
    Option (Endpoint × Option (Nat × List UInt8)) :=
  (ep.streams id).bind fun s =>
    (pumpStep ep.geometry s e).map fun r => (ep.put id (some r.1), r.2)

def pump (ep : Endpoint) (id : Nat) : PumpEvent → Option (Endpoint × Option (Nat × List UInt8))
  | .read r qp =>
    let found := ep.qps.selectRoundRobin
    if qp = found.2 ∧ r.tstampNegotiated = ep.qps.tstampNegotiated then
      { ep with qps := found.1 }.stepThread id (.read r qp)
    else none
  | .post windowNegotiated stalled ok =>
    if windowNegotiated = ep.qps.windowNegotiated then
      ep.stepThread id (.post windowNegotiated stalled ok)
    else none
  | e => ep.stepThread id e

end Endpoint

end Urp
