import Mathlib.Data.Vector.Defs
import Urp.Genl.Attr

/-!
# The endpoint as the control tool reads it

A reply is decoded attribute by attribute.
-/

namespace Urp.Genl.Format

open Urp.Lib Urp.Lib.Nla
open List hiding Vector

/-! ## Socket addresses -/

inductive SocketAddr where
  | v4 (octets : Vector UInt8 4) (port : UInt16)
  | v6 (octets : Vector UInt8 16) (port : UInt16) (scopeId : UInt32)
deriving DecidableEq

def SocketAddr.isV4 : SocketAddr → Bool
  | .v4 _ _ => true
  | .v6 _ _ _ => false

def afInet6 : Nat := 10

def sockaddrLen : Nat := 28

def putBe (width n : Nat) : List UInt8 := (putLe width n).reverse

def getBe (bytes : List UInt8) : Nat := getLe bytes.reverse

theorem getBe_putBe {width n : Nat} (bound : n < 256 ^ width) : getBe (putBe width n) = n := by
  rw [getBe, putBe, reverse_reverse, getLe_putLe_of_lt bound]

@[simp] theorem length_putBe (width n : Nat) : (putBe width n).length = width := by
  simp [putBe]

def mappedHead : List UInt8 := List.replicate 10 0 ++ [0xff, 0xff]

/-- The bytes of a `sockaddr_in6`: family, port, flow, address and scope. -/
def sockaddrBytes (port : UInt16) (addr16 : List UInt8) (scope : Nat) : List UInt8 :=
  putLe 2 afInet6 ++ (putBe 2 port.toNat ++ (List.replicate 4 0 ++ (addr16 ++ putBe 4 scope)))

def encodeSockaddrIn6 : SocketAddr → List UInt8
  | .v4 octets port => sockaddrBytes port (mappedHead ++ octets.toList) 0
  | .v6 octets port scopeId => sockaddrBytes port octets.toList scopeId.toNat

/-- The first `n` bytes. -/
def octetsOf (n : Nat) (bytes : List UInt8) : Vector UInt8 n := Vector.ofFn fun i => bytes.getD i 0

theorem octetsOf_toList {n : Nat} (octets : Vector UInt8 n) :
    octetsOf n octets.toList = octets := by
  ext i bound
  simp [octetsOf]

def decodeSockaddrIn6 (b : List UInt8) : Option SocketAddr :=
  if b.length ≠ sockaddrLen then none
  else if getLe (b.take 2) ≠ afInet6 then none
  else
    let port := UInt16.ofNat (getBe ((b.drop 2).take 2))
    let addr16 := (b.drop 8).take 16
    let scope := UInt32.ofNat (getBe ((b.drop 24).take 4))
    if addr16.take 12 = mappedHead then some (.v4 (octetsOf 4 (addr16.drop 12)) port)
    else some (.v6 (octetsOf 16 addr16) port scope)

theorem length_encodeSockaddrIn6 (a : SocketAddr) : (encodeSockaddrIn6 a).length = sockaddrLen := by
  cases a <;> simp [encodeSockaddrIn6, sockaddrBytes, mappedHead, sockaddrLen]

section Sockaddr

variable (port : UInt16) {addr16 : List UInt8} (scope : Nat)

theorem family_sockaddrBytes : getLe ((sockaddrBytes port addr16 scope).take 2) = afInet6 := by
  rw [sockaddrBytes, take_left' (length_putLe 2 _), getLe_putLe]
  rfl

theorem port_sockaddrBytes :
    UInt16.ofNat (getBe (((sockaddrBytes port addr16 scope).drop 2).take 2)) = port := by
  rw [sockaddrBytes, drop_left' (length_putLe 2 _), take_left' (length_putBe 2 _),
    getBe_putBe (by simpa using port.toNat_lt), UInt16.ofNat_toNat]

theorem addr_sockaddrBytes (length : addr16.length = 16) :
    ((sockaddrBytes port addr16 scope).drop 8).take 16 = addr16 := by
  have head : sockaddrBytes port addr16 scope =
      (putLe 2 afInet6 ++ putBe 2 port.toNat ++ List.replicate 4 0) ++
        (addr16 ++ putBe 4 scope) := by
    simp [sockaddrBytes]
  rw [head, drop_left' (by simp), take_left' length]

end Sockaddr

theorem decodeSockaddrIn6_encode {a : SocketAddr} (v4 : a.isV4 = true) :
    decodeSockaddrIn6 (encodeSockaddrIn6 a) = some a := by
  cases a with
  | v6 octets port scopeId => cases v4
  | v4 octets port =>
    have length := length_encodeSockaddrIn6 (.v4 octets port)
    simp only [encodeSockaddrIn6] at length
    have addr : ((sockaddrBytes port (mappedHead ++ octets.toList) 0).drop 8).take 16 =
        mappedHead ++ octets.toList := addr_sockaddrBytes port 0 (by simp [mappedHead])
    simp only [decodeSockaddrIn6, encodeSockaddrIn6, length, family_sockaddrBytes,
      port_sockaddrBytes, addr, ne_eq, not_true_eq_false, if_false]
    rw [take_left' (by rfl), if_pos rfl, drop_left' (by rfl), octetsOf_toList]

/-! ## States -/

inductive EndpointState where
  | creating | active | draining | stopped

def EndpointState.fromU8 : UInt8 → Option EndpointState
  | 0 => some .creating
  | 1 => some .active
  | 2 => some .draining
  | 3 => some .stopped
  | _ => none

def EndpointState.asStr : EndpointState → String
  | .creating => "creating"
  | .active => "active"
  | .draining => "draining"
  | .stopped => "stopped"

inductive QpState where
  | qualifying | active | draining | removed

def QpState.fromU8 : UInt8 → Option QpState
  | 0 => some .qualifying
  | 1 => some .active
  | 2 => some .draining
  | 3 => some .removed
  | _ => none

def QpState.asStr : QpState → String
  | .qualifying => "qualifying"
  | .active => "active"
  | .draining => "draining"
  | .removed => "removed"

inductive StreamState where
  | synSent | synReceived | established | finWait | closeWait | closed

def StreamState.fromU8 : UInt8 → Option StreamState
  | 0 => some .synSent
  | 1 => some .synReceived
  | 2 => some .established
  | 3 => some .finWait
  | 4 => some .closeWait
  | 5 => some .closed
  | _ => none

def StreamState.asStr : StreamState → String
  | .synSent => "syn-sent"
  | .synReceived => "syn-received"
  | .established => "established"
  | .finWait => "fin-wait"
  | .closeWait => "close-wait"
  | .closed => "closed"

def stateText (name : Option String) (v : UInt8) : String :=
  name.getD ("unknown(" ++ toString v.toNat ++ ")")

def endpointStateText (v : UInt8) : String :=
  stateText ((EndpointState.fromU8 v).map EndpointState.asStr) v

def qpStateText (v : UInt8) : String := stateText ((QpState.fromU8 v).map QpState.asStr) v

def streamStateText (v : UInt8) : String :=
  stateText ((StreamState.fromU8 v).map StreamState.asStr) v

/-! ## Records -/

structure Histogram where
  stride : UInt32
  buckets : List UInt64
  sumNs : UInt64
  count : UInt64
deriving DecidableEq

structure Owd where
  hist : Histogram
  clockOffsetNs : UInt64
  anomalies : UInt64
deriving DecidableEq

structure Qp where
  index : UInt32
  state : String
  rttNs : UInt64
  txBytes : UInt64
  rxBytes : UInt64
  txFrames : UInt64
  rxFrames : UInt64
deriving DecidableEq

structure Stream where
  id : UInt32
  state : String
  txBytes : UInt64
  rxBytes : UInt64
  reorderDepth : UInt32
  creditsLocal : UInt16
  creditsRemote : UInt16
deriving DecidableEq

structure Stats where
  activeStreams : UInt32
  txBytes : UInt64
  rxBytes : UInt64
  txFrames : UInt64
  rxFrames : UInt64
  creditStalls : UInt64
  reorderInsertions : UInt64
  reorderDrops : UInt64
  bufferAllocFails : UInt64
  authFailures : UInt64
deriving DecidableEq

structure Endpoint where
  name : String
  listenPath : Option String
  connectPath : Option String
  rdmaDevice : Option String
  peerAddr : Option String
  bindAddr : Option String
  numQps : UInt32
  bufferCount : UInt32
  bufferSize : UInt32
  state : String
  qps : List Qp
  streams : List Stream
  stats : Option Stats
  interarrival : List Histogram
  owd : Option Owd
deriving DecidableEq

def Qp.empty : Qp := ⟨0, "", 0, 0, 0, 0, 0⟩

def Qp.set (qp : Qp) (a : Attr) : Qp :=
  if a.type = QpAttr.index.code then { qp with index := (payloadU32 a.payload).getD 0 }
  else if a.type = QpAttr.state.code then
    { qp with state := qpStateText ((payloadU8 a.payload).getD 0) }
  else if a.type = QpAttr.rttNs.code then { qp with rttNs := (payloadU64 a.payload).getD 0 }
  else if a.type = QpAttr.txBytes.code then { qp with txBytes := (payloadU64 a.payload).getD 0 }
  else if a.type = QpAttr.rxBytes.code then { qp with rxBytes := (payloadU64 a.payload).getD 0 }
  else if a.type = QpAttr.txFrames.code then { qp with txFrames := (payloadU64 a.payload).getD 0 }
  else if a.type = QpAttr.rxFrames.code then { qp with rxFrames := (payloadU64 a.payload).getD 0 }
  else qp

def parseQps (buf : List UInt8) : List Qp :=
  (attrIter buf).map fun a => (attrIter a.payload).foldl Qp.set .empty

def Stream.empty : Stream := ⟨0, "", 0, 0, 0, 0, 0⟩

def Stream.set (s : Stream) (a : Attr) : Stream :=
  if a.type = StreamAttr.id.code then { s with id := (payloadU32 a.payload).getD 0 }
  else if a.type = StreamAttr.state.code then
    { s with state := streamStateText ((payloadU8 a.payload).getD 0) }
  else if a.type = StreamAttr.txBytes.code then { s with txBytes := (payloadU64 a.payload).getD 0 }
  else if a.type = StreamAttr.rxBytes.code then { s with rxBytes := (payloadU64 a.payload).getD 0 }
  else if a.type = StreamAttr.reorderDepth.code then
    { s with reorderDepth := (payloadU32 a.payload).getD 0 }
  else if a.type = StreamAttr.creditsLocal.code then
    { s with creditsLocal := (payloadU16 a.payload).getD 0 }
  else if a.type = StreamAttr.creditsRemote.code then
    { s with creditsRemote := (payloadU16 a.payload).getD 0 }
  else s

def parseStreams (buf : List UInt8) : List Stream :=
  (attrIter buf).map fun a => (attrIter a.payload).foldl Stream.set .empty

def Stats.empty : Stats := ⟨0, 0, 0, 0, 0, 0, 0, 0, 0, 0⟩

def Stats.set (s : Stats) (a : Attr) : Stats :=
  if a.type = StatsAttr.activeStreams.code then
    { s with activeStreams := (payloadU32 a.payload).getD 0 }
  else if a.type = StatsAttr.txBytes.code then { s with txBytes := (payloadU64 a.payload).getD 0 }
  else if a.type = StatsAttr.rxBytes.code then { s with rxBytes := (payloadU64 a.payload).getD 0 }
  else if a.type = StatsAttr.txFrames.code then { s with txFrames := (payloadU64 a.payload).getD 0 }
  else if a.type = StatsAttr.rxFrames.code then { s with rxFrames := (payloadU64 a.payload).getD 0 }
  else if a.type = StatsAttr.creditStalls.code then
    { s with creditStalls := (payloadU64 a.payload).getD 0 }
  else if a.type = StatsAttr.reorderInsertions.code then
    { s with reorderInsertions := (payloadU64 a.payload).getD 0 }
  else if a.type = StatsAttr.reorderDrops.code then
    { s with reorderDrops := (payloadU64 a.payload).getD 0 }
  else if a.type = StatsAttr.bufferAllocFails.code then
    { s with bufferAllocFails := (payloadU64 a.payload).getD 0 }
  else if a.type = StatsAttr.authFailures.code then
    { s with authFailures := (payloadU64 a.payload).getD 0 }
  else s

def parseStats (buf : List UInt8) : Stats := (attrIter buf).foldl Stats.set .empty

def wordsOf (n : Nat) (val : List UInt8) : List UInt64 :=
  (List.range n).map fun i => UInt64.ofNat (getLe ((val.drop (i * 8)).take 8))

def Histogram.empty : Histogram := ⟨0, [], 0, 0⟩

def Histogram.set (nbuckets : Nat) (h : Histogram × Bool) (a : Attr) : Histogram × Bool :=
  if a.type = HistAttr.stride.code then
    ({ h.1 with stride := (payloadU32 a.payload).getD 0 }, h.2)
  else if a.type = HistAttr.buckets.code then
    if a.payload.length = nbuckets * 8 then
      ({ h.1 with buckets := wordsOf nbuckets a.payload }, true)
    else h
  else if a.type = HistAttr.sumNs.code then
    ({ h.1 with sumNs := (payloadU64 a.payload).getD 0 }, h.2)
  else if a.type = HistAttr.count.code then
    ({ h.1 with count := (payloadU64 a.payload).getD 0 }, h.2)
  else h

def parseOneHist (buf : List UInt8) (nbuckets : Nat) : Option Histogram :=
  let (h, bucketsOk) := (attrIter buf).foldl (Histogram.set nbuckets) (.empty, false)
  if bucketsOk then some h else none

def parseHistograms (buf : List UInt8) : List Histogram :=
  (attrIter buf).filterMap fun a => parseOneHist a.payload histNbuckets

def Owd.empty : Owd := ⟨.empty, 0, 0⟩

def Owd.set (o : Owd × Bool) (a : Attr) : Owd × Bool :=
  if a.type = OwdAttr.hist.code then
    match parseOneHist a.payload owdNbuckets with
    | some h => ({ o.1 with hist := h }, true)
    | none => o
  else if a.type = OwdAttr.clockOffsetNs.code then
    ({ o.1 with clockOffsetNs := (payloadU64 a.payload).getD 0 }, o.2)
  else if a.type = OwdAttr.anomalies.code then
    ({ o.1 with anomalies := (payloadU64 a.payload).getD 0 }, o.2)
  else o

def parseOwd (buf : List UInt8) : Option Owd :=
  let (o, histOk) := (attrIter buf).foldl Owd.set (.empty, false)
  if histOk then some o else none

section Endpoint

/-! `display` prints a socket address. -/

variable (display : SocketAddr → String)

def Endpoint.empty : Endpoint :=
  ⟨"", none, none, none, none, none, 0, 0, 0, "", [], [], none, [], none⟩

def Endpoint.set (ep : Endpoint) (a : Attr) : Endpoint :=
  let p := a.payload
  if a.type = EndpointAttr.name.code then { ep with name := (payloadStr p).getD "" }
  else if a.type = EndpointAttr.listenPath.code then { ep with listenPath := payloadStr p }
  else if a.type = EndpointAttr.connectPath.code then { ep with connectPath := payloadStr p }
  else if a.type = EndpointAttr.rdmaDevice.code then { ep with rdmaDevice := payloadStr p }
  else if a.type = EndpointAttr.peerAddr.code then
    { ep with peerAddr := (decodeSockaddrIn6 p).map display }
  else if a.type = EndpointAttr.bindAddr.code then
    { ep with bindAddr := (decodeSockaddrIn6 p).map display }
  else if a.type = EndpointAttr.numQps.code then { ep with numQps := (payloadU32 p).getD 0 }
  else if a.type = EndpointAttr.bufferCount.code then
    { ep with bufferCount := (payloadU32 p).getD 0 }
  else if a.type = EndpointAttr.bufferSize.code then { ep with bufferSize := (payloadU32 p).getD 0 }
  else if a.type = EndpointAttr.state.code then
    { ep with state := endpointStateText ((payloadU8 p).getD 0) }
  else if a.type = EndpointAttr.qps.code then { ep with qps := parseQps p }
  else if a.type = EndpointAttr.streams.code then { ep with streams := parseStreams p }
  else if a.type = EndpointAttr.stats.code then { ep with stats := some (parseStats p) }
  else if a.type = EndpointAttr.interarrival.code then
    { ep with interarrival := parseHistograms p }
  else if a.type = EndpointAttr.owd.code then { ep with owd := parseOwd p }
  else ep

def Endpoint.parseNested (buf : List UInt8) : Option Endpoint :=
  let ep := (attrIter buf).foldl (Endpoint.set display) .empty
  if ep.name = "" then none else some ep

def Endpoint.parseTop (buf : List UInt8) : Option Endpoint :=
  match (attrIter buf).find? (·.type = attrEndpoint) with
  | some a => Endpoint.parseNested display a.payload
  | none => none

end Endpoint

end Urp.Genl.Format
