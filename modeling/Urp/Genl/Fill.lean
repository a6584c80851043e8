import Urp.Genl.Add

/-!
# The endpoint as the module reports it
-/

namespace Urp.Genl.Fill

open Urp.Lib Urp.Lib.Nla Urp.Control

structure Qp where
  index : UInt32
  established : Bool
  health : UInt8
  rttEwmaNs : UInt64
  txBytes : UInt64
  rxBytes : UInt64
  txFrames : UInt64
  rxFrames : UInt64

structure Stream where
  id : UInt32
  state : UInt8
  txBytes : UInt64
  rxBytes : UInt64
  gapCount : Nat
  sendCredits : UInt16
  creditsToGrant : UInt16
  gapCount_le : gapCount ≤ 65536

structure Stats where
  txBytes : UInt64
  rxBytes : UInt64
  txFrames : UInt64
  rxFrames : UInt64
  creditStalls : UInt64
  reorderInsertions : UInt64
  reorderDrops : UInt64
  bufferAllocFails : UInt64
  authFailures : UInt64

structure Hist where
  bucket : Vector UInt64 histNbuckets
  sumNs : UInt64
  count : UInt64

/-- What changes while an endpoint runs. -/
structure Live where
  state : UInt8
  qps : Option (Nat → Qp)
  streams : Option (List Stream)
  connActive : Bool
  stats : Stats
  interarrival : Nat → Hist
  owd : Hist
  anomalies : UInt64

structure Sysctl where
  interarrivalHist : UInt32
  latencySamplePeriod : UInt32
  owdClockOffsetNs : UInt32

def putU8 (type : Nat) (v : UInt8) : Writer := put type [v]

def putU16 (type : Nat) (v : UInt16) : Writer := put type (putLe 2 v.toNat)

def putU32 (type : Nat) (v : UInt32) : Writer := put type (putLe 4 v.toNat)

def putString (type : Nat) (field : List UInt8) : Writer := put type (cstr field ++ [0])

section Fill

variable (misplaced : Nat → Bool)

def Qp.state (q : Qp) : UInt8 := if q.established then q.health else 0

def putQp (q : Qp) : Writer :=
  seq [ putU32 QpAttr.index.code q.index,
    putU8 QpAttr.state.code q.state,
    putU64 misplaced QpAttr.rttNs.code q.rttEwmaNs,
    putU64 misplaced QpAttr.txBytes.code q.txBytes,
    putU64 misplaced QpAttr.rxBytes.code q.rxBytes,
    putU64 misplaced QpAttr.txFrames.code q.txFrames,
    putU64 misplaced QpAttr.rxFrames.code q.rxFrames]

def putStream (s : Stream) : Writer :=
  seq [ putU32 StreamAttr.id.code s.id,
    putU8 StreamAttr.state.code s.state,
    putU64 misplaced StreamAttr.txBytes.code s.txBytes,
    putU64 misplaced StreamAttr.rxBytes.code s.rxBytes,
    putU32 StreamAttr.reorderDepth.code (UInt32.ofNat s.gapCount),
    putU16 StreamAttr.creditsLocal.code s.sendCredits,
    putU16 StreamAttr.creditsRemote.code s.creditsToGrant]

def putStats (activeStreams : UInt32) (s : Stats) : Writer :=
  seq [ putU32 StatsAttr.activeStreams.code activeStreams,
    putU64 misplaced StatsAttr.txBytes.code s.txBytes,
    putU64 misplaced StatsAttr.rxBytes.code s.rxBytes,
    putU64 misplaced StatsAttr.txFrames.code s.txFrames,
    putU64 misplaced StatsAttr.rxFrames.code s.rxFrames,
    putU64 misplaced StatsAttr.creditStalls.code s.creditStalls,
    putU64 misplaced StatsAttr.reorderInsertions.code s.reorderInsertions,
    putU64 misplaced StatsAttr.reorderDrops.code s.reorderDrops,
    putU64 misplaced StatsAttr.bufferAllocFails.code s.bufferAllocFails,
    putU64 misplaced StatsAttr.authFailures.code s.authFailures]

/-- The first `nbuckets` counts go into one attribute. -/
def putHist (nbuckets : Nat) (stride : UInt32) (h : Hist) : Writer :=
  seq [ putU32 HistAttr.stride.code stride,
    put HistAttr.buckets.code ((h.bucket.toList.take nbuckets).flatMap fun v => putLe 8 v.toNat),
    putU64 misplaced HistAttr.sumNs.code h.sumNs,
    putU64 misplaced HistAttr.count.code h.count]

def iaNstrides : Nat := 3

def iaStride : Nat → UInt32
  | 0 => 1
  | 1 => 10
  | 2 => 100
  | _ => 1

def Stream.fresh (id : UInt32) : Stream := ⟨id, 0, 0, 0, 0, 32, 0, Nat.zero_le _⟩

def Live.legacy (l : Live) : Stream where
  id := 0
  state := 2
  txBytes := l.stats.txBytes
  rxBytes := l.stats.rxBytes
  gapCount := 0
  sendCredits := 0
  creditsToGrant := 0
  gapCount_le := Nat.zero_le _

def Live.reportedStreams (l : Live) : List Stream :=
  let walked := l.streams.getD []
  if walked.isEmpty && l.connActive then [l.legacy] else walked

def Live.reportedQps (l : Live) (numQps : Nat) : List Qp :=
  match l.qps with
  | some qps => (List.range numQps).map qps
  | none => []

variable (sys : Sysctl) (r : Record) (l : Live)

def putSummary : List Writer := [
  putString EndpointAttr.name.code r.name,
  whenever (isSet r.listenPath) (putString EndpointAttr.listenPath.code r.listenPath),
  whenever (isSet r.connectPath) (putString EndpointAttr.connectPath.code r.connectPath),
  whenever (isSet r.rdmaDevice) (putString EndpointAttr.rdmaDevice.code r.rdmaDevice),
  whenever r.hasPeerAddr (put EndpointAttr.peerAddr.code r.peerAddr),
  whenever r.hasBindAddr (put EndpointAttr.bindAddr.code r.bindAddr),
  putU32 EndpointAttr.numQps.code r.numQps,
  putU32 EndpointAttr.bufferCount.code r.bufferCount,
  putU32 EndpointAttr.bufferSize.code r.bufferSize,
  putU8 EndpointAttr.state.code l.state]

def putEach {α : Type} (putOne : α → Writer) (xs : List α) : Writer :=
  seq (xs.zipIdx.map fun (x, i) => nest (i + 1) (putOne x))

def putOwd : Writer :=
  seq [ nest OwdAttr.hist.code (putHist misplaced owdNbuckets 0 l.owd),
    putU64 misplaced OwdAttr.clockOffsetNs.code sys.owdClockOffsetNs.toUInt64,
    putU64 misplaced OwdAttr.anomalies.code l.anomalies]

def putDetails : List Writer := [
  nest EndpointAttr.qps.code (putEach (putQp misplaced) (l.reportedQps r.numQps.toNat)),
  nest EndpointAttr.streams.code (putEach (putStream misplaced) l.reportedStreams),
  nest EndpointAttr.stats.code (putStats misplaced (UInt32.ofNat l.reportedStreams.length) l.stats),
  whenever (sys.interarrivalHist ≠ 0) (nest EndpointAttr.interarrival.code
    (putEach (fun s => putHist misplaced histNbuckets (iaStride s) (l.interarrival s))
      (List.range iaNstrides))),
  whenever (sys.latencySamplePeriod ≠ 0) (nest EndpointAttr.owd.code (putOwd misplaced sys l))]

def fillEndpoint (verbose : Bool) : Writer :=
  nest attrEndpoint (seq (putSummary r l ++ if verbose then putDetails misplaced sys r l else []))

end Fill

end Urp.Genl.Fill
