import Urp.Genl.Format
import Urp.Lib.Exposition
import Urp.Lib.Machine

/-!
# The metrics document

The renderer of the exporter.
-/

namespace Urp.Exporter

open Urp.Lib Urp.Lib.Exposition
open Urp.Genl (histNbuckets owdNbuckets)
open Urp.Genl.Format

structure Config where
  perQp : Bool
  perStream : Bool
  maxSeries : UInt64
  interarrival : Bool
  owd : Bool

structure Floats where
  F : Type
  ofNat : Nat → F
  /-- The number over 1e9. -/
  seconds : Nat → F
  display : F → Text
  lowerExp : F → Text
  display_line : ∀ x, OneLine (display x)
  lowerExp_line : ∀ x, OneLine (lowerExp x)

structure Build where
  ver : String
  git : Option String

structure SelfStats (fl : Floats) where
  up : Bool
  scrapeDurationSeconds : fl.F
  netlinkRequests : Nat
  scrapeErrors : Nat
  cacheHits : Nat
  endpoints : Nat
  seriesCapped : Nat

def endpointStates : List String := ["creating", "active", "draining", "stopped"]

def qpStates : List String := ["qualifying", "active", "draining", "removed"]

def streamStates : List String :=
  ["syn-sent", "syn-received", "established", "fin-wait", "close-wait", "closed"]

def histEdgesNs : Vector Nat (histNbuckets - 1) :=
  #v[250, 500, 1000, 2000, 5000, 10000, 25000, 50000, 100000, 250000, 500000, 1000000, 5000000,
    25000000]

def owdEdgesNs : Vector Nat (owdNbuckets - 1) :=
  #v[1000, 2000, 5000, 10000, 20000, 50000, 100000, 200000, 500000, 1000000, 2000000, 5000000,
    10000000]

/-! ## The number of series -/

def endpointSeriesCount (cfg : Config) (ep : Endpoint) : Nat :=
  (if ep.stats.isSome then 9 + 1 else 0) + 1
    + (endpointStates.length + 1)
    + 1
    + (if cfg.perQp then ep.qps.length * (4 + 1 + qpStates.length + 1) else 0)
    + (if cfg.perStream then ep.streams.length * (2 + 3 + streamStates.length + 1) else 0)
    + (if cfg.interarrival then ep.interarrival.length * (histNbuckets + 2) else 0)
    + (if cfg.owd ∧ ep.owd.isSome then owdNbuckets + 2 + 2 else 0)

structure Selection where
  running : Nat
  included : Nat
  capped : Nat
deriving DecidableEq

/-- One endpoint with `c` series. The sums are machine words. -/
def Selection.add (max : Nat) (s : Selection) (c : Nat) : Selection :=
  if wrap64 (s.running + c) ≤ max then
    { s with running := wrap64 (s.running + c), included := s.included + 1 }
  else { s with capped := wrap64 (s.capped + c) }

def selectWithinCap (counts : List Nat) (max : Nat) : Nat × Nat :=
  let s := counts.foldl (Selection.add max) ⟨0, 0, 0⟩
  (s.included, s.capped)

/-! ## Lines and labels -/

inductive Kind where
  | counter | gauge | histogram

def Kind.text : Kind → String
  | .counter => "counter"
  | .gauge => "gauge"
  | .histogram => "histogram"

def decimal (n : Nat) : Text := Nat.toDigits 10 n

def flag (b : Bool) : Text := decimal b.toNat

def writeln (t : Text) : Text := t ++ ['\n']

structure Name where
  text : String
  begins : BeginsSample text.toList := by exact beginsSample_literal rfl (by decide)

structure Metric where
  name : Name
  kind : Kind
  text : String
  text_line : OneLine text.toList := by exact oneLine_literal rfl (by decide)

def help (m : Metric) : Text :=
  writeln ("# HELP ".toList ++ m.name.text.toList ++ " ".toList ++ m.text.toList) ++
    writeln ("# TYPE ".toList ++ m.name.text.toList ++ " ".toList ++ m.kind.text.toList)

def sample (name : Name) (labels value : Text) : Text :=
  writeln (name.text.toList ++ labels ++ " ".toList ++ value)

def ifSome {α : Type} : Option α → (α → Text) → Text
  | some x, f => f x
  | none, _ => []

def single (m : Metric) (v : Text) : Text := help m ++ sample m.name [] v

def escapeChar (c : Char) : Text :=
  if c = '\\' then "\\\\".toList
  else if c = '"' then "\\\"".toList
  else if c = '\n' then "\\n".toList
  else [c]

def escapeLabelValue (s : String) : Text := s.toList.flatMap escapeChar

def epLabelsOpen (ep : Endpoint) : Text :=
  "\x7bendpoint=\"".toList ++ escapeLabelValue ep.name ++ "\"".toList ++
    (",device=\"".toList ++ escapeLabelValue (ep.rdmaDevice.getD "") ++ "\"".toList)

def epLabels (ep : Endpoint) : Text := epLabelsOpen ep ++ "\x7d".toList

def qpLabelsOpen (ep : Endpoint) (qp : Qp) : Text :=
  epLabelsOpen ep ++ (",qp=\"".toList ++ decimal qp.index.toNat ++ "\"".toList)

def qpLabels (ep : Endpoint) (qp : Qp) : Text := qpLabelsOpen ep qp ++ "\x7d".toList

def streamLabels (ep : Endpoint) (st : Stream) : Text :=
  "\x7bendpoint=\"".toList ++ escapeLabelValue ep.name ++
    ("\",stream=\"".toList ++ decimal st.id.toNat ++ "\"\x7d".toList)

def optLabel (name : String) : Option String → Text
  | some v => ",".toList ++ name.toList ++ "=\"".toList ++ escapeLabelValue v ++ "\"".toList
  | none => []

def infoLabels (ep : Endpoint) : Text :=
  "\x7bendpoint=\"".toList ++ escapeLabelValue ep.name ++ "\"".toList ++
    optLabel "device" ep.rdmaDevice ++ optLabel "listen_path" ep.listenPath ++
    optLabel "connect_path" ep.connectPath ++ optLabel "peer" ep.peerAddr ++
    optLabel "bind" ep.bindAddr ++
    (",buffer_size=\"".toList ++ decimal ep.bufferSize.toNat ++ "\"".toList) ++
    (",buffer_count=\"".toList ++ decimal ep.bufferCount.toNat ++ "\"\x7d".toList)

def emitStateset (name : Name) (states : List String) (actual : String) (openLabels : Text) :
    Text :=
  states.flatMap (fun st =>
    sample name (openLabels ++ (",state=\"".toList ++ st.toList ++ "\"\x7d".toList))
      (flag (st = actual))) ++
  sample name (openLabels ++ ",state=\"unknown\"\x7d".toList) (flag !(states.any (· = actual)))

/-! ## The exporter itself -/

def buildInfo : Metric := .mk (.mk "urp_exporter_build_info") .gauge "Exporter build metadata."

def upMetric : Metric :=
  .mk (.mk "urp_up") .gauge "1 if the urp module is loaded and netlink is reachable."

def scrapeDuration : Metric :=
  .mk (.mk "urp_exporter_scrape_duration_seconds") .gauge "Wall time of the last scrape."

def endpointsSeen : Metric :=
  .mk (.mk "urp_exporter_endpoints") .gauge "Endpoints observed in the last scrape."

def netlinkRequests : Metric :=
  .mk (.mk "urp_exporter_netlink_requests_total") .counter "Netlink round-trips (dump + N GETs)."

def scrapeErrors : Metric :=
  .mk (.mk "urp_exporter_scrape_errors_total") .counter "Scrapes that failed."

def cacheHits : Metric :=
  .mk (.mk "urp_exporter_cache_hits_total") .counter "Requests served from the min-interval cache."

def seriesCapped : Metric :=
  .mk (.mk "urp_exporter_series_capped_total") .counter "Sample lines dropped by --max-series."

def renderSelf (build : Build) (fl : Floats) (s : SelfStats fl) (cappedNow : Nat) : Text :=
  help buildInfo ++
  sample buildInfo.name ("\x7bversion=\"".toList ++ build.ver.toList ++ "\",git=\"".toList ++
      (build.git.getD "unknown").toList ++ "\"\x7d".toList) "1".toList ++
  single upMetric (flag s.up) ++
  single scrapeDuration (fl.display s.scrapeDurationSeconds) ++
  single endpointsSeen (fl.display (fl.ofNat s.endpoints)) ++
  single netlinkRequests (decimal s.netlinkRequests) ++
  single scrapeErrors (decimal s.scrapeErrors) ++
  single cacheHits (decimal s.cacheHits) ++
  single seriesCapped (decimal (wrap64 (s.seriesCapped + cappedNow)))

/-! ## Families -/

structure Family (α : Type) extends Metric where
  get : α → Nat

def endpointCounters : List (Family Stats) := [
  ⟨.mk (.mk "urp_endpoint_tx_bytes_total") .counter "Bytes transmitted.", fun s => s.txBytes.toNat⟩,
  ⟨.mk (.mk "urp_endpoint_rx_bytes_total") .counter "Bytes received.", fun s => s.rxBytes.toNat⟩,
  ⟨.mk (.mk "urp_endpoint_tx_frames_total") .counter "Frames transmitted.",
    fun s => s.txFrames.toNat⟩,
  ⟨.mk (.mk "urp_endpoint_rx_frames_total") .counter "Frames received.", fun s => s.rxFrames.toNat⟩,
  ⟨.mk (.mk "urp_endpoint_credit_stalls_total") .counter "Times TX blocked on flow-control credit.",
    fun s => s.creditStalls.toNat⟩,
  ⟨.mk (.mk "urp_endpoint_reorder_insertions_total") .counter
      "Frames inserted into the reorder queue.",
    fun s => s.reorderInsertions.toNat⟩,
  ⟨.mk (.mk "urp_endpoint_reorder_drops_total") .counter
      "Frames dropped by the reorder queue (loss).",
    fun s => s.reorderDrops.toNat⟩,
  ⟨.mk (.mk "urp_endpoint_buffer_alloc_fails_total") .counter "Receive-buffer allocation failures.",
    fun s => s.bufferAllocFails.toNat⟩,
  ⟨.mk (.mk "urp_endpoint_auth_failures_total") .counter "PSK/authentication failures.",
    fun s => s.authFailures.toNat⟩]

def qpCounters : List (Family Qp) := [
  ⟨.mk (.mk "urp_qp_tx_bytes_total") .counter "Bytes transmitted on the QP.",
    fun q => q.txBytes.toNat⟩,
  ⟨.mk (.mk "urp_qp_rx_bytes_total") .counter "Bytes received on the QP.",
    fun q => q.rxBytes.toNat⟩,
  ⟨.mk (.mk "urp_qp_tx_frames_total") .counter "Frames transmitted on the QP.",
    fun q => q.txFrames.toNat⟩,
  ⟨.mk (.mk "urp_qp_rx_frames_total") .counter "Frames received on the QP.",
    fun q => q.rxFrames.toNat⟩]

def streamCounters : List (Family Stream) := [
  ⟨.mk (.mk "urp_stream_tx_bytes_total") .counter "Bytes transmitted on the stream.",
    fun s => s.txBytes.toNat⟩,
  ⟨.mk (.mk "urp_stream_rx_bytes_total") .counter "Bytes received on the stream.",
    fun s => s.rxBytes.toNat⟩]

def streamGauges : List (Family Stream) := [
  ⟨.mk (.mk "urp_stream_reorder_depth") .gauge "Frames currently queued for reorder.",
    fun s => s.reorderDepth.toNat⟩,
  ⟨.mk (.mk "urp_stream_credits_local") .gauge "Local flow-control credits.",
    fun s => s.creditsLocal.toNat⟩,
  ⟨.mk (.mk "urp_stream_credits_remote") .gauge "Remote flow-control credits.",
    fun s => s.creditsRemote.toNat⟩]

def family (m : Metric) (eps : List Endpoint) (f : Endpoint → Text) : Text :=
  help m ++ eps.flatMap f

/-! ## Endpoints, queue pairs and streams -/

def activeStreams : Metric :=
  .mk (.mk "urp_endpoint_active_streams") .gauge "Currently active streams."

def numQps : Metric := .mk (.mk "urp_endpoint_num_qps") .gauge "Configured queue pairs."

def endpointState : Metric :=
  .mk (.mk "urp_endpoint_state") .gauge "Endpoint state (1 for the current state)."

def endpointInfo : Metric :=
  .mk (.mk "urp_endpoint_info") .gauge "Static endpoint configuration (always 1)."

def qpRtt : Metric :=
  .mk (.mk "urp_qp_rtt_ns") .gauge "EWMA round-trip time (ns; 0 until first PONG)."

def qpState : Metric := .mk (.mk "urp_qp_state") .gauge "QP state (1 for the current state)."

section Renderers

variable (eps : List Endpoint)

def renderEndpoints : Text :=
  endpointCounters.flatMap (fun f => family f.toMetric eps fun ep => ifSome ep.stats fun st =>
    sample f.name (epLabels ep) (decimal (f.get st))) ++
  (family activeStreams eps fun ep => ifSome ep.stats fun st =>
    sample activeStreams.name (epLabels ep) (decimal st.activeStreams.toNat)) ++
  (family numQps eps fun ep => sample numQps.name (epLabels ep) (decimal ep.numQps.toNat)) ++
  (family endpointState eps fun ep =>
    emitStateset endpointState.name endpointStates ep.state (epLabelsOpen ep)) ++
  (family endpointInfo eps fun ep => sample endpointInfo.name (infoLabels ep) "1".toList)

def renderQps (cfg : Config) : Text :=
  if !cfg.perQp then []
  else
    qpCounters.flatMap (fun f => family f.toMetric eps fun ep => ep.qps.flatMap fun qp =>
      sample f.name (qpLabels ep qp) (decimal (f.get qp))) ++
    (family qpRtt eps fun ep => ep.qps.flatMap fun qp =>
      sample qpRtt.name (qpLabels ep qp) (decimal qp.rttNs.toNat)) ++
    (family qpState eps fun ep => ep.qps.flatMap fun qp =>
      emitStateset qpState.name qpStates qp.state (qpLabelsOpen ep qp))

def renderStreams : Text :=
  streamCounters.flatMap (fun f => family f.toMetric eps fun ep => ep.streams.flatMap fun st =>
    sample f.name (streamLabels ep st) (decimal (f.get st))) ++
  streamGauges.flatMap (fun f => family f.toMetric eps fun ep => ep.streams.flatMap fun st =>
    sample f.name (streamLabels ep st) (decimal (f.get st)))

/-! ## Histograms -/

/-- A sample for each bucket from `bucket` on, with the sum of the buckets up to it. -/
def bucketLines (name : Name) (labels : Nat → Text) : Nat → UInt64 → List UInt64 → Text
  | _, _, [] => []
  | bucket, running, c :: buckets =>
    sample name (labels bucket) (decimal (running + c).toNat) ++
      bucketLines name labels (bucket + 1) (running + c) buckets

variable (fl : Floats)

def iaLabels (ep : Endpoint) (stride : UInt32) : Text :=
  epLabelsOpen ep ++ (",stride=\"".toList ++ decimal stride.toNat ++ "\"\x7d".toList)

def iaLabelsLe (ep : Endpoint) (stride : UInt32) (bucket : Nat) : Text :=
  epLabelsOpen ep ++ (",stride=\"".toList ++ decimal stride.toNat ++ "\",le=\"".toList) ++
    (if _finite : bucket + 1 < histNbuckets then fl.lowerExp (fl.seconds histEdgesNs[bucket])
      else "+Inf".toList) ++
    "\"\x7d".toList

def interarrivalSeconds : Metric :=
  .mk (.mk "urp_endpoint_interarrival_seconds") .histogram
    "RX inter-arrival time between delivered DATA frames, per sampling stride (1/10/100)."

def renderInterarrival (cfg : Config) : Text :=
  if !cfg.interarrival ∨ eps.all (·.interarrival.isEmpty) then []
  else
    family interarrivalSeconds eps fun ep => ep.interarrival.flatMap fun h =>
      bucketLines (.mk "urp_endpoint_interarrival_seconds_bucket") (iaLabelsLe fl ep h.stride) 0 0
        h.buckets ++
      sample (.mk "urp_endpoint_interarrival_seconds_sum") (iaLabels ep h.stride)
        (fl.display (fl.seconds h.sumNs.toNat)) ++
      sample (.mk "urp_endpoint_interarrival_seconds_count") (iaLabels ep h.stride)
        (decimal h.count.toNat)

def owdLabelsLe (ep : Endpoint) (bucket : Nat) : Text :=
  epLabelsOpen ep ++ ",le=\"".toList ++
    (if _finite : bucket + 1 < owdNbuckets then fl.lowerExp (fl.seconds owdEdgesNs[bucket])
      else "+Inf".toList) ++
    "\"\x7d".toList

def owdHelp : String :=
  "RX one-way delivery latency (sender->receiver) of sampled DATA frames; needs PTP-synced clocks."

def owdSeconds : Metric := .mk (.mk "urp_endpoint_owd_seconds") .histogram owdHelp

def owdClockOffset : Metric :=
  .mk (.mk "urp_endpoint_owd_clock_offset_seconds") .gauge
    "Last PTP servo clock offset between this receiver and its peers; 0 = unknown."

def owdAnomalies : Metric :=
  .mk (.mk "urp_endpoint_owd_anomalies_total") .counter
    "Sampled frames whose computed OWD was negative (clock skew); rejected, not bucketed."

def renderOwd (cfg : Config) : Text :=
  if !cfg.owd ∨ eps.all (·.owd.isNone) then []
  else
    (family owdSeconds eps fun ep => ifSome ep.owd fun o =>
      bucketLines (.mk "urp_endpoint_owd_seconds_bucket") (owdLabelsLe fl ep) 0 0 o.hist.buckets ++
      sample (.mk "urp_endpoint_owd_seconds_sum") (epLabels ep)
        (fl.display (fl.seconds o.hist.sumNs.toNat)) ++
      sample (.mk "urp_endpoint_owd_seconds_count") (epLabels ep) (decimal o.hist.count.toNat)) ++
    (family owdClockOffset eps fun ep => ifSome ep.owd fun o =>
      sample owdClockOffset.name (epLabels ep) (fl.display (fl.seconds o.clockOffsetNs.toNat))) ++
    (family owdAnomalies eps fun ep => ifSome ep.owd fun o =>
      sample owdAnomalies.name (epLabels ep) (decimal o.anomalies.toNat))

/-! ## The document -/

def renderFamilies (cfg : Config) : Text :=
  renderEndpoints eps ++ renderQps eps cfg ++ (if cfg.perStream then renderStreams eps else []) ++
    renderInterarrival eps fl cfg ++ renderOwd eps fl cfg

def rendered (cfg : Config) : List Endpoint :=
  eps.take (selectWithinCap (eps.map (endpointSeriesCount cfg)) cfg.maxSeries.toNat).1

def renderIntoScratch (build : Build) (cfg : Config) (s : SelfStats fl) : Text × Nat :=
  let cappedNow := (selectWithinCap (eps.map (endpointSeriesCount cfg)) cfg.maxSeries.toNat).2
  ((if 0 < cappedNow then
      writeln ("# capped: ".toList ++ decimal cappedNow ++ " series over --max-series=".toList ++
        decimal cfg.maxSeries.toNat ++ " dropped".toList)
    else []) ++
    renderSelf build fl s cappedNow ++ renderFamilies (rendered eps cfg) fl cfg, cappedNow)

end Renderers

end Urp.Exporter
