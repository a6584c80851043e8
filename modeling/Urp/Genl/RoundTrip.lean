import Urp.Genl.Fill

/-!
# From the options of an endpoint to what is shown of it
-/

namespace Urp.Genl

open Urp.Lib Urp.Lib.Nla Urp.Control Format Option Function
open List hiding Vector

variable (misplaced : Nat → Bool)

/-! ## Records -/

def Fill.Qp.shown (q : Fill.Qp) : Format.Qp :=
  ⟨q.index, qpStateText q.state, q.rttEwmaNs, q.txBytes, q.rxBytes, q.txFrames, q.rxFrames⟩

def Fill.Stream.shown (s : Fill.Stream) : Format.Stream :=
  ⟨s.id, streamStateText s.state, s.txBytes, s.rxBytes, UInt32.ofNat s.gapCount, s.sendCredits,
    s.creditsToGrant⟩

def Fill.Stats.shown (s : Fill.Stats) (activeStreams : UInt32) : Format.Stats :=
  ⟨activeStreams, s.txBytes, s.rxBytes, s.txFrames, s.rxFrames, s.creditStalls,
    s.reorderInsertions, s.reorderDrops, s.bufferAllocFails, s.authFailures⟩

def Fill.Hist.shown (h : Fill.Hist) (nbuckets : Nat) (stride : UInt32) : Histogram :=
  ⟨stride, h.bucket.toList.take nbuckets, h.sumNs, h.count⟩

/-- What a writer puts is read as `y`. -/
def Shows {β : Type} (read : List UInt8 → β) (w : Writer) (y : β) : Prop :=
  Writes w fun l => (∀ a ∈ l, a.Fits) → read (encode l) = y

theorem Reads.shows {σ : Type} {set : σ → Attr → σ} {w : Writer} {f : σ → σ} (reads : Reads set w f)
    {x y : σ} (same : f x = y) : Shows (fun buf => (attrIter buf).foldl set x) w y := by
  refine Writes.mono reads fun l held fits => ?_
  simp only [attrIter_encode fits, held, same]

section Records

/-! The fields of each record in their order. -/

theorem shows_qp (q : Fill.Qp) :
    Shows (fun buf => (attrIter buf).foldl Qp.set .empty) (Fill.putQp misplaced q) q.shown := by
  have word {type : Nat} {v : UInt64} (small : type < nestedFlag) :
      Reads Qp.set (putU64 misplaced type v) _ := reads_putU64 (fun _ => rfl) small
  have reads : Reads Qp.set (Fill.putQp misplaced q) _ :=
    .cons (reads_put (by decide)) <| .cons (reads_put (by decide)) <| .cons (word (by decide)) <|
      .cons (word (by decide)) <| .cons (word (by decide)) <| .cons (word (by decide)) <|
      .cons (word (by decide)) reads_nil
  refine reads.shows ?_
  simp [Qp.set, QpAttr.code, Fill.Qp.shown, payloadU8]

theorem shows_stream (s : Fill.Stream) :
    Shows (fun buf => (attrIter buf).foldl Stream.set .empty) (Fill.putStream misplaced s)
      s.shown := by
  have word {type : Nat} {v : UInt64} (small : type < nestedFlag) :
      Reads Stream.set (putU64 misplaced type v) _ := reads_putU64 (fun _ => rfl) small
  have reads : Reads Stream.set (Fill.putStream misplaced s) _ :=
    .cons (reads_put (by decide)) <| .cons (reads_put (by decide)) <| .cons (word (by decide)) <|
      .cons (word (by decide)) <| .cons (reads_put (by decide)) <| .cons (reads_put (by decide)) <|
      .cons (reads_put (by decide)) reads_nil
  refine reads.shows ?_
  simp [Stream.set, StreamAttr.code, Fill.Stream.shown, payloadU8, -UInt32.toNat_ofNat']

theorem shows_stats (activeStreams : UInt32) (s : Fill.Stats) :
    Shows parseStats (Fill.putStats misplaced activeStreams s) (s.shown activeStreams) := by
  have word {type : Nat} {v : UInt64} (small : type < nestedFlag) :
      Reads Stats.set (putU64 misplaced type v) _ := reads_putU64 (fun _ => rfl) small
  have reads : Reads Stats.set (Fill.putStats misplaced activeStreams s) _ :=
    .cons (reads_put (by decide)) <| .cons (word (by decide)) <| .cons (word (by decide)) <|
      .cons (word (by decide)) <| .cons (word (by decide)) <| .cons (word (by decide)) <|
      .cons (word (by decide)) <| .cons (word (by decide)) <| .cons (word (by decide)) <|
      .cons (word (by decide)) reads_nil
  refine reads.shows ?_
  simp [Stats.set, StatsAttr.code, Fill.Stats.shown]

theorem wordsOf_flatMap (vs : List UInt64) :
    wordsOf vs.length (vs.flatMap fun v => putLe 8 v.toNat) = vs := by
  induction vs with
  | nil => rfl
  | cons v vs ih =>
    have rest (i : Nat) : ((v :: vs).flatMap fun v => putLe 8 v.toNat).drop ((i + 1) * 8) =
        (vs.flatMap fun v => putLe 8 v.toNat).drop (i * 8) := by
      rw [Nat.succ_mul, Nat.add_comm, ← drop_drop, flatMap_cons, drop_left' (length_putLe 8 _)]
    have head : ((v :: vs).flatMap fun v => putLe 8 v.toNat).take 8 = putLe 8 v.toNat := by
      rw [flatMap_cons, take_left' (length_putLe 8 _)]
    have value : UInt64.ofNat (getLe (putLe 8 v.toNat)) = v := by
      rw [getLe_putLe_of_lt (by simpa using v.toNat_lt), UInt64.ofNat_toNat]
    rw [wordsOf] at ih
    rw [wordsOf, length_cons, range_succ_eq_map, map_cons, List.map_map]
    simp only [comp_def, Nat.succ_eq_add_one, rest, ih, Nat.zero_mul, drop_zero, head, value]

theorem shows_hist {nbuckets : Nat} (within : nbuckets ≤ histNbuckets) (stride : UInt32)
    (h : Fill.Hist) :
    Shows (fun buf => parseOneHist buf nbuckets) (Fill.putHist misplaced nbuckets stride h)
      (some (h.shown nbuckets stride)) := by
  have word {type : Nat} {v : UInt64} (small : type < nestedFlag) : Reads (Histogram.set nbuckets)
      (putU64 misplaced type v) _ := reads_putU64 (fun _ => rfl) small
  have reads : Reads (Histogram.set nbuckets) (Fill.putHist misplaced nbuckets stride h) _ :=
    .cons (reads_put (by decide)) <| .cons (reads_put (by decide)) <| .cons (word (by decide)) <|
      .cons (word (by decide)) reads_nil
  have length : (h.bucket.toList.take nbuckets).length = nbuckets := by
    rw [length_take, Vector.length_toList, Nat.min_eq_left within]
  have words := wordsOf_flatMap (h.bucket.toList.take nbuckets)
  rw [length] at words
  have found : Shows (fun buf => (attrIter buf).foldl (Histogram.set nbuckets) (.empty, false))
      (Fill.putHist misplaced nbuckets stride h) (h.shown nbuckets stride, true) := by
    refine reads.shows ?_
    simp [Histogram.set, HistAttr.code, Fill.Hist.shown, words, length_flatMap, within]
  refine Writes.mono found fun l held fits => ?_
  simp only [parseOneHist, held fits, if_true]

end Records

theorem writes_putEach {α β : Type} {putOne : α → Writer} {read : List UInt8 → β} {y : α → β}
    (shows_one : ∀ x, Shows read (putOne x) (y x)) (xs : List α) :
    Writes (Fill.putEach putOne xs) fun l => l.map (fun a => read a.payload) = xs.map y := by
  have entries : Writes (Fill.putEach putOne xs)
      fun l => List.Forall₂ (fun x a => read a.payload = y x.1) xs.zipIdx l := by
    refine writes_each xs.zipIdx fun x _ => ((shows_one x.1).nest (x.2 + 1)).mono ?_
    rintro l ⟨inner, rfl, fits, held⟩
    exact ⟨_, rfl, held fits⟩
  refine entries.mono fun l held => ?_
  have values : l.map (fun a => read a.payload) = xs.zipIdx.map fun x => y x.1 := by
    generalize xs.zipIdx = entries at held
    induction held with
    | nil => rfl
    | cons same _ ih => rw [map_cons, map_cons, same, ih]
  rw [values, ← comp_def, ← List.map_map, zipIdx_map_fst]

theorem shows_putEach {α β : Type} {putOne : α → Writer} {read : List UInt8 → β} {y : α → β}
    (shows_one : ∀ x, Shows read (putOne x) (y x)) (xs : List α) :
    Shows (fun buf => (attrIter buf).map fun a => read a.payload) (Fill.putEach putOne xs)
      (xs.map y) := by
  refine (writes_putEach shows_one xs).mono fun l held fits => ?_
  simp only [attrIter_encode fits, List.map_map]
  exact held

theorem shows_histograms (hist : Nat → Fill.Hist) (n : Nat) : Shows parseHistograms
      (Fill.putEach (fun s => Fill.putHist misplaced histNbuckets (Fill.iaStride s) (hist s))
        (List.range n))
      ((List.range n).map fun s => (hist s).shown histNbuckets (Fill.iaStride s)) := by
  have one (s : Nat) := shows_hist misplaced le_rfl (Fill.iaStride s) (hist s)
  have each := shows_putEach one (List.range n)
  refine each.mono fun l held fits => ?_
  have found := congrArg (List.filterMap id) (held fits)
  rw [filterMap_map, filterMap_map] at found
  exact found.trans (congrFun filterMap_eq_map _)

theorem Shows.nest {σ β : Type} {set : σ → Attr → σ} {f : σ → σ} {read : List UInt8 → β} {y : β}
    {w : Writer} {type : Nat} (shown : Shows read w y) (small : type < nestedFlag)
    (sets : ∀ x p, read p = y → set x ⟨type, p⟩ = f x) : Reads set (nest type w) f :=
  reads_nest small shown fun _ fits held x => sets x _ (held fits)

def Fill.Live.shownOwd (l : Fill.Live) (sys : Fill.Sysctl) : Owd :=
  ⟨l.owd.shown owdNbuckets 0, sys.owdClockOffsetNs.toUInt64, l.anomalies⟩

theorem shows_owd (sys : Fill.Sysctl) (l : Fill.Live) :
    Shows parseOwd (Fill.putOwd misplaced sys l) (some (l.shownOwd sys)) := by
  have word {type : Nat} {v : UInt64} (small : type < nestedFlag) :
      Reads Owd.set (putU64 misplaced type v) _ := reads_putU64 (fun _ => rfl) small
  have hist : Reads Owd.set (nest OwdAttr.hist.code (Fill.putHist misplaced owdNbuckets 0 l.owd))
      fun o => ({ o.1 with hist := l.owd.shown owdNbuckets 0 }, true) := by
    refine (shows_hist misplaced (by decide) 0 l.owd).nest (by decide) fun o p read => ?_
    simp only [Owd.set, if_true, read]
  have clockOffset (o : Owd × Bool) (v : UInt64) : Owd.set o ⟨OwdAttr.clockOffsetNs.code,
      putLe 8 v.toNat⟩ = ({ o.1 with clockOffsetNs := v }, o.2) := by
    simp [Owd.set, OwdAttr.code]
  have anomalies (o : Owd × Bool) (v : UInt64) :
      Owd.set o ⟨OwdAttr.anomalies.code, putLe 8 v.toNat⟩ = ({ o.1 with anomalies := v }, o.2) := by
    simp [Owd.set, OwdAttr.code]
  have reads : Reads Owd.set (Fill.putOwd misplaced sys l) _ :=
    hist.cons <| .cons (word (by decide)) <| .cons (word (by decide)) reads_nil
  have found : Shows (fun buf => (attrIter buf).foldl Owd.set (.empty, false))
      (Fill.putOwd misplaced sys l) (l.shownOwd sys, true) := by
    refine reads.shows ?_
    simp only [comp_apply, id, clockOffset, anomalies]
    rfl
  refine found.mono fun l held fits => ?_
  simp only [parseOwd, held fits, if_true]

/-! ## The endpoint -/

section Endpoint

variable (display : SocketAddr → String) (sys : Fill.Sysctl) (r : Record) (l : Fill.Live)

def withSummary (ep : Format.Endpoint) : Format.Endpoint :=
  { ep with
    name := (payloadStr (cstr r.name ++ [0])).getD ""
    listenPath := if isSet r.listenPath then payloadStr (cstr r.listenPath ++ [0])
      else ep.listenPath
    connectPath := if isSet r.connectPath then payloadStr (cstr r.connectPath ++ [0])
      else ep.connectPath
    rdmaDevice := if isSet r.rdmaDevice then payloadStr (cstr r.rdmaDevice ++ [0])
      else ep.rdmaDevice
    peerAddr := if r.hasPeerAddr then (decodeSockaddrIn6 r.peerAddr).map display else ep.peerAddr
    bindAddr := if r.hasBindAddr then (decodeSockaddrIn6 r.bindAddr).map display else ep.bindAddr
    numQps := r.numQps
    bufferCount := r.bufferCount
    bufferSize := r.bufferSize
    state := endpointStateText l.state }

def withDetails (numQps : UInt32) (ep : Format.Endpoint) : Format.Endpoint :=
  { ep with
    qps := (l.reportedQps numQps.toNat).map Fill.Qp.shown
    streams := l.reportedStreams.map Fill.Stream.shown
    stats := some (l.stats.shown (UInt32.ofNat l.reportedStreams.length))
    interarrival :=
      if sys.interarrivalHist ≠ 0 then
        (List.range Fill.iaNstrides).map fun s =>
          (l.interarrival s).shown histNbuckets (Fill.iaStride s)
      else ep.interarrival
    owd := if sys.latencySamplePeriod ≠ 0 then some (l.shownOwd sys) else ep.owd }

theorem reads_summary :
    Reads (Endpoint.set display) (seq (Fill.putSummary r l)) (withSummary display r l) := by
  let text (field : List UInt8) : Option String := payloadStr (cstr field ++ [0])
  let addr (field : List UInt8) : Option String := (decodeSockaddrIn6 field).map display
  have reads : Reads (Endpoint.set display) (seq (Fill.putSummary r l)) _ :=
    .cons (reads_put (by decide)) <|
    .cons (reads_optional (by decide)
      (fun c ep => { ep with listenPath := if c then text r.listenPath else ep.listenPath })
      (fun _ => rfl) fun _ => rfl) <|
    .cons (reads_optional (by decide)
      (fun c ep => { ep with connectPath := if c then text r.connectPath else ep.connectPath })
      (fun _ => rfl) fun _ => rfl) <|
    .cons (reads_optional (by decide)
      (fun c ep => { ep with rdmaDevice := if c then text r.rdmaDevice else ep.rdmaDevice })
      (fun _ => rfl) fun _ => rfl) <|
    .cons (reads_optional (by decide)
      (fun c ep => { ep with peerAddr := if c then addr r.peerAddr else ep.peerAddr })
      (fun _ => rfl) fun _ => rfl) <|
    .cons (reads_optional (by decide)
      (fun c ep => { ep with bindAddr := if c then addr r.bindAddr else ep.bindAddr })
      (fun _ => rfl) fun _ => rfl) <|
    .cons (reads_put (by decide)) <| .cons (reads_put (by decide)) <|
    .cons (reads_put (by decide)) <| .cons (reads_put (by decide)) reads_nil
  refine reads.congr fun ep => ?_
  simp [Endpoint.set, EndpointAttr.code, withSummary, text, addr, payloadU8]

theorem reads_details : Reads (Endpoint.set display) (seq (Fill.putDetails misplaced sys r l))
      (withDetails sys l r.numQps) := by
  have part {β : Type} {read : List UInt8 → β} {y : β} {w : Writer} {type : Nat}
      (shown : Shows read w y) (small : type < nestedFlag)
      (u : β → Format.Endpoint → Format.Endpoint) (sets : ∀ ep p, Endpoint.set display ep ⟨type,
      p⟩ = u (read p) ep) : Reads (Endpoint.set display) (nest type w) (u y) := shown.nest small
      fun ep p read => by rw [sets, read]
  have qps : Shows parseQps _ _ := shows_putEach (shows_qp misplaced) (l.reportedQps r.numQps.toNat)
  have streams : Shows parseStreams _ _ := shows_putEach (shows_stream misplaced) l.reportedStreams
  have reads : Reads (Endpoint.set display) (seq (Fill.putDetails misplaced sys r l)) _ :=
    .cons (part qps (by decide) (fun v ep => { ep with qps := v }) fun _ _ => rfl) <|
    .cons (part streams (by decide) (fun v ep => { ep with streams := v }) fun _ _ => rfl) <|
    .cons (part (shows_stats misplaced _ _) (by decide)
      (fun v ep => { ep with stats := some v }) fun _ _ => rfl) <|
    .cons (reads_whenever (part (shows_histograms misplaced _ _) (by decide)
      (fun v ep => { ep with interarrival := v }) fun _ _ => rfl)) <|
    .cons (reads_whenever (part (shows_owd misplaced sys l) (by decide)
      (fun v ep => { ep with owd := v }) fun _ _ => rfl)) reads_nil
  refine reads.congr fun ep => ?_
  by_cases interarrival : sys.interarrivalHist = 0 <;>
    by_cases owd : sys.latencySamplePeriod = 0 <;> simp [withDetails, interarrival, owd]

theorem reads_fill (verbose : Bool) : Reads (Endpoint.set display)
      (seq (Fill.putSummary r l ++ if verbose then Fill.putDetails misplaced sys r l else []))
      fun ep =>
        if verbose then withDetails sys l r.numQps (withSummary display r l ep)
        else withSummary display r l ep := by
  rw [seq_append]
  cases verbose with
  | true => exact (reads_summary display r l).cons ((reads_details _ _ _ _ _).cons reads_nil)
  | false => exact (reads_summary display r l).cons (.cons reads_nil reads_nil)

end Endpoint

/-! ## The options -/

def AddArgs.shown (args : AddArgs) (display : SocketAddr → String) (state : UInt8) :
    Format.Endpoint :=
  { Endpoint.empty with
    name := args.name
    listenPath := args.listenPath.filter (· ≠ "")
    connectPath := args.connectPath.filter (· ≠ "")
    rdmaDevice := args.rdmaDevice.filter (· ≠ "")
    peerAddr := args.peer.map display
    bindAddr := args.bind.map display
    numQps := args.numQps.getD 1
    bufferCount := args.bufferCount.getD 1024
    bufferSize := args.bufferSize.getD 4096
    state := endpointStateText state }

variable {field : List UInt8}

theorem payloadStr_cstr {s : String} (held : cstr field = utf8 s) :
    payloadStr (cstr field ++ [0]) = some s := by
  have plain : 0 ∉ cstr field := by
    intro member
    have before := all_eq_true.mp all_takeWhile 0 member
    simp at before
  rw [held] at plain ⊢
  exact payloadStr_utf8 plain

theorem shown_text {o : Option String} (held : cstr field = utf8 (o.getD "")) :
    (if isSet field then payloadStr (cstr field ++ [0]) else none) = o.filter (· ≠ "") := by
  rw [isSet_eq, payloadStr_cstr held, held]
  cases o with
  | none => rfl
  | some s =>
    by_cases empty : s = ""
    · rw [empty]
      rfl
    · have nonempty : utf8 s ≠ [] := fun nil => empty (utf8_eq_nil.mp nil)
      simp [empty, nonempty, Option.filter]

theorem shown_addr {has : Bool} {o : Option SocketAddr}
    {display : SocketAddr → String} (set : has = o.isSome)
    (held : ∀ a ∈ o, field = encodeSockaddrIn6 a) (v4 : ∀ a ∈ o, a.isV4 = true) :
    (if has then (decodeSockaddrIn6 field).map display else none) = o.map display := by
  rw [set]
  cases o with
  | none => rfl
  | some a => simp [held a rfl, decodeSockaddrIn6_encode (v4 a rfl)]

theorem withSummary_made {args : AddArgs} {r : Record} (display : SocketAddr → String)
    (l : Fill.Live) (admissible : args.Admissible) (made : Made args r) :
    withSummary display r l .empty = args.shown display l.state := by
  simp only [withSummary, AddArgs.shown, Endpoint.empty, payloadStr_cstr made.name,
    getD_some, shown_text made.listenPath, shown_text made.connectPath,
    shown_text made.rdmaDevice, shown_addr made.hasPeerAddr made.peerAddr admissible.peer,
    shown_addr made.hasBindAddr made.bindAddr admissible.bind, made.numQps, made.bufferCount,
    made.bufferSize]

def AddArgs.reported (args : AddArgs) (display : SocketAddr → String) (sys : Fill.Sysctl)
    (l : Fill.Live) (verbose : Bool) : Format.Endpoint :=
  if verbose then withDetails sys l (args.numQps.getD 1) (args.shown display l.state)
  else args.shown display l.state

section Shown

variable {misplaced} {args : AddArgs} {r : Record} (display : SocketAddr → String)
  (sys : Fill.Sysctl) (l : Fill.Live) (verbose : Bool)

theorem parseTop_made (admissible : args.Admissible) (made : Made args r) {s s' : Skb}
    (filled : Fill.fillEndpoint misplaced sys r l verbose s = some s') :
    Endpoint.parseTop display (s'.data.drop s.data.length) =
      some (args.reported display sys l verbose) := by
  obtain ⟨attrs, data, fits, inner, rfl, inner_fits, read⟩ :=
    (reads_fill misplaced display sys r l verbose).nest attrEndpoint s s' filled
  have found : attrIter (s'.data.drop s.data.length) = [⟨attrEndpoint, encode inner⟩] := by
    rw [data, drop_left, attrIter_encode fits, map_singleton, unflag_nest (by decide)]
  have contents : (attrIter (encode inner)).foldl (Endpoint.set display) .empty =
      args.reported display sys l verbose := by
    rw [attrIter_encode inner_fits, read]
    simp only [withSummary_made display l admissible made, made.numQps, AddArgs.reported]
  have named : (args.reported display sys l verbose).name = args.name := by
    cases verbose <;> rfl
  have parsed : Endpoint.parseNested display (encode inner) =
      some (args.reported display sys l verbose) := by
    simp only [Endpoint.parseNested, contents, named, made.named, if_false]
  simpa [Endpoint.parseTop, found] using parsed

/-- An endpoint is shown with the options that it was made from. A verbose reply also shows its
queue pairs, streams, counters and histograms as they are. -/
theorem shown_as_added {sha256 : List UInt8 → Vector UInt8 pskHashLen} {fastEnabled : Bool}
    {advertise : Nat} {environment : Except Errno Unit} (admissible : args.Admissible)
    (made : newEndpoint sha256 fastEnabled advertise environment (buildPayload args) = .ok r)
    {s s' : Skb} (filled : Fill.fillEndpoint misplaced sys r l verbose s = some s') :
    Endpoint.parseTop display (s'.data.drop s.data.length) =
      some (args.reported display sys l verbose) :=
  parseTop_made display sys l verbose admissible (made_of_accepted admissible made) filled

end Shown

section Client

/-! An endpoint with a queue pair and a stream, and the device that it is to use. -/

def loopback : SocketAddr := .v4 #v[127, 0, 0, 1] 4791

def client (device : String) : AddArgs where
  name := "a"
  listenPath := some "/a"
  connectPath := none
  peer := some loopback
  bind := none
  numQps := some 1
  bufferCount := none
  bufferSize := none
  password := none
  rdmaDevice := some device
  mode := .multistream
  kind := .uds

def clientLive : Fill.Live where
  state := 1
  qps := some fun i => ⟨UInt32.ofNat i, true, 1, 7, 10, 20, 1, 2⟩
  streams := some [⟨5, 2, 10, 20, 3, 4, 1, by decide⟩]
  connActive := false
  stats := ⟨10, 20, 1, 2, 0, 0, 0, 0, 0⟩
  interarrival := fun _ => ⟨Vector.replicate _ 1, 30, 15⟩
  owd := ⟨Vector.replicate _ 2, 60, 30⟩
  anomalies := 3

def clientMade (device : String) : Except NewError Record :=
  newEndpoint (fun _ => Vector.replicate _ 0) false 0 (.ok ()) (buildPayload (client device))

def reply : Skb := ⟨[], 4096, Nat.zero_le _, by decide⟩

def clientReply (device : String) (verbose : Bool) : Option Skb :=
  (clientMade device).toOption.bind fun r =>
    Fill.fillEndpoint (fun n => n % 8 = 4) ⟨0, 0, 0⟩ r clientLive verbose reply

theorem held_name : Held nameMax "a" := ⟨by decide, by decide⟩

theorem client_admissible (device : String) (held : Held deviceMax device) :
    (client device).Admissible where
  name := held_name
  listenPath := by
    rintro s ⟨⟩
    exact ⟨by decide, by decide⟩
  connectPath := by rintro s ⟨⟩
  rdmaDevice := by
    rintro s ⟨⟩
    exact held
  password := by rintro s ⟨⟩
  peer := by
    rintro a ⟨⟩
    rfl
  bind := by rintro a ⟨⟩

theorem clientReply_some (device : String) (verbose : Bool)
    (replied : (clientReply device verbose).isSome = true) :
    ∃ r s', clientMade device = .ok r ∧
      Fill.fillEndpoint (fun n => n % 8 = 4) ⟨0, 0, 0⟩ r clientLive verbose reply = some s' := by
  obtain ⟨s', filled⟩ := isSome_iff_exists.mp replied
  obtain ⟨r, made, filled⟩ := bind_eq_some_iff.mp filled
  refine ⟨r, s', ?_, filled⟩
  cases outcome : clientMade device with
  | error e => rw [outcome] at made; cases made
  | ok r' =>
    rw [outcome] at made
    cases made
    rfl

theorem shown_client : ∃ r s', clientMade "rxe0" = .ok r ∧
    Fill.fillEndpoint (fun n => n % 8 = 4) ⟨0, 0, 0⟩ r clientLive true reply = some s' ∧
    Endpoint.parseTop (fun _ => "127.0.0.1:4791") (s'.data.drop reply.data.length) =
      some ((client "rxe0").reported (fun _ => "127.0.0.1:4791") ⟨0, 0, 0⟩ clientLive true) := by
  obtain ⟨r, s', made, filled⟩ := clientReply_some "rxe0" true (by decide +kernel)
  have admissible := client_admissible "rxe0" ⟨by decide, by decide⟩
  exact ⟨r, s', made, filled, shown_as_added _ _ _ _ admissible made filled⟩

theorem empty_device_not_shown : ∃ r s' ep, (client "").rdmaDevice = some "" ∧
    clientMade "" = .ok r ∧
    Fill.fillEndpoint (fun n => n % 8 = 4) ⟨0, 0, 0⟩ r clientLive false reply = some s' ∧
    Endpoint.parseTop (fun _ => "127.0.0.1:4791") (s'.data.drop reply.data.length) = some ep ∧
    ep.rdmaDevice = none := by
  obtain ⟨r, s', made, filled⟩ := clientReply_some "" false (by decide +kernel)
  have admissible := client_admissible "" ⟨by decide, by decide⟩
  have parsed := parseTop_made (fun _ => "127.0.0.1:4791") _ _ _ admissible
    (made_of_accepted admissible made) filled
  exact ⟨r, s', _, rfl, made, filled, parsed, rfl⟩

end Client

end Urp.Genl
