import Mathlib.Algebra.BigOperators.Ring.List
import Mathlib.Algebra.Ring.Nat
import Urp.Exporter.Render

/-!
# The number of sample lines
-/

namespace Urp.Exporter

open Urp.Lib Urp.Lib.Exposition List
open Urp.Genl (histNbuckets owdNbuckets attrIter)
open Urp.Genl.Format

/-! ## Pieces on one line -/

theorem oneLine_decimal (n : Nat) : OneLine (decimal n) := by
  intro member
  have digit := Nat.isDigit_of_mem_toDigits (by decide) (by decide) member
  exact absurd digit (by decide)

theorem oneLine_escapeLabelValue (s : String) : OneLine (escapeLabelValue s) := by
  intro member
  obtain ⟨c, -, member⟩ := mem_flatMap.mp member
  unfold escapeChar at member
  split_ifs at member with backslash quote newline
  · exact absurd member (by decide)
  · exact absurd member (by decide)
  · exact absurd member (by decide)
  · exact newline (mem_singleton.mp member).symm

section

variable (ep : Endpoint)

theorem oneLine_epLabelsOpen : OneLine (epLabelsOpen ep) :=
  have device : OneLine (",device=\"".toList ++ escapeLabelValue (ep.rdmaDevice.getD "") ++
      "\"".toList) :=
    .append (.append (by decide) (oneLine_escapeLabelValue _)) (by decide)
  .append (.append (.append (by decide) (oneLine_escapeLabelValue _)) (by decide)) device

theorem oneLine_epLabels : OneLine (epLabels ep) :=
  (oneLine_epLabelsOpen ep).append (by decide)

theorem oneLine_qpLabelsOpen (qp : Qp) : OneLine (qpLabelsOpen ep qp) :=
  (oneLine_epLabelsOpen ep).append (.append (.append (by decide) (oneLine_decimal _)) (by decide))

theorem oneLine_qpLabels (qp : Qp) : OneLine (qpLabels ep qp) :=
  (oneLine_qpLabelsOpen ep qp).append (by decide)

theorem oneLine_streamLabels (st : Stream) : OneLine (streamLabels ep st) :=
  have stream : OneLine ("\",stream=\"".toList ++ decimal st.id.toNat ++ "\"\x7d".toList) :=
    .append (.append (by decide) (oneLine_decimal _)) (by decide)
  .append (.append (by decide) (oneLine_escapeLabelValue _)) stream

theorem oneLine_optLabel {name : String} (one : OneLine name.toList) (v : Option String) :
    OneLine (optLabel name v) := by
  cases v with
  | none => exact not_mem_nil
  | some v =>
    exact .append (.append (.append (.append (by decide) one) (by decide))
      (oneLine_escapeLabelValue v)) (by decide)

theorem oneLine_iaLabels (stride : UInt32) : OneLine (iaLabels ep stride) :=
  (oneLine_epLabelsOpen ep).append (.append (.append (by decide) (oneLine_decimal _)) (by decide))

theorem oneLine_infoLabels : OneLine (infoLabels ep) := by
  have size : OneLine (",buffer_size=\"".toList ++ decimal ep.bufferSize.toNat ++ "\"".toList) :=
    .append (.append (by decide) (oneLine_decimal _)) (by decide)
  have count : OneLine (",buffer_count=\"".toList ++ decimal ep.bufferCount.toNat ++
      "\"\x7d".toList) :=
    .append (.append (by decide) (oneLine_decimal _)) (by decide)
  have name : OneLine ("\x7bendpoint=\"".toList ++ escapeLabelValue ep.name ++ "\"".toList) :=
    .append (.append (by decide) (oneLine_escapeLabelValue _)) (by decide)
  have device := name.append (oneLine_optLabel (by decide : OneLine "device".toList) ep.rdmaDevice)
  have paths := (device.append
    (oneLine_optLabel (by decide : OneLine "listen_path".toList) ep.listenPath)).append
    (oneLine_optLabel (by decide : OneLine "connect_path".toList) ep.connectPath)
  have addrs := (paths.append
    (oneLine_optLabel (by decide : OneLine "peer".toList) ep.peerAddr)).append
    (oneLine_optLabel (by decide : OneLine "bind".toList) ep.bindAddr)
  exact (addrs.append size).append count

end

section Le

variable (fl : Floats) (ep : Endpoint) (bucket : Nat)

theorem oneLine_iaLabelsLe (stride : UInt32) : OneLine (iaLabelsLe fl ep stride bucket) := by
  have labels : OneLine (",stride=\"".toList ++ decimal stride.toNat ++ "\",le=\"".toList) :=
    .append (.append (by decide) (oneLine_decimal _)) (by decide)
  refine .append (.append ((oneLine_epLabelsOpen ep).append labels) ?_) (by decide)
  split
  · exact fl.lowerExp_line _
  · decide

theorem oneLine_owdLabelsLe : OneLine (owdLabelsLe fl ep bucket) := by
  refine .append (.append ((oneLine_epLabelsOpen ep).append (by decide)) ?_) (by decide)
  split
  · exact fl.lowerExp_line _
  · decide

end Le

/-! ## Samples and families -/

theorem lines_of_sample (name : Name) {labels value : Text} (labels_line : OneLine labels)
    (value_line : OneLine value) : Lines 1 (sample name labels value) := by
  have whole : sample name labels value =
      name.text.toList ++ (labels ++ (" ".toList ++ value)) ++ ['\n'] := by
    simp only [sample, writeln, append_assoc]
  rw [whole]
  exact lines_sample name.begins (labels_line.append (.append (by decide) value_line))

theorem lines_help (m : Metric) : Lines 0 (help m) := by
  have name_line : OneLine m.name.text.toList := m.name.begins.2
  have kind_line : OneLine m.kind.text.toList := by cases m.kind <;> decide
  have first : OneLine (" HELP ".toList ++ m.name.text.toList ++ " ".toList ++ m.text.toList) :=
    .append (.append (.append (by decide) name_line) (by decide)) m.text_line
  have second :
      OneLine (" TYPE ".toList ++ m.name.text.toList ++ " ".toList ++ m.kind.text.toList) :=
    .append (.append (.append (by decide) name_line) (by decide)) kind_line
  exact (lines_comment first).append (lines_comment second)

def Covers (eps : List Endpoint) (count : Endpoint → Nat) (t : Text) : Prop :=
  Lines (eps.map count).sum t

section Covers

variable {eps : List Endpoint} {count count' : Endpoint → Nat} {t t' : Text}

theorem Covers.append (first : Covers eps count t) (second : Covers eps count' t') :
    Covers eps (fun ep => count ep + count' ep) (t ++ t') := by
  unfold Covers
  rw [sum_map_add]
  exact Lines.append first second

theorem Covers.congr (covers : Covers eps count t) (same : ∀ ep ∈ eps, count ep = count' ep) :
    Covers eps count' t := by
  unfold Covers
  rwa [← map_congr_left same]

theorem covers_nil (eps : List Endpoint) : Covers eps (fun _ => 0) [] := by
  have zero : (eps.map fun _ => 0).sum = 0 := by simp
  unfold Covers
  rw [zero]
  exact lines_nil

theorem covers_unless {c : Prop} [Decidable c] (absent : c → ∀ ep ∈ eps, count ep = 0)
    (present : ¬ c → Covers eps count t) : Covers eps count (if c then [] else t) := by
  split
  next out => exact (covers_nil eps).congr fun ep member => (absent out ep member).symm
  next some => exact present some

theorem covers_family (m : Metric) {f : Endpoint → Text} (each : ∀ ep, Lines (count ep) (f ep))
    (eps : List Endpoint) : Covers eps count (family m eps f) := by
  have both := (lines_help m).append (lines_flatMap eps fun ep _ => each ep)
  rwa [Nat.zero_add] at both

theorem covers_families {α : Type} (fs : List (Family α)) {f : Family α → Endpoint → Text}
    (each : ∀ g ep, Lines (count ep) (f g ep)) (eps : List Endpoint) :
    Covers eps (fun ep => fs.length * count ep)
      (fs.flatMap fun g => family g.toMetric eps (f g)) := by
  unfold Covers
  rw [sum_map_mul_left]
  exact lines_each fs fun g _ => covers_family g.toMetric (each g) eps

end Covers

theorem lines_emitStateset (name : Name) {states : List String}
    (states_line : ∀ st ∈ states, OneLine st.toList) (actual : String) {labels : Text}
    (labels_line : OneLine labels) :
    Lines (states.length + 1) (emitStateset name states actual labels) := by
  have unknown : Lines 1 (sample name (labels ++ ",state=\"unknown\"\x7d".toList)
      (flag !(states.any (· = actual)))) :=
    lines_of_sample name (labels_line.append (by decide)) (oneLine_decimal _)
  refine Lines.append ?_ unknown
  rw [← Nat.mul_one states.length]
  refine lines_each states fun st member => lines_of_sample name ?_ (oneLine_decimal _)
  exact labels_line.append (.append (.append (by decide) (states_line st member)) (by decide))

theorem lines_bucketLines (name : Name) {labels : Nat → Text}
    (labels_line : ∀ bucket, OneLine (labels bucket)) (bucket : Nat) (running : UInt64)
    (buckets : List UInt64) :
    Lines buckets.length (bucketLines name labels bucket running buckets) := by
  induction buckets generalizing bucket running with
  | nil => exact lines_nil
  | cons c buckets ih =>
    rw [length_cons, Nat.add_comm, bucketLines]
    exact (lines_of_sample name (labels_line bucket) (oneLine_decimal _)).append (ih _ _)

theorem lines_ifSome {α : Type} {f : α → Text} {count : α → Nat} (each : ∀ x, Lines (count x) (f x))
    (o : Option α) : Lines ((o.map count).getD 0) (ifSome o f) := by
  cases o with
  | none => exact lines_nil
  | some x => exact each x

/-! ## The renderers -/

section Renderers

variable (eps : List Endpoint) (fl : Floats) (cfg : Config)

theorem covers_renderEndpoints :
    Covers eps (fun ep => (if ep.stats.isSome then 9 + 1 else 0) + 1 + (4 + 1) + 1)
      (renderEndpoints eps) := by
  have counters := covers_families endpointCounters (fun f ep => lines_ifSome (fun st =>
    lines_of_sample f.name (oneLine_epLabels ep) (oneLine_decimal (f.get st))) ep.stats) eps
  have active := covers_family activeStreams (fun ep => lines_ifSome (fun st : Stats =>
    lines_of_sample activeStreams.name (oneLine_epLabels ep)
      (oneLine_decimal st.activeStreams.toNat)) ep.stats) eps
  have qps := covers_family numQps (fun ep =>
    lines_of_sample numQps.name (oneLine_epLabels ep) (oneLine_decimal ep.numQps.toNat)) eps
  have state := covers_family endpointState (fun ep =>
    lines_emitStateset endpointState.name (by decide : ∀ st ∈ endpointStates, OneLine st.toList)
      ep.state (oneLine_epLabelsOpen ep)) eps
  have info := covers_family endpointInfo (fun ep =>
    lines_of_sample endpointInfo.name (oneLine_infoLabels ep) (by decide : OneLine "1".toList)) eps
  refine ((((counters.append active).append qps).append state).append info).congr ?_
  intro ep _
  cases ep.stats <;> rfl

theorem covers_renderQps :
    Covers eps (fun ep => if cfg.perQp then ep.qps.length * (4 + 1 + 4 + 1) else 0)
      (renderQps eps cfg) := by
  unfold renderQps
  cases perQp : cfg.perQp with
  | false => exact (covers_nil eps).congr fun _ _ => rfl
  | true =>
    have counters := covers_families qpCounters (fun f ep => lines_each ep.qps fun qp _ =>
      lines_of_sample f.name (oneLine_qpLabels ep qp) (oneLine_decimal (f.get qp))) eps
    have rtt := covers_family qpRtt (fun ep => lines_each ep.qps fun qp _ =>
      lines_of_sample qpRtt.name (oneLine_qpLabels ep qp) (oneLine_decimal qp.rttNs.toNat)) eps
    have state := covers_family qpState (fun ep => lines_each ep.qps fun qp _ =>
      lines_emitStateset qpState.name (by decide : ∀ st ∈ qpStates, OneLine st.toList) qp.state
        (oneLine_qpLabelsOpen ep qp)) eps
    refine ((counters.append rtt).append state).congr fun ep _ => ?_
    simp only [qpCounters, qpStates, length_cons, length_nil, if_true]
    omega

theorem covers_renderStreams :
    Covers eps (fun ep => ep.streams.length * (2 + 3)) (renderStreams eps) := by
  have each : ∀ (f : Family Stream) (ep : Endpoint), Lines (ep.streams.length * 1)
      (ep.streams.flatMap fun st => sample f.name (streamLabels ep st) (decimal (f.get st))) :=
    fun f ep => lines_each ep.streams fun st _ =>
      lines_of_sample f.name (oneLine_streamLabels ep st) (oneLine_decimal (f.get st))
  have counters := covers_families streamCounters each eps
  have gauges := covers_families streamGauges each eps
  refine (counters.append gauges).congr fun ep _ => ?_
  simp only [streamCounters, streamGauges, length_cons, length_nil]
  omega

theorem covers_renderInterarrival : Covers eps (fun ep =>
        if cfg.interarrival then (ep.interarrival.map (·.buckets.length + 2)).sum else 0)
      (renderInterarrival eps fl cfg) := by
  refine covers_unless ?_ fun present => ?_
  · rintro (off | empty) ep member
    · rw [if_neg (by simpa using off)]
    · have none : ep.interarrival = [] := by
        simpa using all_eq_true.mp empty ep member
      simp [none]
  · have on : cfg.interarrival = true := by simpa using (not_or.mp present).1
    simp only [on, if_true]
    refine covers_family interarrivalSeconds (fun ep =>
      lines_flatMap ep.interarrival fun h _ => ?_) eps
    have buckets := lines_bucketLines (.mk "urp_endpoint_interarrival_seconds_bucket")
      (fun bucket => oneLine_iaLabelsLe fl ep bucket h.stride) 0 0 h.buckets
    have sum := lines_of_sample (.mk "urp_endpoint_interarrival_seconds_sum")
      (oneLine_iaLabels ep h.stride) (fl.display_line (fl.seconds h.sumNs.toNat))
    have count := lines_of_sample (.mk "urp_endpoint_interarrival_seconds_count")
      (oneLine_iaLabels ep h.stride) (oneLine_decimal h.count.toNat)
    exact (buckets.append sum).append count

theorem covers_renderOwd : Covers eps (fun ep =>
        if cfg.owd then (ep.owd.map (·.hist.buckets.length + 2 + 2)).getD 0 else 0)
      (renderOwd eps fl cfg) := by
  refine covers_unless ?_ fun present => ?_
  · rintro (off | empty) ep member
    · rw [if_neg (by simpa using off)]
    · have none : ep.owd = none := by
        simpa using all_eq_true.mp empty ep member
      simp [none]
  · have on : cfg.owd = true := by simpa using (not_or.mp present).1
    have hist := covers_family owdSeconds (fun ep => lines_ifSome (fun o : Owd =>
      ((lines_bucketLines (.mk "urp_endpoint_owd_seconds_bucket")
        (fun bucket => oneLine_owdLabelsLe fl ep bucket) 0 0 o.hist.buckets).append
      (lines_of_sample (.mk "urp_endpoint_owd_seconds_sum") (oneLine_epLabels ep)
        (fl.display_line (fl.seconds o.hist.sumNs.toNat)))).append
      (lines_of_sample (.mk "urp_endpoint_owd_seconds_count") (oneLine_epLabels ep)
        (oneLine_decimal o.hist.count.toNat))) ep.owd) eps
    have offset := covers_family owdClockOffset (fun ep => lines_ifSome (fun o : Owd =>
      lines_of_sample owdClockOffset.name (oneLine_epLabels ep)
        (fl.display_line (fl.seconds o.clockOffsetNs.toNat))) ep.owd) eps
    have anomalies := covers_family owdAnomalies (fun ep => lines_ifSome (fun o : Owd =>
      lines_of_sample owdAnomalies.name (oneLine_epLabels ep)
        (oneLine_decimal o.anomalies.toNat)) ep.owd) eps
    refine ((hist.append offset).append anomalies).congr fun ep _ => ?_
    rw [if_pos on]
    cases ep.owd <;> rfl

def endpointLines (ep : Endpoint) : Nat :=
  (if ep.stats.isSome then 9 + 1 else 0) + 1 + (4 + 1) + 1 +
    (if cfg.perQp then ep.qps.length * (4 + 1 + 4 + 1) else 0) +
    (if cfg.perStream then ep.streams.length * (2 + 3) else 0) +
    (if cfg.interarrival then (ep.interarrival.map (·.buckets.length + 2)).sum else 0) +
    (if cfg.owd then (ep.owd.map (·.hist.buckets.length + 2 + 2)).getD 0 else 0)

theorem covers_renderFamilies : Covers eps (endpointLines cfg) (renderFamilies eps fl cfg) := by
  have streams : Covers eps (fun ep => if cfg.perStream then ep.streams.length * (2 + 3) else 0)
      (if cfg.perStream then renderStreams eps else []) := by
    cases cfg.perStream with
    | false => exact covers_nil eps
    | true => exact covers_renderStreams eps
  exact ((((covers_renderEndpoints eps).append (covers_renderQps eps cfg)).append streams).append
    (covers_renderInterarrival eps fl cfg)).append (covers_renderOwd eps fl cfg)

end Renderers

/-! ## Decoded endpoints -/

structure Binned (ep : Endpoint) : Prop where
  interarrival : ∀ h ∈ ep.interarrival, h.buckets.length = histNbuckets
  owd : ∀ o, ep.owd = some o → o.hist.buckets.length = owdNbuckets

theorem buckets_set {nbuckets : Nat} {h : Histogram × Bool} (a : Lib.Nla.Attr)
    (held : h.2 = true → h.1.buckets.length = nbuckets) :
    (Histogram.set nbuckets h a).2 = true →
      (Histogram.set nbuckets h a).1.buckets.length = nbuckets := by
  unfold Histogram.set
  split_ifs
  · exact held
  · exact fun _ => by simp [wordsOf]
  · exact held
  · exact held
  · exact held
  · exact held

variable {buf : List UInt8}

theorem parseOneHist_buckets {nbuckets : Nat} {h : Histogram}
    (parsed : parseOneHist buf nbuckets = some h) : h.buckets.length = nbuckets := by
  have held := List.foldlRecOn (attrIter buf) (Histogram.set nbuckets)
    (motive := fun h => h.2 = true → h.1.buckets.length = nbuckets) (b := (.empty, false))
    (fun impossible => by cases impossible) fun _ held a _ => buckets_set a held
  unfold parseOneHist at parsed
  generalize (attrIter buf).foldl (Histogram.set nbuckets) (.empty, false) = result at parsed held
  obtain ⟨h', ok⟩ := result
  cases ok with
  | false => cases parsed
  | true =>
    cases parsed
    exact held rfl

theorem hist_buckets_set {o : Owd × Bool} (a : Lib.Nla.Attr)
    (held : o.2 = true → o.1.hist.buckets.length = owdNbuckets) :
    (Owd.set o a).2 = true → (Owd.set o a).1.hist.buckets.length = owdNbuckets := by
  unfold Owd.set
  split_ifs
  · split
    next h found => exact fun _ => parseOneHist_buckets found
    next => exact held
  · exact held
  · exact held
  · exact held

theorem parseOwd_buckets {o : Owd} (parsed : parseOwd buf = some o) :
    o.hist.buckets.length = owdNbuckets := by
  have held := List.foldlRecOn (attrIter buf) Owd.set
    (motive := fun o => o.2 = true → o.1.hist.buckets.length = owdNbuckets) (b := (.empty, false))
    (fun impossible => by cases impossible) fun _ held a _ => hist_buckets_set a held
  unfold parseOwd at parsed
  generalize (attrIter buf).foldl Owd.set (.empty, false) = result at parsed held
  obtain ⟨o', ok⟩ := result
  cases ok with
  | false => cases parsed
  | true =>
    cases parsed
    exact held rfl

theorem parseHistograms_buckets {h : Histogram}
    (member : h ∈ parseHistograms buf) : h.buckets.length = histNbuckets := by
  obtain ⟨a, -, parsed⟩ := List.mem_filterMap.mp member
  exact parseOneHist_buckets parsed

variable {ep : Endpoint}

theorem binned_ite {c : Prop} [Decidable c] {ep' : Endpoint} (first : Binned ep)
    (second : Binned ep') : Binned (if c then ep else ep') := by
  split
  · exact first
  · exact second

theorem Binned.set (display : SocketAddr → String) (binned : Binned ep)
    (a : Lib.Nla.Attr) : Binned (ep.set display a) := by
  unfold Endpoint.set
  extract_lets p
  iterate 13 refine binned_ite ⟨binned.interarrival, binned.owd⟩ ?_
  refine binned_ite ⟨fun _ member => parseHistograms_buckets member, binned.owd⟩ ?_
  exact binned_ite ⟨binned.interarrival, fun _ parsed => parseOwd_buckets parsed⟩ binned

/-- What is decoded of a reply has its histograms in full. -/
theorem binned_parseTop {display : SocketAddr → String}
    (parsed : Endpoint.parseTop display buf = some ep) : Binned ep := by
  unfold Endpoint.parseTop at parsed
  split at parsed
  next a _ =>
    have binned := List.foldlRecOn (attrIter a.payload) (Endpoint.set display) (motive := Binned)
      (b := Endpoint.empty) ⟨by simp [Endpoint.empty], by simp [Endpoint.empty]⟩
      fun _ binned a _ => binned.set display a
    unfold Endpoint.parseNested at parsed
    extract_lets ep' at parsed
    split at parsed
    · cases parsed
    · obtain rfl := Option.some.inj parsed
      exact binned
  next => cases parsed

/-! ## The count against the lines -/

section Count

variable {cfg : Config} {ep : Endpoint}

theorem endpointLines_add (binned : Binned ep) :
    endpointLines cfg ep + (if cfg.perStream then ep.streams.length * 7 else 0) =
      endpointSeriesCount cfg ep := by
  have interarrival : (ep.interarrival.map (·.buckets.length + 2)).sum =
      ep.interarrival.length * (histNbuckets + 2) := by
    rw [map_congr_left fun h member => by rw [binned.interarrival h member], map_const',
      sum_replicate_nat]
  have owd : (ep.owd.map (·.hist.buckets.length + 2 + 2)).getD 0 =
      if ep.owd.isSome then owdNbuckets + 2 + 2 else 0 := by
    cases decoded : ep.owd with
    | none => rfl
    | some o => simp [binned.owd o decoded]
  have both : (if cfg.owd ∧ ep.owd.isSome then owdNbuckets + 2 + 2 else 0) =
      if cfg.owd then (if ep.owd.isSome then owdNbuckets + 2 + 2 else 0) else 0 := by
    cases cfg.owd <;> simp
  have states : endpointStates.length = 4 := rfl
  have qp : qpStates.length = 4 := rfl
  have stream : streamStates.length = 6 := rfl
  simp only [endpointLines, endpointSeriesCount, interarrival, owd, both, states, qp, stream]
  cases cfg.perStream with
  | false => simp
  | true =>
    simp only [if_true]
    omega

theorem samples_renderFamilies (eps : List Endpoint) (fl : Floats) (cfg : Config) :
    samples (renderFamilies eps fl cfg) = (eps.map (endpointLines cfg)).sum :=
  Lines.samples (covers_renderFamilies eps fl cfg)

theorem lines_renderSelf (build : Build) (fl : Floats) (s : SelfStats fl) (cappedNow : Nat) :
    ∃ n, Lines n (renderSelf build fl s cappedNow) := by
  unfold renderSelf single sample writeln
  rw [← append_assoc, ← append_assoc]
  exact ⟨_, lines_newline _⟩

theorem selectWithinCap_single {c : Nat} (fits : c ≤ cfg.maxSeries.toNat) :
    selectWithinCap [c] cfg.maxSeries.toNat = (1, 0) := by
  have word : wrap64 (0 + c) = c := by
    rw [Nat.zero_add, wrap64_of_lt (Nat.lt_of_le_of_lt fits cfg.maxSeries.toNat_lt)]
  simp only [selectWithinCap, foldl_cons, foldl_nil, Selection.add, word, fits, if_true]

theorem samples_renderIntoScratch (fl : Floats) (build : Build) (s : SelfStats fl)
    (fits : endpointSeriesCount cfg ep ≤ cfg.maxSeries.toNat) :
    samples (renderIntoScratch [ep] fl build cfg s).1 =
      samples (renderIntoScratch [] fl build cfg s).1 + endpointLines cfg ep := by
  obtain ⟨n, self⟩ := lines_renderSelf build fl s 0
  have alone : (renderIntoScratch [ep] fl build cfg s).1 =
      renderSelf build fl s 0 ++ renderFamilies [ep] fl cfg := by
    simp only [renderIntoScratch, rendered, map_cons, map_nil, selectWithinCap_single fits,
      Nat.lt_irrefl, if_false, nil_append, take_succ_cons, take_zero]
  have empty : (renderIntoScratch [] fl build cfg s).1 =
      renderSelf build fl s 0 ++ renderFamilies [] fl cfg := rfl
  rw [alone, empty, self, self, samples_renderFamilies, samples_renderFamilies]
  simp

end Count

/-- The count is the number of lines that an endpoint adds where no stream is rendered. -/
theorem series_count_iff (fl : Floats) (build : Build) (s : SelfStats fl) (cfg : Config)
    {ep : Endpoint} (binned : Binned ep) :
    (samples (renderFamilies [ep] fl cfg) =
        samples (renderFamilies [] fl cfg) + endpointSeriesCount cfg ep ↔
      cfg.perStream = false ∨ ep.streams = []) ∧
    (endpointSeriesCount cfg ep ≤ cfg.maxSeries.toNat →
      (samples (renderIntoScratch [ep] fl build cfg s).1 =
          samples (renderIntoScratch [] fl build cfg s).1 + endpointSeriesCount cfg ep ↔
        cfg.perStream = false ∨ ep.streams = [])) := by
  have counted : endpointLines cfg ep = endpointSeriesCount cfg ep ↔
      cfg.perStream = false ∨ ep.streams = [] := by
    rw [← endpointLines_add binned, ← length_eq_zero_iff]
    cases cfg.perStream with
    | false => simp
    | true =>
      simp only [if_true, Bool.true_eq_false, false_or]
      omega
  refine ⟨?_, fun fits => ?_⟩
  · rw [samples_renderFamilies, samples_renderFamilies]
    simpa using counted
  · rwa [samples_renderIntoScratch fl build s fits, Nat.add_right_inj]

section Runs

def wholeFloats : Floats :=
  ⟨Nat, id, (· / 1000000000), decimal, decimal, oneLine_decimal, oneLine_decimal⟩

def quietStats : SelfStats wholeFloats := ⟨true, (0 : Nat), 0, 0, 0, 1, 0⟩

def allFamilies : Config := ⟨true, true, 100000, true, true⟩

def idleEndpoint : Endpoint :=
  { Endpoint.empty with
    name := "pair"
    qps := [.empty, .empty]
    stats := some .empty
    interarrival := [⟨1, List.replicate histNbuckets 0, 0, 0⟩]
    owd := some ⟨⟨0, List.replicate owdNbuckets 0, 0, 0⟩, 0, 0⟩ }

theorem idleEndpoint_binned : Binned idleEndpoint :=
  ⟨by simp [idleEndpoint], by simp [idleEndpoint]⟩

theorem idleEndpoint_counted : samples (renderFamilies [idleEndpoint] wholeFloats allFamilies) =
      samples (renderFamilies [] wholeFloats allFamilies) +
        endpointSeriesCount allFamilies idleEndpoint :=
  (series_count_iff wholeFloats ⟨"", none⟩ quietStats allFamilies idleEndpoint_binned).1.mpr
    (.inr rfl)

/-- With one stream the count has nineteen series, and twelve lines are added. -/
theorem stream_overcounted :
    endpointSeriesCount allFamilies { Endpoint.empty with streams := [.empty] } = 19 ∧
    samples (renderFamilies [{ Endpoint.empty with streams := [.empty] }] wholeFloats
      allFamilies) = 12 ∧
    samples (renderFamilies [] wholeFloats allFamilies) = 0 :=
  ⟨rfl, samples_renderFamilies _ _ _, samples_renderFamilies _ _ _⟩

end Runs

end Urp.Exporter
