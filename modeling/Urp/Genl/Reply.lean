import Mathlib.Order.Iterate
import Urp.Genl.RoundTrip
import Urp.Lib.Nlmsg

/-!
# The reply to a verbose GET
-/

namespace Urp.Genl

open Urp.Lib Urp.Lib.Nla Urp.Control Format List Option Function

structure Entry where
  record : Record
  live : Fill.Live

structure GenlInfo where
  sndPortid : UInt32
  sndSeq : UInt32
  cmd : UInt8
  attrs : List UInt8

/-- What `urp_get_endpoint_doit` meets: the room in its message, and whether it can be queued. -/
structure ReplyEnv where
  room : Option (Fin (2 ^ 16))
  unicast : Except Errno Unit

def parseEndpoint (attrs : List UInt8) : Except NewError (Nat → Option Attr) := do
  let top ← (parse attrEndpoint topPolicy attrs).mapError .attrs
  let some outer := top attrEndpoint | throw (.errno .EINVAL)
  (parseNested endpointAttrMax endpointPolicy outer).mapError .attrs

def genlLookupByName (table : List UInt8 → Option Entry) (attrs : List UInt8) :
    Except NewError Entry := do
  let tb ← parseEndpoint attrs
  if (tb EndpointAttr.name.code).isNone then throw (.errno .EINVAL)
  match table (cstr (readString tb .name nameMax)) with
  | some e => return e
  | none => throw (.errno .ENOENT)

def genlmsgHdr (familyId : UInt16) (info : GenlInfo) : Nlmsg.Msg :=
  ⟨familyId, 0, info.sndSeq, info.sndPortid, [info.cmd, genlVersion, 0, 0]⟩

def genlmsgNew (room : Fin (2 ^ 16)) : Skb := ⟨[], room, Nat.zero_le _, room.isLt⟩

def genlmsgIput (familyId : UInt16) (info : GenlInfo) : Writer := fun s =>
  let hdr := genlmsgHdr familyId info
  if room : s.data.length + hdr.size ≤ s.size then
    some { s with
      data := s.data ++ hdr.bytes
      fits := by rw [length_append, hdr.length_bytes]; exact room }
  else none

def genlmsgEnd (s : Skb) : List UInt8 := putLe 4 s.data.length ++ s.data.drop 4

section Doit

variable (misplaced : Nat → Bool) (sys : Fill.Sysctl) (familyId : UInt16)

def replyTo (env : ReplyEnv) (info : GenlInfo) (e : Entry) : Except NewError (List UInt8) := do
  let some room := env.room | throw (.errno .ENOMEM)
  let some msg := genlmsgIput familyId info (genlmsgNew room) | throw (.errno .EMSGSIZE)
  let some msg := Fill.fillEndpoint misplaced sys e.record e.live true msg
    | throw (.errno .EMSGSIZE)
  env.unicast.mapError .errno
  return genlmsgEnd msg

def getEndpointDoit (table : List UInt8 → Option Entry) (env : ReplyEnv) (info : GenlInfo) :
    Except NewError (List UInt8) := do
  let e ← genlLookupByName table info.attrs
  replyTo misplaced sys familyId env info e

end Doit

/-! ## The size of a reply -/

section Size

variable (misplaced : Nat → Bool) (sys : Fill.Sysctl)

def stringSize (field : List UInt8) : Nat := align4 (hdrLen + ((cstr field).length + 1))

def summaryEnd (r : Record) (n : Nat) : Nat :=
  n + stringSize r.name + (if isSet r.listenPath then stringSize r.listenPath else 0) +
    (if isSet r.connectPath then stringSize r.connectPath else 0) +
    (if isSet r.rdmaDevice then stringSize r.rdmaDevice else 0) +
    (if r.hasPeerAddr then align4 (hdrLen + r.peerAddr.length) else 0) +
    (if r.hasBindAddr then align4 (hdrLen + r.bindAddr.length) else 0) + 8 + 8 + 8 + 8

def qpEnd (n : Nat) : Nat := (u64End misplaced)^[5] (n + hdrLen + 8 + 8)

def streamEnd (n : Nat) : Nat := (u64End misplaced)^[2] (n + hdrLen + 8 + 8) + 8 + 8 + 8

def statsEnd (n : Nat) : Nat := (u64End misplaced)^[9] (n + hdrLen + 8)

def histEnd (nbuckets n : Nat) : Nat :=
  (u64End misplaced)^[2] (n + hdrLen + 8 + (hdrLen + 8 * nbuckets))

def owdEnd (n : Nat) : Nat := (u64End misplaced)^[2] (histEnd misplaced owdNbuckets (n + hdrLen))

def detailsEnd (qps streams n : Nat) : Nat :=
  let qpsEnd := (qpEnd misplaced)^[qps] (n + hdrLen)
  let streamsEnd := (streamEnd misplaced)^[streams] (qpsEnd + hdrLen)
  let countersEnd := statsEnd misplaced streamsEnd
  let interarrivalEnd :=
    if sys.interarrivalHist ≠ 0 then
      (histEnd misplaced histNbuckets)^[Fill.iaNstrides] (countersEnd + hdrLen)
    else countersEnd
  if sys.latencySamplePeriod ≠ 0 then owdEnd misplaced interarrivalEnd else interarrivalEnd

def replyEnd (e : Entry) : Nat :=
  detailsEnd misplaced sys (e.live.reportedQps e.record.numQps.toNat).length
    e.live.reportedStreams.length
    (summaryEnd e.record (Nlmsg.hdrLen + genlHdrLen + hdrLen))

variable {misplaced} {sys}

theorem takes_u8 (type : Nat) (v : UInt8) : Takes (Fill.putU8 type v) (· + 8) :=
  takes_put type (by simp [align4, hdrLen])

theorem takes_u16 (type : Nat) (v : UInt16) : Takes (Fill.putU16 type v) (· + 8) :=
  takes_put type (by simp [align4, hdrLen])

theorem takes_u32 (type : Nat) (v : UInt32) : Takes (Fill.putU32 type v) (· + 8) :=
  takes_put type (by simp [align4, hdrLen])

theorem takes_string (type : Nat) (field : List UInt8) :
    Takes (Fill.putString type field) (· + stringSize field) :=
  takes_put type (by simp [stringSize])

theorem takes_optional {w : Writer} {total : Nat} (c : Bool) (takes : Takes w (· + total)) :
    Takes (whenever c w) (· + if c then total else 0) := by
  cases c with
  | true => exact takes
  | false => exact takes_nil

theorem takes_summary (r : Record) (l : Fill.Live) :
    Takes (seq (Fill.putSummary r l)) (summaryEnd r) := by
  have takes : Takes (seq (Fill.putSummary r l)) _ := .cons (takes_string _ _) <| .cons
    (takes_optional _ (takes_string _ _)) <| .cons (takes_optional _ (takes_string _ _)) <| .cons
    (takes_optional _ (takes_string _ _)) <| .cons (takes_optional _ (takes_put _ rfl)) <| .cons
    (takes_optional _ (takes_put _ rfl)) <| .cons (takes_u32 _ _) <| .cons (takes_u32 _ _) <| .cons
    (takes_u32 _ _) <| .cons (takes_u8 _ _) takes_nil
  exact takes.congr fun n => rfl

theorem takes_qp (q : Fill.Qp) (type : Nat) :
    Takes (nest type (Fill.putQp misplaced q)) (qpEnd misplaced) := by
  have contents : Takes (Fill.putQp misplaced q) _ := .cons (takes_u32 _ _) <| .cons
    (takes_u8 _ _) <| .cons (takes_putU64 _ _) <| .cons (takes_putU64 _ _) <| .cons
    (takes_putU64 _ _) <| .cons (takes_putU64 _ _) <| .cons (takes_putU64 _ _) takes_nil
  exact (contents.nest type).congr fun n => rfl

theorem takes_stream (s : Fill.Stream) (type : Nat) :
    Takes (nest type (Fill.putStream misplaced s)) (streamEnd misplaced) := by
  have contents : Takes (Fill.putStream misplaced s) _ := .cons (takes_u32 _ _) <| .cons
    (takes_u8 _ _) <| .cons (takes_putU64 _ _) <| .cons (takes_putU64 _ _) <| .cons
    (takes_u32 _ _) <| .cons (takes_u16 _ _) <| .cons (takes_u16 _ _) takes_nil
  exact (contents.nest type).congr fun n => rfl

theorem takes_stats (activeStreams : UInt32) (s : Fill.Stats) (type : Nat) :
    Takes (nest type (Fill.putStats misplaced activeStreams s)) (statsEnd misplaced) := by
  have contents : Takes (Fill.putStats misplaced activeStreams s) _ := .cons (takes_u32 _ _) <|
    .cons (takes_putU64 _ _) <| .cons (takes_putU64 _ _) <| .cons (takes_putU64 _ _) <| .cons
    (takes_putU64 _ _) <| .cons (takes_putU64 _ _) <| .cons (takes_putU64 _ _) <| .cons
    (takes_putU64 _ _) <| .cons (takes_putU64 _ _) <| .cons (takes_putU64 _ _) takes_nil
  exact (contents.nest type).congr fun n => rfl

theorem takes_hist {nbuckets : Nat} (within : nbuckets ≤ histNbuckets) (stride : UInt32)
    (h : Fill.Hist) (type : Nat) :
    Takes (nest type (Fill.putHist misplaced nbuckets stride h)) (histEnd misplaced nbuckets) := by
  have words : ((h.bucket.toList.take nbuckets).flatMap fun v => putLe 8 v.toNat).length =
      8 * nbuckets := by
    simp [length_flatMap, within, Nat.mul_comm]
  have size : align4 (hdrLen +
      ((h.bucket.toList.take nbuckets).flatMap fun v => putLe 8 v.toNat).length) =
      hdrLen + 8 * nbuckets := by
    rw [words, align4, hdrLen]
    omega
  have contents : Takes (Fill.putHist misplaced nbuckets stride h) _ := .cons (takes_u32 _ _) <|
    .cons (takes_put _ size) <| .cons (takes_putU64 _ _) <| .cons (takes_putU64 _ _) takes_nil
  exact (contents.nest type).congr fun n => rfl

theorem takes_putEach {α : Type} {putOne : α → Writer} {upTo : Nat → Nat}
    (takes : ∀ x type, Takes (nest type (putOne x)) upTo) (xs : List α) :
    Takes (Fill.putEach putOne xs) upTo^[xs.length] := by
  have each : Takes (Fill.putEach putOne xs) upTo^[xs.zipIdx.length] :=
    takes_each fun (x, i) _ => takes x (i + 1)
  rwa [length_zipIdx] at each

theorem takes_owd (l : Fill.Live) (type : Nat) :
    Takes (nest type (Fill.putOwd misplaced sys l)) (owdEnd misplaced) := by
  have within : owdNbuckets ≤ histNbuckets := by decide
  have contents : Takes (Fill.putOwd misplaced sys l) _ := .cons (takes_hist within _ _ _) <| .cons
    (takes_putU64 _ _) <| .cons (takes_putU64 _ _) takes_nil
  exact (contents.nest type).congr fun n => rfl

theorem takes_details (r : Record) (l : Fill.Live) : Takes (seq (Fill.putDetails misplaced sys r l))
      (detailsEnd misplaced sys (l.reportedQps r.numQps.toNat).length
        l.reportedStreams.length) := by
  have hist (s type : Nat) : Takes (nest type (Fill.putHist misplaced histNbuckets (Fill.iaStride s)
      (l.interarrival s))) (histEnd misplaced histNbuckets) :=
    takes_hist le_rfl _ _ _
  have strides := takes_putEach hist (List.range Fill.iaNstrides)
  have takes : Takes (seq (Fill.putDetails misplaced sys r l)) _ :=
    .cons ((takes_putEach takes_qp _).nest _) <| .cons ((takes_putEach takes_stream _).nest _) <|
    .cons (takes_stats _ _ _) <| .cons (takes_whenever _ (strides.nest _)) <|
    .cons (takes_whenever _ (takes_owd l _)) takes_nil
  refine takes.congr fun n => ?_
  simp [detailsEnd]

theorem takes_fill (e : Entry) :
    Takes (Fill.fillEndpoint misplaced sys e.record e.live true) fun n =>
      detailsEnd misplaced sys (e.live.reportedQps e.record.numQps.toNat).length
        e.live.reportedStreams.length (summaryEnd e.record (n + hdrLen)) :=
  (takes_seq_append (takes_summary _ _) (takes_details _ _)).nest attrEndpoint

theorem takes_iput (familyId : UInt16) (info : GenlInfo) :
    Takes (genlmsgIput familyId info) (· + (Nlmsg.hdrLen + genlHdrLen)) where
  grows n := Nat.le_add_right n _
  fits s room := by
    have room' : s.data.length + (genlmsgHdr familyId info).size ≤ s.size := room
    simp only [genlmsgIput]
    rw [dif_pos room']
    exact ⟨_, rfl, by rw [length_append, Nlmsg.Msg.length_bytes]; rfl, rfl⟩
  full s none := by
    simp only [genlmsgIput]
    exact dif_neg (Nat.not_le.mpr none)

theorem takes_reply (familyId : UInt16) (info : GenlInfo) (e : Entry) :
    Takes (seq [genlmsgIput familyId info,
      Fill.fillEndpoint misplaced sys e.record e.live true]) fun n =>
      detailsEnd misplaced sys (e.live.reportedQps e.record.numQps.toNat).length
        e.live.reportedStreams.length
        (summaryEnd e.record (n + (Nlmsg.hdrLen + genlHdrLen) + hdrLen)) :=
  .cons (takes_iput familyId info) (.cons (takes_fill e) takes_nil)

theorem streams_le_replyEnd (misplaced : Nat → Bool) (sys : Fill.Sysctl) (e : Entry) :
    68 * e.live.reportedStreams.length ≤ replyEnd misplaced sys e := by
  have word (n : Nat) : n + 12 ≤ u64End misplaced n := by
    unfold u64End
    omega
  have words (k n : Nat) : n ≤ (u64End misplaced)^[k] n :=
    id_le_iterate_of_id_le (fun n => Nat.le_of_add_right_le (word n)) k n
  have stream (n : Nat) : n + 68 ≤ streamEnd misplaced n := by
    have first := word (n + hdrLen + 8 + 8)
    have second := word (u64End misplaced (n + hdrLen + 8 + 8))
    change n + 68 ≤ u64End misplaced (u64End misplaced (n + hdrLen + 8 + 8)) + 8 + 8 + 8
    unfold hdrLen at *
    omega
  have streams (k n : Nat) : n + 68 * k ≤ (streamEnd misplaced)^[k] n := by
    induction k with
    | zero => exact Nat.le_refl n
    | succ k ih =>
      rw [iterate_succ_apply']
      exact Nat.le_trans (by omega) (stream _)
  have hist (nbuckets n : Nat) : n ≤ histEnd misplaced nbuckets n :=
    Nat.le_trans (by omega) (words 2 _)
  unfold replyEnd detailsEnd
  extract_lets qpsEnd streamsEnd countersEnd interarrivalEnd
  have fromStreams := streams e.live.reportedStreams.length (qpsEnd + hdrLen)
  have counters : streamsEnd ≤ countersEnd := Nat.le_trans (by omega) (words 9 _)
  have interarrival : countersEnd ≤ interarrivalEnd := by
    have hists := id_le_iterate_of_id_le (hist histNbuckets) Fill.iaNstrides (countersEnd + hdrLen)
    unfold interarrivalEnd
    split
    · exact Nat.le_trans (Nat.le_add_right _ _) hists
    · exact Nat.le_refl _
  have owd : interarrivalEnd ≤ owdEnd misplaced interarrivalEnd :=
    Nat.le_trans (Nat.le_trans (Nat.le_add_right _ _) (hist _ _)) (words 2 _)
  split
  · omega
  · omega

end Size

/-! ## Complete replies -/

variable {table : List UInt8 → Option Entry}

section Get

variable {misplaced : Nat → Bool} {sys : Fill.Sysctl} {familyId : UInt16} {env : ReplyEnv}
  {info : GenlInfo} {e : Entry} {room : Fin (2 ^ 16)}

theorem replyTo_fits (familyId : UInt16) (info : GenlInfo) (allocated : env.room = some room)
    (enough : replyEnd misplaced sys e ≤ room) :
    ∃ msg msg', genlmsgIput familyId info (genlmsgNew room) = some msg ∧
      Fill.fillEndpoint misplaced sys e.record e.live true msg = some msg' ∧
      replyTo misplaced sys familyId env info e =
        (env.unicast.mapError .errno).map fun _ => genlmsgEnd msg' := by
  obtain ⟨msg', written, -, -⟩ := (takes_reply familyId info e).fits (genlmsgNew room) enough
  obtain ⟨msg, put, written⟩ := bind_eq_some_iff.mp written
  obtain ⟨filledMsg, filled, same⟩ := bind_eq_some_iff.mp written
  refine ⟨msg, filledMsg, put, filled, ?_⟩
  simp only [replyTo, allocated, put, filled]
  cases env.unicast with
  | error e | ok _ => rfl

theorem replyTo_full (allocated : env.room = some room) (short : room < replyEnd misplaced sys e) :
    replyTo misplaced sys familyId env info e = .error (.errno .EMSGSIZE) := by
  have failed := (takes_reply familyId info e).full (genlmsgNew room) short
  simp only [replyTo, allocated]
  cases put : genlmsgIput familyId info (genlmsgNew room) with
  | none => rfl
  | some msg =>
    simp only [seq, put, bind_some, bind_fun_some] at failed
    simp only [failed]
    rfl

def Entry.CompleteIn (display : SocketAddr → String) (sys : Fill.Sysctl) (e : Entry)
    (reply : List UInt8) : Prop :=
  ∃ contents, attrIter (reply.drop (Nlmsg.hdrLen + genlHdrLen)) = [⟨attrEndpoint, contents⟩] ∧
    (attrIter contents).foldl (Endpoint.set display) .empty =
      withDetails sys e.live e.record.numQps (withSummary display e.record e.live .empty)

theorem completeIn_end (display : SocketAddr → String) {msg msg' : Skb}
    (put : genlmsgIput familyId info (genlmsgNew room) = some msg)
    (filled : Fill.fillEndpoint misplaced sys e.record e.live true msg = some msg') :
    e.CompleteIn display sys (genlmsgEnd msg') := by
  have header : msg.data = (genlmsgHdr familyId info).bytes := by
    simp only [genlmsgIput] at put
    split_ifs at put
    cases put
    rfl
  obtain ⟨attrs, data, fits, inner, rfl, inner_fits, read⟩ :=
    (reads_fill misplaced display sys e.record e.live true).nest attrEndpoint msg msg' filled
  refine ⟨encode inner, ?_, ?_⟩
  · have body : (genlmsgEnd msg').drop (Nlmsg.hdrLen + genlHdrLen) =
        encode [⟨nestType attrEndpoint, encode inner⟩] := by
      rw [genlmsgEnd, data, header]
      rfl
    rw [body, attrIter_encode fits, map_singleton, unflag_nest (by decide)]
  · rw [attrIter_encode inner_fits, read]
    rfl

/-- A verbose GET of an endpoint has a complete reply where this fits into the message, and only
there. -/
theorem get_complete_iff {table : List UInt8 → Option Entry} (display : SocketAddr → String)
    (found : genlLookupByName table info.attrs = .ok e) :
    (∃ reply, getEndpointDoit misplaced sys familyId table env info = .ok reply ∧
      e.CompleteIn display sys reply) ↔
    env.unicast = .ok () ∧ ∃ room ∈ env.room, replyEnd misplaced sys e ≤ room := by
  have handled : getEndpointDoit misplaced sys familyId table env info =
      replyTo misplaced sys familyId env info e := by
    rw [getEndpointDoit, found]
    rfl
  rw [handled]
  constructor
  · rintro ⟨reply, replied, -⟩
    cases allocated : env.room with
    | none =>
      simp only [replyTo, allocated] at replied
      cases replied
    | some room =>
      rcases Nat.lt_or_ge room (replyEnd misplaced sys e) with short | enough
      · rw [replyTo_full allocated short] at replied
        cases replied
      · obtain ⟨msg, msg', -, -, outcome⟩ :=
          replyTo_fits familyId info allocated enough
        rw [outcome] at replied
        refine ⟨?_, room, rfl, enough⟩
        cases queued : env.unicast with
        | error e =>
          rw [queued] at replied
          cases replied
        | ok _ => rfl
  · rintro ⟨queued, room, allocated, enough⟩
    obtain ⟨msg, msg', put, filled, outcome⟩ := replyTo_fits familyId info allocated enough
    refine ⟨genlmsgEnd msg', ?_, completeIn_end display put filled⟩
    rw [outcome, queued]
    rfl

theorem many_streams_refused
    (found : genlLookupByName table info.attrs = .ok e) (allocated : env.room = some room)
    (many : 964 ≤ e.live.reportedStreams.length) :
    getEndpointDoit misplaced sys familyId table env info = .error (.errno .EMSGSIZE) := by
  have least := streams_le_replyEnd misplaced sys e
  have short : room < replyEnd misplaced sys e := by
    omega
  rw [getEndpointDoit, found]
  exact replyTo_full allocated short

end Get

/-! ## The request of the tool -/

/-- The request of `fetch_endpoints` for one endpoint. -/
def getPayload (name : String) : List UInt8 :=
  AttrBuf.nest attrEndpoint (AttrBuf.putString EndpointAttr.name.code name) []

def nameAttr (name : String) : Attr := ⟨EndpointAttr.name.code, terminated name⟩

def getAttr (name : String) : Attr := ⟨nestType attrEndpoint, encode [nameAttr name]⟩

section Lookup

variable {name : String} (held : Held nameMax name)

include held

theorem fits_nameAttr : (nameAttr name).Fits := by
  have short := held.short
  have type : EndpointAttr.name.code < 2 ^ 16 := by decide
  refine ⟨?_, type⟩
  simp only [nameAttr, Attr.size, terminated, length_append, length_singleton, hdrLen]
  unfold nameMax at short
  omega

theorem fits_getAttr : (getAttr name).Fits := by
  have short := held.short
  have type : nestType attrEndpoint < 2 ^ 16 := by decide
  refine ⟨?_, type⟩
  simp only [getAttr, Attr.size, encode_cons, encode_nil, append_nil, Attr.length_bytes,
    nameAttr, terminated, length_append, length_singleton, hdrLen, align4]
  unfold nameMax at short
  omega

theorem validate_nameAttr : (Policy.nulString (nameMax - 1)).validate (nameAttr name) = .ok () := by
  have short := held.short
  have whole : (terminated name).take (nameMax - 1 + 1) = terminated name :=
    take_of_length_le (by simp only [terminated, length_append]; exact short)
  have ends : (terminated name).getLast? = some 0 := by simp [terminated]
  have length : (terminated name).length - 1 = (utf8 name).length := by simp [terminated]
  have found : ¬(0 ∉ terminated name) := by simp [terminated]
  have within : ¬nameMax - 1 < (utf8 name).length := by
    omega
  have string : validateString (nameMax - 1) (terminated name) = .ok () := by
    simp only [validateString, whole, if_neg found, ends, if_true, length, if_neg within]
  exact string

theorem lookup_getPayload {e : Entry}
    (present : table (utf8 name) = some e) : genlLookupByName table (getPayload name) = .ok e := by
  have kind : (getAttr name).kind = attrEndpoint := by
    simp [getAttr, Attr.kind, nestType, nestedFlag, attrEndpoint]
  have named : (nameAttr name).kind = EndpointAttr.name.code := rfl
  have valid : (endpointPolicy (nameAttr name).kind).validate (nameAttr name) = .ok () :=
    validate_nameAttr held
  have payload : getPayload name = encode [getAttr name] := by
    have put : AttrBuf.putString EndpointAttr.name.code name [] = encode [nameAttr name] := by
      rw [AttrBuf.putString, AttrBuf.putBytes_eq _ _ rfl]
      simp [nameAttr, terminated]
    rw [getPayload, AttrBuf.nest, put, AttrBuf.putBytes_eq _ _ rfl]
    simp [getAttr]
  have top : parse attrEndpoint topPolicy (getPayload name) =
      .ok (Function.update (fun _ => none) attrEndpoint (some (getAttr name))) := by
    rw [payload, ← kind]
    refine parse_one (fits_getAttr held) (by rw [kind]; decide) ?_
    rw [kind]
    exact validate_nested_one (by decide) (fits_nameAttr held) (by rw [named]; decide) valid
  have inner : parseNested endpointAttrMax endpointPolicy (getAttr name) =
      .ok (Function.update (fun _ => none) EndpointAttr.name.code (some (nameAttr name))) := by
    have flag : (getAttr name).flagged = true := by
      simp [getAttr, Attr.flagged, nestType]
    rw [parseNested, flag]
    exact parse_one (fits_nameAttr held) (by rw [named]; decide) valid
  have read : cstr (readString (Function.update (fun _ => none) EndpointAttr.name.code
      (some (nameAttr name))) .name nameMax) = utf8 name :=
    cstr_readString (o := some name) (by simp [nameAttr]) (by rintro s ⟨⟩; exact held)
  have parsed : parseEndpoint (getPayload name) =
      .ok (Function.update (fun _ => none) EndpointAttr.name.code (some (nameAttr name))) := by
    rw [parseEndpoint, top]
    exact congrArg (Except.mapError NewError.attrs) inner
  have isNamed : (Function.update (fun _ => none) EndpointAttr.name.code
      (some (nameAttr name)) EndpointAttr.name.code).isNone = false := by
    rw [update_self]
    rfl
  simp only [genlLookupByName, parsed, bind, Except.bind, isNamed, read, present]
  rfl

end Lookup

section Client

def plainEntry : Entry where
  record :=
    { name := utf8 "a" ++ List.replicate 15 0
      listenPath := utf8 "/a" ++ List.replicate 106 0
      connectPath := List.replicate 108 0
      rdmaDevice := List.replicate 64 0
      hasPeerAddr := true
      peerAddr := encodeSockaddrIn6 loopback
      hasBindAddr := false
      bindAddr := List.replicate 28 0
      numQps := 1
      bufferCount := 64
      bufferSize := 65536 }
  live := clientLive

def onlyEntry (e : Entry) (name : List UInt8) : Option Entry :=
  if name = utf8 "a" then some e else none

theorem plain_get_complete :
    ∃ reply, getEndpointDoit (fun n => n % 8 = 4) ⟨1, 1, 0⟩ 16 (onlyEntry plainEntry)
        ⟨some 3776, .ok ()⟩ ⟨7, 1, 4, getPayload "a"⟩ = .ok reply ∧
      plainEntry.CompleteIn (fun _ => "127.0.0.1:4791") ⟨1, 1, 0⟩ reply :=
  (get_complete_iff _ (lookup_getPayload held_name rfl)).mpr ⟨rfl, 3776, rfl, by decide⟩

end Client

end Urp.Genl
