import Urp.Conn.Control
import Urp.Frame.Codec
import Urp.Genl.Format

/-!
# A new endpoint

The control tool puts the options of `add` into the attributes of a request.
-/

namespace Urp.Genl

open Urp.Lib Urp.Lib.Nla Urp.Control Format

/-! ## The request -/

structure AddArgs where
  name : String
  listenPath : Option String
  connectPath : Option String
  peer : Option SocketAddr
  bind : Option SocketAddr
  numQps : Option UInt32
  bufferCount : Option UInt32
  bufferSize : Option UInt32
  password : Option String
  rdmaDevice : Option String
  mode : EpMode
  kind : EpKind

def modeByte : EpMode → UInt8
  | .multistream => 0
  | .k0 => 1

def AttrBuf.putSome {α : Type} (put : α → AttrBuf → AttrBuf) : Option α → AttrBuf → AttrBuf
  | some v => put v
  | none => id

def endpointAttrs (args : AddArgs) (buf : AttrBuf) : AttrBuf :=
  [ AttrBuf.putString EndpointAttr.name.code args.name,
    .putSome (.putString EndpointAttr.listenPath.code) args.listenPath,
    .putSome (.putString EndpointAttr.connectPath.code) args.connectPath,
    .putSome (.putString EndpointAttr.rdmaDevice.code) args.rdmaDevice,
    .putSome (fun sa => .putBytes EndpointAttr.peerAddr.code (encodeSockaddrIn6 sa)) args.peer,
    .putSome (fun sa => .putBytes EndpointAttr.bindAddr.code (encodeSockaddrIn6 sa)) args.bind,
    .putSome (.putU32 EndpointAttr.numQps.code) args.numQps,
    .putSome (.putU32 EndpointAttr.bufferCount.code) args.bufferCount,
    .putSome (.putU32 EndpointAttr.bufferSize.code) args.bufferSize,
    .putSome (.putString EndpointAttr.password.code) args.password,
    .putSome (fun mode => .putU8 EndpointAttr.mode.code (modeByte mode))
      (if args.mode ≠ .multistream then some args.mode else none),
    .putSome (fun kind => .putU8 EndpointAttr.kind.code kind.byte)
      (if args.kind ≠ .uds then some args.kind else none)
  ].foldl (fun buf put => put buf) buf

def buildPayload (args : AddArgs) : List UInt8 :=
  AttrBuf.nest attrEndpoint (endpointAttrs args) []

/-! ## The module -/

def endpointPolicy (type : Nat) : Policy :=
  if type = EndpointAttr.name.code then .nulString (nameMax - 1)
  else if type = EndpointAttr.listenPath.code then .nulString (pathMaxLen - 1)
  else if type = EndpointAttr.connectPath.code then .nulString (pathMaxLen - 1)
  else if type = EndpointAttr.rdmaDevice.code then .nulString (deviceMax - 1)
  else if type = EndpointAttr.peerAddr.code then .exactLen sockaddrLen
  else if type = EndpointAttr.bindAddr.code then .exactLen sockaddrLen
  else if type = EndpointAttr.numQps.code then .u32 1 numQpsMax
  else if type = EndpointAttr.bufferCount.code then .u32 bufferCountMin bufferCountMax
  else if type = EndpointAttr.bufferSize.code then .u32 Frame.bufferSizeMin Frame.bufferSizeMax
  else if type = EndpointAttr.password.code then .nulString (passwordMax - 1)
  else if type = EndpointAttr.state.code then .u8 0 3
  else if type = EndpointAttr.mode.code then .u8 0 1
  else if type = EndpointAttr.kind.code then .u8 0 1
  else .unspec

def topPolicy (type : Nat) : Policy :=
  if type = attrEndpoint then .nested endpointAttrMax endpointPolicy else .unspec

/-- The `cfg` of `urp_new_endpoint_doit`, whole. -/
structure NewConfig extends Config where
  rdmaDevice : List UInt8
  peerAddr : List UInt8
  bindAddr : List UInt8

section Read

variable (tb : Nat → Option Attr)

def readString (attr : EndpointAttr) (size : Nat) : List UInt8 :=
  match tb attr.code with
  | some a => nlaStrscpy size a.payload
  | none => List.replicate size 0

def readAddr (attr : EndpointAttr) : List UInt8 :=
  match tb attr.code with
  | some a => a.payload.take sockaddrLen
  | none => List.replicate sockaddrLen 0

def readU32 (attr : EndpointAttr) : Option Nat :=
  (tb attr.code).map fun a => getLe (a.payload.take 4)

def readU8 (attr : EndpointAttr) : Option Nat :=
  (tb attr.code).map fun a => getLe (a.payload.take 1)

def numQpsOf (n : Nat) : Option NumQps :=
  if admitted : 1 ≤ n ∧ n ≤ numQpsMax then some ⟨n, admitted⟩ else none

def readConfig : NewConfig where
  name := readString tb .name nameMax
  listenPath := readString tb .listenPath pathMaxLen
  connectPath := readString tb .connectPath pathMaxLen
  rdmaDevice := readString tb .rdmaDevice deviceMax
  peerAddr := readAddr tb .peerAddr
  hasPeerAddr := (tb EndpointAttr.peerAddr.code).isSome
  bindAddr := readAddr tb .bindAddr
  hasBindAddr := (tb EndpointAttr.bindAddr.code).isSome
  numQps := (readU32 tb .numQps).bind numQpsOf
  bufferCount := readU32 tb .bufferCount
  bufferSize := readU32 tb .bufferSize
  mode := if readU8 tb .mode = some 1 then .k0 else .multistream
  kind := if readU8 tb .kind = some 1 then .fast else .uds
  password := (tb EndpointAttr.password.code).map (·.payload)

end Read

structure Record where
  name : List UInt8
  listenPath : List UInt8
  connectPath : List UInt8
  rdmaDevice : List UInt8
  hasPeerAddr : Bool
  peerAddr : List UInt8
  hasBindAddr : Bool
  bindAddr : List UInt8
  numQps : UInt32
  bufferCount : UInt32
  bufferSize : UInt32

def Record.make (cfg : NewConfig) (ep : Control.Endpoint) : Record where
  name := cfg.name
  listenPath := cfg.listenPath
  connectPath := cfg.connectPath
  rdmaDevice := cfg.rdmaDevice
  hasPeerAddr := cfg.hasPeerAddr
  peerAddr := cfg.peerAddr
  hasBindAddr := cfg.hasBindAddr
  bindAddr := cfg.bindAddr
  numQps := UInt32.ofNat ep.numQps
  bufferCount := UInt32.ofNat ep.bufferCount
  bufferSize := UInt32.ofNat ep.bufferSize

inductive NewError where
  | attrs (fault : Fault)
  | errno (e : Errno)

/-- `environment` is what the allocations, the table of the names and the activation say. -/
def newEndpoint (sha256 : List UInt8 → Vector UInt8 pskHashLen) (fastEnabled : Bool)
    (advertise : Nat) (environment : Except Errno Unit) (payload : List UInt8) :
    Except NewError Record := do
  let attrs ← (parse attrEndpoint topPolicy payload).mapError .attrs
  let some outer := attrs attrEndpoint | throw (.errno .EINVAL)
  let tb ← (parseNested endpointAttrMax endpointPolicy outer).mapError .attrs
  if (tb EndpointAttr.name.code).isNone then throw (.errno .EINVAL)
  let cfg := readConfig tb
  let ep ← (create sha256 fastEnabled advertise cfg.toConfig).mapError .errno
  environment.mapError .errno
  return .make cfg ep

/-! ## What the module finds in the request -/

structure Held (size : Nat) (s : String) : Prop where
  plain : 0 ∉ utf8 s
  short : (utf8 s).length < size

structure AddArgs.Admissible (args : AddArgs) : Prop where
  name : Held nameMax args.name
  listenPath : ∀ s ∈ args.listenPath, Held pathMaxLen s
  connectPath : ∀ s ∈ args.connectPath, Held pathMaxLen s
  rdmaDevice : ∀ s ∈ args.rdmaDevice, Held deviceMax s
  password : ∀ s ∈ args.password, Held passwordMax s
  peer : ∀ a ∈ args.peer, a.isV4 = true
  bind : ∀ a ∈ args.bind, a.isV4 = true

def terminated (s : String) : List UInt8 := utf8 s ++ [0]

def fieldsOf (args : AddArgs) : List (Nat × Option (List UInt8)) :=
  [ (EndpointAttr.name.code, some (terminated args.name)),
    (EndpointAttr.listenPath.code, args.listenPath.map terminated),
    (EndpointAttr.connectPath.code, args.connectPath.map terminated),
    (EndpointAttr.rdmaDevice.code, args.rdmaDevice.map terminated),
    (EndpointAttr.peerAddr.code, args.peer.map encodeSockaddrIn6),
    (EndpointAttr.bindAddr.code, args.bind.map encodeSockaddrIn6),
    (EndpointAttr.numQps.code, args.numQps.map fun v => putLe 4 v.toNat),
    (EndpointAttr.bufferCount.code, args.bufferCount.map fun v => putLe 4 v.toNat),
    (EndpointAttr.bufferSize.code, args.bufferSize.map fun v => putLe 4 v.toNat),
    (EndpointAttr.password.code, args.password.map terminated),
    (EndpointAttr.mode.code,
      (if args.mode ≠ .multistream then some args.mode else none).map fun mode => [modeByte mode]),
    (EndpointAttr.kind.code,
      (if args.kind ≠ .uds then some args.kind else none).map fun kind => [kind.byte]) ]

def sent (fields : List (Nat × Option (List UInt8))) : List Attr :=
  fields.flatMap fun (type, payload) => (payload.map (Attr.mk type)).toList

def Puts (put : AttrBuf → AttrBuf) (field : Nat × Option (List UInt8)) : Prop :=
  ∀ buf : AttrBuf, buf.length % 4 = 0 → put buf = buf ++ encode (sent [field])

theorem puts_bytes (type : Nat) (data : List UInt8) :
    Puts (.putBytes type data) (type, some data) := by
  intro buf aligned
  rw [AttrBuf.putBytes_eq type data aligned]
  simp [sent]

variable {type : Nat}

theorem puts_some {α : Type} {put : α → AttrBuf → AttrBuf} {data : α → List UInt8}
    (puts : ∀ v, Puts (put v) (type, some (data v))) (o : Option α) :
    Puts (.putSome put o) (type, o.map data) := by
  cases o with
  | none =>
    intro buf aligned
    simp [AttrBuf.putSome, sent]
  | some v => exact puts v

variable {fields : List (Nat × Option (List UInt8))}

theorem foldl_puts {puts : List (AttrBuf → AttrBuf)}
    (each : List.Forall₂ Puts puts fields) {buf : AttrBuf} (aligned : buf.length % 4 = 0) :
    puts.foldl (fun buf put => put buf) buf = buf ++ encode (sent fields) := by
  induction each generalizing buf with
  | nil => simp [sent]
  | @cons put field puts fields first rest ih =>
    have whole := length_encode_mod (sent [field])
    rw [List.foldl_cons, first buf aligned, ih (by rw [List.length_append]; omega)]
    simp [sent]

theorem endpointAttrs_eq (args : AddArgs) :
    endpointAttrs args [] = encode (sent (fieldsOf args)) := by
  have optional {α : Type} (type : Nat) (data : α → List UInt8) (o : Option α) :
      Puts (.putSome (fun v => .putBytes type (data v)) o) (type, o.map data) :=
    puts_some (fun v => puts_bytes type (data v)) o
  have each : List.Forall₂ Puts _ (fieldsOf args) :=
    .cons (puts_bytes _ _) <| .cons (optional _ _ _) <| .cons (optional _ _ _) <|
      .cons (optional _ _ _) <| .cons (optional _ _ _) <| .cons (optional _ _ _) <|
      .cons (optional _ _ _) <| .cons (optional _ _ _) <| .cons (optional _ _ _) <|
      .cons (optional _ _ _) <| .cons (optional _ _ _) <| .cons (optional _ _ _) .nil
  exact foldl_puts each rfl

variable {args : AddArgs}

theorem payload_short (admissible : args.Admissible) :
    ∀ f ∈ fieldsOf args, ∀ p ∈ f.2, p.length ≤ pathMaxLen := by
  have text {size : Nat} (small : size ≤ pathMaxLen) {o : Option String}
      (held : ∀ s ∈ o, Held size s) : ∀ p ∈ o.map terminated, p.length ≤ pathMaxLen := by
    intro p member
    obtain ⟨s, given, rfl⟩ := Option.map_eq_some_iff.mp member
    have short := (held s given).short
    rw [terminated, List.length_append, List.length_singleton]
    omega
  have fixed {α : Type} {n : Nat} (small : n ≤ pathMaxLen) {data : α → List UInt8} (length : ∀ v,
      (data v).length = n) (o : Option α) : ∀ p ∈ o.map data, p.length ≤ pathMaxLen := by
    intro p member
    obtain ⟨v, -, rfl⟩ := Option.map_eq_some_iff.mp member
    exact (length v).le.trans small
  have named : ∀ s ∈ some args.name, Held nameMax s := by
    rintro s ⟨⟩
    exact admissible.name
  simp only [fieldsOf, List.forall_mem_cons]
  exact ⟨text (by decide) named, text le_rfl admissible.listenPath,
    text le_rfl admissible.connectPath, text (by decide) admissible.rdmaDevice,
    fixed (by decide) length_encodeSockaddrIn6 _, fixed (by decide) length_encodeSockaddrIn6 _,
    fixed (by decide) (fun _ => length_putLe 4 _) _,
    fixed (by decide) (fun _ => length_putLe 4 _) _,
    fixed (by decide) (fun _ => length_putLe 4 _) _, text (by decide) admissible.password,
    fixed (n := 1) (by decide) (fun _ => rfl) _, fixed (n := 1) (by decide) (fun _ => rfl) _,
    by simp⟩

theorem types_fieldsOf (args : AddArgs) :
    (fieldsOf args).map Prod.fst = [1, 2, 3, 4, 5, 6, 7, 8, 9, 10, 15, 16] := rfl

theorem small_types : ∀ t ∈ [1, 2, 3, 4, 5, 6, 7, 8, 9, 10, 15, 16], t < 2 ^ 14 := by decide

theorem mem_sent {a : Attr} (member : a ∈ sent fields) : (a.type, some a.payload) ∈ fields := by
  obtain ⟨⟨type, payload⟩, field, found⟩ := List.mem_flatMap.mp member
  cases payload with
  | none => simp at found
  | some p =>
    obtain rfl : a = ⟨type, p⟩ := by simpa using found
    exact field

theorem length_encode_sent (short : ∀ f ∈ fields, ∀ p ∈ f.2, p.length ≤ pathMaxLen) :
    (encode (sent fields)).length ≤ 112 * fields.length := by
  induction fields with
  | nil => simp [sent]
  | cons f fields ih =>
    obtain ⟨type, payload⟩ := f
    have rest := ih fun g member => short g (List.mem_cons_of_mem _ member)
    have split : sent ((type, payload) :: fields) =
        (payload.map (Attr.mk type)).toList ++ sent fields := rfl
    rw [split, encode_append, List.length_append, List.length_cons]
    cases payload with
    | none =>
      simp only [Option.map_none, Option.toList_none, encode_nil, List.length_nil]
      omega
    | some p =>
      have bound := short _ List.mem_cons_self p rfl
      simp only [Option.map_some, Option.toList_some, encode_cons, encode_nil, List.append_nil,
        Attr.length_bytes, Attr.size, align4, hdrLen, pathMaxLen] at bound ⊢
      omega

theorem fits_sent (admissible : args.Admissible) :
    ∀ a ∈ sent (fieldsOf args), a.Fits ∧ a.type < 2 ^ 14 := by
  intro a member
  have field := mem_sent member
  have short := payload_short admissible _ field a.payload rfl
  have type : a.type ∈ (fieldsOf args).map Prod.fst := List.mem_map_of_mem field
  have small : a.type < 2 ^ 14 := small_types a.type type
  refine ⟨⟨?_, by omega⟩, small⟩
  simp only [Attr.size, hdrLen, pathMaxLen] at short ⊢
  omega

def requestAttr (args : AddArgs) : Attr := ⟨nestType attrEndpoint, encode (sent (fieldsOf args))⟩

theorem kind_requestAttr (args : AddArgs) : (requestAttr args).kind = attrEndpoint := by
  simp [requestAttr, Attr.kind, nestType, nestedFlag, attrEndpoint]

theorem walk_buildPayload (admissible : args.Admissible) :
    walk (buildPayload args) = ([requestAttr args], []) := by
  have built : buildPayload args = encode [requestAttr args] := by
    rw [buildPayload, AttrBuf.nest, endpointAttrs_eq, AttrBuf.putBytes_eq _ _ rfl]
    simp [requestAttr]
  have most := length_encode_sent (payload_short admissible)
  have fields : (fieldsOf args).length = 12 := rfl
  rw [built, walk_encode]
  intro a member
  obtain rfl := List.mem_singleton.mp member
  have type : nestType attrEndpoint < 2 ^ 16 := by decide
  refine ⟨?_, type⟩
  simp only [requestAttr, Attr.size, hdrLen]
  omega

theorem lookup_sent_absent (small : ∀ f ∈ fields, f.1 < 2 ^ 14)
    (absent : type ∉ fields.map Prod.fst) : lookup (sent fields) type = none := by
  refine lookup_eq_none fun a member => ?_
  have field := mem_sent member
  rw [Attr.kind, Nat.mod_eq_of_lt (small _ field)]
  rintro rfl
  exact absent (List.mem_map_of_mem field)

variable {payload : Option (List UInt8)}

theorem lookup_sent (distinct : (fields.map Prod.fst).Nodup) (small : ∀ f ∈ fields, f.1 < 2 ^ 14)
    (member : (type, payload) ∈ fields) :
    lookup (sent fields) type = payload.map (Attr.mk type) := by
  induction fields with
  | nil => cases member
  | cons f fields ih =>
    obtain ⟨type', payload'⟩ := f
    have split : sent ((type', payload') :: fields) = sent [(type', payload')] ++ sent fields := by
      simp [sent]
    rw [List.map_cons, List.nodup_cons] at distinct
    obtain ⟨first, rest⟩ := List.forall_mem_cons.mp small
    rw [split, lookup_append]
    rcases List.mem_cons.mp member with same | later
    · cases same
      rw [lookup_sent_absent rest distinct.1, Option.none_or]
      cases payload with
      | none => rfl
      | some p =>
        have kind : (⟨type, p⟩ : Attr).kind = type := Nat.mod_eq_of_lt first
        simp [sent, lookup, kind]
    · have other : type ≠ type' := by
        rintro rfl
        exact distinct.1 (List.mem_map.mpr ⟨_, later, rfl⟩)
      rw [ih distinct.2 rest later, lookup_sent_absent (by simpa using first)
        (by simpa using other), Option.or_none]

theorem lookup_request (member : (type, payload) ∈ fieldsOf args) :
    lookup (sent (fieldsOf args)) type = payload.map (Attr.mk type) := by
  refine lookup_sent (by rw [types_fieldsOf]; decide) (fun f found => ?_) member
  exact small_types f.1 (by rw [← types_fieldsOf args]; exact List.mem_map_of_mem found)

/-! ## Strings in their buffers -/

theorem nlaStrscpy_terminated {size : Nat} {s : String} (held : Held size s) :
    nlaStrscpy size (terminated s) = utf8 s ++ List.replicate (size - (utf8 s).length) 0 := by
  have short := held.short
  have kept : (utf8 s).take (size - 1) = utf8 s := List.take_of_length_le (by omega)
  simp [nlaStrscpy, terminated, kept]

theorem cstr_padded {s : List UInt8} (plain : 0 ∉ s) {n : Nat} (room : 0 < n) :
    cstr (s ++ List.replicate n 0) = s := by
  obtain ⟨n, rfl⟩ := Nat.exists_eq_succ_of_ne_zero (Nat.ne_of_gt room)
  rw [List.replicate_succ, cstr_append plain]

theorem cstr_zeros (n : Nat) : cstr (List.replicate n 0) = [] := by
  cases n with
  | zero | succ n => rfl

theorem isSet_eq (field : List UInt8) : isSet field = !(cstr field).isEmpty := by
  cases field with
  | nil => rfl
  | cons b field =>
    by_cases zero : b = 0
    · simp [isSet, cstr, zero]
    · simp [isSet, cstr, zero]

theorem utf8_eq_nil {s : String} : utf8 s = [] ↔ s = "" := by
  constructor
  · intro empty
    have same : some s = some "" := by
      rw [← fromUtf8_utf8 s, empty]
      rfl
    exact Option.some.inj same
  · rintro rfl
    rfl

variable {attr : EndpointAttr}

theorem cstr_readString {tb : Nat → Option Attr} {size : Nat}
    {o : Option String} (found : tb attr.code = (o.map terminated).map (Attr.mk attr.code))
    (held : ∀ s ∈ o, Held size s) : cstr (readString tb attr size) = utf8 (o.getD "") := by
  cases o with
  | none =>
    simp only [Option.map_none] at found
    simp only [readString, found, Option.getD_none, cstr_zeros]
    rfl
  | some s =>
    simp only [Option.map_some] at found
    have held := held s rfl
    simp only [readString, found, Option.getD_some, nlaStrscpy_terminated held]
    exact cstr_padded held.plain (by have short := held.short; omega)

theorem mapError_eq_ok {ε ε' α : Type} {f : ε → ε'} {x : Except ε α} {a : α}
    (mapped : x.mapError f = .ok a) : x = .ok a := by
  cases x with
  | error e => cases mapped
  | ok b =>
    cases mapped
    rfl

section Accepted

variable {sha256 : List UInt8 → Vector UInt8 pskHashLen} {fastEnabled : Bool} {advertise : Nat}
  {environment : Except Errno Unit} {args : AddArgs} {r : Record}

def requested (args : AddArgs) : NewConfig := readConfig (lookup (sent (fieldsOf args)))

theorem accepted (admissible : args.Admissible)
    (made : newEndpoint sha256 fastEnabled advertise environment (buildPayload args) = .ok r) :
    (∀ a ∈ sent (fieldsOf args), (endpointPolicy a.kind).validate a = .ok ()) ∧
      ∃ ep, create sha256 fastEnabled advertise (requested args).toConfig = .ok ep ∧
        r = .make (requested args) ep := by
  obtain ⟨attrs, parsed, made⟩ := bind_eq_ok made
  obtain ⟨-, rfl⟩ := parse_ok (mapError_eq_ok parsed)
  rw [walk_buildPayload admissible] at made
  have outer : lookup [requestAttr args] attrEndpoint = some (requestAttr args) := by
    simp [lookup, kind_requestAttr]
  simp only [outer] at made
  obtain ⟨tb, nested, made⟩ := bind_eq_ok made
  have inner := mapError_eq_ok nested
  have found : walk (requestAttr args).payload = (sent (fieldsOf args), []) :=
    walk_encode fun a member => (fits_sent admissible a member).1
  obtain ⟨checked, rfl⟩ := parse_ok inner
  rw [found] at checked made
  split_ifs at made with unnamed
  · cases made
  · obtain ⟨ep, created, made⟩ := bind_eq_ok made
    obtain ⟨_, -, made⟩ := bind_eq_ok made
    exact ⟨checked, ep, mapError_eq_ok created, (Except.ok.inj made).symm⟩

structure Made (args : AddArgs) (r : Record) : Prop where
  named : args.name ≠ ""
  name : cstr r.name = utf8 args.name
  listenPath : cstr r.listenPath = utf8 (args.listenPath.getD "")
  connectPath : cstr r.connectPath = utf8 (args.connectPath.getD "")
  rdmaDevice : cstr r.rdmaDevice = utf8 (args.rdmaDevice.getD "")
  hasPeerAddr : r.hasPeerAddr = args.peer.isSome
  peerAddr : ∀ a ∈ args.peer, r.peerAddr = encodeSockaddrIn6 a
  hasBindAddr : r.hasBindAddr = args.bind.isSome
  bindAddr : ∀ a ∈ args.bind, r.bindAddr = encodeSockaddrIn6 a
  numQps : r.numQps = args.numQps.getD 1
  bufferCount : r.bufferCount = args.bufferCount.getD 1024
  bufferSize : r.bufferSize = args.bufferSize.getD 4096

theorem readAddr_eq {tb : Nat → Option Attr} {o : Option SocketAddr}
    (found : tb attr.code = (o.map encodeSockaddrIn6).map (Attr.mk attr.code)) :
    ∀ a ∈ o, readAddr tb attr = encodeSockaddrIn6 a := by
  rintro a rfl
  simp only [readAddr, found]
  exact List.take_of_length_le (length_encodeSockaddrIn6 a).le

theorem readU32_eq {tb : Nat → Option Attr} {o : Option UInt32}
    (found : tb attr.code = (o.map fun v => putLe 4 v.toNat).map (Attr.mk attr.code)) :
    readU32 tb attr = o.map UInt32.toNat := by
  cases o with
  | none =>
    simp [readU32, found]
  | some v =>
    simp only [readU32, found, Option.map_some]
    rw [List.take_of_length_le (by simp), getLe_putLe_of_lt (by simpa using v.toNat_lt)]

theorem numQps_admitted
    (checked : ∀ a ∈ sent (fieldsOf args), (endpointPolicy a.kind).validate a = .ok ())
    {v : UInt32} (given : args.numQps = some v) : 1 ≤ v.toNat ∧ v.toNat ≤ numQpsMax := by
  let a : Attr := ⟨EndpointAttr.numQps.code, putLe 4 v.toNat⟩
  have member : a ∈ sent (fieldsOf args) := by
    refine List.mem_flatMap.mpr ⟨(EndpointAttr.numQps.code, some (putLe 4 v.toNat)), ?_, ?_⟩
    · simp [fieldsOf, given]
    · simp [a]
  have policy : endpointPolicy a.kind = .u32 1 numQpsMax := rfl
  have valid := checked a member
  rw [policy] at valid
  simp only [Policy.validate, inRange] at valid
  split_ifs at valid with malformed range
  have read : getLe (putLe 4 v.toNat) = v.toNat := getLe_putLe_of_lt (by simpa using v.toNat_lt)
  simpa [a, read] using range

theorem create_named {cfg : Config} {ep : Control.Endpoint}
    (created : create sha256 fastEnabled advertise cfg = .ok ep) : isSet cfg.name = true := by
  unfold create at created
  dsimp only at created
  split_ifs at created with unnamed
  simpa using unnamed

theorem made_of_accepted (admissible : args.Admissible)
    (made : newEndpoint sha256 fastEnabled advertise environment (buildPayload args) = .ok r) :
    Made args r := by
  obtain ⟨checked, ep, created, rfl⟩ := accepted admissible made
  have named := create_named created
  obtain rfl := create_ok created
  have found (attr : EndpointAttr) (payload : Option (List UInt8)) (member : (attr.code,
      payload) ∈ fieldsOf args) : lookup (sent (fieldsOf args)) attr.code = payload.map
      (Attr.mk attr.code) := lookup_request member
  have word (attr : EndpointAttr) (o : Option UInt32) (member : (attr.code,
      o.map fun v => putLe 4 v.toNat) ∈ fieldsOf args) : readU32 (lookup (sent (fieldsOf args)))
      attr = o.map UInt32.toNat := readU32_eq (found attr _ member)
  have name : cstr (requested args).name = utf8 args.name :=
    cstr_readString (o := some args.name) (found .name _ (by simp [fieldsOf]))
      (by rintro s ⟨⟩; exact admissible.name)
  refine {
    named := ?_
    name := name
    listenPath := cstr_readString (found .listenPath _ (by simp [fieldsOf])) admissible.listenPath
    connectPath :=
      cstr_readString (found .connectPath _ (by simp [fieldsOf])) admissible.connectPath
    rdmaDevice := cstr_readString (found .rdmaDevice _ (by simp [fieldsOf])) admissible.rdmaDevice
    hasPeerAddr := ?_
    peerAddr := readAddr_eq (found .peerAddr _ (by simp [fieldsOf]))
    hasBindAddr := ?_
    bindAddr := readAddr_eq (found .bindAddr _ (by simp [fieldsOf]))
    numQps := ?_
    bufferCount := ?_
    bufferSize := ?_ }
  · rintro empty
    rw [isSet_eq, name, empty] at named
    cases named
  · change (lookup _ EndpointAttr.peerAddr.code).isSome = _
    rw [found .peerAddr (args.peer.map encodeSockaddrIn6) (by simp [fieldsOf])]
    simp
  · change (lookup _ EndpointAttr.bindAddr.code).isSome = _
    rw [found .bindAddr (args.bind.map encodeSockaddrIn6) (by simp [fieldsOf])]
    simp
  · change UInt32.ofNat (((readU32 _ .numQps).bind numQpsOf).getD ⟨1, by decide⟩).1 = _
    rw [word .numQps args.numQps (by simp [fieldsOf])]
    cases given : args.numQps with
    | none => rfl
    | some v => simp [numQpsOf, numQps_admitted checked given]
  · change UInt32.ofNat ((readU32 _ .bufferCount).getD 1024) = _
    rw [word .bufferCount args.bufferCount (by simp [fieldsOf])]
    cases args.bufferCount with
    | none => rfl
    | some v => simp
  · change UInt32.ofNat ((readU32 _ .bufferSize).getD 4096) = _
    rw [word .bufferSize args.bufferSize (by simp [fieldsOf])]
    cases args.bufferSize with
    | none => rfl
    | some v => simp

end Accepted

end Urp.Genl
