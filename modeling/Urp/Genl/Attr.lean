import Urp.Lib.Nla

/-!
# The attributes of the control tool
-/

namespace Urp.Genl

open Urp.Lib Urp.Lib.Nla List

def nameMax : Nat := 16

def pathMaxLen : Nat := 108

def deviceMax : Nat := 64

def bufferCountMin : Nat := 16

def bufferCountMax : Nat := 65536

def genlVersion : UInt8 := 1

def genlHdrLen : Nat := 4

/-- `enum urp_attr` -/
def attrEndpoint : Nat := 1

inductive EndpointAttr where
  | name | listenPath | connectPath | rdmaDevice | peerAddr | bindAddr | numQps | bufferCount
  | bufferSize | password | state | qps | streams | stats | mode | kind | interarrival | owd

def EndpointAttr.code : EndpointAttr → Nat
  | .name => 1
  | .listenPath => 2
  | .connectPath => 3
  | .rdmaDevice => 4
  | .peerAddr => 5
  | .bindAddr => 6
  | .numQps => 7
  | .bufferCount => 8
  | .bufferSize => 9
  | .password => 10
  | .state => 11
  | .qps => 12
  | .streams => 13
  | .stats => 14
  | .mode => 15
  | .kind => 16
  | .interarrival => 17
  | .owd => 18

def endpointAttrMax : Nat := 18

inductive QpAttr where
  | index | state | rttNs | txBytes | rxBytes | txFrames | rxFrames

def QpAttr.code : QpAttr → Nat
  | .index => 1
  | .state => 2
  | .rttNs => 3
  | .txBytes => 4
  | .rxBytes => 5
  | .txFrames => 6
  | .rxFrames => 7

inductive StreamAttr where
  | id | state | txBytes | rxBytes | reorderDepth | creditsLocal | creditsRemote

def StreamAttr.code : StreamAttr → Nat
  | .id => 1
  | .state => 2
  | .txBytes => 3
  | .rxBytes => 4
  | .reorderDepth => 5
  | .creditsLocal => 6
  | .creditsRemote => 7

inductive StatsAttr where
  | activeStreams | txBytes | rxBytes | txFrames | rxFrames | creditStalls | reorderInsertions
  | reorderDrops | bufferAllocFails | authFailures

def StatsAttr.code : StatsAttr → Nat
  | .activeStreams => 1
  | .txBytes => 2
  | .rxBytes => 3
  | .txFrames => 4
  | .rxFrames => 5
  | .creditStalls => 6
  | .reorderInsertions => 7
  | .reorderDrops => 8
  | .bufferAllocFails => 9
  | .authFailures => 10

inductive HistAttr where
  | stride | buckets | sumNs | count

def HistAttr.code : HistAttr → Nat
  | .stride => 1
  | .buckets => 2
  | .sumNs => 3
  | .count => 4

inductive OwdAttr where
  | hist | clockOffsetNs | anomalies

def OwdAttr.code : OwdAttr → Nat
  | .hist => 1
  | .clockOffsetNs => 2
  | .anomalies => 3

def histNbuckets : Nat := 15

def owdNbuckets : Nat := 14

/-! ## Strings -/

def utf8 (s : String) : List UInt8 := s.toByteArray.data.toList

def fromUtf8 (bytes : List UInt8) : Option String := String.fromUTF8? ⟨bytes.toArray⟩

theorem fromUtf8_utf8 (s : String) : fromUtf8 (utf8 s) = some s := by
  have same : (⟨(utf8 s).toArray⟩ : ByteArray) = s.toByteArray := by simp [utf8]
  simp only [fromUtf8, same, String.fromUTF8?, s.isValidUTF8, dif_pos]
  rfl

def cstr (bytes : List UInt8) : List UInt8 := bytes.takeWhile (· ≠ 0)

theorem cstr_append {s : List UInt8} (plain : 0 ∉ s) (rest : List UInt8) :
    cstr (s ++ 0 :: rest) = s := by
  induction s with
  | nil => simp [cstr]
  | cons b s ih =>
    simp only [mem_cons, not_or] at plain
    simpa [cstr, Ne.symm plain.1] using ih plain.2

/-! ## `AttrBuf` -/

abbrev AttrBuf := List UInt8

namespace AttrBuf

def putHeader (buf : AttrBuf) (type payloadLen : Nat) : AttrBuf :=
  buf ++ (putLe 2 (hdrLen + payloadLen) ++ putLe 2 type)

def pad (buf : AttrBuf) : AttrBuf := buf ++ List.replicate (align4 buf.length - buf.length) 0

def putBytes (type : Nat) (data : List UInt8) (buf : AttrBuf) : AttrBuf :=
  pad (putHeader buf type data.length ++ data)

def putString (type : Nat) (s : String) : AttrBuf → AttrBuf := putBytes type (utf8 s ++ [0])

def putU8 (type : Nat) (v : UInt8) : AttrBuf → AttrBuf := putBytes type [v]

def putU16 (type : Nat) (v : UInt16) : AttrBuf → AttrBuf := putBytes type (putLe 2 v.toNat)

def putU32 (type : Nat) (v : UInt32) : AttrBuf → AttrBuf := putBytes type (putLe 4 v.toNat)

def putU64 (type : Nat) (v : UInt64) : AttrBuf → AttrBuf := putBytes type (putLe 8 v.toNat)

def nest (type : Nat) (contents : AttrBuf → AttrBuf) : AttrBuf → AttrBuf :=
  putBytes (nestType type) (contents [])

theorem putBytes_eq (type : Nat) (data : List UInt8) {buf : AttrBuf}
    (aligned : buf.length % 4 = 0) :
    putBytes type data buf = buf ++ (⟨type, data⟩ : Attr).bytes := by
  have padding : align4 (putHeader buf type data.length ++ data).length -
      (putHeader buf type data.length ++ data).length =
        align4 (hdrLen + data.length) - (hdrLen + data.length) := by
    simp only [putHeader, length_append, length_putLe, align4, hdrLen]
    omega
  rw [putBytes, pad, padding]
  simp [putHeader, Attr.bytes, Attr.header, Attr.size]

end AttrBuf

/-! ## `AttrIter` -/

def unflag (a : Attr) : Attr := { a with type := a.type % nestedFlag }

def attrIter (buf : List UInt8) : List Attr := (walk buf).1.map unflag

theorem attrIter_encode {attrs : List Attr} (fits : ∀ a ∈ attrs, a.Fits) :
    attrIter (encode attrs) = attrs.map unflag := by
  rw [attrIter, walk_encode fits]

def payloadU8 (p : List UInt8) : Option UInt8 := p.head?

def payloadU16 (p : List UInt8) : Option UInt16 :=
  if 2 ≤ p.length then some (UInt16.ofNat (getLe (p.take 2))) else none

def payloadU32 (p : List UInt8) : Option UInt32 :=
  if 4 ≤ p.length then some (UInt32.ofNat (getLe (p.take 4))) else none

def payloadU64 (p : List UInt8) : Option UInt64 :=
  if 8 ≤ p.length then some (UInt64.ofNat (getLe (p.take 8))) else none

def payloadStr (p : List UInt8) : Option String := fromUtf8 (cstr p)

@[simp] theorem payloadU16_putLe (v : UInt16) : payloadU16 (putLe 2 v.toNat) = some v := by
  rw [payloadU16, if_pos (by simp), take_of_length_le (by simp),
    getLe_putLe_of_lt (by simpa using v.toNat_lt), UInt16.ofNat_toNat]

@[simp] theorem payloadU32_putLe (v : UInt32) : payloadU32 (putLe 4 v.toNat) = some v := by
  rw [payloadU32, if_pos (by simp), take_of_length_le (by simp),
    getLe_putLe_of_lt (by simpa using v.toNat_lt), UInt32.ofNat_toNat]

@[simp] theorem payloadU64_putLe (v : UInt64) : payloadU64 (putLe 8 v.toNat) = some v := by
  rw [payloadU64, if_pos (by simp), take_of_length_le (by simp),
    getLe_putLe_of_lt (by simpa using v.toNat_lt), UInt64.ofNat_toNat]

theorem payloadStr_utf8 {s : String} (plain : 0 ∉ utf8 s) :
    payloadStr (utf8 s ++ [0]) = some s := by
  rw [payloadStr, cstr_append plain, fromUtf8_utf8]

/-! ## What the tool reads of what was written -/

section Reads

variable {σ : Type} {set : σ → Attr → σ} {f g : σ → σ} {w : Writer} {ws : List Writer}
  {misplaced : Nat → Bool} {type : Nat}

/-- Reading what a writer appends changes a record by `f`. -/
def Reads (set : σ → Attr → σ) (w : Writer) (f : σ → σ) : Prop :=
  Writes w fun l => ∀ x, (l.map unflag).foldl set x = f x

theorem Reads.congr (reads : Reads set w f) (same : ∀ x, f x = g x) : Reads set w g :=
  Writes.mono reads fun _ held x => (held x).trans (same x)

theorem reads_nil : Reads set (seq []) id :=
  writes_nil.mono (by rintro l rfl x; rfl)

theorem Reads.cons (first : Reads set w f) (rest : Reads set (seq ws) g) :
    Reads set (seq (w :: ws)) (g ∘ f) := by
  refine (Writes.cons first rest).mono ?_
  rintro l ⟨l₁, l₂, rfl, held₁, held₂⟩ x
  rw [map_append, foldl_append, held₁, held₂]
  rfl

theorem unflag_of_lt {p : List UInt8} (small : type < nestedFlag) :
    unflag ⟨type, p⟩ = ⟨type, p⟩ := by
  rw [unflag, Nat.mod_eq_of_lt small]

theorem reads_put {payload : List UInt8} (small : type < nestedFlag) :
    Reads set (put type payload) fun x => set x ⟨type, payload⟩ := by
  refine (writes_put (Nat.lt_trans small (by decide)) payload).mono ?_
  rintro l rfl x
  simp [unflag_of_lt small]

theorem reads_putU64 {v : UInt64} (ignores : ∀ x, set x ⟨0, []⟩ = x) (small : type < nestedFlag) :
    Reads set (putU64 misplaced type v) fun x => set x ⟨type, putLe 8 v.toNat⟩ := by
  refine (writes_putU64 (Nat.lt_trans small (by decide)) v).mono ?_
  rintro l (rfl | rfl) x
  · simp [unflag_of_lt small]
  · have padding : unflag ⟨0, []⟩ = ⟨0, []⟩ := unflag_of_lt (by decide)
    simp [unflag_of_lt small, padding, ignores]

theorem reads_whenever {c : Bool} (reads : Reads set w f) :
    Reads set (whenever c w) fun x => if c then f x else x := by
  cases c with
  | true => exact reads
  | false => exact reads_nil

theorem reads_optional {payload : List UInt8} {c : Bool} (small : type < nestedFlag)
    (u : Bool → σ → σ) (absent : ∀ x, u false x = x)
    (present : ∀ x, u true x = set x ⟨type, payload⟩) :
    Reads set (whenever c (put type payload)) (u c) := by
  refine (reads_whenever (reads_put small)).congr fun x => ?_
  cases c with
  | true => exact (present x).symm
  | false => exact (absent x).symm

theorem unflag_nest (small : type < nestedFlag) (p : List UInt8) :
    unflag ⟨nestType type, p⟩ = ⟨type, p⟩ := by
  simp only [unflag, nestType, Nat.add_mod_right, Nat.mod_eq_of_lt small]

theorem reads_nest {R : List Attr → Prop} (small : type < nestedFlag) (writes : Writes w R)
    (sets : ∀ inner, (∀ a ∈ inner, a.Fits) → R inner → ∀ x, set x ⟨type, encode inner⟩ = f x) :
    Reads set (nest type w) f := by
  refine (writes.nest type).mono ?_
  rintro l ⟨inner, rfl, fits, held⟩ x
  simp [unflag_nest small, sets inner fits held]

end Reads

end Urp.Genl
