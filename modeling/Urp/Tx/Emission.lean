import Urp.Protocol.Header
import Urp.Rx.Recv
import Urp.Tx.Pump

/-!
# The frames that leave the kernel module
-/

namespace Urp.Tx

open Urp.Lib Urp.Frame Urp.Protocol Urp.Rx

def pingEncode (probeSeq qpIndex tSendMono tSendReal : Nat) : List UInt8 :=
  putLe 4 probeSeq ++ putLe 2 qpIndex ++ [0, 0] ++ putLe 8 tSendMono ++ putLe 8 tSendReal ++
    putLe 8 0

def pongEncode (ping : Nat → UInt8) (tRecvReal tPongMono tPongReal : Nat) : List UInt8 :=
  window ping 0 24 ++ putLe 8 tRecvReal ++ putLe 8 tPongMono ++ putLe 8 tPongReal

inductive Emission where
  | legacy (seq : UInt64) (r : Reading)
  | stream (id : UInt32) (seq : UInt64) (sendSyn : Bool) (r : Reading)
  | fast (id : UInt32) (seq : UInt64) (fin : Bool) (payload : List UInt8)
  | ping (probeSeq : UInt32) (qpIndex : UInt16) (nowMono nowReal : UInt64)
  | pong (received : Nat → UInt8) (nowReal nowMono : UInt64)
  | credit (id : UInt32) (grants : UInt16)
  | creditBytes (id : UInt32) (cumulativeBytes : UInt64)

namespace Emission

def wire (g : Geometry) : Emission → List UInt8
  | .legacy seq r => frameWire g 0 seq.toNat false r
  | .stream id seq sendSyn r => frameWire g id.toNat seq.toNat sendSyn r
  | .fast id seq fin payload => fastWire id.toNat seq.toNat fin payload
  | .ping probeSeq qpIndex nowMono nowReal =>
    encode 0 probeSeq.toNat typeProbe 0 0 pingPayloadSize ++
      pingEncode probeSeq.toNat qpIndex.toNat nowMono.toNat nowReal.toNat
  | .pong received nowReal nowMono =>
    encode 0 0 typeProbe probeFlagPong 0 pongPayloadSize ++
      pongEncode received nowReal.toNat nowMono.toNat nowReal.toNat
  | .credit id grants => creditFrame id.toNat grants.toNat
  | .creditBytes id cumulativeBytes => creditBytesFrame id.toNat cumulativeBytes.toNat

def Fits (g : Geometry) : Emission → Prop
  | .legacy _ r => r.data.length ≤ epTxMaxPayload g.bufSize
  | .stream _ _ _ r => r.data.length ≤ epTxMaxPayload g.bufSize
  | .fast _ _ _ payload => payload.length < 2 ^ 32
  | _ => True

def header (g : Geometry) : Emission → FrameHeader
  | .legacy seq r =>
    ⟨0, seq.toNat, typeData, frameFlags g r seq.toNat false, 0, r.data.length⟩
  | .stream id seq sendSyn r =>
    ⟨id.toNat, seq.toNat, typeData, frameFlags g r seq.toNat sendSyn, 0, r.data.length⟩
  | .fast id seq fin payload =>
    ⟨id.toNat, seq.toNat, typeData, fastFlags seq.toNat fin, 0, payload.length⟩
  | .ping probeSeq _ _ _ => ⟨0, probeSeq.toNat, typeProbe, 0, 0, pingPayloadSize⟩
  | .pong _ _ _ => ⟨0, 0, typeProbe, probeFlagPong, 0, pongPayloadSize⟩
  | .credit id grants => ⟨id.toNat, 0, typeControl, ctrlFlagCredit, grants.toNat, 0⟩
  | .creditBytes id _ => ⟨id.toNat, 0, typeControl, ctrlFlagCreditBytes, 0, creditBytesPayloadSize⟩

def Stamped (g : Geometry) : Emission → Prop
  | .legacy seq r => Sampled g r seq.toNat
  | .stream _ seq _ r => Sampled g r seq.toNat
  | _ => False

def PayloadDecodes (bytes : List UInt8) : Emission → Prop
  | .ping probeSeq qpIndex nowMono nowReal =>
    PingPayload.decode (bytes.drop headerSize) =
      .ok ⟨probeSeq.toNat, qpIndex.toNat, 0, 0, nowMono.toNat, nowReal.toNat, 0⟩
  | .pong received nowReal nowMono =>
    PongPayload.decode (bytes.drop headerSize) =
      .ok ⟨getLe (window received 0 4), getLe (window received 4 2), received 6, received 7,
        getLe (window received 8 8), getLe (window received 16 8), nowReal.toNat, nowMono.toNat,
        nowReal.toNat⟩
  | .creditBytes _ cumulativeBytes =>
    CreditBytesPayload.decode (bytes.drop headerSize) = .ok ⟨cumulativeBytes.toNat⟩
  | _ => True

theorem decode_wire (g : Geometry) (e : Emission) (fits : e.Fits g) :
    FrameHeader.decode (e.wire g) = .ok (e.header g) := by
  have short : ∀ {n : Nat}, n ≤ epTxMaxPayload g.bufSize → n < 2 ^ 32 := by
    intro n le
    have most := g.size_max
    unfold epTxMaxPayload epMaxPayload at le
    unfold bufferSizeMax at most
    omega
  have data : typeData ≤ typeProbe := by decide
  have control : typeControl ≤ typeProbe := by decide
  cases e with
  | legacy seq r =>
    rw [wire, frameWire_eq 0 seq.toNat false fits]
    exact decode_encode 0 seq typeData _ 0 _ _ data (short fits)
  | stream id seq sendSyn r =>
    rw [wire, frameWire_eq id.toNat seq.toNat sendSyn fits]
    exact decode_encode id seq typeData _ 0 _ _ data (short fits)
  | fast id seq fin payload => exact decode_encode id seq typeData _ 0 _ _ data fits
  | ping probeSeq qpIndex nowMono nowReal =>
    have number : probeSeq.toUInt64.toNat = probeSeq.toNat := UInt32.toNat_toUInt64 probeSeq
    rw [wire, header, ← number]
    exact decode_encode 0 probeSeq.toUInt64 typeProbe 0 0 pingPayloadSize _ (UInt8.le_refl _)
      (by decide)
  | pong received nowReal nowMono =>
    exact decode_encode 0 0 typeProbe probeFlagPong 0 pongPayloadSize _ (UInt8.le_refl _)
      (by decide)
  | credit id grants =>
    have decoded := decode_encode id 0 typeControl ctrlFlagCredit grants 0 [] control (by decide)
    rwa [List.append_nil] at decoded
  | creditBytes id cumulativeBytes =>
    exact decode_encode id 0 typeControl ctrlFlagCreditBytes 0 creditBytesPayloadSize _ control
      (by decide)

theorem length_frameWire {g : Geometry} {r : Reading} (id seq : Nat) (sendSyn : Bool)
    (fits : r.data.length ≤ epTxMaxPayload g.bufSize) :
    (frameWire g id seq sendSyn r).length =
      headerSize + (r.data.length + if Sampled g r seq then tstampTrailerLen else 0) := by
  have trailing : (trailer g r seq).length = if Sampled g r seq then tstampTrailerLen else 0 := by
    unfold trailer
    split
    · exact length_putLe 8 _
    · rfl
  rw [frameWire_eq id seq sendSyn fits, List.length_append, List.length_append, length_encode,
    trailing]

theorem frameFlags_valid_iff (g : Geometry) (r : Reading) (seq : Nat) (sendSyn : Bool) :
    frameFlags g r seq sendSyn &&& ~~~dataFlagsValid = 0 ↔ ¬ Sampled g r seq := by
  unfold frameFlags
  by_cases sampled : Sampled g r seq
  · rw [if_pos sampled]
    refine iff_of_false ?_ (not_not.mpr sampled)
    cases sendSyn <;> decide
  · rw [if_neg sampled]
    refine iff_of_true ?_ sampled
    cases sendSyn <;> decide

theorem fastFlags_valid (seq : Nat) (fin : Bool) :
    fastFlags seq fin &&& ~~~dataFlagsValid = 0 := by
  unfold fastFlags
  split <;> cases fin <;> decide

theorem validateFlags_header_iff (g : Geometry) (e : Emission) :
    (e.header g).validateFlags = .ok () ↔ ¬ e.Stamped g := by
  cases e with
  | legacy seq r =>
    exact (FrameHeader.validateFlags_iff rfl).trans (frameFlags_valid_iff g r seq.toNat false)
  | stream id seq sendSyn r =>
    exact (FrameHeader.validateFlags_iff rfl).trans (frameFlags_valid_iff g r seq.toNat sendSyn)
  | fast id seq fin payload =>
    exact iff_of_true ((FrameHeader.validateFlags_iff rfl).mpr (fastFlags_valid _ fin)) not_false
  | ping =>
    have valid : (0 : UInt8) &&& ~~~probeFlagsValid = 0 := by decide
    exact iff_of_true ((FrameHeader.validateFlags_iff rfl).mpr valid) not_false
  | pong =>
    have valid : probeFlagPong &&& ~~~probeFlagsValid = 0 := by decide
    exact iff_of_true ((FrameHeader.validateFlags_iff rfl).mpr valid) not_false
  | credit =>
    have valid : ctrlFlagCredit &&& ~~~ctrlFlagsValid = 0 := by decide
    exact iff_of_true ((FrameHeader.validateFlags_iff rfl).mpr valid) not_false
  | creditBytes =>
    have valid : ctrlFlagCreditBytes &&& ~~~ctrlFlagsValid = 0 := by decide
    exact iff_of_true ((FrameHeader.validateFlags_iff rfl).mpr valid) not_false

theorem decode_pingEncode (probeSeq : UInt32) (qpIndex : UInt16) (nowMono nowReal : UInt64) :
    PingPayload.decode (pingEncode probeSeq.toNat qpIndex.toNat nowMono.toNat nowReal.toNat) =
      .ok ⟨probeSeq.toNat, qpIndex.toNat, 0, 0, nowMono.toNat, nowReal.toNat, 0⟩ := by
  set payload := pingEncode probeSeq.toNat qpIndex.toNat nowMono.toNat nowReal.toNat
  have length : payload.length = pingPayloadSize := rfl
  have number : word payload 0 4 = probeSeq.toNat := word_eq rfl probeSeq.toNat_lt
  have index : word payload 4 2 = qpIndex.toNat := word_eq rfl qpIndex.toNat_lt
  have mono : word payload 8 8 = nowMono.toNat := word_eq rfl nowMono.toNat_lt
  have real : word payload 16 8 = nowReal.toNat := word_eq rfl nowReal.toNat_lt
  have padding : word payload 24 8 = 0 := word_eq rfl (by decide)
  rw [PingPayload.decode, if_neg (Nat.not_lt.mpr length.ge), number, index, mono, real, padding]
  rfl

theorem decode_pongEncode (received : Nat → UInt8) (recvReal pongMono pongReal : UInt64) :
    PongPayload.decode (pongEncode received recvReal.toNat pongMono.toNat pongReal.toNat) =
      .ok ⟨getLe (window received 0 4), getLe (window received 4 2), received 6, received 7,
        getLe (window received 8 8), getLe (window received 16 8), recvReal.toNat, pongMono.toNat,
        pongReal.toNat⟩ := by
  set payload := pongEncode received recvReal.toNat pongMono.toNat pongReal.toNat
  have length : payload.length = pongPayloadSize := rfl
  have recv : word payload 24 8 = recvReal.toNat := word_eq rfl recvReal.toNat_lt
  have mono : word payload 32 8 = pongMono.toNat := word_eq rfl pongMono.toNat_lt
  have real : word payload 40 8 = pongReal.toNat := word_eq rfl pongReal.toNat_lt
  rw [PongPayload.decode, if_neg (Nat.not_lt.mpr length.ge), recv, mono, real]
  rfl

theorem payloadDecodes_wire (g : Geometry) (e : Emission) : e.PayloadDecodes (e.wire g) := by
  cases e with
  | legacy | stream | fast | credit => trivial
  | ping probeSeq qpIndex nowMono nowReal =>
    exact decode_pingEncode probeSeq qpIndex nowMono nowReal
  | pong received nowReal nowMono => exact decode_pongEncode received nowReal nowMono nowReal
  | creditBytes id cumulativeBytes =>
    have payload : (wire g (.creditBytes id cumulativeBytes)).drop headerSize =
        putLe 8 cumulativeBytes.toNat := rfl
    have length : (putLe 8 cumulativeBytes.toNat).length = creditBytesPayloadSize :=
      length_putLe 8 _
    rw [PayloadDecodes, payload, CreditBytesPayload.decode, if_neg (Nat.not_lt.mpr length.ge),
      word_eq rfl cumulativeBytes.toNat_lt]

/-- The Rust decoders read every frame as it was sent; the check of the flags refuses exactly the
frames that carry a timestamp. -/
theorem protocol_accepts_iff (g : Geometry) (e : Emission) (fits : e.Fits g) :
    FrameHeader.decode (e.wire g) = .ok (e.header g) ∧ e.PayloadDecodes (e.wire g) ∧
      ((e.header g).validateFlags = .ok () ↔ ¬ e.Stamped g) :=
  ⟨decode_wire g e fits, payloadDecodes_wire g e, validateFlags_header_iff g e⟩

theorem protocol_accepts_fast :
    ∃ h, FrameHeader.decode (wire (Geometry.resolve 4096 1) (.fast 1 0 true [104, 105])) = .ok h ∧
      h.validateFlags = .ok () :=
  have accepted := protocol_accepts_iff (Geometry.resolve 4096 1) (.fast 1 0 true [104, 105])
    (by decide : 2 < 2 ^ 32)
  ⟨_, accepted.1, accepted.2.2.mpr not_false⟩

def sampledReading : Reading := ⟨fun _ _ => 0, [104], true, 1, 0⟩

theorem stamped_frame_refused : ∃ h, FrameHeader.decode
        (wire (Geometry.resolve 4096 1) (.stream 1 0 true sampledReading)) = .ok h ∧
      h.flags = dataFlagSyn ||| dataFlagTstamp ∧
      h.validateFlags = .error (.invalidFlags typeData (dataFlagSyn ||| dataFlagTstamp)) := by
  refine ⟨header (Geometry.resolve 4096 1) (.stream 1 0 true sampledReading),
    decode_wire _ _ (by decide +kernel : 1 ≤ epTxMaxPayload 4096), ?_, ?_⟩ <;> decide +kernel

end Emission

end Urp.Tx
