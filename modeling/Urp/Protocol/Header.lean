import Urp.Frame.Codec

/-!
# The wire format in Rust
-/

namespace Urp.Protocol

open Urp.Lib Urp.Frame List

inductive ProtocolError where
  | bufferTooShort (need available : Nat)
  | invalidFrameType (frameType : UInt8)
  | invalidFlags (frameType flags : UInt8)
  | reorderDuplicate (seq : Nat)
  | reorderFull (maxBuffered : Nat)
  | creditExhausted
deriving DecidableEq, Repr

def pongPayloadSize : Nat := 48

def dataFlagsValid : UInt8 := dataFlagSyn ||| dataFlagFin ||| dataFlagRst

def ctrlFlagsValid : UInt8 := 1 ||| 2 ||| 4 ||| 8 ||| 16 ||| 32

def probeFlagsValid : UInt8 := probeFlagPong

/-- The little-endian word of `width` bytes at an offset of the buffer. -/
def word (buf : List UInt8) (first width : Nat) : Nat := getLe ((buf.drop first).take width)

structure FrameHeader where
  streamId : Nat
  sequenceNumber : Nat
  frameType : UInt8
  flags : UInt8
  creditsGranted : Nat
  payloadLength : Nat
deriving DecidableEq, Repr

def FrameHeader.decode (buf : List UInt8) : Except ProtocolError FrameHeader :=
  if buf.length < headerSize then .error (.bufferTooShort headerSize buf.length)
  else if typeProbe < buf.getD 12 0 then .error (.invalidFrameType (buf.getD 12 0))
  else
    .ok ⟨word buf 0 4, word buf 4 8, buf.getD 12 0, buf.getD 13 0, word buf 14 2, word buf 16 4⟩

def validMask (frameType : UInt8) : Option UInt8 :=
  if frameType = typeData then some dataFlagsValid
  else if frameType = typeControl then some ctrlFlagsValid
  else if frameType = typeProbe then some probeFlagsValid
  else none

def FrameHeader.validateFlags (h : FrameHeader) : Except ProtocolError Unit :=
  match validMask h.frameType with
  | none => .error (.invalidFrameType h.frameType)
  | some valid =>
    if h.flags &&& ~~~valid ≠ 0 then .error (.invalidFlags h.frameType h.flags) else .ok ()

structure PingPayload where
  probeSeq : Nat
  qpIndex : Nat
  clockFlags : UInt8
  reserved : UInt8
  tSendMono : Nat
  tSendReal : Nat
  padding : Nat
deriving DecidableEq, Repr

def PingPayload.decode (buf : List UInt8) : Except ProtocolError PingPayload :=
  if buf.length < pingPayloadSize then .error (.bufferTooShort pingPayloadSize buf.length)
  else
    .ok ⟨word buf 0 4, word buf 4 2, buf.getD 6 0, buf.getD 7 0, word buf 8 8, word buf 16 8,
      word buf 24 8⟩

structure PongPayload where
  probeSeq : Nat
  qpIndex : Nat
  clockFlags : UInt8
  reserved : UInt8
  tSendMono : Nat
  tSendReal : Nat
  tRecvReal : Nat
  tPongMono : Nat
  tPongReal : Nat
deriving DecidableEq, Repr

def PongPayload.decode (buf : List UInt8) : Except ProtocolError PongPayload :=
  if buf.length < pongPayloadSize then .error (.bufferTooShort pongPayloadSize buf.length)
  else
    .ok ⟨word buf 0 4, word buf 4 2, buf.getD 6 0, buf.getD 7 0, word buf 8 8, word buf 16 8,
      word buf 24 8, word buf 32 8, word buf 40 8⟩

structure CreditBytesPayload where
  cumulativeBytes : Nat
deriving DecidableEq, Repr

def CreditBytesPayload.decode (buf : List UInt8) : Except ProtocolError CreditBytesPayload :=
  if buf.length < creditBytesPayloadSize then
    .error (.bufferTooShort creditBytesPayloadSize buf.length)
  else .ok ⟨word buf 0 8⟩

theorem FrameHeader.validateFlags_iff {h : FrameHeader} {valid : UInt8}
    (known : validMask h.frameType = some valid) :
    h.validateFlags = .ok () ↔ h.flags &&& ~~~valid = 0 := by
  simp [FrameHeader.validateFlags, known]

/-! ## What the kernel module encodes -/

variable {first width value : Nat}

theorem word_eq {buf : List UInt8}
    (field : (buf.drop first).take width = putLe width value) (bound : value < 256 ^ width) :
    word buf first width = value := by
  rw [word, field, getLe_putLe_of_lt bound]

variable {front : List UInt8}

theorem word_append (rest : List UInt8) (inside : first + width ≤ front.length)
    (field : (front.drop first).take width = putLe width value) (bound : value < 256 ^ width) :
    word (front ++ rest) first width = value := by
  have within : width ≤ (front.drop first).length := by
    rw [length_drop]
    omega
  refine word_eq ?_ bound
  rw [drop_append_of_le_length (by omega), take_append_of_le_length within, field]

theorem byte_append (rest : List UInt8) {i : Nat} {value : UInt8}
    (inside : i < front.length) (field : front.getD i 0 = value) :
    (front ++ rest).getD i 0 = value := by
  rw [getD_append _ _ _ _ inside, field]

theorem decode_encode (streamId : UInt32) (seq : UInt64) (frameType flags : UInt8)
    (credits : UInt16) (payloadLen : Nat) (rest : List UInt8) (known : frameType ≤ typeProbe)
    (short : payloadLen < 2 ^ 32) :
    FrameHeader.decode
        (encode streamId.toNat seq.toNat frameType flags credits.toNat payloadLen ++ rest) =
      .ok ⟨streamId.toNat, seq.toNat, frameType, flags, credits.toNat, payloadLen⟩ := by
  have length := length_encode streamId.toNat seq.toNat frameType flags credits.toNat payloadLen
  set header := encode streamId.toNat seq.toNat frameType flags credits.toNat payloadLen
  have long : headerSize ≤ (header ++ rest).length := by
    rw [length_append]
    omega
  have typed : (header ++ rest).getD 12 0 = frameType :=
    byte_append rest (length ▸ (by decide : 12 < headerSize)) rfl
  have flagged : (header ++ rest).getD 13 0 = flags :=
    byte_append rest (length ▸ (by decide : 13 < headerSize)) rfl
  have id : word (header ++ rest) 0 4 = streamId.toNat :=
    word_append rest (length ▸ (by decide : 0 + 4 ≤ headerSize)) rfl streamId.toNat_lt
  have number : word (header ++ rest) 4 8 = seq.toNat :=
    word_append rest (length ▸ (by decide : 4 + 8 ≤ headerSize)) rfl seq.toNat_lt
  have granted : word (header ++ rest) 14 2 = credits.toNat :=
    word_append rest (length ▸ (by decide : 14 + 2 ≤ headerSize)) rfl credits.toNat_lt
  have sized : word (header ++ rest) 16 4 = payloadLen :=
    word_append rest (length ▸ (by decide : 16 + 4 ≤ headerSize)) rfl short
  rw [FrameHeader.decode, if_neg (Nat.not_lt.mpr long), typed, if_neg (UInt8.not_lt.mpr known),
    flagged, id, number, granted, sized]

end Urp.Protocol
