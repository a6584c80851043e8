import Urp.Lib.LittleEndian
import Urp.Lib.Segments

/-!
# The wire format and the receive classifier

A frame is a header of 20 bytes, little-endian, then its payload.
-/

namespace Urp.Frame

open Urp.Lib

def headerSize : Nat := 20

def typeData : UInt8 := 0

def typeControl : UInt8 := 1

def typeProbe : UInt8 := 2

def dataFlagSyn : UInt8 := 1

def dataFlagFin : UInt8 := 2

def dataFlagRst : UInt8 := 4

def dataFlagTstamp : UInt8 := 8

def ctrlFlagCredit : UInt8 := 1

def ctrlFlagCreditBytes : UInt8 := 32

def probeFlagPong : UInt8 := 1

def tstampTrailerLen : Nat := 8

def pingPayloadSize : Nat := 32

def creditBytesPayloadSize : Nat := 8

def bufferSizeMin : Nat := 68

def bufferSizeMax : Nat := 1048576

def maxPayload : Nat := bufferSizeMax - headerSize

def encode (streamId seq : Nat) (frameType flags : UInt8) (credits payloadLen : Nat) : List UInt8 :=
  putLe 4 streamId ++ putLe 8 seq ++ [frameType, flags] ++ putLe 2 credits ++ putLe 4 payloadLen

def decodeStreamId (p : Nat → UInt8) : Nat := getLe (window p 0 4)

def decodeSeq (p : Nat → UInt8) : Nat := getLe (window p 4 8)

def decodeType (p : Nat → UInt8) : UInt8 := p 12

def decodeFlags (p : Nat → UInt8) : UInt8 := p 13

def decodeCredits (p : Nat → UInt8) : Nat := getLe (window p 14 2)

def decodePayloadLen (p : Nat → UInt8) : Nat := getLe (window p 16 4)

def creditBytesEncode (absBytes : Nat) : List UInt8 := putLe 8 absBytes

def creditBytesDecode (payload : Nat → UInt8) (payloadLen : Nat) : Option Nat :=
  if payloadLen < creditBytesPayloadSize then none else some (getLe (window payload 0 8))

def tstampEncode (tSendReal : Nat) : List UInt8 := putLe 8 tSendReal

inductive RxAction where
  | dropShort | dropOversize | dropPayloadOverrun | dropShortProbe
  | credit | probePing | probePong | deliverLegacy | deliverStream
deriving DecidableEq, Repr

structure RxDecoded where
  payloadLen : Nat
  streamId : Nat
  credits : Nat
  type : UInt8
  flags : UInt8
deriving DecidableEq, Repr

def classifyFrame (byteLen : Nat) (hdr : Nat → UInt8) : RxAction × RxDecoded :=
  if byteLen < headerSize then (.dropShort, ⟨0, 0, 0, 0, 0⟩)
  else
    let out : RxDecoded := ⟨decodePayloadLen hdr, decodeStreamId hdr, decodeCredits hdr,
      decodeType hdr, decodeFlags hdr⟩
    if maxPayload < out.payloadLen then (.dropOversize, out)
    else if byteLen - headerSize < out.payloadLen then (.dropPayloadOverrun, out)
    else if out.type = typeControl then (.credit, out)
    else if out.type = typeProbe then
      if byteLen < headerSize + pingPayloadSize then (.dropShortProbe, out)
      else if out.flags &&& probeFlagPong ≠ 0 then (.probePong, out)
      else (.probePing, out)
    else if out.streamId = 0 then (.deliverLegacy, out)
    else (.deliverStream, out)

def RxDecoded.ofHeader (hdr : Nat → UInt8) : RxDecoded :=
  ⟨decodePayloadLen hdr, decodeStreamId hdr, decodeCredits hdr, decodeType hdr, decodeFlags hdr⟩

structure Sized (byteLen : Nat) (hdr : Nat → UInt8) : Prop where
  payload_le : decodePayloadLen hdr ≤ maxPayload
  received : headerSize + decodePayloadLen hdr ≤ byteLen

inductive Classified (byteLen : Nat) (hdr : Nat → UInt8) : RxAction → RxDecoded → Prop where
  | dropShort (short : byteLen < headerSize) :
    Classified byteLen hdr .dropShort ⟨0, 0, 0, 0, 0⟩
  | dropOversize (large : maxPayload < decodePayloadLen hdr) :
    Classified byteLen hdr .dropOversize (.ofHeader hdr)
  | dropPayloadOverrun (missing : byteLen - headerSize < decodePayloadLen hdr) :
    Classified byteLen hdr .dropPayloadOverrun (.ofHeader hdr)
  | credit (sized : Sized byteLen hdr) (control : decodeType hdr = typeControl) :
    Classified byteLen hdr .credit (.ofHeader hdr)
  | dropShortProbe (sized : Sized byteLen hdr) (probe : decodeType hdr = typeProbe)
    (short : byteLen < headerSize + pingPayloadSize) :
    Classified byteLen hdr .dropShortProbe (.ofHeader hdr)
  | probePong (sized : Sized byteLen hdr) (probe : decodeType hdr = typeProbe)
    (whole : headerSize + pingPayloadSize ≤ byteLen)
    (pong : decodeFlags hdr &&& probeFlagPong ≠ 0) :
    Classified byteLen hdr .probePong (.ofHeader hdr)
  | probePing (sized : Sized byteLen hdr) (probe : decodeType hdr = typeProbe)
    (whole : headerSize + pingPayloadSize ≤ byteLen)
    (ping : decodeFlags hdr &&& probeFlagPong = 0) :
    Classified byteLen hdr .probePing (.ofHeader hdr)
  | deliverLegacy (sized : Sized byteLen hdr) (unnamed : decodeStreamId hdr = 0) :
    Classified byteLen hdr .deliverLegacy (.ofHeader hdr)
  | deliverStream (sized : Sized byteLen hdr) (named : decodeStreamId hdr ≠ 0) :
    Classified byteLen hdr .deliverStream (.ofHeader hdr)

variable {byteLen : Nat} {hdr : Nat → UInt8}

theorem classified_of_sized (sized : Sized byteLen hdr) :
    Classified byteLen hdr (classifyFrame byteLen hdr).1 (classifyFrame byteLen hdr).2 := by
  have received := sized.received
  have fits : ¬ byteLen - headerSize < decodePayloadLen hdr := by omega
  rw [classifyFrame, if_neg (by omega), if_neg (Nat.not_lt.mpr sized.payload_le), if_neg fits]
  split
  case isTrue control => exact .credit sized control
  split
  case isTrue probe =>
    split
    case isTrue short => exact .dropShortProbe sized probe short
    split
    case isTrue pong => exact .probePong sized probe (Nat.not_lt.mp ‹_›) pong
    case isFalse ping => exact .probePing sized probe (Nat.not_lt.mp ‹_›) (not_not.mp ping)
  split
  case isTrue unnamed => exact .deliverLegacy sized unnamed
  case isFalse named => exact .deliverStream sized named

theorem classified (byteLen : Nat) (hdr : Nat → UInt8) :
    Classified byteLen hdr (classifyFrame byteLen hdr).1 (classifyFrame byteLen hdr).2 := by
  by_cases short : byteLen < headerSize
  · rw [classifyFrame, if_pos short]
    exact .dropShort short
  by_cases large : maxPayload < decodePayloadLen hdr
  · rw [classifyFrame, if_neg short, if_pos large]
    exact .dropOversize large
  by_cases missing : byteLen - headerSize < decodePayloadLen hdr
  · rw [classifyFrame, if_neg short, if_neg large, if_pos missing]
    exact .dropPayloadOverrun missing
  · exact classified_of_sized ⟨Nat.not_lt.mp large, by omega⟩

theorem classified_of_eq {action : RxAction} {dec : RxDecoded}
    (result : classifyFrame byteLen hdr = (action, dec)) : Classified byteLen hdr action dec := by
  have all := classified byteLen hdr
  rwa [result] at all

/-! ## Round trips -/

@[simp] theorem length_encode (streamId seq : Nat) (frameType flags : UInt8)
    (credits payloadLen : Nat) :
    (encode streamId seq frameType flags credits payloadLen).length = headerSize := by
  simp [encode, headerSize]

section RoundTrip

variable {p : Nat → UInt8} {streamId seq : Nat} {frameType flags : UInt8}
  {credits payloadLen : Nat}

variable {header : List UInt8}

theorem window_header (points : window p 0 headerSize = header)
    {first length : Nat} (inside : first + length ≤ headerSize) :
    window p first length = (header.drop first).take length := by
  rw [← points, take_drop_window p inside, Nat.zero_add]

theorem byte_header (points : window p 0 headerSize = header) {i : Nat}
    (inside : i < headerSize) : header[i]? = some (p i) := by
  subst points
  rw [List.getElem?_eq_getElem (by simpa using inside), getElem_window, Nat.zero_add]

variable (points : window p 0 headerSize = encode streamId seq frameType flags credits payloadLen)

include points

theorem word_encode {first width value : Nat} (inside : first + width ≤ headerSize)
    (field : ((encode streamId seq frameType flags credits payloadLen).drop first).take width =
      putLe width value) (bound : value < 256 ^ width) : getLe (window p first width) = value := by
  rw [window_header points inside, field, getLe_putLe_of_lt bound]

theorem decodeStreamId_encode (bound : streamId < 2 ^ 32) : decodeStreamId p = streamId :=
  word_encode points (by decide) rfl bound

theorem decodeSeq_encode (bound : seq < 2 ^ 64) : decodeSeq p = seq :=
  word_encode points (by decide) rfl bound

theorem decodeType_encode : decodeType p = frameType :=
  (Option.some.inj (byte_header points (by decide : 12 < headerSize))).symm

theorem decodeFlags_encode : decodeFlags p = flags :=
  (Option.some.inj (byte_header points (by decide : 13 < headerSize))).symm

theorem decodeCredits_encode : decodeCredits p = credits % 2 ^ 16 := by
  have field : ((encode streamId seq frameType flags credits payloadLen).drop 14).take 2 =
      putLe 2 credits := rfl
  have width : (256 : Nat) ^ 2 = 2 ^ 16 := by decide
  rw [decodeCredits, window_header points (by decide), field, getLe_putLe, width]

theorem decodePayloadLen_encode (bound : payloadLen < 2 ^ 32) : decodePayloadLen p = payloadLen :=
  word_encode points (by decide) rfl bound

theorem classifyFrame_encode (id : streamId < 2 ^ 32) (size : payloadLen ≤ maxPayload)
    (received : headerSize + payloadLen ≤ byteLen) (notProbe : frameType ≠ typeProbe) :
    classifyFrame byteLen p = (if frameType = typeControl then .credit
        else if streamId = 0 then .deliverLegacy else .deliverStream,
        ⟨payloadLen, streamId, credits % 2 ^ 16, frameType, flags⟩) := by
  have short : payloadLen < 2 ^ 32 := by
    unfold maxPayload bufferSizeMax headerSize at size
    omega
  rw [classifyFrame, if_neg (by omega)]
  simp only [decodeStreamId_encode points id, decodeType_encode points, decodeFlags_encode points,
    decodeCredits_encode points, decodePayloadLen_encode points short]
  rw [if_neg (by omega), if_neg (by omega), if_neg notProbe]
  split
  · rfl
  · split <;> rfl

end RoundTrip

end Urp.Frame
