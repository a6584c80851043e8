import Urp.Fast.Device
import Urp.Lib.Masked
import Urp.Rx.Recv

/-!
# What the receive handlers read of a frame
-/

namespace Urp.Rx

open Urp.Lib Urp.Frame List

inductive Taken where
  | nothing
  | credit (granted : Option Nat)
  | pong (tSendMono : Nat)
  | ping (echo : List UInt8)
  | data (seq : Option Nat) (payload : List UInt8)
  | lent (length : Nat)
deriving DecidableEq, Repr

def Taken.delivered : Taken → Nat
  | .data _ payload => payload.length
  | .lent length => length
  | _ => 0

/-- What else the handlers depend on. -/
structure Surroundings where
  qpFound : Bool
  pongBuf : Bool
  uds : Bool
  nextExpected : Nat

def contiguousAddresses (g : Geometry) (payloadLen : Nat) : List (Nat × Nat) :=
  if 1 < g.numChunks ∧ g.chunkSize < headerSize + payloadLen then
    addresses (segments g.chunkSize g.numChunks 0 headerSize payloadLen)
  else span 0 headerSize payloadLen

/-- The rest of `urp_recv_done`, on a slot of the geometry. -/
def copyHandler (g : Geometry) (frame : Nat × Nat → Option UInt8) (around : Surroundings) :
    RxAction × RxDecoded → Option Taken
  | (.dropShort, _) | (.dropOversize, _) | (.dropPayloadOverrun, _) | (.dropShortProbe, _) =>
    some .nothing
  | (.credit, dec) =>
    if dec.flags &&& ctrlFlagCreditBytes ≠ 0 ∧ dec.streamId ≠ 0 ∧
        creditBytesPayloadSize ≤ dec.payloadLen then
      (fetch frame (span 0 headerSize 8)).map fun bytes => .credit (some (getLe bytes))
    else some (.credit none)
  | (.probePong, _) =>
    if around.qpFound then
      (fetch frame (span 0 (headerSize + 8) 8)).map fun bytes => .pong (getLe bytes)
    else some .nothing
  | (.probePing, _) =>
    if around.pongBuf then (fetch frame (span 0 headerSize 24)).map .ping else some .nothing
  | (.deliverLegacy, dec) =>
    if around.uds then
      (fetch frame (addresses (fillKvecsLen g dec.payloadLen))).map (.data none)
    else some .nothing
  | (.deliverStream, dec) =>
    if around.uds then
      (fetch frame (span 0 4 8)).bind fun number =>
        (fetch frame
          (if getLe number = around.nextExpected then addresses (fillKvecsLen g dec.payloadLen)
          else contiguousAddresses g dec.payloadLen)).map (.data (some (getLe number)))
    else some .nothing

/-- The rest of `urp_fast_recv_done`, on a buffer of the application. -/
def fastHandler (buf : Nat → Option UInt8) (x : RxAction × RxDecoded) : Option Taken :=
  match Fast.fastRxDisposition x.1 with
  | .deliver => some (.lent x.2.payloadLen)
  | .pong =>
    (fetch buf (List.range' headerSize pingPayloadSize)).map fun ping => .ping (ping.take 24)
  | .absorb | .reject => some .nothing

theorem length_contiguousAddresses_le (g : Geometry) (payloadLen : Nat) :
    (contiguousAddresses g payloadLen).length ≤ payloadLen := by
  unfold contiguousAddresses
  split
  · exact length_addresses_segments_le ..
  · exact (length_span ..).le

/-! ## The received bytes -/

def Received (g : Geometry) (byteLen : Nat) (a : Nat × Nat) : Prop :=
  a.1 * g.chunkSize + a.2 < byteLen ∧ (byteLen ≤ g.bufSize → a.1 < g.numChunks ∧ a.2 < g.chunkSize)

instance (g : Geometry) (byteLen : Nat) : DecidablePred (Received g byteLen) :=
  fun _ => inferInstanceAs (Decidable (_ ∧ (_ → _)))

section Reads

variable {g : Geometry} {byteLen : Nat} {a : Nat × Nat}

variable {offset length : Nat}

theorem received_span (received : offset + length ≤ byteLen)
    (together : byteLen ≤ g.bufSize → offset + length ≤ g.chunkSize)
    (member : a ∈ span 0 offset length) : Received g byteLen a := by
  obtain ⟨chunk, _, bound⟩ := mem_span.mp member
  have several := g.numChunks_pos
  refine ⟨?_, fun fits => ?_⟩
  · rw [chunk]
    omega
  · have inside := together fits
    omega

theorem received_front (received : offset + length ≤ byteLen)
    (near : offset + length ≤ bufferSizeMin) (member : a ∈ span 0 offset length) :
    Received g byteLen a :=
  received_span received (fun _ => near.trans (le_trans (by decide) g.page_le)) member

variable {payloadLen : Nat}

theorem received_kvecs (received : headerSize + payloadLen ≤ byteLen)
    (member : a ∈ addresses (fillKvecsLen g payloadLen)) : Received g byteLen a := by
  obtain ⟨chunk, inside, _, position⟩ := mem_addresses_segments g.header_lt.le member
  exact ⟨by omega, fun _ => ⟨by omega, inside⟩⟩

theorem received_contiguous (received : headerSize + payloadLen ≤ byteLen)
    (member : a ∈ contiguousAddresses g payloadLen) : Received g byteLen a := by
  unfold contiguousAddresses at member
  split at member
  · exact received_kvecs received member
  · rename_i together
    exact received_span received (fun fits => g.le_chunkSize (received.trans fits) together)
      member

end Reads

theorem classifyFrame_bounds {byteLen : Nat} {hdr : Nat → UInt8} {action : RxAction}
    {dec : RxDecoded} (classified : classifyFrame byteLen hdr = (action, dec)) :
    match action with
    | .dropShort | .dropOversize | .dropPayloadOverrun | .dropShortProbe => True
    | .probePing | .probePong => headerSize + pingPayloadSize ≤ byteLen
    | .credit | .deliverLegacy | .deliverStream =>
      headerSize + dec.payloadLen ≤ byteLen ∧ dec.payloadLen ≤ maxPayload := by
  cases classified_of_eq classified with
  | dropShort | dropOversize | dropPayloadOverrun | dropShortProbe => trivial
  | probePing _ _ whole | probePong _ _ whole => exact whole
  | credit sized | deliverLegacy sized | deliverStream sized =>
    exact ⟨sized.received, sized.payload_le⟩

/-! ## The handlers -/

def Within (byteLen : Nat) (result : Option Taken) : Prop :=
  ∃ taken, result = some taken ∧ taken.delivered ≤ byteLen - headerSize ∧
    taken.delivered ≤ maxPayload

section Handlers

variable {byteLen : Nat} {action : RxAction} {dec : RxDecoded}

theorem within_of_none {taken : Taken} (nothing : taken.delivered = 0) :
    Within byteLen (some taken) :=
  ⟨taken, rfl, nothing.trans_le (Nat.zero_le _), nothing.trans_le (Nat.zero_le _)⟩

theorem within_of_le {taken : Taken} (received : headerSize + dec.payloadLen ≤ byteLen)
    (size : dec.payloadLen ≤ maxPayload) (le : taken.delivered ≤ dec.payloadLen) :
    Within byteLen (some taken) :=
  ⟨taken, rfl, le.trans (by omega), le.trans size⟩

theorem copyHandler_within {g : Geometry} {slot : Memory} (around : Surroundings)
    (classified : classifyFrame byteLen (slot 0) = (action, dec)) :
    Within byteLen
      (copyHandler g (masked (Received g byteLen) fun a => slot a.1 a.2) around (action, dec)) := by
  have bounds := classifyFrame_bounds classified
  cases action with
  | dropShort | dropOversize | dropPayloadOverrun | dropShortProbe => exact within_of_none rfl
  | credit =>
    rw [copyHandler]
    split
    · rename_i bytes
      have inside : headerSize + 8 ≤ byteLen :=
        (Nat.add_le_add_left bytes.2.2 headerSize).trans bounds.1
      rw [fetch_masked fun a => received_front inside (by decide)]
      exact within_of_none rfl
    · exact within_of_none rfl
  | probePong | probePing =>
    rw [copyHandler]
    split
    · rw [fetch_masked fun a => received_front (le_trans (by decide) bounds) (by decide)]
      exact within_of_none rfl
    · exact within_of_none rfl
  | deliverLegacy =>
    rw [copyHandler]
    split
    · rw [fetch_masked fun a => received_kvecs bounds.1]
      refine within_of_le bounds.1 bounds.2 ((length_map ..).trans_le ?_)
      exact length_addresses_segments_le ..
    · exact within_of_none rfl
  | deliverStream =>
    have header : headerSize ≤ byteLen := le_trans (Nat.le_add_right _ _) bounds.1
    rw [copyHandler]
    split
    · rw [fetch_masked fun a => received_front (le_trans (by decide) header) (by decide)]
      dsimp only [Option.bind_some]
      split
      · rw [fetch_masked fun a => received_kvecs bounds.1]
        refine within_of_le bounds.1 bounds.2 ((length_map ..).trans_le ?_)
        exact length_addresses_segments_le ..
      · rw [fetch_masked fun a => received_contiguous bounds.1]
        refine within_of_le bounds.1 bounds.2 ((length_map ..).trans_le ?_)
        exact length_contiguousAddresses_le ..
    · exact within_of_none rfl

theorem fastHandler_within {buf : Nat → UInt8}
    (classified : classifyFrame byteLen buf = (action, dec)) :
    Within byteLen (fastHandler (masked (· < byteLen) buf) (action, dec)) := by
  have bounds := classifyFrame_bounds classified
  cases action with
  | deliverLegacy | deliverStream => exact within_of_le bounds.1 bounds.2 le_rfl
  | probePing =>
    have allowed : ∀ a ∈ List.range' headerSize pingPayloadSize, a < byteLen := fun a member =>
      (mem_range'_1.mp member).2.trans_le bounds
    change Within byteLen (Option.map _ (fetch _ _))
    rw [fetch_masked allowed]
    exact within_of_none rfl
  | probePong | credit | dropShort | dropOversize | dropPayloadOverrun | dropShortProbe =>
    exact within_of_none rfl

end Handlers

/-- Whatever the header says, no handler reads beyond the bytes that were received, and no more
payload is delivered than they hold. -/
theorem handlers_read_received (g : Geometry) (byteLen : Nat) (slot : Memory) (buf : Nat → UInt8)
    (around : Surroundings) :
    Within byteLen (copyHandler g (masked (Received g byteLen) fun a => slot a.1 a.2) around
        (classifyFrame byteLen (slot 0))) ∧
      Within byteLen (fastHandler (masked (· < byteLen) buf) (classifyFrame byteLen buf)) :=
  ⟨copyHandler_within around rfl, fastHandler_within rfl⟩

end Urp.Rx
