import Urp.Frame.Layout

/-!
# A frame between two hosts

The page size is the host's: the two ends of a connection may resolve different chunks for the
same frame.
-/

namespace Urp.Frame

open Urp.Lib List

/-! ## From chunks to chunks -/

/-- The sender's slot: the payload read through the kvecs of `room` bytes, then the header. -/
def place (g : Geometry) (mem : Memory) (room : Nat) (header payload : List UInt8) : Memory :=
  writeAt (scatter mem (fillKvecsLen g room) payload) 0 0 header

/-- What the device takes from a slot that is posted with `len` bytes. -/
def wire (g : Geometry) (mem : Memory) (len : Nat) : List UInt8 := gather mem (postSges g len)

section Crossing

variable {g : Geometry} {header payload : List UInt8} {room : Nat}

theorem view_scatter_fillKvecsLen (mem : Memory) (fits : headerSize + room ≤ g.bufSize)
    (within : payload.length ≤ room) :
    g.view (scatter mem (fillKvecsLen g room) payload) =
      overlay (g.view mem) headerSize payload := by
  rw [Geometry.view, fillKvecsLen, flat_scatter mem g.header_lt (fits.trans g.covers),
    Nat.zero_mul, Nat.zero_add, take_of_length_le within]
  rfl

theorem wire_place (mem : Memory) (encoded : header.length = headerSize)
    (fits : headerSize + room ≤ g.bufSize) (within : payload.length ≤ room) :
    wire g (place g mem room header payload) (headerSize + payload.length) = header ++ payload := by
  have front : 0 + header.length ≤ g.chunkSize := by
    rw [encoded, Nat.zero_add]
    exact g.header_lt.le
  rw [wire, gather_postSges _ (by omega), place, view_writeAt _ front,
    view_scatter_fillKvecsLen mem fits within, window_add]
  congr 1
  · rw [← encoded, window_overlay_exact]
  · rw [window_overlay_after _ (by omega), Nat.zero_add, window_overlay_exact]

end Crossing

/-- A frame arrives as it was placed, whatever the chunks of the two hosts: the header lies at
the start of the receiver's first chunk, and both ways of reading the payload give it back. -/
theorem payload_crosses (sender receiver : Page) (sendSize sendSge recvSize recvSge : Nat)
    (mem mem' : Memory) (streamId seq : Nat) (frameType flags : UInt8) (credits : Nat)
    (payload : List UInt8) (room : Nat) (within : payload.length ≤ room)
    (sends : headerSize + room ≤ (sender.geometry sendSize sendSge).bufSize)
    (receives : headerSize + payload.length ≤ (receiver.geometry recvSize recvSge).bufSize) :
    let header := encode streamId seq frameType flags credits payload.length
    let sent := wire (sender.geometry sendSize sendSge)
      (place (sender.geometry sendSize sendSge) mem room header payload)
      (headerSize + payload.length)
    let landed := landing (receiver.geometry recvSize recvSge) mem' sent
    window (landed 0) 0 headerSize = header ∧
      headerSize ≤ (receiver.geometry recvSize recvSge).chunkSize ∧
      decodePayloadLen (landed 0) = payload.length ∧
      gather landed (fillKvecsLen (receiver.geometry recvSize recvSge) payload.length) = payload ∧
      gatherPayload (receiver.geometry recvSize recvSge) landed payload.length = payload := by
  intro header sent landed
  have encoded : header.length = headerSize := length_encode _ _ _ _ _ _
  have crossed : sent = header ++ payload := wire_place mem encoded sends within
  have fits : (header ++ payload).length ≤ (receiver.geometry recvSize recvSge).bufSize := by
    rwa [length_append, encoded]
  have arrived : landed = landing (receiver.geometry recvSize recvSge) mem' (header ++ payload) :=
    congrArg _ crossed
  have front : window (landed 0) 0 headerSize = header := by
    rw [arrived]
    exact header_landing mem' encoded fits
  have payload_eq :
      (receiver.geometry recvSize recvSge).payload landed payload.length = payload := by
    rw [← append_nil payload] at fits arrived
    rw [arrived]
    exact payload_landing mem' encoded fits
  have short : payload.length < 2 ^ 32 := by
    have small := (receiver.geometry recvSize recvSge).size_max
    unfold bufferSizeMax at small
    omega
  refine ⟨front, (Geometry.header_lt _).le, decodePayloadLen_encode front short, ?_, ?_⟩
  · exact (gather_fillKvecsLen landed receives).trans payload_eq
  · exact (gatherPayload_eq landed receives).trans payload_eq

/-- Two chunks of 64 KiB on a host with small pages, one chunk on a host with large pages. -/
theorem payload_crosses_pages : ∃ landed : Memory,
      gatherPayload ((Page.mk 16 (by decide) (by decide)).geometry 131072 1) landed 100000 =
        List.replicate 100000 7 := by
  have length : (List.replicate 100000 (7 : UInt8)).length = 100000 := length_replicate
  have crossed := payload_crosses Page.base (Page.mk 16 (by decide) (by decide)) 1048576 30 131072 1
    (fun _ _ => 0) (fun _ _ => 0) 0 0 typeData 0 0 (List.replicate 100000 7) 1048556
    (by rw [length]; decide) (by decide) (by rw [length]; decide)
  rw [length] at crossed
  exact ⟨_, crossed.2.2.2.2⟩

end Urp.Frame
