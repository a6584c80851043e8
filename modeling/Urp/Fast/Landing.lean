import Urp.Conn.PrivateData
import Urp.Fast.Pool
import Urp.Tx.Emission

/-!
# Landing space

A receive is posted with room for the header and as much payload as the application asked for.
-/

namespace Urp.Tx.Emission

open Urp.Lib Urp.Frame Urp.Protocol Urp.Rx

def bodyLen (g : Geometry) : Emission → Nat
  | .legacy seq r => r.data.length + if Sampled g r seq.toNat then tstampTrailerLen else 0
  | .stream _ seq _ r => r.data.length + if Sampled g r seq.toNat then tstampTrailerLen else 0
  | .fast _ _ _ payload => payload.length
  | .ping .. => pingPayloadSize
  | .pong .. => pongPayloadSize
  | .credit .. => 0
  | .creditBytes .. => creditBytesPayloadSize

theorem length_wire {g : Geometry} {e : Emission} (fits : e.Fits g) :
    (e.wire g).length = headerSize + e.bodyLen g := by
  cases e with
  | legacy seq r => exact length_frameWire 0 seq.toNat false fits
  | stream id seq sendSyn r => exact length_frameWire id.toNat seq.toNat sendSyn fits
  | fast id seq fin payload => rw [wire, fastWire, List.length_append, length_encode, bodyLen]
  | ping | pong | credit | creditBytes => rfl

end Urp.Tx.Emission

namespace Urp.Fast

open Urp.Lib Urp.Frame Urp.Tx Urp.Conn

/-- A frame is received whole exactly if what it has behind the header is no longer than the
payload that was asked for. -/
theorem landing_holds_iff (p : Page) (r : CmdReg) (region : Region) (d : CmdData) (req : CmdReq)
    (registered : validateReg p r = .ok ()) (covers : r.nrPages p * p.size ≤ region.length)
    (valid : validateData cmdRecv d r.geom = .ok req) :
    ∃ sge, recvSge region r.geom req = some sge ∧
      sge.length = min r.bufSize.toNat (headerSize + req.len.toNat) ∧
      ∀ (g : Geometry) (e : Emission), e.Fits g →
        ((e.wire g).length ≤ sge.length ↔ e.bodyLen g ≤ req.len.toNat) := by
  have accepted := accepted_of_validateReg registered
  have request := validReq_of_validateData accepted.bufSize_min valid
  have frame := accepted.frame_le request
  obtain ⟨addr, _⟩ := accepted.sgeInside covers request.index_lt frame
  refine ⟨⟨region.iova + req.bufIndex.toNat * r.bufSize.toNat,
    min r.bufSize.toNat (headerSize + req.len.toNat)⟩, ?_, rfl, ?_⟩
  · rw [recvSge, addr, Option.bind_some, accepted.frame_checked request]
    rfl
  · intro g e fits
    rw [Emission.length_wire fits, Nat.min_eq_right frame]
    exact Nat.add_le_add_iff_left

def onePage : CmdReg := ⟨4096, 4096, 4096, 1, 0, 0⟩

def hundredBytes : CmdData := ⟨0, 100, 0, 0, 0⟩

def hundredBytesReq : CmdReq := ⟨cmdRecv, 0, 100, 0, 0⟩

def onePageRegion : Region := ⟨65536, 4096, by decide⟩

def sampledHundred (tstampNegotiated : Bool) : Reading :=
  ⟨fun _ _ => 0, List.replicate 100 7, tstampNegotiated, 1, 0⟩

theorem plain_frame_lands : ∃ sge, recvSge onePageRegion onePage.geom hundredBytesReq = some sge ∧
      ((Emission.stream 1 0 true (sampledHundred false)).wire
        (Geometry.resolve 4096 1)).length ≤ sge.length := by
  obtain ⟨sge, posted, _, holds⟩ := landing_holds_iff Page.base onePage onePageRegion hundredBytes
    hundredBytesReq (by decide) (by decide) (by decide)
  have fits : (Emission.stream 1 0 true (sampledHundred false)).Fits (Geometry.resolve 4096 1) := by
    change (List.replicate 100 (7 : UInt8)).length ≤ epTxMaxPayload _
    decide +kernel
  exact ⟨sge, posted, (holds _ _ fits).mpr (by decide +kernel)⟩

/-- Two hosts that sample agree on timestamps whatever their kind, and then a frame with as much
payload as was asked for is eight bytes too long. -/
theorem stamped_frame_too_long :
    (∀ kind qpIndex, peerSupportsTstamp (privBuildFull [] kind qpIndex (localCaps ⟨0, 1⟩)) 0 =
      true) ∧
      ∃ e : Emission, e.Fits (Geometry.resolve 4096 1) ∧
        (e.header (Geometry.resolve 4096 1)).payloadLength = 100 ∧
        recvSge onePageRegion onePage.geom hundredBytesReq = some ⟨65536, 120⟩ ∧
        (e.wire (Geometry.resolve 4096 1)).length = 128 := by
  refine ⟨fun kind qpIndex => ?_, .stream 1 0 true (sampledHundred true), ?_, ?_, ?_, ?_⟩
  · have supports := (peerSupports_build [] [] kind qpIndex ⟨0, 1⟩).2
    rwa [List.append_nil] at supports
  · change (List.replicate 100 (7 : UInt8)).length ≤ epTxMaxPayload _
    decide +kernel
  · rfl
  · decide
  · rw [Emission.length_wire]
    · decide +kernel
    · change (List.replicate 100 (7 : UInt8)).length ≤ epTxMaxPayload _
      decide +kernel

end Urp.Fast
