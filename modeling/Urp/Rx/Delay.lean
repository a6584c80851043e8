import Urp.Lib.Masked
import Urp.Rx.Recv
import Urp.Tx.Emission

/-!
# The one-way delay

A frame can carry the clock of its sender behind its payload.
-/

namespace Urp.Rx

open Urp.Lib Urp.Frame Urp.Tx

/-- `struct urp_owd`. -/
structure Owd where
  bucket : Nat → Nat
  sumNs : Nat
  count : Nat
  anomalies : Nat

def owdEdgesNs : List Nat :=
  [1000, 2000, 5000, 10000, 20000, 50000, 100000, 200000, 500000, 1000000, 2000000, 5000000,
    10000000]

def owdBucket (ns : Nat) : Nat := owdEdgesNs.findIdx (ns ≤ ·)

def Owd.note (owd : Owd) (tSend now : Nat) : Owd :=
  let delta := sub64 now tSend
  if 2 ^ 63 ≤ delta then { owd with anomalies := wrap64 (owd.anomalies + 1) }
  else
    { owd with
      bucket := Function.update owd.bucket (owdBucket delta)
        (wrap64 (owd.bucket (owdBucket delta) + 1))
      sumNs := wrap64 (owd.sumNs + delta)
      count := wrap64 (owd.count + 1) }

def owdGate (tstampNegotiated : Bool) (byteLen : Nat) (dec : RxDecoded) : Prop :=
  tstampNegotiated = true ∧ dec.flags &&& dataFlagTstamp ≠ 0 ∧
    headerSize + dec.payloadLen + tstampTrailerLen ≤ byteLen

def owdSample (frame : Nat × Nat → Option UInt8) (payloadLen now : Nat) (owd : Owd) : Option Owd :=
  (fetch frame (span 0 (headerSize + payloadLen) tstampTrailerLen)).map fun trailer =>
    owd.note (getLe trailer) now

def owdOfWire (wire : List UInt8) (payloadLen now : Nat) (owd : Owd) : Owd :=
  owd.note (getLe ((wire.drop (headerSize + payloadLen)).take tstampTrailerLen)) now

def Inside (g : Geometry) (a : Nat × Nat) : Prop := a.1 < g.numChunks ∧ a.2 < g.chunkSize

instance (g : Geometry) : DecidablePred (Inside g) :=
  fun _ => inferInstanceAs (Decidable (_ ∧ _))

section Sample

variable {g : Geometry} {payloadLen now : Nat} {owd : Owd}

theorem inside_trailer (together : headerSize + payloadLen + tstampTrailerLen ≤ g.chunkSize)
    {a : Nat × Nat} (member : a ∈ span 0 (headerSize + payloadLen) tstampTrailerLen) :
    Inside g a := by
  obtain ⟨chunk, _, bound⟩ := mem_span.mp member
  refine ⟨?_, by omega⟩
  rw [chunk]
  exact g.numChunks_pos

theorem owdSample_of_together {mem : Memory} {wire : List UInt8} (fits : wire.length ≤ g.bufSize)
    (present : headerSize + payloadLen + tstampTrailerLen ≤ wire.length)
    (together : headerSize + payloadLen + tstampTrailerLen ≤ g.chunkSize) :
    owdSample (masked (Inside g) fun a => landing g mem wire a.1 a.2) payloadLen now owd =
      some (owdOfWire wire payloadLen now owd) := by
  rw [owdSample, fetch_masked fun a => inside_trailer together, map_span,
    window_landing_zero mem fits present together]
  rfl

theorem owdSample_of_beyond {mem : Memory}
    (beyond : g.chunkSize < headerSize + payloadLen + tstampTrailerLen) :
    owdSample (masked (Inside g) fun a => mem a.1 a.2) payloadLen now owd = none := by
  have member : (0, headerSize + payloadLen + 7) ∈
      span 0 (headerSize + payloadLen) tstampTrailerLen := by
    rw [mem_span]
    exact ⟨rfl, by omega, by unfold tstampTrailerLen; omega⟩
  have outside : ¬ Inside g (0, headerSize + payloadLen + 7) := by
    intro inside
    have last := inside.2
    unfold tstampTrailerLen at beyond
    omega
  rw [owdSample, fetch_masked_eq_none member outside]
  rfl

end Sample

def decoded (g : Geometry) (mem : Memory) (wire : List UInt8) : RxDecoded :=
  (classifyFrame wire.length (landing g mem wire 0)).2

/-- A frame that passes the gate is sampled within the slot and as it was sent exactly if its
trailer ends in chunk 0. -/
theorem owd_sample_iff (g : Geometry) (mem : Memory) (wire : List UInt8)
    (tstampNegotiated : Bool) (now : Nat) (owd : Owd) (fits : wire.length ≤ g.bufSize)
    (gate : owdGate tstampNegotiated wire.length (decoded g mem wire)) :
    owdSample (masked (Inside g) fun a => landing g mem wire a.1 a.2)
        (decoded g mem wire).payloadLen now owd =
        some (owdOfWire wire (decoded g mem wire).payloadLen now owd) ↔
      headerSize + (decoded g mem wire).payloadLen + tstampTrailerLen ≤ g.chunkSize := by
  constructor
  · intro sampled
    by_contra beyond
    rw [owdSample_of_beyond (Nat.lt_of_not_le beyond)] at sampled
    cases sampled
  · exact owdSample_of_together fits gate.2.2

def noSamples : Owd := ⟨fun _ => 0, 0, 0, 0⟩

def shortStamped : List UInt8 :=
  encode 1 0 typeData (dataFlagSyn ||| dataFlagTstamp) 0 1 ++ ([104] ++ tstampEncode 77)

theorem owd_sample_short : owdSample (masked (Inside (Geometry.resolve 4096 1))
        fun a => landing (Geometry.resolve 4096 1) (fun _ _ => 0) shortStamped a.1 a.2)
        1 1000 noSamples = some (owdOfWire shortStamped 1 1000 noSamples) := by
  have payload :
      (decoded (Geometry.resolve 4096 1) (fun _ _ => 0) shortStamped).payloadLen = 1 := by
    decide +kernel
  have gate : owdGate true shortStamped.length
      (decoded (Geometry.resolve 4096 1) (fun _ _ => 0) shortStamped) := by
    unfold owdGate
    decide +kernel
  have sampled := (owd_sample_iff (Geometry.resolve 4096 1) (fun _ _ => 0) shortStamped true 1000
    noSamples (by decide +kernel) gate).mpr (by decide +kernel)
  rwa [payload] at sampled

def oneChunk : Geometry := Geometry.resolve 131072 1

def twoChunks : Geometry := Geometry.resolve 131072 30

def longReading : Reading := ⟨fun _ _ => 0, List.replicate 65516 104, true, 1, 77⟩

/-- The sender stamps the frame in its only chunk; the receiver reads the stamp behind its first. -/
theorem stamp_read_outside : ∃ e : Emission, e.Fits oneChunk ∧ e.Stamped oneChunk ∧
      (e.wire oneChunk).length ≤ twoChunks.bufSize ∧
      ∀ mem, ∃ dec,
        classifyFrame (e.wire oneChunk).length (landing twoChunks mem (e.wire oneChunk) 0) =
          (.deliverStream, dec) ∧
        owdGate true (e.wire oneChunk).length dec ∧
        ∀ now owd, owdSample (masked (Inside twoChunks)
          fun a => landing twoChunks mem (e.wire oneChunk) a.1 a.2) dec.payloadLen now owd =
            none := by
  have data : longReading.data.length = 65516 := List.length_replicate
  have sampled : Sampled oneChunk longReading 0 := ⟨rfl, by decide +kernel, by decide, rfl⟩
  have fits : longReading.data.length ≤ epTxMaxPayload oneChunk.bufSize := by
    rw [data]
    decide +kernel
  have wire : (Emission.stream 1 0 true longReading).wire oneChunk =
      encode 1 0 typeData (dataFlagSyn ||| dataFlagTstamp) 0 longReading.data.length ++
        (longReading.data ++ tstampEncode 77) := by
    change frameWire oneChunk 1 0 true longReading = _
    rw [frameWire_eq 1 0 true fits, frameFlags, if_pos sampled, trailer, if_pos sampled]
    rfl
  have length : (encode 1 0 typeData (dataFlagSyn ||| dataFlagTstamp) 0 longReading.data.length ++
      (longReading.data ++ tstampEncode 77)).length = 65544 := by
    simp only [List.length_append, length_encode, data, tstampEncode, length_putLe]
    rfl
  have room : 65544 ≤ twoChunks.bufSize := by decide +kernel
  refine ⟨.stream 1 0 true longReading, fits, sampled, ?_, ?_⟩
  · rwa [wire, length]
  · intro mem
    rw [wire]
    refine ⟨_, classifyFrame_landing mem (by decide) (by decide) (length.trans_le room), ?_, ?_⟩
    · refine ⟨rfl, by decide, ?_⟩
      rw [length, data]
      decide
    · intro now owd
      refine owdSample_of_beyond ?_
      rw [data]
      decide +kernel

end Urp.Rx
