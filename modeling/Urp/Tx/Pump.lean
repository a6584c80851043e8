import Urp.Stream.State

/-!
# The transmit thread of a stream
-/

namespace Urp.Tx

open Urp.Lib Urp.Frame Urp.Window Urp.Stream List

structure Reading where
  mem : Memory
  data : List UInt8
  tstampNegotiated : Bool
  period : Nat
  now : Nat

def Sampled (g : Geometry) (r : Reading) (seq : Nat) : Prop :=
  r.tstampNegotiated = true ∧ g.numChunks = 1 ∧ r.period ≠ 0 ∧ seq % r.period = 0

instance (g : Geometry) (r : Reading) (seq : Nat) : Decidable (Sampled g r seq) :=
  inferInstanceAs (Decidable (_ ∧ _ ∧ _ ∧ _))

def maybeStamp (g : Geometry) (r : Reading) (mem : Memory) (seq len : Nat) : Memory × Nat :=
  if Sampled g r seq then
    (writeAt (writeAt mem 0 13 [mem 0 13 ||| dataFlagTstamp]) 0 (headerSize + len)
      (tstampEncode r.now), tstampTrailerLen)
  else (mem, 0)

def frameWire (g : Geometry) (id seq : Nat) (sendSyn : Bool) (r : Reading) : List UInt8 :=
  let flags := if sendSyn then dataFlagSyn else 0
  let read := scatter r.mem (fillKvecs g) r.data
  let encoded := writeAt read 0 0 (encode id seq typeData flags 0 r.data.length)
  let stamped := maybeStamp g r encoded seq r.data.length
  gather stamped.1 (postSges g (headerSize + r.data.length + stamped.2))

/-- The flags and the frame of a zero-copy send. -/
def fastFlags (seq : Nat) (fin : Bool) : UInt8 :=
  (if seq = 0 then dataFlagSyn else 0) ||| (if fin then dataFlagFin else 0)

def fastWire (id seq : Nat) (fin : Bool) (data : List UInt8) : List UInt8 :=
  encode id seq typeData (fastFlags seq fin) 0 data.length ++ data

inductive PumpEvent where
  | stop
  | eof
  | read (r : Reading) (qp : Option Nat)
  | abort
  | post (windowNegotiated stalled ok : Bool)
  | account

def txFin (s : Stream) : Stream := { s with state := (nextState s.state .txFin).next }

def pumpStart (s : Stream) : Stream :=
  if s.txThread.isSome then s else { s with txThread := some ⟨true, .reading⟩ }

/-- A step of `urp_stream_tx_fn`, and the frame it posts on a queue pair. -/
def pumpStep (g : Geometry) (s : Stream) (e : PumpEvent) :
    Option (Stream × Option (Nat × List UInt8)) :=
  match s.txThread with
  | none => none
  | some pump =>
    match pump.phase, e with
    | .reading, .stop => some ({ s with txThread := some { pump with phase := .exited } }, none)
    | .reading, .eof =>
      some ({ txFin s with
        txDone := true
        txThread := some { pump with phase := .exited } }, none)
    | .reading, .read r qp =>
      if s.udsSock.isSome ∧ 0 < r.data.length ∧ r.data.length ≤ epTxMaxPayload g.bufSize then
        let wire := frameWire g s.id s.txSeq pump.sendSyn r
        match qp with
        | none =>
          some ({ s with
            txSeq := wrap64 (s.txSeq + 1)
            txThread := some ⟨false, .reading⟩ }, none)
        | some qp =>
          some ({ s with
            txSeq := wrap64 (s.txSeq + 1)
            txThread := some ⟨false, .posting qp wire r.data.length⟩ }, none)
      else none
    | .posting _ _ len, .abort =>
      if hasRoom s.txBytes s.txBytesAcked s.windowBytes len then none
      else some ({ s with txThread := some { pump with phase := .exited } }, none)
    | .posting qp wire len, .post windowNegotiated stalled ok =>
      let credit := if windowNegotiated then s.credit else s.credit.consume.1
      if windowNegotiated ∧ !hasRoom s.txBytes s.txBytesAcked s.windowBytes len ∧ !stalled then none
      else if ok then
        some ({ s with credit, txThread := some { pump with phase := .accounting len } },
          some (qp, wire))
      else some ({ s with credit, txThread := some { pump with phase := .exited } }, none)
    | .accounting len, .account =>
      some ({ s with
        txBytes := wrap64 (s.txBytes + len)
        txThread := some { pump with phase := .reading } }, none)
    | _, _ => none

inductive PumpStep (g : Geometry) (s : Stream) :
    PumpEvent → Stream → Option (Nat × List UInt8) → Prop where
  | stop {sendSyn} (thread : s.txThread = some ⟨sendSyn, .reading⟩) :
    PumpStep g s .stop { s with txThread := some ⟨sendSyn, .exited⟩ } none
  | eof {sendSyn} (thread : s.txThread = some ⟨sendSyn, .reading⟩) :
    PumpStep g s .eof { txFin s with txDone := true, txThread := some ⟨sendSyn, .exited⟩ } none
  | drop {sendSyn r} (thread : s.txThread = some ⟨sendSyn, .reading⟩)
    (uds : s.udsSock.isSome) (nonempty : 0 < r.data.length)
    (fits : r.data.length ≤ epTxMaxPayload g.bufSize) : PumpStep g s (.read r none)
      { s with txSeq := wrap64 (s.txSeq + 1), txThread := some ⟨false, .reading⟩ } none
  | read {sendSyn r qp} (thread : s.txThread = some ⟨sendSyn, .reading⟩) (uds : s.udsSock.isSome)
    (nonempty : 0 < r.data.length) (fits : r.data.length ≤ epTxMaxPayload g.bufSize) :
    PumpStep g s (.read r (some qp)) { s with
        txSeq := wrap64 (s.txSeq + 1)
        txThread := some ⟨false,
          .posting qp (frameWire g s.id s.txSeq sendSyn r) r.data.length⟩ } none
  | abort {sendSyn qp len wire} (thread : s.txThread = some ⟨sendSyn, .posting qp wire len⟩)
    (full : hasRoom s.txBytes s.txBytesAcked s.windowBytes len = false) :
    PumpStep g s .abort { s with txThread := some ⟨sendSyn, .exited⟩ } none
  | post {sendSyn windowNegotiated stalled qp len wire}
    (thread : s.txThread = some ⟨sendSyn, .posting qp wire len⟩)
    (gate : windowNegotiated = true →
      hasRoom s.txBytes s.txBytesAcked s.windowBytes len = true ∨ stalled = true) :
    PumpStep g s (.post windowNegotiated stalled true) { s with
        credit := if windowNegotiated then s.credit else s.credit.consume.1
        txThread := some ⟨sendSyn, .accounting len⟩ } (some (qp, wire))
  | fail {sendSyn windowNegotiated stalled qp len wire}
    (thread : s.txThread = some ⟨sendSyn, .posting qp wire len⟩) :
    PumpStep g s (.post windowNegotiated stalled false) { s with
        credit := if windowNegotiated then s.credit else s.credit.consume.1
        txThread := some ⟨sendSyn, .exited⟩ } none
  | account {sendSyn len} (thread : s.txThread = some ⟨sendSyn, .accounting len⟩) :
    PumpStep g s .account { s with
        txBytes := wrap64 (s.txBytes + len)
        txThread := some ⟨sendSyn, .reading⟩ } none

theorem pumpStep_sound {g : Geometry} {s s' : Stream} {e : PumpEvent}
    {out : Option (Nat × List UInt8)} (h : pumpStep g s e = some (s', out)) :
    PumpStep g s e s' out := by
  cases thread : s.txThread with
  | none => simp [pumpStep, thread] at h
  | some pump =>
    obtain ⟨sendSyn, phase⟩ := pump
    simp only [pumpStep, thread] at h
    cases phase with
    | reading =>
      cases e with
      | stop =>
        cases h
        exact .stop thread
      | eof =>
        cases h
        exact .eof thread
      | read r qp =>
        simp only at h
        split at h
        · rename_i allowed
          obtain ⟨uds, nonempty, fits⟩ := allowed
          cases qp with
          | none =>
            cases h
            exact .drop thread uds nonempty fits
          | some qp =>
            cases h
            exact .read thread uds nonempty fits
        · cases h
      | abort | post | account => cases h
    | posting qp wire len =>
      cases e with
      | abort =>
        simp only at h
        split at h
        · cases h
        · rename_i full
          cases h
          exact .abort thread (by simpa using full)
      | post windowNegotiated stalled ok =>
        simp only at h
        split at h
        · cases h
        · rename_i gate
          cases ok with
          | false =>
            cases h
            exact .fail thread
          | true =>
            cases h
            refine .post thread fun negotiated => ?_
            by_contra closed
            simp_all
      | stop | eof | read | account => cases h
    | accounting len =>
      cases e with
      | account =>
        cases h
        exact .account thread
      | stop | eof | read | abort | post => cases h
    | exited => cases e <;> cases h

/-! ## The bytes of a frame -/

def trailer (g : Geometry) (r : Reading) (seq : Nat) : List UInt8 :=
  if Sampled g r seq then tstampEncode r.now else []

def frameFlags (g : Geometry) (r : Reading) (seq : Nat) (sendSyn : Bool) : UInt8 :=
  if Sampled g r seq then (if sendSyn then dataFlagSyn else 0) ||| dataFlagTstamp
  else if sendSyn then dataFlagSyn else 0

theorem encode_setFlags (id seq : Nat) (frameType flags flags' : UInt8) (credits len : Nat) :
    (encode id seq frameType flags credits len).take 13 ++ ([flags'] ++
      (encode id seq frameType flags credits len).drop 14) =
        encode id seq frameType flags' credits len := rfl

section Wire

variable {g : Geometry} {data : List UInt8}

theorem view_encoded (mem : Memory) (header : List UInt8) (length : header.length = headerSize)
    (fits : headerSize + data.length ≤ g.bufSize) :
    g.view (writeAt (scatter mem (fillKvecs g) data) 0 0 header) =
      overlay (overlay (g.view mem) headerSize data) 0 header := by
  have inside : 0 + header.length ≤ g.chunkSize := by
    have header_lt := g.header_lt
    omega
  rw [view_writeAt _ inside, view_scatter_fillKvecs mem fits]

theorem window_encoded (view : Nat → UInt8) (data : List UInt8) {header : List UInt8}
    (length : header.length = headerSize) :
    window (overlay (overlay view headerSize data) 0 header) 0 (headerSize + data.length) =
      header ++ data := by
  have front := window_overlay_exact (overlay view headerSize data) 0 header
  rw [length] at front
  rw [window_add, front, Nat.zero_add, window_overlay_after _ (by omega), window_overlay_exact]

theorem setFlags_window (view : Nat → UInt8) {id seq : Nat} {frameType flags : UInt8}
    {credits len : Nat} (flags' : UInt8)
    (header : window view 0 headerSize = encode id seq frameType flags credits len) :
    window (overlay view 13 [flags']) 0 headerSize =
      encode id seq frameType flags' credits len := by
  have before : window (overlay view 13 [flags']) 0 13 =
      (encode id seq frameType flags credits len).take 13 := by
    rw [window_overlay_before view _ (by decide), ← header,
      ← take_drop_window view (by decide : 0 + 13 ≤ headerSize)]
    rfl
  have after : window (overlay view 13 [flags']) 14 6 =
      (encode id seq frameType flags credits len).drop 14 := by
    rw [window_overlay_after view (by simp), ← header,
      ← take_drop_window view (by decide : 14 + 6 ≤ headerSize)]
    rfl
  have parts : window (overlay view 13 [flags']) 0 headerSize =
      window (overlay view 13 [flags']) 0 13 ++
        (window (overlay view 13 [flags']) 13 1 ++ window (overlay view 13 [flags']) 14 6) := rfl
  rw [parts, before, after, ← encode_setFlags id seq frameType flags]
  exact congrArg (fun middle => _ ++ (middle ++ _)) (window_overlay_exact view 13 [flags'])

theorem window_stamped {mem : Memory} {id seq len : Nat} {flags : UInt8} (now : Nat)
    (fits : headerSize + len + tstampTrailerLen ≤ g.chunkSize)
    (frame : window (g.view mem) 0 (headerSize + len) =
      encode id seq typeData flags 0 len ++ data) :
    window (g.view (writeAt (writeAt mem 0 13 [mem 0 13 ||| dataFlagTstamp]) 0 (headerSize + len)
        (tstampEncode now))) 0 (headerSize + len + tstampTrailerLen) =
      encode id seq typeData (flags ||| dataFlagTstamp) 0 len ++ (data ++ tstampEncode now) := by
  have trailing : (tstampEncode now).length = tstampTrailerLen := length_putLe 8 now
  rw [window_add] at frame
  obtain ⟨header, payload⟩ := append_inj frame (by simp)
  have inside : 0 + headerSize ≤ g.chunkSize := by omega
  have pointed : window (mem 0) 0 headerSize = encode id seq typeData flags 0 len := by
    rw [window_chunk_zero mem inside, header]
  have byte : mem 0 13 = flags := decodeFlags_encode pointed
  have inner : 13 + [mem 0 13 ||| dataFlagTstamp].length ≤ g.chunkSize := by
    simp only [length_singleton, headerSize] at *
    omega
  rw [view_writeAt _ (by rw [trailing]; exact fits), view_writeAt _ inner, byte, window_add,
    Nat.zero_add, window_overlay_before _ _ (by omega), ← trailing, window_overlay_exact,
    window_add,
    setFlags_window _ _ header, window_overlay_after _ (by simp [headerSize]), payload,
    append_assoc]

theorem frameWire_eq {r : Reading} (id seq : Nat) (sendSyn : Bool)
    (fits : r.data.length ≤ epTxMaxPayload g.bufSize) :
    frameWire g id seq sendSyn r =
      encode id seq typeData (frameFlags g r seq sendSyn) 0 r.data.length ++
        (r.data ++ trailer g r seq) := by
  have sizes : headerSize + r.data.length + tstampTrailerLen ≤ g.bufSize := by
    have least := g.size_min
    simp only [epTxMaxPayload, epMaxPayload, headerSize, tstampTrailerLen, bufferSizeMin] at *
    omega
  have small : headerSize + r.data.length ≤ g.bufSize := by omega
  have length := length_encode id seq typeData (if sendSyn then dataFlagSyn else 0) 0 r.data.length
  have encoded := view_encoded (g := g) r.mem _ length small
  have body := window_encoded (g.view r.mem) r.data length
  unfold frameWire maybeStamp frameFlags trailer
  by_cases sampled : Sampled g r seq
  · simp only [sampled, if_true]
    have single : g.bufSize ≤ g.chunkSize := by
      have covers := g.covers
      rwa [sampled.2.1, Nat.one_mul] at covers
    rw [gather_postSges _ sizes, window_stamped r.now (sizes.trans single) (encoded ▸ body)]
  · simp only [sampled, if_false, Nat.add_zero, append_nil]
    rw [gather_postSges _ small, encoded, body]

end Wire

end Urp.Tx
