import Urp.Rx.Receiving
import Urp.Tx.Pump

/-!
# A transmit thread that posts what it reads
-/

namespace Urp.Tx

open Urp.Lib Urp.Reorder Urp.Frame Urp.Window Urp.Stream Urp.Rx List

def wireId (wire : List UInt8) : Nat := decodeStreamId (fun i => wire.getD i 0)

def wireType (wire : List UInt8) : UInt8 := decodeType (fun i => wire.getD i 0)

def wireSeq (wire : List UInt8) : Nat := decodeSeq (fun i => wire.getD i 0)

def wireFlags (wire : List UInt8) : UInt8 := decodeFlags (fun i => wire.getD i 0)

def HasSyn (wire : List UInt8) : Prop := wireFlags wire &&& dataFlagSyn ≠ 0

instance (wire : List UInt8) : Decidable (HasSyn wire) :=
  inferInstanceAs (Decidable (wireFlags wire &&& dataFlagSyn ≠ 0))

theorem wire_points (id seq : Nat) (frameType flags : UInt8) (credits len : Nat)
    (rest : List UInt8) :
    window (fun i => (encode id seq frameType flags credits len ++ rest).getD i 0) 0 headerSize =
      encode id seq frameType flags credits len := by
  have points := window_getD_append (encode id seq frameType flags credits len) rest 0
  rwa [length_encode] at points

variable {seq : Nat}

theorem wireSeq_encode (id : Nat) (flags : UInt8) (len : Nat) (rest : List UInt8)
    (bound : seq < 2 ^ 64) : wireSeq (encode id seq typeData flags 0 len ++ rest) = seq :=
  decodeSeq_encode (wire_points id seq typeData flags 0 len rest) bound

theorem wireFlags_encode (id seq : Nat) (flags : UInt8) (len : Nat) (rest : List UInt8) :
    wireFlags (encode id seq typeData flags 0 len ++ rest) = flags :=
  decodeFlags_encode (wire_points id seq typeData flags 0 len rest)

variable {g : Geometry} {r : Reading}

theorem hasSyn_frameWire (id seq : Nat)
    (fits : r.data.length ≤ epTxMaxPayload g.bufSize) : HasSyn (frameWire g id seq true r) := by
  rw [HasSyn, frameWire_eq id seq true fits, wireFlags_encode, frameFlags]
  split <;> decide

theorem wireSeq_frameWire (id : Nat) (sendSyn : Bool)
    (fits : r.data.length ≤ epTxMaxPayload g.bufSize) (bound : seq < 2 ^ 64) :
    wireSeq (frameWire g id seq sendSyn r) = seq := by
  rw [frameWire_eq id seq sendSyn fits, wireSeq_encode id _ _ _ bound]

theorem wrap64_succ (n : Nat) : wrap64 (wrap64 n + 1) = wrap64 (n + 1) := wrap64_add n 1

def wirePayload (wire : List UInt8) : Payload :=
  (wire.drop headerSize).take (decodePayloadLen (fun i => wire.getD i 0))

/-! ## Frames of a stream on the wire -/

variable {frames : List Payload}

variable {wire : List UInt8}

theorem wireSeq_carries {id : Nat} (carries : Carries id frames seq wire)
    (word : frames.length ≤ 2 ^ 64) : wireSeq wire = seq := by
  obtain ⟨stamped, data, rest, rfl, frame⟩ := carries
  exact wireSeq_encode id _ _ _ ((List.getElem?_eq_some_iff.mp frame).1.trans_le word)

theorem wirePayload_carries {id : Nat}
    {data : Payload} (carries : Carries id frames seq wire) (frame : frames[seq]? = some data)
    (short : data.length < 2 ^ 32) : wirePayload wire = data := by
  obtain ⟨stamped, data', rest, rfl, frame'⟩ := carries
  obtain rfl : data' = data := Option.some.inj (frame'.symm.trans frame)
  have length := length_encode id seq typeData (dataFlags (decide (seq = 0)) stamped) 0 data'.length
  rw [wirePayload, decodePayloadLen_encode (wire_points id seq _ _ _ _ _) short, ← length,
    drop_left, take_left]

theorem frameFlags_eq (g : Geometry) (r : Reading) (seq : Nat) (sendSyn : Bool) :
    frameFlags g r seq sendSyn = dataFlags sendSyn (decide (Sampled g r seq)) := by
  unfold frameFlags dataFlags
  by_cases sampled : Sampled g r seq <;> cases sendSyn <;> simp [sampled]

theorem carries_frameWire (id : Nat) (fits : r.data.length ≤ epTxMaxPayload g.bufSize)
    (frame : frames[seq]? = some r.data) :
    Carries id frames seq (frameWire g id seq (decide (seq = 0)) r) := by
  refine ⟨decide (Sampled g r seq), r.data, trailer g r seq, ?_, frame⟩
  rw [frameWire_eq id seq _ fits, frameFlags_eq]

theorem wirePayload_frameWire (id seq : Nat) (sendSyn : Bool)
    (fits : r.data.length ≤ epTxMaxPayload g.bufSize) :
    wirePayload (frameWire g id seq sendSyn r) = r.data := by
  have size_max := g.size_max
  have length := length_encode id seq typeData (frameFlags g r seq sendSyn) 0 r.data.length
  have short : r.data.length < 2 ^ 32 := by
    simp only [epTxMaxPayload, epMaxPayload, bufferSizeMax] at fits size_max
    omega
  rw [frameWire_eq id seq sendSyn fits, wirePayload,
    decodePayloadLen_encode (wire_points id seq _ _ _ _ _) short, ← length, drop_left, take_left]

theorem length_frameWire (id seq : Nat) (sendSyn : Bool)
    (fits : r.data.length ≤ epTxMaxPayload g.bufSize) :
    (frameWire g id seq sendSyn r).length =
      headerSize + (r.data.length + (trailer g r seq).length) := by
  rw [frameWire_eq id seq sendSyn fits, length_append, length_encode, length_append]

/-- A read of `n` bytes without a time stamp. -/
def plainRead (n : Nat) : Reading := ⟨fun _ _ => 0, List.replicate n 0, false, 0, 0⟩

@[simp] theorem length_plainRead (n : Nat) : (plainRead n).data.length = n :=
  length_replicate

theorem length_plainWire {n : Nat} (id seq : Nat) (sendSyn : Bool)
    (fits : n ≤ epTxMaxPayload g.bufSize) :
    (frameWire g id seq sendSyn (plainRead n)).length = headerSize + n := by
  have unsampled : ¬Sampled g (plainRead n) seq :=
    fun sampled => by simp [plainRead, Sampled] at sampled
  rw [length_frameWire id seq sendSyn (by simpa using fits), trailer, if_neg unsampled]
  simp

/-! ## Where the thread stands -/

/-- The thread posted `posted` and holds `held`. -/
def Sending (g : Geometry) (posted : List Payload) (s : Stream) :
    Option Payload → Pump → Prop
  | held, ⟨sendSyn, .reading⟩ =>
    held = none ∧ s.txSeq = wrap64 posted.length ∧ sendSyn = decide (posted.length = 0)
  | held, ⟨sendSyn, .posting _ wire len⟩ =>
    ∃ data, held = some data ∧ data.length = len ∧ 0 < len ∧ len ≤ epTxMaxPayload g.bufSize ∧
      s.txSeq = wrap64 (posted.length + 1) ∧ sendSyn = false ∧
      Carries s.id (posted ++ [data]) posted.length wire
  | held, ⟨sendSyn, .accounting _⟩ =>
    held = none ∧ s.txSeq = wrap64 posted.length ∧ posted.length ≠ 0 ∧ sendSyn = false
  | held, ⟨_, .exited⟩ => held = none

structure SameTx (s s' : Stream) : Prop where
  id : s'.id = s.id
  txSeq : s'.txSeq = s.txSeq
  txThread : s'.txThread = s.txThread

theorem SameTx.trans {s s' s'' : Stream} (first : SameTx s s') (second : SameTx s' s'') :
    SameTx s s'' :=
  ⟨second.id.trans first.id, second.txSeq.trans first.txSeq, second.txThread.trans first.txThread⟩

theorem sameTx_windowGrant (s : Stream) : SameTx s (windowGrant s).1 := by
  unfold windowGrant
  split <;> exact ⟨rfl, rfl, rfl⟩

theorem sameTx_receiveData (kmalloc : Nat → Bool) (results : Nat → SendResult) (g : Geometry)
    (negotiated : Bool) (s : Stream) (slot : Memory) (dec : RxDecoded) :
    SameTx s (receiveData kmalloc results g negotiated s slot dec).1 := by
  have untouched := untouched_deliverFrame kmalloc results g s slot (decodeSeq (slot 0))
    dec.payloadLen
  have delivered : SameTx s
      (deliverFrame kmalloc results g s slot (decodeSeq (slot 0)) dec.payloadLen) :=
    { untouched with }
  cases negotiated with
  | true =>
    rw [receiveData_negotiated]
    exact delivered.trans (sameTx_windowGrant _)
  | false =>
    rwa [receiveData_plain]

theorem sameTx_receiveCredit (s : Stream) (slot : Memory) (dec : RxDecoded) :
    SameTx s (receiveCredit s slot dec) := by
  unfold receiveCredit
  split <;> split <;> (try split) <;> exact ⟨rfl, rfl, rfl⟩

section Sending

variable {g : Geometry} {posted : List Payload} {s s' : Stream} {held : Option Payload}

variable {sendSyn : Bool}

theorem Sending.read {r : Reading} {qp : Nat}
    (sending : Sending g posted s held ⟨sendSyn, .reading⟩) (bound : posted.length < 2 ^ 64)
    (nonempty : 0 < r.data.length) (fits : r.data.length ≤ epTxMaxPayload g.bufSize)
    (same : s'.id = s.id) (taken : s'.txSeq = wrap64 (s.txSeq + 1)) :
    Sending g posted s' (some r.data)
      ⟨false, .posting qp (frameWire g s.id s.txSeq sendSyn r) r.data.length⟩ := by
  obtain ⟨rfl, seq, rfl⟩ := sending
  rw [wrap64_of_lt bound] at seq
  refine ⟨r.data, rfl, rfl, nonempty, fits, by rw [taken, seq], rfl, ?_⟩
  rw [same, seq]
  exact carries_frameWire s.id fits List.getElem?_concat_length

theorem Sending.post {qp len : Nat}
    (sending : Sending g posted s held ⟨sendSyn, .posting qp wire len⟩)
    (taken : s'.txSeq = s.txSeq) :
    ∃ data, held = some data ∧ data.length = len ∧ 0 < len ∧ len ≤ epTxMaxPayload g.bufSize ∧
      Carries s.id (posted ++ [data]) posted.length wire ∧
      Sending g (posted ++ [data]) s' none ⟨sendSyn, .accounting len⟩ := by
  obtain ⟨data, rfl, length, nonempty, fits, seq, rfl, carries⟩ := sending
  refine ⟨data, rfl, length, nonempty, fits, carries, rfl, ?_, by simp, rfl⟩
  rw [taken, seq, length_append, length_singleton]

theorem Sending.account {len : Nat} (sending : Sending g posted s held ⟨sendSyn, .accounting len⟩)
    (taken : s'.txSeq = s.txSeq) : Sending g posted s' held ⟨sendSyn, .reading⟩ := by
  obtain ⟨rfl, seq, nonzero, rfl⟩ := sending
  exact ⟨rfl, by rw [taken, seq], by simp [nonzero]⟩

theorem Sending.congr {pump : Pump} (sending : Sending g posted s held pump) (same : s'.id = s.id)
    (taken : s'.txSeq = s.txSeq) : Sending g posted s' held pump := by
  obtain ⟨sendSyn, phase⟩ := pump
  cases phase <;> simpa only [Sending, same, taken] using sending

end Sending

end Urp.Tx
