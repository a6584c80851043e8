import Urp.Rx.Recv
import Mathlib.Data.List.Induction

/-!
# A stream that receives what its peer sends
-/

namespace Urp.Rx

open Urp.Lib Urp.Reorder Urp.Frame Urp.Window Urp.Stream List

def dataFlags (syn stamped : Bool) : UInt8 :=
  (if syn then dataFlagSyn else 0) ||| (if stamped then dataFlagTstamp else 0)

/-- The frame with the number `seq` of a stream, on the wire. Frame 0 carries SYN. -/
def Carries (id : Nat) (frames : List Payload) (seq : Nat) (wire : List UInt8) : Prop :=
  ∃ stamped data rest, wire =
      encode id seq typeData (dataFlags (decide (seq = 0)) stamped) 0 data.length ++
        (data ++ rest) ∧
    frames[seq]? = some data

variable {id : Nat} {wire : List UInt8}

theorem Carries.append {frames : List Payload} {seq : Nat} (carries : Carries id frames seq wire)
    (more : List Payload) : Carries id (frames ++ more) seq wire := by
  obtain ⟨stamped, data, rest, wire_eq, frame⟩ := carries
  refine ⟨stamped, data, rest, wire_eq, ?_⟩
  rw [List.getElem?_append_left (List.getElem?_eq_some_iff.mp frame).1, frame]

theorem Carries.classify {g : Geometry} {frames : List Payload} {seq : Nat}
    (carries : Carries id frames seq wire) (id_pos : id ≠ 0)
    (id_lt : id < 2 ^ 32) (length : wire.length ≤ g.bufSize) (mem : Memory) :
    ∃ stamped dec, classifyFrame wire.length (landing g mem wire 0) = (.deliverStream, dec) ∧
      dec.streamId = id ∧ dec.flags = dataFlags (decide (seq = 0)) stamped := by
  obtain ⟨stamped, data, rest, rfl, -⟩ := carries
  have classified := classifyFrame_landing mem id_lt (by decide) length
  rw [if_neg (by decide), if_neg id_pos] at classified
  exact ⟨stamped, _, classified, rfl, rfl⟩

structure Receiving (allocated lossless : Prop) (g : Geometry) (frames : List Payload)
    (arrived : Nat → Prop) (c : Nat) (s : Stream) : Prop where
  tracks : Tracks lossless frames arrived c s.reorder
  counted : Counted s.reorder
  idle : s.reorder.drained = []
  fits : Fits g.bufSize s.reorder
  steady : allocated → Steady s.reorder
  socket : ∃ uds, s.udsSock = some uds ∧ uds.shutWr = false ∧ uds.written = (frames.take c).flatten
  bytes : s.rxBytes = wrap64 (frames.take c).flatten.length

/-! ## Writes that succeed -/

variable {results : Nat → SendResult} {uds : Socket}

theorem rxSendUds_all (full : ∀ i, results i = .full)
    (writable : uds.shutWr = false) (data : List UInt8) :
    (rxSendUds results uds data).1.shutWr = false ∧
      (rxSendUds results uds data).1.written = uds.written ++ data ∧
      (rxSendUds results uds data).2 = data.length := by
  by_cases empty : data = []
  · subst empty
    simpa using writable
  · rw [rxSendUds_full writable (fun zero => empty (length_eq_zero_iff.mp zero)) (full _)]
    exact ⟨writable, rfl, rfl⟩

theorem wrap64_add (m n : Nat) : wrap64 (wrap64 m + n) = wrap64 (m + n) := by
  unfold wrap64
  omega

variable {s : Stream}

theorem sendAll_all (full : ∀ i, results i = .full) {n : Nat} (socket : s.udsSock = some uds)
    (writable : uds.shutWr = false) (bytes : s.rxBytes = wrap64 n) (payloads : List Payload) :
    (∃ uds', (sendAll results s payloads).udsSock = some uds' ∧ uds'.shutWr = false ∧
      uds'.written = uds.written ++ payloads.flatten) ∧
    (sendAll results s payloads).rxBytes = wrap64 (n + payloads.flatten.length) := by
  induction payloads generalizing s uds n with
  | nil => exact ⟨⟨uds, socket, writable, by simp⟩, bytes⟩
  | cons data rest ih =>
    obtain ⟨writable', written, counted⟩ := rxSendUds_all full writable data
    have after := ih (s := s.send (fun uds => rxSendUds results uds data)) (n := n + data.length)
      (by rw [send_of_socket socket]) writable'
      (by rw [send_of_socket socket, counted, bytes, wrap64_add])
    rw [sendAll_cons, flatten_cons, length_append, ← Nat.add_assoc, ← append_assoc, ← written]
    exact after

structure Untouched (s s' : Stream) : Prop where
  id : s'.id = s.id
  state : s'.state = s.state
  txSeq : s'.txSeq = s.txSeq
  txBytes : s'.txBytes = s.txBytes
  credit : s'.credit = s.credit
  windowBytes : s'.windowBytes = s.windowBytes
  txBytesAcked : s'.txBytesAcked = s.txBytesAcked
  lastWindowGrant : s'.lastWindowGrant = s.lastWindowGrant
  txThread : s'.txThread = s.txThread
  txDone : s'.txDone = s.txDone

theorem Untouched.refl (s : Stream) : Untouched s s :=
  ⟨rfl, rfl, rfl, rfl, rfl, rfl, rfl, rfl, rfl, rfl⟩

variable {s' : Stream}

theorem Untouched.send (untouched : Untouched s s')
    (write : Socket → Socket × Nat) : Untouched s (s'.send write) := by
  unfold Stream.send
  split
  · exact untouched
  · exact { untouched with }

theorem untouched_sendAll (results : Nat → SendResult) (s : Stream) (payloads : List Payload) :
    Untouched s (sendAll results s payloads) := by
  induction payloads using List.reverseRecOn with
  | nil => exact Untouched.refl s
  | append_singleton rest data ih =>
    rw [sendAll, foldl_concat]
    exact ih.send _

theorem Untouched.reorder (untouched : Untouched s s') (rb : Buffer) :
    Untouched s { s' with reorder := rb } := { untouched with }

theorem Untouched.drainUds (untouched : Untouched s s') (results : Nat → SendResult)
    (bufSize fuel : Nat) : Untouched s (drainUds results bufSize fuel s') := by
  induction fuel generalizing s' with
  | zero => exact untouched
  | succ fuel ih =>
    rw [Rx.drainUds]
    split
    · exact ih ((untouched.reorder _).send _)
    · exact untouched.reorder _

theorem untouched_deliverFrame (kmalloc : Nat → Bool) (results : Nat → SendResult) (g : Geometry)
    (s : Stream) (mem : Memory) (seq payloadLen : Nat) :
    Untouched s (deliverFrame kmalloc results g s mem seq payloadLen) := by
  unfold deliverFrame rxDeliverStream drainQueue
  split
  · exact (((Untouched.refl s).send _).reorder _).drainUds results _ _
  · exact ((Untouched.refl s).reorder _).drainUds results _ _

/-! ## One arrival -/

section Arrival

variable {allocated lossless : Prop} {g : Geometry} {frames : List Payload} {arrived : Nat → Prop}
  {c : Nat} {s : Stream}

theorem Receiving.blank {m : Nat} (empty : s.reorder = ⟨.empty, [], 0, 0, 0, m⟩) (word : m ≤ u32Max)
    (socket : s.udsSock = some uds) (writable : uds.shutWr = false) (unwritten : uds.written = [])
    (counter : s.rxBytes = 0) : Receiving allocated lossless g frames (fun _ => False) 0 s where
  tracks := by
    rw [empty]
    exact ⟨rfl, Nat.zero_le _, by simp, by simp, by simp, by simp⟩
  counted := by
    rw [empty]
    exact ⟨rfl, rfl⟩
  idle := by rw [empty]
  fits := by simp [Fits, empty]
  steady _ := by
    rw [empty]
    exact ⟨⟨by simp, by simp, Nat.zero_le _⟩, ⟨rfl, rfl⟩, rfl, word⟩
  socket := ⟨uds, socket, writable, unwritten⟩
  bytes := counter

section

variable (receiving : Receiving allocated lossless g frames arrived c s)
include receiving

theorem Receiving.append
    (more : List Payload) : Receiving allocated lossless g (frames ++ more) arrived c s where
  __ := receiving
  tracks := receiving.tracks.append more
  socket := by
    rw [take_append_of_le_length receiving.tracks.le]
    exact receiving.socket
  bytes := by
    rw [take_append_of_le_length receiving.tracks.le]
    exact receiving.bytes

theorem Receiving.congr {arrived' : Nat → Prop} {s' : Stream}
    (same : ∀ k, arrived k ↔ arrived' k) (reorder : s'.reorder = s.reorder)
    (socket : s'.udsSock = s.udsSock) (bytes : s'.rxBytes = s.rxBytes) :
    Receiving allocated lossless g frames arrived' c s' := by
  obtain rfl : arrived = arrived' := funext fun k => propext (same k)
  constructor
  · rw [reorder]
    exact receiving.tracks
  · rw [reorder]
    exact receiving.counted
  · rw [reorder]
    exact receiving.idle
  · rw [reorder]
    exact receiving.fits
  · rw [reorder]
    exact receiving.steady
  · rw [socket]
    exact receiving.socket
  · rw [bytes]
    exact receiving.bytes

end

variable {seq : Nat} {data : Payload}

variable {kmalloc : Nat → Bool}

theorem Steady.arrive {rb : Buffer} (steady : Steady rb) (allocated : ∀ i, kmalloc i = true)
    (bound : seq ≤ u64Max) : Steady (arrive kmalloc rb seq data).1 := by
  rw [arrive_eq_arriveBuffered steady allocated]
  exact steady.arriveBuffered allocated bound

theorem deliverFrame_new {flags : UInt8} {rest : List UInt8}
    (tracks : Tracks lossless frames arrived c s.reorder) (counted : Counted s.reorder)
    (idle : s.reorder.drained = []) (fits : Fits g.bufSize s.reorder)
    (word : frames.length ≤ 2 ^ 64) (frame : frames[seq]? = some data) (new : ¬arrived seq)
    (length : (encode id seq typeData flags 0 data.length ++ (data ++ rest)).length ≤ g.bufSize)
    (kmalloc : Nat → Bool) (results : Nat → SendResult) (mem : Memory)
    (room : lossless → (∀ i, kmalloc i = true) ∧
      (seq = s.reorder.nextExpected ∨ s.reorder.pendingCount < s.reorder.maxBuffered)) :
    let slot := landing g mem (encode id seq typeData flags 0 data.length ++ (data ++ rest))
    let r := arrive kmalloc s.reorder seq data
    ∃ c', c ≤ c' ∧ deliverFrame kmalloc results g s slot (decodeSeq (slot 0)) data.length =
        { sendAll results s r.2 with reorder := r.1 } ∧
      Tracks lossless frames (fun k => arrived k ∨ k = seq) c' r.1 ∧ Fits g.bufSize r.1 ∧
      frames.take c ++ r.2 = frames.take c' := by
  intro slot r
  have bound : seq < 2 ^ 64 := (List.getElem?_eq_some_iff.mp frame).1.trans_le word
  have number : decodeSeq (slot 0) = seq :=
    decodeSeq_encode (header_landing mem (length_encode ..) length) bound
  have payload : g.payload slot data.length = data := payload_landing mem (length_encode ..) length
  have small : headerSize + data.length ≤ g.bufSize := by
    simp only [length_append, length_encode] at length
    omega
  obtain ⟨c', le, tracks', released⟩ := tracks.arrive word idle kmalloc frame new room
  refine ⟨c', le, ?_, tracks', fits.arrive _ _ (by omega), released⟩
  rw [number, deliverFrame_eq kmalloc results _ _ counted fits small, payload]

theorem Receiving.deliver {mem : Memory} {action : RxAction} {dec : RxDecoded}
    (receiving : Receiving allocated lossless g frames arrived c s)
    (full : ∀ i, results i = .full) (word : frames.length ≤ 2 ^ 64) (id_lt : id < 2 ^ 32)
    (carries : Carries id frames seq wire) (frame : frames[seq]? = some data)
    (length : wire.length ≤ g.bufSize)
    (classified : classifyFrame wire.length (landing g mem wire 0) = (action, dec))
    (new : ¬arrived seq) (allocates : allocated → ∀ i, kmalloc i = true)
    (room : lossless → allocated ∧
      (seq = s.reorder.nextExpected ∨ s.reorder.pendingCount < s.reorder.maxBuffered)) :
    ∃ c' s', c ≤ c' ∧
      deliverFrame kmalloc results g s (landing g mem wire) (decodeSeq (landing g mem wire 0))
        dec.payloadLen = s' ∧ Untouched s s' ∧
      s'.reorder = (arrive kmalloc s.reorder seq data).1 ∧
      Receiving allocated lossless g frames (fun k => arrived k ∨ k = seq) c' s' := by
  obtain ⟨stamped, data, rest, rfl, present⟩ := carries
  cases present.symm.trans frame
  rw [classifyFrame_landing mem id_lt (by decide) length] at classified
  cases classified
  obtain ⟨c', le, delivered, tracks, fits, released⟩ := deliverFrame_new receiving.tracks
    receiving.counted receiving.idle receiving.fits word frame new length kmalloc results mem
    fun h => ⟨allocates (room h).1, (room h).2⟩
  obtain ⟨uds, socket, writable, written⟩ := receiving.socket
  obtain ⟨⟨uds', socket', writable', written'⟩, bytes'⟩ := sendAll_all full socket writable
    receiving.bytes (arrive kmalloc s.reorder seq data).2
  rw [written, ← flatten_append, released] at written'
  rw [← length_append, ← flatten_append, released] at bytes'
  have bound : seq < 2 ^ 64 := (List.getElem?_eq_some_iff.mp frame).1.trans_le word
  refine ⟨c', _, le, delivered, { untouched_sendAll results s _ with }, rfl, ?_⟩
  refine ⟨tracks, receiving.counted.arrive _ _ _, arrive_drained _ _ _ _, fits, fun h => ?_,
    ⟨uds', socket', writable', written'⟩, bytes'⟩
  exact Steady.arrive (receiving.steady h) (allocates h) (by unfold u64Max; omega)

end Arrival

end Urp.Rx
