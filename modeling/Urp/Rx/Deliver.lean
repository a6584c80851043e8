import Urp.Reorder.Tracks
import Urp.Stream.State

/-!
# Delivery of a stream's frames to its socket

The part of the receive completion that hands a data frame to the local socket.
-/

namespace Urp.Rx

open Urp.Lib Urp.Reorder Urp.Frame Urp.Stream

/-- Write `len` bytes and say how many the byte counters grow by. -/
def sendCounted (results : Nat → SendResult) (uds : Socket) (data : List UInt8) (len : Nat) :
    Socket × Nat :=
  if len = 0 then (uds, 0)
  else
    match uds.sendmsg results data with
    | (uds', .error _) => (uds', 0)
    | (uds', .ok _) => (uds', len)

def rxSendUds (results : Nat → SendResult) (uds : Socket) (data : List UInt8) : Socket × Nat :=
  sendCounted results uds data data.length

def rxSendUdsSg (results : Nat → SendResult) (g : Geometry) (uds : Socket) (mem : Memory)
    (payloadLen : Nat) : Socket × Nat :=
  sendCounted results uds (gather mem (fillKvecsLen g payloadLen)) payloadLen

end Urp.Rx

namespace Urp.Stream

open Urp.Lib Urp.Reorder Urp.Frame Urp.Rx

def send (s : Stream) (write : Socket → Socket × Nat) : Stream :=
  match s.udsSock with
  | none => s
  | some uds =>
    { s with udsSock := some (write uds).1, rxBytes := wrap64 (s.rxBytes + (write uds).2) }

end Urp.Stream

namespace Urp.Rx

open Urp.Lib Urp.Reorder Urp.Frame Urp.Stream

def drainUds (results : Nat → SendResult) (bufSize : Nat) : Nat → Stream → Stream
  | 0, s => s
  | fuel + 1, s =>
    match drainNext s.reorder bufSize with
    | (rb, .ok d) =>
      drainUds results bufSize fuel
        (Stream.send { s with reorder := rb } (fun uds => rxSendUds results uds d.data))
    | (rb, .error _) => { s with reorder := rb }

def drainQueue (results : Nat → SendResult) (bufSize : Nat) (s : Stream) : Stream :=
  drainUds results bufSize s.reorder.drained.length s

def rxDeliverStream (kmalloc : Nat → Bool) (results : Nat → SendResult) (g : Geometry)
    (s : Stream) (seq : Nat) (payload : Payload) : Stream :=
  drainQueue results g.bufSize { s with reorder := (insert kmalloc s.reorder seq payload).1 }

def contiguous (g : Geometry) (mem : Memory) (payloadLen : Nat) : Payload :=
  if 1 < g.numChunks ∧ g.chunkSize < headerSize + payloadLen then gatherPayload g mem payloadLen
  else readSegment mem ⟨0, headerSize, payloadLen⟩

def deliverFrame (kmalloc : Nat → Bool) (results : Nat → SendResult) (g : Geometry) (s : Stream)
    (mem : Memory) (seq payloadLen : Nat) : Stream :=
  if seq = s.reorder.nextExpected then
    let s' := s.send (fun uds => rxSendUdsSg results g uds mem payloadLen)
    drainQueue results g.bufSize { s' with reorder := advance kmalloc s'.reorder }
  else rxDeliverStream kmalloc results g s seq (contiguous g mem payloadLen)

variable {s : Stream}

theorem deliverFrame_stale (kmalloc : Nat → Bool) (results : Nat → SendResult) (g : Geometry)
    {seq : Nat} (mem : Memory) (payloadLen : Nat) (stale : seq < s.reorder.nextExpected)
    (idle : s.reorder.drained = []) : deliverFrame kmalloc results g s mem seq payloadLen = s := by
  have refused : (insert kmalloc s.reorder seq (contiguous g mem payloadLen)).1 = s.reorder := by
    rw [Reorder.insert, if_pos stale]
  rw [deliverFrame, if_neg (Nat.ne_of_lt stale), rxDeliverStream, refused, drainQueue, idle]
  rfl

def deliverBuffered (kmalloc : Nat → Bool) (results : Nat → SendResult) (g : Geometry) (s : Stream)
    (mem : Memory) (seq payloadLen : Nat) : Stream :=
  rxDeliverStream kmalloc results g s seq (contiguous g mem payloadLen)

/-! ## Delivery as writes of what the buffer releases -/

section Write

variable {results : Nat → SendResult} {uds : Socket} {data : List UInt8}

@[simp] theorem rxSendUds_nil : rxSendUds results uds [] = (uds, 0) := rfl

section

variable (writable : uds.shutWr = false)
include writable

theorem rxSendUds_full (nonempty : data.length ≠ 0) (result : results uds.sends = .full) :
    rxSendUds results uds data =
      ({ uds with written := uds.written ++ data, sends := uds.sends + 1 }, data.length) := by
  simp [rxSendUds, sendCounted, Socket.sendmsg, writable, nonempty, result]

theorem rxSendUds_short {n : Nat} (nonempty : data.length ≠ 0)
    (result : results uds.sends = .short n) :
    rxSendUds results uds data = ({ uds with
        written := uds.written ++ data.take (min n (data.length - 1))
        sends := uds.sends + 1 }, data.length) := by
  simp [rxSendUds, sendCounted, Socket.sendmsg, writable, nonempty, result]

theorem rxSendUds_error (nonempty : data.length ≠ 0) (result : results uds.sends = .error) :
    rxSendUds results uds data = ({ uds with sends := uds.sends + 1 }, 0) := by
  simp [rxSendUds, sendCounted, Socket.sendmsg, writable, nonempty, result]

end

end Write

variable {g : Geometry}

theorem contiguous_eq (mem : Memory) {payloadLen : Nat}
    (fits : headerSize + payloadLen ≤ g.bufSize) :
    contiguous g mem payloadLen = g.payload mem payloadLen := by
  unfold contiguous
  split
  · exact gatherPayload_eq mem fits
  · rename_i together
    exact readSegment_chunk_zero mem (g.le_chunkSize fits together)

def sendAll (results : Nat → SendResult) (s : Stream) (payloads : List Payload) : Stream :=
  payloads.foldl (fun s data => s.send (fun uds => rxSendUds results uds data)) s

section

variable (results : Nat → SendResult)

theorem sendAll_cons (s : Stream) (data : Payload) (rest : List Payload) :
    sendAll results s (data :: rest) =
      sendAll results (s.send (fun uds => rxSendUds results uds data)) rest := rfl

theorem send_of_socket {uds : Socket} (socket : s.udsSock = some uds)
    (write : Socket → Socket × Nat) :
    s.send write =
      { s with udsSock := some (write uds).1, rxBytes := wrap64 (s.rxBytes + (write uds).2) } := by
  simp [Stream.send, socket]

theorem send_reorder (s : Stream) (write : Socket → Socket × Nat) (rb : Buffer) :
    Stream.send { s with reorder := rb } write = { s.send write with reorder := rb } := by
  cases s with
  | mk _ _ _ _ _ _ _ _ _ _ udsSock _ _ => cases udsSock <;> rfl

theorem sendAll_reorder (s : Stream) (rb : Buffer) (payloads : List Payload) :
    sendAll results { s with reorder := rb } payloads =
      { sendAll results s payloads with reorder := rb } := by
  induction payloads generalizing s with
  | nil => rfl
  | cons data rest ih =>
    simp only [sendAll, List.foldl_cons] at ih ⊢
    rw [send_reorder, ih]

theorem reorder_send (s : Stream) (write : Socket → Socket × Nat) :
    (s.send write).reorder = s.reorder := by
  unfold Stream.send
  split <;> rfl

theorem drainUds_eq (bufSize fuel : Nat) (s : Stream) :
    drainUds results bufSize fuel s =
      { sendAll results s ((drainAll bufSize fuel s.reorder).2.map Node.data) with
        reorder := (drainAll bufSize fuel s.reorder).1 } := by
  induction fuel generalizing s with
  | zero => rfl
  | succ fuel ih =>
    rw [drainUds, drainAll]
    rcases drainNext_cases s.reorder bufSize with ⟨e, refused⟩ | ⟨d, rest, -, -, popped⟩
    · simp only [refused]
      rfl
    · simp only [popped, ih, send_reorder, sendAll_reorder]
      rfl

theorem drainQueue_eq {bufSize : Nat}
    (counted : Counted s.reorder) (fits : Fits bufSize s.reorder) :
    drainQueue results bufSize s =
      { sendAll results s (s.reorder.drained.map Node.data) with reorder := s.reorder.flush } := by
  rw [drainQueue, drainUds_eq, drainAll_eq counted (fun d queued => fits d (.inr queued))]

end

section DeliverFrame

variable {g : Geometry} {s : Stream} {payloadLen : Nat}

theorem rxSendUdsSg_eq (results : Nat → SendResult) (uds : Socket) (mem : Memory)
    (small : headerSize + payloadLen ≤ g.bufSize) :
    rxSendUdsSg results g uds mem payloadLen =
      rxSendUds results uds (g.payload mem payloadLen) := by
  rw [rxSendUdsSg, rxSendUds, gather_fillKvecsLen mem small, Geometry.payload, length_window]

theorem deliverBuffered_eq (kmalloc : Nat → Bool) (results : Nat → SendResult) (mem : Memory)
    (seq : Nat) (counted : Counted s.reorder) (fits : Fits g.bufSize s.reorder)
    (small : headerSize + payloadLen ≤ g.bufSize) :
    deliverBuffered kmalloc results g s mem seq payloadLen = { sendAll results s
          (arriveBuffered kmalloc s.reorder seq (g.payload mem payloadLen)).2 with
        reorder := (arriveBuffered kmalloc s.reorder seq (g.payload mem payloadLen)).1 } := by
  have short : (g.payload mem payloadLen).length ≤ g.bufSize := by
    rw [Geometry.payload, length_window]
    omega
  rw [deliverBuffered, rxDeliverStream, contiguous_eq mem small,
    drainQueue_eq results (counted.insert kmalloc seq _) (fits.insert kmalloc seq short),
    sendAll_reorder]
  rfl

theorem deliverFrame_eq (kmalloc : Nat → Bool) (results : Nat → SendResult) (mem : Memory)
    (seq : Nat) (counted : Counted s.reorder) (fits : Fits g.bufSize s.reorder)
    (small : headerSize + payloadLen ≤ g.bufSize) :
    deliverFrame kmalloc results g s mem seq payloadLen =
      { sendAll results s (arrive kmalloc s.reorder seq (g.payload mem payloadLen)).2 with
        reorder := (arrive kmalloc s.reorder seq (g.payload mem payloadLen)).1 } := by
  unfold deliverFrame arrive
  split
  · have write : (fun uds => rxSendUdsSg results g uds mem payloadLen) =
        fun uds => rxSendUds results uds (g.payload mem payloadLen) :=
      funext fun uds => rxSendUdsSg_eq results uds mem small
    simp only [reorder_send, write]
    rw [drainQueue_eq results (counted.advance kmalloc) (fits.advance kmalloc), sendAll_reorder]
    rfl
  · exact deliverBuffered_eq kmalloc results mem seq counted fits small

end DeliverFrame

/-- A data frame as the receive completion sees it. The posted receive bounds its length. -/
structure Arrival (g : Geometry) where
  kmalloc : Nat → Bool
  mem : Memory
  seq : Nat
  payloadLen : Nat
  fits : headerSize + payloadLen ≤ g.bufSize
  word : seq ≤ u64Max

def Arrival.payload {g : Geometry} (a : Arrival g) : Payload := g.payload a.mem a.payloadLen

theorem Arrival.length_payload (a : Arrival g) : a.payload.length ≤ g.bufSize := by
  have fits := a.fits
  rw [Arrival.payload, Geometry.payload, length_window]
  omega

def deliver (results : Nat → SendResult) {g : Geometry} (s : Stream) (a : Arrival g) : Stream :=
  deliverFrame a.kmalloc results g s a.mem a.seq a.payloadLen

theorem deliver_eq (results : Nat → SendResult) (a : Arrival g)
    (counted : Counted s.reorder) (fits : Fits g.bufSize s.reorder) :
    deliver results s a = { sendAll results s (arrive a.kmalloc s.reorder a.seq a.payload).2 with
        reorder := (arrive a.kmalloc s.reorder a.seq a.payload).1 } :=
  deliverFrame_eq a.kmalloc results a.mem a.seq counted fits a.fits

def deliverAll (results : Nat → SendResult) {g : Geometry} (s : Stream)
    (arrivals : List (Arrival g)) : Stream :=
  arrivals.foldl (deliver results) s

theorem deliverAll_concat (results : Nat → SendResult) (s : Stream)
    (arrivals : List (Arrival g)) (a : Arrival g) :
    deliverAll results s (arrivals ++ [a]) = deliver results (deliverAll results s arrivals) a := by
  simp [deliverAll]

def oneByte (g : Geometry) (seq : Nat) (word : seq ≤ u64Max) (b : UInt8) : Arrival g where
  kmalloc _ := true
  mem _ _ := b
  seq := seq
  payloadLen := 1
  fits := le_trans (by decide : headerSize + 1 ≤ bufferSizeMin) g.size_min
  word := word

@[simp] theorem oneByte_payload (g : Geometry) (seq : Nat) (word : seq ≤ u64Max) (b : UInt8) :
    (oneByte g seq word b).payload = [b] := rfl

def openStream (maxBuffered : Nat) : Stream where
  id := 1
  state := .established
  txSeq := 0
  txBytes := 0
  rxBytes := 0
  credit := Credit.init 0
  reorder := ⟨.empty, [], 0, 0, 0, maxBuffered⟩
  windowBytes := Window.windowBytesMin
  txBytesAcked := 0
  lastWindowGrant := 0
  udsSock := some .fresh
  txThread := none
  txDone := false

end Urp.Rx
