import Urp.Reorder.Buffer
import Urp.Window

/-!
# Streams

The state machine of a stream, its credits, its local socket and the record that an endpoint keeps
for it.
-/

namespace Urp.Stream

open Urp.Lib Urp.Reorder Urp.Window

inductive State where
  | synSent | synReceived | established | finWait | closeWait | closed
deriving DecidableEq, Repr

inductive Event where
  | rxSyn | rxFin | rxRst | txFin | txRst
deriving DecidableEq, Repr

/-- `struct urp_stream_transition`. -/
structure Transition where
  next : State
  shutdownWr : Bool
  shutdownRdwr : Bool
  destroy : Bool
  accepted : Bool
deriving DecidableEq, Repr

def nextState (cur : State) : Event → Transition
  | .rxSyn =>
    match cur with
    | .synSent | .synReceived | .established => ⟨.established, false, false, false, true⟩
    | _ => ⟨cur, false, false, false, false⟩
  | .rxFin =>
    match cur with
    | .established => ⟨.closeWait, true, false, false, true⟩
    | .finWait => ⟨.closed, true, false, false, true⟩
    | _ => ⟨cur, true, false, false, true⟩
  | .rxRst => ⟨.closed, false, true, true, true⟩
  | .txFin =>
    match cur with
    | .established => ⟨.finWait, false, false, false, true⟩
    | .closeWait => ⟨.closed, false, false, false, true⟩
    | _ => ⟨cur, false, false, false, true⟩
  | .txRst => ⟨.closed, false, true, false, true⟩

/-- `struct urp_credit`. -/
structure Credit where
  sendCredits : Nat
  creditsToGrant : Nat
  threshold : Nat
  initialCredits : Nat
deriving DecidableEq, Repr

def Credit.init (initial : Nat) : Credit := ⟨initial, 0, initial / 4, initial⟩

def Credit.consume (cs : Credit) : Credit × Except Errno Unit :=
  if cs.sendCredits = 0 then (cs, .error .EAGAIN)
  else ({ cs with sendCredits := cs.sendCredits - 1 }, .ok ())

def Credit.grant (cs : Credit) (n : Nat) : Credit :=
  { cs with sendCredits := min (cs.sendCredits + n) u16Max }

def Credit.recordRecv (cs : Credit) : Credit :=
  if cs.creditsToGrant < u16Max then { cs with creditsToGrant := cs.creditsToGrant + 1 } else cs

def Credit.takeGrants (cs : Credit) : Credit × Nat :=
  ({ cs with creditsToGrant := 0 }, cs.creditsToGrant)

def Credit.shouldGrant (cs : Credit) : Bool :=
  cs.threshold = 0 || decide (cs.threshold ≤ cs.creditsToGrant)

inductive SendResult where
  | full
  | short (n : Nat)
  | error
deriving DecidableEq, Repr

/-- The socket of a client or backend, with what was written to it. -/
structure Socket where
  written : List UInt8
  sends : Nat
  shutRd : Bool
  shutWr : Bool
deriving DecidableEq, Repr

def Socket.fresh : Socket := ⟨[], 0, false, false⟩

/-- `results i` is what the write number `i` of the socket does: it takes all bytes, takes fewer
than asked, or fails. -/
def Socket.sendmsg (results : Nat → SendResult) (uds : Socket) (data : List UInt8) :
    Socket × Except Errno Nat :=
  if uds.shutWr then (uds, .error .EPIPE)
  else
    match results uds.sends with
    | .full =>
      ({ uds with written := uds.written ++ data, sends := uds.sends + 1 }, .ok data.length)
    | .short n =>
      ({ uds with
        written := uds.written ++ data.take (min n (data.length - 1))
        sends := uds.sends + 1 }, .ok (min n (data.length - 1)))
    | .error => ({ uds with sends := uds.sends + 1 }, .error .EPIPE)

inductive Phase where
  | reading
  | posting (qp : Nat) (wire : List UInt8) (len : Nat)
  | accounting (len : Nat)
  | exited
deriving DecidableEq, Repr

/-- A thread in `urp_stream_tx_fn`. -/
structure Pump where
  sendSyn : Bool
  phase : Phase
deriving DecidableEq, Repr

end Urp.Stream

namespace Urp

open Urp.Lib Urp.Reorder Urp.Window Urp.Stream

/-- `struct urp_stream`. -/
structure Stream where
  id : Nat
  state : Stream.State
  txSeq : Nat
  txBytes : Nat
  rxBytes : Nat
  credit : Credit
  reorder : Buffer
  windowBytes : Nat
  txBytesAcked : Nat
  lastWindowGrant : Nat
  udsSock : Option Socket
  txThread : Option Pump
  txDone : Bool
deriving DecidableEq

structure Sizes where
  sysctlWindow : Nat
  bufSize : Nat
  numBufs : Nat
  linkMbps : Nat
  rttNs : Nat
deriving DecidableEq, Repr

def Sizes.window (z : Sizes) : Nat :=
  windowForStream z.sysctlWindow z.bufSize z.numBufs z.linkMbps z.rttNs

namespace Stream

def create (z : Sizes) (id : Nat) : Option Stream :=
  (alloc 0 (reorderDepthForWindow z.window)).map fun reorder =>
    { id, state := .synSent, txSeq := 0, txBytes := 0, rxBytes := 0
      credit := Credit.init (z.numBufs / 2), reorder, windowBytes := z.window
      txBytesAcked := 0, lastWindowGrant := 0, udsSock := none, txThread := none, txDone := false }

def blank (z : Sizes) (id : Nat) : Stream where
  id := id
  state := .synSent
  txSeq := 0
  txBytes := 0
  rxBytes := 0
  credit := Credit.init (z.numBufs / 2)
  reorder := ⟨.empty, [], 0, 0, 0, reorderDepthForWindow z.window⟩
  windowBytes := z.window
  txBytesAcked := 0
  lastWindowGrant := 0
  udsSock := none
  txThread := none
  txDone := false

theorem create_eq (z : Sizes) (id : Nat) : create z id = some (blank z id) := by
  have positive : reorderDepthForWindow z.window ≠ 0 := by
    have bounds := (reorderDepthForWindow_bounds z.window).1
    unfold reorderMinEntries at bounds
    omega
  simp [create, alloc, positive, blank]

end Stream

end Urp
