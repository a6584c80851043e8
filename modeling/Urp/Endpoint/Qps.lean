import Urp.Stream.State

/-!
# The queue pairs of an endpoint
-/

namespace Urp

open Urp.Lib Urp.Stream

inductive QpHealth where
  | qualifying | active | draining | removed
deriving DecidableEq, Repr

/-- `struct urp_qp`. -/
structure Qp where
  cmId : Bool
  qp : Bool
  established : Bool
  acceptSlotHeld : Bool
  peerSupportsWindow : Bool
  peerSupportsTstamp : Bool
  connectAttempts : Nat
  health : QpHealth
  credit : Credit
deriving DecidableEq, Repr

def Qp.eligible (q : Qp) : Bool :=
  q.established && q.qp && q.health ≠ .draining && q.health ≠ .removed

/-- The queue pairs of an endpoint with `rr_counter`. -/
structure Qps where
  isInitiator : Bool
  numQps : Nat
  qp : Nat → Qp
  qpsConnected : Nat
  qpsAccepted : Nat
  rrCounter : Nat
  connected : Bool
  connectFailed : Bool
  windowNegotiated : Bool
  tstampNegotiated : Bool

/-- What the peer supports, as the connection event tells, and what this host enables. -/
structure Capabilities where
  window : Bool
  tstamp : Bool
  advertises : Bool
  samples : Bool

inductive Accepting where
  | unshared | uncreated | accepted
deriving DecidableEq, Repr

inductive CmEvent where
  | dial (i : Nat)
  | routeResolved (i : Nat)
  | connectRequest (peerIndex : Option Nat) (c : Capabilities) (a : Accepting)
  | established (i : Nat) (c : Capabilities)
  | down (i maxAttempts : Nat)
  | missed (i maxAttempts : Nat)
  | retry (i maxAttempts : Nat) (dialed : Bool)

namespace Qps

def init (isInitiator : Bool) (numQps numBufs : Nat) : Qps where
  isInitiator := isInitiator
  numQps := numQps
  qp _ := ⟨false, false, false, false, false, false, 0, .qualifying, Credit.init (numBufs / 2)⟩
  qpsConnected := 0
  qpsAccepted := 0
  rrCounter := 0
  connected := false
  connectFailed := false
  windowNegotiated := false
  tstampNegotiated := false

def selectLoop (q : Qps) : (tries counter : Nat) → Nat × Option Nat
  | 0, counter => (counter, none)
  | tries + 1, counter =>
    let i := incr32 counter % q.numQps
    if (q.qp i).eligible then (incr32 counter, some i) else selectLoop q tries (incr32 counter)

def selectRoundRobin (q : Qps) : Qps × Option Nat :=
  let found := q.selectLoop q.numQps q.rrCounter
  ({ q with rrCounter := found.1 }, found.2)

def modify (q : Qps) (i : Nat) (f : Qp → Qp) : Qps :=
  { q with qp := Function.update q.qp i (f (q.qp i)) }

def demote (q : Qps) (i : Nat) : Qps :=
  let connected := decr32 q.qpsConnected
  { q.modify i (fun qp => { qp with established := false }) with
    qpsConnected := connected
    connected := q.connected && !decide (connected < q.numQps) }

def demoteEstablished (q : Qps) (i : Nat) : Qps :=
  if (q.qp i).established then q.demote i else q

def releaseSlot (q : Qps) (i : Nat) : Qps :=
  { q.modify i (fun qp => { qp with acceptSlotHeld := false }) with
    qpsAccepted := decr32 q.qpsAccepted }

def terminal (q : Qps) : Qps := { q with connectFailed := q.connectFailed || q.isInitiator }

def retryConnect (q : Qps) (i maxAttempts : Nat) : Qps :=
  if q.isInitiator ∧ (q.qp i).connectAttempts < maxAttempts then
    q.modify i fun qp => { qp with connectAttempts := qp.connectAttempts + 1 }
  else q.terminal

def down (q : Qps) (i maxAttempts : Nat) : Qps :=
  if i < q.numQps then
    let q := q.demoteEstablished i
    let q := if !q.isInitiator ∧ (q.qp i).acceptSlotHeld then q.releaseSlot i else q
    q.retryConnect i maxAttempts
  else q.terminal

def retryOnSilentDrop (q : Qps) (i maxAttempts : Nat) : Qps :=
  (q.demote i).retryConnect i maxAttempts

def missed (q : Qps) (i maxAttempts : Nat) : Qps :=
  if (q.qp i).established ∧ (q.qp i).qp ∧ (q.qp i).health = .active then
    let q := q.modify i fun qp => { qp with health := .draining }
    if q.isInitiator then q.retryOnSilentDrop i maxAttempts else q
  else q

def hardTeardown (q : Qps) (i : Nat) : Qps :=
  q.modify i fun qp => { qp with cmId := false, qp := false, established := false }

def retry (q : Qps) (i maxAttempts : Nat) (dialed : Bool) : Qps :=
  let q := q.hardTeardown i
  if dialed then q.modify i fun qp => { qp with cmId := true } else q.retryConnect i maxAttempts

def establish (q : Qps) (c : Capabilities) (qp : Qp) : Qp :=
  { qp with
    established := true
    peerSupportsWindow := if q.isInitiator then c.window else qp.peerSupportsWindow
    peerSupportsTstamp := if q.isInitiator then c.tstamp else qp.peerSupportsTstamp
    connectAttempts := 0
    health := .active }

def latch (q : Qps) (i : Nat) (c : Capabilities) : Qps :=
  if q.qpsConnected = q.numQps then
    { q with
      connected := true
      windowNegotiated := c.advertises && (q.qp i).peerSupportsWindow
      tstampNegotiated := c.samples && (q.qp i).peerSupportsTstamp }
  else q

def established (q : Qps) (i : Nat) (c : Capabilities) : Qps :=
  if i < q.numQps then
    { q.modify i (q.establish c) with qpsConnected := incr32 q.qpsConnected }.latch i c
  else q

def slotDecide (q : Qps) (peerIndex : Option Nat) : Option Nat :=
  let i := (if 1 < q.numQps then peerIndex else none).getD q.qpsAccepted
  if i < q.numQps then some i else none

def releaseStale (q : Qps) (i : Nat) : Qps :=
  if (q.qp i).acceptSlotHeld then (q.demoteEstablished i).releaseSlot i else q

def teardownStale (q : Qps) (i : Nat) : Qps :=
  if (q.qp i).cmId then q.hardTeardown i else q

def claim (q : Qps) (i : Nat) (c : Capabilities) : Qps :=
  { q.modify i (fun qp =>
      { qp with
        cmId := true
        qp := true
        acceptSlotHeld := true
        peerSupportsWindow := c.window
        peerSupportsTstamp := c.tstamp }) with
    qpsAccepted := incr32 q.qpsAccepted }

def acceptOne (q : Qps) (peerIndex : Option Nat) (c : Capabilities) (a : Accepting) : Qps :=
  match q.slotDecide peerIndex with
  | none => q
  | some i =>
    match a with
    | .unshared => q.releaseStale i
    | .uncreated => (q.releaseStale i).teardownStale i
    | .accepted => ((q.releaseStale i).teardownStale i).claim i c

def cm (q : Qps) : CmEvent → Qps
  | .dial i => q.modify i fun qp => { qp with cmId := true }
  | .routeResolved i => q.modify i fun qp => { qp with qp := true }
  | .connectRequest peerIndex c a => q.acceptOne peerIndex c a
  | .established i c => q.established i c
  | .down i maxAttempts => q.down i maxAttempts
  | .missed i maxAttempts => q.missed i maxAttempts
  | .retry i maxAttempts dialed => q.retry i maxAttempts dialed

/-! ## The role of an endpoint -/

section Role

variable (q : Qps) (i maxAttempts : Nat)

/-- What no event of the connection manager changes. -/
def kind : Bool × Nat := (q.isInitiator, q.numQps)

@[simp] theorem kind_modify (f : Qp → Qp) : (q.modify i f).kind = q.kind := rfl

@[simp] theorem kind_demote : (q.demote i).kind = q.kind := rfl

@[simp] theorem kind_releaseSlot : (q.releaseSlot i).kind = q.kind := rfl

@[simp] theorem kind_hardTeardown : (q.hardTeardown i).kind = q.kind := rfl

@[simp] theorem kind_demoteEstablished : (q.demoteEstablished i).kind = q.kind := by
  unfold demoteEstablished
  split <;> rfl

@[simp] theorem kind_releaseStale : (q.releaseStale i).kind = q.kind := by
  unfold releaseStale
  split <;> simp

@[simp] theorem kind_teardownStale : (q.teardownStale i).kind = q.kind := by
  unfold teardownStale
  split <;> rfl

@[simp] theorem kind_claim (c : Capabilities) : (q.claim i c).kind = q.kind := rfl

@[simp] theorem kind_retryConnect : (q.retryConnect i maxAttempts).kind = q.kind := by
  unfold retryConnect
  split <;> rfl

@[simp] theorem kind_latch (c : Capabilities) : (q.latch i c).kind = q.kind := by
  unfold latch
  split <;> rfl

theorem kind_cm (e : CmEvent) : (q.cm e).kind = q.kind := by
  cases e with
  | dial i | routeResolved i => rfl
  | connectRequest peerIndex c a =>
    simp only [cm, acceptOne]
    split
    · rfl
    · split <;> simp
  | established i c =>
    simp only [cm, established]
    split
    · rw [kind_latch]
      rfl
    · rfl
  | down i maxAttempts =>
    simp only [cm, down]
    split
    · split <;> simp
    · rfl
  | missed i maxAttempts =>
    simp only [cm, missed]
    split
    · split <;> simp [retryOnSilentDrop]
    · rfl
  | retry i maxAttempts dialed =>
    simp only [cm, retry]
    split <;> simp

theorem isInitiator_cm (e : CmEvent) : (q.cm e).isInitiator = q.isInitiator :=
  congrArg Prod.fst (q.kind_cm e)

theorem numQps_cm (e : CmEvent) : (q.cm e).numQps = q.numQps := congrArg Prod.snd (q.kind_cm e)

end Role

end Qps

end Urp
