import Urp.Conn.Control

/-!
# The contexts that share the queue pairs
-/

namespace Urp.Conn

open Urp.Control

inductive IdPhase where
  | made | requested | resolvingAddr | resolvingRoute | routed | connecting | accepted
  | established | down | destroyed
deriving DecidableEq, Repr

inductive Handler where
  | idle | addrResolved | routeResolved | qpCreated | established | down
deriving DecidableEq, Repr

/-- A `struct rdma_cm_id` and the statement that its `urp_cm_handler` is at. -/
structure CmId where
  qpIndex : Nat
  phase : IdPhase
  handler : Handler
deriving DecidableEq, Repr

inductive RetryWork where
  | idle | started | qpDestroyed | tornDown
  | made (id : Nat)
deriving DecidableEq, Repr

/-- An entry of `ep->qps`. The connect work that runs has read the id it will use. -/
structure Entry where
  cmId : Option Nat
  qp : Bool
  established : Bool
  connectQueued : Bool
  connectWork : Option (Option Nat)
  retryQueued : Bool
  retryWork : RetryWork
deriving DecidableEq, Repr

def Entry.fresh : Entry := ⟨none, false, false, false, none, false, .idle⟩

def Entry.unconnecting (e : Entry) : Bool := !e.connectQueued && e.connectWork.isNone

def Entry.queueRetry (again : Bool) (e : Entry) : Entry :=
  { e with retryQueued := e.retryQueued || again }

def Entry.retryOnSilentDrop (isInitiator again : Bool) (e : Entry) : Entry :=
  if e.established && e.qp && isInitiator then { e with established := false }.queueRetry again
    else e

structure Table where
  entry : Nat → Entry
  id : Nat → CmId
  next : Nat

namespace Table

def empty : Table := ⟨fun _ => .fresh, fun _ => ⟨0, .destroyed, .idle⟩, 0⟩

def modify (t : Table) (i : Nat) (f : Entry → Entry) : Table :=
  { t with entry := Function.update t.entry i (f (t.entry i)) }

def setId (t : Table) (k : Nat) (f : CmId → CmId) : Table :=
  { t with id := Function.update t.id k (f (t.id k)) }

def setPhase (t : Table) (k : Nat) (phase : IdPhase) : Table :=
  t.setId k fun c => { c with phase }

def returns (t : Table) (k : Nat) (phase : IdPhase) : Table :=
  t.setId k fun c => { c with phase, handler := .idle }

def newId (t : Table) (i : Nat) (phase : IdPhase) : Table :=
  { t with id := Function.update t.id t.next ⟨i, phase, .idle⟩, next := t.next + 1 }

def makeCmId (t : Table) (i : Nat) : Table :=
  (t.newId i .made).modify i fun e => { e with cmId := some t.next }

def alive (t : Table) (c : Option Nat) : Bool := c.any fun k => (t.id k).phase ≠ .destroyed

def unhandled (t : Table) (c : Option Nat) : Bool := c.all fun k => (t.id k).handler = .idle

def cmIdDestroy (t : Table) (i : Nat) : Table :=
  match (t.entry i).cmId with
  | none => t
  | some k => (t.setPhase k .destroyed).modify i fun e => { e with cmId := none }

end Table

inductive Fault where
  | freed | connect | disconnect | destroyQp
deriving DecidableEq, Repr

inductive Dialer where
  | finished | waiting
  | make (i : Nat)
  | resolve (i id : Nat)
deriving DecidableEq, Repr

def Dialer.resting : Dialer → Bool
  | .finished | .waiting => true
  | _ => false

inductive RequestStep where
  | decided | qpDestroyed | tornDown | recorded
deriving DecidableEq, Repr

/-- The statement that `urp_cm_accept_one` is at. -/
structure Request where
  child : Nat
  slot : Nat
  step : RequestStep
deriving DecidableEq, Repr

inductive Stage where
  | join
  | cancelRetry (i : Nat)
  | listener
  | disconnect (i : Nat)
  | destroyQp (i : Nat)
  | destroyId (i : Nat)
  | cancelWork (i : Nat)
  | free
deriving DecidableEq, Repr

inductive Lock where
  | free | activating
  | pass (stage : Stage) (drain : Bool)
deriving DecidableEq, Repr

/-- `struct urp_endpoint` and the contexts that run on it. `drains` counts those that have marked it
and do not have the lock back yet. -/
structure Contexts where
  isInitiator : Bool
  fast : Bool
  numQps : Nat
  state : EpState
  allocated : Bool
  table : Table
  listening : Bool
  request : Option Request
  connectStarted : Bool
  thread : Dialer
  eager : Dialer
  probing : Bool
  lock : Lock
  drains : Nat
  faults : List Fault

inductive Who where
  | thread | eager
deriving DecidableEq, Repr

def Who.next (w : Who) (n i : Nat) : Dialer :=
  if i + 1 < n then .make (i + 1)
  else
    match w with
    | .thread => .waiting
    | .eager => .finished

inductive Report where
  | addrResolved | routeResolved | established | down
deriving DecidableEq, Repr

inductive ContextEvent where
  | activate
  | listen
  | listenUds
  | activated
  | unwind
  | client
  | dialEagerly
  | dial (w : Who) (ok : Bool)
  | deliver (k : Nat) (r : Report)
  | handle (k : Nat) (ok again : Bool)
  | reject
  | request (i : Nat) (reuse : Bool)
  | accept (ok : Bool)
  | connectStart (i : Nat)
  | connect (i : Nat) (ok : Bool)
  | missed (i : Nat) (again : Bool)
  | retryStart (i : Nat)
  | retry (i : Nat) (ok again : Bool)
  | markDraining
  | drain
  | pass

namespace Contexts

def init (isInitiator fast : Bool) (numQps : Nat) : Contexts where
  isInitiator := isInitiator
  fast := fast
  numQps := numQps
  state := .creating
  allocated := false
  table := .empty
  listening := false
  request := none
  connectStarted := false
  thread := .finished
  eager := .finished
  probing := false
  lock := .free
  drains := 0
  faults := []

def setTable (m : Contexts) (t : Table) : Contexts := { m with table := t }

def modify (m : Contexts) (i : Nat) (f : Entry → Entry) : Contexts :=
  m.setTable (m.table.modify i f)

def touch (m : Contexts) : Contexts :=
  if m.allocated then m else { m with faults := .freed :: m.faults }

def call (m : Contexts) (f : Fault) (c : Option Nat) : Contexts :=
  if m.table.alive c then m else { m with faults := f :: m.faults }

def destroyQp (m : Contexts) (i : Nat) : Contexts :=
  if (m.table.entry i).qp then
    (m.call .destroyQp (m.table.entry i).cmId).modify i fun e => { e with qp := false }
  else m

/-- The second half of `urp_qp_hard_teardown`. -/
def destroyCmId (m : Contexts) (i : Nat) : Contexts :=
  m.setTable ((m.table.cmIdDestroy i).modify i fun e => { e with established := false })

def dialer (m : Contexts) : Who → Dialer
  | .thread => m.thread
  | .eager => m.eager

def setDialer (m : Contexts) (w : Who) (d : Dialer) : Contexts :=
  match w with
  | .thread => { m with thread := d }
  | .eager => { m with eager := d }

def nextDial (m : Contexts) (w : Who) (i : Nat) : Contexts := m.setDialer w (w.next m.numQps i)

/-- The next statement of `urp_lazy_connect_start`, in `urp_qp_resolve_addr`. -/
def dial (m : Contexts) (w : Who) (ok : Bool) : Option Contexts :=
  match m.dialer w with
  | .make i =>
    some (if ok then
      (m.touch.setTable (m.table.makeCmId i)).setDialer w (.resolve i m.table.next)
    else (m.touch.modify i (.queueRetry true)).nextDial w i)
  | .resolve i k =>
    if ok then some ((m.setTable (m.table.setPhase k .resolvingAddr)).nextDial w i)
    else if m.table.unhandled (m.table.entry i).cmId then
      some (((m.touch.setTable (m.table.cmIdDestroy i)).modify i (.queueRetry true)).nextDial w i)
    else none
  | _ => none

/-- The connection manager calls `urp_cm_handler`, once at a time for an id. -/
def deliver (m : Contexts) (k : Nat) (r : Report) : Option Contexts :=
  let c := m.table.id k
  let start (h : Handler) := some (m.setTable (m.table.setId k fun c => { c with handler := h }))
  if c.handler = .idle then
    match r with
    | .addrResolved => if c.phase = .resolvingAddr then start .addrResolved else none
    | .routeResolved => if c.phase = .resolvingRoute then start .routeResolved else none
    | .established =>
      if c.phase = .connecting ∨ c.phase = .accepted then start .established else none
    | .down =>
      if c.phase ≠ .made ∧ c.phase ≠ .requested ∧ c.phase ≠ .destroyed then start .down else none
  else none

/-- The next statement of `urp_cm_handler`. An id whose handler fails is destroyed by the connection
manager. -/
def handle (m : Contexts) (k : Nat) (ok again : Bool) : Option Contexts :=
  let c := m.table.id k
  let i := c.qpIndex
  let failed := m.setTable (m.table.returns k .destroyed)
  match c.handler with
  | .idle => none
  | .addrResolved =>
    some (if ok then m.setTable (m.table.returns k .resolvingRoute) else failed)
  | .routeResolved =>
    some (if ok then
      m.touch.setTable ((m.table.setId k fun c =>
        { c with phase := .routed, handler := .qpCreated }).modify i fun e =>
          { e with qp := true, cmId := some k })
    else failed)
  | .qpCreated =>
    some (m.touch.setTable ((m.table.returns k c.phase).modify i fun e =>
      { e with connectQueued := true }))
  | .established =>
    let m := m.setTable (m.table.returns k .established)
    some (if m.allocated ∧ i < m.numQps then m.modify i fun e => { e with established := true }
      else m)
  | .down =>
    let m := m.setTable (m.table.returns k .down)
    some (if m.allocated ∧ i < m.numQps then
      m.modify i fun e => { e with established := false }.queueRetry (m.isInitiator && again)
    else m)

/-- The next statement of `urp_cm_accept_one`. -/
def accept (m : Contexts) (ok : Bool) : Option Contexts :=
  match m.request with
  | none => none
  | some r =>
    let next (m : Contexts) (step : RequestStep) := { m with request := some { r with step } }
    let failed (m : Contexts) : Contexts :=
      { m.setTable (m.table.setPhase r.child .destroyed) with request := none }
    match r.step with
    | .decided =>
      some (if ok then
        if (m.table.entry r.slot).cmId = none then next m.touch .tornDown
        else next (m.touch.destroyQp r.slot) .qpDestroyed
      else failed m)
    | .qpDestroyed =>
      if m.table.unhandled (m.table.entry r.slot).cmId then
        some (next (m.touch.destroyCmId r.slot) .tornDown)
      else none
    | .tornDown =>
      some (if ok then
        next (m.touch.modify r.slot fun e => { e with qp := true, cmId := some r.child }) .recorded
      else failed m)
    | .recorded =>
      some (if ok then
        { m.touch.setTable (m.table.setPhase r.child .accepted) with request := none }
      else
        failed ((m.touch.call .destroyQp (some r.child)).modify r.slot fun e =>
          { e with qp := false, cmId := none }))

/-- `urp_connect_work_fn` behind its read of `cm_id`. -/
def connect (m : Contexts) (i : Nat) (ok : Bool) : Option Contexts :=
  match (m.table.entry i).connectWork with
  | none => none
  | some c =>
    let done := (m.call .connect c).modify i fun e => { e with connectWork := none }
    some (match c with
      | none => done
      | some k =>
        if ok ∧ (m.table.id k).phase = .routed then
          done.setTable (done.table.setPhase k .connecting)
        else done)

def retryEnd (m : Contexts) (i : Nat) (again : Bool) : Contexts :=
  m.modify i fun e => { e with retryWork := .idle }.queueRetry (m.isInitiator && again)

/-- The next statement of `urp_connect_retry_work_fn`. -/
def retry (m : Contexts) (i : Nat) (ok again : Bool) : Option Contexts :=
  let go (m : Contexts) (w : RetryWork) := m.modify i fun e => { e with retryWork := w }
  match (m.table.entry i).retryWork with
  | .idle => none
  | .started => some (go (m.touch.destroyQp i) .qpDestroyed)
  | .qpDestroyed =>
    if m.table.unhandled (m.table.entry i).cmId then some (go (m.touch.destroyCmId i) .tornDown)
    else none
  | .tornDown =>
    some (if ok then go (m.touch.setTable (m.table.makeCmId i)) (.made m.table.next)
      else m.touch.retryEnd i again)
  | .made k =>
    if ok then some ((m.setTable (m.table.setPhase k .resolvingAddr)).retryEnd i false)
    else if m.table.unhandled (m.table.entry i).cmId then
      some ((m.touch.setTable (m.table.cmIdDestroy i)).retryEnd i again)
    else none

/-- The next statement of the pass: of `urp_socket_cleanup`, of `urp_rdma_cleanup`, of
`urp_qps_destroy`. The loops are skipped where there is no array. -/
def passStep (m : Contexts) (drain : Bool) (stage : Stage) : Option Contexts :=
  let go (m : Contexts) (s : Stage) : Contexts := { m with lock := .pass s drain }
  let inside (i : Nat) : Bool := m.allocated && decide (i < m.numQps)
  match stage with
  | .join =>
    if m.thread.resting then
      some (go { m with thread := .finished, probing := false } (.cancelRetry 0))
    else none
  | .cancelRetry i =>
    if inside i then
      if (m.table.entry i).retryWork = .idle then
        some (go (m.modify i fun e => { e with retryQueued := false }) (.cancelRetry (i + 1)))
      else none
    else some (go m .listener)
  | .listener =>
    if m.request = none then some (go { m with listening := false } (.disconnect 0)) else none
  | .disconnect i =>
    some (if inside i then
      go (if (m.table.entry i).established ∧ (m.table.entry i).cmId.isSome then
          (m.call .disconnect (m.table.entry i).cmId).modify i fun e =>
            { e with established := false }
        else m) (.disconnect (i + 1))
    else go m (.destroyQp 0))
  | .destroyQp i =>
    some (if inside i then go (m.destroyQp i) (.destroyQp (i + 1)) else go m (.destroyId 0))
  | .destroyId i =>
    if inside i then
      if m.table.unhandled (m.table.entry i).cmId then
        some (go (m.setTable (m.table.cmIdDestroy i)) (.destroyId (i + 1)))
      else none
    else some (go m (.cancelWork 0))
  | .cancelWork i =>
    if inside i then
      if (m.table.entry i).connectWork = none ∧ (m.table.entry i).retryWork = .idle then
        some (go (m.modify i fun e => { e with connectQueued := false, retryQueued := false })
          (.cancelWork (i + 1)))
      else none
    else some (go m .free)
  | .free =>
    some { m with
      allocated := false
      state := if drain then .stopped else m.state
      lock := .free }

/-- `activate` to `unwind` are the statements of `urp_endpoint_activate`. -/
def step (m : Contexts) : ContextEvent → Option Contexts
  | .activate =>
    if m.lock = .free ∧ m.state = .creating then
      some { m with
        lock := .activating
        allocated := true
        table := { m.table with entry := fun _ => .fresh } }
    else none
  | .listen =>
    if m.lock = .activating ∧ !m.isInitiator then some { m with listening := true } else none
  | .listenUds =>
    if m.lock = .activating ∧ m.isInitiator ∧ !m.fast then some { m with thread := .waiting }
    else none
  | .activated =>
    if m.lock = .activating ∧
        (if m.isInitiator then m.fast ∨ m.thread = .waiting else m.listening) then
      some { m with
        lock := .free
        state := .active
        probing := !m.fast
        eager := if m.fast && m.isInitiator then .waiting else .finished }
    else none
  | .unwind =>
    if m.lock = .activating ∧ m.thread = .finished then
      some { m with lock := .pass (.cancelRetry 0) false }
    else none
  | .client =>
    if m.thread = .waiting then
      some (if m.state = .active ∧ !m.connectStarted then
        { m with connectStarted := true, thread := .make 0 } else m)
    else none
  | .dialEagerly =>
    if m.eager = .waiting then
      some (if m.connectStarted then { m with eager := .finished }
        else { m with connectStarted := true, eager := .make 0 })
    else none
  | .dial w ok => m.dial w ok
  | .deliver k r => m.deliver k r
  | .handle k ok again => m.handle k ok again
  | .reject =>
    if m.listening ∧ m.request = none then some (m.touch.setTable (m.table.newId 0 .requested))
    else none
  | .request i reuse =>
    if m.listening ∧ m.request = none ∧ i < m.numQps then
      some { m.touch.setTable ((m.table.newId i .requested).modify i fun e =>
          { e with established := e.established && !reuse }) with
        request := some ⟨m.table.next, i, .decided⟩ }
    else none
  | .accept ok => m.accept ok
  | .connectStart i =>
    if i < m.numQps ∧ (m.table.entry i).connectQueued ∧ (m.table.entry i).connectWork = none then
      some (m.touch.modify i fun e => { e with connectQueued := false, connectWork := some e.cmId })
    else none
  | .connect i ok => if i < m.numQps then m.connect i ok else none
  | .missed i again =>
    if i < m.numQps ∧ m.probing then
      some (m.touch.modify i (.retryOnSilentDrop m.isInitiator again))
    else none
  | .retryStart i =>
    if i < m.numQps ∧ (m.table.entry i).retryQueued ∧ (m.table.entry i).retryWork = .idle then
      some (m.touch.modify i fun e =>
        { e with
          retryQueued := false
          retryWork := if m.state = .active then .started else .idle })
    else none
  | .retry i ok again => if i < m.numQps then m.retry i ok again else none
  | .markDraining =>
    if m.lock = .free ∧ m.state ≠ .stopped then
      some { m with state := .draining, drains := m.drains + 1 }
    else none
  | .drain =>
    if m.lock = .free ∧ 0 < m.drains then
      some { m with drains := m.drains - 1, lock := .pass .join true }
    else none
  | .pass =>
    match m.lock with
    | .pass stage drain => m.passStep drain stage
    | _ => none

end Contexts

end Urp.Conn
