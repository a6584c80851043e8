import Urp.Conn.Control
import Urp.Endpoint.Qps
import Urp.Frame.Layout
import Urp.Genl.Attr
import Urp.Lib.Mutex
import Urp.Lib.Run

/-!
# The sizes of an endpoint

NEW publishes an endpoint before it is activated, so SET, DEL and the drain can
meet it at any point of its activation. The handlers run one statement at a
time, and the mutex of the endpoint is free in between where they drop it: NEW
between the creation and the activation, the drain between its announcement and
the teardown. A SET writes one field after the other while it has the mutex.

The memory of an endpoint stays: that it does is a matter of its references.
-/

namespace Urp.Netlink.Sizing

open Urp.Lib Urp.Lib.Mutex Urp.Control Urp.Frame Urp.Stream Urp.Genl Option

structure NewAttrs extends Config where
  count_admitted : ∀ n ∈ bufferCount, bufferCountMin ≤ n ∧ n ≤ bufferCountMax
  size_admitted : ∀ n ∈ bufferSize, bufferSizeMin ≤ n ∧ n ≤ bufferSizeMax

structure SetAttrs extends Attrs where
  name : List UInt8
  count_admitted : ∀ n ∈ bufferCount, bufferCountMin ≤ n ∧ n ≤ bufferCountMax

structure Endpoint extends Control.Endpoint where
  name : List UInt8
  numBufs : Nat
  bufSize : Nat
  entries : List Qp
  qpsConnected : Nat
  rrCounter : Nat
  proc : Bool
  streams : Bool
  rdma : Bool
  socket : Bool
  probing : Bool

/-- `inForce` notes the buffer count and the buffer size at the activation. -/
structure Cell where
  ep : Endpoint
  inForce : Option (Nat × Nat)

/-- A new record is zeroed beyond what `urp_endpoint_create` fills in. -/
def Endpoint.make (name : List UInt8) (ep : Control.Endpoint) : Endpoint :=
  { ep with
    name := nlaStrscpy nameMax name
    numBufs := 0
    bufSize := 0
    entries := []
    qpsConnected := 0
    rrCounter := 0
    proc := false
    streams := false
    rdma := false
    socket := false
    probing := false }

def zeroQp : Qp := ⟨false, false, false, false, false, false, 0, .qualifying, ⟨0, 0, 0, 0⟩⟩

def initQp (numBufs : Nat) (qp : Qp) : Qp :=
  { qp with credit := Credit.init (numBufs / 2), health := .qualifying, connectAttempts := 0 }

inductive Part where
  | proc | qps | streams | rdma | socket | probes
deriving DecidableEq

def Endpoint.bring (ep : Endpoint) : Part → Endpoint
  | .proc => { ep with proc := true }
  | .qps => { ep with qps := true, entries := List.replicate ep.numQps zeroQp }
  | .streams => { ep with streams := true }
  | .rdma => { ep with rdma := true }
  | .socket => { ep with socket := true }
  | .probes => { ep with probing := true }

def Endpoint.tear (ep : Endpoint) : Part → Endpoint
  | .proc => { ep with proc := false }
  | .qps => { ep with qps := false, entries := [] }
  | .streams => { ep with streams := false }
  | .rdma => { ep with rdma := false }
  | .socket => { ep with socket := false }
  | .probes => { ep with probing := false }

inductive Caller where
  | new (e : Errno) | set | del | exit
deriving DecidableEq

inductive Command where
  | new | set | del | exit
deriving DecidableEq

def Caller.command : Caller → Command
  | .new _ => .new
  | .set => .set
  | .del => .del
  | .exit => .exit

inductive Handler where
  -- `urp_new_endpoint_doit`, with the attributes or the error of their parser
  | new (tb : Except Errno NewAttrs)
  -- `urp_endpoint_activate`
  | activate (o : Nat)
  | activating (o : Nat)
  | resolveNumBufs (o : Nat)
  | resolveBufSize (o : Nat)
  | addresses (o : Nat)
  | bring (part : Part) (o : Nat)
  | qpsFill (o i : Nat)
  | raise (o : Nat)
  | unwind (part : Part) (o : Nat) (e : Errno)
  | failed (o : Nat) (e : Errno)
  -- `urp_set_endpoint_doit`
  | set (tb : Except Errno SetAttrs)
  | setState (o : Nat) (attrs : SetAttrs)
  | setLock (o : Nat) (attrs : SetAttrs)
  | setNumQps (o : Nat) (attrs : SetAttrs)
  | setBufferCount (o : Nat) (attrs : SetAttrs)
  | setPassword (o : Nat) (attrs : SetAttrs)
  | setUnlock (o : Nat) (drainRequested : Bool)
  | setRefused (o : Nat) (e : Errno)
  -- `urp_del_endpoint_doit`, `urp_endpoint_drain_all` and `urp_endpoint_remove`
  | del (tb : Except Errno (List UInt8))
  | walk
  | remove (k : Caller) (o : Nat)
  -- `urp_endpoint_drain`
  | drain (k : Caller) (o : Nat)
  | draining (k : Caller) (o : Nat)
  | drainAgain (k : Caller) (o : Nat)
  | tear (part : Part) (k : Caller) (o : Nat)
  | stop (k : Caller) (o : Nat)
  | done (c : Command) (ret : Except Errno Unit)

namespace Handler

def locks : Handler → Option Nat
  | .activating o | .resolveNumBufs o | .resolveBufSize o | .addresses o | .bring _ o
  | .qpsFill o _ | .raise o | .unwind _ o _ | .failed o _ | .setNumQps o _ | .setBufferCount o _
  | .setPassword o _ | .setUnlock o _ | .setRefused o _ | .draining _ o | .tear _ _ o
  | .stop _ o => some o
  | _ => none

def command : Handler → Command
  | .new _ | .activate _ | .activating _ | .resolveNumBufs _ | .resolveBufSize _ | .addresses _
  | .bring _ _ | .qpsFill _ _ | .raise _ | .unwind _ _ _ | .failed _ _ => .new
  | .set _ | .setState _ _ | .setLock _ _ | .setNumQps _ _ | .setBufferCount _ _
  | .setPassword _ _ | .setUnlock _ _ | .setRefused _ _ => .set
  | .del _ => .del
  | .walk => .exit
  | .remove k _ | .drain k _ | .draining k _ | .drainAgain k _ | .tear _ k _ | .stop k _ =>
    k.command
  | .done c _ => c

/-- Inside `urp_endpoint_drain`. -/
def drains : Handler → Bool
  | .drain _ _ | .draining _ _ | .drainAgain _ _ | .tear _ _ _ | .stop _ _ => true
  | _ => false

/-- Where the handler goes when `urp_endpoint_remove` or `urp_endpoint_drain` returns. -/
def returned : Caller → Handler
  | .new e => .done .new (.error e)
  | .set => .done .set (.ok ())
  | .del => .done .del (.ok ())
  | .exit => .walk

/-- The label at the end of `urp_endpoint_activate` where a part goes that failed, or that has been
torn down there. -/
def unwinding (o : Nat) (e : Errno) : Part → Handler
  | .proc => .failed o e
  | .qps => .unwind .proc o e
  | .streams => .unwind .qps o e
  | .rdma => .unwind .streams o e
  | .socket | .probes => .unwind .rdma o e

def broughtUp (o : Nat) : Part → Handler
  | .proc => .bring .qps o
  | .qps => .qpsFill o 0
  | .streams => .bring .rdma o
  | .rdma => .bring .socket o
  | .socket | .probes => .raise o

def tornDown (k : Caller) (o : Nat) : Part → Handler
  | .probes => .tear .socket k o
  | .socket => .tear .streams k o
  | .streams => .tear .rdma k o
  | .rdma => .tear .qps k o
  | .qps => .tear .proc k o
  | .proc => .stop k o

end Handler

abbrev Table := List UInt8 → Option Nat

structure Choice where
  ok : Bool
  err : Errno
  addr : Nat
  advertise : Nat
  key : List UInt8

section Step

variable (sha256 : List UInt8 → Vector UInt8 pskHashLen) (fastEnabled : Bool)

/-- One statement of a handler, or `none` at the end. -/
def act (table : Table) (objects : Nat → Option Cell) (c : Choice) :
    Handler → Option (Table × Effect Cell Handler)
  | .new (.error e) => some (table, .move (.done .new (.error e)))
  | .new (.ok attrs) =>
    match create sha256 fastEnabled c.advertise attrs.toConfig with
    | .error e => some (table, .move (.done .new (.error e)))
    | .ok ep =>
      let made := Endpoint.make attrs.name ep
      if !c.ok then some (table, .move (.done .new (.error c.err)))
      else if (table made.name).isSome then some (table, .move (.done .new (.error .EEXIST)))
      else
        some (Function.update table made.name (some c.addr),
          .create c.addr ⟨made, none⟩ (.activate c.addr))
  | .activate o => (objects o).map fun _ => (table, .acquire o (.activating o))
  | .activating o => (objects o).map fun x =>
    if x.ep.state ≠ .creating then (table, .release o x (.remove (.new .EINVAL) o))
    else
      (table, .update o { x with inForce := some (x.ep.bufferCount, x.ep.bufferSize) }
        (.resolveNumBufs o))
  | .resolveNumBufs o => (objects o).map fun x =>
    (table, .update o { x with ep.numBufs := Frame.resolveNumBufs x.ep.bufferCount }
      (.resolveBufSize o))
  | .resolveBufSize o => (objects o).map fun x =>
    (table, .update o { x with ep.bufSize := Frame.resolveBufSize x.ep.bufferSize } (.addresses o))
  | .addresses o => (objects o).map fun x =>
    (table, .update o x (if c.ok then .bring .proc o else .failed o c.err))
  | .bring part o => (objects o).map fun x =>
    if c.ok then (table, .update o { x with ep := x.ep.bring part } (.broughtUp o part))
    else (table, .update o x (.unwinding o c.err part))
  | .qpsFill o i => (objects o).map fun x =>
    if i < x.ep.numQps then
      (table, .update o { x with ep.entries := x.ep.entries.modify i (initQp x.ep.numBufs) }
        (.qpsFill o (i + 1)))
    else
      (table, .update o { x with ep.qpsConnected := 0, ep.rrCounter := 0 } (.bring .streams o))
  | .raise o => (objects o).map fun x =>
    (table, .release o { x with ep.state := .active, ep.probing := x.ep.kind ≠ .fast }
      (.done .new (.ok ())))
  | .unwind part o e => (objects o).map fun x =>
    (table, .update o { x with ep := x.ep.tear part } (.unwinding o e part))
  | .failed o e => (objects o).map fun x => (table, .release o x (.remove (.new e) o))
  | .set (.error e) => some (table, .move (.done .set (.error e)))
  | .set (.ok attrs) =>
    match c.ok, table (nlaStrscpy nameMax attrs.name) with
    | true, some o => some (table, .move (.setState o attrs))
    | _, _ => some (table, .move (.done .set (.error .ENOENT)))
  | .setState o attrs =>
    if attrs.state.any (· ≠ .draining) then some (table, .move (.done .set (.error .EINVAL)))
    else some (table, .move (.setLock o attrs))
  | .setLock o attrs => (objects o).map fun _ => (table, .acquire o (.setNumQps o attrs))
  | .setNumQps o attrs => (objects o).map fun x =>
    match setSizing x.ep.qps attrs.numQps x.ep.numQps with
    | .error e => (table, .update o x (.setRefused o e))
    | .ok numQps => (table, .update o { x with ep.numQps := numQps } (.setBufferCount o attrs))
  | .setBufferCount o attrs => (objects o).map fun x =>
    match setSizing x.ep.qps attrs.bufferCount x.ep.bufferCount with
    | .error e => (table, .update o x (.setRefused o e))
    | .ok bufferCount => (table, .update o { x with ep.bufferCount := bufferCount }
        (.setPassword o attrs))
  | .setPassword o attrs => (objects o).map fun x =>
    (table, .update o { x with ep.toEndpoint := Control.setPassword x.ep.toEndpoint attrs.password }
      (.setUnlock o attrs.state.isSome))
  | .setUnlock o drainRequested => (objects o).map fun x =>
    (table, .release o x (if drainRequested then .drain .set o else .done .set (.ok ())))
  | .setRefused o e => (objects o).map fun x => (table, .release o x (.done .set (.error e)))
  | .del (.error e) => some (table, .move (.done .del (.error e)))
  | .del (.ok name) =>
    match c.ok, table (nlaStrscpy nameMax name) with
    | true, some o => some (table, .move (.remove .del o))
    | _, _ => some (table, .move (.done .del (.error .ENOENT)))
  | .walk =>
    match table c.key with
    | some o => some (table, .move (.remove .exit o))
    | none => some (table, .move (.done .exit (.ok ())))
  -- Only the one that takes the endpoint out of the table drains it.
  | .remove k o => (objects o).map fun x =>
    if table x.ep.name = some o then
      (Function.update table x.ep.name none, .move (.drain k o))
    else (table, .move (.returned k))
  | .drain k o => (objects o).map fun _ => (table, .acquire o (.draining k o))
  | .draining k o => (objects o).map fun x =>
    if x.ep.state = .stopped then (table, .release o x (.returned k))
    else (table, .release o { x with ep.state := .draining } (.drainAgain k o))
  | .drainAgain k o => (objects o).map fun _ => (table, .acquire o (.tear .probes k o))
  | .tear part k o => (objects o).map fun x =>
    (table, .update o { x with ep := x.ep.tear part } (.tornDown k o part))
  | .stop k o => (objects o).map fun x =>
    (table, .release o { x with ep.state := .stopped } (.returned k))
  | .done _ _ => none

inductive Request where
  | new (tb : Except Errno NewAttrs)
  | set (tb : Except Errno SetAttrs)
  | del (tb : Except Errno (List UInt8))
  | exit

def Request.handler : Request → Handler
  | .new tb => .new tb
  | .set tb => .set tb
  | .del tb => .del tb
  | .exit => .walk

inductive Event where
  | spawn (r : Request)
  | act (i : Nat) (c : Choice)

structure Machine where
  table : Table
  mon : Monitor Cell Handler

def Machine.init : Machine := ⟨fun _ => none, .init⟩

/-- A statement of `urp_new_endpoint_doit`, of `urp_set_endpoint_doit` or of a removal. -/
def step (m : Machine) : Event → Option Machine
  | .spawn r => some { m with mon := m.mon.spawn r.handler }
  | .act i c => do
    let h ← m.mon.threads[i]?
    let (table, e) ← act sha256 fastEnabled m.table m.mon.objects c h
    let mon ← m.mon.apply i e
    return ⟨table, mon⟩

end Step

/-! ## What each handler knows -/

structure Live (x : Cell) : Prop where
  length : x.ep.entries.length = x.ep.numQps
  inForce : x.inForce = some (x.ep.bufferCount, x.ep.bufferSize)
  numBufs : x.ep.numBufs = resolveNumBufs x.ep.bufferCount
  bufSize : x.ep.bufSize = resolveBufSize x.ep.bufferSize

structure Rest (x : Cell) : Prop where
  live : x.ep.qps = true → Live x
  inactive : x.ep.state = .creating → x.ep.qps = false

inductive Phase where
  | rest | opened | counted | sized | live | unallocated

structure Opened (x : Cell) : Prop where
  qps : x.ep.qps = false
  inForce : x.inForce = some (x.ep.bufferCount, x.ep.bufferSize)

structure Counted (x : Cell) : Prop extends Opened x where
  numBufs : x.ep.numBufs = resolveNumBufs x.ep.bufferCount

structure Sized (x : Cell) : Prop extends Counted x where
  bufSize : x.ep.bufSize = resolveBufSize x.ep.bufferSize

def Phase.Knows : Phase → Cell → Prop
  | .rest, x => Rest x
  | .opened, x => Opened x
  | .counted, x => Counted x
  | .sized, x => Sized x
  | .live, x => Live x
  | .unallocated, x => x.ep.qps = false

def Handler.phase : Handler → Phase
  | .resolveNumBufs _ => .opened
  | .resolveBufSize _ => .counted
  | .addresses _ | .bring .proc _ | .bring .qps _ => .sized
  | .unwind .proc _ _ | .failed _ _ => .unallocated
  | .bring _ _ | .qpsFill _ _ | .raise _ | .unwind _ _ _ => .live
  | _ => .rest

def Handler.Knows (h : Handler) (x : Cell) : Prop := h.phase.Knows x

section Rules

variable {x : Cell} {part : Part} {o : Nat}

theorem Rest.of_unallocated (unallocated : x.ep.qps = false) : Rest x where
  live allocated := by simp [unallocated] at allocated
  inactive _ := unallocated

theorem Phase.Knows.live {phase : Phase} (known : phase.Knows x) (allocated : x.ep.qps = true) :
    Live x := by
  have absurd_of (unallocated : x.ep.qps = false) : Live x := by simp [unallocated] at allocated
  cases phase with
  | rest => exact Rest.live known allocated
  | opened => exact absurd_of (Opened.qps known)
  | counted => exact absurd_of (Counted.toOpened known).qps
  | sized => exact absurd_of (Sized.toCounted known).qps
  | live => exact known
  | unallocated => exact absurd_of known

theorem Live.tear (live : Live x) (other : part ≠ .qps) : Live { x with ep := x.ep.tear part } := by
  cases part with
  | qps => exact absurd rfl other
  | _ => exact { live with }

theorem Live.bring (live : Live x) (other : part ≠ .qps) :
    Live { x with ep := x.ep.bring part } := by
  cases part with
  | qps => exact absurd rfl other
  | _ => exact { live with }

theorem Rest.tear (rest : Rest x) : Rest { x with ep := x.ep.tear part } := by
  cases part with
  | qps => exact .of_unallocated rfl
  | _ => exact ⟨fun allocated => (rest.live allocated).tear (by simp), rest.inactive⟩

theorem Sized.bring_qps (sized : Sized x) : Live { x with ep := x.ep.bring .qps } where
  __ := sized
  length := List.length_replicate

theorem Sized.bring_proc (sized : Sized x) : Sized { x with ep := x.ep.bring .proc } where
  __ := sized

theorem Rest.open (rest : Rest x) (creating : x.ep.state = .creating) :
    Opened { x with inForce := some (x.ep.bufferCount, x.ep.bufferSize) } where
  qps := rest.inactive creating
  inForce := rfl

theorem Live.raise (live : Live x) (probing : Bool) :
    Rest { x with ep.state := .active, ep.probing := probing } where
  live _ := { live with }
  inactive creating := by cases creating

theorem Rest.setState (rest : Rest x) {state : EpState} (later : state ≠ .creating) :
    Rest { x with ep.state := state } where
  live allocated := ⟨(rest.live allocated).length, (rest.live allocated).inForce,
    (rest.live allocated).numBufs, (rest.live allocated).bufSize⟩
  inactive creating := absurd creating later

theorem setSizing_ok {α : Type} [DecidableEq α] {allocated : Bool} {want : Option α}
    {field v : α} (stored : setSizing allocated want field = .ok v) :
    v = field ∨ allocated = false := by
  cases want with
  | none =>
    cases stored
    exact .inl rfl
  | some want =>
    simp only [setSizing] at stored
    split_ifs at stored with fixed
    cases stored
    cases allocated with
    | false => exact .inr rfl
    | true => exact .inl (by simpa using fixed)

theorem Rest.setNumQps (rest : Rest x) {want : Option NumQps} {numQps : NumQps}
    (stored : setSizing x.ep.qps want x.ep.numQps = .ok numQps) :
    Rest { x with ep.numQps := numQps } := by
  rcases setSizing_ok stored with rfl | unallocated
  · exact rest
  · exact .of_unallocated unallocated

theorem Rest.setBufferCount (rest : Rest x) {want : Option Nat} {bufferCount : Nat}
    (stored : setSizing x.ep.qps want x.ep.bufferCount = .ok bufferCount) :
    Rest { x with ep.bufferCount := bufferCount } := by
  rcases setSizing_ok stored with rfl | unallocated
  · exact rest
  · exact .of_unallocated unallocated

theorem Rest.setPassword (rest : Rest x) (password : Option (List UInt8)) :
    Rest { x with ep.toEndpoint := Control.setPassword x.ep.toEndpoint password } := by
  cases password with
  | none => exact rest
  | some attr =>
    refine ⟨fun allocated => ?_, rest.inactive⟩
    have live := rest.live allocated
    exact { live with }

theorem rest_make {sha256 : List UInt8 → Vector UInt8 pskHashLen} {fastEnabled : Bool}
    {advertise : Nat} {attrs : NewAttrs} {ep : Control.Endpoint}
    (made : create sha256 fastEnabled advertise attrs.toConfig = .ok ep) :
    Rest ⟨Endpoint.make attrs.name ep, none⟩ := by
  obtain rfl := create_ok made
  exact .of_unallocated rfl

end Rules

section Run

variable {sha256 : List UInt8 → Vector UInt8 pskHashLen} {fastEnabled : Bool} {table table' : Table}
  {objects : Nat → Option Cell} {c : Choice} {h : Handler} {e : Effect Cell Handler}

@[simp] theorem command_returned (k : Caller) : (Handler.returned k).command = k.command := by
  cases k <;> rfl

@[simp] theorem locks_returned (k : Caller) : (Handler.returned k).locks = none := by
  cases k <;> rfl

variable {P : Effect Cell Handler → Prop}

theorem effect_of_some {e' : Effect Cell Handler} {table'' : Table}
    (acted : some (table'', e') = some (table', e)) (holds : P e') : P e := by
  cases acted
  exact holds

variable {o : Nat}

theorem effect_of_object
    {f : Cell → Table × Effect Cell Handler} (acted : (objects o).map f = some (table', e))
    (holds : ∀ x, objects o = some x → P (f x).2) : P e := by
  obtain ⟨x, made, same⟩ := map_eq_some_iff.mp acted
  exact effect_of_some (congrArg some same) (holds x made)

structure Keeps (objects : Nat → Option Cell) (h : Handler) (e : Effect Cell Handler) : Prop where
  proper : e.Proper Handler.locks Rest Handler.Knows objects h
  command : e.next.command = h.command

section Keeps

variable {h' : Handler} {o : Nat} {x x' : Cell}

theorem keeps_move (before : h.locks = none) (after : h'.locks = none)
    (command : h'.command = h.command) : Keeps objects h (.move h') :=
  ⟨⟨before, after⟩, command⟩

section

variable (made : objects o = some x)
include made

theorem keeps_acquire (before : h.locks = none)
    (after : h'.locks = some o) (knows : Rest x → h'.Knows x) (command : h'.command = h.command) :
    Keeps objects h (.acquire o h') :=
  ⟨Effect.proper_acquire made before after knows, command⟩

theorem keeps_update (before : h.locks = some o)
    (after : h'.locks = some o) (knows : h.Knows x → h'.Knows x')
    (command : h'.command = h.command) : Keeps objects h (.update o x' h') :=
  ⟨Effect.proper_update made before after knows, command⟩

theorem keeps_release (before : h.locks = some o)
    (after : h'.locks = none) (knows : h.Knows x → Rest x') (command : h'.command = h.command) :
    Keeps objects h (.release o x' h') :=
  ⟨Effect.proper_release made before after knows, command⟩

end

theorem keeps_new {tb : Except Errno NewAttrs}
    (acted : act sha256 fastEnabled table objects c (.new tb) = some (table', e)) :
    Keeps objects (.new tb) e := by
  have ended (ret : Except Errno Unit) : Keeps objects (.new tb) (.move (.done .new ret)) :=
    keeps_move rfl rfl rfl
  cases tb with
  | error err => exact effect_of_some acted (ended _)
  | ok attrs =>
    simp only [act] at acted
    split at acted
    · exact effect_of_some acted (ended _)
    · next ep made =>
      split_ifs at acted
      · exact effect_of_some acted (ended _)
      · exact effect_of_some acted (ended _)
      · exact effect_of_some acted ⟨⟨rfl, rfl, rest_make made⟩, rfl⟩

variable {part : Part}

section

variable (made : objects o = some x)
include made

theorem keeps_bring : Keeps objects (.bring part o)
      (.update o { x with ep := x.ep.bring part } (.broughtUp o part)) := by
  cases part with
  | proc => exact keeps_update made rfl rfl (fun sized => Sized.bring_proc sized) rfl
  | qps => exact keeps_update made rfl rfl (fun sized => Sized.bring_qps sized) rfl
  | _ => exact keeps_update made rfl rfl (fun live => Live.bring live (by simp)) rfl

theorem keeps_bring_failed (err : Errno) :
    Keeps objects (.bring part o) (.update o x (.unwinding o err part)) := by
  cases part with
  | proc | qps => exact keeps_update made rfl rfl (fun sized => sized.qps) rfl
  | _ => exact keeps_update made rfl rfl (fun known => known) rfl

theorem keeps_unwind (err : Errno) : Keeps objects (.unwind part o err)
      (.update o { x with ep := x.ep.tear part } (.unwinding o err part)) := by
  cases part with
  | proc => exact keeps_update made rfl rfl (fun unallocated => unallocated) rfl
  | qps => exact keeps_update made rfl rfl (fun _ => rfl) rfl
  | _ => exact keeps_update made rfl rfl (fun live => Live.tear live (by simp)) rfl

end

end Keeps

theorem act_keeps (acted : act sha256 fastEnabled table objects c h = some (table', e)) :
    Keeps objects h e := by
  cases h with
  | new tb => exact keeps_new acted
  | activate o | setLock o attrs | drain k o | drainAgain k o =>
    exact effect_of_object acted fun x made => keeps_acquire made rfl rfl (fun rest => rest) rfl
  | activating o =>
    refine effect_of_object acted fun x made => ?_
    split_ifs with started
    · exact keeps_release made rfl rfl (fun rest => rest) rfl
    · exact keeps_update made rfl rfl (fun rest => Rest.open rest (not_not.mp started)) rfl
  | resolveNumBufs o =>
    refine effect_of_object acted fun x made => keeps_update made rfl rfl (fun opened => ?_) rfl
    exact ⟨⟨opened.qps, opened.inForce⟩, rfl⟩
  | resolveBufSize o =>
    refine effect_of_object acted fun x made => keeps_update made rfl rfl (fun counted => ?_) rfl
    exact ⟨⟨⟨counted.qps, counted.inForce⟩, counted.numBufs⟩, rfl⟩
  | addresses o =>
    refine effect_of_object acted fun x made => ?_
    cases c.ok with
    | true => exact keeps_update made rfl rfl (fun sized => sized) rfl
    | false => exact keeps_update made rfl rfl (fun sized => sized.qps) rfl
  | bring part o =>
    refine effect_of_object acted fun x made => ?_
    split_ifs
    · exact keeps_bring made
    · exact keeps_bring_failed made c.err
  | qpsFill o i =>
    refine effect_of_object acted fun x made => ?_
    split_ifs
    · refine keeps_update made rfl rfl (fun live => ?_) rfl
      exact { live with length := (List.length_modify _ _ _).trans live.length }
    · refine keeps_update made rfl rfl (fun live => ?_) rfl
      exact { live with }
  | raise o =>
    exact effect_of_object acted fun x made =>
      keeps_release made rfl rfl (fun live => Live.raise live _) rfl
  | unwind part o err => exact effect_of_object acted fun x made => keeps_unwind made err
  | failed o err =>
    exact effect_of_object acted fun x made =>
      keeps_release made rfl rfl (fun unallocated => .of_unallocated unallocated) rfl
  | set tb | del tb =>
    cases tb with
    | error err => exact effect_of_some acted (keeps_move rfl rfl rfl)
    | ok attrs =>
      simp only [act] at acted
      split at acted
      · exact effect_of_some acted (keeps_move rfl rfl rfl)
      · exact effect_of_some acted (keeps_move rfl rfl rfl)
  | setState o attrs | walk =>
    simp only [act] at acted
    split at acted
    · exact effect_of_some acted (keeps_move rfl rfl rfl)
    · exact effect_of_some acted (keeps_move rfl rfl rfl)
  | setNumQps o attrs =>
    refine effect_of_object acted fun x made => ?_
    split
    · exact keeps_update made rfl rfl (fun rest => rest) rfl
    · next stored =>
      exact keeps_update made rfl rfl (fun rest => Rest.setNumQps rest stored) rfl
  | setBufferCount o attrs =>
    refine effect_of_object acted fun x made => ?_
    split
    · exact keeps_update made rfl rfl (fun rest => rest) rfl
    · next stored =>
      refine keeps_update made rfl rfl (fun rest => ?_) rfl
      exact Rest.setBufferCount rest stored
  | setPassword o attrs =>
    exact effect_of_object acted fun x made =>
      keeps_update made rfl rfl (fun rest => Rest.setPassword rest _) rfl
  | setUnlock o drainRequested =>
    refine effect_of_object acted fun x made => ?_
    cases drainRequested with
    | true | false => exact keeps_release made rfl rfl (fun rest => rest) rfl
  | setRefused o err =>
    exact effect_of_object acted fun x made => keeps_release made rfl rfl (fun rest => rest) rfl
  | remove k o =>
    refine effect_of_object acted fun x made => ?_
    split_ifs
    · exact keeps_move rfl rfl rfl
    · exact keeps_move rfl (locks_returned k) (command_returned k)
  | draining k o =>
    refine effect_of_object acted fun x made => ?_
    split_ifs
    · exact keeps_release made rfl (locks_returned k) (fun rest => rest) (command_returned k)
    · exact keeps_release made rfl rfl (fun rest => Rest.setState rest (by simp)) rfl
  | tear part k o =>
    refine effect_of_object acted fun x made => ?_
    cases part <;> exact keeps_update made rfl rfl (fun rest => Rest.tear rest) rfl
  | stop k o =>
    exact effect_of_object acted fun x made =>
      keeps_release made rfl (locks_returned k) (fun rest => Rest.setState rest (by simp))
        (command_returned k)
  | done command ret => cases acted

/-! ## A SET that fails -/

def Handler.accepted : Handler → Bool
  | .setPassword _ _ | .setUnlock _ _ | .done .set (.ok _) => true
  | h => h.drains

theorem accepted_of_drains (drains : h.drains = true) : h.accepted = true := by
  cases h <;> first | rfl | cases drains

theorem Caller.eq_set {k : Caller} (command : k.command = .set) : k = .set := by
  cases k <;> first | rfl | cases command

variable {x : Cell}

theorem write_same (made : objects o = some x) (h' : Handler) :
    (Effect.update o x h').write objects = objects := by
  rw [Effect.write, ← made, Function.update_eq_self]

theorem act_accepted (acted : act sha256 fastEnabled table objects c h = some (table', e))
    (command : h.command = .set) (accepted : h.accepted = true) : e.next.accepted = true := by
  cases h with
  | setPassword o attrs | drain k o | drainAgain k o =>
    apply effect_of_object acted
    intro x made
    rfl
  | setUnlock o drainRequested =>
    apply effect_of_object acted
    intro x made
    cases drainRequested <;> rfl
  | draining k o =>
    obtain rfl := Caller.eq_set command
    apply effect_of_object acted
    intro x made
    split_ifs <;> rfl
  | tear part k o =>
    apply effect_of_object acted
    intro x made
    cases part <;> rfl
  | stop k o =>
    obtain rfl := Caller.eq_set command
    apply effect_of_object acted
    intro x made
    rfl
  | done => cases acted
  | _ => cases accepted

theorem act_setBufferCount {attrs : SetAttrs} (made : objects o = some x)
    (acted : act sha256 fastEnabled table objects c (.setBufferCount o attrs) = some (table', e)) :
    e.write objects = objects ∧ x.ep.qps = true ∨ e.next.accepted = true := by
  simp only [act, made, map_some] at acted
  split at acted <;> cases acted
  · next refused =>
    refine .inl ⟨write_same made _, ?_⟩
    cases want : attrs.bufferCount with
    | none => simp [setSizing, want] at refused
    | some n =>
      simp only [setSizing, want] at refused
      split_ifs at refused with fixed
      exact fixed.1
  · exact .inr rfl

theorem act_set (acted : act sha256 fastEnabled table objects c h = some (table', e))
    (command : h.command = .set) :
    e.write objects = objects ∧ h.accepted = false ∨ e.next.accepted = true ∨
      ∃ o attrs x, e = .update o x (.setBufferCount o attrs) ∧ x.ep.qps = false := by
  cases accepted : h.accepted with
  | true => exact .inr (.inl (act_accepted acted command accepted))
  | false =>
    cases h with
    | set tb =>
      cases tb with
      | error err =>
        apply effect_of_some acted
        exact .inl ⟨rfl, rfl⟩
      | ok attrs =>
        simp only [act] at acted
        split at acted
        · apply effect_of_some acted
          exact .inl ⟨rfl, rfl⟩
        · apply effect_of_some acted
          exact .inl ⟨rfl, rfl⟩
    | setState o attrs =>
      simp only [act] at acted
      split at acted
      · apply effect_of_some acted
        exact .inl ⟨rfl, rfl⟩
      · apply effect_of_some acted
        exact .inl ⟨rfl, rfl⟩
    | setLock o attrs =>
      apply effect_of_object acted
      intro x made
      exact .inl ⟨rfl, rfl⟩
    | setNumQps o attrs =>
      apply effect_of_object acted
      intro x made
      split
      · exact .inl ⟨write_same made _, rfl⟩
      · next stored =>
        rcases setSizing_ok stored with rfl | unallocated
        · exact .inl ⟨write_same made _, rfl⟩
        · exact .inr (.inr ⟨o, attrs, _, rfl, unallocated⟩)
    | setBufferCount o attrs =>
      obtain ⟨x, made, -⟩ := map_eq_some_iff.mp acted
      rcases act_setBufferCount made acted with ⟨unchanged, -⟩ | accepted
      · exact .inl ⟨unchanged, rfl⟩
      · exact .inr (.inl accepted)
    | setRefused o err =>
      apply effect_of_object acted
      intro x made
      exact .inl ⟨write_same made (.setRefused o err), rfl⟩
    | remove k o =>
      apply effect_of_object acted
      intro x made
      split_ifs <;> exact .inl ⟨rfl, rfl⟩
    | done => cases acted
    | setPassword | setUnlock | drain | draining | drainAgain | tear | stop => cases accepted
    | _ => cases command

/-- The SET of thread `i` cannot fail any more. -/
def Firm (i : Nat) (m : Machine) : Prop :=
  ∃ h, m.mon.threads[i]? = some h ∧ (h.command ≠ .set ∨ h.accepted = true ∨
      ∃ o attrs x, h = .setBufferCount o attrs ∧ m.mon.objects o = some x ∧ x.ep.qps = false)

def Sound (m : Machine) : Prop := Guarded Handler.locks Rest Handler.Knows m.mon

variable {m m' : Machine} {i : Nat}

theorem step_act_eq_some : step sha256 fastEnabled m (.act i c) = some m' ↔
      ∃ h e, m.mon.threads[i]? = some h ∧
        act sha256 fastEnabled m.table m.mon.objects c h = some (m'.table, e) ∧
          m.mon.apply i e = some m'.mon := by
  simp only [step, bind_eq_bind, bind_eq_some_iff, pure_def, Option.some.injEq]
  constructor
  · rintro ⟨h, here, ⟨table, e⟩, acted, mon, applied, rfl⟩
    exact ⟨h, e, here, acted, applied⟩
  · rintro ⟨h, e, here, acted, applied⟩
    exact ⟨h, here, (m'.table, e), acted, m'.mon, applied, rfl⟩

theorem sound_init : Sound .init := guarded_init

theorem Sound.step {event : Event} (sound : Sound m)
    (stepped : step sha256 fastEnabled m event = some m') : Sound m' := by
  cases event with
  | spawn r =>
    cases stepped
    exact Guarded.spawn sound (by cases r <;> rfl)
  | act i c =>
    obtain ⟨h, e, here, acted, applied⟩ := step_act_eq_some.mp stepped
    exact Guarded.apply sound here (act_keeps acted).proper applied

theorem Firm.step {event : Event} (sound : Sound m) (firm : Firm i m)
    (stepped : step sha256 fastEnabled m event = some m') : Firm i m' := by
  obtain ⟨h, here, why⟩ := firm
  cases event with
  | spawn r =>
    cases stepped
    refine ⟨h, ?_, why⟩
    exact (List.getElem?_append_left (List.getElem?_eq_some_iff.mp here).1).trans here
  | act j c =>
    obtain ⟨u, e, there, acted, applied⟩ := step_act_eq_some.mp stepped
    obtain ⟨enabled, same⟩ := Monitor.apply_eq_some.mp applied
    have keeps := act_keeps acted
    rcases eq_or_ne j i with rfl | own
    · obtain rfl : h = u := Option.some.inj (here.symm.trans there)
      refine ⟨e.next, ?_, ?_⟩
      · rw [same]
        exact List.getElem?_set_self (List.getElem?_eq_some_iff.mp here).1
      · by_cases command : h.command = .set
        · rcases why with other | accepted | ⟨o, attrs, x, rfl, made, unallocated⟩
          · exact absurd command other
          · exact .inr (.inl (act_accepted acted command accepted))
          · rcases act_setBufferCount made acted with ⟨-, allocated⟩ | accepted
            · cases unallocated.symm.trans allocated
            · exact .inr (.inl accepted)
        · exact .inl fun command' => command (keeps.command.symm.trans command')
    · have kept : m'.mon.threads[i]? = some h := by
        rw [same]
        exact (List.getElem?_set_ne own).trans here
      refine ⟨h, kept, why.imp_right (Or.imp_right ?_)⟩
      rintro ⟨o, attrs, x, rfl, made, unallocated⟩
      have untouched := (Guarded.frame sound there keeps.proper enabled here (Ne.symm own) rfl).1
      refine ⟨o, attrs, x, rfl, ?_, unallocated⟩
      rw [same]
      exact untouched.trans made

theorem sound_of_reached {events : List Event}
    (reached : run (step sha256 fastEnabled) .init events = some m) : Sound m :=
  run_invariant (fun _ _ _ sound stepped => Sound.step sound stepped) sound_init reached

theorem Sound.live (sound : Sound m) (made : m.mon.objects o = some x) : x.ep.qps = true → Live x :=
  Guarded.forall_objects sound (fun _ rest => rest.live) (fun _ _ known => known.live) made

theorem not_failed_of_firm {m'' : Machine} {later : List Event} (sound : Sound m) (firm : Firm i m)
    (went_on : run (step sha256 fastEnabled) m later = some m'') (err : Errno) :
    m''.mon.threads[i]? ≠ some (.done .set (.error err)) := by
  obtain ⟨-, h, here, why⟩ := run_invariant (P := fun m => Sound m ∧ Firm i m)
    (fun _ _ _ both stepped => ⟨both.1.step stepped, both.2.step both.1 stepped⟩)
    ⟨sound, firm⟩ went_on
  intro failed
  cases here.symm.trans failed
  rcases why with other | accepted | ⟨o, attrs, x, same, -⟩
  · exact other rfl
  · cases accepted
  · cases same

theorem firm_of_changed (stepped : step sha256 fastEnabled m (.act i c) = some m') :
    Firm i m' ∨ m'.mon.objects = m.mon.objects ∧
      ∀ h, m.mon.threads[i]? = some h → h.drains = false := by
  obtain ⟨h, e, here, acted, applied⟩ := step_act_eq_some.mp stepped
  obtain ⟨-, same⟩ := Monitor.apply_eq_some.mp applied
  have there : m'.mon.threads[i]? = some e.next := by
    rw [same]
    exact List.getElem?_set_self (List.getElem?_eq_some_iff.mp here).1
  by_cases command : h.command = .set
  · rcases act_set acted command with
      ⟨unchanged, early⟩ | accepted | ⟨o, attrs, x, rfl, unallocated⟩
    · refine .inr ⟨by rw [same]; exact unchanged, fun h' here' => ?_⟩
      cases here.symm.trans here'
      cases drains : h.drains with
      | false => rfl
      | true => cases (accepted_of_drains drains).symm.trans early
    · exact .inl ⟨e.next, there, .inr (.inl accepted)⟩
    · refine .inl ⟨.setBufferCount o attrs, there, .inr (.inr ⟨o, attrs, x, rfl, ?_, unallocated⟩)⟩
      rw [same]
      exact Function.update_self _ _ _
  · exact .inl ⟨e.next, there, .inl fun command' =>
      command ((act_keeps acted).command.symm.trans command')⟩

/-- In every interleaving of NEW, SET, DEL and the drain, an array of queue pairs has as many
entries as the endpoint counts and goes with the sizes that were in force at the activation, and
no statement of a SET that returns an error changes an endpoint or belongs to a drain. -/
theorem sizes_kept (sha256 : List UInt8 → Vector UInt8 pskHashLen) (fastEnabled : Bool)
    (events : List Event) (m : Machine)
    (reached : run (step sha256 fastEnabled) .init events = some m) :
    (∀ o x, m.mon.objects o = some x → x.ep.qps = true → x.ep.entries.length = x.ep.numQps ∧
        ∃ bufferCount bufferSize, x.inForce = some (bufferCount, bufferSize) ∧
          x.ep.numBufs = resolveNumBufs bufferCount ∧
          x.ep.bufSize = resolveBufSize bufferSize) ∧
    ∀ i c m', step sha256 fastEnabled m (.act i c) = some m' →
      (∃ later m'' err, run (step sha256 fastEnabled) m' later = some m'' ∧
        m''.mon.threads[i]? = some (.done .set (.error err))) →
      m'.mon.objects = m.mon.objects ∧ ∀ h, m.mon.threads[i]? = some h → h.drains = false := by
  have sound := sound_of_reached reached
  refine ⟨fun o x made allocated => ?_, fun i c m' stepped failing => ?_⟩
  · have live := sound.live made allocated
    exact ⟨live.length, _, _, live.inForce, live.numBufs, live.bufSize⟩
  · obtain ⟨later, m'', err, went_on, failed⟩ := failing
    rcases firm_of_changed stepped with firm | unchanged
    · exact absurd failed (not_failed_of_firm (sound.step stepped) firm went_on err)
    · exact unchanged

section Witness

def newTwo : NewAttrs where
  name := [97]
  listenPath := [47]
  connectPath := []
  hasPeerAddr := true
  hasBindAddr := false
  numQps := some ⟨2, by decide⟩
  bufferCount := none
  bufferSize := none
  mode := .multistream
  kind := .uds
  password := none
  count_admitted := by simp
  size_admitted := by simp

def setThree : SetAttrs where
  name := [97]
  state := some .draining
  numQps := some ⟨3, by decide⟩
  bufferCount := none
  password := none
  count_admitted := by simp

/-- The steps of handler `i` while everything succeeds. -/
def steps (i n : Nat) : List Event := List.replicate n (.act i ⟨true, .ENOMEM, 0, 0, []⟩)

/-- The SET meets the endpoint once it is activated, up to the check of `num_qps`. -/
def setAfterNew : List Event :=
  [.spawn (.new (.ok newTwo)), .spawn (.set (.ok setThree))] ++ steps 0 15 ++ steps 1 3

/-- The SET is refused: it leaves the two queue pairs and the endpoint active. -/
theorem sizes_kept_refused : ∃ m m' x,
    run (step (fun _ => Vector.replicate _ 0) false) .init setAfterNew = some m ∧
      step (fun _ => Vector.replicate _ 0) false m (.act 1 ⟨true, .ENOMEM, 0, 0, []⟩) = some m' ∧
      m.mon.objects 0 = some x ∧ x.ep.qps = true ∧ x.ep.entries.length = x.ep.numQps ∧
      m'.mon.objects = m.mon.objects := by
  let zeros : List UInt8 → Vector UInt8 pskHashLen := fun _ => Vector.replicate _ 0
  let go : Event := .act 1 ⟨true, .ENOMEM, 0, 0, []⟩
  have evaluated : (run (step zeros false) .init setAfterNew).any (fun m =>
      (m.mon.objects 0).any (fun x => x.ep.qps) &&
        (step zeros false m go).any (fun m' => (run (step zeros false) m' [go]).any (fun m'' =>
          m''.mon.threads[1]?.any fun
            | .done .set r => !r.isOk
            | _ => false))) = true := by
    decide +kernel
  obtain ⟨m, reached, found⟩ := (any_eq_true ..).mp evaluated
  obtain ⟨allocated, refused⟩ := (Bool.and_eq_true ..).mp found
  obtain ⟨x, made, qps⟩ := (any_eq_true ..).mp allocated
  obtain ⟨m', stepped, ends⟩ := (any_eq_true ..).mp refused
  obtain ⟨m'', went_on, failed⟩ := (any_eq_true ..).mp ends
  obtain ⟨h, here, last⟩ := (any_eq_true ..).mp failed
  obtain ⟨sizes, unchanged⟩ := sizes_kept zeros false setAfterNew m reached
  refine ⟨m, m', x, reached, stepped, made, qps, (sizes 0 x made qps).1, ?_⟩
  refine (unchanged 1 _ m' stepped ⟨[go], m'', ?_⟩).1
  split at last
  · next r =>
    cases r with
    | error err => exact ⟨err, went_on, here⟩
    | ok _ => cases last
  · cases last

end Witness

end Run

end Urp.Netlink.Sizing
