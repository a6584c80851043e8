import Urp.Frame.Codec
import Urp.Lib.Machine
import Urp.Lib.Run

/-!
# Commands on the fast device
-/

namespace Urp.Fast

open Urp.Lib Urp.Frame
open Function (update)

inductive Kind where
  | send | recv
deriving DecidableEq, Repr

abbrev Res := Except Errno Nat

/-! ## What the completions find -/

inductive Disposition where
  | deliver | pong | absorb | reject
deriving DecidableEq, Repr

def fastRxDisposition : RxAction → Disposition
  | .deliverStream | .deliverLegacy => .deliver
  | .probePing => .pong
  | .probePong | .credit => .absorb
  | .dropShort | .dropOversize | .dropPayloadOverrun | .dropShortProbe => .reject

inductive Wc where
  | error
  | success (byteLen : Nat) (hdr : Nat → UInt8)

def Wc.sendRes (len : Nat) : Wc → Res
  | .error => .error Errno.EIO
  | .success _ _ => .ok len

def Wc.recvRes : Wc → Res × Nat
  | .error => (.error .ECONNRESET, 0)
  | .success byteLen hdr =>
    let (action, dec) := classifyFrame byteLen hdr
    match fastRxDisposition action with
    | .deliver => (.ok dec.payloadLen, dec.streamId % 2 ^ 16)
    | .pong | .absorb => (.ok 0, 0)
    | .reject => (.error .EBADMSG, 0)

def res2 (bufIndex streamId : Nat) : Nat := bufIndex ||| (streamId <<< 32)

theorem res2_parts {bufIndex : Nat} (bound : bufIndex < 2 ^ 32) (streamId : Nat) :
    res2 bufIndex streamId % 2 ^ 32 = bufIndex ∧ res2 bufIndex streamId / 2 ^ 32 = streamId := by
  have sum : res2 bufIndex streamId = 2 ^ 32 * streamId + bufIndex := by
    rw [res2, Nat.or_comm, ← Nat.shiftLeft_add_eq_or_of_lt bound, Nat.shiftLeft_eq, Nat.mul_comm]
  omega

structure Req where
  kind : Kind
  bufIndex : Nat
  len : Nat
  streamId : Nat
deriving DecidableEq, Repr

inductive Outcome where
  | wc (w : Wc)
  | refused (e : Errno)
  | cancelled

structure Cqe where
  cmd : Nat
  res : Res
  res2 : Nat
deriving DecidableEq, Repr

def Outcome.res (r : Req) : Outcome → Res
  | .wc w => match r.kind with
    | .send => w.sendRes r.len
    | .recv => w.recvRes.1
  | .refused e => .error e
  | .cancelled => .error .ECANCELED

/-- The stream of the frame that a receive got, 0 without one. -/
def Outcome.streamId : Outcome → Nat
  | .wc w => w.recvRes.2
  | _ => 0

/-- Answered without a completion of the work request. -/
def Outcome.early : Outcome → Bool
  | .wc _ => false
  | _ => true

/-! ## The state -/

/-- `struct urp_fast_op`. Its `buf_index` is the position of the slot. -/
structure Slot where
  done : Kind
  ioucmd : Option Nat
  len : Nat
  streamId : Nat
  res : Res
deriving DecidableEq

inductive Stage where
  | idle | armed | cancelling | finishing | answered
deriving DecidableEq, Repr

inductive Thread where
  -- `urp_cmd_do_send` and `urp_cmd_do_recv`
  | enter (r : Req)
  | claim (c : Nat) (r : Req)
  | fill (c : Nat) (r : Req)
  | mark (c : Nat) (r : Req)
  | post (c : Nat) (r : Req)
  | release (c : Nat) (r : Req)
  | refuse (c : Nat) (r : Req) (e : Errno)
  | refused (e : Errno) (ic : Option Nat)
  -- the work request, `urp_fast_send_done` and `urp_fast_recv_done`
  | flying (c : Nat) (r : Req)
  | sendStore (c : Nat) (r : Req) (w : Wc)
  | sendRelease (c : Nat) (r : Req) (w : Wc)
  | sendSchedule (c : Nat) (r : Req) (w : Wc)
  | recvStore (c : Nat) (r : Req) (w : Wc)
  | recvRelease (c : Nat) (r : Req) (w : Wc)
  -- `urp_fast_send_complete` and `urp_fast_recv_complete`
  | task (k : Kind) (c : Nat)
  -- `urp_cmd_recv_cancel`
  | cancel (c : Nat)
  | cancelled (c : Nat)
  -- `urp_cmd_do_unregister`
  | unregister
  | unregisterCheck
  | poolRelease
  | done

/-- `struct urp_cmd_ctx`. `own` notes which command has the buffer, `pdu` the slot of a command,
`cancelable` what io_uring may cancel; `request`, `stage` and `outcomes` are ghosts. -/
structure Device where
  count : Nat
  registered : Bool
  ctxLock : Bool
  own : Nat → Option Nat
  ops : Nat → Slot
  pdu : Nat → Nat
  next : Nat
  cancelable : Nat → Bool
  cqes : List Cqe
  threads : List Thread
  request : Nat → Req
  stage : Nat → Stage
  outcomes : List (Nat × Outcome)
  stale : Bool
  crashed : Bool

/-- A pool of `count` buffers that was just registered. -/
def Device.init (count : Nat) : Device where
  count := count
  registered := true
  ctxLock := false
  own _ := none
  ops _ := ⟨.send, none, 0, 0, .ok 0⟩
  pdu _ := 0
  next := 0
  cancelable _ := false
  cqes := []
  threads := []
  request _ := ⟨.send, 0, 0, 0⟩
  stage _ := .idle
  outcomes := []
  stale := false
  crashed := false

namespace Device

/-- An access to `ctx->ops` or `ctx->own`. -/
def touch (d : Device) : Device := { d with stale := d.stale || !d.registered }

def setOwn (d : Device) (b : Nat) (c : Option Nat) : Device :=
  { d.touch with own := update d.own b c }

def setOp (d : Device) (b : Nat) (op : Slot) : Device :=
  { d.touch with ops := update d.ops b op }

def fillOp (d : Device) (c b : Nat) (op : Slot) : Device :=
  { d.setOp b op with pdu := update d.pdu c b }

def setStage (d : Device) (c : Nat) (s : Stage) : Device :=
  { d with stage := update d.stage c s }

def unlock (d : Device) : Device := { d with ctxLock := false }

def record (d : Device) (c : Nat) (o : Outcome) : Device :=
  { d with outcomes := (c, o) :: d.outcomes }

def giveUp (d : Device) (c b : Nat) (e : Errno) : Device :=
  { d.setOp b { d.ops b with ioucmd := none } with
    own := update d.own b none
    ctxLock := false
    outcomes := (c, .refused e) :: d.outcomes }

/-- `io_uring_cmd_done`. -/
def complete (d : Device) (c : Nat) (res : Res) (res2 : Nat) : Device :=
  { d.setStage c .answered with
    cqes := d.cqes ++ [⟨c, res, res2⟩]
    cancelable := update d.cancelable c false }

def finishing (d : Device) : Option Nat → Device
  | some c => d.setStage c .finishing
  | none => d

/-- `urp_own_any_kernel`. -/
def ownAnyKernel (d : Device) : Bool := (List.range d.count).any (fun b => (d.own b).isSome)

end Device

/-- What the code does not decide. -/
structure Choice where
  ok : Bool
  e : Errno
  wc : Wc

/-- One step of a thread, or `none` while it waits for `ctx->lock`. -/
def act (d : Device) (ch : Choice) : Thread → Option (Device × Thread)
  | .enter r =>
    if d.ctxLock then none
    else if d.registered ∧ ch.ok ∧ r.bufIndex < d.count ∧ (r.kind = .send → r.streamId ≠ 0) then
      some ({ d with
        ctxLock := true
        next := d.next + 1
        request := update d.request d.next r }, .claim d.next r)
    else some (d, .done)
  | .claim c r =>
    if d.own r.bufIndex = none then some (d.setOwn r.bufIndex (some c), .fill c r)
    else some (d.touch.unlock, .done)
  | .fill c r =>
    -- No stream, or no queue pair to post on.
    if !ch.ok then some (d, .release c r)
    else
      let op : Slot := ⟨r.kind, some c, r.len, if r.kind = .send then r.streamId else 0, .ok 0⟩
      some (d.fillOp c r.bufIndex op, if r.kind = .send then .post c r else .mark c r)
  | .mark c r =>
    some ({ d.setStage c .armed with cancelable := update d.cancelable c true }, .post c r)
  | .post c r =>
    match ch.ok, r.kind with
    | true, .send => some ((d.setStage c .armed).unlock, .flying c r)
    | true, .recv => some (d.unlock, .flying c r)
    | false, .send => some (d, .release c r)
    | false, .recv => some (d, .refuse c r ch.e)
  | .release _ r => some ((d.setOwn r.bufIndex none).unlock, .done)
  | .refuse c r e =>
    let ic := (d.ops r.bufIndex).ioucmd
    some ((d.giveUp c r.bufIndex e).finishing ic, .refused e ic)
  | .refused _ none => some (d, .done)
  | .refused e (some c) => some (d.complete c (.error e) 0, .done)
  | .flying c r =>
    some (d.touch.record c (.wc ch.wc), match (d.ops r.bufIndex).done with
      | .send => .sendStore c r ch.wc
      | .recv => .recvStore c r ch.wc)
  | .sendStore c r w =>
    let op := d.ops r.bufIndex
    some (d.setOp r.bufIndex { op with res := w.sendRes op.len }, .sendRelease c r w)
  | .sendRelease c r w =>
    some ((d.setOwn r.bufIndex none).setStage c .finishing, .sendSchedule c r w)
  | .sendSchedule _ r _ =>
    match (d.ops r.bufIndex).ioucmd with
    | some c' => some (d.touch, .task .send c')
    | none => some ({ d.touch with crashed := true }, .done)
  | .recvStore c r w =>
    let op := d.ops r.bufIndex
    some (d.setOp r.bufIndex { op with res := w.recvRes.1, streamId := w.recvRes.2 },
      .recvRelease c r w)
  | .recvRelease _ r _ =>
    let ic := (d.ops r.bufIndex).ioucmd
    some ((d.setOwn r.bufIndex none).finishing ic, match ic with
      | some c' => .task .recv c'
      | none => .done)
  | .task k c =>
    let op := d.ops (d.pdu c)
    some (d.touch.complete c op.res (if k = .recv then res2 (d.pdu c) op.streamId else 0), .done)
  | .cancel c =>
    if d.own (d.pdu c) = none then some (d.touch, .done)
    else
      some (((d.setOp (d.pdu c) { d.ops (d.pdu c) with ioucmd := none }).record c
        .cancelled).setStage c .cancelling, .cancelled c)
  | .cancelled c => some (d.complete c (.error .ECANCELED) 0, .done)
  | .unregister =>
    if d.ctxLock then none
    else if d.registered then some ({ d with ctxLock := true }, .unregisterCheck)
    else some (d, .done)
  | .unregisterCheck =>
    if d.ownAnyKernel then some (d.touch.unlock, .done) else some (d.touch, .poolRelease)
  | .poolRelease => some ({ d with registered := false, ctxLock := false }, .done)
  | .done => none

def Thread.revokes (t : Thread) (c : Nat) : Bool :=
  match t with
  | .cancel c' | .cancelled c' => c' = c
  | _ => false

inductive Event where
  | submit (r : Req)
  | cancel (c : Nat)
  | unregister
  | act (i : Nat) (ch : Choice)

/-- io_uring cancels a command that it still waits for, and not twice at a time. -/
def step (d : Device) : Event → Option Device
  | .submit r => some { d with threads := d.threads ++ [.enter r] }
  | .cancel c =>
    if d.cancelable c ∧ d.threads.all (fun t => !t.revokes c) then
      some { d with threads := d.threads ++ [.cancel c] }
    else none
  | .unregister => some { d with threads := d.threads ++ [.unregister] }
  | .act i ch =>
    match d.threads[i]? with
    | some t => (act d ch t).map fun (d', t') => { d' with threads := d.threads.set i t' }
    | none => none

/-! ## What a step can do -/

section Moves

variable {d d' : Device} {t t' : Thread} {ch : Choice}

inductive Moves (d : Device) : Thread → Device → Thread → Prop where
  | enter {r} (free : d.ctxLock = false) (registered : d.registered = true)
      (bound : r.bufIndex < d.count) :
      Moves d (.enter r) { d with
        ctxLock := true
        next := d.next + 1
        request := update d.request d.next r } (.claim d.next r)
  | reject {r} : Moves d (.enter r) d .done
  | claim {c r} (free : d.own r.bufIndex = none) :
      Moves d (.claim c r) (d.setOwn r.bufIndex (some c)) (.fill c r)
  | busy {c r} : Moves d (.claim c r) d.touch.unlock .done
  | unready {c r} : Moves d (.fill c r) d (.release c r)
  | fillSend {c r} (send : r.kind = .send) :
      Moves d (.fill c r) (d.fillOp c r.bufIndex ⟨.send, some c, r.len, r.streamId, .ok 0⟩)
        (.post c r)
  | fillRecv {c r} (recv : r.kind = .recv) :
      Moves d (.fill c r) (d.fillOp c r.bufIndex ⟨.recv, some c, r.len, 0, .ok 0⟩) (.mark c r)
  | mark {c r} :
      Moves d (.mark c r) { d.setStage c .armed with
        cancelable := update d.cancelable c true } (.post c r)
  | postSend {c r} (send : r.kind = .send) :
      Moves d (.post c r) (d.setStage c .armed).unlock (.flying c r)
  | postRecv {c r} (recv : r.kind = .recv) : Moves d (.post c r) d.unlock (.flying c r)
  | failSend {c r} (send : r.kind = .send) : Moves d (.post c r) d (.release c r)
  | failRecv {c r e} (recv : r.kind = .recv) : Moves d (.post c r) d (.refuse c r e)
  | release {c r} : Moves d (.release c r) (d.setOwn r.bufIndex none).unlock .done
  | refuse {c c' r e} (found : (d.ops r.bufIndex).ioucmd = some c') :
      Moves d (.refuse c r e) ((d.giveUp c r.bufIndex e).setStage c' .finishing)
        (.refused e (some c'))
  | refuseSkip {c r e} (missing : (d.ops r.bufIndex).ioucmd = none) :
      Moves d (.refuse c r e) (d.giveUp c r.bufIndex e) (.refused e none)
  | unrefused {e} : Moves d (.refused e none) d .done
  | refused {c e} : Moves d (.refused e (some c)) (d.complete c (.error e) 0) .done
  | sent {c r w} (done : (d.ops r.bufIndex).done = .send) :
      Moves d (.flying c r) (d.touch.record c (.wc w)) (.sendStore c r w)
  | received {c r w} (done : (d.ops r.bufIndex).done = .recv) :
      Moves d (.flying c r) (d.touch.record c (.wc w)) (.recvStore c r w)
  | sendStore {c r w} : Moves d (.sendStore c r w) (d.setOp r.bufIndex
        { d.ops r.bufIndex with res := w.sendRes (d.ops r.bufIndex).len }) (.sendRelease c r w)
  | sendRelease {c r w} :
      Moves d (.sendRelease c r w) ((d.setOwn r.bufIndex none).setStage c .finishing)
        (.sendSchedule c r w)
  | schedule {c c' r w} (found : (d.ops r.bufIndex).ioucmd = some c') :
      Moves d (.sendSchedule c r w) d.touch (.task .send c')
  | crash {c r w} (missing : (d.ops r.bufIndex).ioucmd = none) :
      Moves d (.sendSchedule c r w) { d.touch with crashed := true } .done
  | recvStore {c r w} : Moves d (.recvStore c r w) (d.setOp r.bufIndex
        { d.ops r.bufIndex with res := w.recvRes.1, streamId := w.recvRes.2 }) (.recvRelease c r w)
  | recvRelease {c c' r w} (found : (d.ops r.bufIndex).ioucmd = some c') :
      Moves d (.recvRelease c r w) ((d.setOwn r.bufIndex none).setStage c' .finishing)
        (.task .recv c')
  | recvSkip {c r w} (missing : (d.ops r.bufIndex).ioucmd = none) :
      Moves d (.recvRelease c r w) (d.setOwn r.bufIndex none) .done
  | sendTask {c} : Moves d (.task .send c) (d.touch.complete c (d.ops (d.pdu c)).res 0) .done
  | recvTask {c} : Moves d (.task .recv c) (d.touch.complete c (d.ops (d.pdu c)).res
        (res2 (d.pdu c) (d.ops (d.pdu c)).streamId)) .done
  | cancelLate {c} (free : d.own (d.pdu c) = none) : Moves d (.cancel c) d.touch .done
  | cancel {c} (kernel : d.own (d.pdu c) ≠ none) :
      Moves d (.cancel c) (((d.setOp (d.pdu c) { d.ops (d.pdu c) with ioucmd := none }).record c
        .cancelled).setStage c .cancelling) (.cancelled c)
  | cancelled {c} : Moves d (.cancelled c) (d.complete c (.error .ECANCELED) 0) .done
  | unregister (free : d.ctxLock = false) (registered : d.registered = true) :
      Moves d .unregister { d with ctxLock := true } .unregisterCheck
  | unregistered : Moves d .unregister d .done
  | unregisterBusy : Moves d .unregisterCheck d.touch.unlock .done
  | unregisterCheck (drained : d.ownAnyKernel = false) :
      Moves d .unregisterCheck d.touch .poolRelease
  | poolRelease : Moves d .poolRelease { d with registered := false, ctxLock := false } .done

theorem moves_of_act (moved : act d ch t = some (d', t')) : Moves d t d' t' := by
  cases t with
  | enter r =>
    simp only [act] at moved
    split at moved
    · cases moved
    · rename_i free
      split at moved
      · rename_i valid
        cases moved
        exact .enter (by simpa using free) valid.1 valid.2.2.1
      · cases moved
        exact .reject
  | claim c r =>
    simp only [act] at moved
    split at moved
    · cases moved
      exact .claim (by assumption)
    · cases moved
      exact .busy
  | fill c r =>
    simp only [act] at moved
    split at moved
    · cases moved
      exact .unready
    · cases moved
      cases kind : r.kind with
      | send => exact .fillSend kind
      | recv => exact .fillRecv kind
  | mark c r =>
    cases moved
    exact .mark
  | post c r =>
    simp only [act] at moved
    split at moved
    · cases moved
      exact .postSend (by assumption)
    · cases moved
      exact .postRecv (by assumption)
    · cases moved
      exact .failSend (by assumption)
    · cases moved
      exact .failRecv (by assumption)
  | release c r =>
    cases moved
    exact .release
  | refuse c r e =>
    cases moved
    cases found : (d.ops r.bufIndex).ioucmd with
    | some c' => exact .refuse found
    | none => exact .refuseSkip found
  | refused e ic =>
    cases ic with
    | none =>
      cases moved
      exact .unrefused
    | some c =>
      cases moved
      exact .refused
  | flying c r =>
    cases moved
    split
    · exact .sent (by assumption)
    · exact .received (by assumption)
  | sendStore c r w =>
    cases moved
    exact .sendStore
  | sendRelease c r w =>
    cases moved
    exact .sendRelease
  | sendSchedule c r w =>
    simp only [act] at moved
    split at moved
    · cases moved
      exact .schedule (by assumption)
    · cases moved
      exact .crash (by assumption)
  | recvStore c r w =>
    cases moved
    exact .recvStore
  | recvRelease c r w =>
    cases moved
    cases found : (d.ops r.bufIndex).ioucmd with
    | some c' => exact .recvRelease found
    | none => exact .recvSkip found
  | task k c =>
    cases moved
    cases k with
    | send => exact .sendTask
    | recv => exact .recvTask
  | cancel c =>
    simp only [act] at moved
    split at moved
    · cases moved
      exact .cancelLate (by assumption)
    · cases moved
      exact .cancel (by assumption)
  | cancelled c =>
    cases moved
    exact .cancelled
  | unregister =>
    simp only [act] at moved
    split at moved
    · cases moved
    · rename_i free
      split at moved
      · rename_i registered
        cases moved
        exact .unregister (by simpa using free) registered
      · cases moved
        exact .unregistered
  | unregisterCheck =>
    simp only [act] at moved
    split at moved
    · cases moved
      exact .unregisterBusy
    · rename_i drained
      cases moved
      exact .unregisterCheck (by simpa using drained)
  | poolRelease =>
    cases moved
    exact .poolRelease
  | done => cases moved

theorem moves_of_step {i : Nat} (moved : step d (.act i ch) = some d') :
    ∃ t d'' t', d.threads[i]? = some t ∧ Moves d t d'' t' ∧
      { d'' with threads := d.threads.set i t' } = d' := by
  simp only [step] at moved
  split at moved
  · rename_i t here
    obtain ⟨⟨d'', t'⟩, acted, same⟩ := Option.map_eq_some_iff.mp moved
    exact ⟨t, d'', t', here, moves_of_act acted, same⟩
  · cases moved

end Moves

end Urp.Fast
