import Urp.Bench.Tracker
import Urp.Lib.Run

/-!
# A session of two ends

In the echo pattern each end sends originals and echoes those of its peer. The socket is a queue
of messages here: the deframer gives them back however it cuts the bytes. The parts of the loop may
run in any order, so what two ends do is one of these runs.
-/

namespace Urp.Bench

open Urp.Lib List

/-! ## Payloads

The payload of a message follows from its origin and its number, so the receiver can check it
without a copy. -/

def seed (originId : UInt16) (seq : UInt32) : UInt32 :=
  let s := (originId.toUInt32 <<< 16) ^^^ seq
  if s ≠ 0 then s else 0x9e3779b9

def xorshift32 (x : UInt32) : UInt32 :=
  let x := x ^^^ (x <<< 13)
  let x := x ^^^ (x >>> 17)
  x ^^^ (x <<< 5)

def payloadByte (x : UInt32) (i : Nat) : UInt8 := (x >>> UInt32.ofNat ((i % 4) * 8)).toUInt8

def nextWord (x : UInt32) (i : Nat) : UInt32 := if i % 4 = 0 then xorshift32 x else x

/-- The loop of `fill_payload` at byte `i`. -/
def fillFrom (x : UInt32) (i : Nat) : Nat → List UInt8
  | 0 => []
  | len + 1 => payloadByte (nextWord x i) i :: fillFrom (nextWord x i) (i + 1) len

def fillPayload (len : Nat) (originId : UInt16) (seq : UInt32) : List UInt8 :=
  fillFrom (seed originId seq) 0 len

/-- The loop of `verify_payload` at byte `i`. -/
def verifyFrom (x : UInt32) (i : Nat) : List UInt8 → Except Error Unit
  | [] => .ok ()
  | b :: p =>
    if b ≠ payloadByte (nextWord x i) i then .error .corrupt
    else verifyFrom (nextWord x i) (i + 1) p

def verifyPayload (p : List UInt8) (originId : UInt16) (seq : UInt32) : Except Error Unit :=
  verifyFrom (seed originId seq) 0 p

theorem verifyFrom_iff {x : UInt32} {i : Nat} {p : List UInt8} :
    verifyFrom x i p = .ok () ↔ p = fillFrom x i p.length := by
  induction p generalizing x i with
  | nil => simp [verifyFrom, fillFrom]
  | cons b p ih =>
    rw [verifyFrom, length_cons, fillFrom, cons.injEq, ← ih]
    split <;> simp_all

@[simp] theorem length_fillFrom (x : UInt32) (i len : Nat) : (fillFrom x i len).length = len := by
  induction len generalizing x i with
  | zero => rfl
  | succ len ih => simp [fillFrom, ih]

theorem verifyPayload_fillPayload (len : Nat) (originId : UInt16) (seq : UInt32) :
    verifyPayload (fillPayload len originId seq) originId seq = .ok () := by
  rw [verifyPayload, verifyFrom_iff, fillPayload, length_fillFrom]

/-! ## The configuration of an end -/

inductive Role where
  | listen | connect
deriving DecidableEq

inductive Verify where
  | none | header | full
deriving DecidableEq

/-- What `validate` accepts. -/
structure Config where
  id : UInt16
  verify : Verify
  msgSize : UInt32
  batch : UInt32
  count : UInt64
  durationS : UInt32
  sized : hdrSize ≤ msgSize.toNat ∧ msgSize.toNat ≤ hdrSize + payloadMax.toNat
  windowed : 1 ≤ batch.toNat ∧ batch.toNat ≤ 1024
  limited : count = 0 ↔ durationS ≠ 0

variable {a b c : Config}

instance (c : Config) : NeZero c.batch.toNat := ⟨Nat.ne_zero_of_lt c.windowed.1⟩

def Config.goal (c : Config) : UInt64 := if c.count ≠ 0 then c.count else UInt64.ofNat (2 ^ 64 - 1)

def finTimeoutS : UInt64 := 10

/-- `hard_deadline` of a shell that calls it at `startNs`. -/
def Config.hardDeadline (c : Config) (startNs : UInt64) : UInt64 :=
  let secs := finTimeoutS + if c.durationS ≠ 0 then c.durationS.toUInt64 else c.count / 1000 + 30
  startNs + secs * 1000000000

def sampleCap : Nat := 200000

structure Stats where
  samples : List UInt64
  dropped : UInt64

def Stats.add (s : Stats) (rttNs : UInt64) : Stats :=
  if s.samples.length < sampleCap then { s with samples := s.samples ++ [rttNs] }
  else { s with dropped := s.dropped + 1 }

def Msg.echo (m : Msg) : Msg := { m with hdr.flags := m.hdr.flags ||| flagEcho }

/-- The payload of a message that nobody checks is what the slot was filled with once. -/
def original (c : Config) (fin : Bool) (seq : UInt32) (nowNs : UInt64) : Msg :=
  let payloadLen := if fin then 0 else c.msgSize - UInt32.ofNat hdrSize
  ⟨⟨magic, version, if fin then flagFin else 0, c.id, payloadLen, seq, nowNs⟩,
    if c.verify = .full then fillPayload payloadLen.toNat c.id seq
    else replicate payloadLen.toNat 0x5a⟩

/-! ## The shell -/

structure Shell (c : Config) where
  tracker : Tracker c.batch.toNat
  stats : Stats
  nextSeq : UInt32
  sentOriginals : UInt64
  ownFinSent : Bool
  ownFinSeq : UInt32
  ownFinEchoed : Bool
  peerFinSeen : Bool
  bytesEchoedBack : UInt64
  msgsRxTotal : UInt64

namespace Shell

def new (c : Config) : Shell c := ⟨.new _, ⟨[], 0⟩, 0, 0, false, 0, false, false, 0, 0⟩

def isFin (h : Hdr) : Bool := h.flags &&& flagFin ≠ 0

/-- After the echo of an own original. -/
def measured (s : Shell c) (h : Hdr) (rttNs : UInt64) (tracker : Tracker c.batch.toNat) : Shell c :=
  { s with
    tracker
    msgsRxTotal := s.msgsRxTotal + 1
    stats := s.stats.add rttNs
    bytesEchoedBack := s.bytesEchoedBack + (UInt32.ofNat hdrSize + h.payloadLen).toUInt64
    ownFinEchoed := s.ownFinEchoed || isFin h && s.ownFinSent && h.seq = s.ownFinSeq }

/-- After an original of the peer. -/
def noticed (s : Shell c) (h : Hdr) : Shell c :=
  { s with msgsRxTotal := s.msgsRxTotal + 1, peerFinSeen := s.peerFinSeen || isFin h }

/-- The shell after a message, and whether to echo it. -/
def classifyMsg (s : Shell c) (nowNs : UInt64) (m : Msg) : Except Error (Shell c × Bool) :=
  let checked :=
    if c.verify = .full then verifyPayload m.payload m.hdr.originId m.hdr.seq else .ok ()
  if m.hdr.flags &&& flagEcho ≠ 0 then
    match s.tracker.echo m.hdr.seq nowNs with
    | (.error e, _) => .error e
    | (.ok rtt, tracker) => checked.map fun _ => (s.measured m.hdr rtt tracker, false)
  else checked.map fun _ => (s.noticed m.hdr, true)

/-- The deframer checks the header first. -/
def receive (s : Shell c) (nowNs : UInt64) (m : Msg) : Except Error (Shell c × Bool) :=
  if m.hdr.magic ≠ magic then .error .magic
  else if m.hdr.version ≠ version then .error .version
  else if m.hdr.flags &&& ~~~flagMask ≠ 0 then .error .flags
  else if Hdr.payloadCap (c.msgSize - UInt32.ofNat hdrSize) < m.hdr.payloadLen then .error .cap
  else s.classifyMsg nowNs m

def nextOriginal (s : Shell c) (nowNs : UInt64) (fin : Bool) : Option (Msg × Shell c) :=
  match s.tracker.sent s.nextSeq nowNs with
  | (.error _, _) => none
  | (.ok _, tracker) => some (original c fin s.nextSeq nowNs, { s with
      tracker
      ownFinSent := fin || s.ownFinSent
      ownFinSeq := if fin then s.nextSeq else s.ownFinSeq
      nextSeq := s.nextSeq + 1
      sentOriginals := s.sentOriginals + 1 })

def planBatch (window inflight : UInt32) (remaining : UInt64) : UInt32 :=
  if window ≤ inflight then 0
  else
    let room := (window - inflight).toUInt64
    if remaining ≤ room then remaining.toUInt32 else room.toUInt32

def plan (s : Shell c) (expired : Bool) : UInt32 × Bool :=
  if s.ownFinSent then (0, false)
  else
    let remaining :=
      if c.durationS ≠ 0 ∧ expired then 0 else Tracker.saturatingSub c.goal s.sentOriginals
    (planBatch c.batch s.tracker.inflightCount remaining,
      remaining = 0 ∧ s.tracker.inflightCount < c.batch)

def doneCore (s : Shell c) : Bool :=
  s.ownFinEchoed && s.peerFinSeen && s.tracker.inflightCount = 0

end Shell

/-! ## Two ends -/

/-- `out` is what the peer has not read; `left` closes the socket. -/
structure Side (c : Config) where
  shell : Shell c
  out : List Msg
  left : Bool
  failed : Bool

def Side.fail (x : Side c) : Side c := { x with left := true, failed := true }

/-- A write to a peer that left fails. -/
def Side.queue (x : Side c) (gone : Bool) (m : Msg) : Side c :=
  if gone then x.fail else { x with out := x.out ++ [m] }

namespace Session

/-- Two ends of `run_blocking` on one socket. -/
structure World (a b : Config) where
  here : Side a
  there : Side b

def World.swap (w : World a b) : World b a := ⟨w.there, w.here⟩

inductive Move where
  | send (nowNs : UInt64) (expired fin : Bool)
  | read (nowNs : UInt64)
  | eof
  | leave
  | timeout (nowNs : UInt64)

/-- A part of the loop of `run_blocking`. -/
def move (deadlineNs : UInt64) (w : World a b) : Move → Option (World a b)
  | .send nowNs expired fin =>
    let plan := w.here.shell.plan expired
    if if fin then plan.2 else 0 < plan.1 then
      (w.here.shell.nextOriginal nowNs fin).map fun (m, shell) =>
        { w with here := { w.here with shell }.queue w.there.left m }
    else none
  | .read nowNs =>
    match w.there.out with
    | [] => none
    | m :: out =>
      match w.here.shell.receive nowNs m with
      | .error _ => some { w with here := w.here.fail }
      | .ok (shell, echoed) =>
        let x := { w.here with shell }
        some ⟨if echoed then x.queue w.there.left m.echo else x, { w.there with out }⟩
  | .eof =>
    if w.there.left ∧ w.there.out = [] then some { w with here := { w.here with
      left := true, failed := !(w.here.shell.ownFinEchoed && w.here.shell.peerFinSeen) } }
    else none
  | .leave =>
    if w.here.shell.doneCore then some { w with here := { w.here with left := true } } else none
  | .timeout nowNs => if deadlineNs < nowNs then some { w with here := w.here.fail } else none

def act (deadlineNs : UInt64) (w : World a b) (e : Move) : Option (World a b) :=
  if w.here.left then none else move deadlineNs w e

/-- The moments at which the two ends give up, from those at which they started. -/
def deadline (a b : Config) (startNs : Role → UInt64) : Role → UInt64
  | .listen => a.hardDeadline (startNs .listen)
  | .connect => b.hardDeadline (startNs .connect)

/-- The end that listens is `here`. -/
def step (startNs : Role → UInt64) (w : World a b) : Role × Move → Option (World a b)
  | (.listen, e) => act (deadline a b startNs .listen) w e
  | (.connect, e) => (act (deadline a b startNs .connect) w.swap e).map World.swap

def start (a b : Config) : World a b := ⟨⟨.new a, [], false, false⟩, ⟨.new b, [], false, false⟩⟩

end Session

end Urp.Bench
