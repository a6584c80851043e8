import Urp.Genl.Attr
import Urp.Lib.Nlmsg

/-!
# The netlink socket of the tools

`UrpSocket` sends requests to the module and reads the answers from one queue.
-/

namespace Urp.Client

open Urp.Lib Urp.Lib.Nlmsg Urp.Genl
open Urp.Lib.Nla (align4)

/-! ## Errors -/

inductive Why where
  | shortReply | truncatedMultipart | sqFullSend | sqFullTimeout | sendFailed (errno : Nat)
  | recvTimeout
deriving DecidableEq

def Why.text (strerror : Nat → String) : Why → String
  | .shortReply => "short reply"
  | .truncatedMultipart => "truncated multipart"
  | .sqFullSend => "uring sq full (send)"
  | .sqFullTimeout => "uring sq full (timeout)"
  | .sendFailed errno => "uring send failed: " ++ strerror errno
  | .recvTimeout => "uring recv timeout"

inductive UrpError where
  | kernelModuleNotLoaded
  | endpointNotFound
  | endpointExists
  | invalidArgument (why : String)
  | permissionDenied
  | netlink (why : Why)
  | io (errno : Nat)
deriving DecidableEq

inductive Context where
  | resolve | req | dump
deriving DecidableEq

def UrpError.fromErrnoWithExtack (errno : Nat) (ctx : Context) (extack : String) : UrpError :=
  match errno with
  | 2 => if ctx = .resolve then .kernelModuleNotLoaded else .endpointNotFound
  | 17 => .endpointExists
  | 1 | 13 => .permissionDenied
  | 22 => .invalidArgument (if extack = "" then "kernel rejected request" else extack)
  | other => .io other

def UrpError.fromErrno (errno : Nat) (ctx : Context) : UrpError := fromErrnoWithExtack errno ctx ""

inductive Failure where
  | error (e : UrpError)
  | panics
  | blocks
deriving DecidableEq

/-! ## The socket -/

/-- The socket, with the datagrams that the kernel has queued on it. -/
structure UrpSocket where
  seq : UInt32
  pid : UInt32
  familyId : UInt16
  eventsMcgrpId : UInt32
  queue : List (List UInt8)

abbrev Kernel := Msg → Except Nat (List (List UInt8))

def nlmsgError : Nat := 2

def nlmsgDone : Nat := 3

def nlmFRequest : UInt16 := 0x01

def nlmFAck : UInt16 := 0x04

def nlmFDump : UInt16 := 0x300

def recvSize : Nat := 32 * 1024

def received (d : List UInt8) : List UInt8 := d.take recvSize

def genlRequest (family flags : UInt16) (seq pid : UInt32) (cmd version : UInt8)
    (payload : List UInt8) : Msg :=
  ⟨family, flags, seq, pid, [cmd, version, 0, 0] ++ payload⟩

def errnoOf (buf : List UInt8) : Nat := (2 ^ 32 - getLe ((buf.drop hdrLen).take 4)) % 2 ^ 32

def nlmsgerrAttrMsg : Nat := 1

def parseExtack (msg : List UInt8) : String :=
  let off := hdrLen + 4 + hdrLen
  if msg.length < off then ""
  else
    ((attrIter (msg.drop off)).findSome? fun a =>
      if a.type = nlmsgerrAttrMsg then payloadStr a.payload else none).getD ""

/-! ## A single request -/

/-- What `recv_one` makes of the datagram that it takes. -/
def readOne (chunk : List UInt8) : Except Failure (List UInt8) :=
  let bodyEnd := min (lenOf chunk) chunk.length
  if typeOf chunk = nlmsgError then
    if chunk.length < hdrLen + 4 then .error .panics
    else if errnoOf chunk = 0 then .ok []
    else
      .error (.error (.fromErrnoWithExtack (errnoOf chunk) .req (parseExtack (chunk.take bodyEnd))))
  else if bodyEnd < hdrLen + genlHdrLen then .ok []
  else .ok ((chunk.take bodyEnd).drop (hdrLen + genlHdrLen))

def recvOne (wantSeq : UInt32) :
    List (List UInt8) → Except Failure (List UInt8) × List (List UInt8)
  | [] => (.error .blocks, [])
  | d :: queue =>
    let chunk := received d
    if chunk.length < hdrLen then (.error (.error (.netlink .shortReply)), queue)
    else if UInt32.ofNat (seqOf chunk) ≠ wantSeq ∧ wantSeq ≠ 0 then recvOne wantSeq queue
    else (readOne chunk, queue)

namespace UrpSocket

def sendRequestRaw (s : UrpSocket) (kernel : Kernel) (family : UInt16) (cmd version : UInt8)
    (payload : List UInt8) : Except Failure (List UInt8) × UrpSocket :=
  let request := genlRequest family (nlmFRequest ||| nlmFAck) s.seq s.pid cmd version payload
  let s := { s with seq := s.seq + 1 }
  match kernel request with
  | .error errno => (.error (.error (.io errno)), s)
  | .ok answer =>
    let (result, queue) := recvOne request.seq (s.queue ++ answer)
    (result, { s with queue := queue })

def sendRequest (s : UrpSocket) (kernel : Kernel) (cmd : UInt8) (payload : List UInt8) :
    Except Failure (List UInt8) × UrpSocket :=
  s.sendRequestRaw kernel s.familyId cmd genlVersion payload

end UrpSocket

/-! ## The family -/

def genlIdCtrl : UInt16 := 16

def ctrlCmdGetfamily : UInt8 := 3

def ctrlAttrFamilyId : Nat := 1

def ctrlAttrFamilyName : Nat := 2

def ctrlAttrMcastGroups : Nat := 7

def ctrlAttrMcastGrpName : Nat := 1

def ctrlAttrMcastGrpId : Nat := 2

def groupOf (grp : List UInt8) : Option String × Option UInt32 :=
  (attrIter grp).foldl (fun (name, id) a =>
    if a.type = ctrlAttrMcastGrpName then (payloadStr a.payload, id)
    else if a.type = ctrlAttrMcastGrpId then (name, payloadU32 a.payload)
    else (name, id)) (none, none)

def eventsGroup (id : UInt32) (grp : List UInt8) : UInt32 :=
  match groupOf grp with
  | (some name, some i) => if name = "events" then i else id
  | _ => id

def familyOf (reply : List UInt8) : UInt16 × UInt32 :=
  (attrIter reply).foldl (fun (family, events) a =>
    if a.type = ctrlAttrFamilyId then ((payloadU16 a.payload).getD family, events)
    else if a.type = ctrlAttrMcastGroups then
      (family, (attrIter a.payload).foldl (fun id g => eventsGroup id g.payload) events)
    else (family, events)) (0, 0)

/-- What `resolve_family` makes of the answer. -/
def resolved : Except Failure (List UInt8) → Except Failure (UInt16 × UInt32)
  | .error (.error (.io errno)) => .error (.error (.fromErrno errno .resolve))
  | .error f => .error f
  | .ok reply =>
    if (familyOf reply).1 = 0 then .error (.error .kernelModuleNotLoaded) else .ok (familyOf reply)

def familyPayload : List UInt8 := AttrBuf.putString ctrlAttrFamilyName "urp" []

namespace UrpSocket

def resolveFamily (s : UrpSocket) (kernel : Kernel) : Except Failure UrpSocket :=
  let (result, s) := s.sendRequestRaw kernel genlIdCtrl ctrlCmdGetfamily 1 familyPayload
  (resolved result).map fun (family, events) =>
    { s with familyId := family, eventsMcgrpId := events }

/-- `opened` is the port of the new socket, or the errno with which it could not be made. -/
def connect (opened : Except Nat UInt32) (kernel : Kernel) : Except Failure UrpSocket :=
  match opened with
  | .error errno => .error (.error (.io errno))
  | .ok pid => resolveFamily ⟨1, pid, 0, 0, []⟩ kernel

end UrpSocket

/-! ## A dump -/

def scanChunk : Nat → List UInt8 → Except Failure (Bool × List (List UInt8))
  | 0, _ => .ok (false, [])
  | fuel + 1, rest =>
    let len := lenOf rest
    if rest.length < hdrLen then .ok (false, [])
    else if len < hdrLen ∨ rest.length < len then .error (.error (.netlink .truncatedMultipart))
    else if typeOf rest = nlmsgDone then .ok (true, [])
    else if typeOf rest = nlmsgError then
      if rest.length < hdrLen + 4 then .error .panics
      else if errnoOf rest = 0 then scanChunk fuel (rest.drop (align4 len))
      else
        .error (.error (.fromErrnoWithExtack (errnoOf rest) .dump (parseExtack (rest.take len))))
    else do
      let (finished, bodies) ← scanChunk fuel (rest.drop (align4 len))
      let body := (rest.take len).drop (hdrLen + genlHdrLen)
      return (finished, (if hdrLen + genlHdrLen < len then [body] else []) ++ bodies)

def recvDump : List (List UInt8) → Except Failure (List (List UInt8)) × List (List UInt8)
  | [] => (.error .blocks, [])
  | d :: queue =>
    match scanChunk (received d).length (received d) with
    | .error f => (.error f, queue)
    | .ok (true, bodies) => (.ok bodies, queue)
    | .ok (false, bodies) => ((recvDump queue).1.map (bodies ++ ·), (recvDump queue).2)

def UrpSocket.dump (s : UrpSocket) (kernel : Kernel) (cmd : UInt8) (payload : List UInt8) :
    Except Failure (List (List UInt8)) × UrpSocket :=
  let request := genlRequest s.familyId (nlmFRequest ||| nlmFAck ||| nlmFDump) s.seq s.pid cmd
    genlVersion payload
  let s := { s with seq := s.seq + 1 }
  match kernel request with
  | .error errno => (.error (.error (.io errno)), s)
  | .ok answer =>
    let (result, queue) := recvDump (s.queue ++ answer)
    (result, { s with queue := queue })

/-! ## A batch -/

/-- `u32::next_power_of_two`, which wraps around to 0. -/
def nextPowerOfTwo (n : Nat) : Nat := (if n ≤ 1 then 1 else 2 ^ ((n - 1).log2 + 1)) % 2 ^ 32

def ringEntries (n : Nat) : Nat := max (nextPowerOfTwo (2 * n % 2 ^ 32)) 8

def enterReply (base : UInt32) (n : Nat) (out : List (Option (List UInt8))) (d : List UInt8) :
    List (Option (List UInt8)) :=
  let msg := received d
  let idx := (UInt32.ofNat (seqOf msg) - base).toNat
  let bodyEnd := min (lenOf msg) msg.length
  if msg.length < hdrLen then out
  else if n ≤ idx then out
  else if typeOf msg = nlmsgError then out.set idx none
  else if hdrLen + genlHdrLen < bodyEnd then
    out.set idx (some ((msg.take bodyEnd).drop (hdrLen + genlHdrLen)))
  else out

def answersTo (kernel : Kernel) (requests : List Msg) : List (List UInt8) :=
  requests.flatMap fun request => (kernel request).toOption.getD []

def sendError (kernel : Kernel) (requests : List Msg) : Option Nat :=
  requests.findSome? fun request =>
    match kernel request with
    | .error errno => some errno
    | .ok _ => none

namespace UrpSocket

def batchRequests (s : UrpSocket) (cmd : UInt8) (payloads : List (List UInt8)) : List Msg :=
  payloads.zipIdx.map fun (payload, i) =>
    genlRequest s.familyId nlmFRequest (s.seq + UInt32.ofNat i) s.pid cmd genlVersion payload

/-- `ringMax` is the largest ring that the kernel makes. -/
def sendBatchUring (ringMax : Nat) (s : UrpSocket) (kernel : Kernel) (cmd : UInt8)
    (payloads : List (List UInt8)) : Except Failure (List (Option (List UInt8))) × UrpSocket :=
  let n := payloads.length
  if n = 0 then (.ok [], s)
  else
    let sent := { s with seq := s.seq + UInt32.ofNat n }
    if ringMax < ringEntries n then (.error (.error (.io 22)), sent)
    else if ringEntries n < n then (.error (.error (.netlink .sqFullSend)), sent)
    else
      let requests := s.batchRequests cmd payloads
      let queue := s.queue ++ answersTo kernel requests
      match sendError kernel requests with
      | some errno =>
        (.error (.error (.netlink (.sendFailed errno))), { sent with queue := queue })
      | none =>
        if ringEntries n < n + 1 then
          (.error (.error (.netlink .sqFullTimeout)), { sent with queue := queue })
        else if queue.length < n then
          (.error (.error (.netlink .recvTimeout)), { sent with queue := [] })
        else
          (.ok ((queue.take n).foldl (enterReply s.seq n) (List.replicate n none)),
            { sent with queue := queue.drop n })

end UrpSocket

end Urp.Client
