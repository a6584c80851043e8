import Mathlib.Data.Vector.Defs
import Urp.Client.Socket

/-!
# The answers of the kernel
-/

namespace Urp.Client

open Urp.Lib Urp.Lib.Nlmsg Urp.Genl
open List hiding Vector
open Urp.Lib.Nla (align4)

structure Reply where
  type : UInt16
  flags : UInt16
  pid : UInt32
  genl : Vector UInt8 genlHdrLen
  attrs : List UInt8
  family : 16 ≤ type.toNat
  short : hdrLen + (genlHdrLen + attrs.length) ≤ recvSize

/-- `NLMSG_ERROR`: an acknowledgement, or a refusal, which may repeat the request. -/
structure Ack where
  flags : UInt16
  pid : UInt32
  errno : Nat
  rest : List UInt8
  errno_lt : errno < 2 ^ 31
  small : hdrLen + (4 + rest.length) < 2 ^ 32
  short : errno = 0 → hdrLen + (4 + rest.length) ≤ recvSize

structure Done where
  flags : UInt16
  pid : UInt32
  body : List UInt8

def Reply.msg (r : Reply) (seq : UInt32) : Msg :=
  ⟨r.type, r.flags, seq, r.pid, r.genl.toList ++ r.attrs⟩

def Ack.code (a : Ack) : List UInt8 := putLe 4 ((2 ^ 32 - a.errno) % 2 ^ 32)

def Ack.msg (a : Ack) (seq : UInt32) : Msg := ⟨2, a.flags, seq, a.pid, a.code ++ a.rest⟩

def Done.msg (d : Done) (seq : UInt32) : Msg := ⟨3, d.flags, seq, d.pid, d.body⟩

/-- A dump: the datagrams before the last, the messages before its end, and its end. -/
structure Multipart where
  parts : List (List Reply)
  last : List Reply
  done : Done

def partOf (seq : UInt32) (replies : List Reply) : List UInt8 :=
  replies.flatMap fun r => (r.msg seq).padded

def Multipart.datagrams (d : Multipart) (seq : UInt32) : List (List UInt8) :=
  d.parts.map (partOf seq) ++ [partOf seq d.last ++ (d.done.msg seq).padded]

structure Dumped extends Multipart where
  short : ∀ seq, ∀ d ∈ toMultipart.datagrams seq, d.length ≤ recvSize

inductive Acked where
  | replied (r : Reply) (a : Ack) (accepted : a.errno = 0)
  | plain (a : Ack)

structure Answers where
  acked : Msg → Acked
  single : Msg → Reply ⊕ Ack
  dumped : Msg → Dumped

def Acked.datagrams (seq : UInt32) : Acked → List (List UInt8)
  | .replied r a _ => [(r.msg seq).padded, (a.msg seq).padded]
  | .plain a => [(a.msg seq).padded]

def Acked.unread (seq : UInt32) : Acked → List (List UInt8)
  | .replied _ a _ => [(a.msg seq).padded]
  | .plain _ => []

def singleDatagram (seq : UInt32) : Reply ⊕ Ack → List UInt8
  | .inl r => (r.msg seq).padded
  | .inr a => (a.msg seq).padded

def Answers.kernel (a : Answers) : Kernel := fun m =>
  .ok (if m.flags &&& nlmFDump = nlmFDump then (a.dumped m).datagrams m.seq
    else if m.flags &&& nlmFAck = nlmFAck then (a.acked m).datagrams m.seq
    else [singleDatagram m.seq (a.single m)])

theorem kernel_acked (a : Answers) {m : Msg} (flags : m.flags = nlmFRequest ||| nlmFAck) :
    a.kernel m = .ok ((a.acked m).datagrams m.seq) := by
  simp only [Answers.kernel, flags]
  rw [if_neg (by decide), if_pos (by decide)]

theorem kernel_dumped (a : Answers) {m : Msg}
    (flags : m.flags = nlmFRequest ||| nlmFAck ||| nlmFDump) :
    a.kernel m = .ok ((a.dumped m).datagrams m.seq) := by
  simp only [Answers.kernel, flags]
  rw [if_pos (by decide)]

theorem kernel_single (a : Answers) {m : Msg} (flags : m.flags = nlmFRequest) :
    a.kernel m = .ok [singleDatagram m.seq (a.single m)] := by
  simp only [Answers.kernel, flags]
  rw [if_neg (by decide), if_neg (by decide)]

/-! ## The data of an answer -/

def Ack.refusal (a : Ack) (seq : UInt32) : UrpError :=
  .fromErrnoWithExtack a.errno .req (parseExtack ((a.msg seq).bytes.take recvSize))

def Ack.data (a : Ack) (seq : UInt32) : Except Failure (List UInt8) :=
  if a.errno = 0 then .ok [] else .error (.error (a.refusal seq))

def Acked.data (seq : UInt32) : Acked → Except Failure (List UInt8)
  | .replied r _ _ => .ok r.attrs
  | .plain a => a.data seq

def Reply.data? (r : Reply) : Option (List UInt8) := if r.attrs = [] then none else some r.attrs

def Multipart.data (d : Multipart) : List (List UInt8) :=
  (d.parts.flatten ++ d.last).filterMap Reply.data?

def singleData : Reply ⊕ Ack → Option (List UInt8)
  | .inl r => r.data?
  | .inr _ => none

/-! ## Reading a datagram -/

section Received

variable (m : Msg)

theorem align4_le_recvSize {n : Nat} (short : n ≤ recvSize) : align4 n ≤ recvSize := by
  unfold align4 recvSize at *
  omega

theorem padded_eq : m.padded =
    putLe 4 m.size ++ (m.header ++ (m.body ++ List.replicate (align4 m.size - m.size) 0)) := by
  simp [Msg.padded, Msg.bytes]

theorem received_padded_eq : received m.padded = putLe 4 m.size ++ (m.header ++
    (m.body ++ List.replicate (align4 m.size - m.size) 0).take (recvSize - hdrLen)) := by
  have head : (putLe 4 m.size ++ m.header).length = hdrLen := by simp [hdrLen]
  have room : recvSize = hdrLen + (recvSize - hdrLen) := by decide
  rw [padded_eq, received, ← append_assoc, room, ← head, take_length_add_append, head, append_assoc]
  rfl

theorem received_short {d : List UInt8} (short : d.length ≤ recvSize) : received d = d :=
  take_of_length_le short

theorem length_received_padded : (received m.padded).length = min recvSize (align4 m.size) := by
  rw [received, length_take, m.length_padded]

theorem hdrLen_le_received : hdrLen ≤ (received m.padded).length := by
  rw [length_received_padded]
  unfold align4 Msg.size hdrLen recvSize
  omega

theorem typeOf_received : typeOf (received m.padded) = m.type.toNat := by
  rw [received_padded_eq, typeOf_header]

theorem seqOf_received : UInt32.ofNat (seqOf (received m.padded)) = m.seq := by
  rw [received_padded_eq, seqOf_header, UInt32.ofNat_toNat]

theorem lenOf_received (small : m.size < 2 ^ 32) : lenOf (received m.padded) = m.size := by
  rw [received_padded_eq, lenOf_header m _ small]

theorem take_received (small : m.size < 2 ^ 32) :
    (received m.padded).take (min (lenOf (received m.padded)) (received m.padded).length) =
      m.bytes.take recvSize := by
  have whole : m.bytes = m.padded.take m.size := by
    rw [Msg.padded, take_left' m.length_bytes]
  rw [lenOf_received m small, length_received_padded, whole, received, take_take, take_take]
  congr 1
  unfold align4
  omega

end Received

section Fields

variable (r : Reply) (a : Ack) (seq : UInt32)

theorem Reply.size_msg : (r.msg seq).size = hdrLen + (genlHdrLen + r.attrs.length) := by
  simp [Msg.size, Reply.msg]

theorem Reply.small : (r.msg seq).size < 2 ^ 32 := by
  have short := r.short
  rw [r.size_msg]
  unfold recvSize at short
  omega

@[simp] theorem Ack.length_code : a.code.length = 4 := length_putLe _ _

theorem Ack.size_msg : (a.msg seq).size = hdrLen + (4 + a.rest.length) := by
  simp [Msg.size, Ack.msg]

theorem Ack.small_msg : (a.msg seq).size < 2 ^ 32 := by
  rw [a.size_msg]
  exact a.small

theorem Reply.not_error : (r.msg seq).type.toNat ≠ nlmsgError := by
  have family := r.family
  change r.type.toNat ≠ 2
  omega

theorem Reply.not_done : (r.msg seq).type.toNat ≠ nlmsgDone := by
  have family := r.family
  change r.type.toNat ≠ 3
  omega

theorem Reply.drop_bytes : (r.msg seq).bytes.drop (hdrLen + genlHdrLen) = r.attrs := by
  have genl : r.genl.toList.length = genlHdrLen := r.genl.length_toList
  rw [← drop_drop, Msg.bytes, drop_header, Reply.msg, drop_left' genl]

theorem errnoOf_ack (m : Msg) (tail : List UInt8) :
    errnoOf (putLe 4 m.size ++ (m.header ++ (a.code ++ tail))) = a.errno := by
  have small := a.errno_lt
  rw [errnoOf, drop_header, take_left' a.length_code, Ack.code, getLe_putLe_of_lt (by omega)]
  omega

end Fields

section ReadOne

variable (r : Reply) (a : Ack) (seq : UInt32)

theorem errnoOf_received : errnoOf (received (a.msg seq).padded) = a.errno := by
  have whole : a.code.take (recvSize - hdrLen) = a.code :=
    take_of_length_le (by rw [a.length_code]; decide)
  rw [received_padded_eq, Ack.msg, append_assoc, take_append, whole]
  exact errnoOf_ack a _ _

theorem Reply.bodyEnd :
    min (lenOf (received (r.msg seq).padded)) (received (r.msg seq).padded).length =
      hdrLen + (genlHdrLen + r.attrs.length) := by
  have short := r.short
  rw [lenOf_received _ (r.small seq), length_received_padded, r.size_msg]
  unfold align4
  omega

theorem Reply.body_received :
    ((received (r.msg seq).padded).take (hdrLen + (genlHdrLen + r.attrs.length))).drop
      (hdrLen + genlHdrLen) = r.attrs := by
  have whole : (r.msg seq).bytes.take recvSize = (r.msg seq).bytes :=
    take_of_length_le (by rw [Msg.length_bytes, r.size_msg]; exact r.short)
  rw [← r.bodyEnd seq, take_received _ (r.small seq), whole, r.drop_bytes seq]

theorem readOne_reply : readOne (received (r.msg seq).padded) = .ok r.attrs := by
  simp only [readOne, typeOf_received, r.bodyEnd, r.body_received]
  rw [if_neg (r.not_error seq), if_neg (by omega)]

theorem readOne_ack : readOne (received (a.msg seq).padded) = a.data seq := by
  have enough : ¬(received (a.msg seq).padded).length < hdrLen + 4 := by
    rw [length_received_padded, a.size_msg]
    unfold align4 hdrLen recvSize
    omega
  simp only [readOne, typeOf_received, errnoOf_received]
  have error : (a.msg seq).type.toNat = nlmsgError := rfl
  rw [if_pos error, if_neg enough, take_received _ (a.small_msg seq)]
  rfl

variable {wantSeq : UInt32}

theorem recvOne_taken {m : Msg} (queue : List (List UInt8))
    (wanted : m.seq = wantSeq ∨ wantSeq = 0) :
    recvOne wantSeq (m.padded :: queue) = (readOne (received m.padded), queue) := by
  have passed : ¬(m.seq ≠ wantSeq ∧ wantSeq ≠ 0) := by
    rcases wanted with same | zero
    · exact fun other => other.1 same
    · exact fun other => other.2 zero
  simp only [recvOne, seqOf_received]
  rw [if_neg (Nat.not_lt.mpr (hdrLen_le_received m)), if_neg passed]

theorem recvOne_dropped {m : Msg} (queue : List (List UInt8))
    (other : m.seq ≠ wantSeq) (nonzero : wantSeq ≠ 0) :
    recvOne wantSeq (m.padded :: queue) = recvOne wantSeq queue := by
  simp only [recvOne, seqOf_received]
  rw [if_neg (Nat.not_lt.mpr (hdrLen_le_received m)), if_pos ⟨other, nonzero⟩]

theorem recvOne_acked (k : Acked) : recvOne seq (k.datagrams seq) = (k.data seq, k.unread seq) := by
  cases k with
  | replied r a accepted =>
    have taken : (r.msg seq).seq = seq ∨ seq = 0 := .inl rfl
    rw [Acked.datagrams, recvOne_taken _ taken, readOne_reply]
    rfl
  | plain a =>
    have taken : (a.msg seq).seq = seq ∨ seq = 0 := .inl rfl
    rw [Acked.datagrams, recvOne_taken _ taken, readOne_ack]
    rfl

end ReadOne

section Dump

variable (seq : UInt32)

theorem scanChunk_nil (fuel : Nat) : scanChunk fuel [] = .ok (false, []) := by
  cases fuel with
  | zero | succ fuel => rfl

theorem fields_padded {m : Msg} (small : m.size < 2 ^ 32) (rest : List UInt8) :
    lenOf (m.padded ++ rest) = m.size ∧ typeOf (m.padded ++ rest) = m.type.toNat ∧
      hdrLen ≤ m.size ∧ m.size ≤ (m.padded ++ rest).length ∧
      (m.padded ++ rest).take m.size = m.bytes ∧
      (m.padded ++ rest).drop (align4 m.size) = rest := by
  refine ⟨?_, ?_, Nat.le_add_right _ _, ?_, ?_, ?_⟩
  · rw [padded_eq, append_assoc, append_assoc, lenOf_header m _ small]
  · rw [padded_eq, append_assoc, append_assoc, typeOf_header]
  · rw [length_append, m.length_padded]
    unfold align4
    omega
  · rw [Msg.padded, append_assoc, take_left' m.length_bytes]
  · rw [drop_left' m.length_padded]

theorem scanChunk_done (d : Done) (small : (d.msg seq).size < 2 ^ 32) (fuel : Nat) :
    scanChunk (fuel + 1) (d.msg seq).padded = .ok (true, []) := by
  obtain ⟨len, type, least, most, -, -⟩ := fields_padded small []
  rw [append_nil] at len type most
  have done : (d.msg seq).type.toNat = nlmsgDone := rfl
  simp only [scanChunk, len, type]
  rw [if_neg (by omega), if_neg (by omega), if_pos done]

theorem scanChunk_ack (a : Ack) (accepted : a.errno = 0) (fuel : Nat) :
    scanChunk (fuel + 1) (a.msg seq).padded = .ok (false, []) := by
  obtain ⟨len, type, least, most, -, dropped⟩ := fields_padded (a.small_msg seq) []
  rw [append_nil] at len type most dropped
  have notDone : (a.msg seq).type.toNat ≠ nlmsgDone := by
    change 2 ≠ 3
    decide
  have error : (a.msg seq).type.toNat = nlmsgError := rfl
  have enough : hdrLen + 4 ≤ (a.msg seq).size := by
    rw [a.size_msg]
    omega
  have code : errnoOf (a.msg seq).padded = 0 := by
    rw [padded_eq, Ack.msg, append_assoc, errnoOf_ack, accepted]
  simp only [scanChunk, len, type, code, dropped, scanChunk_nil]
  rw [if_neg (by omega), if_neg (by omega), if_neg notDone, if_pos error, if_neg (by omega),
    if_pos trivial]

theorem scanChunk_reply (r : Reply) (fuel : Nat) (rest : List UInt8) :
    scanChunk (fuel + 1) ((r.msg seq).padded ++ rest) =
      (scanChunk fuel rest).map fun (finished, bodies) =>
        (finished, r.data?.toList ++ bodies) := by
  obtain ⟨len, type, least, most, taken, dropped⟩ := fields_padded (r.small seq) rest
  have body : (if hdrLen + genlHdrLen < (r.msg seq).size then [r.attrs] else []) =
      r.data?.toList := by
    rw [r.size_msg, Reply.data?]
    cases r.attrs with
    | nil | cons b attrs => simp
  simp only [scanChunk, len, type, taken, dropped, r.drop_bytes, body]
  rw [if_neg (by omega), if_neg (by omega), if_neg (r.not_done seq), if_neg (r.not_error seq)]
  cases scanChunk fuel rest with
  | error f | ok scanned => rfl

theorem scanChunk_part (replies : List Reply) {fuel : Nat} (enough : replies.length ≤ fuel)
    (rest : List UInt8) :
    scanChunk fuel (partOf seq replies ++ rest) =
      (scanChunk (fuel - replies.length) rest).map fun (finished, bodies) =>
        (finished, replies.filterMap Reply.data? ++ bodies) := by
  induction replies generalizing fuel with
  | nil =>
    change scanChunk fuel rest = (scanChunk fuel rest).map fun (finished, bodies) =>
      (finished, bodies)
    cases scanChunk fuel rest with
    | error f | ok scanned => rfl
  | cons r replies ih =>
    cases fuel with
    | zero => cases enough
    | succ fuel =>
      have split : partOf seq (r :: replies) ++ rest =
          (r.msg seq).padded ++ (partOf seq replies ++ rest) := by
        simp [partOf]
      rw [split, scanChunk_reply, ih (Nat.le_of_succ_le_succ enough), length_cons,
        Nat.succ_sub_succ]
      cases scanChunk (fuel - replies.length) rest with
      | error f => rfl
      | ok scanned =>
        rw [filterMap_cons]
        cases r.data? with
        | none | some body => rfl

theorem length_le_partOf (replies : List Reply) : replies.length ≤ (partOf seq replies).length := by
  induction replies with
  | nil => exact Nat.le_refl 0
  | cons r replies ih =>
    have one : 1 ≤ (r.msg seq).padded.length := by
      rw [Msg.length_padded]
      unfold align4 Msg.size hdrLen
      omega
    simp only [partOf, flatMap_cons, length_append, length_cons] at ih ⊢
    omega

variable {replies : List Reply}

theorem recvDump_part (short : (partOf seq replies).length ≤ recvSize) (queue : List (List UInt8)) :
    recvDump (partOf seq replies :: queue) =
      ((recvDump queue).1.map (replies.filterMap Reply.data? ++ ·), (recvDump queue).2) := by
  have scanned := scanChunk_part seq replies (length_le_partOf seq replies) []
  rw [append_nil, scanChunk_nil] at scanned
  have bodies : scanChunk (partOf seq replies).length (partOf seq replies) =
      .ok (false, replies.filterMap Reply.data?) := by
    rw [scanned]
    simp [Except.map]
  simp only [recvDump, received_short short, bodies]

theorem recvDump_last {d : Done}
    (short : (partOf seq replies ++ (d.msg seq).padded).length ≤ recvSize)
    (queue : List (List UInt8)) :
    recvDump ((partOf seq replies ++ (d.msg seq).padded) :: queue) =
      (.ok (replies.filterMap Reply.data?), queue) := by
  have least := length_le_partOf seq replies
  have size : (d.msg seq).padded.length = align4 (d.msg seq).size := Msg.length_padded _
  have header : hdrLen ≤ (d.msg seq).size := Nat.le_add_right _ _
  have small : (d.msg seq).size < 2 ^ 32 := by
    rw [length_append] at short
    unfold align4 at size
    unfold recvSize at short
    omega
  obtain ⟨fuel, enough⟩ : ∃ fuel, (partOf seq replies ++ (d.msg seq).padded).length -
      replies.length = fuel + 1 := by
    refine Nat.exists_eq_succ_of_ne_zero ?_
    rw [length_append]
    unfold align4 at size
    unfold hdrLen at header
    omega
  have within : replies.length ≤ (partOf seq replies ++ (d.msg seq).padded).length := by
    rw [length_append]
    omega
  have scanned := scanChunk_part seq replies within (d.msg seq).padded
  rw [enough, scanChunk_done seq d small fuel] at scanned
  have bodies : scanChunk (partOf seq replies ++ (d.msg seq).padded).length
      (partOf seq replies ++ (d.msg seq).padded) = .ok (true, replies.filterMap Reply.data?) := by
    rw [scanned]
    simp [Except.map]
  simp only [recvDump, received_short short, bodies]

theorem recvDump_ack (a : Ack) (accepted : a.errno = 0) (queue : List (List UInt8)) :
    recvDump ((a.msg seq).padded :: queue) = recvDump queue := by
  have short : (a.msg seq).padded.length ≤ recvSize := by
    rw [Msg.length_padded, a.size_msg]
    exact align4_le_recvSize (a.short accepted)
  obtain ⟨fuel, length⟩ : ∃ fuel, (a.msg seq).padded.length = fuel + 1 := by
    refine Nat.exists_eq_succ_of_ne_zero ?_
    rw [Msg.length_padded, a.size_msg]
    unfold align4 hdrLen
    omega
  simp only [recvDump, received_short short]
  rw [length, scanChunk_ack seq a accepted]
  rcases recvDump queue with ⟨_ | bodies, left⟩
  · rfl
  · rfl

theorem recvDump_dumped (d : Dumped) : recvDump (d.datagrams seq) = (.ok d.data, []) := by
  obtain ⟨⟨parts, last, done⟩, all⟩ := d
  have short := all seq
  simp only [Multipart.datagrams, Multipart.data] at short ⊢
  clear all
  induction parts with
  | nil =>
    have whole := short _ (mem_singleton_self _)
    exact recvDump_last seq whole []
  | cons replies parts ih =>
    rw [map_cons, cons_append, forall_mem_cons] at short
    rw [map_cons, cons_append, recvDump_part seq short.1, ih short.2]
    simp [Except.map]

end Dump

section Batch

variable (base : UInt32) {n : Nat}

theorem offset_toNat {i : Nat} (small : i < 2 ^ 32) : (base + UInt32.ofNat i - base).toNat = i := by
  rw [UInt32.add_comm, UInt32.add_sub_cancel, UInt32.toNat_ofNat', Nat.mod_eq_of_lt small]

theorem enterReply_next {done rest : List (Option (List UInt8))}
    (length : n = done.length + (rest.length + 1)) (few : n ≤ 2 ^ 32) (x : Reply ⊕ Ack) :
    enterReply base n (done ++ none :: rest)
      (singleDatagram (base + UInt32.ofNat done.length) x) = done ++ singleData x :: rest := by
  have set (slot : Option (List UInt8)) :
      (done ++ none :: rest).set done.length slot = done ++ slot :: rest := by
    simp
  have offset : (base + UInt32.ofNat done.length - base).toNat = done.length :=
    offset_toNat base (by omega)
  generalize base + UInt32.ofNat done.length = number at offset ⊢
  cases x with
  | inl r =>
    have seq : (r.msg number).seq = number := rfl
    simp only [enterReply, singleDatagram, seqOf_received, typeOf_received, seq, offset, r.bodyEnd,
      r.body_received, set]
    rw [if_neg (Nat.not_lt.mpr (hdrLen_le_received _)), if_neg (by omega), if_neg (r.not_error _)]
    simp only [singleData, Reply.data?]
    cases r.attrs with
    | nil | cons b attrs => simp
  | inr a =>
    have seq : (a.msg number).seq = number := rfl
    have error : (a.msg number).type.toNat = nlmsgError := rfl
    simp only [enterReply, singleDatagram, seqOf_received, typeOf_received, seq, offset, set]
    rw [if_neg (Nat.not_lt.mpr (hdrLen_le_received _)), if_neg (by omega), if_pos error]
    rfl

theorem foldl_enterReply {α : Type} (few : n ≤ 2 ^ 32) (answer : α × Nat → Reply ⊕ Ack)
    (xs : List α) (done : List (Option (List UInt8))) (k : Nat)
    (length : n = done.length + (xs.length + k)) :
    ((xs.zipIdx done.length).map fun p =>
        singleDatagram (base + UInt32.ofNat p.2) (answer p)).foldl (enterReply base n)
        (done ++ List.replicate (xs.length + k) none) =
      done ++ ((xs.zipIdx done.length).map (singleData ∘ answer) ++ List.replicate k none) := by
  induction xs generalizing done with
  | nil => simp
  | cons x xs ih =>
    have slots : List.replicate ((x :: xs).length + k) (none : Option (List UInt8)) =
        none :: List.replicate (xs.length + k) none := by
      rw [length_cons, Nat.add_right_comm, replicate_succ]
    have count : n = done.length + ((List.replicate (xs.length + k)
        (none : Option (List UInt8))).length + 1) := by
      rw [length_cons] at length
      rw [length_replicate]
      omega
    rw [slots, zipIdx_cons, map_cons, foldl_cons, enterReply_next base count few]
    have later := ih (done ++ [singleData (answer (x, done.length))]) (by
      rw [length_append, length_singleton, length, length_cons]
      omega)
    simpa using later

theorem enterReply_before (few : n < 2 ^ 32) (a : Ack) (out : List (Option (List UInt8))) :
    enterReply base n out (a.msg (base - 1)).padded = out := by
  have seq : (a.msg (base - 1)).seq = base - 1 := rfl
  have offset : n ≤ (base - 1 - base).toNat := by
    have bound := base.toNat_lt
    have one : (1 : UInt32).toNat = 1 := rfl
    rw [UInt32.toNat_sub, UInt32.toNat_sub, one]
    omega
  simp only [enterReply, seqOf_received, seq]
  rw [if_neg (Nat.not_lt.mpr (hdrLen_le_received _)), if_pos offset]

end Batch

end Urp.Client
