import Urp.Client.Kernel

/-!
# Sequences of calls on one socket

A request that has a reply leaves the acknowledgement on the queue.
-/

namespace Urp.Client

open Urp.Lib Urp.Lib.Nlmsg Urp.Genl List

inductive Call where
  | request (cmd : UInt8) (payload : List UInt8)
  | dump (cmd : UInt8) (payload : List UInt8)
  | batch (cmd : UInt8) (payloads : List (List UInt8))

inductive Returned where
  | body (r : Except Failure (List UInt8))
  | bodies (r : Except Failure (List (List UInt8)))
  | slots (r : Except Failure (List (Option (List UInt8))))

/-- `send_request`, `dump` or `send_batch_uring`. -/
def Call.run (ringMax : Nat) (kernel : Kernel) (s : UrpSocket) : Call → Returned × UrpSocket
  | .request cmd payload => (s.sendRequest kernel cmd payload).map .body id
  | .dump cmd payload => (s.dump kernel cmd payload).map .bodies id
  | .batch cmd payloads => (s.sendBatchUring ringMax kernel cmd payloads).map .slots id

section Expected

variable (a : Answers) (s : UrpSocket)

def ackedRequest (cmd : UInt8) (payload : List UInt8) : Msg :=
  genlRequest s.familyId (nlmFRequest ||| nlmFAck) s.seq s.pid cmd genlVersion payload

def dumpRequest (cmd : UInt8) (payload : List UInt8) : Msg :=
  genlRequest s.familyId (nlmFRequest ||| nlmFAck ||| nlmFDump) s.seq s.pid cmd genlVersion payload

def Call.expected : Call → Returned
  | .request cmd payload => .body ((a.acked (ackedRequest s cmd payload)).data s.seq)
  | .dump cmd payload => .bodies (.ok (a.dumped (dumpRequest s cmd payload)).data)
  | .batch cmd payloads =>
    .slots (.ok ((s.batchRequests cmd payloads).map fun m => singleData (a.single m)))

end Expected

def ExactFrom (ringMax : Nat) : UrpSocket → List (Call × Answers) → Prop
  | _, [] => True
  | s, (c, a) :: run =>
    (c.run ringMax a.kernel s).1 = c.expected a s ∧
      ExactFrom ringMax (c.run ringMax a.kernel s).2 run

def familyRequest (pid : UInt32) : Msg :=
  genlRequest genlIdCtrl (nlmFRequest ||| nlmFAck) 1 pid ctrlCmdGetfamily 1 familyPayload

def Exact (ringMax : Nat) (pid : UInt32) (first : Answers) (run : List (Call × Answers)) : Prop :=
  match UrpSocket.connect (.ok pid) first.kernel with
  | .error f => resolved ((first.acked (familyRequest pid)).data 1) = .error f
  | .ok s =>
    resolved ((first.acked (familyRequest pid)).data 1) = .ok (s.familyId, s.eventsMcgrpId) ∧
      ExactFrom ringMax s run

/-! ## The calls that find what they expect -/

def RingFits (ringMax n : Nat) : Prop := n < ringEntries n ∧ ringEntries n ≤ ringMax

section Orderly

variable (replies : List UInt8 → Bool) (ringMax : Nat)

def Answers.Keeps (a : Answers) : Prop :=
  ∀ m, match a.acked m with
    | .replied _ _ _ => replies m.body = true
    | .plain ack => ack.errno = 0 → replies m.body = false

def Call.sends : Call → Nat
  | .request _ _ | .dump _ _ => 1
  | .batch _ payloads => payloads.length

def Call.mayLeave (left : Bool) : Call → Bool
  | .request cmd payload => replies ([cmd, genlVersion, 0, 0] ++ payload)
  | .dump _ _ => false
  | .batch _ payloads => if payloads = [] then left else false

def Call.Fine (seq : UInt32) (left : Bool) : Call → Prop
  | .request _ _ => left = true → seq ≠ 0
  | .dump _ _ => True
  | .batch _ payloads => payloads = [] ∨ left = false ∧ RingFits ringMax payloads.length

def Orderly : UInt32 → Bool → List Call → Prop
  | _, _, [] => True
  | seq, left, c :: calls =>
    c.Fine ringMax seq left ∧ Orderly (seq + UInt32.ofNat c.sends) (c.mayLeave replies left) calls

end Orderly

/-! ## One call -/

inductive Unread (s : UrpSocket) : Bool → Prop where
  | none (empty : s.queue = []) : Unread s false
  | ack (a : Ack) (accepted : a.errno = 0) (queued : s.queue = [(a.msg (s.seq - 1)).padded]) :
    Unread s true

variable {payload : List UInt8}

section Calls

variable {ringMax : Nat} {a : Answers} {s : UrpSocket} {left : Bool}

def Acked.replies : Acked → Bool
  | .replied _ _ _ => true
  | .plain _ => false

def Call.leaves (a : Answers) (s : UrpSocket) (left : Bool) : Call → Bool
  | .request cmd payload => (a.acked (ackedRequest s cmd payload)).replies
  | .dump _ _ => false
  | .batch _ payloads => if payloads = [] then left else false

theorem pred_ne (seq : UInt32) : seq - 1 ≠ seq := by
  intro same
  have same := congrArg UInt32.toNat same
  have one : (1 : UInt32).toNat = 1 := rfl
  rw [UInt32.toNat_sub, one] at same
  omega

theorem recvOne_unread (unread : Unread s left) (nonzero : left = true → s.seq ≠ 0)
    (answer : List (List UInt8)) : recvOne s.seq (s.queue ++ answer) = recvOne s.seq answer := by
  cases unread with
  | none empty => rw [empty, nil_append]
  | ack a accepted queued =>
    rw [queued, singleton_append]
    exact recvOne_dropped answer (pred_ne s.seq) (nonzero rfl)

variable {cmd : UInt8}

theorem sendRequestRaw_exact (unread : Unread s left) (nonzero : left = true → s.seq ≠ 0)
    {family : UInt16} {version : UInt8} {m : Msg}
    (request : m = genlRequest family (nlmFRequest ||| nlmFAck) s.seq s.pid cmd version payload) :
    s.sendRequestRaw a.kernel family cmd version payload =
      ((a.acked m).data s.seq, { s with seq := s.seq + 1, queue := (a.acked m).unread s.seq }) := by
  have flags : m.flags = nlmFRequest ||| nlmFAck := by rw [request]; rfl
  have seq : m.seq = s.seq := by rw [request]; rfl
  simp only [UrpSocket.sendRequestRaw, ← request, kernel_acked a flags, seq]
  rw [recvOne_unread unread nonzero, recvOne_acked]

theorem unread_acked (k : Acked) :
    Unread { s with seq := s.seq + 1, queue := k.unread s.seq } k.replies := by
  cases k with
  | replied r a accepted =>
    refine .ack a accepted ?_
    change [(a.msg s.seq).padded] = [(a.msg (s.seq + 1 - 1)).padded]
    rw [UInt32.add_sub_cancel]
  | plain a => exact .none rfl

theorem dump_exact (unread : Unread s left) (cmd : UInt8) (payload : List UInt8) :
    s.dump a.kernel cmd payload = (.ok (a.dumped (dumpRequest s cmd payload)).data,
        { s with seq := s.seq + 1, queue := [] }) := by
  have answered : a.kernel (dumpRequest s cmd payload) =
      .ok ((a.dumped (dumpRequest s cmd payload)).datagrams s.seq) := kernel_dumped a rfl
  have read : recvDump (s.queue ++ (a.dumped (dumpRequest s cmd payload)).datagrams s.seq) =
      (.ok (a.dumped (dumpRequest s cmd payload)).data, []) := by
    cases unread with
    | none empty => rw [empty, nil_append, recvDump_dumped]
    | ack ack accepted queued =>
      rw [queued, singleton_append, recvDump_ack _ ack accepted, recvDump_dumped]
  rw [dumpRequest] at answered read ⊢
  simp only [UrpSocket.dump, answered, read]

def batchAnswers (a : Answers) (s : UrpSocket) (cmd : UInt8) (payloads : List (List UInt8)) :
    List (List UInt8) :=
  (s.batchRequests cmd payloads).map fun m => singleDatagram m.seq (a.single m)

variable {payloads : List (List UInt8)}

theorem flags_batchRequests {m : Msg}
    (member : m ∈ s.batchRequests cmd payloads) : m.flags = nlmFRequest := by
  obtain ⟨⟨payload, i⟩, -, rfl⟩ := mem_map.mp member
  rfl

theorem answersTo_batch (a : Answers) (s : UrpSocket) (cmd : UInt8) (payloads : List (List UInt8)) :
    answersTo a.kernel (s.batchRequests cmd payloads) = batchAnswers a s cmd payloads := by
  have each : ∀ m ∈ s.batchRequests cmd payloads,
      (a.kernel m).toOption.getD [] = [singleDatagram m.seq (a.single m)] := fun m member => by
    rw [kernel_single a (flags_batchRequests member)]
    rfl
  rw [answersTo, flatMap_congr each, batchAnswers, map_eq_flatMap]

theorem sendError_batch (a : Answers) (s : UrpSocket) (cmd : UInt8)
    (payloads : List (List UInt8)) : sendError a.kernel (s.batchRequests cmd payloads) = none := by
  refine List.findSome?_eq_none_iff.mpr fun m member => ?_
  rw [kernel_single a (flags_batchRequests member)]

theorem sendBatchUring_eq (nonempty : payloads ≠ []) (ring : RingFits ringMax payloads.length) :
    s.sendBatchUring ringMax a.kernel cmd payloads =
      (.ok (((s.queue ++ batchAnswers a s cmd payloads).take payloads.length).foldl
          (enterReply s.seq payloads.length) (List.replicate payloads.length none)),
        { s with
          seq := s.seq + UInt32.ofNat payloads.length
          queue := (s.queue ++ batchAnswers a s cmd payloads).drop payloads.length }) := by
  have some : payloads.length ≠ 0 := fun none => nonempty (eq_nil_of_length_eq_zero none)
  have enough : ¬(s.queue ++ batchAnswers a s cmd payloads).length < payloads.length := by
    simp [batchAnswers, UrpSocket.batchRequests]
  obtain ⟨entries, made⟩ := ring
  simp only [UrpSocket.sendBatchUring, answersTo_batch, sendError_batch]
  rw [if_neg some, if_neg (by omega), if_neg (by omega), if_neg (by omega), if_neg enough]

theorem ringEntries_lt (n : Nat) : ringEntries n < 2 ^ 32 := by
  have wrapped : nextPowerOfTwo (2 * n % 2 ^ 32) < 2 ^ 32 := Nat.mod_lt _ (by decide)
  unfold ringEntries
  omega

theorem RingFits.few {n : Nat} (ring : RingFits ringMax n) : n < 2 ^ 32 :=
  Nat.lt_trans ring.1 (ringEntries_lt n)

def batchAnswer (a : Answers) (s : UrpSocket) (cmd : UInt8) (p : List UInt8 × Nat) : Reply ⊕ Ack :=
  a.single (genlRequest s.familyId nlmFRequest (s.seq + UInt32.ofNat p.2) s.pid cmd genlVersion p.1)

theorem batchAnswers_eq (cmd : UInt8) (payloads : List (List UInt8)) :
    batchAnswers a s cmd payloads = payloads.zipIdx.map fun p =>
      singleDatagram (s.seq + UInt32.ofNat p.2) (batchAnswer a s cmd p) := by
  rw [batchAnswers, UrpSocket.batchRequests, map_map]
  rfl

theorem expected_batch (cmd : UInt8) (payloads : List (List UInt8)) :
    ((s.batchRequests cmd payloads).map fun m => singleData (a.single m)) =
      payloads.zipIdx.map (singleData ∘ batchAnswer a s cmd) := by
  rw [UrpSocket.batchRequests, map_map]
  rfl

theorem batch_exact (empty : s.queue = [])
    (nonempty : payloads ≠ []) (ring : RingFits ringMax payloads.length) :
    s.sendBatchUring ringMax a.kernel cmd payloads =
      (.ok ((s.batchRequests cmd payloads).map fun m => singleData (a.single m)),
        { s with seq := s.seq + UInt32.ofNat payloads.length, queue := [] }) := by
  have length : (batchAnswers a s cmd payloads).length = payloads.length := by
    simp [batchAnswers_eq]
  have filled := foldl_enterReply s.seq (Nat.le_of_lt ring.few) (batchAnswer a s cmd) payloads [] 0
    (by simp)
  simp only [length_nil, nil_append, Nat.add_zero, replicate_zero, append_nil,
    ← batchAnswers_eq, ← expected_batch] at filled
  rw [sendBatchUring_eq nonempty ring, empty, nil_append, ← length, take_length,
    drop_length, length, filled]

theorem batch_missed (a : Answers) (unread : Unread s true) (cmd : UInt8)
    (ring : RingFits ringMax (payloads ++ [payload]).length) :
    (s.sendBatchUring ringMax a.kernel cmd (payloads ++ [payload])).1 =
      .ok (payloads.zipIdx.map (singleData ∘ batchAnswer a s cmd) ++ [none]) := by
  have few := ring.few
  cases unread with
  | ack ack accepted queued =>
    have length : (payloads ++ [payload]).length = payloads.length + 1 := length_append
    have taken : (s.queue ++ batchAnswers a s cmd (payloads ++ [payload])).take
        (payloads ++ [payload]).length =
        (ack.msg (s.seq - 1)).padded :: batchAnswers a s cmd payloads := by
      rw [queued, length, singleton_append, take_succ_cons, batchAnswers_eq,
        batchAnswers_eq, zipIdx_append, map_append, take_left' (by simp)]
    have filled := foldl_enterReply s.seq (Nat.le_of_lt few) (batchAnswer a s cmd) payloads [] 1
      (by simp)
    rw [sendBatchUring_eq (by simp) ring, taken, foldl_cons, enterReply_before s.seq few]
    simp only [length_nil, nil_append, ← batchAnswers_eq, replicate_one] at filled
    rw [length] at filled ⊢
    rw [filled]

theorem batch_unringed (a : Answers) (s : UrpSocket) (cmd : UInt8) (nonempty : payloads ≠ [])
    (none : ¬RingFits ringMax payloads.length) :
    ∃ f, (s.sendBatchUring ringMax a.kernel cmd payloads).1 = .error f := by
  have some : payloads.length ≠ 0 := fun none => nonempty (eq_nil_of_length_eq_zero none)
  simp only [UrpSocket.sendBatchUring, sendError_batch]
  rw [if_neg some]
  split_ifs with unmade full noTimeout
  · exact ⟨_, rfl⟩
  · exact ⟨_, rfl⟩
  · exact ⟨_, rfl⟩
  · exact absurd ⟨Nat.not_lt.mp noTimeout, Nat.not_lt.mp unmade⟩ none
  · exact absurd ⟨Nat.not_lt.mp noTimeout, Nat.not_lt.mp unmade⟩ none

theorem run_exact (unread : Unread s left) {c : Call} (fine : c.Fine ringMax s.seq left) :
    (c.run ringMax a.kernel s).1 = c.expected a s ∧
      Unread (c.run ringMax a.kernel s).2 (c.leaves a s left) ∧
      (c.run ringMax a.kernel s).2.seq = s.seq + UInt32.ofNat c.sends := by
  cases c with
  | request cmd payload =>
    have exact : s.sendRequest a.kernel cmd payload = _ :=
      sendRequestRaw_exact unread fine (m := ackedRequest s cmd payload) rfl
    simp only [Call.run, exact]
    exact ⟨rfl, unread_acked _, rfl⟩
  | dump cmd payload =>
    simp only [Call.run, dump_exact unread]
    exact ⟨rfl, .none rfl, rfl⟩
  | batch cmd payloads =>
    rcases fine with rfl | ⟨rfl, ring⟩
    · exact ⟨rfl, unread, (UInt32.add_zero _).symm⟩
    · by_cases empty : payloads = []
      · subst empty
        exact ⟨rfl, unread, (UInt32.add_zero _).symm⟩
      · cases unread with
        | none queue =>
          simp only [Call.run, batch_exact queue empty ring]
          refine ⟨rfl, ?_, rfl⟩
          rw [Call.leaves, if_neg empty]
          exact .none rfl

end Calls

/-! ## All calls -/

section Runs

variable {replies : List UInt8 → Bool} {ringMax : Nat} {a : Answers} {s : UrpSocket}
  {left left' : Bool} {c : Call} {calls : List Call}

theorem Call.Fine.mono {seq : UInt32} (fine : c.Fine ringMax seq left')
    (less : left = true → left' = true) : c.Fine ringMax seq left := by
  cases c with
  | request cmd payload => exact fun unread => fine (less unread)
  | dump cmd payload => trivial
  | batch cmd payloads =>
    rcases fine with none | ⟨clean, ring⟩
    · exact .inl none
    · subst clean
      exact .inr ⟨by simpa using less, ring⟩

theorem leaves_le (keeps : a.Keeps replies) (less : left = true → left' = true) :
    c.leaves a s left = true → c.mayLeave replies left' = true := by
  cases c with
  | request cmd payload =>
    intro leaves
    have kept := keeps (ackedRequest s cmd payload)
    rw [Call.leaves] at leaves
    cases acked : a.acked (ackedRequest s cmd payload) with
    | replied r ack accepted =>
      rwa [acked] at kept
    | plain ack =>
      rw [acked] at leaves
      cases leaves
  | dump cmd payload => exact id
  | batch cmd payloads =>
    simp only [Call.leaves, Call.mayLeave]
    split
    · exact less
    · exact id

theorem exactFrom_of_orderly (unread : Unread s left) (less : left = true → left' = true)
    (orderly : Orderly replies ringMax s.seq left' calls) {answers : List Answers}
    (keeps : ∀ a ∈ answers, a.Keeps replies) : ExactFrom ringMax s (calls.zip answers) := by
  induction calls generalizing s left left' answers with
  | nil => trivial
  | cons c calls ih =>
    cases answers with
    | nil => trivial
    | cons a answers =>
      obtain ⟨fine, orderly⟩ := orderly
      obtain ⟨keeps, later⟩ := forall_mem_cons.mp keeps
      obtain ⟨exact, unread, seq⟩ := run_exact (a := a) unread (fine.mono less)
      rw [← seq] at orderly
      exact ⟨exact, ih unread (leaves_le keeps less) orderly later⟩

/-! ### Answers for which a disorderly call fails -/

def sampleReply : Reply :=
  ⟨16, 0, 0, #v[4, 1, 0, 0], [5, 0, 1, 0, 7, 0, 0, 0], by decide, by decide⟩

def sampleAck : Ack := ⟨0, 0, 0, [], by decide, by decide, by decide⟩

def sampleRefusal : Ack := ⟨0, 0, 1, [], by decide, by decide, by decide⟩

def emptyDump : Multipart := ⟨[], [], ⟨0, 0, [0, 0, 0, 0]⟩⟩

theorem short_emptyDump (seq : UInt32) : ∀ d ∈ emptyDump.datagrams seq, d.length ≤ recvSize := by
  intro d member
  have length : d.length = Nla.align4 (hdrLen + 4) := by
    rw [mem_singleton.mp member]
    exact Msg.length_padded _
  rw [length]
  decide

def sampleDump : Dumped := ⟨emptyDump, short_emptyDump⟩

def accepting (replies : List UInt8 → Bool) : Answers where
  acked m := if replies m.body then .replied sampleReply sampleAck rfl else .plain sampleAck
  single _ := .inl sampleReply
  dumped _ := sampleDump

def refusing : Answers where
  acked _ := .plain sampleRefusal
  single _ := .inr sampleRefusal
  dumped _ := sampleDump

def familyReply : Reply :=
  ⟨16, 0, 0, #v[1, 2, 0, 0], [6, 0, 1, 0, 31, 0, 0, 0], by decide, by decide⟩

def familyAnswers : Answers where
  acked _ := .replied familyReply sampleAck rfl
  single _ := .inl familyReply
  dumped _ := sampleDump

theorem keeps_accepting (replies : List UInt8 → Bool) : (accepting replies).Keeps replies := by
  intro m
  simp only [accepting]
  cases has : replies m.body with
  | true => rfl
  | false => exact fun _ => rfl

theorem keeps_refusing (replies : List UInt8 → Bool) : refusing.Keeps replies := by
  intro m accepted
  cases accepted

theorem leaves_accepting : c.leaves (accepting replies) s left = c.mayLeave replies left := by
  cases c with
  | request cmd payload =>
    simp only [Call.leaves, Call.mayLeave, accepting]
    change Acked.replies (if replies ([cmd, genlVersion, 0, 0] ++ payload) then _ else _) = _
    split
    next has => exact has.symm
    next has => simpa [Acked.replies] using has
  | dump cmd payload | batch cmd payloads => rfl

theorem request_wrong (unread : Unread s true) (zero : s.seq = 0) (cmd : UInt8)
    (payload : List UInt8) :
    (Call.run ringMax refusing.kernel s (.request cmd payload)).1 ≠
      Call.expected refusing s (.request cmd payload) := by
  cases unread with
  | ack a accepted queued =>
    have answered := kernel_acked refusing (m := ackedRequest s cmd payload) rfl
    have read : (s.sendRequest refusing.kernel cmd payload).1 = .ok [] := by
      rw [UrpSocket.sendRequest, UrpSocket.sendRequestRaw]
      rw [ackedRequest] at answered
      simp only [answered, queued, singleton_append]
      change (recvOne s.seq _).1 = _
      rw [recvOne_taken _ (.inr zero), readOne_ack, Ack.data, if_pos accepted]
    intro same
    simp only [Call.run, Prod.map_fst, read] at same
    cases same

theorem batch_wrong {cmd : UInt8} {payloads : List (List UInt8)} (unread : Unread s left)
    (wrong : ¬(left = false ∧ RingFits ringMax (payloads ++ [payload]).length)) :
    (Call.run ringMax (accepting replies).kernel s (.batch cmd (payloads ++ [payload]))).1 ≠
      Call.expected (accepting replies) s (.batch cmd (payloads ++ [payload])) := by
  intro same
  by_cases ring : RingFits ringMax (payloads ++ [payload]).length
  · have unread : Unread s true := by
      cases left with
      | false => exact absurd ⟨rfl, ring⟩ wrong
      | true => exact unread
    simp only [Call.run, Prod.map_fst, batch_missed (accepting replies) unread cmd ring,
      Call.expected, expected_batch, Returned.slots.injEq, Except.ok.injEq, zipIdx_append,
      map_append] at same
    have last := append_cancel_left same
    cases last
  · obtain ⟨f, failed⟩ := batch_unringed (accepting replies) s cmd (by simp) ring
    simp only [Call.run, Prod.map_fst, failed] at same
    cases same

theorem exists_wrong (replies : List UInt8 → Bool) (unread : Unread s left)
    (wrong : ¬c.Fine ringMax s.seq left) :
    ∃ a : Answers, a.Keeps replies ∧ (c.run ringMax a.kernel s).1 ≠ c.expected a s := by
  cases c with
  | request cmd payload =>
    obtain ⟨rfl, zero⟩ : left = true ∧ s.seq = 0 := by
      simpa [Call.Fine] using wrong
    exact ⟨refusing, keeps_refusing replies, request_wrong unread zero cmd payload⟩
  | dump cmd payload => exact absurd trivial wrong
  | batch cmd payloads =>
    rcases eq_nil_or_concat payloads with rfl | ⟨payloads, payload, rfl⟩
    · exact absurd (.inl rfl) wrong
    · rw [concat_eq_append] at wrong ⊢
      exact ⟨accepting replies, keeps_accepting replies,
        batch_wrong unread fun fine => wrong (.inr fine)⟩

theorem exists_inexact (unread : Unread s left)
    (disorderly : ¬Orderly replies ringMax s.seq left calls) :
    ∃ answers : List Answers, answers.length = calls.length ∧ (∀ a ∈ answers, a.Keeps replies) ∧
      ¬ExactFrom ringMax s (calls.zip answers) := by
  induction calls generalizing s left with
  | nil => exact absurd trivial disorderly
  | cons c calls ih =>
    by_cases fine : c.Fine ringMax s.seq left
    · obtain ⟨-, after, seq⟩ := run_exact (a := accepting replies) unread fine
      rw [leaves_accepting] at after
      obtain ⟨answers, length, keeps, inexact⟩ := ih after fun orderly =>
        disorderly ⟨fine, seq ▸ orderly⟩
      refine ⟨accepting replies :: answers, by simpa using length,
        forall_mem_cons.mpr ⟨keeps_accepting replies, keeps⟩, fun exact => inexact exact.2⟩
    · obtain ⟨a, keeps, wrong⟩ := exists_wrong replies unread fine
      refine ⟨a :: List.replicate calls.length (accepting replies), by simp, ?_, fun exact =>
        wrong exact.1⟩
      refine forall_mem_cons.mpr ⟨keeps, fun b member => ?_⟩
      rw [eq_of_mem_replicate member]
      exact keeps_accepting replies

/-! ### The connection -/

theorem connect_eq (a : Answers) (pid : UInt32) : UrpSocket.connect (.ok pid) a.kernel =
      (resolved ((a.acked (familyRequest pid)).data 1)).map fun (family, events) =>
        ⟨2, pid, family, events, (a.acked (familyRequest pid)).unread 1⟩ := by
  have clean : Unread ⟨1, pid, 0, 0, []⟩ false := .none rfl
  have exact := sendRequestRaw_exact (a := a) clean (by simp) (m := familyRequest pid) rfl
  simp only [UrpSocket.connect, UrpSocket.resolveFamily, exact]
  rfl

theorem resolved_plain (a : Ack) : ∃ f, resolved ((Acked.plain a).data 1) = .error f := by
  rw [Acked.data, Ack.data]
  split
  · exact ⟨.error .kernelModuleNotLoaded, rfl⟩
  · unfold resolved
    split
    · exact ⟨_, rfl⟩
    · exact ⟨_, rfl⟩
    next absurdly => cases absurdly

theorem unread_connected {pid : UInt32} {first : Answers}
    (connected : UrpSocket.connect (.ok pid) first.kernel = .ok s) :
    Unread s true ∧ s.seq = 2 ∧
      resolved ((first.acked (familyRequest pid)).data 1) = .ok (s.familyId, s.eventsMcgrpId) := by
  rw [connect_eq] at connected
  cases found : resolved ((first.acked (familyRequest pid)).data 1) with
  | error f =>
    rw [found] at connected
    cases connected
  | ok family =>
    rw [found] at connected
    obtain ⟨family, events⟩ := family
    cases connected
    refine ⟨?_, rfl, rfl⟩
    cases acked : first.acked (familyRequest pid) with
    | replied r a accepted =>
      have before : (2 : UInt32) - 1 = 1 := by decide
      refine .ack a accepted ?_
      change [(a.msg 1).padded] = [(a.msg (2 - 1)).padded]
      rw [before]
    | plain a =>
      rw [acked] at found
      obtain ⟨f, failed⟩ := resolved_plain a
      rw [failed] at found
      cases found

/-- Every call of a sequence returns exactly the data of the replies to its own requests, whatever
these are, where the sequence is orderly, and only there. -/
theorem calls_exact_iff (replies : List UInt8 → Bool) (ringMax : Nat) (calls : List Call) :
    (∀ pid first (answers : List Answers), answers.length = calls.length →
      (∀ a ∈ answers, a.Keeps replies) → Exact ringMax pid first (calls.zip answers)) ↔
    Orderly replies ringMax 2 true calls := by
  constructor
  · intro exact
    by_contra disorderly
    have connected : UrpSocket.connect (.ok 7) familyAnswers.kernel =
        .ok ⟨2, 7, 31, 0, [(sampleAck.msg 1).padded]⟩ := by
      rw [connect_eq]
      rfl
    obtain ⟨answers, length, keeps, inexact⟩ :=
      exists_inexact (unread_connected connected).1 disorderly
    have exact := exact 7 familyAnswers answers length keeps
    unfold Exact at exact
    exact inexact exact.2
  · intro orderly pid first answers _ keeps
    unfold Exact
    split
    next f failed =>
      rw [connect_eq] at failed
      cases found : resolved ((first.acked (familyRequest pid)).data 1) with
      | error f' =>
        rw [found] at failed
        exact congrArg Except.error (Except.error.inj failed)
      | ok family =>
        rw [found] at failed
        cases failed
    next s connected =>
      obtain ⟨unread, seq, family⟩ := unread_connected connected
      rw [← seq] at orderly
      exact ⟨family, exactFrom_of_orderly unread id orderly keeps⟩

end Runs

section Sample

def getOne : List UInt8 := AttrBuf.nest attrEndpoint (.putString EndpointAttr.name.code "a") []

theorem dump_then_batch_exact : Exact 32768 7 familyAnswers
      ([.dump 4 [], .batch 4 [getOne, getOne]].zip
        [accepting fun _ => true, accepting fun _ => true]) := by
  have orderly : Orderly (fun _ => true) 32768 2 true [.dump 4 [], .batch 4 [getOne, getOne]] :=
    ⟨trivial, .inr ⟨rfl, by decide, by decide⟩, trivial⟩
  refine (calls_exact_iff _ _ _).mpr orderly 7 familyAnswers _ rfl ?_
  simpa using keeps_accepting fun _ => true

/-- The first batch on a socket finds the acknowledgement of the connection. -/
theorem first_batch_loses_last : ∃ s, UrpSocket.connect (.ok 7) familyAnswers.kernel = .ok s ∧
      (Call.run 32768 (accepting fun _ => true).kernel s (.batch 4 [getOne, getOne])).1 =
        .slots (.ok [some sampleReply.attrs, none]) ∧
      Call.expected (accepting fun _ => true) s (.batch 4 [getOne, getOne]) =
        .slots (.ok [some sampleReply.attrs, some sampleReply.attrs]) := by
  have connected : UrpSocket.connect (.ok 7) familyAnswers.kernel =
      .ok ⟨2, 7, 31, 0, [(sampleAck.msg 1).padded]⟩ := by
    rw [connect_eq]
    rfl
  refine ⟨_, connected, ?_, rfl⟩
  have ring : RingFits 32768 ([getOne] ++ [getOne]).length := ⟨by decide, by decide⟩
  exact congrArg Returned.slots
    (batch_missed (accepting fun _ => true) (unread_connected connected).1 4 ring)

end Sample

end Urp.Client
