import Urp.Endpoint.Streams
import Urp.Lib.Run

/-!
# The receive buffers of an endpoint

The second half of the buffers is for receiving.
-/

namespace Urp

open Urp.Lib Urp.Frame List

/-- The receive buffers of `urp_bufs_init`. -/
structure Pool where
  recvFree : List Nat
  posted : List Nat
  srq : Bool
deriving DecidableEq, Repr

def recvBuffers (numBufs : Nat) : List Nat := List.range' (numBufs / 2) (numBufs - numBufs / 2)

namespace Pool

def init (numBufs : Nat) : Pool := ⟨recvBuffers numBufs, [], false⟩

def allocRecv (p : Pool) : Pool × Option Nat :=
  match p.recvFree with
  | [] => (p, none)
  | buf :: rest => ({ p with recvFree := rest }, some buf)

def freeRecv (p : Pool) (buf : Nat) : Pool := { p with recvFree := p.recvFree ++ [buf] }

section Posting

-- what the device answers when a receive of the buffer is posted
variable (ibPostSrqRecv : Nat → Except Errno Unit)

def postSrqRecv (p : Pool) (buf : Nat) : Pool × Except Errno Unit :=
  match ibPostSrqRecv buf with
  | .ok () => ({ p with posted := p.posted ++ [buf] }, .ok ())
  | .error e => (p, .error e)

def postInitial : (wanted posted : Nat) → Pool → Pool × Except Errno Unit
  | 0, posted, p => (p, if posted = 0 then .error .ENOBUFS else .ok ())
  | wanted + 1, posted, p =>
    match p.allocRecv with
    | (p, none) => (p, if posted = 0 then .error .ENOBUFS else .ok ())
    | (p, some buf) =>
      match p.postSrqRecv ibPostSrqRecv buf with
      | (p, .error e) => (p.freeRecv buf, .error e)
      | (p, .ok ()) => postInitial wanted (posted + 1) p

def srqCreate (p : Pool) (numBufs maxSrqWr : Nat) : Pool × Except Errno Unit :=
  if p.srq then (p, .ok ())
  else
    match postInitial ibPostSrqRecv (min (numBufs / 2) maxSrqWr) 0 { p with srq := true } with
    | (p, .ok ()) => (p, .ok ())
    | (p, .error e) => ({ p with srq := false }, .error e)

def repost (p : Pool) (buf : Nat) : Pool :=
  match (p.freeRecv buf).allocRecv with
  | (p, none) => p
  | (p, some next) =>
    if p.srq then
      match p.postSrqRecv ibPostSrqRecv next with
      | (p, .ok ()) => p
      | (p, .error _) => p.freeRecv next
    else p.freeRecv next

end Posting

end Pool

inductive WcStatus where
  | success | wrFlushErr | error
deriving DecidableEq, Repr

structure Receiver where
  ep : Endpoint
  pool : Pool

namespace Receiver

structure Completion where
  buf : Nat
  status : WcStatus
  qp : Nat
  wire : List UInt8
  answers : Answers

section Machine

variable (ibPostSrqRecv : Nat → Except Errno Unit)

/-- The handler of a receive completion. A frame that was received takes one of the branches of
`Endpoint.recvDone`; all of them end in `Pool.repost`. -/
def recvDone (r : Receiver) (wc : Completion) : Receiver :=
  let pool := { r.pool with posted := r.pool.posted.erase wc.buf }
  match wc.status with
  | .success =>
    ⟨(r.ep.recvDone wc.answers wc.qp wc.wire).1, pool.repost ibPostSrqRecv wc.buf⟩
  | .wrFlushErr => ⟨r.ep, pool.freeRecv wc.buf⟩
  | .error => ⟨r.ep, pool.freeRecv wc.buf⟩

/-- A completion in `urp_recv_done_for_srq`. -/
def step (r : Receiver) (wc : Completion) : Option Receiver :=
  if wc.buf ∈ r.pool.posted then some (r.recvDone ibPostSrqRecv wc) else none

end Machine

def start (ep : Endpoint) (maxSrqWr : Nat) : Receiver :=
  ⟨ep, ((Pool.init ep.settings.sizes.numBufs).srqCreate (fun _ => .ok ())
    ep.settings.sizes.numBufs maxSrqWr).1⟩

/-! ## Every buffer in one place -/

def Whole (numBufs : Nat) (p : Pool) : Prop :=
  (p.recvFree ++ p.posted).Perm (recvBuffers numBufs)

variable {numBufs : Nat} {p : Pool}

theorem Whole.freeRecv {buf : Nat} (whole : Whole numBufs p) (posted : buf ∈ p.posted) :
    Whole numBufs ({ p with posted := p.posted.erase buf }.freeRecv buf) := by
  have back : (p.recvFree ++ [buf] ++ p.posted.erase buf).Perm (p.recvFree ++ p.posted) := by
    rw [append_assoc]
    exact (perm_cons_erase posted).symm.append_left _
  exact back.trans whole

theorem repost_ok (srq : p.srq = true) (buf : Nat) : p.repost (fun _ => .ok ()) buf =
      { p with
        recvFree := (p.recvFree ++ [buf]).tail
        posted := p.posted ++ [(p.recvFree ++ [buf]).head (by simp)] } := by
  obtain ⟨recvFree, posted, _⟩ := p
  obtain rfl : _ = true := srq
  cases recvFree with
  | nil | cons next rest => rfl

theorem Whole.repost {buf : Nat} (whole : Whole numBufs p) (srq : p.srq = true)
    (posted : buf ∈ p.posted) :
    Whole numBufs ({ p with posted := p.posted.erase buf }.repost (fun _ => .ok ()) buf) := by
  rw [repost_ok (p := { p with posted := p.posted.erase buf }) srq]
  have moved : ∀ (queue rest : List Nat) (nonempty : queue ≠ []),
      (queue.tail ++ (rest ++ [queue.head nonempty])).Perm (queue ++ rest) := by
    intro queue rest nonempty
    obtain ⟨next, queue, rfl⟩ := exists_cons_of_ne_nil nonempty
    rw [tail_cons, head_cons, ← append_assoc]
    exact perm_append_singleton _ _
  exact (moved _ _ _).trans (whole.freeRecv posted)

theorem postInitial_ok (wanted posted : Nat) (p : Pool) (whole : Whole numBufs p) :
    Whole numBufs (Pool.postInitial (fun _ => .ok ()) wanted posted p).1 ∧
      (Pool.postInitial (fun _ => .ok ()) wanted posted p).1.srq = p.srq ∧
      ((Pool.postInitial (fun _ => .ok ()) wanted posted p).2 = .ok () ∨
        posted = 0 ∧ (Pool.postInitial (fun _ => .ok ()) wanted posted p).1.posted = p.posted) := by
  have ended : (if posted = 0 then Except.error Errno.ENOBUFS else .ok ()) = .ok () ∨
      posted = 0 ∧ p.posted = p.posted := by
    by_cases none_posted : posted = 0
    · exact .inr ⟨none_posted, rfl⟩
    · exact .inl (if_neg none_posted)
  induction wanted generalizing posted p with
  | zero => exact ⟨whole, rfl, ended⟩
  | succ wanted ih =>
    obtain ⟨recvFree, queue, srq⟩ := p
    cases recvFree with
    | nil => exact ⟨whole, rfl, ended⟩
    | cons buf rest =>
      have moved : Whole numBufs ⟨rest, queue ++ [buf], srq⟩ := by
        refine List.Perm.trans ?_ whole
        rw [← append_assoc]
        exact perm_append_singleton _ _
      obtain ⟨whole', same, outcome⟩ := ih (posted + 1) ⟨rest, queue ++ [buf], srq⟩ moved (.inl rfl)
      refine ⟨whole', same, .inl ?_⟩
      rcases outcome with good | ⟨zero, -⟩
      · exact good
      · exact absurd zero (Nat.succ_ne_zero posted)

structure Sound (numBufs : Nat) (r : Receiver) : Prop where
  whole : Whole numBufs r.pool
  queue : r.pool.srq = true ∨ r.pool.posted = []

theorem sound_start (ep : Endpoint) (maxSrqWr : Nat) :
    Sound ep.settings.sizes.numBufs (start ep maxSrqWr) := by
  have all : Whole ep.settings.sizes.numBufs
      { Pool.init ep.settings.sizes.numBufs with srq := true } := by
    simp [Whole, Pool.init]
  obtain ⟨whole, srq, outcome⟩ :=
    postInitial_ok (min (ep.settings.sizes.numBufs / 2) maxSrqWr) 0 _ all
  rw [start, Pool.srqCreate, if_neg (by simp [Pool.init])]
  split
  · rename_i p made
    rw [made] at whole srq
    exact ⟨whole, .inl srq⟩
  · rename_i p e failed
    rw [failed] at whole outcome
    rcases outcome with good | ⟨-, none_posted⟩
    · cases good
    · exact ⟨whole, .inr none_posted⟩

theorem Sound.recvDone {r : Receiver} (sound : Sound numBufs r) {wc : Completion}
    (posted : wc.buf ∈ r.pool.posted) :
    Sound numBufs (r.recvDone (fun _ => .ok ()) wc) ∧
      (r.recvDone (fun _ => .ok ()) wc).pool.posted.length +
        (if wc.status = .success then 0 else 1) = r.pool.posted.length := by
  have srq : r.pool.srq = true := by
    refine sound.queue.resolve_right fun empty => ?_
    rw [empty] at posted
    exact not_mem_nil posted
  have fewer := length_erase_add_one posted
  cases status : wc.status with
  | success =>
    simp only [Receiver.recvDone, status, if_true, Nat.add_zero]
    refine ⟨⟨sound.whole.repost srq posted, .inl ?_⟩, ?_⟩
    · rwa [repost_ok (p := { r.pool with posted := r.pool.posted.erase wc.buf }) srq]
    · rw [repost_ok (p := { r.pool with posted := r.pool.posted.erase wc.buf }) srq,
        length_append]
      exact fewer
  | wrFlushErr | error =>
    simp only [Receiver.recvDone, status]
    exact ⟨⟨sound.whole.freeRecv posted, .inl srq⟩, fewer⟩

theorem step_eq_some {ibPostSrqRecv : Nat → Except Errno Unit} {r r' : Receiver} {wc : Completion}
    (moved : r.step ibPostSrqRecv wc = some r') :
    wc.buf ∈ r.pool.posted ∧ r' = r.recvDone ibPostSrqRecv wc := by
  simpa [step, eq_comm] using moved

/-- Every buffer is always free or posted, and not both. The queue keeps the number of receives it
was given at first throughout a run exactly if every completion of the run is a success. -/
theorem posted_throughout_iff (ep : Endpoint) (maxSrqWr : Nat) (completions : List Completion)
    (r : Receiver)
    (reached : run (step fun _ => .ok ()) (start ep maxSrqWr) completions = some r) :
    Throughout (step fun _ => .ok ()) (fun r => Whole ep.settings.sizes.numBufs r.pool)
        (start ep maxSrqWr) completions ∧
      (Throughout (step fun _ => .ok ())
          (fun r => r.pool.posted.length = (start ep maxSrqWr).pool.posted.length)
          (start ep maxSrqWr) completions ↔
        ∀ wc ∈ completions, wc.status = .success) := by
  have keeps : ∀ r wc r', Sound ep.settings.sizes.numBufs r →
      r.step (fun _ => .ok ()) wc = some r' → Sound ep.settings.sizes.numBufs r' := by
    intro r wc r' sound moved
    obtain ⟨posted, rfl⟩ := step_eq_some moved
    exact (sound.recvDone posted).1
  refine ⟨throughout_of_invariant keeps (fun _ sound => sound.whole) (sound_start ep maxSrqWr) _,
    ?_⟩
  rw [← along_iff_forall reached]
  refine throughout_iff (fun r wc r' sound _ _ moved => keeps r wc r' sound moved) ?_
    (sound_start ep maxSrqWr) rfl reached
  intro r wc r' sound same moved
  obtain ⟨posted, rfl⟩ := step_eq_some moved
  have balance := (sound.recvDone posted).2
  by_cases success : wc.status = .success
  · rw [if_pos success] at balance
    exact iff_of_true success (balance.trans same)
  · rw [if_neg success] at balance
    exact iff_of_false success (by omega)

def smallReceiver : Receiver := start (Endpoint.init smallSettings false 1) 8

theorem posted_throughout_two : Throughout (step fun _ => .ok ())
      (fun r => r.pool.posted.length = smallReceiver.pool.posted.length) smallReceiver
      [⟨8, .success, 0, [], answering⟩, ⟨9, .success, 0, [], answering⟩] := by
  have evaluated : (run (step fun _ => .ok ()) smallReceiver
      [⟨8, .success, 0, [], answering⟩, ⟨9, .success, 0, [], answering⟩]).isSome = true := by
    decide +kernel
  obtain ⟨r, reached⟩ := Option.isSome_iff_exists.mp evaluated
  exact (posted_throughout_iff _ 8 _ r reached).2.mpr (by simp)

/-- One flushed receive, and the queue is one receive short. -/
theorem posted_lost_by_flush :
    ∃ r, run (step fun _ => .ok ()) smallReceiver [⟨8, .wrFlushErr, 0, [], answering⟩] = some r ∧
      smallReceiver.pool.posted.length = 8 ∧ r.pool.posted.length = 7 := by
  decide +kernel

end Receiver

end Urp
