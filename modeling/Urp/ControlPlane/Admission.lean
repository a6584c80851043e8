import Mathlib.Data.Vector.Defs
import Urp.ControlPlane.Logic
import Urp.Lib.Run

/-!
# Admission to the control service
-/

namespace Urp.ControlPlane

open Urp.Lib Bool
open List hiding Vector

inductive FirstMessage where
  | ping (authToken : List UInt8)
  | closed
  | failed
  | timeout

inductive Refusal where
  | unauthenticated
  | status
  | deadlineExceeded
  | resourceExhausted
deriving DecidableEq

inductive Phase where
  | waiting
  | authenticated
  | loaded (current : Nat)
  | cleared
  | admitted
  | ended
  | refused (r : Refusal)
deriving DecidableEq

def Phase.live : Phase → Bool
  | .admitted => true
  | _ => false

def Phase.admitting : Phase → Bool
  | .loaded _ => true
  | .cleared => true
  | _ => false

structure Service where
  expectedToken : Vector UInt8 32
  sessionCap : UInt32
  /-- The worker threads of the runtime. -/
  workers : Nat

/-- `active_sessions`, and the calls of `heartbeat`. -/
structure Sessions where
  active : Nat
  calls : List Phase
deriving DecidableEq

namespace Sessions

def new : Sessions := ⟨0, []⟩

def live (s : Sessions) : Nat := s.calls.countP Phase.live

def admitting (s : Sessions) : Nat := s.calls.countP Phase.admitting

def set (s : Sessions) (i : Nat) (p : Phase) : Sessions := { s with calls := s.calls.set i p }

end Sessions

inductive Event where
  | call
  | first (i : Nat) (m : FirstMessage)
  | load (i : Nat)
  | decide (i : Nat)
  | increment (i : Nat)
  | finish (i : Nat)

def Service.afterFirst (svc : Service) : FirstMessage → Phase
  | .ping token =>
    match authenticate token svc.expectedToken with
    | .ok => .authenticated
    | .unauthenticated => .refused .unauthenticated
  | .closed => .refused .unauthenticated
  | .failed => .refused .status
  | .timeout => .refused .deadlineExceeded

/-- A step of a call of `heartbeat`. -/
def Service.step (svc : Service) (s : Sessions) : Event → Option Sessions
  | .call => some { s with calls := s.calls ++ [.waiting] }
  | .first i m =>
    match s.calls[i]? with
    | some .waiting => some (s.set i (svc.afterFirst m))
    | _ => none
  | .load i =>
    match s.calls[i]? with
    | some .authenticated =>
      if s.admitting < svc.workers then some (s.set i (.loaded s.active)) else none
    | _ => none
  | .decide i =>
    match s.calls[i]? with
    | some (.loaded current) =>
      some (s.set i (if shouldShed current svc.sessionCap.toNat then .refused .resourceExhausted
          else .cleared))
    | _ => none
  | .increment i =>
    match s.calls[i]? with
    | some .cleared => some { s.set i .admitted with active := incr32 s.active }
    | _ => none
  | .finish i =>
    match s.calls[i]? with
    | some .admitted => some { s.set i .ended with active := decr32 s.active }
    | _ => none

/-! ## What a step does -/

inductive Move (svc : Service) (s : Sessions) : Phase → Phase → Nat → Prop where
  | first (m : FirstMessage) : Move svc s .waiting (svc.afterFirst m) s.active
  | load (room : s.admitting < svc.workers) : Move svc s .authenticated (.loaded s.active) s.active
  | shed {current} (full : svc.sessionCap.toNat ≤ current) :
      Move svc s (.loaded current) (.refused .resourceExhausted) s.active
  | clear {current} (below : current < svc.sessionCap.toNat) :
      Move svc s (.loaded current) .cleared s.active
  | increment : Move svc s .cleared .admitted (incr32 s.active)
  | finish : Move svc s .admitted .ended (decr32 s.active)

section Step

variable {svc : Service} {s s' : Sessions} {e : Event}

theorem step_cases (moved : svc.step s e = some s') :
    s' = { s with calls := s.calls ++ [.waiting] } ∨
    ∃ i p q active, s.calls[i]? = some p ∧ Move svc s p q active ∧
      s' = ⟨active, s.calls.set i q⟩ := by
  cases e with
  | call => exact .inl (Option.some.inj moved).symm
  | first i m =>
    simp only [Service.step] at moved
    split at moved
    next found => exact .inr ⟨i, _, _, _, found, .first m, (Option.some.inj moved).symm⟩
    next => cases moved
  | load i =>
    simp only [Service.step] at moved
    split at moved
    next found =>
      split at moved
      next room => exact .inr ⟨i, _, _, _, found, .load room, (Option.some.inj moved).symm⟩
      next => cases moved
    next => cases moved
  | decide i =>
    simp only [Service.step] at moved
    split at moved
    next current found =>
      refine .inr ⟨i, _, _, _, found, ?_, (Option.some.inj moved).symm⟩
      cases shed : shouldShed current svc.sessionCap.toNat with
      | true => exact .shed (Nat.not_lt.mp fun below => by
          rw [shouldShed_eq_false.mpr below] at shed
          cases shed)
      | false => exact .clear (shouldShed_eq_false.mp shed)
    next => cases moved
  | increment i =>
    simp only [Service.step] at moved
    split at moved
    next found => exact .inr ⟨i, _, _, _, found, .increment, (Option.some.inj moved).symm⟩
    next => cases moved
  | finish i =>
    simp only [Service.step] at moved
    split at moved
    next found => exact .inr ⟨i, _, _, _, found, .finish, (Option.some.inj moved).symm⟩
    next => cases moved

end Step

theorem countP_set {f : Phase → Bool} {calls : List Phase} {i : Nat} {p : Phase}
    (found : calls[i]? = some p) (q : Phase) :
    (calls.set i q).countP f + (f p).toNat = calls.countP f + (f q).toNat := by
  obtain ⟨inside, rfl⟩ := List.getElem?_eq_some_iff.mp found
  have number : ∀ b : Bool, (if b then 1 else 0) = b.toNat := by decide
  have least : (f calls[i]).toNat ≤ calls.countP f := by
    cases held : f calls[i] with
    | false => exact Nat.zero_le _
    | true => exact countP_pos_iff.mpr ⟨_, getElem_mem inside, held⟩
  rw [List.countP_set inside, number, number]
  omega

/-! ## The bound -/

def Phase.pending (cap : Nat) : Phase → Bool
  | .loaded current => current < cap
  | .cleared => true
  | _ => false

def Sessions.pending (cap : Nat) (s : Sessions) : Nat := s.calls.countP (Phase.pending cap)

theorem Sessions.pending_le (cap : Nat) (s : Sessions) : s.pending cap ≤ s.admitting := by
  refine countP_mono_left fun p _ held => ?_
  cases p <;> first | rfl | cases held

structure Bounded (cap workers : Nat) (s : Sessions) : Prop where
  counted : s.active = s.live
  window : s.admitting ≤ workers
  room : s.live + s.pending cap + 1 ≤ cap + workers

theorem Bounded.new {cap : Nat} (positive : 1 ≤ cap) (workers : Nat) : Bounded cap workers .new :=
  ⟨rfl, Nat.zero_le _, Nat.le_trans positive (Nat.le_add_right _ _)⟩

theorem afterFirst_idle (svc : Service) (m : FirstMessage) :
    (svc.afterFirst m).live = false ∧ (svc.afterFirst m).admitting = false ∧
      ∀ cap, (svc.afterFirst m).pending cap = false := by
  cases m with
  | ping token =>
    simp only [Service.afterFirst]
    cases authenticate token svc.expectedToken <;> exact ⟨rfl, rfl, fun _ => rfl⟩
  | closed | failed | timeout => exact ⟨rfl, rfl, fun _ => rfl⟩

section Moves

variable {svc : Service} {s s' : Sessions} {i : Nat} {p q : Phase}

theorem numbers_set (found : s.calls[i]? = some p) (calls : s'.calls = s.calls.set i q)
    (cap : Nat) :
    s'.live + p.live.toNat = s.live + q.live.toNat ∧
    s'.admitting + p.admitting.toNat = s.admitting + q.admitting.toNat ∧
    s'.pending cap + (p.pending cap).toNat = s.pending cap + (q.pending cap).toNat := by
  simp only [Sessions.live, Sessions.admitting, Sessions.pending, calls]
  exact ⟨countP_set found q, countP_set found q, countP_set found q⟩

theorem Bounded.move (bounded : Bounded svc.sessionCap.toNat svc.workers s)
    (small : svc.sessionCap.toNat + svc.workers ≤ 2 ^ 32) (found : s.calls[i]? = some p)
    (move : Move svc s p q s'.active) (calls : s'.calls = s.calls.set i q) :
    Bounded svc.sessionCap.toNat svc.workers s' := by
  obtain ⟨counted, window, room⟩ := bounded
  have most := s'.pending_le svc.sessionCap.toNat
  obtain ⟨live, admitting, pending⟩ := numbers_set found calls svc.sessionCap.toNat
  generalize active : s'.active = n at move
  cases move with
  | first m =>
    obtain ⟨not_live, not_admitting, not_pending⟩ := afterFirst_idle svc m
    rw [not_live] at live
    rw [not_admitting] at admitting
    rw [not_pending] at pending
    simp only [Phase.live, Phase.admitting, Phase.pending] at live admitting pending
    exact ⟨by omega, by omega, by omega⟩
  | load below =>
    simp only [Phase.live, Phase.admitting, Phase.pending, toNat_false, toNat_true]
      at live admitting pending
    refine ⟨by omega, by omega, ?_⟩
    -- A count below the cap leaves room for one session, and there are as many calls as workers.
    by_cases free : s.active < svc.sessionCap.toNat
    · omega
    · rw [decide_eq_false free, toNat_false] at pending
      omega
  | shed full =>
    simp only [Phase.live, Phase.admitting, Phase.pending, toNat_false, toNat_true]
      at live admitting pending
    exact ⟨by omega, by omega, by omega⟩
  | clear below =>
    rw [Phase.pending, decide_eq_true below] at pending
    simp only [Phase.live, Phase.admitting, Phase.pending] at live admitting pending
    exact ⟨by omega, by omega, by omega⟩
  | increment =>
    simp only [Phase.live, Phase.admitting, Phase.pending, toNat_false, toNat_true]
      at live admitting pending
    have next : incr32 s.active = s.active + 1 := Nat.mod_eq_of_lt (by omega)
    exact ⟨by omega, by omega, by omega⟩
  | finish =>
    simp only [Phase.live, Phase.admitting, Phase.pending, toNat_false, toNat_true]
      at live admitting pending
    have next : decr32 s.active = s.active - 1 := by
      unfold decr32 u32Max
      omega
    exact ⟨by omega, by omega, by omega⟩

theorem numbers_call (calls : s'.calls = s.calls ++ [.waiting]) (cap : Nat) :
    s'.live = s.live ∧ s'.admitting = s.admitting ∧ s'.pending cap = s.pending cap := by
  simp only [Sessions.live, Sessions.admitting, Sessions.pending, calls, countP_append]
  exact ⟨rfl, rfl, rfl⟩

theorem Bounded.step {e : Event} (bounded : Bounded svc.sessionCap.toNat svc.workers s)
    (small : svc.sessionCap.toNat + svc.workers ≤ 2 ^ 32) (moved : svc.step s e = some s') :
    Bounded svc.sessionCap.toNat svc.workers s' := by
  rcases step_cases moved with came | ⟨i, p, q, active, found, move, rfl⟩
  · obtain ⟨counted, window, room⟩ := bounded
    have active : s'.active = s.active := by rw [came]
    have calls : s'.calls = s.calls ++ [.waiting] := by rw [came]
    obtain ⟨live, admitting, pending⟩ := numbers_call calls svc.sessionCap.toNat
    exact ⟨by omega, by omega, by omega⟩
  · exact bounded.move small found move rfl

end Moves

theorem bounded_run {svc : Service} (positive : 1 ≤ svc.sessionCap.toNat)
    (small : svc.sessionCap.toNat + svc.workers ≤ 2 ^ 32) {events : List Event} {s : Sessions}
    (reached : run svc.step .new events = some s) : Bounded svc.sessionCap.toNat svc.workers s :=
  run_history (P := fun _ s => Bounded svc.sessionCap.toNat svc.workers s)
    (fun _ _ _ _ bounded moved => bounded.step small moved) (.new positive _) reached

/-! ## Two calls at a time -/

section Overrun

variable (svc : Service) {n : Nat}

def filled (n : Nat) : Sessions := ⟨n, List.replicate n .admitted⟩

def joins (i : Nat) : List Event :=
  [.call, .first i (.ping svc.expectedToken.toList), .load i, .decide i, .increment i]

theorem afterFirst_expected : svc.afterFirst (.ping svc.expectedToken.toList) = .authenticated := by
  simp only [Service.afterFirst, authenticate_expected]

theorem run_joins (worker : 1 ≤ svc.workers) (below : n < svc.sessionCap.toNat) :
    run svc.step (filled n) (joins svc n) = some (filled (n + 1)) := by
  have positive : 0 < svc.workers := worker
  have clear : shouldShed n svc.sessionCap.toNat = false := shouldShed_eq_false.mpr below
  have next : incr32 n = n + 1 :=
    Nat.mod_eq_of_lt (Nat.lt_of_le_of_lt below svc.sessionCap.toNat_lt)
  have found : ∀ p : Phase, (List.replicate n Phase.admitted ++ [p])[n]? = some p := by simp
  have set : ∀ p q : Phase, (List.replicate n Phase.admitted ++ [p]).set n q =
      List.replicate n Phase.admitted ++ [q] := by simp
  have none : List.countP Phase.admitting
      (List.replicate n Phase.admitted ++ [Phase.authenticated]) = 0 := by
    simp [Phase.admitting, countP_replicate]
  simp only [run, joins, filled, Service.step, Sessions.set, Sessions.admitting, Option.bind_some,
    found, set, afterFirst_expected, none, positive, if_true, clear, false_eq_true, if_false,
    next, replicate_succ']

theorem run_filled (worker : 1 ≤ svc.workers) (within : n ≤ svc.sessionCap.toNat) :
    ∃ events, run svc.step .new events = some (filled n) := by
  induction n with
  | zero => exact ⟨[], rfl⟩
  | succ n ih =>
    obtain ⟨events, reached⟩ := ih (Nat.le_of_succ_le within)
    exact ⟨events ++ joins svc n, run_append_eq_some.mpr ⟨_, reached, run_joins svc worker within⟩⟩

def admitTwo (i : Nat) : List Event :=
  [.call, .call, .first i (.ping svc.expectedToken.toList),
    .first (i + 1) (.ping svc.expectedToken.toList), .load i, .load (i + 1), .decide i,
    .decide (i + 1), .increment i, .increment (i + 1)]

theorem run_joinsTwo (workers : 2 ≤ svc.workers) (below : n < svc.sessionCap.toNat) :
    ∃ s, run svc.step (filled n) (admitTwo svc n) = some s ∧ s.live = n + 2 := by
  have positive : 0 < svc.workers := by omega
  have two : 1 < svc.workers := workers
  have clear : shouldShed n svc.sessionCap.toNat = false := shouldShed_eq_false.mpr below
  have first : ∀ p q : Phase, (List.replicate n Phase.admitted ++ [p, q])[n]? = some p := by simp
  have second : ∀ p q : Phase, (List.replicate n Phase.admitted ++ [p, q])[n + 1]? = some q := by
    simp
  have set_first : ∀ p q r : Phase, (List.replicate n Phase.admitted ++ [p, q]).set n r =
      List.replicate n Phase.admitted ++ [r, q] := by simp
  have set_second : ∀ p q r : Phase, (List.replicate n Phase.admitted ++ [p, q]).set (n + 1) r =
      List.replicate n Phase.admitted ++ [p, r] := by simp
  have none : List.countP Phase.admitting (List.replicate n Phase.admitted ++
      [Phase.authenticated, Phase.authenticated]) = 0 := by
    simp [Phase.admitting, countP_replicate]
  have one : List.countP Phase.admitting (List.replicate n Phase.admitted ++
      [Phase.loaded n, Phase.authenticated]) = 1 := by
    rw [countP_append, countP_replicate, if_neg (by decide)]
    rfl
  refine ⟨⟨incr32 (incr32 n), List.replicate n .admitted ++ [.admitted, .admitted]⟩, ?_, ?_⟩
  · simp only [run, admitTwo, filled, Service.step, Sessions.set, Sessions.admitting,
      Option.bind_some, append_assoc, cons_append, nil_append, first, second, set_first, set_second,
      afterFirst_expected, none, one, positive, two, if_true, clear, false_eq_true, if_false]
  · rw [Sessions.live, countP_append, countP_replicate, if_pos (by decide)]
    rfl

end Overrun

/-- No interleaving of the calls admits too many sessions exactly if the runtime has one worker. -/
theorem sessions_within_cap_iff (svc : Service) (positive : 1 ≤ svc.sessionCap.toNat) :
    (∀ events s, run svc.step .new events = some s →
      s.live ≤ svc.sessionCap.toNat ∧ (s.admitting = 0 → s.live = s.active)) ↔
    svc.workers ≤ 1 := by
  constructor
  · intro kept
    by_contra more
    obtain ⟨events, reached⟩ :=
      run_filled svc (n := svc.sessionCap.toNat - 1) (by omega) (by omega)
    obtain ⟨s, overrun, live⟩ :=
      run_joinsTwo svc (n := svc.sessionCap.toNat - 1) (by omega) (by omega)
    have within := (kept _ s (run_append_eq_some.mpr ⟨_, reached, overrun⟩)).1
    omega
  · intro single events s reached
    have cap_lt := svc.sessionCap.toNat_lt
    obtain ⟨counted, -, room⟩ := bounded_run positive (by omega) reached
    exact ⟨by omega, fun _ => counted.symm⟩

section Runs

def oneSession (workers : Nat) : Service := ⟨Vector.replicate 32 0, 1, workers⟩

theorem one_worker_within_cap : (oneSession 1).workers = 1 ∧
    ∀ events s, run (oneSession 1).step .new events = some s →
      s.live ≤ 1 ∧ (s.admitting = 0 → s.live = s.active) :=
  ⟨rfl, (sessions_within_cap_iff (oneSession 1) (by decide)).mpr (by decide)⟩

/-- Two workers admit two sessions where one is allowed. -/
theorem two_workers_overrun : run (oneSession 2).step .new
        [.call, .call, .first 0 (.ping (List.replicate 32 0)),
          .first 1 (.ping (List.replicate 32 0)), .load 0, .load 1, .decide 0, .decide 1,
          .increment 0, .increment 1] =
      some ⟨2, [.admitted, .admitted]⟩ := by
  decide

end Runs

end Urp.ControlPlane
