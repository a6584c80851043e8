import Mathlib.Data.Finset.Card
import Mathlib.Data.List.Nodup
import Urp.Endpoint.Qps
import Urp.Lib.Pool
import Urp.Lib.Run

/-!
# Concurrent callers of the selector
-/

namespace Urp.Selection

open Urp.Lib Urp.Lib.Pool List

inductive Caller where
  | drawing (drawn : List Nat)
  | returned (found : Option Nat)
deriving DecidableEq, Repr

/-- The queue pairs, with the calls of `urp_qp_select_round_robin` under way. -/
structure State where
  q : Qps
  callers : List Caller

inductive Event where
  | call
  | draw (c : Nat)
deriving DecidableEq, Repr

def nextIndex (q : Qps) : Nat := incr32 q.rrCounter % q.numQps

def step (s : State) : Event → Option State
  | .call =>
    some { s with callers := s.callers ++ [if s.q.numQps = 0 then .returned none else .drawing []] }
  | .draw c =>
    match s.callers[c]? with
    | some (.drawing drawn) =>
      let i := nextIndex s.q
      let caller : Caller :=
        if (s.q.qp i).eligible then .returned (some i)
        else if drawn.length + 1 < s.q.numQps then .drawing (i :: drawn)
        else .returned none
      some ⟨{ s.q with rrCounter := incr32 s.q.rrCounter }, s.callers.set c caller⟩
    | _ => none

def Right (q : Qps) : Option Nat → Prop
  | none => ∀ i < q.numQps, (q.qp i).eligible = false
  | some i => i < q.numQps ∧ (q.qp i).eligible = true

def AllRight (s : State) : Prop := ∀ found, Caller.returned found ∈ s.callers → Right s.q found

/-! ## Callers that never draw an index twice -/

def fresh (s : State) : Event → Bool
  | .call => true
  | .draw c => match s.callers[c]? with
    | some (.drawing drawn) => decide (nextIndex s.q ∉ drawn)
    | _ => true

def Knows (q : Qps) : Caller → Prop
  | .drawing drawn =>
    drawn.Nodup ∧ drawn.length < q.numQps ∧ ∀ i ∈ drawn, i < q.numQps ∧ (q.qp i).eligible = false
  | .returned found => Right q found

theorem mem_of_nodup_of_length {drawn : List Nat} {n i : Nat} (nodup : drawn.Nodup)
    (below : ∀ i ∈ drawn, i < n) (full : n ≤ drawn.length) (bound : i < n) : i ∈ drawn := by
  have subset : drawn.toFinset ⊆ Finset.range n := by
    intro j member
    exact Finset.mem_range.mpr (below j (mem_toFinset.mp member))
  have same : drawn.toFinset = Finset.range n := by
    apply Finset.eq_of_subset_of_card_le subset
    rwa [Finset.card_range, toFinset_card_of_nodup nodup]
  rw [← mem_toFinset, same]
  exact Finset.mem_range.mpr bound

theorem Knows.counter {q : Qps} {caller : Caller} (knows : Knows q caller) (n : Nat) :
    Knows { q with rrCounter := n } caller := by
  cases caller with
  | drawing drawn => exact knows
  | returned found =>
    cases found with
    | none | some i => exact knows

theorem Knows.draw {q : Qps} {drawn : List Nat} (knows : Knows q (.drawing drawn))
    (new : nextIndex q ∉ drawn) :
    Knows q (if (q.qp (nextIndex q)).eligible then .returned (some (nextIndex q))
      else if drawn.length + 1 < q.numQps then .drawing (nextIndex q :: drawn)
      else .returned none) := by
  obtain ⟨nodup, short, seen⟩ := knows
  have below : nextIndex q < q.numQps := Nat.mod_lt _ (Nat.zero_lt_of_lt short)
  split
  · rename_i eligible
    exact ⟨below, eligible⟩
  · rename_i ineligible
    have seen' : ∀ i ∈ nextIndex q :: drawn, i < q.numQps ∧ (q.qp i).eligible = false := by
      intro i member
      rcases mem_cons.mp member with rfl | old
      · exact ⟨below, by simpa using ineligible⟩
      · exact seen i old
    have nodup' : (nextIndex q :: drawn).Nodup := nodup_cons.mpr ⟨new, nodup⟩
    split
    · rename_i more
      exact ⟨nodup', more, seen'⟩
    · rename_i last
      intro i bound
      have member : i ∈ nextIndex q :: drawn := by
        apply mem_of_nodup_of_length nodup' (fun j member => (seen' j member).1) _ bound
        simpa using last
      exact (seen' i member).2

theorem knows_step {s s' : State} {e : Event} (knows : ∀ caller ∈ s.callers, Knows s.q caller)
    (admitted : fresh s e = true) (moved : step s e = some s') :
    ∀ caller ∈ s'.callers, Knows s'.q caller := by
  cases e with
  | call =>
    cases moved
    intro caller member
    rcases mem_append.mp member with old | new
    · exact knows caller old
    · obtain rfl := mem_singleton.mp new
      split
      · rename_i none_there
        intro i bound
        rw [none_there] at bound
        exact absurd bound (Nat.not_lt_zero i)
      · rename_i some_there
        exact ⟨nodup_nil, Nat.pos_of_ne_zero some_there, by simp⟩
  | draw c =>
    simp only [step] at moved
    split at moved
    · rename_i drawn here
      cases moved
      have new : nextIndex s.q ∉ drawn := by simpa [fresh, here] using admitted
      have mine := knows _ (mem_of_getElem? here)
      intro caller member
      apply Knows.counter
      rcases mem_or_eq_of_mem_set member with old | rfl
      · exact knows caller old
      · exact mine.draw new
    · cases moved

/-- Every caller is right in every run in which no caller draws an index twice. -/
theorem allRight_throughout (q : Qps) {events : List Event}
    (admitted : Along step (fun s e => fresh s e = true) ⟨q, []⟩ events) :
    Throughout step AllRight ⟨q, []⟩ events := by
  have initial : ∀ caller ∈ (⟨q, []⟩ : State).callers, Knows q caller := by simp
  refine throughout_of_along (fun _ _ _ knows admitted moved => knows_step knows admitted moved) ?_
    initial admitted
  exact fun s knows found member => knows _ member

/-! ## A caller that is alone -/

theorem selectLoop_counter (q : Qps) (n tries counter : Nat) :
    Qps.selectLoop { q with rrCounter := n } tries counter = q.selectLoop tries counter := by
  induction tries generalizing counter with
  | zero => rfl
  | succ tries ih => simp only [Qps.selectLoop, ih]

theorem run_alone (q : Qps) (tries : Nat) (drawn : List Nat)
    (left : drawn.length + (tries + 1) = q.numQps) :
    ∃ k, run step ⟨q, [.drawing drawn]⟩ (replicate k (.draw 0)) =
      some ⟨{ q with rrCounter := (q.selectLoop (tries + 1) q.rrCounter).1 },
        [.returned (q.selectLoop (tries + 1) q.rrCounter).2]⟩ := by
  induction tries generalizing q drawn with
  | zero =>
    refine ⟨1, ?_⟩
    have last : ¬ drawn.length + 1 < q.numQps := by omega
    by_cases eligible : (q.qp (nextIndex q)).eligible = true
    · have taken : q.selectLoop 1 q.rrCounter = (incr32 q.rrCounter, some (nextIndex q)) :=
        if_pos eligible
      simp [run, step, eligible, taken]
    · have missed : q.selectLoop 1 q.rrCounter = (incr32 q.rrCounter, none) := if_neg eligible
      simp [run, step, eligible, last, missed]
  | succ tries ih =>
    have more : drawn.length + 1 < q.numQps := by omega
    by_cases eligible : (q.qp (nextIndex q)).eligible = true
    · have taken : q.selectLoop (tries + 2) q.rrCounter =
          (incr32 q.rrCounter, some (nextIndex q)) := if_pos eligible
      exact ⟨1, by simp [run, step, eligible, taken]⟩
    · have missed : q.selectLoop (tries + 2) q.rrCounter =
          q.selectLoop (tries + 1) (incr32 q.rrCounter) := if_neg eligible
      obtain ⟨k, rest⟩ := ih { q with rrCounter := incr32 q.rrCounter } (nextIndex q :: drawn)
        (by simp only [length_cons]; omega)
      refine ⟨k + 1, ?_⟩
      have first : step ⟨q, [.drawing drawn]⟩ (.draw 0) =
          some ⟨{ q with rrCounter := incr32 q.rrCounter }, [.drawing (nextIndex q :: drawn)]⟩ := by
        simp [step, eligible, more]
      rw [replicate_succ, run, first, Option.bind_some, rest, missed]
      simp only [selectLoop_counter]

theorem selectLoop_some {q : Qps} {tries counter i : Nat} (some_there : 0 < q.numQps)
    (found : (q.selectLoop tries counter).2 = some i) :
    i < q.numQps ∧ (q.qp i).eligible = true := by
  induction tries generalizing counter with
  | zero => cases found
  | succ tries ih =>
    simp only [Qps.selectLoop] at found
    split at found
    · rename_i eligible
      cases found
      exact ⟨Nat.mod_lt _ some_there, eligible⟩
    · exact ih found

theorem selectLoop_none {q : Qps} {tries counter k : Nat}
    (found : (q.selectLoop tries counter).2 = none) (early : k < tries) :
    (q.qp ((counter + k + 1) % 2 ^ 32 % q.numQps)).eligible = false := by
  induction tries generalizing counter k with
  | zero => exact absurd early (Nat.not_lt_zero k)
  | succ tries ih =>
    simp only [Qps.selectLoop] at found
    split at found
    · cases found
    · rename_i ineligible
      cases k with
      | zero => simpa [incr32] using ineligible
      | succ k =>
        have later := ih found (Nat.lt_of_succ_lt_succ early)
        have same : (incr32 counter + k + 1) % 2 ^ 32 = (counter + (k + 1) + 1) % 2 ^ 32 := by
          unfold incr32
          omega
        rwa [same] at later

/-- A caller that is alone is right unless the counter wraps around in the middle and the number
of queue pairs does not divide its range. -/
theorem selectRoundRobin_right (q : Qps)
    (steady : q.numQps ∣ 2 ^ 32 ∨ q.rrCounter + q.numQps < 2 ^ 32) :
    Right q q.selectRoundRobin.2 := by
  cases found : q.selectRoundRobin.2 with
  | some i =>
    have some_there : 0 < q.numQps := by
      by_contra none_there
      have zero : q.numQps = 0 := by omega
      simp [Qps.selectRoundRobin, zero, Qps.selectLoop] at found
    exact selectLoop_some some_there found
  | none =>
    intro i bound
    obtain ⟨k, early, reaches⟩ : ∃ k < q.numQps, (q.rrCounter + k + 1) % q.numQps = i := by
      have rest := Nat.mod_lt (q.rrCounter + 1) (Nat.zero_lt_of_lt bound)
      refine ⟨(i + q.numQps - (q.rrCounter + 1) % q.numQps) % q.numQps,
        Nat.mod_lt _ (Nat.zero_lt_of_lt bound), ?_⟩
      calc (q.rrCounter + (i + q.numQps - (q.rrCounter + 1) % q.numQps) % q.numQps + 1) % q.numQps
          = ((q.rrCounter + 1) % q.numQps +
              (i + q.numQps - (q.rrCounter + 1) % q.numQps)) % q.numQps := by
            rw [Nat.add_right_comm, Nat.add_mod_mod, Nat.mod_add_mod]
        _ = (i + q.numQps) % q.numQps := by congr 1; omega
        _ = i := by rw [Nat.add_mod_right, Nat.mod_eq_of_lt bound]
    have index : (q.rrCounter + k + 1) % 2 ^ 32 % q.numQps = i := by
      rcases steady with divides | unwrapped
      · rwa [Nat.mod_mod_of_dvd _ divides]
      · rwa [Nat.mod_eq_of_lt (show q.rrCounter + k + 1 < 2 ^ 32 by omega)]
    have ineligible := selectLoop_none found early
    rwa [index] at ineligible

/-! ## Where a caller misses -/

/-- Queue pairs of which only the one at `i` is eligible. -/
def onlyOne (numQps i counter : Nat) : Qps :=
  let q := Qps.init true numQps 16
  { q with
    qp := fun j => { q.qp j with qp := true, established := decide (j = i), health := .active }
    rrCounter := counter }

theorem allRight_throughout_two : Throughout step AllRight ⟨onlyOne 2 0 0, []⟩
    [.call, .call, .draw 0, .draw 0, .draw 1, .draw 1] ∧
    ∃ s, run step ⟨onlyOne 2 0 0, []⟩ [.call, .call, .draw 0, .draw 0, .draw 1, .draw 1] = some s ∧
      s.callers = [.returned (some 0), .returned (some 0)] := by
  refine ⟨allRight_throughout _ ?_, ?_⟩
  all_goals decide +kernel

/-- Two callers take turns, and the first of them only draws the queue pair that is down. The same
happens to a caller that is alone when the counter wraps around between three queue pairs. -/
theorem caller_misses :
    (∃ s, run step ⟨onlyOne 2 0 0, []⟩ [.call, .call, .draw 0, .draw 1, .draw 0] = some s ∧
      s.callers = [.returned none, .returned (some 0)] ∧ (s.q.qp 0).eligible = true) ∧
    ∃ s, run step ⟨onlyOne 3 1 (2 ^ 32 - 3), []⟩ [.call, .draw 0, .draw 0, .draw 0] = some s ∧
      s.callers = [.returned none] ∧ (s.q.qp 1).eligible = true := by
  decide +kernel

end Urp.Selection
