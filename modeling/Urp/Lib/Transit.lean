import Mathlib.Algebra.Order.Ring.Nat
import Mathlib.Data.List.Nodup
import Mathlib.Data.List.Perm.Basic

/-!
# Numbered messages in transit

The messages below `sent` were sent.
-/

namespace Urp.Lib

open List

structure Transit (sent : Nat) (pending : List Nat) (arrived : Nat → Prop) : Prop where
  nodup : pending.Nodup
  pending_lt : ∀ k ∈ pending, k < sent
  arrived_lt : ∀ k, arrived k → k < sent
  fresh : ∀ k ∈ pending, ¬arrived k

def Whole (sent : Nat) (pending : List Nat) (arrived : Nat → Prop) : Prop :=
  ∀ k < sent, k ∈ pending ∨ arrived k

section Transit

variable {sent k : Nat} {pending rest : List Nat} {arrived : Nat → Prop}

theorem transit_nil : Transit 0 [] (fun _ => False) :=
  ⟨nodup_nil, by simp, by simp, by simp⟩

theorem Transit.perm (transit : Transit sent pending arrived) (same : pending.Perm rest) :
    Transit sent rest arrived where
  nodup := same.nodup_iff.mp transit.nodup
  pending_lt k mem := transit.pending_lt k (same.mem_iff.mpr mem)
  arrived_lt := transit.arrived_lt
  fresh k mem := transit.fresh k (same.mem_iff.mpr mem)

theorem whole_perm (same : pending.Perm rest) :
    Whole sent pending arrived ↔ Whole sent rest arrived := by
  unfold Whole
  simp only [same.mem_iff]

theorem Transit.send (transit : Transit sent pending arrived) :
    Transit (sent + 1) (sent :: pending) arrived where
  nodup := nodup_cons.mpr
    ⟨fun mem => Nat.lt_irrefl sent (transit.pending_lt sent mem), transit.nodup⟩
  pending_lt k mem := by
    rcases mem_cons.mp mem with rfl | old
    · exact Nat.lt_succ_self k
    · exact Nat.lt_succ_of_lt (transit.pending_lt k old)
  arrived_lt k there := Nat.lt_succ_of_lt (transit.arrived_lt k there)
  fresh k mem there := by
    rcases mem_cons.mp mem with rfl | old
    · exact Nat.lt_irrefl k (transit.arrived_lt k there)
    · exact transit.fresh k old there

theorem whole_send : Whole sent pending arrived ↔ Whole (sent + 1) (sent :: pending) arrived := by
  constructor
  · intro whole k below
    by_cases last : k = sent
    · exact .inl (last ▸ mem_cons_self)
    · exact (whole k (by omega)).imp (mem_cons_of_mem _) id
  · intro whole k below
    refine (whole k (Nat.lt_succ_of_lt below)).imp (fun mem => ?_) id
    exact (mem_cons.mp mem).resolve_left (Nat.ne_of_lt below)

section

variable (transit : Transit sent (k :: rest) arrived)
include transit

theorem Transit.lose : Transit sent rest arrived where
  nodup := (nodup_cons.mp transit.nodup).2
  pending_lt j mem := transit.pending_lt j (mem_cons_of_mem k mem)
  arrived_lt := transit.arrived_lt
  fresh j mem := transit.fresh j (mem_cons_of_mem k mem)

theorem Transit.not_whole_lose : ¬Whole sent rest arrived := by
  intro whole
  rcases whole k (transit.pending_lt k mem_cons_self) with mem | there
  · exact (nodup_cons.mp transit.nodup).1 mem
  · exact transit.fresh k mem_cons_self there

theorem Transit.arrive : Transit sent rest (fun j => arrived j ∨ j = k) where
  __ := transit.lose
  arrived_lt j there := by
    rcases there with old | rfl
    · exact transit.arrived_lt j old
    · exact transit.pending_lt j mem_cons_self
  fresh j mem there := by
    rcases there with old | rfl
    · exact transit.lose.fresh j mem old
    · exact (nodup_cons.mp transit.nodup).1 mem

end

theorem whole_arrive :
    Whole sent (k :: rest) arrived ↔ Whole sent rest (fun j => arrived j ∨ j = k) := by
  simp only [Whole, mem_cons]
  exact forall₂_congr fun j _ => by tauto

end Transit

end Urp.Lib
