import Mathlib.Algebra.Order.Ring.Nat

/-!
# Cumulative credit

A sender may have at most `window` units in flight.
-/

namespace Urp.Lib

structure CreditAccount (window step : Nat) where
  sent : Nat
  delivered : Nat
  granted : Nat
  acked : Nat
  acked_le : acked ≤ granted
  granted_le : granted ≤ delivered
  delivered_le : delivered ≤ sent
  inflight : sent ≤ acked + window
  due : delivered < granted + step

namespace CreditAccount

variable {window step : Nat}

def start (positive : 0 < step) : CreditAccount window step :=
  ⟨0, 0, 0, 0, le_rfl, le_rfl, le_rfl, Nat.zero_le _, by rwa [Nat.zero_add]⟩

def Admits (a : CreditAccount window step) (n : Nat) : Prop :=
  a.sent = a.acked ∨ a.sent - a.acked + n ≤ window

def send (a : CreditAccount window step) (n : Nat) (small : n ≤ window) (admitted : a.Admits n) :
    CreditAccount window step :=
  { a with
    sent := a.sent + n
    delivered_le := a.delivered_le.trans (Nat.le_add_right _ _)
    inflight := by
      have acked_le := a.acked_le.trans (a.granted_le.trans a.delivered_le)
      rcases admitted with idle | room <;> omega }

def deliver (a : CreditAccount window step) (n : Nat) (positive : 0 < step)
    (arrived : a.delivered + n ≤ a.sent) : CreditAccount window step where
  sent := a.sent
  delivered := a.delivered + n
  granted := if step ≤ a.delivered + n - a.granted then a.delivered + n else a.granted
  acked := a.acked
  acked_le := by
    have acked_le := a.acked_le.trans a.granted_le
    split
    · omega
    · exact a.acked_le
  granted_le := by
    have granted_le := a.granted_le
    split <;> omega
  delivered_le := arrived
  inflight := a.inflight
  due := by
    have granted_le := a.granted_le
    split <;> omega

def ack (a : CreditAccount window step) (n : Nat) (emitted : n ≤ a.granted) :
    CreditAccount window step :=
  { a with
    acked := max a.acked n
    acked_le := Nat.max_le.mpr ⟨a.acked_le, emitted⟩
    inflight := by
      have inflight := a.inflight
      omega }

theorem admits_of_settled (a : CreditAccount window step) {n : Nat} (all : a.delivered = a.sent)
    (arrived : a.granted ≤ a.acked) (wide : step + n ≤ window + 1) : a.Admits n := by
  have due := a.due
  have granted_le := a.granted_le
  exact .inr (by omega)

end CreditAccount

end Urp.Lib
