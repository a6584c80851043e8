import Urp.Lib.Machine

/-!
# The decisions of the control plane
-/

namespace Urp.ControlPlane

open Urp.Lib

def minBackoffMs : Nat := 100

def hardfailBackoffMs : Nat := 30000

/-! ## Authentication and overload -/

inductive AuthOutcome where
  | ok | unauthenticated
deriving DecidableEq

def verifyToken (presented : List UInt8) (expected : Vector UInt8 32) : Bool :=
  if presented.length ≠ expected.size then false else presented = expected.toList

def authenticate (presented : List UInt8) (expected : Vector UInt8 32) : AuthOutcome :=
  if verifyToken presented expected then .ok else .unauthenticated

theorem authenticate_expected (expected : Vector UInt8 32) :
    authenticate expected.toList expected = .ok := by
  simp [authenticate, verifyToken]

def shouldShed (active cap : Nat) : Bool := if cap = 0 then true else decide (cap ≤ active)

theorem shouldShed_eq_false {active cap : Nat} : shouldShed active cap = false ↔ active < cap := by
  unfold shouldShed
  split
  next none => simp [none]
  next => simp

/-! ## The gate -/

structure Gate where
  isOpen : Bool
deriving DecidableEq

def shouldOpenGate (ready channelUp : Bool) : Bool := ready && channelUp

def Gate.observe (g : Gate) (ready channelUp : Bool) : Bool × Gate :=
  if !g.isOpen && shouldOpenGate ready channelUp then (true, ⟨true⟩) else (false, g)

/-! ## The backoff -/

/-- `base << attempt` up to the ceiling. The shift is at most 31. -/
def nextBackoff (attempt : Nat) (baseMs ceilMs : UInt32) : Nat :=
  if baseMs = 0 ∨ ceilMs = 0 then 0
  else if ceilMs ≤ baseMs then ceilMs.toNat
  else
    let shift := min attempt 31
    let scaled := if shift < 64 then wrap64 (baseMs.toNat * 2 ^ shift) else u64Max
    wrap32 (min scaled ceilMs.toNat)

theorem nextBackoff_eq (attempt : Nat) (baseMs ceilMs : UInt32) :
    nextBackoff attempt baseMs ceilMs = min (baseMs.toNat * 2 ^ min attempt 31) ceilMs.toNat := by
  have base_lt := baseMs.toNat_lt
  have ceil_lt := ceilMs.toNat_lt
  have positive : 0 < 2 ^ min attempt 31 := Nat.two_pow_pos _
  unfold nextBackoff
  split_ifs with zero misordered
  · rcases zero with rfl | rfl <;> simp
  · have grown : baseMs.toNat * 1 ≤ baseMs.toNat * 2 ^ min attempt 31 :=
      Nat.mul_le_mul_left _ positive
    have misordered : ceilMs.toNat ≤ baseMs.toNat := misordered
    omega
  · have shift : min attempt 31 < 64 := by omega
    have power : 2 ^ min attempt 31 ≤ 2 ^ 31 := Nat.pow_le_pow_right (by decide) (by omega)
    have word : baseMs.toNat * 2 ^ min attempt 31 < 2 ^ 64 :=
      Nat.lt_of_lt_of_le (Nat.mul_lt_mul_of_lt_of_le base_lt power (by decide)) (by decide)
    dsimp only
    rw [if_pos shift, wrap64_of_lt word, wrap32, Nat.mod_eq_of_lt (by omega)]

structure Backoff where
  attempt : Nat
  baseMs : UInt32
  ceilMs : UInt32

def Backoff.new (baseMs ceilMs : UInt32) : Backoff := ⟨0, baseMs, ceilMs⟩

def Backoff.reset (b : Backoff) : Backoff := { b with attempt := 0 }

def Backoff.next (b : Backoff) : Nat × Backoff :=
  (nextBackoff b.attempt b.baseMs b.ceilMs, { b with attempt := min (b.attempt + 1) u32Max })

/-! ## Pongs and events -/

inductive ServerStatus where
  | ok | busy | draining
deriving DecidableEq

def ServerStatus.tryFrom : Int → Option ServerStatus
  | 0 => some .ok
  | 1 => some .busy
  | 2 => some .draining
  | _ => none

structure HeartbeatPong where
  ready : Bool
  status : Int
  suggestedBackoffMs : UInt32
deriving DecidableEq

inductive PongClass where
  | ready
  | notReady
  | busy (ms : Nat)
  | draining
deriving DecidableEq

def classifyPong (pong : HeartbeatPong) : PongClass :=
  match ServerStatus.tryFrom pong.status with
  | some .draining => .draining
  | some .busy => .busy (max pong.suggestedBackoffMs.toNat minBackoffMs)
  | some .ok => if pong.ready then .ready else .notReady
  | none => .busy minBackoffMs

inductive ConnEvent where
  | readyPong
  | notReadyPong
  | busyPong (ms : Nat)
  | drainingPong
  | transportError
  | unauthenticated
deriving DecidableEq

inductive ConnAction where
  | openGate
  | wait
  | reconnectAfter (ms : Nat)
  | hardFailAfter (ms : Nat)
deriving DecidableEq

def planConn (ev : ConnEvent) (backoff : Backoff) : ConnAction × Backoff :=
  match ev with
  | .readyPong => (.openGate, backoff.reset)
  | .notReadyPong => (.wait, backoff)
  | .busyPong ms => (.reconnectAfter (max ms minBackoffMs), backoff)
  | .drainingPong => (.reconnectAfter (max backoff.next.1 minBackoffMs), backoff.next.2)
  | .transportError => (.reconnectAfter (max backoff.next.1 minBackoffMs), backoff.next.2)
  | .unauthenticated => (.hardFailAfter hardfailBackoffMs, backoff)

end Urp.ControlPlane
