import Mathlib.Algebra.Order.Ring.Nat

/-!
# Fixed-width counters over the natural numbers
-/

namespace Urp.Lib

inductive Errno where
  | EEXIST | ENOBUFS | ENOMEM | ENOENT | ENOTCONN | ENXIO | EBUSY | EINVAL | EPIPE | EAGAIN
  | EOPNOTSUPP | EMSGSIZE | EIO | ENODEV | ETIMEDOUT | ERESTARTSYS | ECANCELED | EPROTONOSUPPORT
  | EBADMSG | ECONNRESET | ERANGE | E2BIG | EFAULT
deriving DecidableEq, Repr

def u16Max : Nat := 2 ^ 16 - 1

def u32Max : Nat := 2 ^ 32 - 1

def u64Max : Nat := 2 ^ 64 - 1

def wrap32 (n : Nat) : Nat := n % 2 ^ 32

def wrap64 (n : Nat) : Nat := n % 2 ^ 64

def incr32 (n : Nat) : Nat := (n + 1) % 2 ^ 32

def decr32 (n : Nat) : Nat := (n + u32Max) % 2 ^ 32

def sub64 (a b : Nat) : Nat := (a + (2 ^ 64 - b % 2 ^ 64)) % 2 ^ 64

def saturatingIncr64 (n : Nat) : Nat := if n = u64Max then n else n + 1

theorem wrap64_of_lt {n : Nat} (h : n < 2 ^ 64) : wrap64 n = n := Nat.mod_eq_of_lt h

theorem sub64_of_le {a b : Nat} (le : b ≤ a) (bound : a < 2 ^ 64) : sub64 a b = a - b := by
  unfold sub64
  omega

theorem incr32_wrap (n : Nat) : incr32 (n % 2 ^ 32) = (n + 1) % 2 ^ 32 := by
  unfold incr32
  omega

theorem decr32_wrap_succ (n : Nat) : decr32 ((n + 1) % 2 ^ 32) = n % 2 ^ 32 := by
  unfold decr32 u32Max
  omega

theorem decr32_incr32 {n : Nat} (h : n < 2 ^ 32) : decr32 (incr32 n) = n := by
  unfold decr32 incr32 u32Max
  omega

theorem saturatingIncr64_of_lt {n : Nat} (h : n < u64Max) : saturatingIncr64 n = n + 1 :=
  if_neg (Nat.ne_of_lt h)

theorem le_saturatingIncr64 (n : Nat) : n ≤ saturatingIncr64 n := by
  unfold saturatingIncr64
  split <;> omega

theorem saturatingIncr64_min (n : Nat) : saturatingIncr64 (min n u64Max) = min (n + 1) u64Max := by
  unfold saturatingIncr64
  split <;> omega

end Urp.Lib
