import Urp.Lib.Machine
import Urp.Lib.OrderedTree

/-!
# The reorder buffer

The C backend of the per-stream reorder buffer.
-/

namespace Urp.Reorder

open Urp.Lib List

abbrev Payload := List UInt8

structure Node where
  seq : Nat
  data : Payload
deriving DecidableEq, Repr

/-- `struct urp_reorder`. -/
structure Buffer where
  pending : OrderedTree Node Node.seq
  drained : List Node
  nextExpected : Nat
  pendingCount : Nat
  drainCount : Nat
  maxBuffered : Nat
deriving DecidableEq

def alloc (initialExpected maxBuffered : Nat) : Option Buffer :=
  if maxBuffered = 0 then none
  else some ⟨.empty, [], initialExpected, 0, 0, maxBuffered⟩

def Buffer.link (rb : Buffer) (n : Node) : Buffer :=
  { rb with pending := rb.pending.insert n, pendingCount := incr32 rb.pendingCount }

def Buffer.migrate (rb : Buffer) (n : Node) : Buffer :=
  { rb with
    pending := rb.pending.eraseFirst
    drained := rb.drained ++ [n]
    nextExpected := saturatingIncr64 rb.nextExpected
    pendingCount := decr32 rb.pendingCount
    drainCount := incr32 rb.drainCount }

def drainLoop : Nat → (Nat → Bool) → Buffer → Buffer
  | 0, _, rb => rb
  | fuel + 1, kmalloc, rb =>
    match rb.pending.first with
    | none => rb
    | some n =>
      if n.seq ≠ rb.nextExpected then rb
      else if kmalloc 0 = false then rb
      else drainLoop fuel (fun i => kmalloc (i + 1)) (rb.migrate n)

def drainPrefix (kmalloc : Nat → Bool) (rb : Buffer) : Buffer :=
  drainLoop rb.pending.size kmalloc rb

def insert (kmalloc : Nat → Bool) (rb : Buffer) (seq : Nat) (data : Payload) :
    Buffer × Except Errno Unit :=
  if seq < rb.nextExpected then (rb, .error .EEXIST)
  else if (rb.pending.find? seq).isSome then (rb, .error .EEXIST)
  else if rb.maxBuffered ≤ rb.pendingCount ∧ seq ≠ rb.nextExpected then (rb, .error .ENOBUFS)
  else if kmalloc 0 = false then (rb, .error .ENOMEM)
  else
    (drainPrefix (fun i => kmalloc (i + 1)) (rb.link ⟨seq, data⟩), .ok ())

def Buffer.stepOver (rb : Buffer) : Buffer :=
  { rb with nextExpected := saturatingIncr64 rb.nextExpected }

/-- The caller has delivered `nextExpected` itself. -/
def advance (kmalloc : Nat → Bool) (rb : Buffer) : Buffer := drainPrefix kmalloc rb.stepOver

def Buffer.pop (rb : Buffer) : Buffer :=
  { rb with drained := rb.drained.tail, drainCount := decr32 rb.drainCount }

/-- Pop the head of the drain queue into a caller's buffer of `len` bytes. -/
def drainNext (rb : Buffer) (len : Nat) : Buffer × Except Errno Node :=
  match rb.drained with
  | [] => (rb, .error .ENOENT)
  | d :: _ =>
    if len < d.data.length then (rb, .error .ENOBUFS)
    else (rb.pop, .ok d)

section Fields

variable (rb : Buffer) (n : Node)

@[simp] theorem migrate_pending : (rb.migrate n).pending = rb.pending.eraseFirst := rfl

@[simp] theorem migrate_drained : (rb.migrate n).drained = rb.drained ++ [n] := rfl

@[simp] theorem migrate_nextExpected :
    (rb.migrate n).nextExpected = saturatingIncr64 rb.nextExpected := rfl

@[simp] theorem migrate_maxBuffered : (rb.migrate n).maxBuffered = rb.maxBuffered := rfl

@[simp] theorem link_pending : (rb.link n).pending = rb.pending.insert n := rfl

@[simp] theorem link_drained : (rb.link n).drained = rb.drained := rfl

@[simp] theorem link_nextExpected : (rb.link n).nextExpected = rb.nextExpected := rfl

@[simp] theorem link_maxBuffered : (rb.link n).maxBuffered = rb.maxBuffered := rfl

@[simp] theorem stepOver_pending : rb.stepOver.pending = rb.pending := rfl

@[simp] theorem stepOver_drained : rb.stepOver.drained = rb.drained := rfl

@[simp] theorem stepOver_nextExpected :
    rb.stepOver.nextExpected = saturatingIncr64 rb.nextExpected := rfl

@[simp] theorem stepOver_maxBuffered : rb.stepOver.maxBuffered = rb.maxBuffered := rfl

@[simp] theorem pop_pending : rb.pop.pending = rb.pending := rfl

@[simp] theorem pop_drained : rb.pop.drained = rb.drained.tail := rfl

@[simp] theorem pop_nextExpected : rb.pop.nextExpected = rb.nextExpected := rfl

@[simp] theorem pop_maxBuffered : rb.pop.maxBuffered = rb.maxBuffered := rfl

end Fields

structure Counted (rb : Buffer) : Prop where
  pending : rb.pendingCount = rb.pending.size % 2 ^ 32
  drained : rb.drainCount = rb.drained.length % 2 ^ 32

variable {rb : Buffer}

section

variable (counted : Counted rb)
include counted

theorem Counted.link {n : Node} (fresh : rb.pending.find? n.seq = none) : Counted (rb.link n) where
  pending := by
    rw [link_pending, OrderedTree.size_insert fresh, ← incr32_wrap, ← counted.pending]
    rfl
  drained := counted.drained

theorem Counted.migrate {n : Node}
    (first : rb.pending.first = some n) : Counted (rb.migrate n) where
  pending := by
    rw [migrate_pending, ← decr32_wrap_succ, ← OrderedTree.size_eraseFirst first, ← counted.pending]
    rfl
  drained := by
    rw [migrate_drained, length_append, length_singleton, ← incr32_wrap,
      ← counted.drained]
    rfl

theorem Counted.pop (nonempty : rb.drained ≠ []) : Counted rb.pop where
  pending := counted.pending
  drained := by
    have length := length_tail_add_one rb.drained (length_pos_iff.mpr nonempty)
    rw [pop_drained, ← decr32_wrap_succ, length, ← counted.drained]
    rfl

theorem Counted.stepOver : Counted rb.stepOver :=
  ⟨counted.pending, counted.drained⟩

end

/-! ## The drain loop -/

theorem drainLoop_preserves {P : Buffer → Prop}
    (keeps : ∀ rb n, rb.pending.first = some n → n.seq = rb.nextExpected → P rb → P (rb.migrate n))
    (fuel : Nat) (kmalloc : Nat → Bool) (rb : Buffer) (initial : P rb) :
    P (drainLoop fuel kmalloc rb) := by
  fun_induction drainLoop fuel kmalloc rb with
  | case1 | case2 | case3 | case4 => exact initial
  | case5 fuel kmalloc rb n first due _ ih =>
    exact ih (keeps rb n first (not_not.mp due) initial)

theorem drainPrefix_preserves {P : Buffer → Prop}
    (keeps : ∀ rb n, rb.pending.first = some n → n.seq = rb.nextExpected → P rb → P (rb.migrate n))
    (kmalloc : Nat → Bool) (rb : Buffer) (initial : P rb) : P (drainPrefix kmalloc rb) :=
  drainLoop_preserves keeps _ kmalloc rb initial

def Settled (rb : Buffer) : Prop := ∀ n, rb.pending.first = some n → n.seq ≠ rb.nextExpected

theorem drainLoop_settled (fuel : Nat) (kmalloc : Nat → Bool) (rb : Buffer)
    (enough : rb.pending.size ≤ fuel) (allocated : ∀ i, kmalloc i = true) :
    Settled (drainLoop fuel kmalloc rb) := by
  fun_induction drainLoop fuel kmalloc rb with
  | case1 kmalloc rb =>
    intro n first
    have nonempty := OrderedTree.size_eraseFirst first
    omega
  | case2 fuel kmalloc rb empty =>
    intro n first
    simp [empty] at first
  | case3 fuel kmalloc rb n first early =>
    intro m first'
    obtain rfl : n = m := Option.some.inj (first.symm.trans first')
    exact early
  | case4 fuel kmalloc rb n first due failed => simp [allocated 0] at failed
  | case5 fuel kmalloc rb n first due _ ih =>
    have shrinks := OrderedTree.size_eraseFirst first
    exact ih (by simp only [migrate_pending]; omega) (fun i => allocated (i + 1))

theorem drainPrefix_settled (kmalloc : Nat → Bool) (rb : Buffer)
    (allocated : ∀ i, kmalloc i = true) : Settled (drainPrefix kmalloc rb) :=
  drainLoop_settled _ kmalloc rb le_rfl allocated

end Urp.Reorder
