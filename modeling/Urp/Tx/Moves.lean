import Urp.Tx.Sending

/-!
# What a step of the transmit thread does to the frames it read

The frames that the thread read are numbered in the order of the reads, whether they are posted or
not.
-/

namespace Urp

open Urp.Stream (Phase)

def Stream.holding (s : Stream) : Bool :=
  match s.txThread with
  | some ⟨_, .posting _ _ _⟩ => true
  | _ => false

end Urp

namespace Urp.Tx

open Urp.Lib Urp.Reorder Urp.Frame Urp.Rx
open Urp.Stream (Phase Pump)

def readBy : PumpEvent → List Payload
  | .read r _ => [r.data]
  | _ => []

def Drops : PumpEvent → Prop
  | .read _ none => True
  | .abort => True
  | .post _ _ ok => ok = false
  | _ => False

def Sends (g : Geometry) (id : Nat) (frames : List Payload) (s : Stream) : Prop :=
  s.id = id ∧ ∃ pump before held, s.txThread = some pump ∧ Sending g before s held pump ∧
    frames = before ++ held.toList

inductive Move (g : Geometry) (id : Nat) (frames : List Payload) (s s' : Stream) :
    PumpEvent → Option (Nat × List UInt8) → Prop where
  | rests {e} (free : s.holding = false) (free' : s'.holding = false)
    (sends : Sends g id frames s') (silent : readBy e = []) (keeps : ¬Drops e) :
    Move g id frames s s' e none
  | takes {r qp} (free : s.holding = false) (holds : s'.holding = true)
    (nonempty : 0 < r.data.length) (sends : Sends g id (frames ++ [r.data]) s') :
    Move g id frames s s' (.read r (some qp)) none
  | skips {r} (free : s.holding = false) (free' : s'.holding = false)
    (nonempty : 0 < r.data.length) (sends : Sends g id (frames ++ [r.data]) s') :
    Move g id frames s s' (.read r none) none
  | loses {e} (holds : s.holding = true) (free : s'.holding = false)
    (nonnil : frames ≠ []) (sends : Sends g id frames s') (silent : readBy e = [])
    (drops : Drops e) : Move g id frames s s' e none
  | posts {windowNegotiated stalled qp wire}
    (holds : s.holding = true) (free : s'.holding = false) (nonnil : frames ≠ [])
    (sends : Sends g id frames s') (carries : Carries id frames (frames.length - 1) wire) :
    Move g id frames s s' (.post windowNegotiated stalled true) (some (qp, wire))

variable {s s' : Stream}

variable {frames : List Payload}

theorem Sends.congr {g : Geometry} {id : Nat}
    (sends : Sends g id frames s) (same : SameTx s s') : Sends g id frames s' := by
  obtain ⟨names, pump, before, held, thread, sending, split⟩ := sends
  exact ⟨same.id.trans names, pump, before, held, same.txThread.trans thread,
    sending.congr same.id same.txSeq, split⟩

theorem SameTx.holding (same : SameTx s s') : s'.holding = s.holding := by
  simp [Stream.holding, same.txThread]

theorem holding_of_thread {pump : Pump} (thread : s.txThread = some pump) :
    s.holding = match pump.phase with
      | .posting _ _ _ => true
      | _ => false := by
  obtain ⟨sendSyn, phase⟩ := pump
  cases phase <;> simp [Stream.holding, thread]

theorem Sends.move {g : Geometry} {id : Nat} {e : PumpEvent}
    {out : Option (Nat × List UInt8)} (sends : Sends g id frames s) (moved : PumpStep g s e s' out)
    (bound : readBy e ≠ [] → frames.length < 2 ^ 64) : Move g id frames s s' e out := by
  obtain ⟨names, pump, before, held, thread', sending, split⟩ := sends
  cases moved with
  | stop thread | eof thread =>
    cases thread'.symm.trans thread
    exact .rests (holding_of_thread thread) rfl ⟨names, _, before, held, rfl, sending.1, split⟩
      rfl not_false
  | @drop sendSyn r thread uds nonempty fits =>
    cases thread'.symm.trans thread
    obtain ⟨rfl, seq, -⟩ := sending
    obtain rfl : frames = before := by simpa using split
    refine .skips (holding_of_thread thread) rfl nonempty
      ⟨names, _, frames ++ [r.data], none, rfl, ⟨rfl, ?_, by simp⟩, by simp⟩
    simp only [seq, wrap64_succ, List.length_append, List.length_singleton]
  | @read sendSyn r qp thread uds nonempty fits =>
    cases thread'.symm.trans thread
    obtain rfl : held = none := sending.1
    obtain rfl : frames = before := by simpa using split
    exact .takes (holding_of_thread thread) rfl nonempty ⟨names, _, frames, _, rfl,
      sending.read (bound (by simp [readBy])) nonempty fits rfl rfl, rfl⟩
  | abort thread =>
    cases thread'.symm.trans thread
    obtain ⟨data, rfl, -⟩ := sending
    exact .loses (holding_of_thread thread) rfl (by simp [split])
      ⟨names, _, frames, none, rfl, rfl, by simp⟩ rfl trivial
  | fail thread =>
    cases thread'.symm.trans thread
    obtain ⟨data, rfl, -⟩ := sending
    exact .loses (holding_of_thread thread) rfl (by simp [split])
      ⟨names, _, frames, none, rfl, rfl, by simp⟩ rfl rfl
  | post thread gate =>
    cases thread'.symm.trans thread
    obtain ⟨data, rfl, -, -, -, seq, rfl, carries⟩ := sending
    obtain rfl : frames = before ++ [data] := split
    refine .posts (holding_of_thread thread) rfl (by simp)
      ⟨names, _, before ++ [data], none, rfl, ⟨rfl, ?_, by simp, rfl⟩, by simp⟩ ?_
    · simpa using seq
    · simpa [names] using carries
  | account thread =>
    cases thread'.symm.trans thread
    exact .rests (holding_of_thread thread) rfl
      ⟨names, _, before, held, rfl, sending.account rfl, split⟩ rfl not_false

end Urp.Tx
