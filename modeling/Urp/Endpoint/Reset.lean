import Urp.Endpoint.Numbers

/-!
# Streams that were reset

A RST removes the entry of its stream at once, and a data frame for an unknown stream makes an
entry.
-/

namespace Urp

open Urp.Lib Urp.Frame Urp.Window Urp.Rx Urp.Tx Option Bool
open Urp.Stream (Socket)

namespace Endpoint

def socketAt (ep : Endpoint) (id : Nat) : Option Socket := (ep.streams id).bind Stream.udsSock

def writtenAt (ep : Endpoint) (id : Nat) : List UInt8 :=
  ((ep.socketAt id).map Socket.written).getD []

def revives (a : Answers) (ep : Endpoint) (id : Nat) (flags : UInt8) (after : Endpoint) : Bool :=
  (!(ep.streams id).isSome && ((ep.rxFind a.creation id flags).1.streams id).isSome) ||
  (!(ep.socketAt id).isSome && (after.socketAt id).isSome) ||
  decide ((ep.writtenAt id).length < (after.writtenAt id).length)

def refuses (a : Creation) (ep : Endpoint) (id : Nat) (flags : UInt8) : Bool :=
  let syn := decide (flags &&& dataFlagSyn ≠ 0)
  let rst := decide (flags &&& dataFlagRst ≠ 0)
  match ep.streams id with
  | none => (rst && !syn) || !(a.record && a.buffer)
  | some s => rst || (syn && !(Stream.nextState s.state .rxSyn).accepted)

variable {a : Creation} {ep : Endpoint} {id : Nat} {flags : UInt8}

theorem rxSyn_unmade (absent : ep.streams id = none) (id_pos : id ≠ 0)
    (failed : (a.record && a.buffer) = false) : ∃ e, ep.rxSyn a id = (ep, .error e) := by
  rcases streamCreate_absent a absent id_pos with ⟨e, refused, -⟩ | created
  · exact ⟨e, by simp [rxSyn, absent, refused]⟩
  · refine ⟨.ENOMEM, ?_⟩
    rcases and_eq_false_iff.mp failed with noRecord | noBuffer
    · simp [rxSyn, absent, streamCreate, noRecord]
    · cases record : a.record <;> simp [rxSyn, absent, streamCreate, noBuffer, record, id_pos]

theorem rxFind_refused (absent : ep.streams id = none) (id_pos : id ≠ 0)
    (refused : ep.refuses a id flags = true) : ∃ e, ep.rxFind a id flags = (ep, .error e) := by
  unfold rxFind
  simp only [refuses, absent, or_eq_true, and_eq_true, decide_eq_true_eq,
    not_eq_true', decide_eq_false_iff_not] at refused
  rcases refused with ⟨rst, notSyn⟩ | failed
  · refine ⟨.ENOENT, ?_⟩
    simp only [if_neg notSyn, absent, if_pos rst]
  · obtain ⟨e, unmade⟩ := rxSyn_unmade absent id_pos failed
    by_cases syn : flags &&& dataFlagSyn ≠ 0
    · exact ⟨e, by rw [if_pos syn, unmade]⟩
    · by_cases rst : flags &&& dataFlagRst ≠ 0
      · exact ⟨.ENOENT, by simp only [if_neg syn, absent, if_pos rst]⟩
      · exact ⟨e, by simp only [if_neg syn, absent, if_neg rst, unmade]⟩

theorem rxDispatch_refused (id_pos : id ≠ 0) (refused : ep.refuses a id flags = true) :
    (∀ s, (ep.rxDispatch a id flags).2 ≠ .ok (some s)) ∧
      ((ep.rxDispatch a id flags).1 = ep ∨ (ep.rxDispatch a id flags).1.streams id = none) := by
  rw [rxDispatch]
  cases found : ep.streams id with
  | none =>
    obtain ⟨e, unmade⟩ := rxFind_refused found id_pos refused
    rw [unmade]
    exact ⟨fun s => by simp, .inl rfl⟩
  | some s =>
    simp only [refuses, found, or_eq_true, and_eq_true, decide_eq_true_eq, not_eq_true'] at refused
    by_cases rejected : flags &&& dataFlagSyn ≠ 0 ∧
        (Stream.nextState s.state .rxSyn).accepted = false
    · have error : ep.rxFind a id flags = (ep, .error .EEXIST) := by
        simp [rxFind, if_pos rejected.1, rxSyn, found, rejected.2]
      rw [error]
      exact ⟨fun s => by simp, .inl rfl⟩
    · have rst := refused.resolve_right rejected
      split
      · rename_i after e failed
        refine ⟨fun s => by simp, .inl ?_⟩
        -- the only failure on a known stream is that of the SYN
        simp only [rxFind, rxSyn, found] at failed
        split at failed
        · split at failed
          · cases failed
          · exact (congrArg Prod.fst failed).symm
        · cases failed
      · rw [if_pos rst]
        exact ⟨fun s => by simp, .inr (put_streams_self _ _ _)⟩

theorem receiveStream_of_refuses (b : Answers) (qp : Nat) (slot : Memory) {dec : RxDecoded}
    (id_pos : dec.streamId ≠ 0) (refused : ep.refuses b.creation dec.streamId dec.flags = true) :
    (ep.receiveStream b qp slot dec).1 = ep ∨
      (ep.receiveStream b qp slot dec).1.streams dec.streamId = none := by
  obtain ⟨noStream, kept⟩ := rxDispatch_refused id_pos refused
  unfold receiveStream
  split
  · rename_i after s found
    exact absurd (congrArg Prod.snd found) (noStream s)
  · rename_i after other found
    rwa [found] at kept

theorem revives_refused {b : Answers} {wire : List UInt8} (qp : Nat)
    (frame : ep.dataFrame b wire = some (id, flags))
    (refused : ep.refuses b.creation id flags = true) :
    ep.revives b id flags (ep.recvDone b qp wire).1 = false := by
  unfold dataFrame at frame
  unfold recvDone
  split at frame
  · rename_i length
    rw [if_pos length]
    dsimp only
    split at frame
    · rename_i dec classified
      cases frame
      have id_pos := streamId_ne_zero classified
      rw [classified]
      have created : (!(ep.streams dec.streamId).isSome &&
          ((ep.rxFind b.creation dec.streamId dec.flags).1.streams dec.streamId).isSome) =
            false := by
        cases found : ep.streams dec.streamId with
        | some s => rfl
        | none =>
          obtain ⟨e, unmade⟩ := rxFind_refused found id_pos refused
          rw [unmade, found]
          rfl
      rcases receiveStream_of_refuses b qp (landing ep.geometry b.mem wire) id_pos refused with
        same | removed
      · rw [revives, created, same]
        simp
      · rw [revives, created]
        simp [socketAt, writtenAt, removed]
    · cases frame
  · cases frame

end Endpoint

/-! ## Frames that a RST overtook -/

namespace Reset

open Endpoint

/-- With the last frame of each queue pair in the order in which the peer sent, and the last RST. -/
structure State where
  ep : Endpoint
  last : Nat → Option Nat
  reset : Nat → Option Nat
  revived : Bool

inductive Event where
  | receive (n : Nat) (a : Answers) (qp : Nat) (wire : List UInt8)
  | accept (a : Creation) (thread : Bool)
  | pump (id : Nat) (e : PumpEvent)

def State.init (settings : Settings) (isInitiator : Bool) (numQps : Nat) : State :=
  ⟨.init settings isInitiator numQps, fun _ => none, fun _ => none, false⟩

/-- A RST of the stream that was sent after place `n` has been handled. -/
def State.late (s : State) (n id : Nat) : Bool := (s.reset id).any (n < ·)

def State.noteReset (s : State) (n id : Nat) : Nat → Option Nat :=
  Function.update s.reset id (some (max n ((s.reset id).getD 0)))

/-- A queue pair delivers its frames in the order in which they were sent. -/
def step (s : State) : Event → Option State
  | .receive n a qp wire =>
    if (s.last qp).all (· < n) then
      let after := (s.ep.recvDone a qp wire).1
      let seen := { s with ep := after, last := Function.update s.last qp (some n) }
      match s.ep.dataFrame a wire with
      | none => some seen
      | some (id, flags) =>
        some { seen with
          reset := if flags &&& dataFlagRst ≠ 0 then s.noteReset n id else s.reset
          revived := s.revived || s.late n id && s.ep.revives a id flags after }
    else none
  | .accept a thread => some { s with ep := (s.ep.acceptClient a thread).1 }
  | .pump id e => (s.ep.pump id e).map fun r => { s with ep := r.1 }

def refused (s : State) : Event → Bool
  | .receive n a _ wire => (s.ep.dataFrame a wire).all fun (id, flags) =>
      !s.late n id || s.ep.refuses a.creation id flags
  | .accept _ _ => true
  | .pump _ _ => true

theorem step_revived {s s' : State} {e : Event} (unrevived : s.revived = false)
    (admitted : refused s e = true) (moved : step s e = some s') : s'.revived = false := by
  cases e with
  | receive n a qp wire =>
    simp only [step, ite_none_right_eq_some] at moved
    obtain ⟨-, moved⟩ := moved
    split at moved
    · cases moved
      exact unrevived
    · rename_i id flags frame
      cases moved
      rw [refused, frame, all_some, or_eq_true, not_eq_true'] at admitted
      rcases admitted with inTime | refuses
      · simp [unrevived, inTime]
      · simp [unrevived, revives_refused qp frame refuses]
  | accept a thread =>
    cases moved
    exact unrevived
  | pump id e =>
    obtain ⟨r, -, rfl⟩ := map_eq_some_iff.mp moved
    exact unrevived

/-- No frame that a RST overtook makes an entry, opens a backend or delivers bytes, in every run in
which the dispatcher refuses all such frames. -/
theorem unrevived_throughout (settings : Settings) (isInitiator : Bool) (numQps : Nat)
    {events : List Event}
    (admitted : Along step (fun s e => refused s e = true)
      (.init settings isInitiator numQps) events) :
    Throughout step (fun s => s.revived = false) (.init settings isInitiator numQps) events :=
  throughout_of_along (fun _ _ _ unrevived admitted moved => step_revived unrevived admitted moved)
    (fun _ unrevived => unrevived) rfl admitted

def resetTwice : List Event :=
  [.receive 0 answering 0 (encode 1 0 typeData dataFlagSyn 0 1 ++ [7]),
    .receive 3 answering 1 (encode 1 0 typeData dataFlagRst 0 0),
    .receive 2 answering 0 (encode 1 1 typeData dataFlagRst 0 0)]

theorem unrevived_throughout_twice :
    Throughout step (fun s => s.revived = false) (.init smallSettings false 2) resetTwice ∧
      ∃ s, run step (.init smallSettings false 2) resetTwice = some s ∧
        s.late 2 1 = true ∧ s.ep.streams 1 = none := by
  refine ⟨unrevived_throughout smallSettings false 2 ?_, ?_⟩
  all_goals decide +kernel

def overtaken : List Event :=
  [.receive 1 answering 1 (encode 1 1 typeData 0 0 1 ++ [8]),
    .receive 2 answering 1 (encode 1 0 typeData dataFlagRst 0 0),
    .receive 0 answering 0 (encode 1 0 typeData dataFlagSyn 0 1 ++ [7])]

/-- The late frame makes the stream again, and a new backend gets its byte. -/
theorem overtaken_frame_revives : ∃ s, run step (.init smallSettings false 2) overtaken = some s ∧
      s.revived = true ∧ (s.ep.socketAt 1).isSome = true ∧ s.ep.writtenAt 1 = [7] := by
  decide +kernel

end Reset

end Urp
