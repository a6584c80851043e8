import Urp.Lib.Run
import Urp.Rx.Receiving
import Urp.Settings

/-!
# The last grant
-/

namespace Urp.Rx.Granting

open Urp.Lib Urp.Frame Urp.Window Urp.Stream Option

/-- What `urp_emit_credit_bytes_frame` meets: a queue pair, a send buffer, the post. -/
structure Emission where
  qp : Bool
  buffer : Bool
  post : Except Errno Unit

structure Emitted where
  wire : Option (List UInt8)
  stalled : Bool
  result : Except Errno Unit

def emitCreditBytesFrame (a : Emission) (id cumulativeBytes : Nat) : Emitted :=
  if !a.qp then ⟨none, false, .ok ()⟩
  else if !a.buffer then ⟨none, true, .error .ENOBUFS⟩
  else
    match a.post with
    | .ok () => ⟨some (creditBytesFrame id cumulativeBytes), false, .ok ()⟩
    | .error e => ⟨none, false, .error e⟩

structure Completion where
  kmalloc : Nat → Bool
  results : Nat → SendResult
  slot : Memory
  dec : RxDecoded
  known : Bool
  emission : Emission

/-- A receiving stream and the grants that were posted for it. -/
structure State where
  rx : Stream
  posted : List Nat
  creditStalls : Nat

namespace State

def receive (g : Geometry) (x : State) (c : Completion) : Stream × Option Nat :=
  receiveData c.kmalloc c.results g c.known x.rx c.slot c.dec

def emit (x : State) (rx : Stream) (c : Completion) (delivered : Nat) : State :=
  let emitted := emitCreditBytesFrame c.emission c.dec.streamId delivered
  { rx := rx
    posted := if emitted.wire.isSome then delivered :: x.posted else x.posted
    creditStalls := if emitted.stalled then x.creditStalls + 1 else x.creditStalls }

def complete (g : Geometry) (x : State) (c : Completion) : State :=
  match x.receive g c with
  | (rx, none) => { x with rx := rx }
  | (rx, some delivered) => x.emit rx c delivered

def largest (x : State) : Nat := x.posted.foldr max 0

def Recorded (x : State) : Prop := x.rx.lastWindowGrant = x.largest

end State

inductive Event where
  | complete (c : Completion)
  | elsewhere (rx : Stream)

/-- A data frame in `urp_recv_done`, or what else happens to the stream. -/
def step (g : Geometry) (x : State) : Event → Option State
  | .complete c => if x.rx.udsSock.isSome then some (x.complete g c) else none
  | .elsewhere rx =>
    if rx.rxBytes = x.rx.rxBytes ∧ rx.lastWindowGrant = x.rx.lastWindowGrant then
      some { x with rx := rx }
    else none

def posts (g : Geometry) (x : State) : Event → Bool
  | .complete c => (x.receive g c).2.all fun delivered =>
      (emitCreditBytesFrame c.emission c.dec.streamId delivered).wire.isSome &&
        decide (x.rx.lastWindowGrant < delivered)
  | .elsewhere _ => true

theorem windowGrant_cases (s : Stream) : windowGrant s = (s, none) ∨
      windowGrant s = ({ s with lastWindowGrant := s.rxBytes }, some s.rxBytes) ∧
        s.rxBytes ≠ s.lastWindowGrant := by
  unfold windowGrant
  split
  case isFalse => exact .inl rfl
  case isTrue due =>
    refine .inr ⟨rfl, fun same => ?_⟩
    have positive := grantStep_pos s.windowBytes
    have distance := of_decide_eq_true due
    rw [same] at distance
    have zero : sub64 s.lastWindowGrant s.lastWindowGrant = 0 := by
      unfold sub64
      omega
    omega

theorem receive_cases (g : Geometry) (x : State) (c : Completion) :
    (∃ rx, x.receive g c = (rx, none) ∧ rx.lastWindowGrant = x.rx.lastWindowGrant) ∨
      ∃ rx delivered, x.receive g c = (rx, some delivered) ∧ rx.lastWindowGrant = delivered ∧
        delivered ≠ x.rx.lastWindowGrant := by
  have untouched := untouched_deliverFrame c.kmalloc c.results g x.rx c.slot
    (decodeSeq (c.slot 0)) c.dec.payloadLen
  rw [State.receive, receiveData]
  generalize deliverFrame c.kmalloc c.results g x.rx c.slot (decodeSeq (c.slot 0))
    c.dec.payloadLen = s at untouched
  cases c.known with
  | false => exact .inl ⟨s, rfl, untouched.lastWindowGrant⟩
  | true =>
    rw [if_pos rfl]
    rcases windowGrant_cases s with waits | ⟨grants, other⟩
    · exact .inl ⟨s, waits, untouched.lastWindowGrant⟩
    · exact .inr ⟨_, _, grants, rfl, untouched.lastWindowGrant ▸ other⟩

theorem posts_iff_recorded {g : Geometry} {x x' : State} {e : Event} (recorded : x.Recorded)
    (stepped : step g x e = some x') : posts g x e = true ↔ x'.Recorded := by
  cases e with
  | elsewhere rx =>
    obtain ⟨⟨-, same⟩, rfl⟩ := guarded stepped
    exact iff_of_true rfl (same.trans recorded)
  | complete c =>
    obtain ⟨-, rfl⟩ := guarded stepped
    rcases receive_cases g x c with ⟨rx, received, same⟩ | ⟨rx, delivered, received, last, other⟩
    · rw [posts, State.complete, received]
      exact iff_of_true rfl (same.trans recorded)
    · rw [posts, State.complete, received]
      simp only [all_some, Bool.and_eq_true, decide_eq_true_eq]
      cases wire : (emitCreditBytesFrame c.emission c.dec.streamId delivered).wire with
      | none =>
        -- the value is remembered, and differs from the last one, which was the largest
        refine iff_of_false (fun posted => Bool.false_ne_true posted.1) ?_
        simp only [State.Recorded, State.emit, State.largest, wire, isSome_none,
          Bool.false_eq_true, if_false]
        intro equal
        exact other ((last.symm.trans equal).trans recorded.symm)
      | some frame =>
        have largest : x.posted.foldr max 0 = x.rx.lastWindowGrant := recorded.symm
        simp only [State.Recorded, State.emit, State.largest, wire, isSome_some, if_true,
          List.foldr_cons, largest, last, true_and]
        omega

/-- After every completion the stream remembers the largest value whose grant was posted, exactly
if every grant was posted and the byte counter did not wrap around between two of them. -/
theorem last_grant_recorded_iff (g : Geometry) (z : Sizes) (id : Nat) (s : Stream)
    (created : Stream.create z id = some s) (events : List Event) (x : State)
    (reached : run (step g) ⟨s, [], 0⟩ events = some x) :
    Throughout (step g) State.Recorded ⟨s, [], 0⟩ events ↔
      Along (step g) (fun x e => posts g x e = true) ⟨s, [], 0⟩ events := by
  have fresh : (⟨s, [], 0⟩ : State).Recorded := by
    rw [Stream.create_eq, Option.some.injEq] at created
    exact created ▸ rfl
  exact throughout_iff (I := fun _ => True) (fun _ _ _ _ _ _ _ => trivial)
    (fun _ _ _ _ recorded stepped => posts_iff_recorded recorded stepped) trivial fresh reached

def fullFrame (seq : UInt8) (emission : Emission) : Event :=
  .complete
    { kmalloc := fun _ => true, results := fun _ => .full, known := true, emission := emission
      slot := fun _ i => if i = 4 then seq else 0
      dec := ⟨4076, 1, 0, typeData, 0⟩ }

def posting : Emission := ⟨true, true, .ok ()⟩

def quarterWindow (emission : Emission) : List Event :=
  [.elsewhere { Stream.blank smallSettings.sizes 1 with udsSock := some .fresh },
    fullFrame 0 posting, fullFrame 1 posting, fullFrame 2 emission]

theorem posted_grant_recorded : Throughout (step smallSettings.geometry) State.Recorded
        ⟨.blank smallSettings.sizes 1, [], 0⟩ (quarterWindow posting) ∧
      ∃ x, run (step smallSettings.geometry) ⟨.blank smallSettings.sizes 1, [], 0⟩
          (quarterWindow posting) = some x ∧ x.posted = [12228] := by
  obtain ⟨x, reached, posted⟩ : ∃ x, run (step smallSettings.geometry)
      ⟨.blank smallSettings.sizes 1, [], 0⟩ (quarterWindow posting) = some x ∧
        x.posted = [12228] := by decide +kernel
  have recorded := last_grant_recorded_iff smallSettings.geometry smallSettings.sizes 1 _
    (Stream.create_eq _ _) _ x reached
  exact ⟨recorded.mpr (by decide +kernel), x, reached, posted⟩

/-- No send buffer is free when the grant is due. The stream remembers it all the same, and the
next frame, with a buffer free again, grants nothing. -/
theorem lost_grant_recorded :
    ∃ x, run (step smallSettings.geometry) ⟨.blank smallSettings.sizes 1, [], 0⟩
        (quarterWindow ⟨true, false, .ok ()⟩ ++ [fullFrame 3 posting]) = some x ∧
      x.rx.rxBytes = 16304 ∧ x.rx.lastWindowGrant = 12228 ∧ x.posted = [] ∧
      x.creditStalls = 1 ∧ x.rx.windowBytes = 32768 := by
  decide +kernel

end Urp.Rx.Granting
