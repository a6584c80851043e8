import Urp.Proxy.Rounds

/-!
# What the applications get

The bytes that one application writes reach the other one in order.
-/

namespace Urp.Proxy

open Urp.Lib Urp.Reorder Urp.Frame Urp.Rx Urp.Tx

/-! ## Nothing is lost -/

/-- In every run that loses no frame of a stream and reads at most one frame for each 64-bit
number: at all times each socket holds the first bytes that the other side read, and all of them
once nothing is on its way. -/
theorem delivered_in_order {id : Nat} {c : Config} {es : List Event} {x : Proxy}
    (lossless : Along step (Lossless id) (new c) es)
    (numbered : Along step (Numbered id) (new c) es) (reached : run step (new c) es = some x)
    (side : Side) :
    x.written side.peer id <+: (x.read side id).flatten ∧
      (x.Settled side id → x.written side.peer id = (x.read side id).flatten) := by
  have handled : Along step (Handled id) (new c) es :=
    (lossless.mono fun _ _ lossless => lossless.1).and numbered
  have sound := sound_of_run handled reached
  refine ⟨sound.inOrder side, fun settled => (sound.complete_iff settled).mpr ?_⟩
  apply (wholeAt_iff side handled reached).mpr
  exact lossless.mono fun _ _ lossless => lossless.2 side

theorem delivered_in_order_two_bytes :
    ∃ x, run step (new smallPair) (opening ++ round ++ round) = some x ∧
      x.written .acceptor 1 = [0, 0] := by
  obtain ⟨x, s, opened⟩ := rounds_opening
  have second := (opened.next (by decide)).next (by decide)
  have delivered := (delivered_in_order second.lossless second.numbered second.reached
    .initiator).2 second.settled
  rw [second.read] at delivered
  exact ⟨_, second.reached, delivered⟩

/-- The frame after the last number has the number 0 again and is dropped. -/
theorem frame_after_last_number_dropped : ∃ es x, run step (new smallPair) es = some x ∧
      Along step (Lossless 1) (new smallPair) es ∧ x.Settled .initiator 1 ∧
      x.written .acceptor 1 ≠ (x.read .initiator 1).flatten := by
  obtain ⟨es, x, s, sendSyn, rounds⟩ := rounds_exist (Nat.le_refl (2 ^ 64))
  have next := rounds.quiet.next rounds.sound.tidy
  refine ⟨es ++ round, _, rounds.run_append, rounds.append_lossless, next.settled, ?_⟩
  have complete : x.written .acceptor 1 = (x.read .initiator 1).flatten :=
    (rounds.sound.complete_iff rounds.settled).mpr rounds.whole
  rw [rounds.wraps, complete, deliveredByte_read]
  intro same
  have lengths := congrArg List.length same
  simp at lengths

/-! ## Runs that can be checked -/

def Event.Succeeds : Event → Prop
  | .deliver _ _ a => a.Succeed
  | _ => True

/-- The part of `Handled` that is about the state. -/
def handles (id : Nat) (x : Proxy) : Event → Bool
  | .deliver side i _ => (x.wire side)[i]?.all fun p =>
    decide (p.wire.length ≤ (x.ep side).geometry.bufSize) && (x.stream side id).all fun s =>
      decide (wireSeq p.wire = s.reorder.nextExpected) ||
        decide (s.reorder.pendingCount < s.reorder.maxBuffered)
  | .pump side _ _ => decide ((x.read side id).length < 2 ^ 64)
  | _ => true

theorem handled_of_handles {id : Nat} {x : Proxy} {e : Event} (succeeds : e.Succeeds)
    (checked : handles id x e = true) : Handled id x e := by
  cases e with
  | deliver side i a =>
    refine ⟨?_, trivial⟩
    intro p found _
    simp only [handles, found, Option.all_some, Bool.and_eq_true, decide_eq_true_eq] at checked
    refine ⟨succeeds, checked.1, fun s present => ?_⟩
    simpa [present] using checked.2
  | pump side k e => exact ⟨trivial, fun _ _ => of_decide_eq_true checked⟩
  | accept | cm | linkDown | linkUp | lose => exact ⟨trivial, trivial⟩

theorem along_handled {id : Nat} {x : Proxy} {es : List Event} (succeed : ∀ e ∈ es, e.Succeeds)
    (checked : checkAlong step (handles id) x es = true) : Along step (Handled id) x es :=
  along_of_checkAlong (fun _ e mem => handled_of_handles (succeed e mem)) checked

/-! ## Frames lost with their queue pair -/

/-- In every run whose frames of the stream are answered: each socket holds the first bytes that
the other side read, and once nothing is on its way it holds all of them, or the stream is closed
at both ends, exactly if no step lost a frame of the stream. -/
theorem delivered_or_closed_iff_nothing_lost {id : Nat} {c : Config} {es : List Event} {x : Proxy}
    (handled : Along step (Handled id) (new c) es) (reached : run step (new c) es = some x)
    (side : Side) :
    x.written side.peer id <+: (x.read side id).flatten ∧ (x.Settled side id →
        (x.written side.peer id = (x.read side id).flatten ∨ (∀ other, x.Closed other id) ↔
          Along step (fun x e => ¬Loses id side x e) (new c) es)) := by
  have sound := sound_of_run handled reached
  refine ⟨sound.inOrder side, fun settled => ?_⟩
  rw [← wholeAt_iff side handled reached, ← sound.complete_iff settled]
  refine or_iff_left_of_imp fun closed => ?_
  have nothing : x.read side id = [] := by
    by_contra sends
    exact sound.not_closed sends (closed side)
  have inOrder := sound.inOrder side
  rw [nothing] at inOrder ⊢
  exact List.prefix_nil.mp inOrder

def losingRun : List Event :=
  opening ++ sendingByte ++ [Event.deliver .acceptor 0 answering] ++ sendingByte ++
    [Event.linkDown 0, .lose .acceptor 0] ++ reconnecting ++ sendingByte ++
    [Event.deliver .acceptor 0 answering]

theorem opening_succeeds : ∀ e ∈ opening, e.Succeeds := by
  simp [opening, connecting, Event.Succeeds]

theorem sendingByte_succeeds : ∀ e ∈ sendingByte, e.Succeeds := by
  simp [sendingByte, Event.Succeeds]

theorem reconnecting_succeeds : ∀ e ∈ reconnecting, e.Succeeds := by
  simp [reconnecting, connecting, Event.Succeeds]

theorem delivering_succeeds : ∀ e ∈ [Event.deliver .acceptor 0 answering], e.Succeeds := by
  simp [Event.Succeeds, answering_succeed]

theorem losingRun_succeeds : ∀ e ∈ losingRun, e.Succeeds := by
  have lost : ∀ e ∈ [Event.linkDown 0, .lose .acceptor 0], e.Succeeds := by simp [Event.Succeeds]
  simp only [losingRun, List.forall_mem_append]
  exact ⟨⟨⟨⟨⟨⟨⟨opening_succeeds, sendingByte_succeeds⟩, delivering_succeeds⟩, sendingByte_succeeds⟩,
    lost⟩, reconnecting_succeeds⟩, sendingByte_succeeds⟩, delivering_succeeds⟩

theorem gap_outlives_reconnect : ∃ x, run step (new smallPair) losingRun = some x ∧
      Along step (Handled 1) (new smallPair) losingRun ∧
      (∀ side, (x.ep side).qps.connected = true) ∧ (∀ side, x.Settled side 1) ∧
      (∀ side, ¬x.Closed side 1) ∧ x.written .acceptor 1 ≠ (x.read .initiator 1).flatten := by
  obtain ⟨x, reached, facts⟩ : ∃ x, run step (new smallPair) losingRun = some x ∧
      (∀ side, (x.ep side).qps.connected = true) ∧ (∀ side, x.Settled side 1) ∧
      (∀ side, ¬x.Closed side 1) ∧
      x.written .acceptor 1 ≠ (x.read .initiator 1).flatten := by decide +kernel
  exact ⟨x, reached, along_handled losingRun_succeeds (by decide +kernel), facts⟩

def quietRun : List Event :=
  opening ++ sendingByte ++ [Event.deliver .acceptor 0 answering, .linkDown 0] ++ reconnecting ++
    sendingByte ++ [Event.deliver .acceptor 0 answering]

theorem quietRun_succeeds : ∀ e ∈ quietRun, e.Succeeds := by
  have dropped : ∀ e ∈ [Event.deliver .acceptor 0 answering, .linkDown 0], e.Succeeds := by
    simp [Event.Succeeds, answering_succeed]
  simp only [quietRun, List.forall_mem_append]
  exact ⟨⟨⟨⟨⟨opening_succeeds, sendingByte_succeeds⟩, dropped⟩, reconnecting_succeeds⟩,
    sendingByte_succeeds⟩, delivering_succeeds⟩

theorem delivered_or_closed_after_reconnect :
    ∃ x, run step (new smallPair) quietRun = some x ∧ x.Settled .initiator 1 ∧
      (x.written .acceptor 1 = (x.read .initiator 1).flatten ∨ (∀ other, x.Closed other 1) ↔
        Along step (fun x e => ¬Loses 1 .initiator x e) (new smallPair) quietRun) := by
  obtain ⟨x, reached, settled⟩ : ∃ x, run step (new smallPair) quietRun = some x ∧
      x.Settled .initiator 1 := by decide +kernel
  have handled : Along step (Handled 1) (new smallPair) quietRun :=
    along_handled quietRun_succeeds (by decide +kernel)
  exact ⟨x, reached, settled,
    (delivered_or_closed_iff_nothing_lost handled reached .initiator).2 settled⟩

end Urp.Proxy
