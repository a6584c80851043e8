import Urp.Proxy.Receive

/-!
# Every stream delivers in order
-/

namespace Urp.Proxy

open Urp.Lib Urp.Reorder Urp.Frame Urp.Rx Urp.Tx Function
open Urp.Stream (Socket)

section Step

variable {x x' : Proxy} {id : Nat}

/-! ## The steps that are left -/

theorem opened_clientStream (z : Sizes) (id : Nat) : Opened (Endpoint.clientStream z id) :=
  opened_blank z id (.inl rfl)

section

variable (sound : Sound id x)
include sound

variable {r : Endpoint × Option Nat}

theorem Sound.opens {z : Sizes} (absent : x.stream .initiator id = none)
    (setup : Endpoint.SameSetup (x.ep .initiator) r.1)
    (stored : r.1.streams id = some (Endpoint.clientStream z id)) (tidy : (x.accepts r).Tidy) :
    Sound id (x.accepts r) ∧ ∀ side, (x.WholeAt id side ↔ (x.accepts r).WholeAt id side) := by
  have initiator : (x.accepts r).stream .initiator id = some (Endpoint.clientStream z id) := stored
  have near : Flow (x.ep .initiator).geometry (x.ep .acceptor).geometry id none
      (x.stream .acceptor id) (x.read .initiator id) (x.flight .initiator id)
      (x.came .acceptor id) := absent ▸ sound.flow .initiator
  have far : Flow (x.ep .acceptor).geometry (x.ep .initiator).geometry id
      (x.stream .acceptor id) none (x.read .acceptor id) (x.flight .acceptor id)
      (x.came .initiator id) := absent ▸ sound.flow .acceptor
  obtain ⟨opened, whole⟩ := near.txOpen (s := Endpoint.clientStream z id) rfl rfl rfl
  constructor
  · apply sound.assemble .initiator tidy (setup_setEp setup)
    · simp [initiator]
    · rwa [initiator]
    · rw [initiator]
      exact far.rxOpen (opened_clientStream z id)
    · exact sound.carried .initiator
    · exact sound.carried .acceptor
    · exact ⟨sound.word .initiator, sound.word .acceptor⟩
  · refine forall_side .initiator ?_ Iff.rfl
    rwa [WholeAt, WholeAt, initiator, absent]

theorem Sound.accepts {a : Creation}
    (accepted : Endpoint.Accepted a (x.ep .initiator) r) (tidy : (x.accepts r).Tidy) :
    Sound id (x.accepts r) ∧ ∀ side, (x.WholeAt id side ↔ (x.accepts r).WholeAt id side) := by
  have elsewhere : Endpoint.SameSetup (x.ep .initiator) r.1 →
      r.1.streams id = x.stream .initiator id →
      Sound id (x.accepts r) ∧ ∀ side, (x.WholeAt id side ↔ (x.accepts r).WholeAt id side) := by
    intro setup same
    exact sound.elsewhere tidy (setup_setEp setup) (forall_side .initiator same rfl)
      (fun _ => rfl) (fun _ => rfl) (fun _ => rfl) fun _ _ mem _ => mem
  cases accepted with
  | refused => exact elsewhere ⟨rfl, rfl, rfl⟩ rfl
  | served absent =>
    by_cases same : id = (x.ep .initiator).nextStreamId
    · subst same
      exact sound.opens absent ⟨rfl, rfl, rfl⟩ (Endpoint.put_streams_self ..) tidy
    · refine elsewhere ⟨rfl, rfl, rfl⟩ ?_
      rw [Endpoint.put_streams, update_of_ne same]
      rfl

theorem Sound.pumpElsewhere {side : Side} {k : Nat} {e : PumpEvent}
    {s s' : Stream} {r : Endpoint × Option (Nat × List UInt8)} (other : id ≠ k)
    (found : (x.ep side).streams k = some s) (moved : PumpStep (x.ep side).geometry s e s' r.2)
    (touches : Endpoint.Touches k (x.ep side) r.1) (tidy : (x.pumps side k e r).Tidy) :
    Sound id (x.pumps side k e r) ∧ ∀ side', (x.WholeAt id side' ↔
      (x.pumps side k e r).WholeAt id side') := by
  obtain ⟨-, word, entry⟩ := sound.tidy.tables side k s found
  have unnamed : ∀ p ∈ r.2.map fun out => (⟨out.1, out.2, x.client side k⟩ : Packet),
      ¬Names id p := by
    intro p posted named
    obtain ⟨o, emitted, rfl⟩ := Option.map_eq_some_iff.mp posted
    obtain ⟨syn, data⟩ := (entry.pump moved).2 o emitted
    exact other (named.2.symm.trans (data.names word))
  refine sound.elsewhere tidy (setup_setEp touches.setup) ?_ ?_ (fun _ => rfl)
    (numbersOf_posts unnamed) ?_
  · refine forall_side side ?_ ?_
    · simp only [stream, pumps, posts_ep, reads, setEp_ep, update_self]
      exact touches.others id other
    · simp [stream, pumps, reads]
  · intro side'
    rcases eq_or_ne side' side with rfl | same
    · simp [pumps, reads, update_of_ne other]
    · simp [pumps, reads, update_of_ne same]
  · intro side' p mem named
    rcases mem_posts mem with old | ⟨new, -⟩
    · exact old
    · exact absurd named (unnamed p new)

theorem Sound.lose {side : Side} {i : Nat} {p : Packet}
    (found : (x.wire side)[i]? = some p) (tidy : (x.takes side i).Tidy) :
    Sound id (x.takes side i) ∧ ∀ other,
      (x.WholeAt id other ∧ ¬Loses id other x (.lose side i) ↔
        (x.takes side i).WholeAt id other) := by
  have lost : Loses id side.peer x (.lose side i) ↔ Names id p := by
    simp [Loses, found]
  have kept : ¬Loses id side x (.lose side i) := by
    simp [Loses]
  by_cases named : Names id p
  · obtain ⟨far, broken⟩ := ((flowAt_peer side).mp (sound.flow side.peer)).lose
      (numbersOf_erase found named)
    have wireNear : (x.takes side i).wire side = (x.wire side).eraseIdx i := by simp
    have wireFar : (x.takes side i).wire side.peer = x.wire side.peer := by simp
    constructor
    · apply sound.assemble side tidy (fun _ => .refl _) sound.known
      · rw [flight, wireFar]
        exact sound.flow side
      · rwa [wireNear]
      · rw [wireFar]
        exact sound.carried side
      · intro q mem
        exact sound.carried side.peer q (by rw [Side.peer_peer]; exact mem_takes mem)
      · exact ⟨sound.word side, sound.word side.peer⟩
    · refine forall_side side ?_ ?_
      · simp only [kept, not_false_eq_true, and_true]
        rw [WholeAt, WholeAt, flight, flight, wireFar]
        rfl
      · simp only [lost, named, not_true_eq_false, and_false, false_iff]
        rwa [wholeAt_peer, wireNear]
  · have numbers : ∀ other, numbersOf id ((x.takes side i).wire other) =
        numbersOf id (x.wire other) := by
      refine forall_side side ?_ ?_
      · simpa using numbersOf_erase_unnamed found named
      · simp
    obtain ⟨sound', whole⟩ := sound.elsewhere tidy (fun _ => .refl _) (fun _ => rfl) (fun _ => rfl)
      (fun _ => rfl) numbers (fun _ _ mem _ => mem_takes mem)
    refine ⟨sound', forall_side side ?_ ?_⟩
    · simpa [kept] using whole side
    · simpa [lost, named] using whole side.peer

theorem Sound.step {e : Event} (answered : Answered id x e)
    (numbered : Numbered id x e) (moved : Step x e x') :
    Sound id x' ∧ ∀ side, (x.WholeAt id side ∧ ¬Loses id side x e ↔ x'.WholeAt id side) := by
  have tidy := sound.tidy.step moved
  cases moved with
  | accept accepted => simpa [Loses] using sound.accepts accepted tidy
  | @pump side k e s s' r found moved stored touches =>
    rcases eq_or_ne id k with rfl | same
    · exact sound.pumpAt found moved stored touches (numbered rfl) tidy
    · simpa [Loses, Ne.symm same] using sound.pumpElsewhere same found moved touches tidy
  | deliver found => simpa [Loses] using sound.deliver found answered tidy
  | @cm side e =>
    have setup : Endpoint.SameSetup (x.ep side) { x.ep side with qps := (x.ep side).qps.cm e } :=
      ⟨rfl, rfl, (x.ep side).qps.isInitiator_cm e⟩
    have streams : ∀ other, (x.setEp side { x.ep side with
        qps := (x.ep side).qps.cm e }).stream other id = x.stream other id :=
      forall_side side (by simp [stream]) (by simp [stream])
    simpa [Loses] using sound.elsewhere tidy (setup_setEp setup) streams (fun _ => rfl)
      (fun _ => rfl) (fun _ => rfl) fun _ _ mem _ => mem
  | linkDown | linkUp =>
    simpa [Loses] using sound.elsewhere tidy (fun _ => .refl _) (fun _ => rfl) (fun _ => rfl)
      (fun _ => rfl) (fun _ => rfl) fun _ _ mem _ => mem
  | lose found => exact sound.lose found tidy

end

end Step

/-! ## Whole runs -/

theorem tidy_new (c : Config) : (new c).Tidy where
  odd := rfl
  word := show 1 < 2 ^ 32 by decide
  tables side k s found := by cases found
  frames side p mem := by cases mem

theorem sound_new (id : Nat) (c : Config) : Sound id (new c) where
  tidy := tidy_new c
  initiator := rfl
  acceptor := ⟨rfl, rfl⟩
  known _ := rfl
  flow _ := flow_none _ _ id
  carried side p mem := by cases mem
  word _ := Nat.zero_le _

theorem wholeAt_new (id : Nat) (c : Config) (side : Side) : (new c).WholeAt id side := by
  simp [WholeAt, FlowWhole, Whole, new]

def Handled (id : Nat) (x : Proxy) (e : Event) : Prop := Answered id x e ∧ Numbered id x e

def Lossless (id : Nat) (x : Proxy) (e : Event) : Prop :=
  Answered id x e ∧ ∀ side, ¬Loses id side x e

variable {id : Nat} {x : Proxy}

variable {es : List Event}

theorem sound_of_run {c : Config} (handled : Along step (Handled id) (new c) es)
    (reached : run step (new c) es = some x) : Sound id x :=
  run_preserves (fun _ _ _ sound allowed moved =>
    (sound.step allowed.1 allowed.2 (step_sound moved)).1) (sound_new id c) handled reached

theorem wholeAt_iff {c : Config} (side : Side)
    (handled : Along step (Handled id) (new c) es) (reached : run step (new c) es = some x) :
    x.WholeAt id side ↔ Along step (fun x e => ¬Loses id side x e) (new c) es := by
  have exact := run_iff (A := fun x e => ¬Loses id side x e)
    (fun _ _ _ (sound : Sound id _) allowed moved =>
      (sound.step allowed.1 allowed.2 (step_sound moved)).1)
    (fun _ _ _ (sound : Sound id _) allowed moved =>
      (sound.step allowed.1 allowed.2 (step_sound moved)).2 side)
    (sound_new id c) handled reached
  rw [← exact]
  exact and_iff_right (wholeAt_new id c side)

/-! ## What the sockets hold -/

def written (x : Proxy) (side : Side) (id : Nat) : List UInt8 := writtenTo (x.stream side id)

def Settled (x : Proxy) (side : Side) (id : Nat) : Prop :=
  (x.stream side id).any Stream.holding = false ∧ ∀ p ∈ x.wire side.peer, ¬Names id p

instance (x : Proxy) (side : Side) (id : Nat) : Decidable (x.Settled side id) :=
  inferInstanceAs (Decidable (_ ∧ _))

def Closed (x : Proxy) (side : Side) (id : Nat) : Prop :=
  ((x.stream side id).bind Stream.udsSock).all Socket.shutWr = true

instance (x : Proxy) (side : Side) (id : Nat) : Decidable (x.Closed side id) :=
  inferInstanceAs (Decidable (_ = true))

theorem Settled.nothing_pending {side : Side} (settled : x.Settled side id) :
    heldNumbers (x.stream side id) (x.read side id) ++ x.flight side id = [] := by
  have flight : x.flight side id = [] := by
    apply List.filterMap_eq_nil_iff.mpr
    intro p mem
    simp [settled.2 p mem]
  simp [heldNumbers, settled.1, flight]

section Sound

variable {x : Proxy} {id : Nat}

theorem Sound.inOrder (sound : Sound id x) (side : Side) :
    x.written side.peer id <+: (x.read side id).flatten :=
  (sound.flow side).inOrder

variable {side : Side}

theorem Sound.complete_iff (sound : Sound id x) (settled : x.Settled side id) :
    x.written side.peer id = (x.read side id).flatten ↔ x.WholeAt id side :=
  (sound.flow side).complete_iff (sound.word side) settled.nothing_pending

theorem Sound.drained (sound : Sound id x) {r : Stream} (settled : x.Settled side id)
    (whole : x.WholeAt id side) (found : x.stream side.peer id = some r) :
    r.reorder.nextExpected = min (x.read side id).length u64Max ∧ r.reorder.pendingCount = 0 ∧
      r.reorder.drained = [] := by
  obtain ⟨c, receiving⟩ := (sound.flow side).receiving r found
  have steady := receiving.steady trivial
  have all : ∀ k < (x.read side id).length, k ∈ x.came side.peer id := by
    intro k below
    refine (whole k below).resolve_left ?_
    rw [settled.nothing_pending]
    exact List.not_mem_nil
  have complete := receiving.tracks.complete steady.toTight (sound.word side) all
  have empty : r.reorder.pending.nodes = [] := by
    apply List.eq_nil_iff_forall_not_mem.mpr
    intro n pending
    have ahead := receiving.tracks.notBehind n pending
    have below := receiving.tracks.seq_lt pending
    omega
  refine ⟨complete ▸ receiving.tracks.next, ?_, receiving.idle⟩
  rw [receiving.counted.pending, OrderedTree.size, empty]
  rfl

theorem Sound.not_closed (sound : Sound id x) (sends : x.read side id ≠ []) :
    ¬x.Closed side id := by
  cases found : x.stream side id with
  | none => exact absurd ((sound.flow side).unsent found) sends
  | some s =>
    have back := (flowAt_peer side).mp (sound.flow side.peer)
    obtain ⟨c, receiving⟩ := back.receiving s found
    obtain ⟨uds, socket, writable, -⟩ := receiving.socket
    simp [Closed, found, socket, writable]

end Sound

end Urp.Proxy
