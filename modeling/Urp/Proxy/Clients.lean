import Urp.Proxy.Rounds

/-!
# Whose bytes reach whom

Histories of the pair in which the initiator endpoint is removed and added again while the
acceptor stays up.
-/

namespace Urp.Proxy

open Urp.Lib Urp.Reorder Urp.Frame Urp.Rx Urp.Tx List Option
open Function (update update_of_ne update_self)

def restarts (x : Proxy) (settings : Settings) (numQps : Nat) : Proxy :=
  { x with
    ep := update x.ep .initiator (Endpoint.init settings true numQps)
    wire := update x.wire .initiator []
    up := fun _ => false
    read := update x.read .initiator fun _ => []
    came := update x.came .initiator fun _ => [] }

inductive HistoryEvent where
  | pair (e : Event)
  | restart (settings : Settings) (numQps : Nat)

def historyStep (x : Proxy) : HistoryEvent → Option Proxy
  | .pair e => step x e
  | .restart settings numQps => some (x.restarts settings numQps)

def Fresh (x : Proxy) : HistoryEvent → Prop
  | .pair (.accept _ _) => x.stream .initiator (x.ep .initiator).nextStreamId = none →
    x.stream .acceptor (x.ep .initiator).nextStreamId = none ∧
      ∀ p ∈ x.wire .acceptor, ¬Names (x.ep .initiator).nextStreamId p
  | _ => True

/-! ## Where streams and frames come from -/

variable {s s' : Stream} {r : Endpoint × Option (Nat × List UInt8)}

section Origin

variable {x x' : Proxy} {e : Event}

variable {id : Nat}

theorem recvDone_isSome {ep : Endpoint} {wire : List UInt8} (frame : FrameOf id wire)
    (id_pos : id ≠ 0) (word : id < 2 ^ 32) (table : TidyTable ep) (a : Answers) (qp k : Nat) :
    ((ep.streams k).isSome = true → ((ep.recvDone a qp wire).1.streams k).isSome = true) ∧
      (((ep.recvDone a qp wire).1.streams k).isSome = true →
        (ep.streams k).isSome = true ∨ k = id ∧ wireType wire = typeData) := by
  rcases eq_or_ne k id with rfl | same
  · rcases frame with ⟨syn, data⟩ | control
    · refine ⟨fun known => ?_, fun _ => .inr ⟨rfl, data.type⟩⟩
      rcases Endpoint.recvDone_data data id_pos word a ep qp
        with ⟨-, ignored⟩ | ⟨-, dec, -, received⟩
      · rwa [ignored]
      · generalize ep.recvDone a qp wire = result at received ⊢
        cases received with
        | dropped => exact known
        | unopened => simp
        | delivered _ _ _ stored => simp [stored]
    · obtain ⟨-, ignored | ⟨s, dec, found, stored⟩⟩ :=
        Endpoint.recvDone_control control id_pos word a ep qp
      · rw [ignored]
        exact ⟨fun known => known, .inl⟩
      · simp [stored, found]
  · rw [(recvDone_tidy frame id_pos word table a qp).1.others k same]
    exact ⟨fun known => known, .inl⟩

variable {side : Side}

theorem pumps_isSome {e : PumpEvent} (found : (x.ep side).streams id = some s)
    (stored : r.1.streams id = some s') (touches : Endpoint.Touches id (x.ep side) r.1)
    (other : Side) (k : Nat) :
    ((x.pumps side id e r).stream other k).isSome = (x.stream other k).isSome := by
  rcases Side.eq_or_peer side other with rfl | rfl
  · rw [stream, stream, pumps_ep, update_self]
    rcases eq_or_ne k id with rfl | here
    · rw [stored, found]
      rfl
    · rw [touches.others k here]
  · simp [stream]

variable {p : Packet}

theorem pumps_posted (tidy : x.Tidy) {e : PumpEvent} (found : (x.ep side).streams id = some s)
    (moved : PumpStep (x.ep side).geometry s e s' r.2) {other : Side}
    (mem : p ∈ (x.pumps side id e r).wire other) : p ∈ x.wire other ∨
      other = side.peer ∧ p.client = x.client side id ∧ ∀ k, Names k p → k = id := by
  obtain ⟨-, word, entry⟩ := tidy.tables side id s found
  rcases mem_posts mem with old | ⟨new, rfl⟩
  · exact .inl old
  · obtain ⟨o, emitted, rfl⟩ := map_eq_some_iff.mp new
    obtain ⟨syn, data⟩ := (entry.pump moved).2 o emitted
    exact .inr ⟨rfl, rfl, fun k named => named.2.symm.trans (data.names word)⟩

theorem receives_isSome (tidy : x.Tidy) {i : Nat} {a : Answers}
    (found : (x.wire side)[i]? = some p) (other : Side) (k : Nat) :
    ((x.stream other k).isSome = true → ((x.receives side i a p).stream other k).isSome = true) ∧
      (((x.receives side i a p).stream other k).isSome = true →
        (x.stream other k).isSome = true ∨ other = side ∧ Names k p) := by
  obtain ⟨id, id_pos, word, frame⟩ := tidy.frames side p (mem_of_getElem? found)
  rcases Side.eq_or_peer side other with rfl | rfl
  · obtain ⟨keeps, grows⟩ := recvDone_isSome frame id_pos word (tidy.tables other) a p.qp k
    rw [stream, stream, receives_ep, update_self]
    refine ⟨keeps, fun known => (grows known).imp_right ?_⟩
    rintro ⟨rfl, data⟩
    exact ⟨rfl, data, frame.names word⟩
  · have same : (x.receives side i a p).stream side.peer k = x.stream side.peer k := by
      simp [stream, receives_ep]
    rw [same]
    exact ⟨fun known => known, .inl⟩

variable {k : Nat}

theorem receives_posted (tidy : x.Tidy) {i : Nat} {a : Answers} {q : Packet}
    (found : (x.wire side)[i]? = some p) {other : Side}
    (mem : q ∈ (x.receives side i a p).wire other) (named : Names k q) : q ∈ x.wire other := by
  obtain ⟨id, id_pos, word, frame⟩ := tidy.frames side p (mem_of_getElem? found)
  obtain ⟨-, -, control⟩ := recvDone_tidy frame id_pos word (tidy.tables side) a p.qp
  exact (receives_wire k i control).2.2 other q mem named

theorem setEp_cm_stream (side other : Side) (e : CmEvent) (k : Nat) :
    (x.setEp side { x.ep side with qps := (x.ep side).qps.cm e }).stream other k =
      x.stream other k := by
  rcases Side.eq_or_peer side other with rfl | rfl <;> simp [stream]

theorem Step.keeps (moved : Step x e x') (tidy : x.Tidy) (side : Side) (k : Nat)
    (known : (x.stream side k).isSome = true) : (x'.stream side k).isSome = true := by
  cases moved with
  | accept accepted =>
    cases accepted with
    | refused => cases side <;> exact known
    | served absent =>
      cases side with
      | acceptor => exact known
      | initiator =>
        by_cases same : k = (x.ep .initiator).nextStreamId
        · simp [stream, accepts, same]
        · simpa [stream, accepts, same] using known
  | pump found moved stored touches => rwa [pumps_isSome found stored touches]
  | deliver found => exact (receives_isSome tidy found side k).1 known
  | cm => rwa [setEp_cm_stream]
  | linkDown | linkUp | lose => exact known

theorem Step.made (moved : Step x e x') (tidy : x.Tidy)
    (known : (x'.stream .acceptor k).isSome = true) :
    (x.stream .acceptor k).isSome = true ∨ ∃ p ∈ x.wire .acceptor, Names k p := by
  cases moved with
  | accept => exact .inl known
  | pump found moved stored touches =>
    rw [pumps_isSome found stored touches] at known
    exact .inl known
  | deliver found =>
    refine ((receives_isSome tidy found .acceptor k).2 known).imp_right ?_
    rintro ⟨rfl, named⟩
    exact ⟨_, mem_of_getElem? found, named⟩
  | cm =>
    rw [setEp_cm_stream] at known
    exact .inl known
  | linkDown | linkUp | lose => exact .inl known

theorem Step.sent (moved : Step x e x') (tidy : x.Tidy)
    (mem : p ∈ x'.wire side) (named : Names k p) :
    p ∈ x.wire side ∨ (x.stream side.peer k).isSome = true := by
  cases moved with
  | accept | cm | linkDown | linkUp => exact .inl mem
  | @pump sender id e s s' r found moved stored touches =>
    refine (pumps_posted tidy found moved mem).imp_right ?_
    rintro ⟨rfl, -, names⟩
    rw [names k named, Side.peer_peer, stream, found]
    rfl
  | deliver found => exact .inl (receives_posted tidy found mem named)
  | lose => exact .inl (mem_takes mem)

end Origin

structure Owned (owner : Nat → Nat) (x : Proxy) : Prop where
  tidy : x.Tidy
  streams : ∀ side k, (x.stream side k).isSome = true → x.client side k = owner k
  frames : ∀ side, ∀ p ∈ x.wire side, ∀ k, Names k p → p.client = owner k
  answered : ∀ p ∈ x.wire .initiator, ∀ k, Names k p → (x.stream .acceptor k).isSome = true
  matched : ∀ m ∈ x.matched, m.1 = m.2

theorem owned_new (c : Config) : Owned (fun _ => 0) (new c) where
  tidy := tidy_new c
  streams side k known := by cases known
  frames side p mem := by cases mem
  answered p mem := by cases mem
  matched m mem := by cases mem

variable {x : Proxy}

theorem Owned.stillAnswered {x' : Proxy} {owner : Nat → Nat} {e : Event}
    (owned : Owned owner x) (moved : Step x e x') :
    ∀ p ∈ x'.wire .initiator, ∀ k, Names k p → (x'.stream .acceptor k).isSome = true := by
  intro p mem k named
  apply moved.keeps owned.tidy
  rcases moved.sent owned.tidy mem named with old | known
  · exact owned.answered p old k named
  · exact known

/-! ## A frame that comes -/

section Receives

variable {x : Proxy} {owner : Nat → Nat} {side : Side} {i : Nat} {a : Answers} {p : Packet}

theorem receives_client (other : Side) (k : Nat) : (x.receives side i a p).client other k =
    if wireType p.wire = typeData ∧ other = side ∧ k = wireId p.wire ∧ x.stream side k = none then
      p.client
    else x.client other k := by
  have met : (x.receives side i a p).client =
      if wireType p.wire = typeData ∧ ((x.ep side).streams (wireId p.wire)).isNone then
        update x.client side (update (x.client side) (wireId p.wire) p.client)
      else x.client := rfl
  rw [met]
  by_cases data : wireType p.wire = typeData ∧ ((x.ep side).streams (wireId p.wire)).isNone = true
  · rcases eq_or_ne other side with rfl | here
    · by_cases same : k = wireId p.wire
      · subst same
        have absent : x.stream other (wireId p.wire) = none := isNone_iff_eq_none.mp data.2
        simp [data, absent]
      · simp [data, same]
    · simp [data, here]
  · have known : ¬(wireType p.wire = typeData ∧ other = side ∧ k = wireId p.wire ∧
        x.stream side k = none) := by
      rintro ⟨type, rfl, rfl, absent⟩
      exact data ⟨type, isNone_iff_eq_none.mpr absent⟩
    rw [if_neg data, if_neg known]

theorem receives_matched : (x.receives side i a p).matched =
    if wireType p.wire = typeData ∧ (x.stream side (wireId p.wire)).isSome then
      x.matched ++ [(p.client, x.client side (wireId p.wire))]
    else x.matched := rfl

theorem Owned.receives (owned : Owned owner x) (found : (x.wire side)[i]? = some p)
    (moved : Step x (.deliver side i a) (x.receives side i a p)) :
    Owned owner (x.receives side i a p) := by
  have mem := mem_of_getElem? found
  refine ⟨owned.tidy.step moved, ?_, ?_, owned.stillAnswered moved, ?_⟩
  · intro other k known
    rw [receives_client]
    split
    · rename_i made
      obtain ⟨data, -, rfl, -⟩ := made
      exact owned.frames side p mem _ ⟨data, rfl⟩
    · rename_i kept
      apply owned.streams other k
      rcases (receives_isSome owned.tidy found other k).2 known with old | ⟨rfl, named⟩
      · exact old
      · by_contra absent
        exact kept ⟨named.1, rfl, named.2.symm, by simpa using absent⟩
  · intro other q new k named
    exact owned.frames other q (receives_posted owned.tidy found new named) k named
  · intro m new
    rw [receives_matched] at new
    split at new
    · rename_i met
      rcases mem_append.mp new with old | new
      · exact owned.matched m old
      · obtain rfl := mem_singleton.mp new
        rw [owned.frames side p mem _ ⟨met.1, rfl⟩, owned.streams side _ met.2]
    · exact owned.matched m new

end Receives

/-! ## The other steps -/

section Steps

variable {x x' : Proxy} {owner : Nat → Nat}

section

variable (owned : Owned owner x)
include owned

theorem Owned.narrows (tidy : x'.Tidy) (streams : ∀ side k, x'.stream side k = x.stream side k)
    (wires : ∀ side, ∀ p ∈ x'.wire side, p ∈ x.wire side) (client : x'.client = x.client)
    (matched : x'.matched = x.matched) : Owned owner x' where
  tidy := tidy
  streams side k known := by
    rw [streams] at known
    rw [client]
    exact owned.streams side k known
  frames side p mem := owned.frames side p (wires side p mem)
  answered p mem k named := by
    rw [streams]
    exact owned.answered p (wires .initiator p mem) k named
  matched := matched ▸ owned.matched

theorem Owned.accepts {a : Creation} {r : Endpoint × Option Nat}
    (accepted : Endpoint.Accepted a (x.ep .initiator) r) (thread : Bool)
    (fresh : x.Fresh (.pair (.accept a thread))) (tidy : (x.accepts r).Tidy) :
    ∃ owner', Owned owner' (x.accepts r) := by
  cases accepted with
  | refused =>
    exact ⟨owner, owned.narrows tidy (fun side _ => by cases side <;> rfl) (fun _ _ mem => mem)
      rfl rfl⟩
  | served absent =>
    generalize new : (x.ep .initiator).nextStreamId = id at *
    obtain ⟨unused, unsent⟩ : x.stream .acceptor id = none ∧ ∀ p ∈ x.wire .acceptor,
        ¬Names id p := new ▸ fresh (new ▸ absent)
    have named_ne : ∀ side, ∀ p ∈ x.wire side, ∀ k, Names k p → k ≠ id := by
      rintro side p mem k named rfl
      cases side with
      | acceptor => exact unsent p mem named
      | initiator =>
        have known := owned.answered p mem k named
        rw [unused] at known
        cases known
    refine ⟨update owner id x.clients, tidy, ?_, ?_, ?_, owned.matched⟩
    · refine forall_side .initiator ?_ ?_
      · intro k known
        change update (x.client .initiator) id x.clients k = _
        rcases eq_or_ne k id with rfl | same
        · rw [update_self, update_self]
        · rw [update_of_ne same, update_of_ne same]
          apply owned.streams .initiator k
          simpa [stream, Proxy.accepts, same] using known
      · intro k known
        have same : k ≠ id := by
          rintro rfl
          rw [show (x.accepts _).stream Side.initiator.peer k = none from unused] at known
          cases known
        rw [update_of_ne same]
        exact owned.streams .acceptor k known
    · intro side p mem k named
      rw [update_of_ne (named_ne side p mem k named)]
      exact owned.frames side p mem k named
    · exact owned.answered

theorem Owned.pumps {side : Side} {id : Nat} {e : PumpEvent}
    (found : (x.ep side).streams id = some s) (pumped : PumpStep (x.ep side).geometry s e s' r.2)
    (stored : r.1.streams id = some s') (touches : Endpoint.Touches id (x.ep side) r.1)
    (moved : Step x (.pump side id e) (x.pumps side id e r)) :
    Owned owner (x.pumps side id e r) := by
  have known : (x.stream side id).isSome = true := by rw [stream, found]; rfl
  refine ⟨owned.tidy.step moved, ?_, ?_, owned.stillAnswered moved, owned.matched⟩
  · intro other k there
    rw [pumps_isSome found stored touches] at there
    exact owned.streams other k there
  · intro other p mem k named
    rcases pumps_posted owned.tidy found pumped mem with old | ⟨-, client, names⟩
    · exact owned.frames other p old k named
    · rw [names k named, client]
      exact owned.streams side id known

theorem Owned.step {e : Event} (fresh : x.Fresh (.pair e))
    (moved : Step x e x') : ∃ owner', Owned owner' x' := by
  have tidy := owned.tidy.step moved
  cases moved with
  | accept accepted => exact owned.accepts accepted _ fresh tidy
  | pump found pumped stored touches =>
    exact ⟨owner, owned.pumps found pumped stored touches (.pump found pumped stored touches)⟩
  | deliver found first => exact ⟨owner, owned.receives found (.deliver found first)⟩
  | @cm side e =>
    exact ⟨owner, owned.narrows tidy (fun other k => setEp_cm_stream side other e k)
      (fun _ _ mem => mem) rfl rfl⟩
  | linkDown | linkUp =>
    exact ⟨owner, owned.narrows tidy (fun _ _ => rfl) (fun _ _ mem => mem) rfl rfl⟩
  | lose =>
    exact ⟨owner, owned.narrows tidy (fun _ _ => rfl) (fun _ _ mem => mem_takes mem) rfl rfl⟩

omit owned in
theorem Tidy.restarts (tidy : x.Tidy) (settings : Settings) (numQps : Nat) :
    (x.restarts settings numQps).Tidy where
  odd := rfl
  word := show 1 < 2 ^ 32 by decide
  tables := forall_side .initiator (fun k s found => by cases found) (tidy.tables .acceptor)
  frames := forall_side .initiator (fun p mem => by cases mem) (tidy.frames .acceptor)

theorem Owned.restarts (settings : Settings) (numQps : Nat) :
    Owned owner (x.restarts settings numQps) where
  tidy := owned.tidy.restarts settings numQps
  streams := forall_side .initiator (fun k known => by cases known) (owned.streams .acceptor)
  frames := forall_side .initiator (fun p mem => by cases mem) (owned.frames .acceptor)
  answered p mem := by cases mem
  matched := owned.matched

theorem Owned.historyStep {e : HistoryEvent} (fresh : x.Fresh e)
    (moved : Proxy.historyStep x e = some x') : ∃ owner', Owned owner' x' := by
  cases e with
  | pair e => exact owned.step fresh (step_sound moved)
  | restart settings numQps =>
    cases moved
    exact ⟨owner, owned.restarts settings numQps⟩

end

end Steps

/-! ## Histories without a restart -/

structure Rooted (x : Proxy) : Prop where
  tidy : x.Tidy
  streams : ∀ k, (x.stream .acceptor k).isSome = true → (x.stream .initiator k).isSome = true
  frames : ∀ p ∈ x.wire .acceptor, ∀ k, Names k p → (x.stream .initiator k).isSome = true

theorem rooted_new (c : Config) : Rooted (new c) where
  tidy := tidy_new c
  streams k known := by cases known
  frames p mem := by cases mem

theorem Rooted.step {x' : Proxy} {e : Event} (rooted : Rooted x) (moved : Step x e x') :
    Rooted x' where
  tidy := rooted.tidy.step moved
  streams k known := by
    apply moved.keeps rooted.tidy
    rcases moved.made rooted.tidy known with old | ⟨p, mem, named⟩
    · exact rooted.streams k old
    · exact rooted.frames p mem k named
  frames p mem k named := by
    apply moved.keeps rooted.tidy
    rcases moved.sent rooted.tidy mem named with old | known
    · exact rooted.frames p old k named
    · exact known

theorem Rooted.fresh (rooted : Rooted x) (e : HistoryEvent) : x.Fresh e := by
  cases e with
  | restart => trivial
  | pair e =>
    cases e with
    | accept a thread =>
      intro absent
      have unknown : ¬(x.stream .initiator (x.ep .initiator).nextStreamId).isSome = true := by
        simp [absent]
      constructor
      · by_contra known
        exact unknown (rooted.streams _ (isSome_iff_ne_none.mpr known))
      · intro p mem named
        exact unknown (rooted.frames p mem _ named)
    | pump | deliver | cm | linkDown | linkUp | lose => trivial

theorem fresh_of_no_restart (rooted : Rooted x) {es : List HistoryEvent}
    (noRestart : ∀ e ∈ es, ∃ e', e = .pair e') : Along historyStep Fresh x es := by
  induction es generalizing x with
  | nil => trivial
  | cons e es ih =>
    refine ⟨rooted.fresh e, fun x' moved => ih ?_ fun e mem => noRestart e (mem_cons_of_mem _ mem)⟩
    obtain ⟨e', rfl⟩ := noRestart e mem_cons_self
    exact rooted.step (step_sound moved)

/-! ## Whole histories -/

/-- If each client that is accepted gets an id that is not in use, which no restart at all
ensures, no frame of one client ever meets the stream of another. -/
theorem clients_kept_apart {c : Config} {es : List HistoryEvent} {x : Proxy}
    (reached : run historyStep (new c) es = some x)
    (apart : Along historyStep Fresh (new c) es ∨ ∀ e ∈ es, ∃ e', e = .pair e') :
    ∀ m ∈ x.matched, m.1 = m.2 := by
  have fresh : Along historyStep Fresh (new c) es :=
    apart.elim (fun fresh => fresh) (fresh_of_no_restart (rooted_new c))
  obtain ⟨owner, owned⟩ := run_preserves (P := fun x => ∃ owner, Owned owner x)
    (fun _ _ _ ⟨_, owned⟩ fresh moved => owned.historyStep fresh moved)
    ⟨_, owned_new c⟩ fresh reached
  exact owned.matched

def sameClientRun : List HistoryEvent :=
  (opening ++ round ++ [Event.linkDown 0] ++ reconnecting ++ round).map .pair

theorem clients_kept_apart_reconnect :
    ∃ x, run historyStep (new smallPair) sameClientRun = some x ∧ x.matched ≠ [] ∧
      ∀ m ∈ x.matched, m.1 = m.2 := by
  obtain ⟨x, reached, met⟩ : ∃ x, run historyStep (new smallPair) sameClientRun = some x ∧
      x.matched ≠ [] := by decide +kernel
  refine ⟨x, reached, met, clients_kept_apart reached (.inr ?_)⟩
  intro e mem
  obtain ⟨e', -, rfl⟩ := mem_map.mp mem
  exact ⟨e', rfl⟩

def answeringByte : List Event :=
  [.pump .acceptor 1 (.read (plainRead 1) (some 0)), .pump .acceptor 1 (.post false false true),
    .deliver .initiator 0 answering]

def restartRun : List HistoryEvent :=
  (opening ++ round).map .pair ++ [.restart smallSettings 1] ++
    (Event.cm .acceptor (.down 0 5) :: opening ++ round ++ answeringByte).map .pair

theorem backend_of_first_client_reaches_second :
    ∃ x, run historyStep (new smallPair) restartRun = some x ∧
      x.matched = [(1, 0), (0, 1)] ∧ x.written .initiator 1 = [0] := by
  decide +kernel

end Urp.Proxy
