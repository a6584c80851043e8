import Urp.Endpoint.Inversion
import Urp.Lib.Run

/-!
# Stream numbers

An endpoint numbers the streams of its own clients: odd numbers on an initiator, even ones on an
acceptor.
-/

namespace Urp

open Urp.Lib Urp.Frame Urp.Window Urp.Rx Urp.Tx Option

namespace Endpoint

/-! ## What a frame does to the table -/

def dataFrame (a : Answers) (ep : Endpoint) (wire : List UInt8) : Option (Nat × UInt8) :=
  if wire.length ≤ ep.geometry.bufSize then
    match classifyFrame wire.length (landing ep.geometry a.mem wire 0) with
    | (.deliverStream, dec) => some (dec.streamId, dec.flags)
    | _ => none
  else none

theorem streamId_ne_zero {byteLen : Nat} {hdr : Nat → UInt8} {dec : RxDecoded}
    (stream : classifyFrame byteLen hdr = (.deliverStream, dec)) : dec.streamId ≠ 0 := by
  cases classified_of_eq stream with
  | deliverStream _ named => exact named

variable {ep : Endpoint} {id : Nat}

theorem rxSyn_touches (a : Creation) (ep : Endpoint) (id_pos : id ≠ 0) :
    Touches id ep (ep.rxSyn a id).1 := by
  unfold rxSyn
  cases found : ep.streams id with
  | some s =>
    dsimp only
    split
    · exact touches_put (Touches.refl id ep) _
    · exact Touches.refl id ep
  | none =>
    rcases streamCreate_absent a found id_pos with ⟨e, failed, -⟩ | created
    · simp only [failed]
      exact Touches.refl id ep
    · simp only [created, put_put]
      exact touches_put (Touches.refl id ep) _

theorem rxFind_touches (a : Creation) (ep : Endpoint) (flags : UInt8) (id_pos : id ≠ 0) :
    Touches id ep (ep.rxFind a id flags).1 := by
  unfold rxFind
  split
  · exact rxSyn_touches a ep id_pos
  · split
    · exact Touches.refl id ep
    · split
      · exact Touches.refl id ep
      · exact rxSyn_touches a ep id_pos

theorem rxDispatch_touches (a : Creation) (ep : Endpoint) (flags : UInt8) (id_pos : id ≠ 0) :
    Touches id ep (ep.rxDispatch a id flags).1 := by
  have first := rxFind_touches a ep flags id_pos
  rw [rxDispatch]
  split
  · rename_i after e found
    rwa [found] at first
  · rename_i after s found
    rw [found] at first
    split
    · exact touches_put first none
    · split
      · exact touches_put first _
      · exact first

theorem receiveStream_touches (a : Answers) (ep : Endpoint) (qp : Nat) (slot : Memory)
    {dec : RxDecoded} (id_pos : dec.streamId ≠ 0) :
    Touches dec.streamId ep (ep.receiveStream a qp slot dec).1 := by
  have dispatched := rxDispatch_touches a.creation ep dec.flags id_pos
  unfold receiveStream
  split
  · rename_i after s found
    rw [found] at dispatched
    dsimp only
    generalize (if after.needsBackend s then openBackend a s else s) = opened
    split
    · split
      · split
        · exact touches_put dispatched _
        · exact (grantFrames_touches (touches_put dispatched _) qp).1
      · exact touches_put dispatched _
    · exact touches_put dispatched _
  · rename_i after other found
    rwa [found] at dispatched

theorem recvDone_streams (a : Answers) (ep : Endpoint) (qp : Nat) (wire : List UInt8) :
    (ep.recvDone a qp wire).1.nextStreamId = ep.nextStreamId ∧
      ∀ id, ((ep.recvDone a qp wire).1.streams id).isSome = true →
        (ep.streams id).isSome = true ∨ ∃ flags, ep.dataFrame a wire = some (id, flags) := by
  unfold recvDone dataFrame
  by_cases length : wire.length ≤ ep.geometry.bufSize
  · simp only [if_pos length]
    split
    · rename_i dec classified
      have touches := receiveStream_touches a ep qp (landing ep.geometry a.mem wire)
        (streamId_ne_zero classified)
      refine ⟨touches.nextStreamId, fun id present => ?_⟩
      by_cases named : id = dec.streamId
      · exact .inr ⟨dec.flags, by rw [classified, named]⟩
      · rw [touches.others id named] at present
        exact .inl present
    · rename_i dec classified
      simp only [receiveControl]
      split
      · split <;> exact ⟨rfl, fun id present => .inl present⟩
      · split
        · exact ⟨rfl, fun id present => .inl present⟩
        · rename_i s found
          refine ⟨rfl, fun id present => .inl ?_⟩
          by_cases named : id = dec.streamId
          · rw [named, found]
            rfl
          · rwa [put_streams, Function.update_of_ne named] at present
    · exact ⟨rfl, fun id present => .inl present⟩
  · simp only [if_neg length]
    exact ⟨trivial, fun id present => .inl present⟩

theorem acceptClient_nextStreamId (a : Creation) (thread : Bool) (ep : Endpoint) :
    (ep.acceptClient a thread).1.nextStreamId =
      if a.record then wrap32 (ep.nextStreamId + 2) else ep.nextStreamId := by
  cases record : a.record with
  | false => simp [acceptClient, streamCreate, record]
  | true =>
    cases buffer : a.buffer with
    | false => simp [acceptClient, streamCreate, record, buffer, nextId]
    | true =>
      cases found : ep.streams ep.nextStreamId with
      | some s =>
        simp [acceptClient, streamCreate, record, buffer, nextId, Stream.create_eq, found]
      | none =>
        cases thread <;>
          simp [acceptClient, streamCreate, record, buffer, nextId, Stream.create_eq, found, put]

theorem acceptClient_streams (a : Creation) (thread : Bool) (ep : Endpoint) (id : Nat)
    (present : ((ep.acceptClient a thread).1.streams id).isSome = true) :
    (ep.streams id).isSome = true ∨ id = ep.nextStreamId ∧ a.record = true := by
  by_cases record : a.record = true
  · have accepted := acceptClient_sound a thread ep
    generalize ep.acceptClient a thread = result at accepted present
    cases accepted with
    | served absent =>
      by_cases named : id = ep.nextStreamId
      · exact .inr ⟨named, record⟩
      · rw [put_streams, Function.update_of_ne named] at present
        exact .inl present
    | refused number => exact .inl present
  · simp only [acceptClient, streamCreate, record] at present
    exact .inl present

end Endpoint

/-! ## Numbers given out -/

namespace Numbers

open Endpoint

structure State where
  ep : Endpoint
  issued : Nat

inductive Event where
  | accept (a : Creation) (thread : Bool)
  | receive (a : Answers) (qp : Nat) (wire : List UInt8)

/-- A client in `urp_accept_thread_fn`, or a frame in `urp_recv_done`. -/
def step (s : State) : Event → Option State
  | .accept a thread =>
    some ⟨(s.ep.acceptClient a thread).1, if a.record then s.issued + 1 else s.issued⟩
  | .receive a qp wire => some { s with ep := (s.ep.recvDone a qp wire).1 }

def State.init (settings : Settings) (isInitiator : Bool) (numQps : Nat) : State :=
  ⟨.init settings isInitiator numQps, 0⟩

def firstId (isInitiator : Bool) : Nat := if isInitiator then 1 else 2

def Fresh (s : State) (e : Event) : Prop :=
  ∀ a thread, e = .accept a thread → a.record = true →
    s.ep.nextId.2 ≠ 0 ∧ s.ep.streams s.ep.nextId.2 = none ∧
      (s.ep.streamCreate a 0).2 ≠ .error .EEXIST ∧
      ∀ stream, (s.ep.streamCreate a 0).2 = .ok stream → stream.id ≠ 0

def InOrder (isInitiator : Bool) (s : State) : Event → Prop
  | .accept _ _ => firstId isInitiator + 2 * s.issued < 2 ^ 32
  | .receive a _ wire => ∀ id flags, s.ep.dataFrame a wire = some (id, flags) →
    id % 2 = firstId isInitiator % 2 → id < firstId isInitiator + 2 * s.issued

structure Numbered (isInitiator : Bool) (s : State) : Prop where
  next : s.ep.nextStreamId = (firstId isInitiator + 2 * s.issued) % 2 ^ 32
  past : ∀ id, (s.ep.streams id).isSome = true → id % 2 = firstId isInitiator % 2 →
    id < firstId isInitiator + 2 * s.issued

variable {isInitiator : Bool} {s s' : State} {e : Event}

theorem numbered_init (settings : Settings) (isInitiator : Bool) (numQps : Nat) :
    Numbered isInitiator (.init settings isInitiator numQps) where
  next := by cases isInitiator <;> rfl
  past id present := by simp [State.init, Endpoint.init] at present

section

variable (numbered : Numbered isInitiator s)
include numbered

theorem Numbered.fresh (admitted : InOrder isInitiator s e) :
    Fresh s e := by
  rintro a thread rfl record
  have positive : 0 < firstId isInitiator := by cases isInitiator <;> decide
  have next : s.ep.nextStreamId = firstId isInitiator + 2 * s.issued :=
    numbered.next.trans (Nat.mod_eq_of_lt admitted)
  have absent : s.ep.streams s.ep.nextStreamId = none := by
    by_contra present
    have past := numbered.past s.ep.nextStreamId (isSome_iff_ne_none.mpr present)
      (by rw [next, Nat.add_mul_mod_self_left])
    omega
  have nonzero : s.ep.nextStreamId ≠ 0 := by omega
  refine ⟨nonzero, absent, ?_, ?_⟩
  · simp only [streamCreate, record, if_true, nextId]
    split
    · simp
    · simp [absent]
  · intro stream made
    cases buffer : a.buffer with
    | false => simp [streamCreate, record, buffer, nextId] at made
    | true =>
      have same : Stream.blank (s.ep.sizes a) s.ep.nextStreamId = stream := by
        simpa [streamCreate, record, buffer, nextId, Stream.create_eq, absent] using made
      exact same ▸ nonzero

theorem Numbered.accept (a : Creation) (thread : Bool) :
    Numbered isInitiator
      ⟨(s.ep.acceptClient a thread).1, if a.record then s.issued + 1 else s.issued⟩ := by
  have later : s.issued ≤ if a.record then s.issued + 1 else s.issued := by split <;> omega
  refine ⟨?_, fun id present own => ?_⟩
  · have next := acceptClient_nextStreamId a thread s.ep
    rw [numbered.next] at next
    dsimp only
    split at next
    · rename_i record
      rw [next, if_pos record, wrap32]
      omega
    · rename_i unrecorded
      rw [next, if_neg unrecorded]
  · change id < firstId isInitiator + 2 * if a.record then s.issued + 1 else s.issued
    rcases acceptClient_streams a thread s.ep id present with before | ⟨named, record⟩
    · have past := numbered.past id before own
      omega
    · have below := Nat.mod_le (firstId isInitiator + 2 * s.issued) (2 ^ 32)
      rw [← numbered.next, ← named] at below
      rw [if_pos record]
      omega

theorem Numbered.step (admitted : InOrder isInitiator s e)
    (moved : step s e = some s') : Numbered isInitiator s' := by
  cases e with
  | accept a thread =>
    cases moved
    exact numbered.accept a thread
  | receive a qp wire =>
    cases moved
    obtain ⟨same, streams⟩ := recvDone_streams a s.ep qp wire
    refine ⟨same.trans numbered.next, fun id present own => ?_⟩
    rcases streams id present with before | ⟨flags, frame⟩
    · exact numbered.past id before own
    · exact admitted id flags frame own

end

/-- Every number given out is new and not 0, in every run in which the counter does not wrap
around and the peer names no number of this side before it was given out. -/
theorem fresh_of_inOrder (settings : Settings) (isInitiator : Bool) (numQps : Nat)
    {events : List Event}
    (admitted : Along step (InOrder isInitiator) (.init settings isInitiator numQps) events) :
    Along step Fresh (.init settings isInitiator numQps) events :=
  admitted.of_invariant (fun _ _ _ numbered admitted moved => numbered.step admitted moved)
    (fun _ _ numbered admitted => numbered.fresh admitted)
    (numbered_init settings isInitiator numQps)

def answeredClient : List Event :=
  [.accept ⟨true, true, 0, 0⟩ true, .receive answering 0 (encode 1 0 typeData dataFlagSyn 0 0),
    .accept ⟨true, true, 0, 0⟩ true]

theorem fresh_of_inOrder_answered :
    Along step Fresh (.init smallSettings true 1) answeredClient ∧
      ∃ s, run step (.init smallSettings true 1) answeredClient = some s ∧
        (s.ep.streams 1).isSome = true ∧ (s.ep.streams 3).isSome = true := by
  let check (s : State) : Event → Bool
    | .accept _ _ => decide (1 + 2 * s.issued < 2 ^ 32)
    | .receive a _ wire => (s.ep.dataFrame a wire).all fun (id, _) => decide (id < 1 + 2 * s.issued)
  have checked : checkAlong step check (.init smallSettings true 1) answeredClient = true := by
    decide +kernel
  have evaluated : (run step (.init smallSettings true 1) answeredClient).any (fun s =>
      (s.ep.streams 1).isSome && (s.ep.streams 3).isSome) = true := by
    decide +kernel
  obtain ⟨s, reached, present⟩ := (any_eq_true ..).mp evaluated
  refine ⟨fresh_of_inOrder smallSettings true 1 (along_of_checkAlong ?_ checked), s, reached, ?_⟩
  · intro s e _ passed
    cases e with
    | accept a thread => simpa [check, InOrder, firstId] using passed
    | receive a qp wire =>
      intro id flags frame _
      simpa [check, frame, firstId] using passed
  · simpa using present

theorem run_accepts (a : Creation) (record : a.record = true) (thread : Bool) (k : Nat)
    (numbered : Numbered isInitiator s) :
    ∃ s', run step s (List.replicate k (.accept a thread)) = some s' ∧
      s'.issued = s.issued + k ∧ Numbered isInitiator s' := by
  induction k generalizing s with
  | zero => exact ⟨s, rfl, rfl, numbered⟩
  | succ k ih =>
    obtain ⟨s', reached, issued, numbered'⟩ := ih (numbered.accept a thread)
    rw [if_pos record] at issued reached
    refine ⟨s', ?_, ?_, numbered'⟩
    · rw [List.replicate_succ, run, step, if_pos record, bind_some, reached]
    · change s'.issued = s.issued + 1 + k at issued
      omega

/-- A peer of an initiator that names stream 1 first takes the number of the first client. An
acceptor that has given out all even numbers gives out 0. -/
theorem number_not_fresh : (∃ s, run step (.init smallSettings true 1)
        [.receive answering 0 (encode 1 0 typeData 0 0 0)] = some s ∧
      s.ep.nextId.2 = 1 ∧ (s.ep.streams 1).isSome = true) ∧
    ∃ s, run step (.init smallSettings false 1)
        (List.replicate (2 ^ 31 - 1) (.accept ⟨true, true, 0, 0⟩ true)) = some s ∧
      s.ep.nextId.2 = 0 := by
  constructor
  · have evaluated : (run step (.init smallSettings true 1)
        [.receive answering 0 (encode 1 0 typeData 0 0 0)]).any (fun s =>
          s.ep.nextId.2 == 1 && (s.ep.streams 1).isSome) = true := by
      decide +kernel
    obtain ⟨s, reached, taken⟩ := (any_eq_true ..).mp evaluated
    simp only [Bool.and_eq_true, beq_iff_eq] at taken
    exact ⟨s, reached, taken⟩
  · obtain ⟨s, reached, issued, numbered⟩ := run_accepts ⟨true, true, 0, 0⟩ rfl true (2 ^ 31 - 1)
      (numbered_init smallSettings false 1)
    refine ⟨s, reached, ?_⟩
    change s.ep.nextStreamId = 0
    rw [numbered.next, issued]
    rfl

end Numbers

end Urp
