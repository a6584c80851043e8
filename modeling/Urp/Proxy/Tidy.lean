import Urp.Proxy.System

/-!
# What is in the tables and on the wire
-/

namespace Urp

open Urp.Lib Urp.Reorder Urp.Frame Urp.Rx Urp.Tx List Option
open Function (update update_of_ne update_self)
open Urp.Stream (Socket Phase)

structure TidyStream (k : Nat) (s : Stream) : Prop where
  id : s.id = k
  holds : ∀ sendSyn qp wire len, s.txThread = some ⟨sendSyn, .posting qp wire len⟩ →
    ∃ syn, DataFrame k syn wire

theorem dataFrame_frameWire {g : Geometry} {r : Reading} (id seq : Nat) (sendSyn : Bool)
    (fits : r.data.length ≤ epTxMaxPayload g.bufSize) :
    DataFrame id sendSyn (frameWire g id seq sendSyn r) :=
  ⟨seq, decide (Sampled g r seq), r.data, trailer g r seq, by
    rw [frameWire_eq id seq sendSyn fits, frameFlags_eq]⟩

section TidyStream

variable {k : Nat} {s s' : Stream}

theorem TidyStream.congr (tidy : TidyStream k s) (id : s'.id = s.id)
    (txThread : s'.txThread = s.txThread) : TidyStream k s' where
  id := id.trans tidy.id
  holds sendSyn qp wire len thread := tidy.holds sendSyn qp wire len (txThread ▸ thread)

theorem TidyStream.sameTx (tidy : TidyStream k s) (same : SameTx s s') : TidyStream k s' :=
  tidy.congr same.id same.txThread

theorem TidyStream.idle (id : s.id = k)
    (idle : ∀ sendSyn qp wire len, s.txThread ≠ some ⟨sendSyn, .posting qp wire len⟩) :
    TidyStream k s where
  id := id
  holds sendSyn qp wire len thread := absurd thread (idle sendSyn qp wire len)

theorem TidyStream.pumpStart (tidy : TidyStream k s) : TidyStream k (pumpStart s) := by
  unfold Tx.pumpStart
  split
  · exact tidy
  · exact .idle tidy.id (by simp)

theorem TidyStream.withBackend (tidy : TidyStream k s) (a : Answers) (ep : Endpoint) :
    TidyStream k (ep.withBackend a s) := by
  unfold Endpoint.withBackend Endpoint.openBackend
  split
  · split
    · exact tidy
    · split
      · have opened : TidyStream k { s with udsSock := some Socket.fresh } := tidy.congr rfl rfl
        simp only
        split
        · exact opened.pumpStart
        · exact opened
      · exact tidy
  · exact tidy

theorem TidyStream.pump (tidy : TidyStream k s) {g : Geometry} {e : PumpEvent}
    {out : Option (Nat × List UInt8)} (moved : PumpStep g s e s' out) :
    TidyStream k s' ∧ ∀ o ∈ out, ∃ syn, DataFrame k syn o.2 := by
  cases moved with
  | read thread uds nonempty fits =>
    refine ⟨⟨tidy.id, ?_⟩, by simp⟩
    intro sendSyn qp wire len held
    obtain ⟨-, -, rfl, -⟩ : false = sendSyn ∧ _ ∧ _ = wire ∧ _ := by simpa using held
    rw [tidy.id]
    exact ⟨_, dataFrame_frameWire k _ _ fits⟩
  | post thread gate =>
    refine ⟨.idle tidy.id (by simp), ?_⟩
    rintro o ⟨⟩
    exact tidy.holds _ _ _ _ thread
  | stop | eof | drop | abort | fail | account => exact ⟨.idle tidy.id (by simp), by simp⟩

end TidyStream

def TidyTable (ep : Endpoint) : Prop :=
  ∀ k s, ep.streams k = some s → k ≠ 0 ∧ k < 2 ^ 32 ∧ TidyStream k s

section TidyTable

variable {ep ep' : Endpoint} {id : Nat}

theorem TidyTable.touches (table : TidyTable ep) (touches : Endpoint.Touches id ep ep')
    (id_pos : id ≠ 0) (word : id < 2 ^ 32)
    (entry : ∀ s, ep'.streams id = some s → TidyStream id s) : TidyTable ep' := by
  intro k s found
  rcases eq_or_ne k id with rfl | same
  · exact ⟨id_pos, word, entry s found⟩
  · exact table k s (touches.others k same ▸ found)

theorem tidy_dispatched {a : Creation} {syn : Bool} {s : Stream} (table : TidyTable ep)
    (dispatched : Endpoint.Dispatched a ep id syn (some s)) : TidyStream id s := by
  cases dispatched with
  | known found => exact (table id s found).2.2
  | greeted found => exact (table id _ found).2.2.congr rfl rfl
  | made => exact .idle rfl (by simp [Endpoint.peerStream, Stream.blank])

variable {a : Answers} {syn : Bool} {slot : Memory} {dec : RxDecoded}
  {r : Endpoint × Option (List UInt8)}

section

variable (received : Endpoint.Received a ep id syn slot dec r)
include received

theorem Endpoint.Received.touches : Endpoint.Touches id ep r.1 := by
  cases received with
  | dropped => exact .refl id ep
  | unopened => exact Endpoint.touches_put (.refl id ep) _
  | delivered _ _ touches => exact touches

theorem Endpoint.Received.control : ∀ wire ∈ r.2, ControlFrame id wire := by
  cases received with
  | dropped | unopened => simp
  | delivered _ _ _ _ control => exact control

theorem Endpoint.Received.tidy
    (table : TidyTable ep) : ∀ s, r.1.streams id = some s → TidyStream id s := by
  intro s stored
  cases received with
  | dropped => exact (table id s stored).2.2
  | unopened dispatched =>
    cases (Endpoint.put_streams_self ..).symm.trans stored
    exact (tidy_dispatched table dispatched).withBackend a ep
  | delivered dispatched _ _ stored' =>
    cases stored'.symm.trans stored
    exact ((tidy_dispatched table dispatched).withBackend a ep).sameTx (sameTx_receiveData ..)

end

def FrameOf (id : Nat) (wire : List UInt8) : Prop :=
  (∃ syn, DataFrame id syn wire) ∨ ControlFrame id wire

variable {wire : List UInt8}

theorem FrameOf.names (frame : FrameOf id wire) (word : id < 2 ^ 32) :
    wireId wire = id := by
  rcases frame with ⟨syn, data⟩ | control
  · exact data.names word
  · exact control.names word

theorem recvDone_tidy (frame : FrameOf id wire) (id_pos : id ≠ 0)
    (word : id < 2 ^ 32) (table : TidyTable ep) (a : Answers) (qp : Nat) :
    Endpoint.Touches id ep (ep.recvDone a qp wire).1 ∧ TidyTable (ep.recvDone a qp wire).1 ∧
      ∀ reply ∈ (ep.recvDone a qp wire).2, ControlFrame id reply := by
  rcases frame with ⟨syn, data⟩ | control
  · rcases Endpoint.recvDone_data data id_pos word a ep qp with ⟨-, ignored⟩ | ⟨-, dec, -, received⟩
    · rw [ignored]
      exact ⟨.refl id ep, table, by simp⟩
    · exact ⟨received.touches,
        table.touches received.touches id_pos word (received.tidy table), received.control⟩
  · obtain ⟨silent, ignored | ⟨s, dec, found, stored⟩⟩ :=
      Endpoint.recvDone_control control id_pos word a ep qp
    · rw [silent, ignored]
      exact ⟨.refl id ep, table, by simp⟩
    · rw [silent, stored]
      have touches := Endpoint.touches_put (.refl id ep)
        (some (receiveCredit s (landing ep.geometry a.mem wire) dec))
      refine ⟨touches, table.touches touches id_pos word ?_, by simp⟩
      intro s' stored'
      cases (Endpoint.put_streams_self ..).symm.trans stored'
      exact (table id s found).2.2.sameTx (sameTx_receiveCredit ..)

end TidyTable

/-! ## The invariant -/

structure Proxy.Tidy (x : Proxy) : Prop where
  odd : (x.ep .initiator).nextStreamId % 2 = 1
  word : (x.ep .initiator).nextStreamId < 2 ^ 32
  tables : ∀ side, TidyTable (x.ep side)
  frames : ∀ side, ∀ p ∈ x.wire side, ∃ id, id ≠ 0 ∧ id < 2 ^ 32 ∧ FrameOf id p.wire

namespace Proxy

variable {side other : Side}

theorem mem_posts {x : Proxy} {out : Option Packet} {p : Packet}
    (mem : p ∈ (x.posts side out).wire other) : p ∈ x.wire other ∨ (p ∈ out ∧ other = side) := by
  rcases eq_or_ne other side with rfl | same
  · simp only [posts_wire, update_self, mem_append, mem_filter, mem_toList] at mem
    exact mem.imp id fun new => ⟨new.1, rfl⟩
  · rw [posts_wire, update_of_ne same] at mem
    exact .inl mem

theorem mem_takes {x : Proxy} {i : Nat} {p : Packet}
    (mem : p ∈ (x.takes side i).wire other) : p ∈ x.wire other := by
  rcases eq_or_ne other side with rfl | same
  · rw [takes_wire, update_self] at mem
    exact mem_of_mem_eraseIdx mem
  · rwa [takes_wire, update_of_ne same] at mem

theorem wrap32_odd {n : Nat} (odd : n % 2 = 1) :
    wrap32 (n + 2) % 2 = 1 ∧ wrap32 (n + 2) < 2 ^ 32 := by
  unfold wrap32
  omega

section Preserved

variable {x : Proxy}

theorem Tidy.moves (tidy : x.Tidy) {x' : Proxy} {side : Side} (id : Nat) (ep : Endpoint)
    (updated : x'.ep = update x.ep side ep)
    (touches : Endpoint.Touches id (x.ep side) ep) (table : TidyTable ep)
    (frames : ∀ other, ∀ p ∈ x'.wire other, p ∈ x.wire other ∨
      (id ≠ 0 ∧ id < 2 ^ 32 ∧ FrameOf id p.wire)) : x'.Tidy := by
  have next : (x'.ep .initiator).nextStreamId = (x.ep .initiator).nextStreamId := by
    cases side with
    | initiator => rw [updated, update_self, touches.nextStreamId]
    | acceptor => rw [updated, update_of_ne (by decide)]
  refine ⟨next ▸ tidy.odd, next ▸ tidy.word, ?_, ?_⟩
  · intro other
    rcases eq_or_ne other side with rfl | same
    · rwa [updated, update_self]
    · rw [updated, update_of_ne same]
      exact tidy.tables other
  · intro other p mem
    rcases frames other p mem with old | new
    · exact tidy.frames other p old
    · exact ⟨id, new⟩

theorem Tidy.accepts (tidy : x.Tidy) {a : Creation} {r : Endpoint × Option Nat}
    (accepted : Endpoint.Accepted a (x.ep .initiator) r) : (x.accepts r).Tidy := by
  have numbers := wrap32_odd tidy.odd
  have changed : ((x.accepts r).ep .initiator) = r.1 := rfl
  constructor
  · rw [changed]
    cases accepted with
    | served => exact numbers.1
    | refused number =>
      rcases number with rfl | rfl
      · exact tidy.odd
      · exact numbers.1
  · rw [changed]
    cases accepted with
    | served => exact numbers.2
    | refused number =>
      rcases number with rfl | rfl
      · exact tidy.word
      · exact numbers.2
  · intro side
    cases side with
    | acceptor => exact tidy.tables .acceptor
    | initiator =>
      rw [changed]
      cases accepted with
      | refused => exact tidy.tables .initiator
      | served absent =>
        intro k s found
        by_cases same : k = (x.ep .initiator).nextStreamId
        · subst same
          cases (Endpoint.put_streams_self ..).symm.trans found
          have odd := tidy.odd
          exact ⟨by omega, tidy.word, .idle rfl (by simp [Endpoint.clientStream, pumpStart,
            Stream.blank])⟩
        · rw [Endpoint.put_streams, update_of_ne same] at found
          exact tidy.tables .initiator k s found
  · exact tidy.frames

end Preserved

theorem Tidy.step {x x' : Proxy} {e : Event} (tidy : x.Tidy) (moved : Step x e x') : x'.Tidy := by
  cases moved with
  | accept accepted => exact tidy.accepts accepted
  | @pump side id e s s' r found moved stored touches =>
    obtain ⟨id_pos, word, entry⟩ := tidy.tables side id s found
    obtain ⟨entry', frame⟩ := entry.pump moved
    refine tidy.moves id r.1 rfl touches ((tidy.tables side).touches touches id_pos word ?_) ?_
    · intro s'' stored'
      cases stored.symm.trans stored'
      exact entry'
    · intro other p mem
      rcases mem_posts mem with old | ⟨new, -⟩
      · exact .inl old
      · obtain ⟨o, posted, rfl⟩ := map_eq_some_iff.mp new
        exact .inr ⟨id_pos, word, .inl (frame o posted)⟩
  | @deliver side i a p found first =>
    obtain ⟨id, id_pos, word, frame⟩ := tidy.frames side p (mem_of_getElem? found)
    obtain ⟨touches, table, control⟩ := recvDone_tidy frame id_pos word (tidy.tables side) a p.qp
    refine tidy.moves id ((x.ep side).recvDone a p.qp p.wire).1 rfl touches table ?_
    intro other q mem
    rcases mem_posts mem with old | ⟨new, -⟩
    · exact .inl (mem_takes old)
    · obtain ⟨wire, emitted, rfl⟩ := map_eq_some_iff.mp new
      refine .inr ⟨id_pos, word, .inr (control wire ?_)⟩
      split at emitted
      · exact emitted
      · cases emitted
  | @cm side e =>
    have touches := Endpoint.touches_qps (.refl 0 (x.ep side)) ((x.ep side).qps.isInitiator_cm e)
    exact tidy.moves 0 _ rfl touches (tidy.tables side) fun _ _ => .inl
  | linkDown | linkUp => exact { tidy with }
  | lose found down =>
    exact { tidy with frames := fun other p mem => tidy.frames other p (mem_takes mem) }

theorem Tidy.run {x y : Proxy} {es : List Event} (tidy : x.Tidy)
    (reached : Lib.run Proxy.step x es = some y) : y.Tidy :=
  run_invariant (fun _ _ _ tidy moved => Tidy.step tidy (step_sound moved)) tidy reached

end Proxy

end Urp
