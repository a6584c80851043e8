import Urp.Lib.Transit
import Urp.Proxy.System

/-!
# One direction of one stream
-/

namespace Urp

open Urp.Lib Urp.Reorder Urp.Frame Urp.Rx Urp.Tx List
open Urp.Stream (Socket Phase Pump)

def heldNumbers (tx : Option Stream) (frames : List Payload) : List Nat :=
  if tx.any Stream.holding then [frames.length - 1] else []

structure Flow (gTx gRx : Geometry) (id : Nat) (tx rx : Option Stream) (frames : List Payload)
    (flight came : List Nat) : Prop where
  transit : Transit frames.length (heldNumbers tx frames ++ flight) (· ∈ came)
  nonempty : ∀ data ∈ frames, 0 < data.length
  unsent : tx = none → frames = []
  sending : ∀ s, tx = some s → Sends gTx id frames s
  unopened : rx = none → came = []
  receiving : ∀ r, rx = some r → ∃ c, Receiving True True gRx frames (· ∈ came) c r
  handshake : ∀ r, rx = some r → 0 ∉ came → r.state = .synSent ∨ r.state = .synReceived
  depth : ∀ r, rx = some r → 0 < r.reorder.maxBuffered

def FlowWhole (tx : Option Stream) (frames : List Payload) (flight came : List Nat) : Prop :=
  Whole frames.length (heldNumbers tx frames ++ flight) (· ∈ came)

section Flow

variable {gTx gRx : Geometry} {id : Nat} {tx rx : Option Stream} {frames : List Payload}
  {flight came : List Nat} {s s' : Stream}

theorem flow_none (gTx gRx : Geometry) (id : Nat) : Flow gTx gRx id none none [] [] [] where
  transit := by simpa [heldNumbers] using transit_nil
  nonempty := by simp
  unsent _ := rfl
  sending := by simp
  unopened _ := rfl
  receiving := by simp
  handshake := by simp
  depth := by simp

/-! ## The sender -/

theorem heldNumbers_free (free : s.holding = false) (frames : List Payload) :
    heldNumbers (some s) frames = [] := by
  simp [heldNumbers, free]

theorem heldNumbers_holds (holds : s.holding = true) (frames : List Payload) :
    heldNumbers (some s) frames = [frames.length - 1] := by
  simp [heldNumbers, holds]

variable {flight' : List Nat}

theorem Flow.sends (flow : Flow gTx gRx id tx rx frames flight came) {more : List Payload}
    (sends : Sends gTx id (frames ++ more) s') (nonempty : ∀ data ∈ more, 0 < data.length)
    (transit : Transit (frames ++ more).length
      (heldNumbers (some s') (frames ++ more) ++ flight') (· ∈ came)) :
    Flow gTx gRx id (some s') rx (frames ++ more) flight' came where
  __ := flow
  transit := transit
  nonempty data mem := (mem_append.mp mem).elim (flow.nonempty data) (nonempty data)
  unsent := by simp
  sending := by
    rintro s'' ⟨⟩
    exact sends
  receiving r opened := by
    obtain ⟨c, receiving⟩ := flow.receiving r opened
    exact ⟨c, receiving.append more⟩

theorem Flow.resends (flow : Flow gTx gRx id tx rx frames flight came)
    (sends : Sends gTx id frames s')
    (transit : Transit frames.length (heldNumbers (some s') frames ++ flight') (· ∈ came)) :
    Flow gTx gRx id (some s') rx frames flight' came := by
  have none : frames ++ [] = frames := append_nil frames
  have moved := flow.sends (none.symm ▸ sends) (by simp) (none.symm ▸ transit)
  rwa [none] at moved

theorem Flow.txKeeps (flow : Flow gTx gRx id (some s) rx frames flight came)
    (same : SameTx s s') : Flow gTx gRx id (some s') rx frames flight came := by
  have held : heldNumbers (some s') frames = heldNumbers (some s) frames := by
    simp [heldNumbers, same.holding]
  exact flow.resends ((flow.sending s rfl).congr same) (held ▸ flow.transit)

theorem flowWhole_txKeeps (same : SameTx s s') :
    FlowWhole (some s) frames flight came ↔ FlowWhole (some s') frames flight came := by
  simp [FlowWhole, heldNumbers, same.holding]

theorem Flow.txOpen (flow : Flow gTx gRx id none rx frames flight came) (names : s.id = id)
    (unused : s.txSeq = 0) (thread : s.txThread = some ⟨true, .reading⟩) :
    Flow gTx gRx id (some s) rx frames flight came ∧
      (FlowWhole none frames flight came ↔ FlowWhole (some s) frames flight came) := by
  have free : s.holding = false := holding_of_thread thread
  have held : heldNumbers (some s) frames = heldNumbers none frames := by
    simp [heldNumbers, free]
  refine ⟨flow.resends ?_ (held ▸ flow.transit), by simp [FlowWhole, held]⟩
  exact ⟨names, _, [], none, thread, ⟨rfl, unused, rfl⟩, flow.unsent rfl⟩

variable {e : PumpEvent}

theorem Flow.pump (flow : Flow gTx gRx id (some s) rx frames flight came)
    (move : Move gTx id frames s s' e none) :
    Flow gTx gRx id (some s') rx (frames ++ readBy e) flight came ∧
      (FlowWhole (some s) frames flight came ∧ ¬Drops e ↔
        FlowWhole (some s') (frames ++ readBy e) flight came) := by
  have transit := flow.transit
  cases move with
  | rests free free' sends silent keeps =>
    rw [silent, append_nil, FlowWhole, FlowWhole, heldNumbers_free free, heldNumbers_free free']
    rw [heldNumbers_free free] at transit
    refine ⟨flow.resends sends (by rwa [heldNumbers_free free']), ?_⟩
    simp [keeps]
  | @takes r qp free holds nonempty sends =>
    rw [heldNumbers_free free] at transit
    have length : (frames ++ [r.data]).length = frames.length + 1 := by simp
    have held : heldNumbers (some s') (frames ++ [r.data]) = [frames.length] := by
      rw [heldNumbers_holds holds, length, Nat.add_sub_cancel]
    constructor
    · refine flow.sends sends (by simpa [readBy] using nonempty) ?_
      simp only [readBy, held, length]
      exact transit.send
    · simp only [FlowWhole, readBy, heldNumbers_free free, held, length, Drops, not_false_eq_true,
        and_true]
      exact whole_send
  | @skips r free free' nonempty sends =>
    rw [heldNumbers_free free] at transit
    have length : (frames ++ [r.data]).length = frames.length + 1 := by simp
    constructor
    · refine flow.sends sends (by simpa [readBy] using nonempty) ?_
      simp only [readBy, heldNumbers_free free', length]
      exact transit.send.lose
    · simp only [FlowWhole, readBy, heldNumbers_free free', length, Drops, not_true_eq_false,
        and_false, false_iff]
      exact transit.send.not_whole_lose
  | loses holds free nonnil sends silent drops =>
    rw [heldNumbers_holds holds] at transit
    rw [silent, append_nil]
    refine ⟨flow.resends sends (by rw [heldNumbers_free free]; exact transit.lose), ?_⟩
    simp only [FlowWhole, heldNumbers_free free, drops, not_true_eq_false, and_false, false_iff]
    exact transit.not_whole_lose

variable {wire : List UInt8}

theorem Flow.post {qp : Nat} (flow : Flow gTx gRx id (some s) rx frames flight came)
    (move : Move gTx id frames s s' e (some (qp, wire))) :
    ∃ k, Carries id frames k wire ∧ readBy e = [] ∧ ¬Drops e ∧
      Flow gTx gRx id (some s') rx frames (flight ++ [k]) came ∧
      (FlowWhole (some s) frames flight came ↔ FlowWhole (some s') frames (flight ++ [k]) came) ∧
      Flow gTx gRx id (some s') rx frames flight came ∧
      ¬FlowWhole (some s') frames flight came := by
  have transit := flow.transit
  cases move with
  | posts holds free nonnil sends carries =>
    rw [heldNumbers_holds holds] at transit
    have moved : ((frames.length - 1) :: flight).Perm (flight ++ [frames.length - 1]) :=
      (perm_append_singleton _ _).symm
    refine ⟨frames.length - 1, carries, rfl, by simp [Drops], ?_, ?_, ?_, ?_⟩
    · refine flow.resends sends ?_
      rw [heldNumbers_free free]
      exact transit.perm moved
    · rw [FlowWhole, FlowWhole, heldNumbers_free free, heldNumbers_holds holds]
      exact whole_perm moved
    · refine flow.resends sends ?_
      rw [heldNumbers_free free]
      exact transit.lose
    · rw [FlowWhole, heldNumbers_free free]
      exact transit.not_whole_lose

/-! ## The receiver -/

structure SameRx (s s' : Stream) : Prop where
  reorder : s'.reorder = s.reorder
  udsSock : s'.udsSock = s.udsSock
  rxBytes : s'.rxBytes = s.rxBytes
  state : s.state = .synSent ∨ s.state = .synReceived → s'.state = s.state

theorem Flow.rxKeeps (flow : Flow gTx gRx id tx (some s) frames flight came)
    (same : SameRx s s') : Flow gTx gRx id tx (some s') frames flight came where
  __ := flow
  unopened := by simp
  receiving := by
    rintro r ⟨⟩
    obtain ⟨c, receiving⟩ := flow.receiving s rfl
    exact ⟨c, receiving.congr (fun _ => Iff.rfl) same.reorder same.udsSock same.rxBytes⟩
  handshake := by
    rintro r ⟨⟩ missing
    have waiting := flow.handshake s rfl missing
    rwa [same.state waiting]
  depth := by
    rintro r ⟨⟩
    rw [same.reorder]
    exact flow.depth s rfl

theorem sameRx_pump {g : Geometry} {out : Option (Nat × List UInt8)}
    (moved : PumpStep g s e s' out) : SameRx s s' := by
  cases moved with
  | eof =>
    refine ⟨rfl, rfl, rfl, ?_⟩
    rintro (waiting | waiting) <;> simp [txFin, Stream.nextState, waiting]
  | _ => exact ⟨rfl, rfl, rfl, fun _ => rfl⟩

theorem sameRx_receiveCredit (s : Stream) (slot : Memory) (dec : RxDecoded) :
    SameRx s (receiveCredit s slot dec) := by
  unfold receiveCredit
  split <;> split <;> (try split) <;> exact ⟨rfl, rfl, rfl, fun _ => rfl⟩

structure Opened (r : Stream) : Prop where
  reorder : ∃ m, 0 < m ∧ m ≤ u32Max ∧ r.reorder = ⟨.empty, [], 0, 0, 0, m⟩
  udsSock : r.udsSock = some Socket.fresh
  rxBytes : r.rxBytes = 0
  state : r.state = .synSent ∨ r.state = .synReceived

theorem Flow.rxOpen (flow : Flow gTx gRx id tx none frames flight came) (opened : Opened s) :
    Flow gTx gRx id tx (some s) frames flight came where
  __ := flow
  unopened := by simp
  receiving := by
    rintro r ⟨⟩
    obtain ⟨m, -, word, empty⟩ := opened.reorder
    have blank : Receiving True True gRx frames (fun _ => False) 0 s :=
      Receiving.blank empty word opened.udsSock rfl rfl opened.rxBytes
    refine ⟨0, blank.congr (fun k => ?_) rfl rfl rfl⟩
    simp [flow.unopened rfl]
  handshake := by
    rintro r ⟨⟩ -
    exact opened.state
  depth := by
    rintro r ⟨⟩
    obtain ⟨m, positive, -, empty⟩ := opened.reorder
    rwa [empty]

variable {rest : List Nat} {k : Nat}

theorem pending_perm {held : List Nat} (first : flight.Perm (k :: rest)) :
    (held ++ flight).Perm (k :: (held ++ rest)) :=
  (first.append_left held).trans perm_middle

theorem Flow.lose
    (flow : Flow gTx gRx id tx rx frames flight came) (first : flight.Perm (k :: rest)) :
    Flow gTx gRx id tx rx frames rest came ∧ ¬FlowWhole tx frames rest came := by
  have transit := flow.transit.perm (pending_perm first)
  exact ⟨{ flow with transit := transit.lose }, transit.not_whole_lose⟩

theorem sameRx_windowGrant (s : Stream) : SameRx s (windowGrant s).1 := by
  unfold windowGrant
  split <;> exact ⟨rfl, rfl, rfl, fun _ => rfl⟩

theorem sameRx_receiveData (kmalloc : Nat → Bool) (results : Nat → Stream.SendResult)
    (g : Geometry) (negotiated : Bool) (s : Stream) (slot : Memory) (dec : RxDecoded) :
    SameRx (deliverFrame kmalloc results g s slot (decodeSeq (slot 0)) dec.payloadLen)
      (receiveData kmalloc results g negotiated s slot dec).1 := by
  cases negotiated with
  | true =>
    rw [receiveData_negotiated]
    exact sameRx_windowGrant _
  | false =>
    rw [receiveData_plain]
    exact ⟨rfl, rfl, rfl, fun _ => rfl⟩

theorem Flow.deliver {r : Stream} {a : Answers} {action : RxAction}
    {dec : RxDecoded} (flow : Flow gTx gRx id tx (some r) frames flight came)
    (first : flight.Perm (k :: rest)) (carries : Carries id frames k wire)
    (word : frames.length ≤ 2 ^ 64) (id_lt : id < 2 ^ 32) (length : wire.length ≤ gRx.bufSize)
    (classified : classifyFrame wire.length (landing gRx a.mem wire 0) = (action, dec))
    (allocates : ∀ i, a.kmalloc i = true) (full : ∀ i, a.results i = .full)
    (room : k = r.reorder.nextExpected ∨ r.reorder.pendingCount < r.reorder.maxBuffered)
    (reorder : s.reorder = r.reorder) (udsSock : s.udsSock = r.udsSock)
    (rxBytes : s.rxBytes = r.rxBytes) (state : k ≠ 0 → s.state = r.state) (negotiated : Bool) :
    Flow gTx gRx id tx
        (some (receiveData a.kmalloc a.results gRx negotiated s (landing gRx a.mem wire) dec).1)
        frames rest (came ++ [k]) ∧
      (FlowWhole tx frames flight came ↔ FlowWhole tx frames rest (came ++ [k])) := by
  have transit := flow.transit.perm (pending_perm first)
  have there : (fun j => j ∈ came ∨ j = k) = (· ∈ came ++ [k]) := by
    funext j
    simp
  obtain ⟨data, frame⟩ : ∃ data, frames[k]? = some data := by
    obtain ⟨-, data, -, -, frame⟩ := carries
    exact ⟨data, frame⟩
  obtain ⟨c, receiving⟩ := flow.receiving r rfl
  have before := receiving.congr (fun _ => Iff.rfl) reorder udsSock rxBytes
  obtain ⟨c', s', -, delivered, untouched, arrived, after⟩ := before.deliver full word id_lt carries
    frame length classified (transit.fresh k mem_cons_self) (fun _ => allocates) (fun _ => ⟨trivial,
    reorder ▸ room⟩)
  have same := sameRx_receiveData a.kmalloc a.results gRx negotiated s (landing gRx a.mem wire) dec
  rw [delivered] at same
  refine ⟨⟨there ▸ transit.arrive, flow.nonempty, flow.unsent, flow.sending, by simp, ?_, ?_, ?_⟩,
    ?_⟩
  · rintro r' ⟨⟩
    exact ⟨c', after.congr (fun j => by simp) same.reorder same.udsSock same.rxBytes⟩
  · rintro r' ⟨⟩ missing
    simp only [mem_append, mem_singleton, not_or] at missing
    have waiting := flow.handshake r rfl missing.1
    have kept : s'.state = r.state := untouched.state.trans (state (Ne.symm missing.2))
    rwa [same.state (kept ▸ waiting), kept]
  · rintro r' ⟨⟩
    rw [same.reorder, arrived, arrive_maxBuffered, reorder]
    exact flow.depth r rfl
  · exact (whole_perm (pending_perm first)).trans (whole_arrive.trans (by rw [there]; rfl))

/-! ## What the receiver's socket holds -/

def writtenTo (rx : Option Stream) : List UInt8 :=
  ((rx.bind Stream.udsSock).map Socket.written).getD []

theorem Flow.written (flow : Flow gTx gRx id tx rx frames flight came) :
    ∃ c, writtenTo rx = (frames.take c).flatten ∧ (∀ k < c, k < frames.length → k ∈ came) ∧
      (frames.length ≤ 2 ^ 64 → (∀ k < frames.length, k ∈ came) → frames.length ≤ c) := by
  cases rx with
  | none =>
    refine ⟨0, by simp [writtenTo], by simp, ?_⟩
    intro _ all
    by_contra some
    have first := all 0 (by omega)
    simp [flow.unopened rfl] at first
  | some r =>
    obtain ⟨c, receiving⟩ := flow.receiving r rfl
    obtain ⟨uds, socket, -, written⟩ := receiving.socket
    refine ⟨c, by simp [writtenTo, socket, written], fun k below _ => ?_, fun word all => ?_⟩
    · exact receiving.tracks.came k (.inl below)
    · exact (receiving.tracks.complete (receiving.steady trivial).toTight word all).ge

theorem Flow.inOrder (flow : Flow gTx gRx id tx rx frames flight came) :
    writtenTo rx <+: frames.flatten := by
  obtain ⟨c, written, -⟩ := flow.written
  exact ⟨(frames.drop c).flatten, by
    rw [written, ← flatten_append, take_append_drop]⟩

theorem length_flatten_take_lt {frames : List Payload} (nonempty : ∀ data ∈ frames, 0 < data.length)
    {c : Nat} (below : c < frames.length) :
    (frames.take c).flatten.length < frames.flatten.length := by
  obtain ⟨data, rest, dropped⟩ : ∃ data rest, frames.drop c = data :: rest :=
    ⟨_, _, drop_eq_getElem_cons below⟩
  have mem : data ∈ frames := mem_of_mem_drop (dropped ▸ mem_cons_self)
  have positive := nonempty data mem
  conv_rhs => rw [← take_append_drop c frames, dropped]
  simp only [flatten_append, flatten_cons, length_append]
  omega

theorem Flow.complete_iff (flow : Flow gTx gRx id tx rx frames flight came)
    (word : frames.length ≤ 2 ^ 64) (settled : heldNumbers tx frames ++ flight = []) :
    writtenTo rx = frames.flatten ↔ FlowWhole tx frames flight came := by
  obtain ⟨c, written, came_of_lt, all⟩ := flow.written
  rw [FlowWhole, settled, written]
  constructor
  · intro complete k below
    right
    by_cases short : c < frames.length
    · have shorter := length_flatten_take_lt flow.nonempty short
      rw [complete] at shorter
      exact absurd shorter (Nat.lt_irrefl _)
    · exact came_of_lt k (by omega) below
  · intro whole
    have every := all word fun k below => (whole k below).resolve_left (by simp)
    rw [take_of_length_le every]

end Flow

end Urp
