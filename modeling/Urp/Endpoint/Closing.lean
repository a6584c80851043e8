import Urp.Endpoint.Orders

/-!
# The FIN of a stream against its payload

The last frame of a stream carries FIN, with or without payload.
-/

namespace Urp

open Urp.Lib Urp.Reorder Urp.Frame Urp.Window Urp.Rx List Option
open Urp.Stream (SendResult Socket)

def closingFlags (syn fin stamped : Bool) : UInt8 :=
  dataFlags syn stamped ||| (if fin then dataFlagFin else 0)

/-- The frame with the number `seq` of a stream whose last frame carries FIN. -/
def CarriesClosing (id : Nat) (frames : List Payload) (seq : Nat) (wire : List UInt8) : Prop :=
  ∃ stamped data rest, wire = encode id seq typeData
        (closingFlags (decide (seq = 0)) (decide (seq + 1 = frames.length)) stamped) 0
        data.length ++ (data ++ rest) ∧
    frames[seq]? = some data

def passes (frames : List Payload) : Nat := frames.countP (fun data => data ≠ [])

theorem passes_append (frames more : List Payload) :
    passes (frames ++ more) = passes frames + passes more := countP_append

theorem passes_take_eq_iff (frames : List Payload) (c : Nat) :
    passes (frames.take c) = passes frames ↔
      ∀ k data, c ≤ k → frames[k]? = some data → data = [] := by
  have split : passes frames = passes (frames.take c) + passes (frames.drop c) := by
    rw [← passes_append, take_append_drop]
  have rest : passes (frames.drop c) = 0 ↔ ∀ data ∈ frames.drop c, data = [] := by
    simp [passes, countP_eq_zero]
  constructor
  · intro same k data le present
    refine rest.mp (by omega) data ?_
    rw [mem_iff_getElem?]
    exact ⟨k - c, by rw [List.getElem?_drop, Nat.add_sub_cancel' le, present]⟩
  · intro empty
    have none : passes (frames.drop c) = 0 := by
      refine rest.mpr fun data member => ?_
      obtain ⟨i, present⟩ := mem_iff_getElem?.mp member
      rw [List.getElem?_drop] at present
      exact empty (c + i) data (Nat.le_add_right c i) present
    omega

/-! ## What a shut socket keeps -/

/-- The socket is shut for writing, and `n` writes came before. -/
def Stream.ShutAt (s : Stream) (n : Nat) : Prop :=
  ∃ uds, s.udsSock = some uds ∧ uds.shutWr = true ∧ uds.sends = n

/-- The socket is open for writing, after `n` writes. -/
def Stream.OpenAt (s : Stream) (n : Nat) : Prop :=
  ∃ uds, s.udsSock = some uds ∧ uds.shutWr = false ∧ uds.sends = n

theorem sendCounted_shut (results : Nat → SendResult) {uds : Socket} (shut : uds.shutWr = true)
    (data : List UInt8) (len : Nat) : (sendCounted results uds data len).1 = uds := by
  unfold sendCounted Socket.sendmsg
  simp only [shut, if_true]
  split <;> rfl

theorem sendCounted_open (results : Nat → SendResult) {uds : Socket} (isOpen : uds.shutWr = false)
    (data : List UInt8) (len : Nat) :
    (sendCounted results uds data len).1.shutWr = false ∧
      (sendCounted results uds data len).1.sends = uds.sends + if len = 0 then 0 else 1 := by
  unfold sendCounted Socket.sendmsg
  by_cases empty : len = 0
  · simp [empty, isOpen]
  · cases results uds.sends <;> simp [empty, isOpen]

section Kept

variable {s : Stream} {n : Nat}

theorem shutAt_send {write : Socket → Socket × Nat}
    (shut : ∀ uds, uds.shutWr = true → (write uds).1 = uds)
    (isOpen : ∀ uds, uds.shutWr = false → (write uds).1.shutWr = false) :
    (s.send write).ShutAt n ↔ s.ShutAt n := by
  unfold Stream.send Stream.ShutAt
  cases socket : s.udsSock with
  | none => simp [socket]
  | some uds =>
    cases state : uds.shutWr with
    | true => simp [shut uds state, state]
    | false => simp [isOpen uds state, state]

theorem shutAt_rxSendUds (results : Nat → SendResult) (data : List UInt8) :
    (s.send fun uds => rxSendUds results uds data).ShutAt n ↔ s.ShutAt n :=
  shutAt_send (fun _ shut => sendCounted_shut results shut _ _)
    fun _ isOpen => (sendCounted_open results isOpen _ _).1

theorem shutAt_drainUds (results : Nat → SendResult) (bufSize fuel : Nat) :
    (drainUds results bufSize fuel s).ShutAt n ↔ s.ShutAt n := by
  induction fuel generalizing s with
  | zero => rfl
  | succ fuel ih =>
    rw [drainUds]
    split
    · rw [ih, shutAt_rxSendUds]
      rfl
    · rfl

theorem shutAt_deliverFrame (kmalloc : Nat → Bool) (results : Nat → SendResult) (g : Geometry)
    (mem : Memory) (seq payloadLen : Nat) :
    (deliverFrame kmalloc results g s mem seq payloadLen).ShutAt n ↔ s.ShutAt n := by
  unfold deliverFrame rxDeliverStream drainQueue
  split
  · rw [shutAt_drainUds]
    exact shutAt_send (fun _ shut => sendCounted_shut results shut _ _)
      fun _ isOpen => (sendCounted_open results isOpen _ _).1
  · rw [shutAt_drainUds]
    rfl

theorem openAt_sendAll (results : Nat → SendResult) (isOpen : s.OpenAt n)
    (payloads : List Payload) : (sendAll results s payloads).OpenAt (n + passes payloads) := by
  induction payloads generalizing s n with
  | nil => exact isOpen
  | cons data rest ih =>
    obtain ⟨uds, socket, writable, rfl⟩ := isOpen
    obtain ⟨writable', counted⟩ := sendCounted_open results writable data data.length
    have first : (s.send fun uds => rxSendUds results uds data).OpenAt
        (uds.sends + passes [data]) := by
      refine ⟨(rxSendUds results uds data).1, by rw [send_of_socket socket], writable',
        counted.trans ?_⟩
      cases data <;> simp [passes]
    rw [sendAll_cons, ← singleton_append, passes_append, ← Nat.add_assoc]
    exact ih first

end Kept

namespace Endpoint

/-- The stream's socket is shut for writing after `n` writes. -/
def Shut (ep : Endpoint) (id n : Nat) : Prop := ∃ s, ep.streams id = some s ∧ s.ShutAt n

variable {wire : List UInt8}

section Steps

variable {ep : Endpoint} {id n : Nat} {s : Stream} {a : Answers}

theorem shutAt_handled (slot : Memory) (dec : RxDecoded) :
    (ep.handled a s slot dec).ShutAt n ↔ s.ShutAt n := by
  have backend : (ep.withBackend a s).ShutAt n ↔ s.ShutAt n := by
    rcases (withBackend_fields a ep s).2.2 with same | ⟨absent, fresh⟩
    · simp [Stream.ShutAt, same]
    · simp [Stream.ShutAt, absent, fresh, Socket.fresh]
  unfold handled
  split
  · refine Iff.trans ?_ backend
    rw [Stream.ShutAt, (receiveData_fields _ _ _ _ _ slot dec rfl).2.2]
    exact shutAt_deliverFrame ..
  · exact backend

theorem shut_data {syn : Bool} (frame : DataFrame id syn wire) (id_pos : id ≠ 0)
    (word : id < 2 ^ 32) (length : wire.length ≤ ep.geometry.bufSize) (a : Answers) (qp : Nat) :
    Shut (ep.recvDone a qp wire).1 id n ↔ Shut ep id n := by
  rcases recvDone_dispatched frame id_pos word length a qp with
    ⟨-, same⟩ | ⟨s, dec, dispatched, -, -, stored⟩
  · rw [same]
  · have handled : Shut (ep.recvDone a qp wire).1 id n ↔ s.ShutAt n := by
      simp [Shut, stored, shutAt_handled]
    rw [handled]
    cases dispatched with
    | known found plain => simp [Shut, found]
    | greeted found greets accepted => simp [Shut, found, Stream.ShutAt]
    | made absent => simp [Shut, absent, Stream.ShutAt, peerStream, Stream.blank]

theorem rxDispatch_fin (a : Creation) (ep : Endpoint) (id : Nat) (syn stamped : Bool) :
    ep.rxDispatch a id (closingFlags syn true stamped) =
      match ep.rxDispatch a id (dataFlags syn stamped) with
      | (ep, .ok (some s)) => (ep.put id (some (rxFin s)), .ok (some (rxFin s)))
      | r => r := by
  have greets : (closingFlags syn true stamped &&& dataFlagSyn ≠ 0) ↔
      (dataFlags syn stamped &&& dataFlagSyn ≠ 0) := by
    cases syn <;> cases stamped <;> decide
  have noRst : ¬dataFlags syn stamped &&& dataFlagRst ≠ 0 := by
    cases syn <;> cases stamped <;> decide
  have noRst' : ¬closingFlags syn true stamped &&& dataFlagRst ≠ 0 := by
    cases syn <;> cases stamped <;> decide
  have noFin : ¬dataFlags syn stamped &&& dataFlagFin ≠ 0 := by
    cases syn <;> cases stamped <;> decide
  have fin : closingFlags syn true stamped &&& dataFlagFin ≠ 0 := by
    cases syn <;> cases stamped <;> decide
  simp only [rxDispatch, rxFind, greets, if_neg noRst, if_neg noRst', if_neg noFin, if_pos fin]
  by_cases greet : dataFlags syn stamped &&& dataFlagSyn ≠ 0
  · simp only [if_pos greet]
    obtain ⟨ep', e | s⟩ := ep.rxSyn a id <;> rfl
  · simp only [if_neg greet]
    cases ep.streams id with
    | some s => rfl
    | none => obtain ⟨ep', e | s⟩ := ep.rxSyn a id <;> rfl

theorem shutAt_rxFin : (rxFin s).ShutAt n ↔ ∃ uds, s.udsSock = some uds ∧ uds.sends = n := by
  have shuts : (Stream.nextState s.state .rxFin).shutdownWr = true := by cases s.state <;> rfl
  simp [rxFin, shuts, Stream.ShutAt]

theorem shut_fin {syn stamped : Bool} {slot : Memory} {dec : RxDecoded} (id_pos : id ≠ 0)
    (accepts : ∀ s, ep.streams id = some s → (Stream.nextState s.state .rxSyn).accepted = true)
    (qp : Nat) (names : dec.streamId = id) (flags : dec.flags = closingFlags syn true stamped) :
    Shut (ep.receiveStream a qp slot dec).1 id n ↔
      ∃ s uds, ep.streams id = some s ∧ s.udsSock = some uds ∧ uds.sends = n := by
  have fin := rxDispatch_fin a.creation ep id syn stamped
  rw [← flags] at fin
  rcases rxDispatch_data a.creation ep syn stamped id_pos with
    ⟨s, dispatched, found⟩ | ⟨e, dispatched, refused⟩
  · simp only [found, put_put] at fin
    have stored : (ep.receiveStream a qp slot dec).1.streams id =
        some (ep.handled a (rxFin s) slot dec) := (receiveStream_dispatched qp names fin).2
    have handled : Shut (ep.receiveStream a qp slot dec).1 id n ↔
        ∃ uds, s.udsSock = some uds ∧ uds.sends = n := by
      rw [Shut, stored, ← shutAt_rxFin]
      simp [shutAt_handled]
    rw [handled]
    cases dispatched with
    | known present plain | greeted present greets accepted => simp [present]
    | made absent => simp [absent, peerStream, Stream.blank]
  · simp only [refused] at fin
    rw [receiveStream_refused qp names fin]
    cases dispatched with
    | rejected present greets closing => exact absurd (accepts _ present) (by simp [closing])
    | unmade absent failed => simp [Shut, absent]

end Steps

/-! ## Before the FIN -/

structure Passing (g : Geometry) (frames : List Payload) (arrived : Nat → Prop) (c : Nat)
    (s : Stream) : Prop where
  tracks : Tracks False frames arrived c s.reorder
  counted : Counted s.reorder
  idle : s.reorder.drained = []
  fits : Fits g.bufSize s.reorder
  accepts : (Stream.nextState s.state .rxSyn).accepted = true
  socket : (s.udsSock = none ∧ c = 0) ∨ s.OpenAt (passes (frames.take c))

section Passing

variable {g : Geometry} {frames : List Payload} {arrived : Nat → Prop} {c : Nat} {s s' : Stream}

variable {rest : List UInt8}

section

variable (passing : Passing g frames arrived c s)
include passing

theorem Passing.congr (reorder : s'.reorder = s.reorder)
    (accepts : (Stream.nextState s'.state .rxSyn).accepted = true)
    (socket : s'.udsSock = s.udsSock) : Passing g frames arrived c s' := by
  refine ⟨?_, ?_, ?_, ?_, accepts, ?_⟩
  · rw [reorder]
    exact passing.tracks
  · rw [reorder]
    exact passing.counted
  · rw [reorder]
    exact passing.idle
  · rw [reorder]
    exact passing.fits
  · rw [Stream.OpenAt, socket]
    exact passing.socket

theorem Passing.mono {arrived' : Nat → Prop}
    (more : ∀ k, arrived k → arrived' k) : Passing g frames arrived' c s :=
  { passing with tracks := passing.tracks.mono (fun h => h) more }

omit passing in
theorem Passing.blank {m : Nat} (empty : s.reorder = ⟨.empty, [], 0, 0, 0, m⟩)
    (accepts : (Stream.nextState s.state .rxSyn).accepted = true)
    (socket : s.udsSock = none ∨ s.OpenAt 0) : Passing g frames arrived 0 s where
  tracks := by
    rw [empty]
    exact ⟨rfl, Nat.zero_le _, by simp, by simp, by simp, fun h => h.elim⟩
  counted := by
    rw [empty]
    exact ⟨rfl, rfl⟩
  idle := by rw [empty]
  fits := by simp [Fits, empty]
  accepts := accepts
  socket := socket.imp_left fun absent => ⟨absent, rfl⟩

theorem Passing.withBackend (a : Answers)
    (ep : Endpoint) : Passing g frames arrived c (ep.withBackend a s) := by
  obtain ⟨state, reorder, same | ⟨absent, fresh⟩⟩ := withBackend_fields a ep s
  · exact passing.congr reorder (state ▸ passing.accepts) same
  · obtain ⟨-, rfl⟩ : s.udsSock = none ∧ c = 0 := by
      refine passing.socket.resolve_right fun ⟨uds, socket, _⟩ => ?_
      cases absent.symm.trans socket
    refine ⟨?_, ?_, ?_, ?_, state ▸ passing.accepts, .inr ⟨_, fresh, rfl, rfl⟩⟩
    · exact reorder ▸ passing.tracks
    · exact reorder ▸ passing.counted
    · exact reorder ▸ passing.idle
    · exact reorder ▸ passing.fits

theorem Passing.deliver {id seq : Nat} {flags : UInt8} {data : Payload}
    (socket : s.udsSock.isSome = true)
    (word : frames.length ≤ 2 ^ 64) (frame : frames[seq]? = some data) (new : ¬arrived seq)
    (length : (encode id seq typeData flags 0 data.length ++ (data ++ rest)).length ≤ g.bufSize)
    (kmalloc : Nat → Bool) (results : Nat → SendResult) (mem : Memory) {len : Nat}
    (size : len = data.length) :
    let slot := landing g mem (encode id seq typeData flags 0 data.length ++ (data ++ rest))
    ∃ c' s', deliverFrame kmalloc results g s slot (decodeSeq (slot 0)) len = s' ∧
      Passing g frames (fun k => arrived k ∨ k = seq) c' s' := by
  subst size
  obtain ⟨c', -, delivered, tracks, fits, released⟩ := deliverFrame_new passing.tracks
    passing.counted passing.idle passing.fits word frame new length kmalloc results mem
    fun h => h.elim
  have isOpen := passing.socket.resolve_left fun absent => by simp [absent.1] at socket
  have written := openAt_sendAll results isOpen (arrive kmalloc s.reorder seq data).2
  rw [← passes_append, released] at written
  refine ⟨c', _, delivered, tracks, passing.counted.arrive _ _ _, arrive_drained _ _ _ _, fits, ?_,
    .inr written⟩
  exact (untouched_sendAll results s _).state ▸ passing.accepts

end

theorem Passing.handled {ep : Endpoint} {id seq : Nat} {flags : UInt8} {data : Payload}
    {dec : RxDecoded} (passing : Passing ep.geometry frames arrived c s)
    (word : frames.length ≤ 2 ^ 64) (frame : frames[seq]? = some data) (new : ¬arrived seq)
    (length : (encode id seq typeData flags 0 data.length ++ (data ++ rest)).length ≤
      ep.geometry.bufSize) (a : Answers) (size : dec.payloadLen = data.length) :
    ∃ c', Passing ep.geometry frames (fun k => arrived k ∨ k = seq) c'
      (ep.handled a s (landing ep.geometry a.mem
        (encode id seq typeData flags 0 data.length ++ (data ++ rest))) dec) := by
  have opened := passing.withBackend a ep
  unfold Endpoint.handled
  by_cases socket : (ep.withBackend a s).udsSock.isSome = true
  · obtain ⟨c', s', delivered, passed⟩ :=
      opened.deliver socket word frame new length a.kmalloc a.results a.mem size
    obtain ⟨state, reorder, same⟩ := receiveData_fields a.kmalloc a.results ep.geometry
      (a.known && ep.qps.windowNegotiated) _ _ dec delivered
    rw [if_pos socket]
    exact ⟨c', passed.congr reorder (by rw [state]; exact passed.accepts) same⟩
  · rw [if_neg socket]
    exact ⟨c, opened.mono fun k => .inl⟩

end Passing

def Awaits (ep : Endpoint) (id : Nat) : Prop :=
  ∀ s, ep.streams id = some s → s.state = .synSent ∧
    (∃ m, s.reorder = ⟨.empty, [], 0, 0, 0, m⟩) ∧ s.OpenAt 0

def Closes (ep : Endpoint) (id : Nat) (frames : List Payload) (f : Nat → Completion) : Prop :=
  ∀ k < frames.length, CarriesClosing id frames k (f k).wire ∧
    (f k).wire.length ≤ ep.geometry.bufSize

section Closing

variable {ep : Endpoint} {id : Nat} {frames : List Payload} {f : Nat → Completion}

variable {k : Nat}

theorem carries_of_closing (closing : CarriesClosing id frames k wire)
    (earlier : k + 1 ≠ frames.length) : Carries id frames k wire := by
  obtain ⟨stamped, data, rest, wire_eq, frame⟩ := closing
  refine ⟨stamped, data, rest, wire_eq.trans ?_, frame⟩
  have flags : closingFlags (decide (k = 0)) (decide (k + 1 = frames.length)) stamped =
      dataFlags (decide (k = 0)) stamped := by
    simp [closingFlags, earlier]
  rw [flags]

def Passes (ep : Endpoint) (id : Nat) (frames : List Payload) (arrived : Nat → Prop) : Prop :=
  ∀ s, ep.streams id = some s → ∃ c, Passing ep.geometry frames arrived c s

theorem Passes.step (id_pos : id ≠ 0) (word : id < 2 ^ 32) (numbers : frames.length ≤ 2 ^ 64)
    {arrived : Nat → Prop} (passes : Passes ep id frames arrived)
    (carries : Carries id frames k (f k).wire)
    (length : (f k).wire.length ≤ ep.geometry.bufSize) (new : ¬arrived k) :
    Passes (ep.recvDone (f k).answers (f k).qp (f k).wire).1 id frames
      (fun j => arrived j ∨ j = k) := by
  rcases recvDone_dispatched (dataFrame_of_carries carries) id_pos word length (f k).answers
    (f k).qp with ⟨-, same⟩ | ⟨s, dec, dispatched, classified, touches, stored⟩
  · rw [same]
    intro s present
    obtain ⟨c, passing⟩ := passes s present
    exact ⟨c, passing.mono fun j => .inl⟩
  · intro s' present
    have geometry : (ep.recvDone (f k).answers (f k).qp (f k).wire).1.geometry = ep.geometry :=
      congrArg Settings.geometry touches.settings
    cases stored.symm.trans present
    rw [geometry]
    have reached : ∃ c, Passing ep.geometry frames arrived c s := by
      cases dispatched with
      | known found plain => exact passes s found
      | greeted found greets accepted =>
        rename_i s
        obtain ⟨c, passing⟩ := passes s found
        refine ⟨c, passing.congr rfl ?_ rfl⟩
        revert accepted
        cases s.state <;> simp [Stream.nextState]
      | made absent => exact ⟨0, .blank rfl rfl (.inl rfl)⟩
    obtain ⟨c, passing⟩ := reached
    obtain ⟨stamped, data, rest, wire_eq, frame⟩ := carries
    rw [wire_eq] at length classified ⊢
    have size : dec.payloadLen = data.length := by
      rw [classifyFrame_landing _ word (by decide) length] at classified
      rw [← (Prod.mk.inj classified).2]
    exact passing.handled numbers frame new length _ size

theorem geometry_receiveAll (ep : Endpoint) (arrivals : List Completion) :
    (ep.receiveAll arrivals).geometry = ep.geometry :=
  congrArg Settings.geometry (settings_receiveAll ep arrivals)

variable {before : List Nat}

section

variable (closes : Closes ep id frames f)
include closes

theorem Closes.passes (id_pos : id ≠ 0) (word : id < 2 ^ 32)
    (numbers : frames.length ≤ 2 ^ 64) (awaits : Awaits ep id)
    (once : before.Nodup) (earlier : ∀ k ∈ before, k + 1 < frames.length) :
    Passes (ep.receiveAll (before.map f)) id frames (· ∈ before) := by
  induction before using List.reverseRecOn with
  | nil =>
    intro s present
    obtain ⟨state, ⟨m, reorder⟩, isOpen⟩ := awaits s present
    exact ⟨0, .blank reorder (by rw [state]; rfl) (.inr isOpen)⟩
  | append_singleton before k ih =>
    have distinct := nodup_append.mp once
    have passed := ih distinct.1 fun j hj => earlier j (mem_append_left _ hj)
    have bound : k + 1 < frames.length := earlier k (by simp)
    obtain ⟨carries, length⟩ := closes k (by omega)
    rw [map_append, map_singleton, receiveAll_concat]
    have stepped := passed.step id_pos word numbers
      (carries_of_closing carries (Nat.ne_of_lt bound))
      (by rw [geometry_receiveAll]; exact length)
      (fun member => distinct.2.2 k member k (mem_singleton_self k) rfl)
    have same : (fun j => j ∈ before ∨ j = k) = (· ∈ before ++ [k]) := by
      funext j
      simp
    rwa [← same]

theorem Closes.shut_earlier (id_pos : id ≠ 0) (word : id < 2 ^ 32)
    {arrivals : List Completion} {ks : List Nat} (earlier : ∀ k ∈ ks, k + 1 < frames.length)
    (n : Nat) :
    Shut (ep.receiveAll (arrivals ++ ks.map f)) id n ↔ Shut (ep.receiveAll arrivals) id n := by
  induction ks using List.reverseRecOn with
  | nil => simp
  | append_singleton ks k ih =>
    have bound : k + 1 < frames.length := earlier k (by simp)
    obtain ⟨carries, length⟩ := closes k (by omega)
    rw [map_append, map_singleton, ← append_assoc, receiveAll_concat,
      shut_data (dataFrame_of_carries (carries_of_closing carries (Nat.ne_of_lt bound))) id_pos word
        (by rw [geometry_receiveAll]; exact length),
      ih fun j hj => earlier j (mem_append_left _ hj)]

theorem Closes.shut_last (id_pos : id ≠ 0) (word : id < 2 ^ 32)
    (passed : Passes (ep.receiveAll (before.map f)) id frames (· ∈ before))
    (nonempty : frames ≠ []) (n : Nat) :
    Shut (ep.receiveAll ((before ++ [frames.length - 1]).map f)) id n ↔
      ∃ s uds, (ep.receiveAll (before.map f)).streams id = some s ∧ s.udsSock = some uds ∧
        uds.sends = n := by
  have positive : 0 < frames.length := length_pos_iff.mpr nonempty
  obtain ⟨⟨stamped, data, rest, wire_eq, -⟩, length⟩ := closes (frames.length - 1) (by omega)
  have last : frames.length - 1 + 1 = frames.length := by omega
  rw [decide_eq_true last] at wire_eq
  rw [map_append, map_singleton, receiveAll_concat]
  generalize f (frames.length - 1) = arrival at wire_eq length
  obtain ⟨answers, qp, wire⟩ := arrival
  obtain rfl : wire = _ := wire_eq
  rw [← geometry_receiveAll ep (before.map f)] at length
  have classified := classifyFrame_landing answers.mem word (by decide) length
  rw [if_neg (by decide), if_neg id_pos] at classified
  simp only
  rw [recvDone_deliver qp length classified]
  refine shut_fin id_pos (fun s present => ?_) qp rfl rfl
  obtain ⟨c, passing⟩ := passed s present
  exact passing.accepts

end

theorem earlier_of_order {before after : List Nat}
    (order : (before ++ (frames.length - 1) :: after).Perm (List.range frames.length))
    (member : k ∈ before ∨ k ∈ after) : k + 1 < frames.length := by
  have moved : ((frames.length - 1) :: (before ++ after)).Perm (List.range frames.length) :=
    perm_middle.symm.trans order
  have once := moved.nodup_iff.mpr nodup_range
  have bound : k < frames.length := by
    refine mem_range.mp (moved.mem_iff.mp (mem_cons_of_mem _ ?_))
    exact mem_append.mpr member
  have other : k ≠ frames.length - 1 := by
    rintro rfl
    exact (nodup_cons.mp once).1 (mem_append.mpr member)
  omega

/-- Over every order, the socket is shut for writing only after every payload was written, exactly
if at the arrival of the FIN the stream has no socket or no payload is left to write: neither that
of the FIN's own frame nor that of a frame at or behind the first missing number. -/
theorem shutdown_follows_payload_iff (id_pos : id ≠ 0) (word : id < 2 ^ 32)
    (numbers : frames.length ≤ 2 ^ 64) (awaits : Awaits ep id) (closes : Closes ep id frames f)
    {before after : List Nat}
    (order : (before ++ (frames.length - 1) :: after).Perm (List.range frames.length)) :
    (∀ seen, seen <+: before ++ (frames.length - 1) :: after →
      ∀ n, Shut (ep.receiveAll (seen.map f)) id n → n = passes frames) ↔
      ∀ s uds, (ep.receiveAll (before.map f)).streams id = some s → s.udsSock = some uds →
        ∀ k data, s.reorder.nextExpected ≤ k → frames[k]? = some data → data = [] := by
  have nonempty : frames ≠ [] := by
    rintro rfl
    exact absurd order.length_eq (by simp)
  have positive : 0 < frames.length := length_pos_iff.mpr nonempty
  have distinct := nodup_append.mp (order.nodup_iff.mpr nodup_range)
  have passed := closes.passes id_pos word numbers awaits distinct.1
    fun k member => earlier_of_order order (.inl member)
  have shuts := closes.shut_last id_pos word passed nonempty
  -- what the socket has taken when the FIN arrives, against what it has to take
  have taken : ∀ s uds, (ep.receiveAll (before.map f)).streams id = some s →
      s.udsSock = some uds → (uds.sends = passes frames ↔
        ∀ k data, s.reorder.nextExpected ≤ k → frames[k]? = some data → data = []) := by
    intro s uds present socket
    obtain ⟨c, passing⟩ := passed s present
    have unseen : frames.length - 1 ∉ before := fun member =>
      distinct.2.2 _ member _ mem_cons_self rfl
    have cursor := (passing.tracks.le_of_new numbers (by omega) unseen).2
    rcases passing.socket with ⟨absent, -⟩ | ⟨uds', socket', -, sends⟩
    · exact nomatch socket.symm.trans absent
    · cases socket.symm.trans socket'
      rw [sends, cursor]
      exact passes_take_eq_iff frames c
  constructor
  · intro follows s uds present socket
    refine (taken s uds present socket).mp (follows (before ++ [frames.length - 1]) ?_ _ ?_)
    · exact ⟨after, by simp⟩
    · exact (shuts uds.sends).mpr ⟨s, uds, present, socket, rfl⟩
  · intro finished seen begun n shut
    have last : before ++ [frames.length - 1] <+: before ++ (frames.length - 1) :: after :=
      ⟨after, by simp⟩
    have atLast : Shut (ep.receiveAll ((before ++ [frames.length - 1]).map f)) id n →
        n = passes frames := by
      intro shut
      obtain ⟨s, uds, present, socket, rfl⟩ := (shuts n).mp shut
      exact (taken s uds present socket).mpr (finished s uds present socket)
    rcases prefix_or_prefix_of_prefix begun last with inside | ⟨later, rfl⟩
    · rcases prefix_concat_iff.mp inside with rfl | ⟨rest, rfl⟩
      · exact atLast shut
      · -- nothing is shut in front of the FIN
        have untouched : Shut (ep.receiveAll []) id n :=
          (closes.shut_earlier id_pos word (fun k member =>
            earlier_of_order order (.inl (mem_append_left rest member))) n).mp shut
        obtain ⟨s, present, uds, socket, closed, -⟩ := untouched
        obtain ⟨-, -, uds', socket', isOpen, -⟩ := awaits s present
        cases socket.symm.trans socket'
        exact absurd closed (by simp [isOpen])
    · have behind : later <+: after := by
        rw [append_assoc, singleton_append, prefix_append_right_inj,
          cons_prefix_cons] at begun
        exact begun.2
      rw [map_append, closes.shut_earlier id_pos word fun k member =>
        earlier_of_order order (.inr (behind.subset member))] at shut
      exact atLast shut

end Closing

def closingFrames (last : Payload) (k : Nat) : Completion :=
  ⟨answering, 0, if k = 0 then encode 1 0 typeData dataFlagSyn 0 1 ++ [7]
    else encode 1 1 typeData dataFlagFin 0 last.length ++ last⟩

theorem closes_closingFrames {last : Payload} (short : last.length ≤ 1) :
    Closes smallAcceptor 1 [[7], last] (closingFrames last) := by
  have room : smallAcceptor.geometry.bufSize = 4096 := by decide
  intro k bound
  have cases : k = 0 ∨ k = 1 := by
    simp at bound
    omega
  rcases cases with rfl | rfl
  · refine ⟨⟨false, [7], [], by simp [closingFrames, closingFlags, dataFlags], rfl⟩, ?_⟩
    simp only [closingFrames, if_true, length_append, length_encode, room]
    decide
  · refine ⟨⟨false, last, [], by simp [closingFrames, closingFlags, dataFlags], rfl⟩, ?_⟩
    simp only [closingFrames, Nat.one_ne_zero, if_false, length_append, length_encode, room]
    unfold headerSize
    omega

/-- A FIN without payload that comes last shuts the socket in time. -/
theorem shutdown_follows_payload_in_order :
    Shut (smallAcceptor.receiveAll ([0, 1].map (closingFrames []))) 1 (passes [[7], []]) ∧
      ∀ seen, seen <+: [0, 1] → ∀ n,
        Shut (smallAcceptor.receiveAll (seen.map (closingFrames []))) 1 n →
          n = passes [[7], []] := by
  constructor
  · have evaluated : ((smallAcceptor.receiveAll ([0, 1].map (closingFrames []))).streams 1).any
        (fun s => s.udsSock.any fun uds => decide (uds.shutWr = true ∧ uds.sends = 1)) = true := by
      decide +kernel
    obtain ⟨s, present, opened⟩ := (Option.any_eq_true ..).mp evaluated
    obtain ⟨uds, socket, facts⟩ := (Option.any_eq_true ..).mp opened
    exact ⟨s, present, uds, socket, of_decide_eq_true facts⟩
  · have order : ([0] ++ (List.length [[(7 : UInt8)], []] - 1) :: []).Perm
        (List.range (List.length [[(7 : UInt8)], []])) := by decide
    refine (shutdown_follows_payload_iff (by decide) (by decide) (by decide)
      (fun s present => by simp [smallAcceptor, init] at present)
      (closes_closingFrames (by decide)) order).mpr ?_
    intro s uds present _ k data ahead frame
    have evaluated : ((smallAcceptor.receiveAll ([0].map (closingFrames []))).streams 1).all
        (fun s => decide (s.reorder.nextExpected = 1)) = true := by decide +kernel
    rw [present, all_some, decide_eq_true_eq] at evaluated
    obtain rfl | ⟨k, rfl⟩ : k = 1 ∨ ∃ j, k = j + 2 := by
      rcases Nat.lt_or_ge k 2 with small | large
      · exact .inl (by omega)
      · exact .inr ⟨k - 2, by omega⟩
    · simpa using frame.symm
    · simp at frame

/-- In order, the FIN shuts the socket in front of its own payload: the byte 8 is never written. -/
theorem fin_cuts_own_payload :
    ∃ s uds, (smallAcceptor.receiveAll ([0, 1].map (closingFrames [8]))).streams 1 = some s ∧
      s.udsSock = some uds ∧ uds.shutWr = true ∧ uds.sends = 1 ∧ uds.written = [7] ∧
      passes [[7], [8]] = 2 := by
  have evaluated : ((smallAcceptor.receiveAll ([0, 1].map (closingFrames [8]))).streams 1).any
      (fun s => s.udsSock.any fun uds =>
        decide (uds.shutWr = true ∧ uds.sends = 1 ∧ uds.written = [7])) = true := by
    decide +kernel
  obtain ⟨s, present, opened⟩ := (Option.any_eq_true ..).mp evaluated
  obtain ⟨uds, socket, facts⟩ := (Option.any_eq_true ..).mp opened
  obtain ⟨shut, sends, written⟩ := of_decide_eq_true facts
  exact ⟨s, uds, present, socket, shut, sends, written, by decide⟩

end Endpoint

end Urp
