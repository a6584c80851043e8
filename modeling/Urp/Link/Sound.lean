import Urp.Link.System

/-!
# The invariant of the link
-/

namespace Urp.Link

open Urp.Lib Urp.Reorder Urp.Frame Urp.Window Urp.Rx Urp.Tx List
open Urp.Stream (Pump Phase SendResult Socket)

/-- What the byte counter of the thread says when `total` bytes were posted. -/
def Counting (total : Nat) (s : Stream) : Pump → Prop
  | ⟨_, .reading⟩ | ⟨_, .posting _ _ _⟩ => s.txBytes = total
  | ⟨_, .accounting len⟩ => s.txBytes + len = total
  | ⟨_, .exited⟩ => True

abbrev Account (c : Config) := CreditAccount c.tx.window (grantStep c.rx.window)

structure Sound (c : Config) (allocated : Prop) (arrived : List Nat) (released : Nat)
    (a : Account c) (x : Link) : Prop where
  tx_id : x.tx.id = c.id
  tx_window : x.tx.windowBytes = c.tx.window
  rx_window : x.rx.windowBytes = c.rx.window
  depth : x.rx.reorder.maxBuffered = reorderDepthForWindow c.rx.window
  receiving : Receiving allocated False c.rx.geometry x.posted (· ∈ arrived) released x.rx
  flight : ∀ wire ∈ x.flight, Carries c.id x.posted (wireSeq wire) wire ∧ wireSeq wire ∉ arrived
  once : (x.flight.map wireSeq).Nodup
  known : ∀ k ∈ arrived, k < x.posted.length
  sending : ∀ pump, x.tx.txThread = some pump → Counting x.posted.flatten.length x.tx pump ∧
      ∃ held, Sending c.tx.geometry x.posted x.tx held pump
  nonempty : ∀ p ∈ x.posted, 0 < p.length
  sent : a.sent = x.posted.flatten.length
  delivered : a.delivered = x.rx.rxBytes
  granted : a.granted = x.rx.lastWindowGrant
  acked : a.acked = x.tx.txBytesAcked
  emitted : ∀ n ∈ x.granted, n ≤ a.granted
  least : ∀ n ∈ x.granted, grantStep c.rx.window ≤ n
  latest : a.granted = 0 ∨ x.granted.getLast? = some a.granted

theorem length_le_flatten {l : List Payload} (nonempty : ∀ p ∈ l, 0 < p.length) :
    l.length ≤ l.flatten.length := by
  induction l with
  | nil => exact Nat.le_refl _
  | cons p rest ih =>
    have first := nonempty p mem_cons_self
    have more := ih fun q hq => nonempty q (mem_cons_of_mem p hq)
    simp only [length_cons, flatten_cons, length_append]
    omega

section Step

variable {c : Config} {allocated : Prop} {arrived : List Nat} {released : Nat} {a : Account c}
  {x : Link}

theorem Sound.length_le (sound : Sound c allocated arrived released a x) :
    x.posted.length ≤ x.posted.flatten.length :=
  length_le_flatten sound.nonempty

theorem Sound.acked_eq_zero (sound : Sound c allocated arrived released a x)
    (none : x.granted = []) : x.tx.txBytesAcked = 0 := by
  have acked_le := a.acked_le
  rw [← sound.acked]
  rcases sound.latest with zero | last
  · omega
  · simp [none] at last

variable {tx : Stream}

theorem Sound.tx_step (sound : Sound c allocated arrived released a x)
    (id : tx.id = x.tx.id) (window : tx.windowBytes = x.tx.windowBytes)
    (acked : tx.txBytesAcked = x.tx.txBytesAcked)
    (sending : ∀ pump, tx.txThread = some pump → Counting x.posted.flatten.length tx pump ∧
      ∃ held, Sending c.tx.geometry x.posted tx held pump) :
    Sound c allocated arrived released a { x with tx := tx } :=
  { sound with
    tx_id := id.trans sound.tx_id
    tx_window := window.trans sound.tx_window
    sending := sending
    acked := sound.acked.trans acked.symm }

theorem Sound.pump (sound : Sound c allocated arrived released a x) {e : PumpEvent}
    (gated : Gated e = true) (pumped : PumpStep c.tx.geometry x.tx e tx none)
    (bytes : x.posted.flatten.length < 2 ^ 64) :
    Sound c allocated arrived released a { x with tx := tx } := by
  have exits : ∀ {tx : Stream} {sendSyn : Bool}, tx.id = x.tx.id → tx.windowBytes =
      x.tx.windowBytes → tx.txBytesAcked = x.tx.txBytesAcked → tx.txThread = some ⟨sendSyn,
      .exited⟩ → Sound c allocated arrived released a { x with tx := tx } := by
    intro tx sendSyn id window acked gone
    refine sound.tx_step id window acked fun pump thread => ?_
    cases gone.symm.trans thread
    exact ⟨trivial, none, rfl⟩
  have length_le := sound.length_le
  cases pumped with
  | stop thread | eof thread => exact exits rfl rfl rfl rfl
  | drop thread uds nonempty fits => cases gated
  | abort thread full | fail thread => exact exits rfl rfl rfl rfl
  | @read sendSyn r qp thread uds nonempty fits =>
    obtain ⟨counting, held, sending⟩ := sound.sending _ thread
    refine sound.tx_step rfl rfl rfl fun pump running => ?_
    cases running
    exact ⟨counting, some r.data, sending.read (by omega) nonempty fits rfl rfl⟩
  | @account sendSyn len thread =>
    obtain ⟨counting, held, sending⟩ := sound.sending _ thread
    refine sound.tx_step rfl rfl rfl fun pump running => ?_
    cases running
    refine ⟨?_, held, sending.account rfl⟩
    have total : x.tx.txBytes + len = x.posted.flatten.length := counting
    change wrap64 (x.tx.txBytes + len) = x.posted.flatten.length
    rw [total, wrap64_of_lt bytes]

variable {wire : List UInt8}

theorem Sound.post (sound : Sound c allocated arrived released a x) {e : PumpEvent} {qp : Nat}
    (gated : Gated e = true) (pumped : PumpStep c.tx.geometry x.tx e tx (some (qp, wire)))
    (bytes : (x.posts tx wire).posted.flatten.length < 2 ^ 64) :
    ∃ a', Sound c allocated arrived released a' (x.posts tx wire) := by
  cases pumped with
  | @post sendSyn windowNegotiated stalled qp len wire thread gate =>
    obtain ⟨negotiated, valve⟩ : windowNegotiated = true ∧ stalled = false := by
      simpa [Gated] using gated
    obtain ⟨counting, held, sending⟩ := sound.sending _ thread
    have total : x.tx.txBytes = x.posted.flatten.length := counting
    obtain ⟨data, -, rfl, nonempty, fits, carries, sending'⟩ := sending.post rfl
    have frame : (x.posted ++ [data])[x.posted.length]? = some data := List.getElem?_concat_length
    have size_max := c.tx.geometry.size_max
    have small : data.length ≤ c.tx.window := by
      have wide := c.tx.window_bounds.1
      simp only [targetFrames, epTxMaxPayload, epMaxPayload] at wide fits
      omega
    have payload : wirePayload wire = data := by
      refine wirePayload_carries carries frame ?_
      simp only [epTxMaxPayload, epMaxPayload, bufferSizeMax] at fits size_max
      omega
    simp only [posts, payload] at bytes ⊢
    have grown : (x.posted ++ [data]).flatten.length = x.posted.flatten.length + data.length := by
      simp
    have full : ∀ p ∈ x.posted ++ [data], 0 < p.length := by
      intro p membership
      rcases mem_append.mp membership with old | new
      · exact sound.nonempty p old
      · rwa [mem_singleton.mp new]
    have count := length_le_flatten full
    rw [sound.tx_id] at carries
    have seq := wireSeq_carries carries (by omega)
    have admitted : a.Admits data.length := by
      have acked_le := a.acked_le.trans (a.granted_le.trans a.delivered_le)
      have inflight := a.inflight
      have window_le := c.tx.window_bounds.2
      have room := (gate negotiated).resolve_right (by simp [valve])
      rw [sound.tx_window, total, ← sound.sent, ← sound.acked, hasRoom_iff acked_le
        (by rw [sound.sent]; omega) (by unfold windowBytesMax at window_le; omega)] at room
      exact room
    refine ⟨a.send data.length small admitted, ?_⟩
    refine { sound with
        receiving := sound.receiving.append [data]
        flight := ?_
        once := ?_
        known := ?_
        sending := ?_
        nonempty := full
        sent := ?_ }
    · intro w membership
      rcases mem_append.mp membership with old | new
      · exact ⟨(sound.flight w old).1.append [data], (sound.flight w old).2⟩
      · obtain rfl := mem_singleton.mp new
        rw [seq]
        exact ⟨carries, fun again => Nat.lt_irrefl _ (sound.known _ again)⟩
    · rw [map_append, nodup_append]
      refine ⟨sound.once, by simp, fun k old k' new same => ?_⟩
      obtain ⟨w, flying, rfl⟩ := mem_map.mp old
      obtain ⟨stamped, data', rest, -, present⟩ := (sound.flight w flying).1
      have below := (List.getElem?_eq_some_iff.mp present).1
      simp only [map_cons, map_nil, mem_singleton, seq] at new
      omega
    · intro k member
      have below := sound.known k member
      rw [length_append]
      omega
    · intro pump running
      cases running
      refine ⟨?_, none, sending'⟩
      change x.tx.txBytes + data.length = _
      rw [grown, total]
    · rw [grown, ← sound.sent]
      rfl

theorem receive_grant {g : Geometry} (kmalloc : Nat → Bool) (mem : Memory) (s : Stream) {id n : Nat}
    (id_lt : id < 2 ^ 32) (word : n < 2 ^ 64) :
    receive g kmalloc mem s (creditBytesFrame id n) =
      ({ s with txBytesAcked := max s.txBytesAcked n }, none) := by
  simp only [receive, classifyFrame_creditBytesFrame mem n id_lt]
  rw [receiveCredit_creditBytesFrame mem s word, applyGrant_eq_max]

theorem Sound.grant (sound : Sound c allocated arrived released a x) (mem : Memory) {n : Nat}
    (emitted : n ∈ x.granted) (bytes : x.posted.flatten.length < 2 ^ 64) :
    ∃ a', Sound c allocated arrived released a' (x.learns c mem n) := by
  have le := sound.emitted n emitted
  have word : n < 2 ^ 64 := by
    have sent_le := a.granted_le.trans a.delivered_le
    have sent := sound.sent
    omega
  refine ⟨a.ack n le, ?_⟩
  rw [learns, receive_grant _ mem x.tx c.id_lt word]
  refine { sound with
      acked := congrArg (max · n) sound.acked
      sending := fun pump thread => ?_ }
  obtain ⟨counting, held, sending⟩ := sound.sending pump thread
  refine ⟨?_, held, sending.congr rfl rfl⟩
  obtain ⟨sendSyn, phase⟩ := pump
  cases phase <;> exact counting

variable {kmalloc : Nat → Bool}

theorem receive_data {g : Geometry} {frames : List Payload} {arrived : Nat → Prop} {s : Stream}
    {id seq : Nat} {data : Payload}
    (receiving : Receiving allocated False g frames arrived released s)
    (word : frames.length ≤ 2 ^ 64) (id_pos : id ≠ 0) (id_lt : id < 2 ^ 32)
    (carries : Carries id frames seq wire) (frame : frames[seq]? = some data)
    (length : wire.length ≤ g.bufSize) (new : ¬arrived seq)
    (allocates : allocated → ∀ i, kmalloc i = true) (mem : Memory) :
    ∃ released' s', released ≤ released' ∧ receive g kmalloc mem s wire = windowGrant s' ∧
      Untouched s s' ∧ s'.reorder = (Reorder.arrive kmalloc s.reorder seq data).1 ∧
      Receiving allocated False g frames (fun k => arrived k ∨ k = seq) released' s' := by
  obtain ⟨stamped, dec, classified, -⟩ := carries.classify id_pos id_lt length mem
  have full : ∀ i : Nat, (fun _ : Nat => SendResult.full) i = .full := fun _ => rfl
  obtain ⟨released', s', le, delivered, untouched, reorder, after⟩ := receiving.deliver full word
    id_lt carries frame length classified new allocates False.elim
  refine ⟨released', s', le, ?_, untouched, reorder, after⟩
  simp only [receive, classified, receiveData, delivered, if_true]

theorem wireSeq_ne_of_mem_eraseIdx {flight : List (List UInt8)} {i : Nat} {w : List UInt8}
    (once : (flight.map wireSeq).Nodup) (found : flight[i]? = some wire)
    (other : w ∈ flight.eraseIdx i) : wireSeq w ≠ wireSeq wire := by
  obtain ⟨j, apart, position⟩ := mem_eraseIdx_iff_getElem?.mp other
  intro same
  obtain ⟨bound, -⟩ := List.getElem?_eq_some_iff.mp position
  refine apart ((List.getElem?_inj (by simpa using bound) once).mp ?_)
  simp [position, found, same]

theorem flatten_take_mono (frames : List Payload) {m n : Nat} (le : m ≤ n) :
    (frames.take m).flatten.length ≤ (frames.take n).flatten.length := by
  obtain ⟨k, rfl⟩ := Nat.exists_eq_add_of_le le
  rw [take_add, flatten_append, length_append]
  exact Nat.le_add_right _ _

theorem Sound.arrive (sound : Sound c allocated arrived released a x) {i : Nat}
    (mem : Memory) (found : x.flight[i]? = some wire)
    (length : wire.length ≤ c.rx.geometry.bufSize) (bytes : x.posted.flatten.length < 2 ^ 64)
    (allocates : allocated → ∀ i, kmalloc i = true) :
    ∃ released' a', Sound c allocated (arrived ++ [wireSeq wire]) released' a'
      (x.receives c i kmalloc mem wire) := by
  have flying : wire ∈ x.flight := mem_of_getElem? found
  obtain ⟨carries, new⟩ := sound.flight wire flying
  have word := sound.length_le
  obtain ⟨stamped, data, rest, -, frame⟩ := id carries
  obtain ⟨released', s', le, received, untouched, reorder, receiving⟩ := receive_data
    sound.receiving (by omega) c.id_pos c.id_lt carries frame length new allocates mem
  have depth : s'.reorder.maxBuffered = reorderDepthForWindow c.rx.window := by
    rw [reorder, arrive_maxBuffered, sound.depth]
  have window : s'.windowBytes = c.rx.window := untouched.windowBytes.trans sound.rx_window
  have last := untouched.lastWindowGrant
  have grows := flatten_take_mono x.posted le
  have within := flatten_take_mono x.posted receiving.tracks.le
  rw [take_length] at within
  have before : x.rx.rxBytes = (x.posted.take released).flatten.length := by
    rw [sound.receiving.bytes, wrap64_of_lt (by omega)]
  have after : s'.rxBytes = (x.posted.take released').flatten.length := by
    rw [receiving.bytes, wrap64_of_lt (by omega)]
  have sent := sound.sent
  have delivered := sound.delivered
  have granted_le := a.granted_le
  have decision : shouldGrant s'.rxBytes s'.lastWindowGrant s'.windowBytes = true ↔
      grantStep c.rx.window ≤ s'.rxBytes - a.granted := by
    rw [window, last, ← sound.granted]
    exact shouldGrant_iff (by omega) (by omega)
  have total : a.delivered + (s'.rxBytes - x.rx.rxBytes) = s'.rxBytes := by omega
  have flight : ∀ w ∈ x.flight.eraseIdx i,
      Carries c.id x.posted (wireSeq w) w ∧ wireSeq w ∉ arrived ++ [wireSeq wire] := by
    intro w membership
    obtain ⟨carries, absent⟩ := sound.flight w (mem_of_mem_eraseIdx membership)
    refine ⟨carries, fun again => ?_⟩
    rcases mem_append.mp again with old | same
    · exact absent old
    · exact wireSeq_ne_of_mem_eraseIdx sound.once found membership (mem_singleton.mp same)
  have once : ((x.flight.eraseIdx i).map wireSeq).Nodup :=
    sound.once.sublist ((eraseIdx_sublist _ _).map wireSeq)
  have known : ∀ k ∈ arrived ++ [wireSeq wire], k < x.posted.length := by
    intro k membership
    rcases mem_append.mp membership with old | new
    · exact sound.known k old
    · rw [mem_singleton.mp new]
      exact (List.getElem?_eq_some_iff.mp frame).1
  refine ⟨released', a.deliver (s'.rxBytes - x.rx.rxBytes) (grantStep_pos _) (by omega), ?_⟩
  simp only [receives, received, windowGrant]
  have books : (a.deliver (s'.rxBytes - x.rx.rxBytes) (grantStep_pos _) (by omega)).granted =
      if grantStep c.rx.window ≤ s'.rxBytes - a.granted then s'.rxBytes else a.granted := by
    simp only [CreditAccount.deliver, total]
  by_cases due : grantStep c.rx.window ≤ s'.rxBytes - a.granted
  · rw [if_pos (decision.mpr due)]
    rw [if_pos due] at books
    exact { sound with
        rx_window := window
        depth := depth
        receiving := receiving.congr (fun k => by simp) rfl rfl rfl
        flight := flight
        once := once
        known := known
        delivered := total
        granted := books
        emitted := fun n membership => by
          rw [books]
          rcases mem_append.mp membership with old | new
          · exact (sound.emitted n old).trans (by omega)
          · exact le_of_eq (by simpa using new)
        least := fun n membership => by
          rcases mem_append.mp membership with old | new
          · exact sound.least n old
          · obtain rfl : n = s'.rxBytes := by simpa using new
            exact due.trans (Nat.sub_le _ _)
        latest := .inr (by simp [books]) }
  · rw [if_neg (fun granting => due (decision.mp granting))]
    rw [if_neg due] at books
    exact { sound with
        rx_window := window
        depth := depth
        receiving := receiving.congr (fun k => by simp) rfl rfl rfl
        flight := flight
        once := once
        known := known
        delivered := total
        granted := books.trans (sound.granted.trans last.symm)
        emitted := fun n membership => books ▸ sound.emitted n (by simpa using membership)
        least := fun n membership => sound.least n (by simpa using membership)
        latest := by simpa [books] using sound.latest }

theorem Step.posted_le {e : Event} {x' : Link} (moved : Step c x e x') :
    x.posted.flatten.length ≤ x'.posted.flatten.length := by
  cases moved with
  | post gated pumped => simp [posts]
  | pump | arrive | grant => exact Nat.le_refl _

theorem Sound.step (sound : Sound c allocated arrived released a x) {e : Event} {x' : Link}
    (moved : Step c x e x') (bytes : x'.posted.flatten.length < 2 ^ 64)
    (allocates : allocated → e.Allocates) :
    ∃ arrived' released' a', Sound c allocated arrived' released' a' x' := by
  have before := moved.posted_le.trans_lt bytes
  cases moved with
  | pump gated pumped => exact ⟨arrived, released, a, sound.pump gated pumped before⟩
  | post gated pumped =>
    obtain ⟨a', sound'⟩ := sound.post gated pumped bytes
    exact ⟨arrived, released, a', sound'⟩
  | arrive found length => exact ⟨_, sound.arrive _ found length before allocates⟩
  | grant found =>
    obtain ⟨a', sound'⟩ := sound.grant _ (mem_of_getElem? found) before
    exact ⟨arrived, released, a', sound'⟩

end Step

theorem initial_sound (c : Config) (allocated : Prop) :
    Sound c allocated [] 0 (.start (grantStep_pos _)) (initial c) := by
  have depth : reorderDepthForWindow c.rx.window ≤ u32Max :=
    (reorderDepthForWindow_bounds c.rx.window).2.trans (by decide)
  constructor
  case receiving =>
    have receiving : Receiving allocated False c.rx.geometry [] (fun _ => False) 0 (initial c).rx :=
      Receiving.blank rfl depth rfl rfl rfl rfl
    exact receiving.congr (by simp) rfl rfl rfl
  case sending =>
    intro pump thread
    cases thread
    exact ⟨rfl, none, rfl, rfl, rfl⟩
  case latest => exact .inl rfl
  all_goals first | rfl | simp [initial]

variable {es : List Event}

theorem reached_iff {c : Config} {x : Link} :
    Reached c es x ↔ run (Link.step c) (initial c) es = some x := by
  rw [Reached, start_eq, Option.bind_some]

theorem Reached.sound {c : Config} {x : Link} (reached : Reached c es x)
    (allocated : Prop) (bytes : x.posted.flatten.length < 2 ^ 64)
    (allocates : allocated → ∀ e ∈ es, e.Allocates) :
    ∃ arrived released a, Sound c allocated arrived released a x := by
  refine run_history (P := fun es x => x.posted.flatten.length < 2 ^ 64 → (allocated → ∀ e ∈ es,
    e.Allocates) → ∃ arrived released a, Sound c allocated arrived released a x)
    ?_ ?_ (reached_iff.mp reached) bytes allocates
  · intro es x e x' before moved bytes allocates
    have stepped := step_sound moved
    obtain ⟨arrived, released, a, sound⟩ := before (stepped.posted_le.trans_lt bytes)
      fun h e' he => allocates h e' (mem_append_left _ he)
    exact sound.step stepped bytes fun h => allocates h e (by simp)
  · exact fun _ _ => ⟨[], 0, _, initial_sound c allocated⟩

end Urp.Link
