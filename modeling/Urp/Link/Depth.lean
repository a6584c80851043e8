import Urp.Link.Rounds
import Mathlib.Data.Finset.Card
import Mathlib.Order.Interval.Finset.Nat

/-!
# The reorder buffer against the byte window

The gate counts bytes and the reorder buffer counts frames.
-/

namespace Urp.Link

open Urp.Lib Urp.Reorder Urp.Frame Urp.Window Urp.Rx Urp.Tx List
open Urp.Stream (Pump Phase SendResult Socket)

def Refuses (x : Link) (wire : List UInt8) : Prop :=
  (insert (fun _ => true) x.rx.reorder (wireSeq wire) (wirePayload wire)).2 = .error .ENOBUFS

/-! ## Long frames -/

variable {s : Nat}

theorem mul_le_length_flatten {frames : List Payload} (long : ∀ p ∈ frames, s ≤ p.length) :
    s * frames.length ≤ frames.flatten.length := by
  induction frames with
  | nil => exact Nat.zero_le _
  | cons p rest ih =>
    have first := long p mem_cons_self
    have more := ih fun q hq => long q (mem_cons_of_mem p hq)
    rw [length_cons, flatten_cons, length_append, Nat.mul_succ]
    omega

theorem length_le_of_nodup {l : List Nat} {low high : Nat} (once : l.Nodup)
    (inside : ∀ k ∈ l, low ≤ k ∧ k < high) : l.length ≤ high - low := by
  have subset : l.toFinset ⊆ Finset.Ico low high := fun k membership =>
    Finset.mem_Ico.mpr (inside k (mem_toFinset.mp membership))
  have count := Finset.card_le_card subset
  rwa [toFinset_card_of_nodup once, Nat.card_Ico] at count

section Full

variable {c : Config} {arrived : List Nat} {released : Nat} {a : Account c} {x : Link}

section

variable (sound : Sound c True arrived released a x)
include sound

section

variable (bytes : x.posted.flatten.length < 2 ^ 64)
include bytes

theorem Sound.unreleased {wire : List UInt8} (flying : wire ∈ x.flight) (refused : x.Refuses wire) :
    reorderDepthForWindow c.rx.window + 2 ≤ x.posted.length - released := by
  obtain ⟨ahead, fresh, full, notDue⟩ := (insert_full_iff _).mp refused
  have steady := sound.receiving.steady trivial
  have tracks := sound.receiving.tracks
  have length_le := sound.length_le
  have next : x.rx.reorder.nextExpected = released := by
    have le := tracks.le
    rw [tracks.next]
    unfold u64Max
    omega
  have size := steady.toTight.pendingCount_eq steady.toCounted steady.word
  obtain ⟨stamped, data, rest, -, frame⟩ := (sound.flight wire flying).1
  have below := (List.getElem?_eq_some_iff.mp frame).1
  have beyond : ∀ k ∈ x.rx.reorder.pending.nodes.map Node.seq, released < k ∧
      k < x.posted.length := by
    intro k membership
    obtain ⟨n, pending, rfl⟩ := mem_map.mp membership
    exact ⟨next ▸ steady.ahead n pending, tracks.seq_lt pending⟩
  have absent : wireSeq wire ∉ x.rx.reorder.pending.nodes.map Node.seq := by
    intro membership
    obtain ⟨n, pending, same⟩ := mem_map.mp membership
    exact OrderedTree.find?_eq_none.mp fresh n pending same
  have count : (released :: wireSeq wire :: x.rx.reorder.pending.nodes.map Node.seq).length ≤
      x.posted.length - released := by
    apply length_le_of_nodup
    · refine nodup_cons.mpr ⟨?_, nodup_cons.mpr ⟨absent, OrderedTree.keys_nodup _⟩⟩
      intro membership
      rcases mem_cons.mp membership with same | pending
      · omega
      · exact Nat.lt_irrefl _ (beyond _ pending).1
    · intro k membership
      simp only [mem_cons] at membership
      rcases membership with due | new | pending
      · omega
      · omega
      · exact ⟨(beyond k pending).1.le, (beyond k pending).2⟩
  rw [length_cons, length_cons, length_map] at count
  rw [size] at full
  rw [← sound.depth]
  exact (Nat.add_le_add_right full 2).trans count

theorem Sound.unreleased_bytes :
    (x.posted.drop released).flatten.length ≤ c.tx.window := by
  have parts : (x.posted.take released).flatten.length + (x.posted.drop released).flatten.length =
      x.posted.flatten.length := by
    rw [← length_append, ← flatten_append, take_append_drop]
  have acked_le := a.acked_le.trans a.granted_le
  have inflight := a.inflight
  have sent := sound.sent
  have delivered := sound.delivered
  rw [sound.receiving.bytes, wrap64_of_lt (by omega)] at delivered
  omega

theorem Sound.not_refuses {s : Nat} (long : ∀ p ∈ x.posted, s ≤ p.length)
    (enough : c.tx.window < s * (reorderDepthForWindow c.rx.window + 2)) {wire : List UInt8}
    (flying : wire ∈ x.flight) : ¬x.Refuses wire := by
  intro refused
  have unreleased := sound.unreleased bytes flying refused
  have within := sound.unreleased_bytes bytes
  have least : s * (x.posted.drop released).length ≤ (x.posted.drop released).flatten.length :=
    mul_le_length_flatten fun p membership => long p (mem_of_mem_drop membership)
  rw [length_drop] at least
  have scaled := Nat.mul_le_mul_left s unreleased
  omega

end

end

end Full

/-! ## Short frames -/

structure Burst (c : Config) (s k : Nat) (x : Link) : Prop where
  reads : ∃ sendSyn, x.Reads sendSyn
  posted : x.posted = List.replicate k (List.replicate s 0)
  empty : x.rx.reorder = ⟨.empty, [], 0, 0, 0, reorderDepthForWindow c.rx.window⟩
  flight : x.flight.map wireSeq = List.range k
  lengths : ∀ wire ∈ x.flight, wire.length = headerSize + s
  granted : x.granted = []

variable {c : Config} {k : Nat}

theorem burst (positive : 0 < s)
    (fits : s ≤ epTxMaxPayload c.tx.geometry.bufSize) (admitted : k * s ≤ c.tx.window) :
    ∃ es x, Reached c es x ∧ (∀ e ∈ es, e.Allocates) ∧ Burst c s k x := by
  have window_le := c.tx.window_bounds.2
  unfold windowBytesMax at window_le
  induction k with
  | zero =>
    refine ⟨[], initial c, reached_initial c, by simp,
      ⟨true, initial_reads c⟩, rfl, rfl, rfl, ?_, rfl⟩
    simp [initial]
  | succ k ih =>
    rw [Nat.succ_mul] at admitted
    obtain ⟨es, x, reached, allocates, before⟩ := ih (by omega)
    obtain ⟨sendSyn, reads⟩ := before.reads
    have total := length_flatten_replicate k s
    rw [← before.posted] at total
    obtain ⟨arrived, released, a, sound⟩ := reached.sound False (by omega) False.elim
    have length_le := sound.length_le
    have length : x.posted.length = k := by rw [before.posted, length_replicate]
    obtain ⟨counting, held, -, txSeq, -⟩ := sound.sending _ reads.thread
    have number : wireSeq (x.sendsWire c sendSyn s) = k := by
      rw [wrap64_of_lt (by omega), length] at txSeq
      rw [sendsWire, wireSeq_frameWire _ _ (by simpa using fits) (by omega), txSeq]
    have room : hasRoom x.tx.txBytes x.tx.txBytesAcked x.tx.windowBytes s = true := by
      have posted : x.tx.txBytes = x.posted.flatten.length := counting
      rw [sound.tx_window, posted, sound.acked_eq_zero before.granted,
        hasRoom_iff (Nat.zero_le _) (by omega) (by omega)]
      exact .inr (by omega)
    refine ⟨_, _, reached.append (run_send reads positive fits room), ?_,
      ⟨false, rfl, reads.uds⟩, ?_, before.empty, ?_, ?_, before.granted⟩
    · intro e membership
      rcases mem_append.mp membership with old | new
      · exact allocates e old
      · simp only [sendEvents, mem_cons, not_mem_nil, or_false] at new
        rcases new with rfl | rfl | rfl <;> trivial
    · rw [sends, before.posted, replicate_succ']
    · rw [sends, map_append, before.flight, range_succ, map_singleton, number]
    · intro wire membership
      rcases mem_append.mp membership with old | new
      · exact before.lengths wire old
      · rw [mem_singleton.mp new, sendsWire, length_plainWire _ _ _ fits]

structure Piled (s k j : Nat) (x : Link) : Prop where
  posted : x.posted = List.replicate k (List.replicate s 0)
  next : x.rx.reorder.nextExpected = 0
  pending : ∀ n ∈ x.rx.reorder.pending, 0 < n.seq ∧ n.seq ≤ j
  size : x.rx.reorder.pending.size = j
  flight : x.flight.map wireSeq = 0 :: List.range' (j + 1) (k - 1 - j)
  lengths : ∀ wire ∈ x.flight, wire.length = headerSize + s

theorem arrive_early {rb : Buffer} {seq : Nat} (data : Payload) (steady : Steady rb)
    (early : rb.nextExpected < seq) (fresh : rb.pending.find? seq = none)
    (room : rb.pending.size < rb.maxBuffered) :
    (arrive (fun _ => true) rb seq data).1 = (rb.link ⟨seq, data⟩).flush := by
  have size := steady.toTight.pendingCount_eq steady.toCounted steady.word
  have missing : ∀ n ∈ (rb.link ⟨seq, data⟩).pending,
      n.seq ≠ (rb.link ⟨seq, data⟩).nextExpected := by
    intro n pending
    rw [link_nextExpected]
    rcases OrderedTree.mem_insert.mp pending with rfl | ⟨old, -⟩
    · exact early.ne'
    · exact (steady.ahead n old).ne'
  rw [arrive, if_neg early.ne', insert_accepts data (by omega) fresh (.inr (by omega)) rfl,
    drainPrefix_idle _ missing]

theorem Piled.step {es : List Event} {x : Link} {j : Nat} (piled : Piled s k j x)
    (reached : Reached c es x) (allocates : ∀ e ∈ es, e.Allocates)
    (length : headerSize + s ≤ c.rx.geometry.bufSize) (bytes : k * s < 2 ^ 64)
    (more : j + 1 < k) (room : j < reorderDepthForWindow c.rx.window) :
    ∃ es' y, Reached c es' y ∧ (∀ e ∈ es', e.Allocates) ∧ Piled s k (j + 1) y := by
  have total := length_flatten_replicate k s
  rw [← piled.posted] at total
  obtain ⟨arrived, released, a, sound⟩ := reached.sound True (by omega)
    fun _ => allocates
  have length_le := sound.length_le
  have steady := sound.receiving.steady trivial
  obtain ⟨m, rest_eq⟩ : ∃ m, k - 1 - j = m + 1 := ⟨k - 2 - j, by omega⟩
  have numbers := piled.flight
  rw [rest_eq, List.range'_succ] at numbers
  obtain ⟨wire, found, seq⟩ : ∃ wire, x.flight[1]? = some wire ∧ wireSeq wire = j + 1 := by
    rw [← Option.map_eq_some_iff, ← List.getElem?_map, numbers]
    rfl
  have flying : wire ∈ x.flight := mem_of_getElem? found
  have fits : wire.length ≤ c.rx.geometry.bufSize := by rwa [piled.lengths wire flying]
  have moved : Link.step c x (.arrive 1 (fun _ => true) (fun _ _ => 0)) =
      some (x.receives c 1 (fun _ => true) (fun _ _ => 0) wire) := by
    simp [Link.step, found, fits]
  obtain ⟨carries, new⟩ := sound.flight wire flying
  obtain ⟨stamped, data, rest, -, frame⟩ := id carries
  obtain ⟨released', s', -, received, -, reorder, -⟩ := receive_data sound.receiving (by omega)
    c.id_pos c.id_lt carries frame fits new (fun _ _ => rfl) (fun _ _ => 0)
  have fresh : x.rx.reorder.pending.find? (j + 1) = none := by
    refine OrderedTree.find?_eq_none.mpr fun n pending same => ?_
    have below := (piled.pending n pending).2
    omega
  rw [seq, arrive_early data steady (by rw [piled.next]; omega) fresh
    (by rw [piled.size, sound.depth]; exact room)] at reorder
  have piledUp : (x.receives c 1 (fun _ => true) (fun _ _ => 0) wire).rx.reorder =
      (x.rx.reorder.link ⟨j + 1, data⟩).flush := by
    rw [receives, received, windowGrant_reorder, reorder]
  refine ⟨_, _, reached.step moved, ?_, piled.posted, ?_, ?_, ?_, ?_, ?_⟩
  · intro e membership
    rcases mem_append.mp membership with old | new
    · exact allocates e old
    · rw [mem_singleton.mp new]
      exact fun _ => rfl
  · rw [piledUp]
    exact piled.next
  · rw [piledUp]
    intro n pending
    rcases OrderedTree.mem_insert.mp pending with rfl | ⟨old, -⟩
    · exact ⟨Nat.succ_pos j, le_rfl⟩
    · have bounds := piled.pending n old
      omega
  · rw [piledUp, flush_pending, link_pending, OrderedTree.size_insert fresh, piled.size]
  · have next : k - 1 - (j + 1) = m := by omega
    rw [next, receives, ← eraseIdx_map, numbers]
    rfl
  · exact fun w membership => piled.lengths w (mem_of_mem_eraseIdx membership)

theorem Burst.piled {x : Link} (sent : Burst c s k x) (some_sent : 0 < k) : Piled s k 0 x := by
  obtain ⟨m, rfl⟩ := Nat.exists_eq_succ_of_ne_zero some_sent.ne'
  refine ⟨sent.posted, by rw [sent.empty], by simp [sent.empty], by rw [sent.empty]; rfl, ?_,
    sent.lengths⟩
  rw [sent.flight, range_eq_range', List.range'_succ]
  rfl

theorem exists_piled {j : Nat} (positive : 0 < s) (fits : s ≤ epTxMaxPayload c.tx.geometry.bufSize)
    (length : headerSize + s ≤ c.rx.geometry.bufSize) (admitted : k * s ≤ c.tx.window)
    (more : j < k) (room : j ≤ reorderDepthForWindow c.rx.window) :
    ∃ es x, Reached c es x ∧ (∀ e ∈ es, e.Allocates) ∧ Piled s k j x := by
  have window_le := c.tx.window_bounds.2
  unfold windowBytesMax at window_le
  induction j with
  | zero =>
    obtain ⟨es, x, reached, allocates, sent⟩ := burst positive fits admitted
    exact ⟨es, x, reached, allocates, sent.piled more⟩
  | succ j ih =>
    obtain ⟨es, x, reached, allocates, piled⟩ := ih (by omega) (by omega)
    exact piled.step reached allocates length (by omega) more (by omega)

theorem exists_refused (positive : 0 < s) (fits : s ≤ epTxMaxPayload c.tx.geometry.bufSize)
    (length : headerSize + s ≤ c.rx.geometry.bufSize)
    (short : s * (reorderDepthForWindow c.rx.window + 2) ≤ c.tx.window) :
    ∃ es x wire, Reached c es x ∧ (∀ e ∈ es, e.Allocates) ∧
      x.posted.flatten.length < 2 ^ 64 ∧ (∀ p ∈ x.posted, s ≤ p.length) ∧ wire ∈ x.flight ∧
      x.Refuses wire := by
  have window_le := c.tx.window_bounds.2
  unfold windowBytesMax at window_le
  obtain ⟨depth, depth_eq⟩ : ∃ depth, depth = reorderDepthForWindow c.rx.window := ⟨_, rfl⟩
  rw [← depth_eq, Nat.mul_comm] at short
  obtain ⟨es, x, reached, allocates, piled⟩ := exists_piled (j := depth) positive fits length short
    (by omega) depth_eq.le
  have total := length_flatten_replicate (depth + 2) s
  rw [← piled.posted] at total
  obtain ⟨arrived, released, a, sound⟩ := reached.sound True (by omega)
    fun _ => allocates
  have steady := sound.receiving.steady trivial
  have size := steady.toTight.pendingCount_eq steady.toCounted steady.word
  have numbers := piled.flight
  rw [show depth + 2 - 1 - depth = 1 by omega] at numbers
  obtain ⟨wire, found, seq⟩ : ∃ wire, x.flight[1]? = some wire ∧ wireSeq wire = depth + 1 := by
    rw [← Option.map_eq_some_iff, ← List.getElem?_map, numbers]
    rfl
  refine ⟨es, x, wire, reached, allocates, by omega, ?_, mem_of_getElem? found, ?_⟩
  · intro p membership
    rw [piled.posted] at membership
    rw [eq_of_mem_replicate membership, length_replicate]
  · refine (insert_full_iff _).mpr ⟨?_, ?_, ?_, ?_⟩
    · rw [piled.next]
      exact Nat.not_lt_zero _
    · refine OrderedTree.find?_eq_none.mpr fun n pending same => ?_
      have below := (piled.pending n pending).2
      omega
    · rw [size, piled.size, sound.depth, depth_eq]
    · rw [piled.next, seq]
      exact Nat.succ_ne_zero depth

/-- Frames of at least `s` bytes are never refused for lack of room exactly if `depth + 2` of them
exceed the window. -/
theorem never_refused_iff {c : Config} {s : Nat} (positive : 0 < s)
    (fits : s ≤ epTxMaxPayload c.tx.geometry.bufSize)
    (length : headerSize + s ≤ c.rx.geometry.bufSize) :
    (∀ es x, Reached c es x → (∀ e ∈ es, e.Allocates) → x.posted.flatten.length < 2 ^ 64 →
      (∀ p ∈ x.posted, s ≤ p.length) → ∀ wire ∈ x.flight, ¬x.Refuses wire) ↔
    c.tx.window < s * (reorderDepthForWindow c.rx.window + 2) := by
  constructor
  · intro never
    by_contra narrow
    obtain ⟨es, x, wire, reached, allocates, bytes, long, flying, refused⟩ :=
      exists_refused positive fits length (Nat.le_of_not_lt narrow)
    exact never es x reached allocates bytes long wire flying refused
  · intro enough es x reached allocates bytes long wire flying
    obtain ⟨arrived, released, a, sound⟩ := reached.sound True bytes fun _ => allocates
    exact sound.not_refuses bytes long enough flying

/-- A window of 32768 bytes and a depth of 2048 frames: frames of 16 bytes always find room. -/
theorem sixteen_bytes_never_refused :
    smallConfig.tx.window = 32768 ∧ reorderDepthForWindow smallConfig.rx.window = 2048 ∧
    ∀ es x, Reached smallConfig es x → (∀ e ∈ es, e.Allocates) →
      x.posted.flatten.length < 2 ^ 64 → (∀ p ∈ x.posted, 16 ≤ p.length) →
      ∀ wire ∈ x.flight, ¬x.Refuses wire := by
  refine ⟨by decide, by decide, ?_⟩
  exact (never_refused_iff (c := smallConfig) (by decide) (by decide) (by decide)).mpr (by decide)

/-- Frames of one byte do not. -/
theorem one_byte_refused : smallConfig.tx.window = smallConfig.rx.window ∧
    ∃ es x wire, Reached smallConfig es x ∧ (∀ e ∈ es, e.Allocates) ∧ wire ∈ x.flight ∧
      x.Refuses wire := by
  obtain ⟨es, x, wire, reached, allocates, -, -, flying, refused⟩ :=
    exists_refused (c := smallConfig) (s := 1) (by decide) (by decide) (by decide) (by decide)
  exact ⟨smallConfig_window, es, x, wire, reached, allocates, flying, refused⟩

end Urp.Link
