import Urp.Rx.Deliver
import Mathlib.Data.List.Induction

/-!
# Delivery when writes to the socket fall short or fail

The receive path advances its cursor and its byte counter without regard to what a write took.
-/

namespace Urp.Rx

open Urp.Lib Urp.Reorder Urp.Frame Urp.Stream List

structure StreamRun (g : Geometry) (frames : List Payload) (s : Stream)
    (arrivals : List (Arrival g)) : Prop where
  created : ∃ maxBuffered, alloc 0 maxBuffered = some s.reorder
  socket : s.udsSock = some .fresh
  counter : s.rxBytes = 0
  numbers : frames.length ≤ 2 ^ 64
  bytes : frames.flatten.length < 2 ^ 64
  once : (arrivals.map Arrival.seq).Nodup
  carried : ∀ a ∈ arrivals, frames[a.seq]? = some a.payload

def PrefixCounted (frames : List Payload) (s : Stream) : Prop :=
  ∃ uds, s.udsSock = some uds ∧ uds.written <+: frames.flatten ∧ s.rxBytes = uds.written.length

structure Orderly (results : Nat → SendResult) : Prop where
  whole : ∀ i < u64Max, ∀ n, results i ≠ .short n
  failing : ∀ i j, i < j → j < u64Max → results i = .error → results j = .error

/-! ## Orderly writes -/

structure Sent (results : Nat → SendResult) (released : List UInt8) (uds : Socket)
    (rxBytes : Nat) : Prop where
  writable : uds.shutWr = false
  counted : rxBytes = uds.written.length
  reached : uds.written <+: released
  calls : uds.sends ≤ released.length
  whole : (∀ i < uds.sends, results i = .full) → uds.written = released

variable {results : Nat → SendResult}

theorem Sent.write {released data : List UInt8} {uds : Socket}
    {rxBytes : Nat} (orderly : Orderly results) (sent : Sent results released uds rxBytes)
    (bound : released.length + data.length < 2 ^ 64) :
    Sent results (released ++ data) (rxSendUds results uds data).1
      (wrap64 (rxBytes + (rxSendUds results uds data).2)) := by
  have counter : rxBytes ≤ released.length := sent.counted ▸ sent.reached.length_le
  have calls := sent.calls
  by_cases empty : data = []
  · subst empty
    rwa [rxSendUds_nil, append_nil, Nat.add_zero, wrap64_of_lt (by omega)]
  have nonempty : data.length ≠ 0 := fun zero => empty (length_eq_zero_iff.mp zero)
  have index : uds.sends < u64Max := by
    unfold u64Max
    omega
  have more : uds.sends + 1 ≤ (released ++ data).length := by
    rw [length_append]
    omega
  cases result : results uds.sends with
  | full =>
    have earlier : ∀ i < uds.sends, results i = .full := by
      intro i before
      cases previous : results i with
      | full => rfl
      | short n => exact absurd previous (orderly.whole i (before.trans index) n)
      | error => simp [orderly.failing i _ before index previous] at result
    have written := sent.whole earlier
    rw [rxSendUds_full sent.writable nonempty result, wrap64_of_lt (by omega), sent.counted]
    exact ⟨sent.writable, length_append.symm, written ▸ prefix_refl _, more,
      fun _ => written ▸ rfl⟩
  | short n => exact absurd result (orderly.whole _ index n)
  | error =>
    rw [rxSendUds_error sent.writable nonempty result, Nat.add_zero, wrap64_of_lt (by omega)]
    refine ⟨sent.writable, sent.counted, sent.reached.trans (prefix_append _ _), more,
      fun all => ?_⟩
    simp [all uds.sends (Nat.lt_succ_self _)] at result

variable {s : Stream}

theorem Sent.sendAll {released : List UInt8} {uds : Socket} (orderly : Orderly results)
    (socket : s.udsSock = some uds) (sent : Sent results released uds s.rxBytes)
    (payloads : List Payload) (bound : released.length + payloads.flatten.length < 2 ^ 64) :
    ∃ uds', (sendAll results s payloads).udsSock = some uds' ∧
      Sent results (released ++ payloads.flatten) uds' (sendAll results s payloads).rxBytes := by
  induction payloads generalizing released uds s with
  | nil => exact ⟨uds, socket, by simpa [Rx.sendAll] using sent⟩
  | cons data rest ih =>
    simp only [flatten_cons, length_append] at bound
    have step := sent.write orderly (by omega : released.length + data.length < 2 ^ 64)
    rw [sendAll_cons, send_of_socket socket, flatten_cons, ← append_assoc]
    exact ih rfl step (by rw [length_append]; omega)

structure Delivered (results : Nat → SendResult) (g : Geometry) (frames : List Payload)
    (seen : List Nat) (c : Nat) (s : Stream) : Prop where
  tracks : Tracks False frames (· ∈ seen) c s.reorder
  counted : Counted s.reorder
  idle : s.reorder.drained = []
  fits : Fits g.bufSize s.reorder
  sent : ∃ uds, s.udsSock = some uds ∧ Sent results (frames.take c).flatten uds s.rxBytes

theorem length_flatten_take_le (frames : List Payload) (c : Nat) :
    (frames.take c).flatten.length ≤ frames.flatten.length := by
  conv_rhs => rw [← take_append_drop c frames, flatten_append, length_append]
  exact Nat.le_add_right _ _

variable {g : Geometry} {frames : List Payload}

theorem Delivered.step {seen : List Nat} {c : Nat} (orderly : Orderly results)
    (numbers : frames.length ≤ 2 ^ 64) (bytes : frames.flatten.length < 2 ^ 64)
    (before : Delivered results g frames seen c s) (a : Arrival g) (new : a.seq ∉ seen)
    (carried : frames[a.seq]? = some a.payload) :
    ∃ c', Delivered results g frames (seen ++ [a.seq]) c' (deliver results s a) := by
  obtain ⟨c', -, tracks, released⟩ := before.tracks.arrive numbers before.idle
    a.kmalloc carried new False.elim
  obtain ⟨uds, socket, sent⟩ := before.sent
  have bound : (frames.take c).flatten.length +
      (arrive a.kmalloc s.reorder a.seq a.payload).2.flatten.length < 2 ^ 64 := by
    rw [← length_append, ← flatten_append, released]
    exact (length_flatten_take_le frames c').trans_lt bytes
  obtain ⟨uds', socket', sent'⟩ := sent.sendAll orderly socket _ bound
  rw [← flatten_append, released] at sent'
  refine ⟨c', ?_⟩
  rw [deliver_eq results a before.counted before.fits]
  refine ⟨?_, before.counted.arrive _ _ _, arrive_drained _ _ _ _,
    before.fits.arrive _ _ a.length_payload, uds', socket', sent'⟩
  simpa using tracks

theorem Delivered.all (orderly : Orderly results) (numbers : frames.length ≤ 2 ^ 64)
    (bytes : frames.flatten.length < 2 ^ 64) (arrivals : List (Arrival g)) {seen : List Nat}
    {c : Nat} (before : Delivered results g frames seen c s)
    (once : (seen ++ arrivals.map Arrival.seq).Nodup)
    (carried : ∀ a ∈ arrivals, frames[a.seq]? = some a.payload) :
    ∃ seen' c', Delivered results g frames seen' c' (deliverAll results s arrivals) := by
  induction arrivals generalizing seen c s with
  | nil => exact ⟨seen, c, before⟩
  | cons a rest ih =>
    have new : a.seq ∉ seen := by
      intro again
      exact (nodup_append.mp once).2.2 _ again _ (mem_map_of_mem mem_cons_self) rfl
    obtain ⟨c', after⟩ := before.step orderly numbers bytes a new (carried a mem_cons_self)
    refine ih after ?_ (fun b hb => carried b (mem_cons_of_mem a hb))
    simpa using once

theorem prefixCounted_of_orderly (orderly : Orderly results) {arrivals : List (Arrival g)}
    (r : StreamRun g frames s arrivals) : PrefixCounted frames (deliverAll results s arrivals) := by
  obtain ⟨maxBuffered, created⟩ := r.created
  have empty := alloc_eq created
  have start : Delivered results g frames [] 0 s := by
    refine ⟨?_, ?_, ?_, Fits.alloc created, .fresh, r.socket, ?_⟩
    · simpa using Tracks.alloc created
    · rw [empty]
      exact ⟨rfl, rfl⟩
    · rw [empty]
    · rw [r.counter]
      exact ⟨rfl, rfl, nil_prefix, Nat.le_refl _, fun _ => rfl⟩
  obtain ⟨seen, c, after⟩ := start.all orderly r.numbers r.bytes arrivals (by simpa using r.once)
    r.carried
  obtain ⟨uds, socket, sent⟩ := after.sent
  refine ⟨uds, socket, sent.reached.trans ?_, sent.counted⟩
  exact ⟨(frames.drop c).flatten, by rw [← flatten_append, take_append_drop]⟩

/-! ## Disorderly writes -/

def inOrder (g : Geometry) (bs : List UInt8) : List (Arrival g) :=
  bs.zipIdx.map fun p => oneByte g (min p.2 u64Max) (Nat.min_le_right _ _) p.1

theorem inOrder_concat (g : Geometry) (bs : List UInt8) (b : UInt8) : inOrder g (bs ++ [b]) =
      inOrder g bs ++ [oneByte g (min bs.length u64Max) (Nat.min_le_right _ _) b] := by
  simp [inOrder, zipIdx_append]

theorem deliver_due (results : Nat → SendResult) {n m : Nat}
    (due : s.reorder = ⟨.empty, [], min n u64Max, 0, 0, m⟩) (b : UInt8) :
    deliver results s (oneByte g (min n u64Max) (Nat.min_le_right _ _) b) =
      { s.send (fun uds => rxSendUds results uds [b]) with
        reorder := ⟨.empty, [], min (n + 1) u64Max, 0, 0, m⟩ } := by
  have counted : Counted s.reorder := due ▸ ⟨rfl, rfl⟩
  have fits : Fits g.bufSize s.reorder := by
    rw [due]
    simp [Fits]
  have step : arrive (fun _ => true) s.reorder (min n u64Max) [b] =
      (⟨.empty, [], min (n + 1) u64Max, 0, 0, m⟩, [[b]]) := by
    rw [due, arrive_due, saturatingIncr64_min]
  have kmalloc : (oneByte g (min n u64Max) (Nat.min_le_right _ _) b).kmalloc = fun _ => true := rfl
  have seq : (oneByte g (min n u64Max) (Nat.min_le_right _ _) b).seq = min n u64Max := rfl
  rw [deliver_eq results _ counted fits, oneByte_payload, kmalloc, seq, step]
  rfl

def landed (results : Nat → SendResult) (bs : List UInt8) : List UInt8 :=
  (bs.zipIdx.filter fun p => results p.2 = .full).map Prod.fst

theorem landed_concat (results : Nat → SendResult) (bs : List UInt8) (b : UInt8) :
    landed results (bs ++ [b]) =
      landed results bs ++ if results bs.length = .full then [b] else [] := by
  by_cases full : results bs.length = .full <;> simp [landed, zipIdx_append, full]

def succeeded (results : Nat → SendResult) (n : Nat) : Nat :=
  (List.range n).countP fun i => results i ≠ .error

section

variable (results : Nat → SendResult)

theorem succeeded_le (n : Nat) : succeeded results n ≤ n := by
  have le := countP_le_length (p := fun i => results i ≠ .error) (l := List.range n)
  simpa [succeeded] using le

theorem succeeded_succ (n : Nat) : succeeded results (n + 1) =
      succeeded results n + if results n = .error then 0 else 1 := by
  by_cases failed : results n = .error <;> simp [succeeded, range_succ, failed]

theorem length_landed_le (bs : List UInt8) :
    (landed results bs).length ≤ succeeded results bs.length := by
  induction bs using List.reverseRecOn with
  | nil => exact Nat.le_refl _
  | append_singleton bs b ih =>
    rw [landed_concat, length_append, length_append, length_singleton, succeeded_succ]
    cases results bs.length with
    | full => simpa using ih
    | short n => simp; omega
    | error => simpa using ih

theorem deliverAll_inOrder (g : Geometry) (m : Nat) (bs : List UInt8) (short : bs.length < 2 ^ 64) :
    (deliverAll results (openStream m) (inOrder g bs)).reorder =
        ⟨.empty, [], min bs.length u64Max, 0, 0, m⟩ ∧
      (deliverAll results (openStream m) (inOrder g bs)).udsSock =
        some ⟨landed results bs, bs.length, false, false⟩ ∧
      (deliverAll results (openStream m) (inOrder g bs)).rxBytes = succeeded results bs.length := by
  induction bs using List.reverseRecOn with
  | nil => exact ⟨rfl, rfl, rfl⟩
  | append_singleton bs b ih =>
    rw [length_append, length_singleton] at short ⊢
    obtain ⟨reorder, socket, counter⟩ := ih (by omega)
    have le := succeeded_le results bs.length
    rw [inOrder_concat, deliverAll_concat, deliver_due results reorder, send_of_socket socket,
      counter, landed_concat, succeeded_succ]
    cases result : results bs.length with
    | full =>
      rw [rxSendUds_full rfl (by simp) result,
        wrap64_of_lt (by simp only [length_singleton]; omega)]
      exact ⟨rfl, by simp, by simp⟩
    | short n =>
      rw [rxSendUds_short rfl (by simp) result,
        wrap64_of_lt (by simp only [length_singleton]; omega)]
      exact ⟨rfl, by simp, by simp⟩
    | error =>
      rw [rxSendUds_error rfl (by simp) result, wrap64_of_lt (by omega)]
      exact ⟨rfl, by simp, by simp⟩

end

variable {bs : List UInt8}

theorem inOrder_seq (g : Geometry) (short : bs.length < 2 ^ 64) :
    (inOrder g bs).map Arrival.seq = List.range bs.length := by
  refine ext_getElem (by simp [inOrder]) fun i hi _ => ?_
  simp only [inOrder, length_map, length_zipIdx] at hi
  simp only [inOrder, map_map, getElem_map, getElem_zipIdx, getElem_range,
    Function.comp_apply, oneByte, u64Max]
  omega

theorem flatten_singletons (bs : List UInt8) : (bs.map ([·])).flatten = bs := by
  induction bs with
  | nil => rfl
  | cons b bs ih => simp [ih]

theorem inOrder_run (g : Geometry) {m : Nat} (positive : m ≠ 0) (short : bs.length < 2 ^ 64) :
    StreamRun g (bs.map ([·])) (openStream m) (inOrder g bs) where
  created := ⟨m, if_neg positive⟩
  socket := rfl
  counter := rfl
  numbers := by
    rw [length_map]
    omega
  bytes := by rwa [flatten_singletons]
  once := by
    rw [inOrder_seq g short]
    exact nodup_range
  carried a membership := by
    obtain ⟨⟨b, k⟩, indexed, rfl⟩ := mem_map.mp membership
    have position := mem_zipIdx_iff_getElem?.mp indexed
    have bound := (List.getElem?_eq_some_iff.mp position).1
    have number : min k u64Max = k := by
      unfold u64Max
      omega
    rw [oneByte_payload]
    simp [oneByte, number, position]

theorem not_prefixCounted_of_short (g : Geometry)
    (b : UInt8) {n : Nat} (length : bs.length < u64Max) (result : results bs.length = .short n) :
    ¬PrefixCounted ((bs ++ [b]).map ([·]))
      (deliverAll results (openStream 1) (inOrder g (bs ++ [b]))) := by
  rintro ⟨uds, socket, -, equal⟩
  obtain ⟨-, socket', counter⟩ := deliverAll_inOrder results g 1 (bs ++ [b]) (by
    unfold u64Max at length
    rw [length_append, length_singleton]
    omega)
  cases socket.symm.trans socket'
  have le := length_landed_le results bs
  rw [counter, length_append, length_singleton, succeeded_succ, landed_concat] at equal
  simp [result] at equal
  omega

theorem not_prefixCounted_of_recovery (g : Geometry) {i j : Nat} (before : i < j)
    (length : j < u64Max) (failed : results i = .error) (recovered : results j = .full) :
    ¬PrefixCounted ((List.replicate j (0 : UInt8) ++ [1]).map ([·]))
      (deliverAll results (openStream 1) (inOrder g (List.replicate j (0 : UInt8) ++ [1]))) := by
  rintro ⟨uds, socket, reached, -⟩
  obtain ⟨-, socket', -⟩ := deliverAll_inOrder results g 1 (List.replicate j (0 : UInt8) ++ [1]) (by
    unfold u64Max at length
    simp only [length_append, length_replicate, length_singleton]
    omega)
  cases socket.symm.trans socket'
  rw [flatten_singletons, landed_concat, length_replicate, if_pos recovered] at reached
  have fewer : (landed results (List.replicate j 0)).length < j := by
    have dropped : (((0 : UInt8), i) : UInt8 × Nat) ∈ (List.replicate j (0 : UInt8)).zipIdx := by
      rw [mem_zipIdx_iff_getElem?]
      simp [before]
    have lost := length_filter_lt_length_iff_exists
      (p := fun p : UInt8 × Nat => decide (results p.2 = .full)).mpr ⟨_, dropped, by simp [failed]⟩
    simpa [landed] using lost
  have last : (List.replicate j (0 : UInt8) ++ [1])[(landed results (List.replicate j 0)).length]? =
      some 1 := by
    obtain ⟨rest, joined⟩ := reached
    rw [← joined]
    simp
  rw [List.getElem?_append_left (by simpa using fewer), List.getElem?_replicate, if_pos fewer]
    at last
  exact absurd last (by decide)

/-- For every stream and every order of its arrivals the socket holds a prefix of the stream that
the counter counts, exactly if no write falls short and none succeeds after a failure. -/
theorem prefixCounted_iff_orderly (results : Nat → SendResult) :
    (∀ (g : Geometry) (frames : List Payload) (s : Stream) (arrivals : List (Arrival g)),
      StreamRun g frames s arrivals → PrefixCounted frames (deliverAll results s arrivals)) ↔
    Orderly results := by
  constructor
  · intro always
    have g := Geometry.resolve 4096 1
    have whole : ∀ i < u64Max, ∀ n, results i ≠ .short n := by
      intro i bound n result
      have length : (List.replicate i (0 : UInt8)).length = i := length_replicate
      refine not_prefixCounted_of_short g 0 (length.symm ▸ bound) (length.symm ▸ result)
        (always _ _ _ _ (inOrder_run g Nat.one_ne_zero ?_))
      unfold u64Max at bound
      simp only [length_append, length_replicate, length_singleton]
      omega
    refine ⟨whole, fun i j before bound failed => ?_⟩
    cases recovered : results j with
    | full =>
      refine absurd (always _ _ _ _ (inOrder_run g Nat.one_ne_zero ?_))
        (not_prefixCounted_of_recovery g before bound failed recovered)
      unfold u64Max at bound
      simp only [length_append, length_replicate, length_singleton]
      omega
    | short n => exact absurd recovered (whole j bound n)
    | error => rfl
  · intro orderly g frames s arrivals r
    exact prefixCounted_of_orderly orderly r

/-- The write of frame 0 fails and the write of frame 1 succeeds; or the only write falls short. -/
theorem prefix_and_counter_lost :
    ((deliverAll (fun i => if i = 0 then .error else .full) (openStream 256)
        (inOrder (Geometry.resolve 4096 1) [10, 11])).udsSock = some ⟨[11], 2, false, false⟩ ∧
      ¬([11] : List UInt8) <+: [10, 11]) ∧
    (deliverAll (fun _ => .short 0) (openStream 256)
        (inOrder (Geometry.resolve 4096 1) [10])).udsSock = some ⟨[], 1, false, false⟩ ∧
      (deliverAll (fun _ => .short 0) (openStream 256)
        (inOrder (Geometry.resolve 4096 1) [10])).rxBytes = 1 := by
  decide

end Urp.Rx
