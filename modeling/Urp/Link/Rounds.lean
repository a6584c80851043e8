import Urp.Link.Sound

/-!
# Runs of the link that can be written down
-/

namespace Urp.Link

open Urp.Lib Urp.Reorder Urp.Frame Urp.Window Urp.Rx Urp.Tx List
open Urp.Stream (Pump Phase SendResult Socket)

def sendEvents (n : Nat) : List Event :=
  [.pump (.read (plainRead n) (some 0)), .pump (.post true false true), .pump .account]

def sendsWire (c : Config) (x : Link) (sendSyn : Bool) (n : Nat) : List UInt8 :=
  frameWire c.tx.geometry x.tx.id x.tx.txSeq sendSyn (plainRead n)

/-- The link after a frame of `n` bytes was sent. -/
def sends (c : Config) (x : Link) (sendSyn : Bool) (n : Nat) : Link :=
  { x with
    tx := { x.tx with
      txSeq := wrap64 (x.tx.txSeq + 1)
      txBytes := wrap64 (x.tx.txBytes + n)
      txThread := some ⟨false, .reading⟩ }
    posted := x.posted ++ [List.replicate n 0]
    flight := x.flight ++ [x.sendsWire c sendSyn n] }

structure Reads (x : Link) (sendSyn : Bool) : Prop where
  thread : x.tx.txThread = some ⟨sendSyn, .reading⟩
  uds : x.tx.udsSock.isSome

/-- The link with a frame of `n` bytes at the gate. -/
def holds (c : Config) (x : Link) (sendSyn : Bool) (n : Nat) : Link :=
  { x with
    tx := { x.tx with
      txSeq := wrap64 (x.tx.txSeq + 1)
      txThread := some ⟨false, .posting 0 (x.sendsWire c sendSyn n) n⟩ } }

variable {c : Config} {x : Link} {sendSyn : Bool} {n : Nat}

theorem step_read (reads : x.Reads sendSyn)
    (positive : 0 < n) (fits : n ≤ epTxMaxPayload c.tx.geometry.bufSize) :
    step c x (.pump (.read (plainRead n) (some 0))) = some (x.holds c sendSyn n) := by
  simp [step, Gated, pumpStep, reads.thread, reads.uds, positive, fits, holds, sendsWire]

theorem step_post (fits : n ≤ epTxMaxPayload c.tx.geometry.bufSize)
    (room : hasRoom x.tx.txBytes x.tx.txBytesAcked x.tx.windowBytes n = true) :
    (step c (x.holds c sendSyn n) (.pump (.post true false true))).bind
      (step c · (.pump .account)) = some (x.sends c sendSyn n) := by
  have payload : wirePayload (x.sendsWire c sendSyn n) = List.replicate n 0 :=
    wirePayload_frameWire _ _ _ (by simpa using fits)
  simp [step, Gated, pumpStep, holds, posts, room, payload, sends]

theorem run_send (reads : x.Reads sendSyn)
    (positive : 0 < n) (fits : n ≤ epTxMaxPayload c.tx.geometry.bufSize)
    (room : hasRoom x.tx.txBytes x.tx.txBytesAcked x.tx.windowBytes n = true) :
    run (step c) x (sendEvents n) = some (x.sends c sendSyn n) := by
  rw [← step_post fits room]
  simp only [run, sendEvents, step_read reads positive fits, Option.bind_some, Option.bind_fun_some]

variable {es : List Event}

theorem Reached.append {fs : List Event} {y : Link} (reached : Reached c es x)
    (ran : run (step c) x fs = some y) : Reached c (es ++ fs) y := by
  exact reached_iff.mpr (run_append_eq_some.mpr ⟨x, reached_iff.mp reached, ran⟩)

theorem Reached.step {e : Event} {y : Link}
    (reached : Reached c es x) (moved : step c x e = some y) : Reached c (es ++ [e]) y :=
  reached.append (by simp [run, moved])

/-! ## Rounds -/

structure Quiet (c : Config) (x : Link) : Prop where
  reads : ∃ sendSyn, x.Reads sendSyn
  flight : x.flight = []
  empty : x.rx.reorder = ⟨.empty, [], x.posted.length, 0, 0, reorderDepthForWindow c.rx.window⟩
  arrived : ∀ n ∈ x.granted.getLast?, n ≤ x.tx.txBytesAcked

theorem initial_reads (c : Config) : (initial c).Reads true := ⟨rfl, rfl⟩

theorem initial_quiet (c : Config) : Quiet c (initial c) :=
  ⟨⟨true, initial_reads c⟩, rfl, rfl, by simp [initial]⟩

theorem reached_initial (c : Config) : Reached c [] (initial c) := reached_iff.mpr rfl

variable {allocated : Prop} {arrived : List Nat} {released : Nat}

theorem Quiet.delivered {a : Account c}
    (quiet : Quiet c x) (sound : Sound c allocated arrived released a x)
    (bytes : x.posted.flatten.length < 2 ^ 64) : x.rx.rxBytes = x.posted.flatten.length := by
  have le := sound.receiving.tracks.le
  have next : x.posted.length = min released u64Max := by
    rw [← sound.receiving.tracks.next, quiet.empty]
  obtain rfl : released = x.posted.length := by
    omega
  rw [sound.receiving.bytes, take_length, wrap64_of_lt bytes]

theorem windowGrant_reorder (s : Stream) : (windowGrant s).1.reorder = s.reorder := by
  unfold windowGrant
  split <;> rfl

theorem receives_due {a : Account c}
    {wire : List UInt8} {m : Nat} (sound : Sound c allocated arrived released a x)
    (bytes : x.posted.flatten.length < 2 ^ 64) (flying : wire ∈ x.flight) (seq : wireSeq wire = n)
    (empty : x.rx.reorder = ⟨.empty, [], n, 0, 0, m⟩) (length : wire.length ≤ c.rx.geometry.bufSize)
    (mem : Memory) :
    (x.receives c 0 (fun _ => true) mem wire).rx.reorder =
      ⟨.empty, [], saturatingIncr64 n, 0, 0, m⟩ := by
  have length_le := sound.length_le
  obtain ⟨carries, new⟩ := sound.flight wire flying
  obtain ⟨stamped, data, rest, -, frame⟩ := id carries
  obtain ⟨released', s', -, received, -, reorder, -⟩ := receive_data sound.receiving (by omega)
    c.id_pos c.id_lt carries frame length new (fun _ _ => rfl) mem
  simp only [receives, received, windowGrant_reorder, reorder]
  rw [empty, seq, arrive_due]

theorem settle (reached : Reached c es x) (reads : x.Reads sendSyn) (flight : x.flight = [])
    (empty : x.rx.reorder = ⟨.empty, [], x.posted.length, 0, 0, reorderDepthForWindow c.rx.window⟩)
    (bytes : x.posted.flatten.length < 2 ^ 64) :
    ∃ es' y, Reached c es' y ∧ Quiet c y ∧ y.posted = x.posted := by
  cases last : x.granted.getLast? with
  | none => exact ⟨es, x, reached, ⟨⟨sendSyn, reads⟩, flight, empty, by simp [last]⟩, rfl⟩
  | some n =>
    obtain ⟨arrived, released, a, sound⟩ := reached.sound False bytes False.elim
    have word : n < 2 ^ 64 := by
      have emitted := sound.emitted n (mem_of_getLast? last)
      have sent_le := a.granted_le.trans a.delivered_le
      have sent := sound.sent
      omega
    have learned : x.learns c (fun _ _ => 0) n =
        { x with tx := { x.tx with txBytesAcked := max x.tx.txBytesAcked n } } := by
      rw [learns, receive_grant _ _ _ c.id_lt word]
    have arrives : step c x (.grant (x.granted.length - 1) (fun _ _ => 0)) =
        some { x with tx := { x.tx with txBytesAcked := max x.tx.txBytesAcked n } } := by
      rw [List.getLast?_eq_getElem?] at last
      rw [← learned, step, last]
      rfl
    refine ⟨_, _, reached.step arrives, ⟨⟨sendSyn, reads.thread, reads.uds⟩, flight, empty, ?_⟩,
      rfl⟩
    intro m latest
    obtain rfl : n = m := Option.some.inj (last.symm.trans latest)
    exact Nat.le_max_right _ _

theorem Quiet.round (quiet : Quiet c x) (reached : Reached c es x) (positive : 0 < n)
    (fits : n ≤ epTxMaxPayload c.tx.geometry.bufSize)
    (length : headerSize + n ≤ c.rx.geometry.bufSize) (bytes : x.posted.flatten.length + n < 2 ^ 64)
    (room : hasRoom x.tx.txBytes x.tx.txBytesAcked x.tx.windowBytes n = true) :
    ∃ es' y, Reached c es' y ∧ Quiet c y ∧ y.posted = x.posted ++ [List.replicate n 0] := by
  obtain ⟨sendSyn, reads⟩ := quiet.reads
  have sent := reached.append (run_send reads positive fits room)
  have total : (x.sends c sendSyn n).posted.flatten.length < 2 ^ 64 := by
    simpa [sends] using bytes
  obtain ⟨arrived, released, a, sound⟩ := sent.sound False total False.elim
  obtain ⟨arrived₀, released₀, a₀, sound₀⟩ := reached.sound False (by omega) False.elim
  have count := sound₀.length_le
  have flying : (x.sends c sendSyn n).flight = [x.sendsWire c sendSyn n] := by
    simp [sends, quiet.flight]
  have seq : wireSeq (x.sendsWire c sendSyn n) = x.posted.length := by
    obtain ⟨-, held, -, number, -⟩ := sound₀.sending _ reads.thread
    rw [wrap64_of_lt (by omega)] at number
    rw [sendsWire, wireSeq_frameWire _ _ (by simpa using fits) (by omega), number]
  have wireLength : (x.sendsWire c sendSyn n).length ≤ c.rx.geometry.bufSize := by
    rwa [sendsWire, length_plainWire _ _ _ fits]
  have delivered : step c (x.sends c sendSyn n) (.arrive 0 (fun _ => true) (fun _ _ => 0)) =
      some ((x.sends c sendSyn n).receives c 0 (fun _ => true) (fun _ _ => 0)
        (x.sendsWire c sendSyn n)) := by
    simp [step, flying, wireLength]
  have arrival := sent.step delivered
  have due := receives_due sound total (by simp [flying]) seq quiet.empty wireLength (fun _ _ => 0)
  generalize landed : (x.sends c sendSyn n).receives c 0 (fun _ => true) (fun _ _ => 0)
    (x.sendsWire c sendSyn n) = y at arrival due
  have tx : y.tx = (x.sends c sendSyn n).tx := by rw [← landed, receives]
  have posted : y.posted = x.posted ++ [List.replicate n 0] := by rw [← landed, receives, sends]
  have flight : y.flight = [] := by
    rw [← landed, receives, flying]
    rfl
  have empty : y.rx.reorder =
      ⟨.empty, [], y.posted.length, 0, 0, reorderDepthForWindow c.rx.window⟩ := by
    rw [due, posted, saturatingIncr64_of_lt (by unfold u64Max; omega), length_append]
    rfl
  have bytes' : y.posted.flatten.length < 2 ^ 64 := by simpa [posted] using bytes
  have reads' : y.Reads false := by
    constructor
    · rw [tx, sends]
    · rw [tx]
      exact reads.uds
  obtain ⟨es', z, reached', quiet', same⟩ := settle arrival reads' flight empty bytes'
  exact ⟨es', z, reached', quiet', same.trans posted⟩

theorem length_flatten_replicate (k n : Nat) :
    (List.replicate k (List.replicate n (0 : UInt8))).flatten.length = k * n := by
  simp

theorem rounds {k : Nat} (positive : 0 < n) (fits : n ≤ epTxMaxPayload c.tx.geometry.bufSize)
    (length : headerSize + n ≤ c.rx.geometry.bufSize) (bytes : k * n < 2 ^ 64)
    (room : ∀ j < k, ∀ es x, Reached c es x → Quiet c x →
      x.posted = List.replicate j (List.replicate n 0) →
      hasRoom x.tx.txBytes x.tx.txBytesAcked x.tx.windowBytes n = true) :
    ∃ es x, Reached c es x ∧ Quiet c x ∧ x.posted = List.replicate k (List.replicate n 0) := by
  induction k with
  | zero => exact ⟨[], initial c, reached_initial c, initial_quiet c, rfl⟩
  | succ k ih =>
    rw [Nat.succ_mul] at bytes
    obtain ⟨es, x, reached, quiet, posted⟩ := ih (by omega)
      fun j below => room j (Nat.lt_succ_of_lt below)
    have total : x.posted.flatten.length + n < 2 ^ 64 := by
      rwa [posted, length_flatten_replicate]
    obtain ⟨es', y, reached', quiet', posted'⟩ := quiet.round reached positive fits length total
      (room k (Nat.lt_succ_self k) es x reached quiet posted)
    refine ⟨es', y, reached', quiet', ?_⟩
    rw [posted', posted, replicate_succ']

def smallConfig : Config := ⟨1, smallSettings, smallSettings, by decide, by decide⟩

theorem smallConfig_window : smallConfig.tx.window = smallConfig.rx.window :=
  congrArg Settings.window (Eq.refl smallSettings)

end Urp.Link
