import Urp.Link.Rounds

/-!
# The window gate and the grants that open it
-/

namespace Urp.Link

open Urp.Lib Urp.Reorder Urp.Frame Urp.Window Urp.Rx Urp.Tx
open Urp.Stream (Pump Phase SendResult Socket)

def AtGate (x : Link) (wire : List UInt8) (len : Nat) : Prop :=
  ∃ sendSyn qp, x.tx.txThread = some ⟨sendSyn, .posting qp wire len⟩

def UpToDate (x : Link) : Prop :=
  ∃ sendSyn phase, x.tx.txThread = some ⟨sendSyn, phase⟩ ∧
    (phase = .reading ∨ ∃ qp wire len, phase = .posting qp wire len)

variable {x : Link} {wire : List UInt8} {len : Nat}

theorem AtGate.upToDate (gate : x.AtGate wire len) : x.UpToDate := by
  obtain ⟨sendSyn, qp, thread⟩ := gate
  exact ⟨sendSyn, _, thread, .inr ⟨qp, wire, len, rfl⟩⟩

/-- The gate for a next frame of `len` bytes. -/
def Admits (x : Link) (len : Nat) : Prop :=
  hasRoom x.tx.txBytes x.tx.txBytesAcked x.tx.windowBytes len = true

def AllDelivered (x : Link) : Prop := x.rx.rxBytes = x.posted.flatten.length

def LatestGrantArrived (x : Link) : Prop := ∀ n ∈ x.granted.getLast?, n ≤ x.tx.txBytesAcked

section Gate

variable {c : Config} {allocated : Prop} {arrived : List Nat} {released : Nat} {a : Account c}
  {x : Link}

section

variable (sound : Sound c allocated arrived released a x)
include sound

theorem Sound.txBytes (current : x.UpToDate) : x.tx.txBytes = a.sent := by
  obtain ⟨sendSyn, phase, thread, counted⟩ := current
  have counting := (sound.sending _ thread).1
  rw [sound.sent]
  rcases counted with rfl | ⟨qp, wire, len, rfl⟩
  · exact counting
  · exact counting

theorem Sound.admits_iff (bytes : x.posted.flatten.length < 2 ^ 64) {len acked : Nat}
    (le : acked ≤ a.granted) (inflight : a.sent ≤ acked + c.tx.window)
    (fits : len ≤ epTxMaxPayload c.tx.geometry.bufSize) :
    hasRoom a.sent acked c.tx.window len = true ↔
      a.sent = acked ∨ a.sent - acked + len ≤ c.tx.window := by
  have acked_le := le.trans (a.granted_le.trans a.delivered_le)
  have window_le := c.tx.window_bounds.2
  have size_max := c.tx.geometry.size_max
  have sent := sound.sent
  refine hasRoom_iff acked_le (by omega) ?_
  simp only [epTxMaxPayload, epMaxPayload, bufferSizeMax, windowBytesMax] at *
  omega

theorem Sound.latest_le (latest : x.LatestGrantArrived) : a.granted ≤ a.acked := by
  rcases sound.latest with zero | last
  · omega
  · rw [sound.acked]
    exact latest _ last

theorem Sound.admits
    (bytes : x.posted.flatten.length < 2 ^ 64) (current : x.UpToDate) (all : x.AllDelivered)
    (latest : x.LatestGrantArrived) (fits : len ≤ epTxMaxPayload c.tx.geometry.bufSize)
    (wide : grantStep c.rx.window + len ≤ c.tx.window + 1) : x.Admits len := by
  have settled : a.delivered = a.sent := by rw [sound.delivered, all, sound.sent]
  have admitted := a.admits_of_settled settled (sound.latest_le latest) wide
  rw [Admits, sound.txBytes current, ← sound.acked, sound.tx_window,
    sound.admits_iff bytes a.acked_le a.inflight fits]
  exact admitted

end

end Gate

theorem grantStep_add_le (z : Settings) (fits : len ≤ epTxMaxPayload z.geometry.bufSize) :
    grantStep z.window + len ≤ z.window + 1 := by
  have wide := z.window_bounds.1
  have least := z.geometry.size_min
  simp only [targetFrames, epTxMaxPayload, epMaxPayload, bufferSizeMin] at *
  unfold grantStep grantDivisor
  split <;> omega

/-- Two ends with one window: at the gate the counters are in order, no more than a window is
unacknowledged, and the gate admits a next frame of any size once everything is delivered and the
last grant has arrived. -/
theorem window_safe_and_never_wedged {c : Config} (same : c.tx.window = c.rx.window)
    {es : List Event} {x : Link} (reached : Reached c es x)
    (bytes : x.posted.flatten.length < 2 ^ 64) :
    (∀ wire len, x.AtGate wire len →
      x.tx.txBytesAcked ≤ x.rx.rxBytes ∧ x.rx.rxBytes ≤ x.tx.txBytes) ∧
    x.posted.flatten.length ≤ x.tx.txBytesAcked + c.tx.window ∧
    (x.UpToDate → x.AllDelivered → x.LatestGrantArrived →
      ∀ next ≤ epTxMaxPayload c.tx.geometry.bufSize, x.Admits next) := by
  obtain ⟨arrived, released, a, sound⟩ := reached.sound False bytes False.elim
  refine ⟨fun wire len gate => ?_, ?_, fun current all latest next fits => ?_⟩
  · rw [sound.txBytes gate.upToDate, ← sound.acked, ← sound.delivered]
    exact ⟨a.acked_le.trans a.granted_le, a.delivered_le⟩
  · rw [← sound.sent, ← sound.acked]
    exact a.inflight
  · apply sound.admits bytes current all latest fits
    rw [← same]
    exact grantStep_add_le c.tx fits

/-- The first frame finds the gate open for every size. -/
theorem window_safe_at_first_frame : let x := (initial smallConfig).holds smallConfig true 100
    Reached smallConfig [.pump (.read (plainRead 100) (some 0))] x ∧ x.rx.rxBytes ≤ x.tx.txBytes ∧
      ∀ next ≤ epTxMaxPayload smallConfig.tx.geometry.bufSize, x.Admits next := by
  have reached := (reached_initial smallConfig).step
    (step_read (initial_reads smallConfig) (by decide : 0 < 100) (by decide))
  have safe := window_safe_and_never_wedged smallConfig_window reached (by decide)
  have gate : ((initial smallConfig).holds smallConfig true 100).AtGate
      ((initial smallConfig).sendsWire smallConfig true 100) 100 := ⟨false, 0, rfl⟩
  exact ⟨reached, (safe.1 _ _ gate).2,
    safe.2.2 gate.upToDate rfl (initial_quiet smallConfig).arrived⟩

theorem Quiet.upToDate {c : Config} (quiet : Quiet c x) : x.UpToDate := by
  obtain ⟨sendSyn, reads⟩ := quiet.reads
  exact ⟨sendSyn, .reading, reads.thread, .inl rfl⟩

theorem Quiet.admits {c : Config} (same : c.tx.window = c.rx.window) {es : List Event}
    (quiet : Quiet c x) (reached : Reached c es x) (bytes : x.posted.flatten.length < 2 ^ 64)
    {n : Nat} (fits : n ≤ epTxMaxPayload c.tx.geometry.bufSize) : x.Admits n := by
  obtain ⟨arrived, released, a, sound⟩ := reached.sound False bytes False.elim
  apply sound.admits bytes quiet.upToDate (quiet.delivered sound bytes) quiet.arrived fits
  rw [← same]
  exact grantStep_add_le c.tx fits

/-- After 2 ^ 64 bytes the counter of the thread is 0 again, while the acknowledged bytes stay. -/
theorem acked_passes_wrapped_counter : smallConfig.tx.window = smallConfig.rx.window ∧
    ∃ es x wire, Reached smallConfig es x ∧ x.AtGate wire 2048 ∧
      x.tx.txBytes < x.tx.txBytesAcked := by
  have fits : 2048 ≤ epTxMaxPayload smallConfig.tx.geometry.bufSize := by decide
  have length : headerSize + 2048 ≤ smallConfig.rx.geometry.bufSize := by decide
  have total := length_flatten_replicate (2 ^ 53 - 1) 2048
  obtain ⟨es, x, reached, quiet, posted⟩ := rounds (c := smallConfig) (n := 2048) (k := 2 ^ 53 - 1)
    (by decide) fits length (by decide) fun j below es x reached quiet posted => by
      refine quiet.admits smallConfig_window reached ?_ fits
      rw [posted, length_flatten_replicate]
      omega
  rw [← posted] at total
  have bytes : x.posted.flatten.length < 2 ^ 64 := by omega
  have room := quiet.admits smallConfig_window reached bytes fits
  obtain ⟨arrived, released, a, sound⟩ := reached.sound False bytes False.elim
  obtain ⟨sendSyn, reads⟩ := quiet.reads
  have sent := reached.append (run_send reads (by decide) fits room)
  have next : (x.sends smallConfig sendSyn 2048).Reads false := ⟨rfl, reads.uds⟩
  have held := sent.step (step_read next (by decide) fits)
  refine ⟨smallConfig_window, _, _, _, held, ⟨false, 0, rfl⟩, ?_⟩
  have counter : x.tx.txBytes = 2 ^ 64 - 2048 := by
    rw [sound.txBytes quiet.upToDate, sound.sent]
    omega
  have wrapped :
      ((x.sends smallConfig sendSyn 2048).holds smallConfig false 2048).tx.txBytes = 0 := by
    change wrap64 (x.tx.txBytes + 2048) = 0
    unfold wrap64
    omega
  rw [wrapped]
  change 0 < x.tx.txBytesAcked
  have latest := sound.latest_le quiet.arrived
  have due := a.due
  have delivered : a.delivered = 2 ^ 64 - 2048 := by
    rw [sound.delivered, quiet.delivered sound bytes]
    omega
  have small : grantStep smallConfig.rx.window = 8192 := by decide
  rw [← sound.acked]
  omega

/-! ## Two windows -/

def maxFrame (c : Config) : Nat :=
  min (epTxMaxPayload c.tx.geometry.bufSize) (epMaxPayload c.rx.geometry.bufSize)

def GrantOpens (c : Config) (x : Link) : Prop :=
  ∀ wire len, x.AtGate wire len → wire.length ≤ c.rx.geometry.bufSize → ¬x.Admits len →
    x.AllDelivered →
    ∃ n ∈ x.granted,
      hasRoom x.tx.txBytes (applyGrant x.tx.txBytesAcked n) x.tx.windowBytes len = true

section Blocked

variable {c : Config} {allocated : Prop} {arrived : List Nat} {released : Nat} {a : Account c}
  {x : Link}

section

variable (sound : Sound c allocated arrived released a x)
include sound

theorem Sound.len_le_maxFrame (gate : x.AtGate wire len)
    (length : wire.length ≤ c.rx.geometry.bufSize) :
    len ≤ epTxMaxPayload c.tx.geometry.bufSize ∧ len ≤ maxFrame c := by
  obtain ⟨sendSyn, qp, thread⟩ := gate
  obtain ⟨-, held, data, -, rfl, -, fits, -, -, carries⟩ := sound.sending _ thread
  obtain ⟨stamped, data', rest, rfl, frame⟩ := carries
  obtain rfl : data = data' := Option.some.inj (List.getElem?_concat_length.symm.trans frame)
  simp only [List.length_append, length_encode] at length
  refine ⟨fits, le_min fits ?_⟩
  unfold epMaxPayload
  omega

theorem Sound.grant_opens (bytes : x.posted.flatten.length < 2 ^ 64)
    (wide : grantStep c.rx.window + maxFrame c ≤ c.tx.window + 1) : GrantOpens c x := by
  intro wire len gate length shut all
  obtain ⟨fits, short⟩ := sound.len_le_maxFrame gate length
  have due := a.due
  have granted_le := a.granted_le.trans a.delivered_le
  have settled : a.delivered = a.sent := by rw [sound.delivered, all, sound.sent]
  have current := sound.txBytes gate.upToDate
  rcases sound.latest with zero | last
  · refine absurd ?_ shut
    rw [Admits, current, ← sound.acked, sound.tx_window,
      sound.admits_iff bytes a.acked_le a.inflight fits]
    exact a.admits_of_settled settled (by omega) (by omega)
  · refine ⟨a.granted, List.mem_of_getLast? last, ?_⟩
    have top : applyGrant x.tx.txBytesAcked a.granted = a.granted := by
      rw [applyGrant_eq_max, ← sound.acked]
      exact Nat.max_eq_right a.acked_le
    rw [top, current, sound.tx_window, sound.admits_iff bytes le_rfl (by omega) fits]
    exact .inr (by omega)

theorem Sound.no_grant
    (few : x.posted.flatten.length < grantStep c.rx.window) : x.granted = [] := by
  have granted_le := a.granted_le.trans a.delivered_le
  have sent := sound.sent
  refine List.eq_nil_iff_forall_not_mem.mpr fun n emitted => ?_
  have least := sound.least n emitted
  have le := sound.emitted n emitted
  omega

end

end Blocked

theorem maxFrame_bounds (c : Config) :
    0 < maxFrame c ∧ maxFrame c ≤ epTxMaxPayload c.tx.geometry.bufSize ∧
      headerSize + maxFrame c ≤ c.rx.geometry.bufSize := by
  have tx_least := c.tx.geometry.size_min
  have rx_least := c.rx.geometry.size_min
  simp only [maxFrame, epTxMaxPayload, epMaxPayload, headerSize, tstampTrailerLen,
    bufferSizeMin] at *
  omega

theorem exists_blocked {c : Config}
    (narrow : c.tx.window + 1 < grantStep c.rx.window + maxFrame c) :
    ∃ es x wire, Reached c es x ∧ x.posted.flatten.length < 2 ^ 64 ∧ x.AtGate wire (maxFrame c) ∧
      wire.length ≤ c.rx.geometry.bufSize ∧ ¬x.Admits (maxFrame c) ∧ x.AllDelivered ∧
      x.granted = [] := by
  obtain ⟨positive, fits, length⟩ := maxFrame_bounds c
  have window_le := c.tx.window_bounds.2
  have window_ge := c.tx.window_bounds.1
  have rx_ge := c.rx.window_bounds.1
  have tx_least := c.tx.geometry.size_min
  have rx_least := c.rx.geometry.size_min
  have step_ge : 2 ≤ grantStep c.rx.window := by
    simp only [targetFrames, bufferSizeMin] at rx_ge rx_least
    unfold grantStep grantDivisor
    split <;> omega
  obtain ⟨k, k_eq⟩ : ∃ k, k = min (grantStep c.rx.window - 1) c.tx.window := ⟨_, rfl⟩
  simp only [targetFrames, bufferSizeMin, windowBytesMax] at *
  have bytes : k * 1 < 2 ^ 64 := by omega
  obtain ⟨es, x, reached, quiet, posted⟩ := rounds (c := c) (n := 1) (k := k) Nat.one_pos
    (by omega) (by omega) bytes fun j below es x reached quiet posted => by
      have total := length_flatten_replicate j 1
      rw [← posted] at total
      obtain ⟨arrived, released, a, sound⟩ := reached.sound False (by omega) False.elim
      rw [sound.txBytes quiet.upToDate, ← sound.acked, sound.tx_window,
        sound.admits_iff (by omega) a.acked_le a.inflight (by omega)]
      have sent := sound.sent
      exact .inr (by omega)
  have total := length_flatten_replicate k 1
  rw [← posted] at total
  obtain ⟨arrived, released, a, sound⟩ := reached.sound False (by omega) False.elim
  have none := sound.no_grant (by omega)
  have unacked := sound.acked_eq_zero none
  obtain ⟨sendSyn, reads⟩ := quiet.reads
  refine ⟨_, x.holds c sendSyn (maxFrame c), x.sendsWire c sendSyn (maxFrame c),
    reached.step (step_read reads positive fits), ?_, ⟨false, 0, rfl⟩, ?_, ?_, ?_, none⟩
  · change x.posted.flatten.length < 2 ^ 64
    omega
  · rwa [sendsWire, length_plainWire _ _ _ fits]
  · have sent := sound.sent
    change ¬hasRoom x.tx.txBytes x.tx.txBytesAcked x.tx.windowBytes (maxFrame c) = true
    rw [sound.txBytes quiet.upToDate, ← sound.acked, sound.tx_window,
      sound.admits_iff (by omega) a.acked_le a.inflight fits, sound.acked, unacked]
    omega
  · exact quiet.delivered sound (by omega)

/-- The gate never waits in vain exactly if one step of the receiver and the longest frame fit
into the window of the sender. -/
theorem grant_opens_iff_step_fits (c : Config) :
    (∀ es x, Reached c es x → x.posted.flatten.length < 2 ^ 64 → GrantOpens c x) ↔
      grantStep c.rx.window + maxFrame c ≤ c.tx.window + 1 := by
  constructor
  · intro opens
    by_contra narrow
    obtain ⟨es, x, wire, reached, bytes, gate, length, shut, all, none⟩ :=
      exists_blocked (Nat.lt_of_not_le narrow)
    obtain ⟨n, granted, -⟩ := opens es x reached bytes wire _ gate length shut all
    simp [none] at granted
  · intro wide es x reached bytes
    obtain ⟨arrived, released, a, sound⟩ := reached.sound False bytes False.elim
    exact sound.grant_opens bytes wide

def wideSettings : Settings where
  geometry := Geometry.resolve 4096 1
  sizes := ⟨2 ^ 30, 4096, 65536, 0, 0⟩
  size := by decide
  pool := by decide

/-- The receiver grants every 2 ^ 25 bytes and the sender's window is 2 ^ 15 bytes. -/
theorem wide_receiver_grants_too_late :
    ∃ es x wire len, Reached ⟨1, smallSettings, wideSettings, by decide, by decide⟩ es x ∧
      x.AtGate wire len ∧ wire.length ≤ wideSettings.geometry.bufSize ∧ ¬x.Admits len ∧
      x.AllDelivered ∧ x.granted = [] := by
  obtain ⟨es, x, wire, reached, -, gate, length, shut, all, none⟩ :=
    exists_blocked (c := ⟨1, smallSettings, wideSettings, by decide, by decide⟩) (by decide)
  exact ⟨es, x, wire, _, reached, gate, length, shut, all, none⟩

end Urp.Link
