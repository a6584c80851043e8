import Mathlib.Order.MinMax
import Urp.Lib.Machine
import Urp.Frame.Layout

/-!
# Byte windows
-/

namespace Urp.Window

open Urp.Lib Urp.Frame

def windowBytesMin : Nat := 2 ^ 16

def windowBytesMax : Nat := 2 ^ 30

def grantDivisor : Nat := 4

def targetFrames : Nat := 8

def reorderMinFrame : Nat := 16

def reorderMinEntries : Nat := 256

def reorderMaxEntries : Nat := 65536

def windowClamp (v : Nat) : Nat :=
  if v < windowBytesMin then windowBytesMin
  else if windowBytesMax < v then windowBytesMax
  else v

def windowForStream (sysctlWindow bufSize numBufs linkMbps rttNs : Nat) : Nat :=
  let recvPool := numBufs / 2 * bufSize
  let frameFloor := targetFrames * bufSize
  let bdp := wrap64 (linkMbps * rttNs) / 8000
  min (windowClamp (max (max sysctlWindow bdp) frameFloor)) recvPool

def exactWindow (sysctlWindow bufSize numBufs linkMbps rttNs : Nat) : Nat :=
  let exactBdp := linkMbps * rttNs / 8000
  min (numBufs / 2 * bufSize)
    (windowClamp (max (max sysctlWindow (targetFrames * bufSize)) exactBdp))

def hasRoom (sent acked window len : Nat) : Bool :=
  let inflight := sub64 sent acked
  inflight = 0 || decide (wrap64 (inflight + len) ≤ window)

def grantStep (window : Nat) : Nat :=
  if window / grantDivisor = 0 then 1 else window / grantDivisor

def shouldGrant (delivered lastGranted window : Nat) : Bool :=
  decide (grantStep window ≤ sub64 delivered lastGranted)

def applyGrant (curAcked granted : Nat) : Nat := if curAcked < granted then granted else curAcked

def reorderDepthForWindow (window : Nat) : Nat :=
  let d := window / reorderMinFrame
  if d < reorderMinEntries then reorderMinEntries
  else if reorderMaxEntries < d then reorderMaxEntries
  else d

theorem applyGrant_eq_max (curAcked granted : Nat) :
    applyGrant curAcked granted = max curAcked granted := by
  unfold applyGrant
  split <;> omega

theorem grantStep_pos (window : Nat) : 0 < grantStep window := by
  unfold grantStep
  split_ifs with zero
  · exact Nat.one_pos
  · exact Nat.pos_of_ne_zero zero

theorem reorderDepthForWindow_bounds (window : Nat) :
    reorderMinEntries ≤ reorderDepthForWindow window ∧
      reorderDepthForWindow window ≤ reorderMaxEntries := by
  unfold reorderDepthForWindow
  dsimp only
  split_ifs <;> simp only [reorderMinEntries, reorderMaxEntries] at * <;> omega

theorem hasRoom_iff {sent acked window len : Nat} (le : acked ≤ sent) (word : sent < 2 ^ 64)
    (bound : sent - acked + len < 2 ^ 64) :
    hasRoom sent acked window len = true ↔ sent = acked ∨ sent - acked + len ≤ window := by
  have inflight : sub64 sent acked = sent - acked := sub64_of_le le word
  have total : wrap64 (sent - acked + len) = sent - acked + len := wrap64_of_lt bound
  simp only [hasRoom, inflight, total, Bool.or_eq_true, decide_eq_true_eq]
  omega

theorem shouldGrant_iff {delivered lastGranted window : Nat} (le : lastGranted ≤ delivered)
    (bound : delivered < 2 ^ 64) :
    shouldGrant delivered lastGranted window = true ↔
      grantStep window ≤ delivered - lastGranted := by
  rw [shouldGrant, sub64_of_le le bound, decide_eq_true_eq]

theorem windowClamp_eq (v : Nat) : windowClamp v = min (max v windowBytesMin) windowBytesMax := by
  unfold windowClamp
  split_ifs <;> simp only [windowBytesMin, windowBytesMax] at * <;> omega

theorem windowForStream_bounds {bufSize numBufs : Nat} (sysctlWindow linkMbps rttNs : Nat)
    (pool : 16 ≤ numBufs) (size : bufSize ≤ bufferSizeMax) :
    targetFrames * bufSize ≤ windowForStream sysctlWindow bufSize numBufs linkMbps rttNs ∧
      windowForStream sysctlWindow bufSize numBufs linkMbps rttNs ≤ windowBytesMax := by
  have half : targetFrames ≤ numBufs / 2 := by
    unfold targetFrames
    omega
  have capacity := Nat.mul_le_mul_right bufSize half
  simp only [windowForStream, windowClamp_eq]
  constructor
  · refine le_min (le_min ?_ ?_) capacity
    · omega
    · simp only [targetFrames, windowBytesMax, bufferSizeMax] at *
      omega
  · exact (Nat.min_le_left _ _).trans (Nat.min_le_right _ _)

/-! ## The product of link rate and round trip -/

section Exact

variable (sysctlWindow bufSize numBufs linkMbps rttNs : Nat)

def windowCeiling (bufSize numBufs : Nat) : Nat := min windowBytesMax (numBufs / 2 * bufSize)

def BdpFits : Prop :=
  linkMbps * rttNs < 2 ^ 64 ∨ windowCeiling bufSize numBufs ≤
      max (max windowBytesMin sysctlWindow)
        (max (targetFrames * bufSize) (wrap64 (linkMbps * rttNs) / 8000))

variable {sysctlWindow bufSize numBufs linkMbps rttNs}

theorem windowForStream_of_bdp : windowForStream sysctlWindow bufSize numBufs linkMbps rttNs =
      min (windowCeiling bufSize numBufs) (max (max windowBytesMin sysctlWindow)
          (max (targetFrames * bufSize) (wrap64 (linkMbps * rttNs) / 8000))) := by
  simp only [windowForStream, windowClamp_eq, windowCeiling]
  ac_rfl

theorem exactWindow_of_bdp : exactWindow sysctlWindow bufSize numBufs linkMbps rttNs =
      min (windowCeiling bufSize numBufs) (max (max windowBytesMin sysctlWindow)
          (max (targetFrames * bufSize) (linkMbps * rttNs / 8000))) := by
  simp only [exactWindow, windowClamp_eq, windowCeiling]
  ac_rfl

theorem exactWindow_of_overflow (large : 2 ^ 64 ≤ linkMbps * rttNs) :
    exactWindow sysctlWindow bufSize numBufs linkMbps rttNs = windowCeiling bufSize numBufs := by
  have ceiling : windowCeiling bufSize numBufs ≤ windowBytesMax := Nat.min_le_left _ _
  rw [exactWindow_of_bdp]
  simp only [windowBytesMax] at ceiling
  omega

theorem exactWindow_eq_iff : windowForStream sysctlWindow bufSize numBufs linkMbps rttNs =
        exactWindow sysctlWindow bufSize numBufs linkMbps rttNs ↔
      BdpFits sysctlWindow bufSize numBufs linkMbps rttNs := by
  rcases Nat.lt_or_ge (linkMbps * rttNs) (2 ^ 64) with small | large
  · rw [windowForStream_of_bdp, exactWindow_of_bdp, wrap64_of_lt small]
    exact ⟨fun _ => .inl small, fun _ => rfl⟩
  · rw [exactWindow_of_overflow large, windowForStream_of_bdp, min_eq_left_iff]
    constructor
    · exact .inr
    · rintro (small | reached)
      · omega
      · exact reached

theorem windowForStream_le_exact : windowForStream sysctlWindow bufSize numBufs linkMbps rttNs ≤
      exactWindow sysctlWindow bufSize numBufs linkMbps rttNs := by
  rw [windowForStream_of_bdp, exactWindow_of_bdp]
  have bdp : wrap64 (linkMbps * rttNs) / 8000 ≤ linkMbps * rttNs / 8000 :=
    Nat.div_le_div_right (Nat.mod_le _ _)
  exact min_le_min le_rfl (max_le_max le_rfl (max_le_max le_rfl bdp))

theorem exactWindow_mono {linkMbps' rttNs' : Nat} (link : linkMbps ≤ linkMbps')
    (rtt : rttNs ≤ rttNs') :
    exactWindow sysctlWindow bufSize numBufs linkMbps rttNs ≤
      exactWindow sysctlWindow bufSize numBufs linkMbps' rttNs' := by
  rw [exactWindow_of_bdp, exactWindow_of_bdp]
  have bdp : linkMbps * rttNs / 8000 ≤ linkMbps' * rttNs' / 8000 :=
    Nat.div_le_div_right (Nat.mul_le_mul link rtt)
  exact min_le_min le_rfl (max_le_max le_rfl (max_le_max le_rfl bdp))

end Exact

/-- The window is the exact one where the product fits, and then no smaller rate or round trip has a
larger one. -/
theorem window_exact_iff (sysctlWindow bufSize numBufs linkMbps rttNs : Nat) :
    (windowForStream sysctlWindow bufSize numBufs linkMbps rttNs =
        exactWindow sysctlWindow bufSize numBufs linkMbps rttNs ↔
      BdpFits sysctlWindow bufSize numBufs linkMbps rttNs) ∧
    (BdpFits sysctlWindow bufSize numBufs linkMbps rttNs → ∀ linkMbps₀ ≤ linkMbps, ∀ rttNs₀ ≤ rttNs,
        windowForStream sysctlWindow bufSize numBufs linkMbps₀ rttNs₀ ≤
          windowForStream sysctlWindow bufSize numBufs linkMbps rttNs) := by
  refine ⟨exactWindow_eq_iff, ?_⟩
  intro fits linkMbps₀ link rttNs₀ rtt
  calc windowForStream sysctlWindow bufSize numBufs linkMbps₀ rttNs₀
      ≤ exactWindow sysctlWindow bufSize numBufs linkMbps₀ rttNs₀ := windowForStream_le_exact
    _ ≤ exactWindow sysctlWindow bufSize numBufs linkMbps rttNs := exactWindow_mono link rtt
    _ = windowForStream sysctlWindow bufSize numBufs linkMbps rttNs :=
        (exactWindow_eq_iff.mpr fits).symm

/-- A hundred gigabits and a round trip of a millisecond. -/
theorem window_exact_hundred_gigabit : BdpFits (2 ^ 20) 65536 65536 100000 1000000 ∧
      windowForStream (2 ^ 20) 65536 65536 100000 1000000 =
        exactWindow (2 ^ 20) 65536 65536 100000 1000000 := by
  have fits : BdpFits (2 ^ 20) 65536 65536 100000 1000000 := .inl (by decide)
  exact ⟨fits, (window_exact_iff ..).1.mpr fits⟩

/-- At 800 gigabits the window falls from one GiB to the configured MiB when the round trip grows
by a nanosecond, at about six hours. -/
theorem window_shrinks : windowForStream (2 ^ 20) 65536 65536 800000 23058430092136 = 2 ^ 30 ∧
      windowForStream (2 ^ 20) 65536 65536 800000 23058430092137 = 2 ^ 20 ∧
      exactWindow (2 ^ 20) 65536 65536 800000 23058430092137 = 2 ^ 30 := by
  decide

end Urp.Window
