import Mathlib.Algebra.Order.Ring.Nat
import Mathlib.Data.List.GetD
import Mathlib.Data.List.Range

/-!
# Scatter and gather over memory in chunks

A buffer is made of chunks of one size.
-/

namespace Urp.Lib

open List

universe u

variable {α : Type u}

structure Segment where
  chunk : Nat
  offset : Nat
  length : Nat
deriving DecidableEq, Repr

/-- Cover `remaining` bytes with at most `chunks` chunks, from `offset` of the chunk `index` on. -/
def segments (chunkSize : Nat) : (chunks index offset remaining : Nat) → List Segment
  | 0, _, _, _ => []
  | chunks + 1, index, offset, remaining =>
    if remaining = 0 then []
    else
      ⟨index, offset, min remaining (chunkSize - offset)⟩ ::
        segments chunkSize chunks (index + 1) 0 (remaining - min remaining (chunkSize - offset))

def readSegment (mem : Nat → Nat → α) (s : Segment) : List α :=
  (List.range s.length).map (fun i => mem s.chunk (s.offset + i))

def gather (mem : Nat → Nat → α) (segs : List Segment) : List α := segs.flatMap (readSegment mem)

def writeAt (mem : Nat → Nat → α) (chunk offset : Nat) (bytes : List α) : Nat → Nat → α :=
  fun c o => if c = chunk ∧ offset ≤ o then bytes.getD (o - offset) (mem c o) else mem c o

@[simp] theorem writeAt_nil (mem : Nat → Nat → α) (chunk offset : Nat) :
    writeAt mem chunk offset [] = mem := by
  funext c o
  simp [writeAt]

def scatter (mem : Nat → Nat → α) : List Segment → List α → Nat → Nat → α
  | [], _ => mem
  | s :: segs, bytes =>
    scatter (writeAt mem s.chunk s.offset (bytes.take s.length)) segs (bytes.drop s.length)

def flat (chunkSize : Nat) (mem : Nat → Nat → α) (i : Nat) : α :=
  mem (i / chunkSize) (i % chunkSize)

/-- The `length` bytes of the flat view from `start` on. -/
def window (view : Nat → α) (start length : Nat) : List α :=
  (List.range length).map (fun i => view (start + i))

@[simp] theorem window_zero (view : Nat → α) (start : Nat) : window view start 0 = [] := rfl

@[simp] theorem length_window (view : Nat → α) (start length : Nat) :
    (window view start length).length = length := by
  simp [window]

theorem window_add (view : Nat → α) (start m n : Nat) :
    window view start (m + n) = window view start m ++ window view (start + m) n := by
  simp [window, range_add, Function.comp_def, Nat.add_assoc]

variable {start length : Nat}

theorem getElem_window (view : Nat → α) {i : Nat} (h : i < (window view start length).length) :
    (window view start length)[i] = view (start + i) := by
  simp [window]

variable {first : Nat}

theorem take_drop_window (view : Nat → α) {whole : Nat} (inside : first + length ≤ whole) :
    ((window view start whole).drop first).take length = window view (start + first) length := by
  refine ext_getElem ?_ fun i _ hi => ?_
  · simp only [length_window, length_take, length_drop]
    omega
  · rw [getElem_take, getElem_drop, getElem_window, getElem_window, Nat.add_assoc]

theorem window_getD_append (xs ys : List α) (d : α) :
    window (fun i => (xs ++ ys).getD i d) 0 xs.length = xs := by
  refine ext_getElem (length_window _ _ _) fun i _ hi => ?_
  rw [getElem_window, Nat.zero_add, getD_append _ _ _ _ hi, getD_eq_getElem _ _ hi]

theorem window_congr {view view' : Nat → α}
    (same : ∀ i, start ≤ i → i < start + length → view i = view' i) :
    window view start length = window view' start length := by
  refine map_congr_left fun i membership => ?_
  have bound := mem_range.mp membership
  exact same _ (by omega) (by omega)

/-- The view with `bytes` written over it from `start` on. -/
def overlay (view : Nat → α) (start : Nat) (bytes : List α) : Nat → α :=
  fun i => if start ≤ i then bytes.getD (i - start) (view i) else view i

variable {bytes : List α}

section

variable (view : Nat → α)

@[simp] theorem overlay_nil (start : Nat) : overlay view start [] = view := by
  funext i
  simp [overlay]

theorem overlay_append (start : Nat) (xs ys : List α) :
    overlay (overlay view start xs) (start + xs.length) ys = overlay view start (xs ++ ys) := by
  funext i
  simp only [overlay]
  by_cases after : start + xs.length ≤ i
  · have covered : xs.length ≤ i - start := by omega
    rw [if_pos after, if_pos (by omega), if_pos (by omega), getD_eq_default xs _ covered,
      getD_append_right xs ys _ _ covered, Nat.sub_add_eq]
  · rw [if_neg after]
    split
    · rw [getD_append xs ys _ _ (by omega)]
    · rfl

theorem window_overlay (before : start ≤ first) (inside : first + length ≤ start + bytes.length) :
    window (overlay view start bytes) first length = (bytes.drop (first - start)).take length := by
  refine ext_getElem ?_ fun i hi hi' => ?_
  · simp only [length_window, length_take, length_drop]
    omega
  · rw [length_window] at hi
    rw [getElem_window, overlay, if_pos (by omega), getElem_take, getElem_drop,
      getD_eq_getElem _ _ (by omega)]
    congr 1
    omega

theorem window_overlay_before (bytes : List α) (before : first + length ≤ start) :
    window (overlay view start bytes) first length = window view first length :=
  window_congr fun i _ bound => if_neg (by omega)

theorem window_overlay_after (after : start + bytes.length ≤ first) :
    window (overlay view start bytes) first length = window view first length := by
  refine window_congr fun i bound _ => ?_
  rw [overlay, if_pos (by omega), getD_eq_default _ _ (by omega)]

theorem window_overlay_exact (start : Nat) (bytes : List α) :
    window (overlay view start bytes) start bytes.length = bytes := by
  rw [window_overlay view le_rfl le_rfl, Nat.sub_self, drop_zero, take_length]

end

section Flat

variable {chunkSize : Nat}

theorem flat_of_lt (mem : Nat → Nat → α) {i : Nat} (h : i < chunkSize) :
    flat chunkSize mem i = mem 0 i := by
  simp [flat, Nat.div_eq_of_lt h, Nat.mod_eq_of_lt h]

variable {offset : Nat}

section

variable (mem : Nat → Nat → α)

theorem flat_at {chunk : Nat} (inside : offset < chunkSize) :
    flat chunkSize mem (chunk * chunkSize + offset) = mem chunk offset := by
  have positive : 0 < chunkSize := by omega
  rw [flat, Nat.add_comm, Nat.add_mul_div_right _ _ positive, Nat.add_mul_mod_self_right,
    Nat.div_eq_of_lt inside, Nat.mod_eq_of_lt inside, Nat.zero_add]

theorem readSegment_eq_window {s : Segment} (inside : s.offset + s.length ≤ chunkSize) :
    readSegment mem s = window (flat chunkSize mem) (s.chunk * chunkSize + s.offset) s.length := by
  refine map_congr_left fun i membership => ?_
  have bound := mem_range.mp membership
  rw [Nat.add_assoc, flat_at mem (by omega)]

variable {chunks index remaining : Nat}

theorem gather_segments
    (inside : offset < chunkSize) (capacity : offset + remaining ≤ chunks * chunkSize) :
    gather mem (segments chunkSize chunks index offset remaining) =
      window (flat chunkSize mem) (index * chunkSize + offset) remaining := by
  induction chunks generalizing index offset remaining with
  | zero =>
    obtain rfl : remaining = 0 := by omega
    rfl
  | succ chunks ih =>
    rw [segments]
    split
    · rename_i finished
      simp [finished, gather]
    · rename_i unfinished
      rw [Nat.succ_mul] at capacity
      have head : readSegment mem ⟨index, offset, min remaining (chunkSize - offset)⟩ = window
          (flat chunkSize mem) (index * chunkSize + offset) (min remaining (chunkSize - offset)) :=
          readSegment_eq_window mem (by simp only; omega)
      rw [gather, flatMap_cons, ← gather, head]
      rcases Nat.le_total remaining (chunkSize - offset) with short | long
      · have rest : segments chunkSize chunks (index + 1) 0 0 = [] := by
          cases chunks <;> simp [segments]
        simp [Nat.min_eq_left short, rest, gather]
      · rw [Nat.min_eq_right long, ih (by omega) (by omega)]
        have joined : index * chunkSize + offset + (chunkSize - offset) =
            (index + 1) * chunkSize := by
          rw [Nat.succ_mul]
          omega
        have whole : remaining = (chunkSize - offset) + (remaining - (chunkSize - offset)) := by
          omega
        conv_rhs => rw [whole, window_add, joined]
        rfl

theorem flat_writeAt (chunk : Nat)
    (positive : 0 < chunkSize) (inside : offset + bytes.length ≤ chunkSize) :
    flat chunkSize (writeAt mem chunk offset bytes) =
      overlay (flat chunkSize mem) (chunk * chunkSize + offset) bytes := by
  funext i
  have position := Nat.div_add_mod' i chunkSize
  have remainder := Nat.mod_lt i positive
  simp only [flat, writeAt, overlay]
  rcases Nat.lt_trichotomy (i / chunkSize) chunk with lower | same | higher
  · have gap := Nat.mul_le_mul_right chunkSize (Nat.succ_le_of_lt lower)
    rw [Nat.succ_mul] at gap
    rw [if_neg (by omega), if_neg (by omega)]
  · subst same
    by_cases after : offset ≤ i % chunkSize
    · rw [if_pos ⟨rfl, after⟩, if_pos (by omega)]
      congr 1
      omega
    · rw [if_neg (by omega), if_neg (by omega)]
  · have gap := Nat.mul_le_mul_right chunkSize (Nat.succ_le_of_lt higher)
    rw [Nat.succ_mul] at gap
    rw [if_neg (by omega), if_pos (by omega), getD_eq_default _ _ (by omega)]

theorem flat_scatter (inside : offset < chunkSize)
    (capacity : offset + remaining ≤ chunks * chunkSize) :
    flat chunkSize (scatter mem (segments chunkSize chunks index offset remaining) bytes) =
      overlay (flat chunkSize mem) (index * chunkSize + offset) (bytes.take remaining) := by
  induction chunks generalizing index offset remaining mem bytes with
  | zero =>
    obtain rfl : remaining = 0 := by omega
    simp [segments, scatter]
  | succ chunks ih =>
    rw [segments]
    split
    · rename_i finished
      simp [finished, scatter]
    · rename_i unfinished
      rw [Nat.succ_mul] at capacity
      have fits :
          offset + (bytes.take (min remaining (chunkSize - offset))).length ≤ chunkSize := by
        rw [length_take]
        omega
      have head := flat_writeAt mem index (by omega) fits
      rw [scatter, ih _ (by omega) (by omega), head]
      rcases Nat.le_total remaining (chunkSize - offset) with short | long
      · simp [Nat.min_eq_left short]
      · rw [Nat.min_eq_right long]
        have whole : remaining = (chunkSize - offset) + (remaining - (chunkSize - offset)) := by
          omega
        rcases Nat.lt_or_ge bytes.length (chunkSize - offset) with ends | continues
        · have whole_bytes : bytes.take remaining = bytes := take_of_length_le (by omega)
          rw [drop_of_length_le ends.le, take_of_length_le ends.le, whole_bytes,
            take_nil, overlay_nil]
        · have joined : (index + 1) * chunkSize + 0 =
              index * chunkSize + offset + (bytes.take (chunkSize - offset)).length := by
            rw [Nat.succ_mul, length_take]
            omega
          rw [joined, overlay_append]
          conv_rhs => rw [whole, take_add]

end

end Flat

end Urp.Lib
