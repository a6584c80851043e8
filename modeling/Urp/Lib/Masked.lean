import Urp.Lib.Segments

/-!
# Reads that are checked

A memory of which only some addresses may be read.
-/

namespace Urp.Lib

open List

universe u v

variable {ι : Type u} {α : Type v}

/-- The memory where `p` allows a read. -/
def masked (p : ι → Prop) [DecidablePred p] (mem : ι → α) (a : ι) : Option α :=
  if p a then some (mem a) else none

def fetch (mem : ι → Option α) (addresses : List ι) : Option (List α) := addresses.mapM mem

section Fetch

variable {p : ι → Prop} [DecidablePred p] {mem : ι → α} {addresses : List ι}

theorem fetch_masked (allowed : ∀ a ∈ addresses, p a) :
    fetch (masked p mem) addresses = some (addresses.map mem) := by
  induction addresses with
  | nil => rfl
  | cons a addresses ih =>
    have first : masked p mem a = some (mem a) := if_pos (allowed a mem_cons_self)
    have rest := ih fun b member => allowed b (mem_cons_of_mem a member)
    rw [fetch] at rest ⊢
    simp [first, rest]

theorem fetch_masked_eq_none {a : ι} (member : a ∈ addresses) (refused : ¬ p a) :
    fetch (masked p mem) addresses = none := by
  induction addresses with
  | nil => cases member
  | cons b addresses ih =>
    rw [fetch, mapM_cons]
    rcases mem_cons.mp member with rfl | later
    · rw [masked, if_neg refused]
      rfl
    · have rest := ih later
      rw [fetch] at rest
      cases masked p mem b with
      | none => rfl
      | some first => simp [rest]

end Fetch

/-! ## Addresses in chunks -/

/-- The addresses of `length` bytes of a chunk. -/
def span (chunk offset length : Nat) : List (Nat × Nat) :=
  (List.range length).map fun i => (chunk, offset + i)

theorem mem_span {chunk offset length : Nat} {a : Nat × Nat} :
    a ∈ span chunk offset length ↔ a.1 = chunk ∧ offset ≤ a.2 ∧ a.2 < offset + length := by
  obtain ⟨c, o⟩ := a
  simp only [span, mem_map, mem_range, Prod.mk.injEq]
  constructor
  · rintro ⟨i, bound, rfl, rfl⟩
    omega
  · rintro ⟨rfl, least, bound⟩
    exact ⟨o - offset, by omega, rfl, by omega⟩

@[simp] theorem length_span (chunk offset length : Nat) :
    (span chunk offset length).length = length := by
  simp [span]

theorem map_span (mem : Nat → Nat → α) (chunk offset length : Nat) :
    (span chunk offset length).map (fun a => mem a.1 a.2) = window (mem chunk) offset length := by
  simp [span, window, Function.comp_def]

def Segment.addresses (s : Segment) : List (Nat × Nat) := span s.chunk s.offset s.length

def addresses (segs : List Segment) : List (Nat × Nat) := segs.flatMap Segment.addresses

theorem segments_nothing (chunkSize chunks index offset : Nat) :
    segments chunkSize chunks index offset 0 = [] := by
  cases chunks <;> simp [segments]

theorem mem_addresses_segments {chunkSize chunks index offset remaining : Nat} {a : Nat × Nat}
    (start : offset ≤ chunkSize)
    (member : a ∈ addresses (segments chunkSize chunks index offset remaining)) :
    a.1 < index + chunks ∧ a.2 < chunkSize ∧
      index * chunkSize + offset ≤ a.1 * chunkSize + a.2 ∧
      a.1 * chunkSize + a.2 < index * chunkSize + offset + remaining := by
  induction chunks generalizing index offset remaining with
  | zero => simp [segments, addresses] at member
  | succ chunks ih =>
    rw [segments] at member
    split at member
    · simp [addresses] at member
    · rw [addresses, flatMap_cons, mem_append] at member
      rcases member with first | later
      · obtain ⟨chunk, least, bound⟩ := mem_span.mp first
        dsimp only at chunk least bound
        rw [chunk]
        omega
      · have more : chunkSize - offset < remaining := by
          by_contra enough
          rw [Nat.min_eq_left (Nat.le_of_not_lt enough), Nat.sub_self, segments_nothing] at later
          cases later
        obtain ⟨chunk, inside, first, last⟩ := ih (Nat.zero_le _) later
        have next : (index + 1) * chunkSize = index * chunkSize + chunkSize := Nat.succ_mul _ _
        omega

theorem length_addresses_segments_le (chunkSize chunks index offset remaining : Nat) :
    (addresses (segments chunkSize chunks index offset remaining)).length ≤ remaining := by
  induction chunks generalizing index offset remaining with
  | zero => simp [segments, addresses]
  | succ chunks ih =>
    rw [segments]
    split
    · simp [addresses]
    · have rest := ih (index + 1) 0 (remaining - min remaining (chunkSize - offset))
      rw [addresses] at rest
      rw [addresses, flatMap_cons, length_append, Segment.addresses, length_span]
      dsimp only
      omega

end Urp.Lib
