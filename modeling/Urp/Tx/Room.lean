import Urp.Frame.Wire
import Urp.Lib.Checked
import Urp.Tx.Emission

/-!
# Room for every frame

The resolver of the chunks once more, with every 32-bit operation checked and for any page size.
-/

namespace Urp.Frame

open Urp.Lib

/-- `URP_MAX_SGE` -/
def maxSgeEntries : Nat := 32

def checkedChunkSize (pageSize order : Nat) : Option Nat :=
  checked 32 (pageSize % 2 ^ 32 * 2 ^ order)

def checkedDivRoundUp (n d : Nat) : Option Nat := do
  let sum ← checked 32 (n + d)
  let last ← difference sum 1
  quotient last d

def checkedGrow (pageSize bufSize maxSge : Nat) :
    (fuel order chunkSize nchunks : Nat) → Option (Nat × Nat)
  | 0, _, _, _ => none
  | fuel + 1, order, chunkSize, nchunks =>
    if maxSge < nchunks ∧ chunkSize < bufSize then do
      let chunkSize' ← checkedChunkSize pageSize (order + 1)
      let nchunks' ← checkedDivRoundUp bufSize chunkSize'
      checkedGrow pageSize bufSize maxSge fuel (order + 1) chunkSize' nchunks'
    else some (chunkSize, nchunks)

def checkedResolveChunks (pageSize bufSize maxSge : Nat) : Option (Nat × Nat) := do
  let order := min (getOrder pageSize bufSize) (getOrder pageSize chunkTargetBytes)
  let chunkSize ← checkedChunkSize pageSize order
  let nchunks ← checkedDivRoundUp bufSize chunkSize
  checkedGrow pageSize bufSize (if maxSge = 0 then 1 else maxSge) (bufSize + 1) order chunkSize
    nchunks

section Resolve

variable {p : Page} {bufSize order : Nat}

section

variable (needed : p.Needed bufSize order)
include needed

theorem Page.Needed.checkedChunkSize_eq (small : bufSize ≤ bufferSizeMax) :
    checkedChunkSize p.size order = some (p.chunkSize order) := by
  have bound := needed.le
  have page := p.size_le
  unfold bufferSizeMax at small
  rw [checkedChunkSize, Nat.mod_eq_of_lt (by omega), checked_of_lt (by omega),
    needed.chunkSize_eq small]

theorem Page.Needed.checkedDivRoundUp_eq (small : bufSize ≤ bufferSizeMax) :
    checkedDivRoundUp bufSize (p.chunkSize order) = some (p.numChunks bufSize order) := by
  have bound := needed.le
  have page := p.size_le
  have positive : 0 < p.size * 2 ^ order := Nat.mul_pos p.size_pos (Nat.two_pow_pos _)
  unfold bufferSizeMax at small
  rw [needed.numChunks_eq small, needed.chunkSize_eq small, checkedDivRoundUp,
    checked_of_lt (by omega)]
  change (difference (bufSize + p.size * 2 ^ order) 1).bind _ = _
  rw [difference_of_le (by omega)]
  exact quotient_of_pos positive

theorem Page.Needed.checkedGrow_eq {maxSge fuel : Nat}
    (small : bufSize ≤ bufferSizeMax) (enough : bufSize ≤ order + fuel) :
    checkedGrow p.size bufSize maxSge (fuel + 1) order (p.chunkSize order)
        (p.numChunks bufSize order) =
      some (p.chunkSize (p.growOrder bufSize maxSge fuel order),
        p.numChunks bufSize (p.growOrder bufSize maxSge fuel order)) := by
  induction fuel generalizing order with
  | zero =>
    have stop := needed.grow_stops maxSge small enough
    rw [Page.growOrder] at stop ⊢
    rw [checkedGrow, if_neg stop]
  | succ fuel ih =>
    rw [checkedGrow, Page.growOrder]
    split
    · rename_i short
      have above := needed.succ small short.2
      rw [above.checkedChunkSize_eq small]
      change (checkedDivRoundUp bufSize (p.chunkSize (order + 1))).bind _ = _
      rw [above.checkedDivRoundUp_eq small]
      exact ih above (by omega)
    · rfl

end

theorem Page.checkedResolveChunks_eq (p : Page) (bufferSize maxSge : Nat) :
    checkedResolveChunks p.size (resolveBufSize bufferSize) maxSge =
      some ((p.geometry bufferSize maxSge).chunkSize,
        (p.geometry bufferSize maxSge).numChunks) := by
  have small := (resolveBufSize_bounds bufferSize).2
  have needed := p.needed_start bufferSize
  change (checkedChunkSize p.size (min (getOrder p.size (resolveBufSize bufferSize))
    (getOrder p.size chunkTargetBytes))).bind _ = _
  rw [needed.checkedChunkSize_eq small]
  change (checkedDivRoundUp _ _).bind _ = _
  rw [needed.checkedDivRoundUp_eq small]
  exact needed.checkedGrow_eq small (by omega)

theorem pred_divRoundUp_mul_lt {n d : Nat} (positive : 0 < n) : (divRoundUp n d - 1) * d < n := by
  have product := Nat.div_mul_le_self (n + d - 1) d
  rw [divRoundUp, Nat.sub_mul, Nat.one_mul]
  omega

theorem Page.le_getOrder (p : Page) (size : Nat) : size ≤ p.size * 2 ^ getOrder p.size size := by
  have positive := p.size_pos
  have last := Nat.lt_mul_div_succ (size - 1) positive
  unfold getOrder
  split
  · rename_i single
    rw [single] at last
    omega
  · have above : (size - 1) / p.size + 1 ≤ 2 ^ (Nat.log2 ((size - 1) / p.size) + 1) :=
      Nat.lt_log2_self
    have scaled := Nat.mul_le_mul_left p.size above
    omega

theorem Page.le_growOrder (p : Page) (bufSize maxSge fuel order : Nat) :
    order ≤ p.growOrder bufSize maxSge fuel order := by
  induction fuel generalizing order with
  | zero => exact le_rfl
  | succ fuel ih =>
    rw [Page.growOrder]
    split
    · exact (Nat.le_succ order).trans (ih (order + 1))
    · exact le_rfl

theorem Page.chunkSize_ge (p : Page) (bufSize maxSge : Nat) :
    min bufSize chunkTargetBytes ≤ p.size * 2 ^ p.order bufSize maxSge := by
  have grown : min (getOrder p.size bufSize) (getOrder p.size chunkTargetBytes) ≤
    p.order bufSize maxSge := p.le_growOrder ..
  have monotone : ∀ {o : Nat}, o ≤ p.order bufSize maxSge →
      p.size * 2 ^ o ≤ p.size * 2 ^ p.order bufSize maxSge := fun le =>
    Nat.mul_le_mul_left _ (Nat.pow_le_pow_right Nat.two_pos le)
  rcases Nat.le_total (getOrder p.size bufSize) (getOrder p.size chunkTargetBytes) with
    slot | target
  · rw [Nat.min_eq_left slot] at grown
    exact (Nat.min_le_left _ _).trans ((p.le_getOrder bufSize).trans (monotone grown))
  · rw [Nat.min_eq_right target] at grown
    exact (Nat.min_le_right _ _).trans ((p.le_getOrder chunkTargetBytes).trans (monotone grown))

theorem Page.geometry_numChunks_le_entries (p : Page) (bufferSize maxSge : Nat) :
    (p.geometry bufferSize maxSge).numChunks ≤ maxSgeEntries := by
  have bounds := resolveBufSize_bounds bufferSize
  have chunk := p.chunkSize_ge (resolveBufSize bufferSize) maxSge
  change (p.resolveChunks (resolveBufSize bufferSize) maxSge).2 ≤ _
  rw [p.resolveChunks_eq]
  refine Nat.le_of_lt_succ (Nat.div_lt_of_lt_mul ?_)
  simp only [bufferSizeMin, bufferSizeMax, chunkTargetBytes, maxSgeEntries] at *
  omega

theorem Page.pred_numChunks_mul_lt (p : Page) (bufferSize maxSge : Nat) :
    ((p.geometry bufferSize maxSge).numChunks - 1) * (p.geometry bufferSize maxSge).chunkSize <
      (p.geometry bufferSize maxSge).bufSize := by
  have positive : 0 < resolveBufSize bufferSize :=
    Nat.lt_of_lt_of_le (by decide) (resolveBufSize_bounds bufferSize).1
  simp only [Page.geometry, p.resolveChunks_eq]
  exact pred_divRoundUp_mul_lt positive

end Resolve

end Urp.Frame

namespace Urp.Tx.Emission

open Urp.Lib Urp.Frame Urp.Rx

def CopyPath : Emission → Prop
  | .fast .. => False
  | _ => True

def Control : Emission → Prop
  | .ping .. | .pong .. | .credit .. | .creditBytes .. => True
  | _ => False

variable {g : Geometry}

theorem length_frameWire_le {r : Reading} (id seq : Nat) (sendSyn : Bool)
    (fits : r.data.length ≤ epTxMaxPayload g.bufSize) :
    (frameWire g id seq sendSyn r).length ≤ g.bufSize := by
  have least := g.size_min
  rw [length_frameWire id seq sendSyn fits]
  simp only [epTxMaxPayload, epMaxPayload, headerSize, tstampTrailerLen, bufferSizeMin] at *
  split <;> omega

variable {e : Emission}

theorem length_wire_control (g : Geometry) (control : e.Control) :
    (e.wire g).length ≤ bufferSizeMin := by
  cases e with
  | legacy | stream | fast => exact control.elim
  | ping | pong | credit | creditBytes => exact Nat.le_of_ble_eq_true rfl

theorem length_wire_le (copied : e.CopyPath) (fits : e.Fits g) : (e.wire g).length ≤ g.bufSize := by
  cases e with
  | legacy seq r => exact length_frameWire_le 0 seq.toNat false fits
  | stream id seq sendSyn r => exact length_frameWire_le id.toNat seq.toNat sendSyn fits
  | fast => exact copied.elim
  | ping | pong | credit | creditBytes =>
    refine (length_wire_control g ?_).trans g.size_min
    trivial

theorem Stamped.bufSize_le (stamped : e.Stamped g) : g.bufSize ≤ g.chunkSize := by
  have covers := g.covers
  have single : g.numChunks = 1 := by
    cases e with
    | legacy | stream => exact stamped.2.1
    | fast | ping | pong | credit | creditBytes => exact stamped.elim
  rwa [single, Nat.one_mul] at covers

theorem length_wire_chunk_zero (copied : e.CopyPath)
    (fits : e.Fits g) (plain : e.Control ∨ e.Stamped g) : (e.wire g).length ≤ g.chunkSize := by
  rcases plain with control | stamped
  · exact (length_wire_control g control).trans (le_trans (by decide) g.page_le)
  · exact (length_wire_le copied fits).trans stamped.bufSize_le

/-- With pages below 4 GiB the resolver returns without overflow, the chunks cover the slot with
none to spare, and every frame of the copy path fits, the control frames and the stamped ones in
chunk 0. -/
theorem chunks_hold_frames (shift bufSize maxSge : Nat) (page : 12 ≤ shift) (word : shift < 32)
    (least : bufferSizeMin ≤ bufSize) (most : bufSize ≤ bufferSizeMax) :
    ∃ g : Geometry, g.bufSize = bufSize ∧
      checkedResolveChunks (2 ^ shift) bufSize maxSge = some (g.chunkSize, g.numChunks) ∧
      bufSize ≤ g.numChunks * g.chunkSize ∧ (g.numChunks - 1) * g.chunkSize < bufSize ∧
      g.numChunks ≤ max maxSge 1 ∧ g.numChunks ≤ maxSgeEntries ∧
      ∀ e : Emission, e.CopyPath → e.Fits g → (e.wire g).length ≤ bufSize ∧
          (e.Control ∨ e.Stamped g → (e.wire g).length ≤ g.chunkSize) := by
  have size : resolveBufSize bufSize = bufSize := clamp_eq_self least most
  set p : Page := ⟨shift, page, word⟩
  have same : (p.geometry bufSize maxSge).bufSize = bufSize := size
  have resolved := p.checkedResolveChunks_eq bufSize maxSge
  have covers := (p.geometry bufSize maxSge).covers
  have tight := p.pred_numChunks_mul_lt bufSize maxSge
  rw [size] at resolved
  rw [same] at covers tight
  refine ⟨p.geometry bufSize maxSge, same, resolved, covers, tight,
    p.geometry_numChunks_le bufSize maxSge, p.geometry_numChunks_le_entries bufSize maxSge, ?_⟩
  intro e copied fits
  exact ⟨(length_wire_le copied fits).trans same.le, length_wire_chunk_zero copied fits⟩

/-- Sixteen chunks on a device with thirty entries. -/
theorem chunks_hold_frames_mebibyte : ∃ g : Geometry, g.bufSize = 1048576 ∧
      checkedResolveChunks (2 ^ 12) 1048576 30 = some (g.chunkSize, g.numChunks) ∧
      g.numChunks ≤ maxSgeEntries := by
  obtain ⟨g, size, resolved, _, _, _, entries, _⟩ :=
    chunks_hold_frames 12 1048576 30 (by decide) (by decide) (by decide) (by decide)
  exact ⟨g, size, resolved, entries⟩

/-- A page of 4 GiB is cut to nothing, and the resolver divides by the size of its chunks. -/
theorem huge_page_not_resolved :
    checkedChunkSize (2 ^ 32) 0 = some 0 ∧ checkedResolveChunks (2 ^ 32) 4096 1 = none := by
  decide

end Urp.Tx.Emission
