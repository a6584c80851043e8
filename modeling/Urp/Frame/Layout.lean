import Urp.Frame.Codec

/-!
# The buffer geometry

A slot of `bufSize` bytes is backed by chunks.
-/

namespace Urp.Frame

open Urp.Lib

abbrev Memory := Nat → Nat → UInt8

def pageSize : Nat := 4096

def chunkTargetBytes : Nat := 65536

def clamp (n low high : Nat) : Nat := min (max n low) high

def resolveBufSize (bufferSize : Nat) : Nat := clamp bufferSize bufferSizeMin bufferSizeMax

def resolveNumBufs (bufferCount : Nat) : Nat := clamp bufferCount 16 65536

def epMaxPayload (bufSize : Nat) : Nat := bufSize - headerSize

def epTxMaxPayload (bufSize : Nat) : Nat := epMaxPayload bufSize - tstampTrailerLen

def divRoundUp (n d : Nat) : Nat := (n + d - 1) / d

/-- The least order of pages that holds `size` bytes. -/
def getOrder (pageSize size : Nat) : Nat :=
  if (size - 1) / pageSize = 0 then 0 else Nat.log2 ((size - 1) / pageSize) + 1

structure Geometry where
  bufSize : Nat
  chunkSize : Nat
  numChunks : Nat
  size_min : bufferSizeMin ≤ bufSize
  size_max : bufSize ≤ bufferSizeMax
  page_le : pageSize ≤ chunkSize
  covers : bufSize ≤ numChunks * chunkSize

theorem clamp_bounds {low high : Nat} (order : low ≤ high) (n : Nat) :
    low ≤ clamp n low high ∧ clamp n low high ≤ high := by
  unfold clamp
  omega

theorem clamp_eq_self {n low high : Nat} (least : low ≤ n) (most : n ≤ high) :
    clamp n low high = n := by
  unfold clamp
  omega

theorem le_divRoundUp_mul {n d : Nat} (positive : 0 < d) : n ≤ divRoundUp n d * d := by
  have position := Nat.div_add_mod' (n + d - 1) d
  have remainder := Nat.mod_lt (n + d - 1) positive
  unfold divRoundUp
  omega

theorem divRoundUp_le_one {n d : Nat} (positive : 0 < d) (le : n ≤ d) : divRoundUp n d ≤ 1 := by
  refine Nat.lt_succ_iff.mp (Nat.div_lt_of_lt_mul ?_)
  omega

/-! ## The resolver of the chunks -/

structure Page where
  shift : Nat
  least : 12 ≤ shift
  word : shift < 32

def Page.size (p : Page) : Nat := 2 ^ p.shift

/-- A host whose `PAGE_SIZE` is `pageSize`. -/
def Page.base : Page := ⟨12, by decide, by decide⟩

/-- The size of a chunk of `2 ^ order` pages. -/
def Page.chunkSize (p : Page) (order : Nat) : Nat := p.size * 2 ^ order % 2 ^ 32

def Page.numChunks (p : Page) (bufSize order : Nat) : Nat :=
  (bufSize + p.chunkSize order - 1) % 2 ^ 32 / p.chunkSize order

def Page.growOrder (p : Page) (bufSize maxSge : Nat) : (fuel order : Nat) → Nat
  | 0, order => order
  | fuel + 1, order =>
    if maxSge < p.numChunks bufSize order ∧ p.chunkSize order < bufSize then
      p.growOrder bufSize maxSge fuel (order + 1)
    else order

def Page.order (p : Page) (bufSize maxSge : Nat) : Nat :=
  p.growOrder bufSize (if maxSge = 0 then 1 else maxSge) bufSize
    (min (getOrder p.size bufSize) (getOrder p.size chunkTargetBytes))

def Page.resolveChunks (p : Page) (bufSize maxSge : Nat) : Nat × Nat :=
  (p.chunkSize (p.order bufSize maxSge), p.numChunks bufSize (p.order bufSize maxSge))

section Resolve

variable {p : Page} {bufSize : Nat}

theorem Page.size_pos (p : Page) : 0 < p.size := Nat.two_pow_pos _

theorem Page.pageSize_le_size (p : Page) : pageSize ≤ p.size :=
  Nat.pow_le_pow_right Nat.two_pos p.least

theorem Page.size_le (p : Page) : p.size ≤ 2 ^ 31 :=
  Nat.pow_le_pow_right Nat.two_pos (Nat.le_of_lt_succ p.word)

def Page.Needed (p : Page) (bufSize order : Nat) : Prop :=
  ∀ below, order = below + 1 → p.size * 2 ^ below < bufSize

theorem Page.needed_getOrder (p : Page) (positive : 0 < bufSize) :
    p.Needed bufSize (getOrder p.size bufSize) := by
  intro below above
  unfold getOrder at above
  split at above
  · omega
  · rename_i several
    obtain rfl : Nat.log2 ((bufSize - 1) / p.size) = below := by omega
    have reached := Nat.mul_le_of_le_div _ _ _ (Nat.log2_self_le several)
    rw [Nat.mul_comm]
    omega

variable {order : Nat}

section

variable (needed : p.Needed bufSize order)
include needed

theorem Page.Needed.mono {order' : Nat} (le : order' ≤ order) : p.Needed bufSize order' := by
  intro below above
  obtain ⟨more, rfl⟩ : ∃ more, order = below + more + 1 := ⟨order - order', by omega⟩
  refine Nat.lt_of_le_of_lt (Nat.mul_le_mul_left _ ?_) (needed (below + more) rfl)
  exact Nat.pow_le_pow_right (by decide) (Nat.le_add_right _ _)

theorem Page.Needed.le : p.size * 2 ^ order ≤ max p.size (2 * bufSize) := by
  cases order with
  | zero =>
    rw [Nat.pow_zero, Nat.mul_one]
    exact Nat.le_max_left _ _
  | succ below =>
    have small := needed below rfl
    rw [Nat.pow_succ, ← Nat.mul_assoc]
    omega

section

variable (small : bufSize ≤ bufferSizeMax)
include small

theorem Page.Needed.chunkSize_eq : p.chunkSize order = p.size * 2 ^ order := by
  have bound := needed.le
  have page := p.size_le
  unfold bufferSizeMax at small
  exact Nat.mod_eq_of_lt (by omega)

theorem Page.Needed.succ (short : p.chunkSize order < bufSize) : p.Needed bufSize (order + 1) := by
  intro below above
  obtain rfl : order = below := Nat.succ.inj above
  rwa [← needed.chunkSize_eq small]

theorem Page.Needed.numChunks_eq :
    p.numChunks bufSize order = divRoundUp bufSize (p.size * 2 ^ order) := by
  have bound := needed.le
  have page := p.size_le
  unfold bufferSizeMax at small
  rw [Page.numChunks, needed.chunkSize_eq small, divRoundUp, Nat.mod_eq_of_lt (by omega)]

theorem Page.Needed.grow {maxSge fuel : Nat} :
    p.Needed bufSize (p.growOrder bufSize maxSge fuel order) := by
  induction fuel generalizing order with
  | zero => exact needed
  | succ fuel ih =>
    rw [Page.growOrder]
    split
    · rename_i short
      exact ih (needed.succ small short.2)
    · exact needed

end

theorem Page.Needed.grow_stops {fuel : Nat} (maxSge : Nat)
    (small : bufSize ≤ bufferSizeMax) (enough : bufSize ≤ order + fuel) :
    ¬ (maxSge < p.numChunks bufSize (p.growOrder bufSize maxSge fuel order) ∧
      p.chunkSize (p.growOrder bufSize maxSge fuel order) < bufSize) := by
  induction fuel generalizing order with
  | zero =>
    intro ⟨_, short⟩
    rw [Page.growOrder, needed.chunkSize_eq small] at short
    have grows := Nat.lt_two_pow_self (n := order)
    have scaled := Nat.le_mul_of_pos_left (2 ^ order) p.size_pos
    omega
  | succ fuel ih =>
    rw [Page.growOrder]
    split
    · rename_i short
      exact ih (needed.succ small short.2) (by omega)
    · rename_i stop
      exact stop

end

end Resolve

theorem resolveBufSize_bounds (bufferSize : Nat) :
    bufferSizeMin ≤ resolveBufSize bufferSize ∧ resolveBufSize bufferSize ≤ bufferSizeMax :=
  clamp_bounds (by decide) _

theorem Page.needed_start (p : Page) (bufferSize : Nat) : p.Needed (resolveBufSize bufferSize)
      (min (getOrder p.size (resolveBufSize bufferSize)) (getOrder p.size chunkTargetBytes)) := by
  have positive : 0 < resolveBufSize bufferSize :=
    Nat.lt_of_lt_of_le (by decide) (resolveBufSize_bounds bufferSize).1
  exact (p.needed_getOrder positive).mono (Nat.min_le_left _ _)

theorem Page.needed_resolve (p : Page) (bufferSize maxSge : Nat) :
    p.Needed (resolveBufSize bufferSize) (p.order (resolveBufSize bufferSize) maxSge) :=
  (p.needed_start bufferSize).grow (resolveBufSize_bounds bufferSize).2

theorem Page.resolveChunks_eq (p : Page) (bufferSize maxSge : Nat) :
    p.resolveChunks (resolveBufSize bufferSize) maxSge =
      (p.size * 2 ^ p.order (resolveBufSize bufferSize) maxSge,
        divRoundUp (resolveBufSize bufferSize)
          (p.size * 2 ^ p.order (resolveBufSize bufferSize) maxSge)) := by
  have needed := p.needed_resolve bufferSize maxSge
  have small := (resolveBufSize_bounds bufferSize).2
  rw [Page.resolveChunks, needed.chunkSize_eq small, needed.numChunks_eq small]

/-- The slots of a host with pages of `p`, on a device with `maxSge` entries. -/
def Page.geometry (p : Page) (bufferSize maxSge : Nat) : Geometry where
  bufSize := resolveBufSize bufferSize
  chunkSize := (p.resolveChunks (resolveBufSize bufferSize) maxSge).1
  numChunks := (p.resolveChunks (resolveBufSize bufferSize) maxSge).2
  size_min := (resolveBufSize_bounds bufferSize).1
  size_max := (resolveBufSize_bounds bufferSize).2
  page_le := by
    rw [p.resolveChunks_eq]
    exact p.pageSize_le_size.trans (Nat.le_mul_of_pos_right _ (Nat.two_pow_pos _))
  covers := by
    rw [p.resolveChunks_eq]
    exact le_divRoundUp_mul (Nat.mul_pos p.size_pos (Nat.two_pow_pos _))

theorem sgeBudget_eq (maxSge : Nat) : (if maxSge = 0 then 1 else maxSge) = max maxSge 1 := by
  split <;> omega

theorem Page.geometry_numChunks_le (p : Page) (bufferSize maxSge : Nat) :
    (p.geometry bufferSize maxSge).numChunks ≤ max maxSge 1 := by
  have small := (resolveBufSize_bounds bufferSize).2
  have needed := p.needed_resolve bufferSize maxSge
  have stop : ¬ (max maxSge 1 < p.numChunks (resolveBufSize bufferSize)
      (p.order (resolveBufSize bufferSize) maxSge) ∧
      p.chunkSize (p.order (resolveBufSize bufferSize) maxSge) < resolveBufSize bufferSize) := by
    rw [Page.order, sgeBudget_eq]
    exact (p.needed_start bufferSize).grow_stops _ small (Nat.le_add_left _ _)
  change p.numChunks _ (p.order _ maxSge) ≤ _
  by_cases fits : p.numChunks (resolveBufSize bufferSize)
      (p.order (resolveBufSize bufferSize) maxSge) ≤ max maxSge 1
  · exact fits
  · rw [needed.numChunks_eq small]
    refine (divRoundUp_le_one (Nat.mul_pos p.size_pos (Nat.two_pow_pos _)) ?_).trans
      (Nat.le_max_right _ _)
    rw [← needed.chunkSize_eq small]
    exact Nat.le_of_not_lt fun short => stop ⟨Nat.lt_of_not_le fits, short⟩

def Geometry.resolve (bufferSize maxSge : Nat) : Geometry := Page.base.geometry bufferSize maxSge

/-! ## Kvec lists and scatter-gather entries -/

def fillKvecsLen (g : Geometry) (payloadLen : Nat) : List Segment :=
  segments g.chunkSize g.numChunks 0 headerSize payloadLen

def fillKvecs (g : Geometry) : List Segment := fillKvecsLen g (epMaxPayload g.bufSize)

/-- The entries of a send of `len` bytes, header included. -/
def postSges (g : Geometry) (len : Nat) : List Segment :=
  segments g.chunkSize g.numChunks 0 0 len

def armChunks (chunkSize : Nat) : (chunks index remaining : Nat) → List Segment
  | 0, _, _ => []
  | chunks + 1, index, remaining =>
    ⟨index, 0, min remaining chunkSize⟩ ::
      armChunks chunkSize chunks (index + 1) (remaining - min remaining chunkSize)

def srqSges (g : Geometry) : List Segment := armChunks g.chunkSize g.numChunks 0 g.bufSize

/-- What the device leaves in a posted slot. -/
def landing (g : Geometry) (mem : Memory) (wire : List UInt8) : Memory :=
  scatter mem (srqSges g) wire

def gatherPayload (g : Geometry) (mem : Memory) (len : Nat) : List UInt8 :=
  gather mem (segments g.chunkSize g.numChunks 0 headerSize len)

def Geometry.view (g : Geometry) (mem : Memory) : Nat → UInt8 := flat g.chunkSize mem

def Geometry.payload (g : Geometry) (mem : Memory) (len : Nat) : List UInt8 :=
  window (g.view mem) headerSize len

section Layout

variable {g : Geometry}

theorem Geometry.header_lt (g : Geometry) : headerSize < g.chunkSize :=
  lt_of_lt_of_le (by decide) g.page_le

theorem Geometry.chunkSize_pos (g : Geometry) : 0 < g.chunkSize :=
  Nat.lt_of_le_of_lt (Nat.zero_le _) g.header_lt

theorem Geometry.numChunks_pos (g : Geometry) : 0 < g.numChunks := by
  refine Nat.pos_of_ne_zero fun none => ?_
  have least := g.size_min
  have covers := g.covers
  rw [none, Nat.zero_mul] at covers
  simp only [bufferSizeMin] at least
  omega

theorem Geometry.le_chunkSize (g : Geometry) {n : Nat} (fits : n ≤ g.bufSize)
    (together : ¬(1 < g.numChunks ∧ g.chunkSize < n)) : n ≤ g.chunkSize := by
  by_contra beyond
  have single : g.numChunks ≤ 1 := by omega
  have covers := g.covers.trans (Nat.mul_le_mul_right g.chunkSize single)
  omega

section

variable (mem : Memory)

variable {len : Nat}

theorem gather_fillKvecsLen (fits : headerSize + len ≤ g.bufSize) :
    gather mem (fillKvecsLen g len) = g.payload mem len := by
  rw [fillKvecsLen, gather_segments mem g.header_lt (fits.trans g.covers), Nat.zero_mul,
    Nat.zero_add]
  rfl

theorem gatherPayload_eq (fits : headerSize + len ≤ g.bufSize) :
    gatherPayload g mem len = g.payload mem len :=
  gather_fillKvecsLen mem fits

theorem readSegment_chunk_zero (fits : headerSize + len ≤ g.chunkSize) :
    readSegment mem ⟨0, headerSize, len⟩ = g.payload mem len := by
  rw [readSegment_eq_window mem fits, Nat.zero_mul, Nat.zero_add]
  rfl

theorem gather_postSges (fits : len ≤ g.bufSize) :
    gather mem (postSges g len) = window (g.view mem) 0 len := by
  rw [postSges, gather_segments mem g.chunkSize_pos
    (by rw [Nat.zero_add]; exact fits.trans g.covers),
    Nat.zero_mul]
  rfl

theorem view_scatter_fillKvecs {data : List UInt8} (fits : headerSize + data.length ≤ g.bufSize) :
    g.view (scatter mem (fillKvecs g) data) = overlay (g.view mem) headerSize data := by
  have capacity : headerSize + epMaxPayload g.bufSize ≤ g.numChunks * g.chunkSize := by
    have covers := g.covers
    unfold epMaxPayload
    omega
  have whole : data.take (epMaxPayload g.bufSize) = data := by
    refine List.take_of_length_le ?_
    unfold epMaxPayload
    omega
  rw [Geometry.view, fillKvecs, fillKvecsLen, flat_scatter mem g.header_lt capacity, Nat.zero_mul,
    Nat.zero_add, whole]
  rfl

theorem scatter_armChunks (chunkSize chunks index remaining : Nat) (bytes : List UInt8) :
    scatter mem (armChunks chunkSize chunks index remaining) bytes =
      scatter mem (segments chunkSize chunks index 0 remaining) bytes := by
  induction chunks generalizing mem index remaining bytes with
  | zero => rfl
  | succ chunks ih =>
    rw [armChunks, segments]
    split
    · rename_i finished
      have rest : segments chunkSize chunks (index + 1) 0 0 = [] := by
        cases chunks <;> simp [segments]
      simp [finished, scatter, ih, rest]
    · simp only [scatter, Nat.sub_zero]
      exact ih _ _ _ _

variable {bytes : List UInt8}

theorem view_scatter_srqSges (fits : bytes.length ≤ g.bufSize) :
    g.view (scatter mem (srqSges g) bytes) = overlay (g.view mem) 0 bytes := by
  rw [Geometry.view, srqSges, scatter_armChunks,
    flat_scatter mem g.chunkSize_pos (by rw [Nat.zero_add]; exact g.covers), Nat.zero_mul,
    List.take_of_length_le fits]
  rfl

theorem view_writeAt {offset : Nat} (fits : offset + bytes.length ≤ g.chunkSize) :
    g.view (writeAt mem 0 offset bytes) = overlay (g.view mem) offset bytes := by
  rw [Geometry.view, flat_writeAt mem 0 g.chunkSize_pos fits, Nat.zero_mul, Nat.zero_add]
  rfl

theorem window_chunk_zero {start length : Nat} (inside : start + length ≤ g.chunkSize) :
    window (mem 0) start length = window (g.view mem) start length := by
  refine window_congr fun i _ bound => ?_
  rw [Geometry.view, flat_of_lt mem (by omega)]

variable {wire header data rest : List UInt8} {first length : Nat}

theorem window_landing (fits : wire.length ≤ g.bufSize) (inside : first + length ≤ wire.length) :
    window (g.view (landing g mem wire)) first length = (wire.drop first).take length := by
  rw [landing, view_scatter_srqSges mem fits, window_overlay _ (Nat.zero_le _) (by omega),
    Nat.sub_zero]

theorem window_landing_zero (fits : wire.length ≤ g.bufSize)
    (inside : first + length ≤ wire.length) (together : first + length ≤ g.chunkSize) :
    window (landing g mem wire 0) first length = (wire.drop first).take length := by
  rw [window_chunk_zero _ together, window_landing mem fits inside]

theorem header_landing (encoded : header.length = headerSize)
    (fits : (header ++ rest).length ≤ g.bufSize) :
    window (landing g mem (header ++ rest) 0) 0 headerSize = header := by
  have header_lt := g.header_lt
  rw [window_landing_zero mem fits (by rw [List.length_append]; omega) (by omega), List.drop_zero,
    ← encoded, List.take_left]

theorem payload_landing (encoded : header.length = headerSize)
    (fits : (header ++ (data ++ rest)).length ≤ g.bufSize) :
    g.payload (landing g mem (header ++ (data ++ rest))) data.length = data := by
  rw [Geometry.payload, window_landing mem fits (by simp only [List.length_append]; omega),
    ← encoded, List.drop_left, List.take_left]

end

end Layout

end Urp.Frame
