import Mathlib.Order.Interval.Set.Basic
import Mathlib.Order.CompletePartialOrder
import Mathlib.Data.Set.BooleanAlgebra
import Urp.Frame.Wire
import Urp.Lib.Checked
import Urp.Lib.Machine
import Urp.Lib.Masked

/-!
# The buffers of a registered pool
-/

namespace Urp.Fast

open Urp.Lib Urp.Frame Option

def cmdBufSizeMin : Nat := 64

def cmdBufSizeMax : Nat := 2 ^ 20

def cmdPoolCountMax : Nat := 65536

def cmdHeaderResv : Nat := 20

def cmdSend : UInt32 := 3

def cmdRecv : UInt32 := 4

def cmdFin : UInt16 := 1

/-- `struct urp_cmd_reg`. -/
structure CmdReg where
  base : UInt64
  len : UInt64
  bufSize : UInt32
  count : UInt32
  flags : UInt32
  resv : UInt32
deriving DecidableEq

/-- `struct urp_cmd_data`. -/
structure CmdData where
  bufIndex : UInt32
  len : UInt32
  streamId : UInt16
  flags : UInt16
  resv : UInt32
deriving DecidableEq

structure PoolGeom where
  count : UInt32
  bufSize : UInt32
deriving DecidableEq

structure CmdReq where
  op : UInt32
  bufIndex : UInt32
  len : UInt32
  streamId : UInt16
  flags : UInt16
deriving DecidableEq

def validateReg (p : Page) (r : CmdReg) : Except Errno Unit :=
  if r.flags ≠ 0 ∨ r.resv ≠ 0 then .error .EINVAL
  else if r.base = 0 ∨ r.base.toNat % p.size ≠ 0 then .error .EINVAL
  else if r.bufSize.toNat < cmdBufSizeMin ∨ cmdBufSizeMax < r.bufSize.toNat then .error .EINVAL
  else if r.len = 0 ∨ r.len.toNat % r.bufSize.toNat ≠ 0 ∨ r.len.toNat % p.size ≠ 0 then
    .error .EINVAL
  else if r.count = 0 then .error .EINVAL
  else if cmdPoolCountMax < r.count.toNat then .error .E2BIG
  else if r.count.toNat * r.bufSize.toNat % 2 ^ 64 ≠ r.len.toNat then .error .EINVAL
  else .ok ()

def allowedFlags (op : UInt32) : UInt16 := if op = cmdSend then cmdFin else 0

def validateData (op : UInt32) (d : CmdData) (geom : PoolGeom) : Except Errno CmdReq :=
  if op ≠ cmdSend ∧ op ≠ cmdRecv then .error .EOPNOTSUPP
  else if d.resv ≠ 0 then .error .EINVAL
  else if d.flags &&& ~~~allowedFlags op ≠ 0 then .error .EINVAL
  else if d.len = 0 then .error .EINVAL
  else if geom.count = 0 then .error Errno.ENXIO
  else if geom.count ≤ d.bufIndex then .error .ERANGE
  else if geom.bufSize - UInt32.ofNat cmdHeaderResv < d.len then .error .EMSGSIZE
  else .ok ⟨op, d.bufIndex, d.len, d.streamId, d.flags⟩

def CmdReg.geom (r : CmdReg) : PoolGeom := ⟨r.count, r.bufSize⟩

def CmdReg.nrPages (r : CmdReg) (p : Page) : Nat := r.len.toNat / p.size

/-! ## What the checks establish -/

structure Accepted (p : Page) (r : CmdReg) : Prop where
  bufSize_min : cmdBufSizeMin ≤ r.bufSize.toNat
  bufSize_max : r.bufSize.toNat ≤ cmdBufSizeMax
  count_ne : r.count.toNat ≠ 0
  count_max : r.count.toNat ≤ cmdPoolCountMax
  len_eq : r.count.toNat * r.bufSize.toNat = r.len.toNat
  pages : r.nrPages p * p.size = r.len.toNat

theorem accepted_of_validateReg {p : Page} {r : CmdReg} (valid : validateReg p r = .ok ()) :
    Accepted p r := by
  simp only [validateReg, guard_eq_ok] at valid
  obtain ⟨-, -, sized, lengths, none, many, product, -⟩ := valid
  push Not at sized lengths many product
  have small : r.count.toNat * r.bufSize.toNat < 2 ^ 64 := by
    have bound := Nat.mul_le_mul many sized.2
    simp only [cmdPoolCountMax, cmdBufSizeMax] at bound
    omega
  have buffers : r.count.toNat ≠ 0 := fun zero => none (UInt32.toNat_inj.mp zero)
  exact ⟨sized.1, sized.2, buffers, many, (Nat.mod_eq_of_lt small).symm.trans product,
    Nat.div_mul_cancel (Nat.dvd_of_mod_eq_zero lengths.2.2)⟩

structure ValidReq (geom : PoolGeom) (req : CmdReq) : Prop where
  index_lt : req.bufIndex.toNat < geom.count.toNat
  len_le : req.len.toNat ≤ geom.bufSize.toNat - cmdHeaderResv

theorem validReq_of_validateData {op : UInt32} {d : CmdData} {geom : PoolGeom} {req : CmdReq}
    (size : cmdBufSizeMin ≤ geom.bufSize.toNat) (valid : validateData op d geom = .ok req) :
    ValidReq geom req := by
  simp only [validateData, guard_eq_ok, Except.ok.injEq] at valid
  obtain ⟨-, -, -, -, -, range, large, rfl⟩ := valid
  have header : (UInt32.ofNat cmdHeaderResv).toNat = cmdHeaderResv := by decide
  have usable : (geom.bufSize - UInt32.ofNat cmdHeaderResv).toNat =
      geom.bufSize.toNat - cmdHeaderResv := by
    rw [UInt32.toNat_sub_of_le _ _ ?_, header]
    rw [UInt32.le_iff_toNat_le, header]
    exact le_trans (by decide) size
  rw [UInt32.lt_iff_toNat_lt, usable] at large
  exact ⟨Nat.lt_of_not_le range, Nat.le_of_not_lt large⟩

/-! ## The places that a command touches -/

def bufOffset (geom : PoolGeom) (bufIndex : UInt32) : Option Nat :=
  checked 64 (bufIndex.toNat * geom.bufSize.toNat)

/-- The pieces of a copy of `len` bytes at an offset of the pool, on one page or on two. -/
def pageAccess (p : Page) (off len : Nat) : Option (List Segment) :=
  (difference p.size (off % p.size)).bind fun left =>
    let n0 := min len left
    if n0 < len then
      (checked 64 (off / p.size + 1)).bind fun next =>
        (difference len n0).map fun rest => [⟨off / p.size, off % p.size, n0⟩, ⟨next, 0, rest⟩]
    else some [⟨off / p.size, off % p.size, n0⟩]

/-- What `urp_fast_write_header` writes and `urp_fast_read_header` reads. -/
def fastHeader (p : Page) (geom : PoolGeom) (bufIndex : UInt32) : Option (List Segment) :=
  (bufOffset geom bufIndex).bind fun off => pageAccess p off headerSize

def fastReadAt (p : Page) (geom : PoolGeom) (bufIndex : UInt32) (off len : Nat) :
    Option (List Segment) :=
  (bufOffset geom bufIndex).bind fun base =>
    (checked 64 (base + off)).bind fun boff => pageAccess p boff len

def fastReadPing (p : Page) (geom : PoolGeom) (bufIndex : UInt32) : Option (List Segment) :=
  fastReadAt p geom bufIndex headerSize pingPayloadSize

structure Region where
  iova : Nat
  length : Nat
  word : iova + length ≤ 2 ^ 64

structure Sge where
  addr : Nat
  length : Nat
deriving DecidableEq, Repr

def bufAddr (region : Region) (geom : PoolGeom) (bufIndex : UInt32) : Option Nat :=
  (bufOffset geom bufIndex).bind fun off => checked 64 (region.iova + off)

def sendSge (region : Region) (geom : PoolGeom) (req : CmdReq) : Option Sge :=
  (bufAddr region geom req.bufIndex).bind fun addr =>
    (checked 32 (headerSize + req.len.toNat)).map fun length => ⟨addr, length⟩

def recvSge (region : Region) (geom : PoolGeom) (req : CmdReq) : Option Sge :=
  (bufAddr region geom req.bufIndex).bind fun addr =>
    (checked 32 (headerSize + req.len.toNat)).map fun frame =>
      ⟨addr, min geom.bufSize.toNat frame⟩

def buffer (geom : PoolGeom) (i : Nat) : Set Nat :=
  Set.Ico (i * geom.bufSize.toNat) ((i + 1) * geom.bufSize.toNat)

def PagesInside (p : Page) (r : CmdReg) (i : Nat) (access : Option (List Segment)) : Prop :=
  ∃ pieces, access = some pieces ∧ ∀ a ∈ addresses pieces,
    a.1 < r.nrPages p ∧ a.2 < p.size ∧ a.1 * p.size + a.2 ∈ buffer r.geom i

def SgeInside (region : Region) (r : CmdReg) (i : Nat) (posted : Option Sge) : Prop :=
  ∃ sge, posted = some sge ∧ region.iova ≤ sge.addr ∧
    Set.Ico (sge.addr - region.iova) (sge.addr - region.iova + sge.length) ⊆ buffer r.geom i

section Inside

variable {p : Page} {r : CmdReg} {req : CmdReq}

theorem buffer_disjoint (geom : PoolGeom) {i j : Nat} (ne : i ≠ j) :
    Disjoint (buffer geom i) (buffer geom j) := by
  rw [Set.disjoint_left]
  rintro x ⟨first, last⟩ ⟨first', last'⟩
  rcases Nat.lt_or_gt_of_ne ne with lt | gt
  · have apart := Nat.mul_le_mul_right geom.bufSize.toNat (Nat.succ_le_of_lt lt)
    exact absurd (last.trans_le (apart.trans first')) (Nat.lt_irrefl x)
  · have apart := Nat.mul_le_mul_right geom.bufSize.toNat (Nat.succ_le_of_lt gt)
    exact absurd (last'.trans_le (apart.trans first)) (Nat.lt_irrefl x)

theorem pageAccess_eq (off len : Nat) (positive : 0 < len) (short : len ≤ p.size)
    (word : off < 2 ^ 63) :
    pageAccess p off len = some (segments p.size 2 (off / p.size) (off % p.size) len) := by
  have inPage := Nat.mod_lt off p.size_pos
  have page : off / p.size ≤ off := Nat.div_le_self _ _
  rw [pageAccess, difference_of_le inPage.le, bind_some, segments, if_neg (Nat.ne_of_gt positive)]
  dsimp only
  split
  · rename_i more
    have front : min len (p.size - off % p.size) = p.size - off % p.size := by omega
    have back : min (len - (p.size - off % p.size)) p.size = len - (p.size - off % p.size) := by
      omega
    rw [checked_of_lt (by omega), bind_some, difference_of_le more.le, map_some,
      front, segments, if_neg (by omega), segments, Nat.sub_zero, back]
  · rename_i enough
    have done : len - min len (p.size - off % p.size) = 0 := by omega
    rw [done, segments_nothing]

section

variable (accepted : Accepted p r)
include accepted

theorem Accepted.buffer_le {i : Nat} (index : i < r.count.toNat) :
    (i + 1) * r.bufSize.toNat ≤ r.len.toNat := by
  rw [← accepted.len_eq]
  exact Nat.mul_le_mul_right _ index

theorem Accepted.len_lt : r.len.toNat ≤ 2 ^ 36 := by
  have bound := Nat.mul_le_mul accepted.count_max accepted.bufSize_max
  rwa [accepted.len_eq] at bound

variable {i : UInt32}

theorem Accepted.bufOffset_eq (index : i.toNat < r.count.toNat) :
    bufOffset r.geom i = some (i.toNat * r.bufSize.toNat) := by
  have within := accepted.buffer_le index
  have small := accepted.len_lt
  rw [Nat.succ_mul] at within
  exact checked_of_lt (by change _ * r.bufSize.toNat < _; omega)

theorem Accepted.pagesInside (index : i.toNat < r.count.toNat) (off len : Nat)
    (positive : 0 < len) (fits : off + len ≤ cmdBufSizeMin) :
    PagesInside p r i.toNat (pageAccess p (i.toNat * r.bufSize.toNat + off) len) := by
  have within := accepted.buffer_le index
  have small := accepted.len_lt
  have size := accepted.bufSize_min
  have page := p.pageSize_le_size
  rw [Nat.succ_mul] at within
  simp only [cmdBufSizeMin, pageSize] at fits size page
  refine ⟨_, pageAccess_eq _ _ positive (by omega) (by omega), ?_⟩
  intro a member
  obtain ⟨_, inPage, first, last⟩ := mem_addresses_segments (Nat.mod_lt _ p.size_pos).le member
  rw [Nat.div_add_mod'] at first last
  have pinned : a.1 * p.size < r.nrPages p * p.size := by
    rw [accepted.pages]
    omega
  refine ⟨Nat.lt_of_mul_lt_mul_right pinned, inPage, ?_, ?_⟩
  · change _ * r.bufSize.toNat ≤ _
    omega
  · change _ < _ * r.bufSize.toNat
    rw [Nat.succ_mul]
    omega

theorem Accepted.frame_le (request : ValidReq r.geom req) :
    headerSize + req.len.toNat ≤ r.bufSize.toNat := by
  have size := accepted.bufSize_min
  have length : req.len.toNat ≤ r.bufSize.toNat - cmdHeaderResv := request.len_le
  simp only [cmdBufSizeMin, cmdHeaderResv, headerSize] at *
  omega

theorem Accepted.frame_checked (request : ValidReq r.geom req) :
    checked 32 (headerSize + req.len.toNat) = some (headerSize + req.len.toNat) := by
  have frame := accepted.frame_le request
  have most := accepted.bufSize_max
  unfold cmdBufSizeMax at most
  exact checked_of_lt (by omega)

theorem Accepted.sgeInside {region : Region} (covers : r.nrPages p * p.size ≤ region.length)
    (index : i.toNat < r.count.toNat) {length : Nat} (fits : length ≤ r.bufSize.toNat) :
    bufAddr region r.geom i = some (region.iova + i.toNat * r.bufSize.toNat) ∧
      SgeInside region r i.toNat (some ⟨region.iova + i.toNat * r.bufSize.toNat, length⟩) := by
  have within := accepted.buffer_le index
  have size := accepted.bufSize_min
  have word := region.word
  have next : (i.toNat + 1) * r.bufSize.toNat = i.toNat * r.bufSize.toNat + r.bufSize.toNat :=
    Nat.succ_mul _ _
  rw [accepted.pages] at covers
  simp only [cmdBufSizeMin] at size
  constructor
  · rw [bufAddr, accepted.bufOffset_eq index, bind_some, checked_of_lt (by omega)]
  · refine ⟨_, rfl, Nat.le_add_right _ _, ?_⟩
    rintro x ⟨first, last⟩
    dsimp only at first last
    rw [Nat.add_sub_cancel_left] at first last
    refine ⟨first, ?_⟩
    change x < (i.toNat + 1) * r.bufSize.toNat
    omega

end

end Inside

/-- Whatever passes the checks touches its own buffer only, on pages that were pinned, and no
offset overflows. -/
theorem commands_stay_inside (p : Page) (r : CmdReg) (region : Region) (op : UInt32) (d : CmdData)
    (req : CmdReq) (registered : validateReg p r = .ok ())
    (covers : r.nrPages p * p.size ≤ region.length)
    (valid : validateData op d r.geom = .ok req) :
    PagesInside p r req.bufIndex.toNat (fastHeader p r.geom req.bufIndex) ∧
      PagesInside p r req.bufIndex.toNat (fastReadPing p r.geom req.bufIndex) ∧
      SgeInside region r req.bufIndex.toNat (sendSge region r.geom req) ∧
      SgeInside region r req.bufIndex.toNat (recvSge region r.geom req) ∧
      ∀ i j, i ≠ j → Disjoint (buffer r.geom i) (buffer r.geom j) := by
  have accepted := accepted_of_validateReg registered
  have request := validReq_of_validateData accepted.bufSize_min valid
  have index : req.bufIndex.toNat < r.count.toNat := request.index_lt
  have word := accepted.frame_checked request
  have offset := accepted.bufOffset_eq index
  refine ⟨?_, ?_, ?_, ?_, fun i j => buffer_disjoint r.geom⟩
  · rw [fastHeader, offset, bind_some]
    exact accepted.pagesInside index 0 headerSize (by decide) (by decide)
  · have inPool := accepted.buffer_le index
    have small := accepted.len_lt
    rw [Nat.succ_mul] at inPool
    rw [fastReadPing, fastReadAt, offset, bind_some, checked_of_lt, bind_some]
    · exact accepted.pagesInside index headerSize pingPayloadSize (by decide) (by decide)
    · have size := accepted.bufSize_min
      simp only [cmdBufSizeMin, headerSize] at *
      omega
  · obtain ⟨addr, inside⟩ := accepted.sgeInside covers index (accepted.frame_le request)
    rwa [sendSge, addr, bind_some, word]
  · obtain ⟨addr, inside⟩ := accepted.sgeInside covers index (Nat.min_le_left _ _)
    rwa [recvSge, addr, bind_some, word]

/-- Of 256 buffers on 255 pages, the second has its header on two of them. -/
theorem commands_stay_inside_second :
    fastHeader Page.base ⟨256, 4080⟩ 1 = some [⟨0, 4080, 16⟩, ⟨1, 0, 4⟩] ∧
      PagesInside Page.base ⟨4096, 1044480, 4080, 256, 0, 0⟩ 1
        (fastHeader Page.base ⟨256, 4080⟩ 1) := by
  have inside := commands_stay_inside Page.base ⟨4096, 1044480, 4080, 256, 0, 0⟩
    ⟨4096, 1044480, by decide⟩ cmdSend ⟨1, 100, 7, 0, 0⟩ ⟨cmdSend, 1, 100, 7, 0⟩ (by decide)
    (by decide) (by decide)
  exact ⟨by decide, inside.1⟩

end Urp.Fast
