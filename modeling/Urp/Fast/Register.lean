import Urp.Fast.Own
import Urp.Fast.Pool
import Urp.Fast.RegMr
import Urp.Lib.Holdings
import Urp.Lib.Run

/-!
# Registering a pool
-/

namespace Urp.Fast.Register

open Urp.Lib Urp.Frame Option Bool

/-- `URP_CMD_POOL_BYTES_MAX` -/
def poolBytesMax : Nat := 2 ^ 30

inductive Resource where
  | array | pin | ref | table | map | region
deriving DecidableEq, Repr

/-- `struct urp_cmd_ctx`. -/
structure Ctx where
  registered : Bool
  base : Nat
  poolLen : Nat
  nrPages : Nat
  pages : Bool
  geom : PoolGeom
  ep : Bool
  ibDev : Bool
  mr : Bool
  mrIova : Nat
  lkey : Nat
  sgl : Bool
  sgNents : Nat
  own : Option (Own.Words 64)
  ops : Bool
deriving DecidableEq

def Ctx.empty : Ctx :=
  ⟨false, 0, 0, 0, false, ⟨0, 0⟩, false, false, false, 0, 0, false, 0, none, false⟩

/-- `deferred` are the regions that were left to the completion of their work request. -/
structure State where
  ctx : Ctx
  held : Holdings Resource
  deferred : Nat

def State.init : State := ⟨.empty, .none, 0⟩

structure Answers where
  resv : UInt64
  copied : Bool
  reg : CmdReg
  pages : Bool
  pinned : Except Errno Nat
  epFound : Bool
  epReady : Bool
  sgAlloc : RegMr.Ret
  nents : Nat
  allocMr : RegMr.Ret
  mapMr : Except Errno Nat
  mrLength : Nat
  regMr : RegMr.Ret
  iova : Nat
  lkey : Nat
  own : Bool
  ops : Bool

namespace State

def hold (s : State) (x : Resource) (n : Nat) : State := { s with held := s.held.hold x n }

def drop (s : State) (x : Resource) (n : Nat) : Option State :=
  (s.held.drop x n).map fun held => { s with held := held }

def dropIf (s : State) (present : Bool) (x : Resource) (n : Nat) : Option State :=
  if present then s.drop x n else some s

/-- `sg_free_table` -/
def freeTable (s : State) : Option State :=
  (s.drop .table 1).map fun s => { s with ctx := { s.ctx with sgl := false } }

/-- `ib_dma_unmap_sg` -/
def unmapSg (s : State) : Option State := if s.ctx.sgl then s.drop .map 1 else none

/-! The labels at the end of `urp_cmd_map_pool`, each of which falls through to the one before. -/

def errPut (s : State) : Option State := s.drop .ref 1

def errSgt (s : State) : Option State := s.freeTable.bind errPut

def errUnmap (s : State) : Option State :=
  s.unmapSg.bind fun s => errSgt { s with ctx := { s.ctx with sgNents := 0 } }

def errMr (s : State) : Option State := (s.drop .region 1).bind errUnmap

end State

def fail (e : Errno) (unwound : Option State) : Option (RegMr.Ret × State) :=
  unwound.map fun s => (.error e, s)

def regMrFailed (e : Errno) (s : State) : Option (RegMr.Ret × State) :=
  if RegMr.Abandoned (.error e) then
    fail e ((s.drop .region 1).bind fun s => { s with deferred := s.deferred + 1 }.errUnmap)
  else fail e s.errMr

def mapPool (p : Page) (a : Answers) (nrPages : Nat) (s : State) : Option (RegMr.Ret × State) :=
  if !a.epFound then some (.error .ENODEV, s)
  else
    let s := s.hold .ref 1
    if !a.epReady then fail .ENOTCONN s.errPut
    else match a.sgAlloc with
    | .error e => fail e s.errPut
    | .ok () =>
      let s := { s.hold .table 1 with ctx := { s.ctx with sgl := true } }
      if a.nents = 0 then fail .ENOMEM s.errSgt
      else
        let s := { s.hold .map 1 with ctx := { s.ctx with sgNents := a.nents } }
        match a.allocMr with
        | .error e => fail e s.errUnmap
        | .ok () =>
          let s := s.hold .region 1
          match a.mapMr with
          | .error e => fail e s.errMr
          | .ok mapped =>
            if mapped ≠ a.nents ∨ a.mrLength < nrPages * p.size then fail .EINVAL s.errMr
            else match a.regMr with
            | .error e => regMrFailed e s
            | .ok () =>
              some (.ok (), { s with ctx := { s.ctx with
                ep := true, ibDev := true, mr := true, mrIova := a.iova, lkey := a.lkey } })

/-- A bitmap that is not there has no word to look at. -/
def ownAnyKernel (own : Option (Own.Words 64)) (count : UInt32) : Option Bool :=
  Own.ownAnyKernel (own.getD []) count

/-- `urp_cmd_pool_release`. Nothing of the pool is left in the context. -/
def poolRelease (s : State) : Option State :=
  if s.ctx.registered then
    -- a buffer in flight is waited for, which changes nothing here
    (ownAnyKernel s.ctx.own s.ctx.geom.count).bind fun _ =>
    (s.dropIf s.ctx.ops .array 1).bind fun s =>
    (s.dropIf s.ctx.own.isSome .array 1).bind fun s =>
    (s.dropIf s.ctx.mr .region 1).bind fun s =>
    (if s.ctx.sgl then s.unmapSg.bind State.freeTable else some s).bind fun s =>
    (s.dropIf s.ctx.ep .ref 1).bind fun s =>
    (if s.ctx.pages then s.drop .pin s.ctx.nrPages else none).bind fun s =>
    (s.drop .array 1).map fun s => { s with ctx := .empty }
  else some s

def finish (a : Answers) (nrPages : Nat) (s : State) : Option (RegMr.Ret × State) :=
  let s := { s with ctx := { s.ctx with
    base := a.reg.base.toNat, poolLen := a.reg.len.toNat, nrPages := nrPages, pages := true,
    geom := a.reg.geom, registered := true,
    own := if a.own then some (List.replicate (Own.ownWords 64 a.reg.count).toNat 0) else none,
    ops := a.ops } }
  let s := if a.own then s.hold .array 1 else s
  let s := if a.ops then s.hold .array 1 else s
  if !a.own || !a.ops then fail .ENOMEM (poolRelease s) else some (.ok (), s)

def afterMap (a : Answers) (nrPages : Nat) : RegMr.Ret × State → Option (RegMr.Ret × State)
  | (.error e, s) =>
    fail e ((s.drop .pin nrPages).bind fun s =>
      (s.drop .array 1).map fun s => { s with ctx := { s.ctx with nrPages := 0 } })
  | (.ok (), s) => finish a nrPages s

def doRegister (p : Page) (a : Answers) (s : State) : Option (RegMr.Ret × State) :=
  if a.resv ≠ 0 then some (.error .EINVAL, s)
  else if !a.copied then some (.error .EFAULT, s)
  else match validateReg p a.reg with
  | .error e => some (.error e, s)
  | .ok () =>
    let nrPages := a.reg.nrPages p
    if poolBytesMax < a.reg.len.toNat then some (.error .E2BIG, s)
    else if s.ctx.registered then some (.error .EEXIST, s)
    else if !a.pages then some (.error .ENOMEM, s)
    else
      let s := s.hold .array 1
      match a.pinned with
      | .error e => fail e (s.drop .array 1)
      | .ok pinned =>
        let s := s.hold .pin pinned
        if pinned ≠ nrPages then
          fail .EFAULT ((s.drop .pin pinned).bind fun s => s.drop .array 1)
        else
          (mapPool p a nrPages { s with ctx := { s.ctx with nrPages := nrPages } }).bind
            (afterMap a nrPages)

def doUnregister (s : State) : Option (RegMr.Ret × State) :=
  if !s.ctx.registered then some (.error Errno.ENXIO, s)
  else
    (ownAnyKernel s.ctx.own s.ctx.geom.count).bind fun inflight =>
      if inflight then some (.error .EBUSY, s)
      else (poolRelease s).map fun s => (.ok (), s)

/-! ## Unwinding -/

section Unwind

variable {c : Ctx} {h : Holdings Resource} {d : Nat}

@[simp] theorem State.drop_mk_hold (x : Resource) (n : Nat) :
    State.drop ⟨c, h.hold x n, d⟩ x n = some ⟨c, h, d⟩ := by
  simp [State.drop]

theorem errPut_undoes : State.errPut ⟨c, h.hold .ref 1, d⟩ = some ⟨c, h, d⟩ :=
  State.drop_mk_hold ..

theorem errSgt_undoes :
    State.errSgt ⟨c, (h.hold .ref 1).hold .table 1, d⟩ = some ⟨{ c with sgl := false }, h, d⟩ := by
  simp [State.errSgt, State.freeTable, errPut_undoes]

theorem errUnmap_undoes (table : c.sgl = true) :
    State.errUnmap ⟨c, ((h.hold .ref 1).hold .table 1).hold .map 1, d⟩ =
      some ⟨{ c with sgl := false, sgNents := 0 }, h, d⟩ := by
  simp [State.errUnmap, State.unmapSg, table, errSgt_undoes]

theorem errMr_undoes (table : c.sgl = true) :
    State.errMr ⟨c, (((h.hold .ref 1).hold .table 1).hold .map 1).hold .region 1, d⟩ =
      some ⟨{ c with sgl := false, sgNents := 0 }, h, d⟩ := by
  simp [State.errMr, errUnmap_undoes table]

theorem regMrFailed_undoes (e : Errno) (table : c.sgl = true) :
    ∃ d', regMrFailed e ⟨c, (((h.hold .ref 1).hold .table 1).hold .map 1).hold .region 1, d⟩ =
      some (.error e, ⟨{ c with sgl := false, sgNents := 0 }, h, d'⟩) := by
  unfold regMrFailed
  split
  · exact ⟨d + 1, by simp [fail, errUnmap_undoes table]⟩
  · exact ⟨d, by simp [fail, errMr_undoes table]⟩

end Unwind

/-! ## The outcomes of a registration -/

structure Answers.MapsPool (a : Answers) (p : Page) (nrPages : Nat) : Prop where
  epFound : a.epFound = true
  epReady : a.epReady = true
  sgAlloc : a.sgAlloc = .ok ()
  nents : a.nents ≠ 0
  allocMr : a.allocMr = .ok ()
  mapMr : a.mapMr = .ok a.nents
  length : nrPages * p.size ≤ a.mrLength
  regMr : a.regMr = .ok ()

def mappedCtx (a : Answers) (c : Ctx) : Ctx :=
  { c with
    sgl := true, sgNents := a.nents, ep := true, ibDev := true, mr := true, mrIova := a.iova,
    lkey := a.lkey }

def mappedHeld (h : Holdings Resource) : Holdings Resource :=
  (((h.hold .ref 1).hold .table 1).hold .map 1).hold .region 1

section MapPool

variable {p : Page} {a : Answers} {nrPages : Nat}

theorem mapPool_of_maps (maps : a.MapsPool p nrPages) (c : Ctx) (h : Holdings Resource) (d : Nat) :
    mapPool p a nrPages ⟨c, h, d⟩ = some (.ok (), ⟨mappedCtx a c, mappedHeld h, d⟩) := by
  obtain ⟨found, ready, sg, nents, region, mapped, length, registered⟩ := maps
  simp [mapPool, found, ready, sg, nents, region, mapped, Nat.not_lt.mpr length, registered,
    State.hold, mappedCtx, mappedHeld]

theorem mapPool_fails (lost : ¬ a.MapsPool p nrPages) {c : Ctx} (h : Holdings Resource) (d : Nat)
    (table : c.sgl = false) (entries : c.sgNents = 0) :
    ∃ e d', mapPool p a nrPages ⟨c, h, d⟩ = some (.error e, ⟨c, h, d'⟩) := by
  have restored : { c with sgl := false, sgNents := 0 } = c := by rw [← table, ← entries]
  have untabled : { c with sgl := false } = c := by rw [← table]
  cases found : a.epFound with
  | false => exact ⟨.ENODEV, d, by simp [mapPool, found]⟩
  | true =>
  cases ready : a.epReady with
  | false =>
    refine ⟨.ENOTCONN, d, ?_⟩
    simp [mapPool, found, ready, fail, State.hold, errPut_undoes]
  | true =>
  cases sg : a.sgAlloc with
  | error e =>
    refine ⟨e, d, ?_⟩
    simp [mapPool, found, ready, sg, fail, State.hold, errPut_undoes]
  | ok =>
  by_cases nents : a.nents = 0
  · refine ⟨.ENOMEM, d, ?_⟩
    simp [mapPool, found, ready, sg, nents, fail, State.hold, errSgt_undoes, untabled]
  cases region : a.allocMr with
  | error e =>
    refine ⟨e, d, ?_⟩
    simp [mapPool, found, ready, sg, nents, region, fail, State.hold, errUnmap_undoes, restored]
  | ok =>
  cases mapped : a.mapMr with
  | error e =>
    refine ⟨e, d, ?_⟩
    simp [mapPool, found, ready, sg, nents, region, mapped, fail, State.hold, errMr_undoes,
      restored]
  | ok n =>
  by_cases short : n ≠ a.nents ∨ a.mrLength < nrPages * p.size
  · refine ⟨.EINVAL, d, ?_⟩
    simp [mapPool, found, ready, sg, nents, region, mapped, short, fail, State.hold, errMr_undoes,
      restored]
  cases registered : a.regMr with
  | error e =>
    obtain ⟨d', undone⟩ := regMrFailed_undoes (h := h) (d := d) e
      (c := { c with sgl := true, sgNents := a.nents }) rfl
    refine ⟨e, d', ?_⟩
    rw [restored] at undone
    simpa [mapPool, found, ready, sg, nents, region, mapped, short, registered, State.hold]
      using undone
  | ok =>
    push Not at short
    exact absurd ⟨found, ready, sg, nents, region, short.1 ▸ mapped, short.2, registered⟩ lost

end MapPool

structure Answers.Maps (a : Answers) (p : Page) : Prop where
  resv : a.resv = 0
  copied : a.copied = true
  valid : validateReg p a.reg = .ok ()
  size : a.reg.len.toNat ≤ poolBytesMax
  pages : a.pages = true
  pinned : a.pinned = .ok (a.reg.nrPages p)
  pool : a.MapsPool p (a.reg.nrPages p)

structure Answers.Succeeds (a : Answers) (p : Page) : Prop where
  maps : a.Maps p
  own : a.own = true
  ops : a.ops = true

/-- What a pool of `n` pages holds: the page array, the pins, what the mapping holds, the bitmap
and, if it was allocated, the array of operations. -/
def wholeHeld (n : Nat) (ops : Bool) : Holdings Resource :=
  let h := (mappedHeld ((Holdings.none.hold .array 1).hold .pin n)).hold .array 1
  if ops then h.hold .array 1 else h

structure Whole (s : State) : Prop where
  registered : s.ctx.registered = true
  pages : s.ctx.pages = true
  ep : s.ctx.ep = true
  mr : s.ctx.mr = true
  sgl : s.ctx.sgl = true
  own : ∃ own, s.ctx.own = some own ∧ own.length = (Own.ownWords 64 s.ctx.geom.count).toNat
  held : s.held = wholeHeld s.ctx.nrPages s.ctx.ops

def Blank (s : State) : Prop := s.ctx = .empty ∧ s.held = .none

variable {s : State}

theorem Whole.looks (whole : Whole s) :
    ∃ inflight, ownAnyKernel s.ctx.own s.ctx.geom.count = some inflight := by
  obtain ⟨own, present, length⟩ := whole.own
  rw [present, ownAnyKernel, Own.ownAnyKernel, getD_some, ← length]
  exact ⟨_, Own.anyWord_eq (Nat.zero_add _)⟩

theorem poolRelease_whole (whole : Whole s) : poolRelease s = some ⟨.empty, .none, s.deferred⟩ := by
  obtain ⟨inflight, looked⟩ := whole.looks
  obtain ⟨c, held, d⟩ := s
  obtain ⟨registered, pages, ep, mr, sgl, ⟨own, present, -⟩, all⟩ := whole
  dsimp only at registered pages ep mr sgl present looked all
  rw [present] at looked
  subst all
  cases ops : c.ops <;>
    simp [poolRelease, registered, pages, ep, mr, sgl, ops, present, looked, State.dropIf,
      wholeHeld, mappedHeld, State.unmapSg, State.freeTable]

def mappedState (a : Answers) (n d : Nat) : State :=
  ⟨mappedCtx a { Ctx.empty with nrPages := n },
    mappedHeld ((Holdings.none.hold .array 1).hold .pin n), d⟩

variable {a : Answers}

theorem finish_of_own (own : a.own = true) (n d : Nat) :
    ∃ s, Whole s ∧ s.ctx.ops = a.ops ∧ s.deferred = d ∧ finish a n (mappedState a n d) =
        if a.ops then some (.ok (), s) else fail .ENOMEM (poolRelease s) := by
  refine ⟨⟨{ mappedCtx a { Ctx.empty with nrPages := n } with
    base := a.reg.base.toNat, poolLen := a.reg.len.toNat, nrPages := n, pages := true,
    geom := a.reg.geom, registered := true,
    own := some (List.replicate (Own.ownWords 64 a.reg.count).toNat 0), ops := a.ops },
    wholeHeld n a.ops, d⟩,
    ⟨rfl, rfl, rfl, rfl, rfl, ⟨_, rfl, List.length_replicate⟩, rfl⟩, rfl, rfl, ?_⟩
  cases ops : a.ops <;> simp [finish, own, ops, mappedState, State.hold, wholeHeld]

variable {p : Page}

theorem finish_of_no_own (own : a.own = false) (accepted : Accepted p a.reg) (n d : Nat) :
    finish a n (mappedState a n d) = none := by
  have words : 0 / (64 : UInt32).toNat < (Own.ownWords 64 a.reg.count).toNat := by
    refine Own.covers_of_le (by decide) ?_ (Nat.pos_of_ne_zero accepted.count_ne)
    exact (Nat.add_le_add_right accepted.count_max _).trans (by decide)
  have looked : ownAnyKernel none a.reg.count = none := by
    obtain ⟨more, some⟩ := Nat.exists_eq_add_one.mpr words
    rw [ownAnyKernel, Own.ownAnyKernel, some]
    rfl
  cases ops : a.ops <;> simp [finish, own, ops, fail, poolRelease, CmdReg.geom, looked, State.hold]

theorem doRegister_pinned (resv : a.resv = 0) (copied : a.copied = true)
    (valid : validateReg p a.reg = .ok ()) (size : a.reg.len.toNat ≤ poolBytesMax)
    (pages : a.pages = true) (pinned : a.pinned = .ok (a.reg.nrPages p)) (d : Nat) :
    doRegister p a ⟨.empty, .none, d⟩ =
      (mapPool p a (a.reg.nrPages p) ⟨{ Ctx.empty with nrPages := a.reg.nrPages p },
        (Holdings.none.hold .array 1).hold .pin (a.reg.nrPages p), d⟩).bind
          (afterMap a (a.reg.nrPages p)) := by
  simp [doRegister, resv, copied, valid, Nat.not_lt.mpr size, pages, pinned, Ctx.empty, State.hold]

theorem doRegister_of_maps (maps : a.Maps p) (d : Nat) : doRegister p a ⟨.empty, .none, d⟩ =
      finish a (a.reg.nrPages p) (mappedState a (a.reg.nrPages p) d) := by
  rw [doRegister_pinned maps.resv maps.copied maps.valid maps.size maps.pages maps.pinned,
    mapPool_of_maps maps.pool]
  rfl

theorem doRegister_fails (lost : ¬ a.Maps p) (d : Nat) :
    ∃ e d', doRegister p a ⟨.empty, .none, d⟩ = some (.error e, ⟨.empty, .none, d'⟩) := by
  by_cases resv : a.resv = 0
  swap
  · exact ⟨.EINVAL, d, by simp [doRegister, resv]⟩
  cases copied : a.copied with
  | false => exact ⟨.EFAULT, d, by simp [doRegister, resv, copied]⟩
  | true =>
  cases valid : validateReg p a.reg with
  | error e => exact ⟨e, d, by simp [doRegister, resv, copied, valid]⟩
  | ok =>
  by_cases large : poolBytesMax < a.reg.len.toNat
  · exact ⟨.E2BIG, d, by simp [doRegister, resv, copied, valid, large]⟩
  cases pages : a.pages with
  | false =>
    exact ⟨.ENOMEM, d, by simp [doRegister, resv, copied, valid, large, pages, Ctx.empty]⟩
  | true =>
  cases pinned : a.pinned with
  | error e =>
    refine ⟨e, d, ?_⟩
    simp [doRegister, resv, copied, valid, large, pages, pinned, Ctx.empty, fail, State.hold]
  | ok n =>
  by_cases fewer : n = a.reg.nrPages p
  swap
  · refine ⟨.EFAULT, d, ?_⟩
    simp [doRegister, resv, copied, valid, large, pages, pinned, fewer, Ctx.empty, fail, State.hold]
  subst fewer
  have size := Nat.le_of_not_lt large
  have unmapped : ¬ a.MapsPool p (a.reg.nrPages p) := fun maps =>
    lost ⟨resv, copied, valid, size, pages, pinned, maps⟩
  obtain ⟨e, d', failed⟩ := mapPool_fails unmapped
    (c := { Ctx.empty with nrPages := a.reg.nrPages p })
    ((Holdings.none.hold .array 1).hold .pin (a.reg.nrPages p)) d rfl rfl
  refine ⟨e, d', ?_⟩
  rw [doRegister_pinned resv copied valid size pages pinned, failed]
  simp [afterMap, fail, Ctx.empty]

/-! ## Calls one after the other -/

inductive Event where
  | register (a : Answers)
  | unregister
  | data (call : Own.Call)

/-- A command of `urp_uring_cmd`. -/
def step (p : Page) (s : State) : Event → Option State
  | .register a => (doRegister p a s).map (·.2)
  | .unregister => (doUnregister s).map (·.2)
  | .data call =>
    match s.ctx.own with
    | none => some s
    | some own => (call.run own s.ctx.geom.count).map fun (_, own) => { s with ctx.own := some own }

def Settled (s : State) : Prop := Blank s ∨ Whole s

theorem settled_init : Settled .init := .inl ⟨rfl, rfl⟩

theorem Blank.not_registered (blank : Blank s) : s.ctx.registered = false := by
  rw [blank.1]
  rfl

theorem doRegister_outcome (p : Page) (a : Answers) (blank : Blank s) :
    (a.Maps p ∧ a.own = false ∧ doRegister p a s = none) ∨
      (a.Succeeds p ∧ ∃ s', doRegister p a s = some (.ok (), s') ∧ Whole s') ∨
      (¬ a.Succeeds p ∧ ¬ (a.Maps p ∧ a.own = false) ∧
        ∃ e s', doRegister p a s = some (.error e, s') ∧ Blank s') := by
  obtain ⟨c, h, d⟩ := s
  obtain ⟨rfl, rfl⟩ : c = .empty ∧ h = .none := blank
  by_cases maps : a.Maps p
  swap
  · obtain ⟨e, d', failed⟩ := doRegister_fails maps d
    exact .inr (.inr ⟨fun succeeds => maps succeeds.maps, fun stuck => maps stuck.1,
      e, _, failed, ⟨rfl, rfl⟩⟩)
  · have result := doRegister_of_maps maps d
    cases own : a.own with
    | false =>
      refine .inl ⟨maps, rfl, ?_⟩
      rw [result]
      exact finish_of_no_own own (accepted_of_validateReg maps.valid) _ _
    | true =>
      obtain ⟨s', whole, allocated, _, finished⟩ := finish_of_own own (a.reg.nrPages p) d
      rw [finished] at result
      cases ops : a.ops with
      | true =>
        refine .inr (.inl ⟨⟨maps, own, ops⟩, s', ?_, whole⟩)
        rw [result, ops, if_pos rfl]
      | false =>
        refine .inr (.inr ⟨fun succeeds => ?_, fun stuck => ?_, .ENOMEM,
          ⟨.empty, .none, s'.deferred⟩, ?_, ⟨rfl, rfl⟩⟩)
        · exact Bool.false_ne_true (ops.symm.trans succeeds.ops)
        · exact Bool.false_ne_true stuck.2.symm
        · rw [result, ops, if_neg Bool.false_ne_true, poolRelease_whole whole]
          rfl

theorem doRegister_registered (p : Page) (a : Answers) (present : s.ctx.registered = true) :
    ∃ e, doRegister p a s = some (.error e, s) := by
  unfold doRegister
  split
  · exact ⟨_, rfl⟩
  split
  · exact ⟨_, rfl⟩
  split
  · exact ⟨_, rfl⟩
  split
  · exact ⟨_, rfl⟩
  · exact ⟨.EEXIST, rfl⟩

theorem Settled.step {s' : State} {e : Event} (settled : Settled s)
    (stepped : step p s e = some s') : Settled s' := by
  cases e with
  | register a =>
    obtain ⟨⟨ret, t⟩, called, rfl⟩ := map_eq_some_iff.mp stepped
    rcases settled with blank | whole
    · rcases doRegister_outcome p a blank with
        ⟨_, _, stuck⟩ | ⟨_, s', done, whole⟩ | ⟨_, _, e, s', failed, blank'⟩
      · cases stuck.symm.trans called
      · cases done.symm.trans called
        exact .inr whole
      · cases failed.symm.trans called
        exact .inl blank'
    · obtain ⟨e, refused⟩ := doRegister_registered p a whole.registered
      cases refused.symm.trans called
      exact .inr whole
  | unregister =>
    obtain ⟨⟨ret, t⟩, called, rfl⟩ := map_eq_some_iff.mp stepped
    rcases settled with blank | whole
    · rw [doUnregister, blank.not_registered] at called
      cases called
      exact .inl blank
    · obtain ⟨inflight, looked⟩ := whole.looks
      rw [doUnregister, whole.registered, looked, poolRelease_whole whole] at called
      cases inflight with
      | true =>
        cases called
        exact .inr whole
      | false =>
        cases called
        exact .inl ⟨rfl, rfl⟩
  | data call =>
    rcases settled with blank | whole
    · have absent : s.ctx.own = none := by rw [blank.1]; rfl
      simp only [Register.step, absent] at stepped
      cases stepped
      exact .inl blank
    · obtain ⟨own, present, length⟩ := whole.own
      simp only [Register.step, present] at stepped
      obtain ⟨⟨reply, own'⟩, called, rfl⟩ := map_eq_some_iff.mp stepped
      exact .inr { whole with own := ⟨own', rfl, (Own.Call.length_run called).trans length⟩ }

theorem settled_run {events : List Event}
    (reached : run (step p) .init events = some s) : Settled s :=
  run_invariant (P := Settled) (fun _ _ _ settled stepped => settled.step stepped) settled_init
    reached

theorem Blank.register (blank : Blank s)
    (succeeds : a.Succeeds p) : ∃ s', doRegister p a s = some (.ok (), s') := by
  rcases doRegister_outcome p a blank with ⟨_, own, _⟩ | ⟨_, s', done, _⟩ | ⟨lost, _⟩
  · exact nomatch own.symm.trans succeeds.own
  · exact ⟨s', done⟩
  · exact absurd succeeds lost

/-- A registration that fails leaves no trace and another one can succeed, unless what failed was
the allocation of the bitmap: then the unwinding looks into a bitmap that is not there. -/
theorem register_unwinds_iff (p : Page) (events : List Event) (s : State) (a : Answers)
    (reached : run (step p) .init events = some s) :
    (∃ ret s', doRegister p a s = some (ret, s') ∧
        ∀ e, ret = .error e → s'.ctx = s.ctx ∧ s'.held = s.held ∧
          (s.ctx.registered = false → s'.ctx = .empty ∧ s'.held = .none ∧
            ∀ a' : Answers, a'.Succeeds p → ∃ s'', doRegister p a' s' = some (.ok (), s''))) ↔
      ¬ (s.ctx.registered = false ∧ a.Maps p ∧ a.own = false) := by
  rcases settled_run reached with blank | whole
  · rcases doRegister_outcome p a blank with
      ⟨maps, own, stuck⟩ | ⟨succeeds, s', done, _⟩ | ⟨_, free, e, s', failed, blank'⟩
    · refine iff_of_false ?_ (not_not.mpr ⟨blank.not_registered, maps, own⟩)
      rintro ⟨ret, s', called, _⟩
      cases stuck.symm.trans called
    · refine iff_of_true ⟨.ok (), s', done, fun e failed => by cases failed⟩ ?_
      rintro ⟨_, _, own⟩
      exact Bool.false_ne_true (own.symm.trans succeeds.own)
    · refine iff_of_true ⟨.error e, s', failed, ?_⟩ fun stuck => free stuck.2
      intro _ _
      exact ⟨blank'.1.trans blank.1.symm, blank'.2.trans blank.2.symm,
        fun _ => ⟨blank'.1, blank'.2, fun _ => blank'.register⟩⟩
  · obtain ⟨e, refused⟩ := doRegister_registered p a whole.registered
    have present : ¬ s.ctx.registered = false := ne_false_of_eq_true whole.registered
    exact iff_of_true ⟨.error e, s, refused, fun _ _ => ⟨rfl, rfl, fun absent =>
      absurd absent present⟩⟩ fun stuck => present stuck.1

def onePool (own ops : Bool) : Answers where
  resv := 0
  copied := true
  reg := ⟨4096, 4096, 4096, 1, 0, 0⟩
  pages := true
  pinned := .ok 1
  epFound := true
  epReady := true
  sgAlloc := .ok ()
  nents := 1
  allocMr := .ok ()
  mapMr := .ok 1
  mrLength := 4096
  regMr := .ok ()
  iova := 65536
  lkey := 7
  own := own
  ops := ops

theorem onePool_maps (own ops : Bool) : (onePool own ops).Maps Page.base := by
  cases own <;> cases ops <;> exact ⟨rfl, rfl, by decide, by decide, rfl, by decide,
      ⟨rfl, rfl, rfl, by decide, rfl, rfl, by decide, rfl⟩⟩

theorem register_unwinds_operations :
    ∃ ret s', doRegister Page.base (onePool true false) .init = some (ret, s') := by
  have unwinds := register_unwinds_iff Page.base [] .init (onePool true false) rfl
  obtain ⟨ret, s', called, _⟩ := unwinds.mpr fun stuck => Bool.false_ne_true stuck.2.2.symm
  exact ⟨ret, s', called⟩

/-- The first registration on a new context, with no memory for the bitmap. -/
theorem missing_bitmap_read : (onePool false true).Maps Page.base ∧ ownAnyKernel none 1 = none ∧
      doRegister Page.base (onePool false true) .init = none := by
  refine ⟨onePool_maps false true, by decide, ?_⟩
  rcases doRegister_outcome Page.base (onePool false true) (s := .init) ⟨rfl, rfl⟩ with
    ⟨_, _, stuck⟩ | ⟨succeeds, _⟩ | ⟨_, free, _⟩
  · exact stuck
  · exact absurd succeeds.own Bool.false_ne_true
  · exact absurd ⟨onePool_maps false true, rfl⟩ free

end Urp.Fast.Register
