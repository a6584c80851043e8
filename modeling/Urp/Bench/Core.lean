import Mathlib.Data.Vector.Defs
import Urp.Bench.Deframe

/-!
# The deframer in C
-/

namespace Urp.Bench

open Urp.Lib Urp.Lib.Framing Option
open List hiding Vector

/-- `struct bench_deframer`. -/
structure BenchDeframer where
  state : State
  hdrBuf : List UInt8
  hdrHave : Nat
  hdr : Hdr
  asmBuf : List UInt8
  asmCap : Nat
  asmHave : Nat
  maxPayload : UInt32
  msgsTotal : UInt64
  msgsReassembled : UInt64

namespace BenchDeframer

def init {asmCap : Nat} (asmBuf : Vector UInt8 asmCap) (maxPayload : UInt32) : BenchDeframer where
  state := .wantHdr
  hdrBuf := List.replicate hdrSize 0
  hdrHave := 0
  hdr := ⟨0, 0, 0, 0, 0, 0, 0⟩
  asmBuf := asmBuf.toList
  asmCap := asmCap
  asmHave := 0
  maxPayload := maxPayload
  msgsTotal := 0
  msgsReassembled := 0

abbrev Callback := List Msg → Int

/-- The payload of the message is what its header says of the bytes at `payload`. -/
def deliver (cb : Callback) (d : BenchDeframer) (log : List Msg) (payload : List UInt8)
    (reassembled : Bool) : Int × BenchDeframer × List Msg :=
  let d := { d with msgsTotal := d.msgsTotal + 1 }
  let d := if reassembled then { d with msgsReassembled := d.msgsReassembled + 1 } else d
  let log := log ++ [⟨d.hdr, payload.take d.hdr.payloadLen.toNat⟩]
  (cb log, { d with state := .wantHdr, hdrHave := 0, asmHave := 0 }, log)

def next (rest : List UInt8) : Int × BenchDeframer × List Msg → Flow BenchDeframer Int
  | (ret, d, log) => if ret < 0 then .done (.error (.callback ret)) d log else .again d log rest

def stageHdr (cb : Callback) (d : BenchDeframer) (log : List Msg) (rest : List UInt8) :
    Option (Flow BenchDeframer Int) :=
  let take := min (hdrSize - d.hdrHave) rest.length
  (copyInto d.hdrBuf d.hdrHave (rest.take take)).map fun hdrBuf =>
    let d := { d with hdrBuf := hdrBuf, hdrHave := d.hdrHave + take }
    let rest := rest.drop take
    if d.hdrHave < hdrSize then .done (.ok ()) d log
    else
      let (ret, hdr) := benchHdrDecode d.hdrBuf d.maxPayload d.hdr
      let d := { d with hdr := hdr }
      if ret < 0 then .done (.error (.wire ret)) d log
      else if d.asmCap < d.hdr.payloadLen.toNat then
        .done (.error (.wire (-Error.cap.code))) d log
      else
        let d := { d with state := .wantPayload, asmHave := 0 }
        if d.hdr.payloadLen = 0 then next rest (deliver cb d log d.asmBuf true)
        else .again d log rest

def wantHdr (cb : Callback) (d : BenchDeframer) (log : List Msg) (rest : List UInt8) :
    Option (Flow BenchDeframer Int) :=
  if d.hdrHave = 0 ∧ hdrSize ≤ rest.length then
    let (ret, hdr) := benchHdrDecode rest d.maxPayload d.hdr
    let d := { d with hdr := hdr }
    if ret < 0 ∧ ret ≠ -Error.short.code then some (.done (.error (.wire ret)) d log)
    else if ret = 0 ∧ d.hdr.payloadLen.toNat ≤ rest.length - hdrSize then
      some (next (rest.drop (hdrSize + d.hdr.payloadLen.toNat))
        (deliver cb d log (rest.drop hdrSize) false))
    else stageHdr cb d log rest
  else stageHdr cb d log rest

def wantPayload (cb : Callback) (d : BenchDeframer) (log : List Msg) (rest : List UInt8) :
    Option (Flow BenchDeframer Int) :=
  let take := min (d.hdr.payloadLen.toNat - d.asmHave) rest.length
  (copyInto d.asmBuf d.asmHave (rest.take take)).map fun asmBuf =>
    let d := { d with asmBuf := asmBuf, asmHave := d.asmHave + take }
    let rest := rest.drop take
    if d.asmHave < d.hdr.payloadLen.toNat then .done (.ok ()) d log
    else next rest (deliver cb d log d.asmBuf true)

def round (cb : Callback) (d : BenchDeframer) (log : List Msg) (rest : List UInt8) :
    Option (Flow BenchDeframer Int) :=
  match d.state with
  | .wantHdr => wantHdr cb d log rest
  | .wantPayload => wantPayload cb d log rest

/-- `bench_deframe_feed` -/
def feed (cb : Callback) (d : BenchDeframer) (log : List Msg) (chunk : List UInt8) :
    Option (Fed BenchDeframer Int) :=
  rounds (round cb) chunk.length d log chunk

end BenchDeframer

/-! ## Corresponding results -/

section Twins

/-! A callback in C may return numbers that are the code of no error. `other` says which error
stands for such a number. -/

variable (other : Int → Error)

def Error.ofReturn (ret : Int) : Error :=
  match -ret with
  | 1 => .short
  | 2 => .magic
  | 3 => .version
  | 4 => .flags
  | 5 => .cap
  | 6 => .corrupt
  | 7 => .unknown
  | 8 => .dup
  | 9 => .full
  | 10 => .empty
  | 11 => .range
  | 12 => .invalid
  | _ => other ret

@[simp] theorem Error.ofReturn_neg_code (e : Error) : Error.ofReturn other (-e.code) = e := by
  cases e <;> rfl

def resultOf (ret : Int) : Except Error Unit :=
  if ret < 0 then .error (.ofReturn other ret) else .ok ()

inductive Same : Except (Stop Error) Unit → Except (Stop Int) Unit → Prop where
  | ok : Same (.ok ()) (.ok ())
  | wire (e : Error) : Same (.error (.wire e)) (.error (.wire (-e.code)))
  | callback {ret} (negative : ret < 0) :
      Same (.error (.callback (.ofReturn other ret))) (.error (.callback ret))

def twinCallback (cb : BenchDeframer.Callback) : Deframer.Callback :=
  fun log => resultOf other (cb log)

structure Twin (d : Deframer) (c : BenchDeframer) : Prop where
  state : c.state = d.state
  hdrBuf : c.hdrBuf = d.hdrBuf
  hdrHave : c.hdrHave = d.hdrHave
  asmBuf : c.asmBuf.length = d.asmBuf.length
  asmCap : c.asmCap = d.asmCap
  maxPayload : c.maxPayload = d.maxPayload
  msgsTotal : c.msgsTotal = d.msgsTotal
  msgsReassembled : c.msgsReassembled = d.msgsReassembled
  payload : d.state = .wantPayload → d.hdr = some c.hdr ∧ c.asmHave = d.asmHave ∧
    c.asmBuf.take d.asmHave = d.asmBuf.take d.asmHave

inductive FlowTwin : Flow Deframer Error → Flow BenchDeframer Int → Prop where
  | again {d c} (twin : Twin d c) (log : List Msg)
      (rest : List UInt8) : FlowTwin (.again d log rest) (.again c log rest)
  | done {d c result result'} (twin : Twin d c) (log : List Msg)
      (same : Same other result result') : FlowTwin (.done result d log) (.done result' c log)

variable {other} {cb : BenchDeframer.Callback} {d : Deframer} {c : BenchDeframer} {log : List Msg}
  {rest : List UInt8}

theorem Twin.setHdr (twin : Twin d c) (state : d.state = .wantHdr) (hdr : Hdr) :
    Twin d { c with hdr := hdr } :=
  { twin with payload := fun other => nomatch state.symm.trans other }

theorem next_twin {d' : Deframer} {m : Msg} {payload : List UInt8} {reassembled : Bool}
    (same : (⟨c.hdr, payload.take c.hdr.payloadLen.toNat⟩ : Msg) = m)
    (twin : Twin d' (c.deliver cb log payload reassembled).2.1) :
    FlowTwin other (Deframer.call (twinCallback other cb) d' log m rest)
      (BenchDeframer.next rest (c.deliver cb log payload reassembled)) := by
  have delivered : c.deliver cb log payload reassembled =
      (cb (log ++ [m]), (c.deliver cb log payload reassembled).2.1, log ++ [m]) := by
    rw [← same]
    cases reassembled <;> rfl
  rw [delivered]
  simp only [Deframer.call, twinCallback, resultOf, BenchDeframer.next]
  by_cases failed : cb (log ++ [m]) < 0
  · simp only [failed, if_true]
    exact .done twin _ (.callback failed)
  · simp only [failed, if_false]
    exact .again twin _ _

theorem Twin.shape (twin : Twin d c) : ∃ hdr asmBuf asmHave, asmBuf.length = d.asmBuf.length ∧
      (d.state = .wantPayload → d.hdr = some hdr ∧ asmHave = d.asmHave ∧
        asmBuf.take d.asmHave = d.asmBuf.take d.asmHave) ∧
      c = { d with hdr := hdr, asmBuf := asmBuf, asmHave := asmHave } := by
  refine ⟨c.hdr, c.asmBuf, c.asmHave, twin.asmBuf, twin.payload, ?_⟩
  obtain ⟨state, hdrBuf, hdrHave, -, asmCap, maxPayload, msgsTotal, msgsReassembled, -⟩ := twin
  cases c
  simp_all

theorem stageHdr_twin (twin : Twin d c) (state : d.state = .wantHdr) :
    Option.Rel (FlowTwin other) (Deframer.stageHdr (twinCallback other cb) d log rest)
      (c.stageHdr cb log rest) := by
  obtain ⟨hdr, asmBuf, asmHave, length, -, rfl⟩ := twin.shape
  simp only [Deframer.stageHdr, BenchDeframer.stageHdr]
  generalize min (hdrSize - d.hdrHave) rest.length = take
  cases copied : copyInto d.hdrBuf d.hdrHave (rest.take take) with
  | none => exact .none
  | some hdrBuf =>
    refine .some ?_
    have unstaged (hdr : Hdr) : Twin { d with hdrBuf := hdrBuf, hdrHave := d.hdrHave + take }
        { d with
          hdrBuf := hdrBuf
          hdrHave := d.hdrHave + take
          hdr := hdr
          asmBuf := asmBuf
          asmHave := asmHave } :=
      ⟨rfl, rfl, rfl, length, rfl, rfl, rfl, rfl,
        fun other => by cases state.symm.trans other⟩
    by_cases short : d.hdrHave + take < hdrSize
    · simp only [short, if_true]
      exact .done (unstaged hdr) log .ok
    · simp only [short, if_false, Deframer.accept]
      cases decoded : Hdr.decode hdrBuf d.maxPayload with
      | error e =>
        obtain ⟨left, refused⟩ := benchHdrDecode_error decoded hdr
        simp only [refused, Int.neg_lt_zero_iff.mpr e.code_pos, if_true]
        exact .done (unstaged left) log (.wire e)
      | ok h =>
        simp only [benchHdrDecode_ok decoded]
        rw [if_neg (Int.lt_irrefl 0)]
        by_cases large : d.asmCap < h.payloadLen.toNat
        · simp only [large, if_true]
          exact .done (unstaged h) log (.wire .cap)
        · simp only [large, if_false]
          by_cases zero : h.payloadLen = 0
          · simp only [zero, if_true]
            refine next_twin ?_ ⟨state.symm, rfl, rfl, length, rfl, rfl, rfl, rfl, ?_⟩
            · simp [zero]
            · intro other
              cases state.symm.trans other
          · simp only [zero, if_false]
            exact .again
              ⟨rfl, rfl, rfl, length, rfl, rfl, rfl, rfl, fun _ => ⟨rfl, rfl, by simp⟩⟩ _ _

theorem wantHdr_twin (twin : Twin d c) (state : d.state = .wantHdr) :
    Option.Rel (FlowTwin other) (Deframer.wantHdr (twinCallback other cb) d log rest)
      (c.wantHdr cb log rest) := by
  obtain ⟨hdr, asmBuf, asmHave, length, -, rfl⟩ := twin.shape
  simp only [Deframer.wantHdr, BenchDeframer.wantHdr]
  by_cases inPlace : d.hdrHave = 0 ∧ hdrSize ≤ rest.length
  · rw [if_pos inPlace, if_pos inPlace]
    cases decoded : Hdr.decode rest d.maxPayload with
    | error e =>
      obtain ⟨left, refused⟩ := benchHdrDecode_error decoded hdr
      have other_error : e ≠ .short := by
        rintro rfl
        exact Nat.not_lt.mpr inPlace.2 (Hdr.decode_short.mp decoded)
      have code : e.code ≠ Error.short.code := fun same => other_error (Error.code_injective same)
      simp only [refused, Int.neg_lt_zero_iff.mpr e.code_pos, ne_eq, Int.neg_inj, code,
        not_false_eq_true, and_self, if_true]
      cases e <;> first
        | exact absurd rfl other_error
        | exact .some (.done (twin.setHdr state left) log (.wire _))
    | ok h =>
      simp only [benchHdrDecode_ok decoded, Int.lt_irrefl, false_and, if_false, true_and]
      by_cases whole : h.payloadLen.toNat ≤ rest.length - hdrSize
      · simp only [whole, if_true]
        refine .some (next_twin rfl ⟨state.symm, rfl, ?_, length, rfl, rfl, rfl, rfl, ?_⟩)
        · exact inPlace.1.symm
        · intro other
          cases state.symm.trans other
      · simp only [whole, if_false]
        exact stageHdr_twin (twin.setHdr state h) state
  · rw [if_neg inPlace, if_neg inPlace]
    exact stageHdr_twin twin state

theorem copyInto_twin (bytes : List UInt8) {buf buf' : List UInt8} {first : Nat}
    (length : buf'.length = buf.length) (same : buf'.take first = buf.take first) :
    Option.Rel (fun b b' => b'.length = b.length ∧
      b'.take (first + bytes.length) = b.take (first + bytes.length))
      (copyInto buf first bytes) (copyInto buf' first bytes) := by
  by_cases room : first + bytes.length ≤ buf.length
  · obtain ⟨b, copied, b_length, staged⟩ := copyInto_some buf first bytes room
    obtain ⟨b', copied', b'_length, staged'⟩ := copyInto_some buf' first bytes (length ▸ room)
    rw [copied, copied']
    exact .some ⟨by rw [b_length, b'_length, length], by rw [staged, staged', same]⟩
  · rw [copyInto, copyInto, if_neg room, if_neg (length ▸ room)]
    exact .none

theorem wantPayload_twin (twin : Twin d c) (state : d.state = .wantPayload) :
    Option.Rel (FlowTwin other) (Deframer.wantPayload (twinCallback other cb) d log rest)
      (c.wantPayload cb log rest) := by
  obtain ⟨hdr, asmBuf, asmHave, length, payload, rfl⟩ := twin.shape
  obtain ⟨decoded, rfl, same⟩ := payload state
  simp only [Deframer.wantPayload, BenchDeframer.wantPayload, decoded, bind_some]
  obtain ⟨take, taken⟩ : ∃ take, take = min (hdr.payloadLen.toNat - d.asmHave) rest.length :=
    ⟨_, rfl⟩
  have bytes : (rest.take take).length = take := length_take_of_le (by omega)
  rw [← taken]
  have copied := copyInto_twin (rest.take take) length same
  rw [bytes] at copied
  generalize copyInto d.asmBuf d.asmHave (rest.take take) = left at copied ⊢
  generalize copyInto asmBuf d.asmHave (rest.take take) = right at copied ⊢
  cases copied with
  | none => exact .none
  | @some buf buf' agree =>
    obtain ⟨length', same'⟩ := agree
    refine .some ?_
    by_cases short : d.asmHave + take < hdr.payloadLen.toNat
    · simp only [short, if_true]
      exact .done ⟨rfl, rfl, rfl, length', rfl, rfl, rfl, rfl, fun _ => ⟨rfl, rfl, same'⟩⟩ log .ok
    · simp only [short, if_false]
      have whole : buf'.take hdr.payloadLen.toNat = buf.take hdr.payloadLen.toNat := by
        have cut := congrArg (List.take hdr.payloadLen.toNat) same'
        rwa [take_take, take_take, Nat.min_eq_left (Nat.not_lt.mp short)] at cut
      exact next_twin (by rw [whole]) ⟨rfl, rfl, rfl, length', rfl, rfl, rfl, rfl,
        (by cases ·)⟩

theorem round_twin (other : Int → Error) (cb : BenchDeframer.Callback) (log : List Msg)
    (rest : List UInt8) (twin : Twin d c) :
    Option.Rel (FlowTwin other) (Deframer.round (twinCallback other cb) d log rest)
      (c.round cb log rest) := by
  unfold Deframer.round BenchDeframer.round
  rw [twin.state]
  cases state : d.state with
  | wantHdr => exact wantHdr_twin twin state
  | wantPayload => exact wantPayload_twin twin state

structure FedTwin (other : Int → Error) (f : Fed Deframer Error) (f' : Fed BenchDeframer Int) :
    Prop where
  result : Same other f.result f'.result
  deframer : Twin f.deframer f'.deframer
  log : f.log = f'.log

theorem rounds_twin (other : Int → Error) (cb : BenchDeframer.Callback) (fuel : Nat)
    (twin : Twin d c) (log : List Msg) (rest : List UInt8) :
    Option.Rel (FedTwin other) (rounds (Deframer.round (twinCallback other cb)) fuel d log rest)
      (rounds (BenchDeframer.round cb) fuel c log rest) := by
  induction fuel generalizing d c log rest with
  | zero =>
    cases rest with
    | nil => exact .some ⟨.ok, twin, rfl⟩
    | cons b rest => exact .none
  | succ fuel ih =>
    cases rest with
    | nil => exact .some ⟨.ok, twin, rfl⟩
    | cons b rest =>
      have went := round_twin other cb log (b :: rest) twin
      simp only [rounds]
      generalize Deframer.round (twinCallback other cb) d log (b :: rest) = left at went ⊢
      generalize BenchDeframer.round cb c log (b :: rest) = right at went ⊢
      cases went with
      | none => exact .none
      | some flow =>
        cases flow with
        | again twin' log' rest' => exact ih twin' log' rest'
        | done twin' log' same => exact .some ⟨same, twin', rfl⟩

/-! ## Calls -/

structure Seen (ρ : Type) where
  result : ρ
  log : List Msg
  msgsTotal : UInt64
  msgsReassembled : UInt64

/-- One call of `feed` after the other, each with a chunk and a callback of its own. -/
def Deframer.calls (d : Deframer) (log : List Msg) :
    List (List UInt8 × Deframer.Callback) → Option (List (Seen (Except Error Unit)))
  | [] => some []
  | (chunk, cb) :: rest =>
    (d.feed cb log chunk).bind fun fed =>
      (fed.deframer.calls fed.log rest).map fun seen =>
        ⟨fed.result.mapError Stop.error, fed.log, fed.deframer.msgsTotal,
          fed.deframer.msgsReassembled⟩ :: seen

theorem Deframer.calls_some (valid : d.Valid) (log : List Msg)
    (calls : List (List UInt8 × Deframer.Callback)) : ∃ seen, d.calls log calls = some seen := by
  induction calls generalizing d log with
  | nil => exact ⟨[], rfl⟩
  | cons call calls ih =>
    obtain ⟨fed, fed_eq, valid'⟩ := feed_valid call.2 valid log call.1
    obtain ⟨seen, seen_eq⟩ := ih valid' fed.log
    simp only [Deframer.calls, fed_eq, bind_some, seen_eq, map_some]
    exact ⟨_, rfl⟩

/-- The number that `bench_deframe_feed` returns. -/
def returned : Except (Stop Int) Unit → Int
  | .ok () => 0
  | .error stop => stop.error

def BenchDeframer.calls (d : BenchDeframer) (log : List Msg) :
    List (List UInt8 × BenchDeframer.Callback) → Option (List (Seen Int))
  | [] => some []
  | (chunk, cb) :: rest =>
    (d.feed cb log chunk).bind fun fed =>
      (fed.deframer.calls fed.log rest).map fun seen =>
        ⟨returned fed.result, fed.log, fed.deframer.msgsTotal, fed.deframer.msgsReassembled⟩ :: seen

def Seen.twin (other : Int → Error) (s : Seen Int) : Seen (Except Error Unit) :=
  ⟨resultOf other s.result, s.log, s.msgsTotal, s.msgsReassembled⟩

theorem Same.seen {result : Except (Stop Error) Unit} {result' : Except (Stop Int) Unit}
    (same : Same other result result') :
    result.mapError Stop.error = resultOf other (returned result') := by
  cases same with
  | ok => rfl
  | wire e =>
    have negative : -e.code < 0 := Int.neg_lt_zero_iff.mpr e.code_pos
    simp only [Except.mapError, Stop.error, returned, resultOf, if_pos negative,
      Error.ofReturn_neg_code]
  | callback negative =>
    simp only [Except.mapError, Stop.error, returned, resultOf, negative, if_true]

theorem calls_twin (other : Int → Error) (twin : Twin d c) (log : List Msg)
    (calls : List (List UInt8 × BenchDeframer.Callback)) :
    d.calls log (calls.map fun call => (call.1, twinCallback other call.2)) =
      (c.calls log calls).map fun seen => seen.map (Seen.twin other) := by
  induction calls generalizing d c log with
  | nil => rfl
  | cons call calls ih =>
    obtain ⟨chunk, cb⟩ := call
    have fed := rounds_twin other cb chunk.length twin log chunk
    simp only [map_cons, Deframer.calls, BenchDeframer.calls, Deframer.feed, BenchDeframer.feed]
    generalize rounds (Deframer.round (twinCallback other cb)) chunk.length d log chunk = left
      at fed ⊢
    generalize rounds (BenchDeframer.round cb) chunk.length c log chunk = right at fed ⊢
    cases fed with
    | none => rfl
    | some agree =>
      simp only [bind_some, agree.log, ih agree.deframer, agree.result.seen,
        agree.deframer.msgsTotal.symm, agree.deframer.msgsReassembled.symm, Option.map_map]
      rfl

theorem twin_new {asmCap : Nat} (asmBuf : Vector UInt8 asmCap)
    (maxPayload : UInt32) : Twin (.new asmCap maxPayload) (.init asmBuf maxPayload) :=
  ⟨rfl, rfl, rfl, by simp [BenchDeframer.init, Deframer.new], rfl, rfl, rfl, rfl, nofun⟩

end Twins

/-- Both deframers hand out the same messages, return corresponding results and count alike, in
every sequence of calls, whatever the chunks are and whatever the callbacks return. -/
theorem twins_agree (other : Int → Error) {asmCap : Nat} (asmBuf : Vector UInt8 asmCap)
    (maxPayload : UInt32) (calls : List (List UInt8 × BenchDeframer.Callback)) :
    ∃ seen, (BenchDeframer.init asmBuf maxPayload).calls [] calls = some seen ∧
      (Deframer.new asmCap maxPayload).calls []
          (calls.map fun call => (call.1, twinCallback other call.2)) =
        some (seen.map (Seen.twin other)) := by
  have agree := calls_twin other (twin_new asmBuf maxPayload) [] calls
  obtain ⟨seen, seen_eq⟩ := Deframer.calls_some (.inl (.new asmCap maxPayload)) []
    (calls.map fun call => (call.1, twinCallback other call.2))
  rw [seen_eq] at agree ⊢
  obtain ⟨seen', seen'_eq, rfl⟩ := map_eq_some_iff.mp agree.symm
  exact ⟨seen', seen'_eq, rfl⟩

end Urp.Bench
