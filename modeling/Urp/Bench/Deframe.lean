import Urp.Bench.Header

/-!
# The deframer in Rust

The deframer gets the bytes of a connection in chunks and calls back once for every message.
-/

namespace Urp.Bench

open Urp.Lib Urp.Lib.Framing List Option

inductive State where
  | wantHdr | wantPayload
deriving DecidableEq

structure Deframer where
  state : State
  hdrBuf : List UInt8
  hdrHave : Nat
  hdr : Option Hdr
  asmBuf : List UInt8
  asmCap : Nat
  asmHave : Nat
  maxPayload : UInt32
  msgsTotal : UInt64
  msgsReassembled : UInt64

/-! ## The loop -/

inductive Stop (ε : Type) where
  | wire (e : ε)
  | callback (e : ε)

def Stop.error {ε : Type} : Stop ε → ε
  | .wire e | .callback e => e

inductive Flow (δ ε : Type) where
  | again (d : δ) (log : List Msg) (rest : List UInt8)
  | done (result : Except (Stop ε) Unit) (d : δ) (log : List Msg)

structure Fed (δ ε : Type) where
  result : Except (Stop ε) Unit
  deframer : δ
  log : List Msg

def rounds {δ ε : Type} (round : δ → List Msg → List UInt8 → Option (Flow δ ε)) :
    Nat → δ → List Msg → List UInt8 → Option (Fed δ ε)
  | _, d, log, [] => some ⟨.ok (), d, log⟩
  | 0, _, _, _ :: _ => none
  | fuel + 1, d, log, b :: rest =>
    (round d log (b :: rest)).bind fun
      | .again d' log' rest' => rounds round fuel d' log' rest'
      | .done result d' log' => some ⟨result, d', log'⟩

/-! ## Refused headers -/

def Refuses (maxPayload : UInt32) (asmCap : Nat) (bytes : List UInt8) (e : Error) : Prop :=
  front maxPayload bytes = .invalid e ∨
    e = .cap ∧ ∃ h, Hdr.decode bytes maxPayload = .ok h ∧ asmCap < h.payloadLen.toNat

/-- Whole messages, then one that is cut off and has a payload too long for the reassembly
buffer. -/
inductive Overlong (maxPayload : UInt32) (asmCap : Nat) : List UInt8 → Prop where
  | here {bytes h} (cut : front maxPayload bytes = .incomplete)
      (decoded : Hdr.decode bytes maxPayload = .ok h) (large : asmCap < h.payloadLen.toNat) :
      Overlong maxPayload asmCap bytes
  | later {bytes rest m} (found : front maxPayload bytes = .message m rest)
      (overlong : Overlong maxPayload asmCap rest) : Overlong maxPayload asmCap bytes

namespace Deframer

/-- `Deframer::new` -/
def new (asmCap : Nat) (maxPayload : UInt32) : Deframer where
  state := .wantHdr
  hdrBuf := List.replicate hdrSize 0
  hdrHave := 0
  hdr := none
  asmBuf := List.replicate asmCap 0
  asmCap := asmCap
  asmHave := 0
  maxPayload := maxPayload
  msgsTotal := 0
  msgsReassembled := 0

abbrev Callback := List Msg → Except Error Unit

def call (cb : Callback) (d : Deframer) (log : List Msg) (m : Msg) (rest : List UInt8) :
    Flow Deframer Error :=
  match cb (log ++ [m]) with
  | .ok () => .again d (log ++ [m]) rest
  | .error e => .done (.error (.callback e)) d (log ++ [m])

def accept (d : Deframer) : Except Error Hdr :=
  match Hdr.decode d.hdrBuf d.maxPayload with
  | .error e => .error e
  | .ok h => if d.asmCap < h.payloadLen.toNat then .error .cap else .ok h

def stageHdr (cb : Callback) (d : Deframer) (log : List Msg) (rest : List UInt8) :
    Option (Flow Deframer Error) :=
  let take := min (hdrSize - d.hdrHave) rest.length
  (copyInto d.hdrBuf d.hdrHave (rest.take take)).map fun hdrBuf =>
    let d := { d with hdrBuf := hdrBuf, hdrHave := d.hdrHave + take }
    let rest := rest.drop take
    if d.hdrHave < hdrSize then .done (.ok ()) d log
    else
      match d.accept with
      | .error e => .done (.error (.wire e)) d log
      | .ok h =>
        let d := { d with asmHave := 0 }
        if h.payloadLen = 0 then
          call cb { d with
              msgsTotal := d.msgsTotal + 1
              msgsReassembled := d.msgsReassembled + 1
              hdrHave := 0 }
            log ⟨h, []⟩ rest
        else .again { d with hdr := some h, state := .wantPayload } log rest

def wantHdr (cb : Callback) (d : Deframer) (log : List Msg) (rest : List UInt8) :
    Option (Flow Deframer Error) :=
  if d.hdrHave = 0 ∧ hdrSize ≤ rest.length then
    match Hdr.decode rest d.maxPayload with
    | .ok h =>
      if h.payloadLen.toNat ≤ rest.length - hdrSize then
        some (call cb { d with msgsTotal := d.msgsTotal + 1 } log
          ⟨h, (rest.drop hdrSize).take h.payloadLen.toNat⟩
          (rest.drop (hdrSize + h.payloadLen.toNat)))
      else stageHdr cb d log rest
    | .error .short => none
    | .error e => some (.done (.error (.wire e)) d log)
  else stageHdr cb d log rest

def wantPayload (cb : Callback) (d : Deframer) (log : List Msg) (rest : List UInt8) :
    Option (Flow Deframer Error) :=
  d.hdr.bind fun h =>
    let take := min (h.payloadLen.toNat - d.asmHave) rest.length
    (copyInto d.asmBuf d.asmHave (rest.take take)).map fun asmBuf =>
      let d := { d with asmBuf := asmBuf, asmHave := d.asmHave + take }
      let rest := rest.drop take
      if d.asmHave < h.payloadLen.toNat then .done (.ok ()) d log
      else
        call cb { d with
            msgsTotal := d.msgsTotal + 1
            msgsReassembled := d.msgsReassembled + 1
            state := .wantHdr
            hdrHave := 0
            hdr := none }
          log ⟨h, d.asmBuf.take h.payloadLen.toNat⟩ rest

def round (cb : Callback) (d : Deframer) (log : List Msg) (rest : List UInt8) :
    Option (Flow Deframer Error) :=
  match d.state with
  | .wantHdr => wantHdr cb d log rest
  | .wantPayload => wantPayload cb d log rest

/-- `Deframer::feed` -/
def feed (cb : Callback) (d : Deframer) (log : List Msg) (chunk : List UInt8) :
    Option (Fed Deframer Error) :=
  rounds (round cb) chunk.length d log chunk

/-! ## What a round does -/

structure Sound (d : Deframer) : Prop where
  hdrBuf : d.hdrBuf.length = hdrSize
  asmBuf : d.asmBuf.length = d.asmCap
  hdr : d.state = .wantHdr → d.hdrHave < hdrSize
  payload : d.state = .wantPayload → ∃ h, d.hdr = some h ∧
    Hdr.decode d.hdrBuf d.maxPayload = .ok h ∧ h.payloadLen.toNat ≤ d.asmCap ∧
    d.asmHave < h.payloadLen.toNat

structure Poisoned (d : Deframer) (e : Error) : Prop where
  state : d.state = .wantHdr
  hdrBuf : d.hdrBuf.length = hdrSize
  hdrHave : d.hdrHave = hdrSize
  refused : d.accept = .error e

def pending (d : Deframer) : List UInt8 :=
  match d.state with
  | .wantHdr => d.hdrBuf.take d.hdrHave
  | .wantPayload => d.hdrBuf ++ d.asmBuf.take d.asmHave

structure Kept (d d' : Deframer) : Prop where
  maxPayload : d'.maxPayload = d.maxPayload
  asmCap : d'.asmCap = d.asmCap

structure Idle (d d' : Deframer) : Prop where
  sound : d'.Sound
  kept : Kept d d'
  state : d'.state = .wantHdr
  hdrHave : d'.hdrHave = 0

/-- A header that began in an earlier chunk is refused. -/
def Split (d : Deframer) (rest : List UInt8) : Prop :=
  d.state = .wantHdr ∧ 0 < d.hdrHave ∧ ∃ e, Refuses d.maxPayload d.asmCap (d.pending ++ rest) e

/-- A call that refuses a header of these bytes keeps the header. -/
def Keeps (d : Deframer) (rest : List UInt8) : Prop :=
  d.Split rest ∨ Overlong d.maxPayload d.asmCap (d.pending ++ rest)

inductive Round (cb : Callback) (d : Deframer) (log : List Msg) (rest : List UInt8) :
    Flow Deframer Error → Prop where
  | delivers {m rest' d'} (found : front d.maxPayload (d.pending ++ rest) = .message m rest')
      (less : rest'.length < rest.length) (idle : Idle d d') (taken : cb (log ++ [m]) = .ok ())
      (whole : ¬ d.Split rest) : Round cb d log rest (.again d' (log ++ [m]) rest')
  | fails {m rest' d' e}
      (found : front d.maxPayload (d.pending ++ rest) = .message m rest') (idle : Idle d d')
      (failed : cb (log ++ [m]) = .error e) :
      Round cb d log rest (.done (.error (.callback e)) d' (log ++ [m]))
  | stages {rest' d'} (same : d'.pending ++ rest' = d.pending ++ rest)
      (less : rest'.length < rest.length) (sound : d'.Sound) (kept : Kept d d')
      (state : d'.state = .wantPayload) (whole : ¬ d.Split rest) :
      Round cb d log rest (.again d' log rest')
  | waits {d'} (same : d'.pending = d.pending ++ rest) (sound : d'.Sound)
      (kept : Kept d d') : Round cb d log rest (.done (.ok ()) d' log)
  | refuses {e d'} (refused : Refuses d.maxPayload d.asmCap (d.pending ++ rest) e)
      (left : d'.Poisoned e ∧ d.Keeps rest ∨
        d' = d ∧ d.state = .wantHdr ∧ d.hdrHave = 0 ∧ ¬ d.Keeps rest) :
      Round cb d log rest (.done (.error (.wire e)) d' log)

section Rounds

variable {cb : Callback} {d : Deframer} {log : List Msg} {rest : List UInt8}

variable {rest' : List UInt8}

theorem not_split_of_none (none_staged : d.hdrHave = 0) : ¬ d.Split rest :=
  fun split => absurd none_staged (Nat.ne_of_gt split.2.1)

theorem not_split_of_ok {h : Hdr} (decoded : Hdr.decode (d.pending ++ rest) d.maxPayload = .ok h)
    (within : h.payloadLen.toNat ≤ d.asmCap) : ¬ d.Split rest := by
  rintro ⟨-, -, e, invalid | ⟨-, h', decoded', large⟩⟩
  · rw [front_ok decoded] at invalid
    split at invalid <;> cases invalid
  · cases decoded.symm.trans decoded'
    omega

theorem round_call {m : Msg} {d' : Deframer}
    (found : front d.maxPayload (d.pending ++ rest) = .message m rest')
    (less : rest'.length < rest.length) (idle : Idle d d') (whole : ¬ d.Split rest) :
    Round cb d log rest (call cb d' log m rest') := by
  unfold call
  split
  next taken => exact .delivers found less idle taken whole
  next e failed => exact .fails found idle failed

variable {e : Error}

theorem accept_error (refused : d.accept = .error e) :
    Hdr.decode d.hdrBuf d.maxPayload = .error e ∨
      e = .cap ∧ ∃ h, Hdr.decode d.hdrBuf d.maxPayload = .ok h ∧ d.asmCap < h.payloadLen.toNat := by
  unfold accept at refused
  split at refused
  next e' decoded =>
    cases refused
    exact .inl decoded
  next h decoded =>
    split_ifs at refused with large
    cases refused
    exact .inr ⟨rfl, h, decoded, large⟩

theorem refuses_of_accept {bytes : List UInt8} (refused : d.accept = .error e)
    (same : Hdr.decode d.hdrBuf d.maxPayload = Hdr.decode bytes d.maxPayload)
    (long : hdrSize ≤ bytes.length) : Refuses d.maxPayload d.asmCap bytes e := by
  rcases accept_error refused with refused | ⟨rfl, h, decoded, large⟩
  · exact .inl (front_invalid (same.symm.trans refused) long)
  · exact .inr ⟨rfl, h, same.symm.trans decoded, large⟩

theorem accept_ok {h : Hdr} (accepted : d.accept = .ok h) :
    Hdr.decode d.hdrBuf d.maxPayload = .ok h ∧ h.payloadLen.toNat ≤ d.asmCap := by
  unfold accept at accepted
  split at accepted
  next => cases accepted
  next h' decoded =>
    split_ifs at accepted with large
    cases accepted
    exact ⟨decoded, Nat.not_lt.mp large⟩

theorem round_stageHdr (sound : d.Sound) (state : d.state = .wantHdr) (nonempty : rest ≠ [])
    (cut : d.hdrHave = 0 → front d.maxPayload rest = .incomplete) :
    ∃ flow, stageHdr cb d log rest = some flow ∧ Round cb d log rest flow := by
  have lacks := sound.hdr state
  have some_left : 0 < rest.length := length_pos_iff.mpr nonempty
  have pending : d.pending = d.hdrBuf.take d.hdrHave := by simp only [Deframer.pending, state]
  obtain ⟨take, taken⟩ : ∃ take, take = min (hdrSize - d.hdrHave) rest.length := ⟨_, rfl⟩
  obtain ⟨hdrBuf, copied, same_length, staged⟩ :=
    copyInto_stage d.hdrBuf taken (Nat.le_of_lt lacks) (Nat.le_of_eq sound.hdrBuf.symm)
  have hdrBuf_length : hdrBuf.length = hdrSize := same_length.trans sound.hdrBuf
  simp only [stageHdr, ← taken, copied, map_some]
  refine ⟨_, rfl, ?_⟩
  rcases staged with ⟨short, staged⟩ | ⟨full, staged, left⟩
  · -- the chunk ends inside the header
    rw [if_pos short]
    refine .waits ?_ ⟨hdrBuf_length, sound.asmBuf, fun _ => short, fun other => ?_⟩ ⟨rfl, rfl⟩
    · simp only [Deframer.pending, state, staged]
    · exact nomatch state.symm.trans other
  · rw [if_neg (Nat.not_lt.mpr (Nat.le_of_eq full.symm))]
    rw [take_of_length_le (Nat.le_of_eq hdrBuf_length), ← pending] at staged
    rw [← pending] at left
    have long : hdrSize ≤ (d.pending ++ rest).length := by
      rw [← hdrBuf_length, staged]
      exact length_take_le' _ _
    have decode : Hdr.decode hdrBuf d.maxPayload = Hdr.decode (d.pending ++ rest) d.maxPayload := by
      rw [staged, Hdr.decode_take long]
    have fewer : (rest.drop take).length < rest.length := by
      rw [length_drop]
      omega
    split
    next e refused =>
      have refuses := refuses_of_accept refused decode long
      refine .refuses refuses (.inl ⟨⟨state, hdrBuf_length, full, refused⟩, ?_⟩)
      rcases Nat.eq_zero_or_pos d.hdrHave with none_staged | began
      · -- nothing was staged, so the header decodes and only its payload is too long
        have incomplete := cut none_staged
        have nothing : d.pending = [] := by rw [pending, none_staged, take_zero]
        rw [← nil_append rest, ← nothing] at incomplete
        rcases refuses with invalid | ⟨-, h, decoded, large⟩
        · cases incomplete.symm.trans invalid
        · exact .inr (.here incomplete decoded large)
      · exact .inl ⟨state, began, e, refuses⟩
    next h accepted =>
      obtain ⟨decoded, within⟩ := accept_ok accepted
      have decoded' := decode.symm.trans decoded
      split
      next zero =>
        have empty : h.payloadLen.toNat = 0 := by rw [zero]; rfl
        refine round_call ?_ fewer ⟨⟨hdrBuf_length, sound.asmBuf, fun _ => hdrSize_pos, ?_⟩,
          ⟨rfl, rfl⟩, state, rfl⟩ (not_split_of_ok decoded' within)
        · rw [front_ok decoded', empty, if_neg (Nat.not_lt_zero _), take_zero, left, Nat.add_zero]
        · exact fun other => nomatch state.symm.trans other
      next payload =>
        have positive : 0 < h.payloadLen.toNat := by
          rw [Nat.pos_iff_ne_zero]
          exact fun zero => payload (UInt32.toNat_inj.mp zero)
        refine .stages ?_ fewer ⟨hdrBuf_length, sound.asmBuf, nofun,
          fun _ => ⟨h, rfl, decoded, within, positive⟩⟩ ⟨rfl, rfl⟩ rfl
          (not_split_of_ok decoded' within)
        show (hdrBuf ++ d.asmBuf.take 0) ++ rest.drop take = d.pending ++ rest
        rw [take_zero, append_nil, staged, left, take_append_drop]

theorem round_wantHdr (sound : d.Sound) (state : d.state = .wantHdr) (nonempty : rest ≠ []) :
    ∃ flow, wantHdr cb d log rest = some flow ∧ Round cb d log rest flow := by
  unfold wantHdr
  split
  next inPlace =>
    obtain ⟨none_staged, long⟩ := inPlace
    have pending : d.pending = [] := by
      simp only [Deframer.pending, state, none_staged, take_zero]
    split
    next h decoded =>
      split
      next whole =>
        refine ⟨_, rfl, round_call ?_ ?_ ⟨⟨sound.hdrBuf, sound.asmBuf, fun _ => sound.hdr state,
          ?_⟩, ⟨rfl, rfl⟩, state, none_staged⟩ (not_split_of_none none_staged)⟩
        · rw [pending, nil_append, front_ok decoded, if_neg (by rw [length_drop]; omega)]
        · have positive := hdrSize_pos
          rw [length_drop]
          omega
        · exact fun other => nomatch state.symm.trans other
      next partly =>
        refine round_stageHdr sound state nonempty fun _ => ?_
        rw [front_ok decoded, if_pos (by rw [length_drop]; omega)]
    next short => exact absurd (Hdr.decode_short.mp short) (Nat.not_lt.mpr long)
    next e _ refused =>
      have invalid : front d.maxPayload (d.pending ++ rest) = .invalid e := by
        rw [pending, nil_append]
        exact front_invalid refused long
      refine ⟨_, rfl, .refuses (.inl invalid) (.inr ⟨rfl, state, none_staged, ?_⟩)⟩
      rintro (split | long)
      · exact not_split_of_none none_staged split
      · cases long with
        | here cut => cases cut.symm.trans invalid
        | later found => cases found.symm.trans invalid
  next staged =>
    refine round_stageHdr sound state nonempty fun none_staged => front_short ?_
    exact Nat.not_le.mp fun long => staged ⟨none_staged, long⟩

theorem round_wantPayload (sound : d.Sound) (state : d.state = .wantPayload)
    (nonempty : rest ≠ []) :
    ∃ flow, wantPayload cb d log rest = some flow ∧ Round cb d log rest flow := by
  obtain ⟨h, hdr, decoded, within, lacks⟩ := sound.payload state
  have some_left : 0 < rest.length := length_pos_iff.mpr nonempty
  have pending : d.pending = d.hdrBuf ++ d.asmBuf.take d.asmHave := by
    simp only [Deframer.pending, state]
  have header : Hdr.decode (d.pending ++ rest) d.maxPayload = .ok h := by
    rw [pending, append_assoc, Hdr.decode_append (Nat.le_of_eq sound.hdrBuf.symm), decoded]
  have payload : (d.pending ++ rest).drop hdrSize = d.asmBuf.take d.asmHave ++ rest := by
    rw [pending, append_assoc, drop_left' sound.hdrBuf]
  obtain ⟨take, taken⟩ : ∃ take, take = min (h.payloadLen.toNat - d.asmHave) rest.length := ⟨_, rfl⟩
  obtain ⟨asmBuf, copied, same_length, staged⟩ :=
    copyInto_stage d.asmBuf taken (Nat.le_of_lt lacks) (by rw [sound.asmBuf]; exact within)
  have asmBuf_length : asmBuf.length = d.asmCap := same_length.trans sound.asmBuf
  simp only [wantPayload, hdr, bind_some, ← taken, copied, map_some]
  refine ⟨_, rfl, ?_⟩
  rcases staged with ⟨short, staged⟩ | ⟨full, staged, left⟩
  · -- the chunk ends inside the payload
    rw [if_pos short]
    refine .waits ?_ ⟨sound.hdrBuf, asmBuf_length,
      fun other => absurd (state.symm.trans other) (by decide),
      fun _ => ⟨h, rfl, decoded, within, short⟩⟩ ⟨rfl, rfl⟩
    simp only [Deframer.pending, state, staged, append_assoc]
  · rw [if_neg (Nat.not_lt.mpr (Nat.le_of_eq full.symm))]
    have length := congrArg List.length staged
    refine round_call ?_ ?_ ⟨⟨sound.hdrBuf, asmBuf_length, fun _ => hdrSize_pos, nofun⟩, ⟨rfl, rfl⟩,
      rfl, rfl⟩ (not_split_of_ok header within)
    · rw [front_ok header, payload, if_neg ?_, ← drop_drop, payload, staged, left]
      rw [length_take_of_le (by omega), length_take] at length
      omega
    · rw [length_drop]
      omega

theorem round_spec (cb : Callback) (log : List Msg) (sound : d.Sound) (nonempty : rest ≠ []) :
    ∃ flow, round cb d log rest = some flow ∧ Round cb d log rest flow := by
  unfold round
  split
  next state => exact round_wantHdr sound state nonempty
  next state => exact round_wantPayload sound state nonempty

theorem Round.again {d' : Deframer} {log' : List Msg}
    (went : Round cb d log rest (.again d' log' rest')) :
    d'.Sound ∧ Kept d d' ∧ rest'.length < rest.length := by
  cases went with
  | delivers found less idle taken => exact ⟨idle.sound, idle.kept, less⟩
  | stages same less sound kept => exact ⟨sound, kept, less⟩

theorem Idle.pending {d' : Deframer} (idle : Idle d d') : d'.pending = [] := by
  simp only [Deframer.pending, idle.state, idle.hdrHave, take_zero]

theorem Round.keeps_iff {d' : Deframer} {log' : List Msg}
    (went : Round cb d log rest (.again d' log' rest')) : d.Keeps rest ↔ d'.Keeps rest' := by
  cases went with
  | delivers found less idle taken whole =>
    have whole' : ¬ d'.Split rest' := not_split_of_none idle.hdrHave
    simp only [Keeps, whole, whole', false_or, idle.pending, nil_append, idle.kept.maxPayload,
      idle.kept.asmCap]
    refine ⟨fun long => ?_, .later found⟩
    cases long with
    | here cut => cases cut.symm.trans found
    | later found' long =>
      cases found'.symm.trans found
      exact long
  | stages same less sound kept state whole =>
    have whole' : ¬ d'.Split rest' := fun split => nomatch state.symm.trans split.1
    simp only [Keeps, whole, whole', false_or, same, kept.maxPayload, kept.asmCap]

theorem rounds_rule {P : Deframer → List Msg → List UInt8 → Fed Deframer Error → Prop}
    (ends : ∀ d log, d.Sound → P d log [] ⟨.ok (), d, log⟩)
    (again : ∀ d log rest d' log' rest' fed, d.Sound → Round cb d log rest (.again d' log' rest') →
      P d' log' rest' fed → P d log rest fed)
    (done : ∀ d log rest result d' log', d.Sound →
      Round cb d log rest (.done result d' log') → P d log rest ⟨result, d', log'⟩)
    (sound : d.Sound) (log : List Msg) (rest : List UInt8) :
    ∃ fed, feed cb d log rest = some fed ∧ P d log rest fed := by
  have general : ∀ fuel d log rest, Sound d → rest.length ≤ fuel →
      ∃ fed, rounds (round cb) fuel d log rest = some fed ∧ P d log rest fed := by
    intro fuel
    induction fuel with
    | zero =>
      intro d log rest sound enough
      obtain rfl := length_eq_zero_iff.mp (Nat.le_zero.mp enough)
      exact ⟨_, rfl, ends d log sound⟩
    | succ fuel ih =>
      intro d log rest sound enough
      cases rest with
      | nil => exact ⟨_, rfl, ends d log sound⟩
      | cons b rest =>
        obtain ⟨flow, went, spec⟩ := round_spec cb log sound (cons_ne_nil b rest)
        simp only [rounds, went, bind_some]
        cases flow with
        | again d' log' rest' =>
          obtain ⟨sound', -, less⟩ := spec.again
          obtain ⟨fed, fed_eq, held⟩ := ih d' log' rest' sound' (by omega)
          exact ⟨fed, fed_eq, again _ _ _ _ _ _ _ sound spec held⟩
        | done result d' log' => exact ⟨_, rfl, done _ _ _ _ _ _ sound spec⟩
  exact general _ d log rest sound le_rfl

/-! ## What a call leaves behind -/

theorem round_poisoned (poisoned : d.Poisoned e) :
    round cb d log rest = some (.done (.error (.wire e)) d log) := by
  have staged : ¬ (d.hdrHave = 0 ∧ hdrSize ≤ rest.length) := by
    rw [poisoned.hdrHave]
    exact fun inPlace => absurd inPlace.1 (by decide)
  have none_taken : min (hdrSize - d.hdrHave) rest.length = 0 := by
    rw [poisoned.hdrHave, Nat.sub_self, Nat.zero_min]
  have copied : copyInto d.hdrBuf d.hdrHave [] = some d.hdrBuf :=
    copyInto_nil (by rw [poisoned.hdrHave, poisoned.hdrBuf])
  have full : ¬ d.hdrHave < hdrSize := by rw [poisoned.hdrHave]; exact Nat.lt_irrefl _
  have refused : stageHdr cb d log rest = some (.done (.error (.wire e)) d log) := by
    simp only [stageHdr, none_taken, take_zero, copied, map_some, Nat.add_zero, full,
      if_false, poisoned.refused]
  rw [round, poisoned.state, wantHdr, if_neg staged, refused]

theorem feed_poisoned (cb : Callback) (poisoned : d.Poisoned e) {chunk : List UInt8}
    (nonempty : chunk ≠ []) (log : List Msg) :
    feed cb d log chunk = some ⟨.error (.wire e), d, log⟩ := by
  obtain ⟨b, rest, rfl⟩ := exists_cons_of_ne_nil nonempty
  simp only [feed, length_cons, rounds, round_poisoned poisoned, bind_some]

def Left (d : Deframer) (chunk : List UInt8) (fed : Fed Deframer Error) : Prop :=
  match fed.result with
  | .error (.wire e) => fed.deframer.Poisoned e ∧ d.Keeps chunk ∨
      (fed.deframer.Sound ∧ fed.deframer.state = .wantHdr ∧ fed.deframer.hdrHave = 0) ∧
        ¬ d.Keeps chunk
  | _ => fed.deframer.Sound

theorem feed_left (cb : Callback) (sound : d.Sound) (log : List Msg) (chunk : List UInt8) :
    ∃ fed, feed cb d log chunk = some fed ∧ Left d chunk fed := by
  refine rounds_rule (P := fun d _ rest fed => Left d rest fed) (fun d log sound => sound)
    ?_ ?_ sound log chunk
  · intro d log rest d' log' rest' fed _ went left
    simpa only [Left, went.keeps_iff] using left
  intro d log rest result d' log' sound went
  cases went with
  | fails found idle failed => exact idle.sound
  | waits same sound' kept => exact sound'
  | refuses refused left =>
    rcases left with poisoned | ⟨rfl, state, none_staged, unkept⟩
    · exact .inl poisoned
    · exact .inr ⟨⟨sound, state, none_staged⟩, unkept⟩

def Valid (d : Deframer) : Prop := d.Sound ∨ ∃ e, d.Poisoned e

theorem feed_valid (cb : Callback) (valid : d.Valid) (log : List Msg) (chunk : List UInt8) :
    ∃ fed, feed cb d log chunk = some fed ∧ fed.deframer.Valid := by
  rcases valid with sound | ⟨e, poisoned⟩
  · obtain ⟨⟨result, d', log'⟩, fed_eq, left⟩ := feed_left cb sound log chunk
    refine ⟨_, fed_eq, ?_⟩
    unfold Left at left
    split at left
    next e _ =>
      rcases left with ⟨poisoned, -⟩ | ⟨⟨sound', -⟩, -⟩
      · exact .inr ⟨e, poisoned⟩
      · exact .inl sound'
    next => exact .inl left
  · cases chunk with
    | nil => exact ⟨_, rfl, .inr ⟨e, poisoned⟩⟩
    | cons b rest =>
      exact ⟨_, feed_poisoned cb poisoned (cons_ne_nil b rest) log, .inr ⟨e, poisoned⟩⟩

theorem Sound.new (asmCap : Nat) (maxPayload : UInt32) : (new asmCap maxPayload).Sound :=
  ⟨length_replicate, length_replicate, fun _ => hdrSize_pos, nofun⟩

end Rounds

end Deframer

end Urp.Bench
