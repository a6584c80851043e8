import Urp.Bench.Core

/-!
# Any cut of a stream
-/

namespace Urp.Bench

open Urp.Lib Urp.Lib.Framing Option
open List hiding Vector

def firstError {ε α : Type} : Except ε α → Option ε
  | .ok _ => none
  | .error e => some e

def parseWhole (maxPayload : UInt32) (bytes : List UInt8) : List Msg × Option Error :=
  let p := (format maxPayload).parse bytes
  (p.messages, firstError p.outcome)

namespace Deframer

/-- A call of `feed` with a callback that succeeds. -/
def receive (d : Deframer) (chunk : List UInt8) : Option (List Msg × Except Error Deframer) :=
  (d.feed (fun _ => .ok ()) [] chunk).map fun fed =>
    (fed.log, match fed.result with
      | .ok () => .ok fed.deframer
      | .error stop => .error stop.error)

def Roomy (d : Deframer) : Prop := (Hdr.payloadCap d.maxPayload).toNat ≤ d.asmCap

theorem Kept.roomy {d d' : Deframer} (kept : Kept d d') (roomy : d.Roomy) : d'.Roomy := by
  rwa [Roomy, kept.maxPayload, kept.asmCap]

theorem Kept.trans {d d' d'' : Deframer} (first : Kept d d') (second : Kept d' d'') : Kept d d'' :=
  ⟨second.maxPayload.trans first.maxPayload, second.asmCap.trans first.asmCap⟩

theorem Sound.incomplete {d : Deframer} (sound : d.Sound) :
    front d.maxPayload d.pending = .incomplete := by
  cases state : d.state with
  | wantHdr =>
    refine front_short ?_
    have lacks := sound.hdr state
    simp only [pending, state, length_take]
    omega
  | wantPayload =>
    obtain ⟨h, -, decoded, within, lacks⟩ := sound.payload state
    have header : Hdr.decode d.pending d.maxPayload = .ok h := by
      simp only [pending, state]
      rw [Hdr.decode_append (Nat.le_of_eq sound.hdrBuf.symm), decoded]
    rw [front_ok header]
    refine if_pos ?_
    simp only [pending, state]
    rw [drop_left' sound.hdrBuf, length_take]
    omega

theorem Roomy.invalid {d : Deframer} {bytes : List UInt8} {e : Error} (roomy : d.Roomy)
    (refused : Refuses d.maxPayload d.asmCap bytes e) : front d.maxPayload bytes = .invalid e := by
  rcases refused with invalid | ⟨-, h, decoded, large⟩
  · exact invalid
  · have within := UInt32.le_iff_toNat_le.mp (Hdr.decode_ok decoded).2
    unfold Roomy at roomy
    omega

def Yields (d : Deframer) (log : List Msg) (p : Parsed UInt8 Msg Error)
    (fed : Fed Deframer Error) : Prop :=
  fed.log = log ++ p.messages ∧ match p.outcome with
    | .error e => fed.result = .error (.wire e)
    | .ok left =>
      fed.result = .ok () ∧ fed.deframer.Sound ∧ Kept d fed.deframer ∧ fed.deframer.pending = left

section Yields

variable {d d' : Deframer} {log : List Msg} {rest : List UInt8} {p : Parsed UInt8 Msg Error}
  {fed : Fed Deframer Error}

theorem Yields.kept (yields : Yields d' log p fed) (kept : Kept d d') : Yields d log p fed := by
  obtain ⟨handed, ended⟩ := yields
  refine ⟨handed, ?_⟩
  split at ended
  next => exact ended
  next =>
    obtain ⟨result, sound, kept', left⟩ := ended
    exact ⟨result, sound, kept.trans kept', left⟩

theorem Yields.after {m : Msg} (yields : Yields d (log ++ [m]) p fed) :
    Yields d log (p.after [m]) fed := by
  obtain ⟨handed, ended⟩ := yields
  exact ⟨by rw [handed, append_assoc]; rfl, ended⟩

theorem yields_incomplete (sound : d'.Sound) (kept : Kept d d') :
    Yields d log ((format d.maxPayload).parse d'.pending) ⟨.ok (), d', log⟩ := by
  have incomplete : front d.maxPayload d'.pending = .incomplete :=
    kept.maxPayload ▸ sound.incomplete
  rw [Format.parse_incomplete (f := format d.maxPayload) incomplete]
  exact ⟨(append_nil log).symm, rfl, sound, kept, rfl⟩

theorem Round.yields_again {cb : Callback} {log' : List Msg} {rest' : List UInt8}
    (went : Round cb d log rest (.again d' log' rest'))
    (later : Yields d' log' ((format d'.maxPayload).parse (d'.pending ++ rest')) fed) :
    Yields d log ((format d.maxPayload).parse (d.pending ++ rest)) fed := by
  obtain ⟨-, kept, -⟩ := went.again
  rw [kept.maxPayload] at later
  cases went with
  | delivers found less idle taken =>
    rw [idle.pending, nil_append] at later
    rw [Format.parse_message (f := format d.maxPayload) found]
    exact (later.kept kept).after
  | stages same less sound' kept' =>
    rw [same] at later
    exact later.kept kept

theorem Round.yields_done {result : Except (Stop Error) Unit} {log' : List Msg}
    (went : Round (fun _ => .ok ()) d log rest (.done result d' log')) (roomy : d.Roomy) :
    Yields d log ((format d.maxPayload).parse (d.pending ++ rest)) ⟨result, d', log'⟩ := by
  cases went with
  | fails found idle failed => cases failed
  | waits same sound kept =>
    rw [← same]
    exact yields_incomplete sound kept
  | refuses refused left =>
    rw [Format.parse_invalid (f := format d.maxPayload) (roomy.invalid refused)]
    exact ⟨(append_nil log).symm, rfl⟩

theorem feed_yields (sound : d.Sound) (roomy : d.Roomy) (log : List Msg) (chunk : List UInt8) :
    ∃ fed, d.feed (fun _ => .ok ()) log chunk = some fed ∧
      Yields d log ((format d.maxPayload).parse (d.pending ++ chunk)) fed := by
  have ends (d : Deframer) (log : List Msg) (sound : d.Sound) :
      d.Roomy → Yields d log ((format d.maxPayload).parse (d.pending ++ [])) ⟨.ok (), d, log⟩ := by
    intro _
    rw [append_nil]
    exact yields_incomplete sound ⟨rfl, rfl⟩
  obtain ⟨fed, fed_eq, yields⟩ :=
    rounds_rule (P := fun d log rest fed => d.Roomy →
        Yields d log ((format d.maxPayload).parse (d.pending ++ rest)) fed)
      ends
      (fun _ _ _ _ _ _ _ _ went later roomy =>
        went.yields_again (later (went.again.2.1.roomy roomy)))
      (fun _ _ _ _ _ _ _ went roomy => went.yields_done roomy) sound log chunk
  exact ⟨fed, fed_eq, yields roomy⟩

end Yields

section Receive

variable (maxPayload : UInt32)

def Waits (d : Deframer) : Prop := d.Sound ∧ d.Roomy ∧ d.maxPayload = maxPayload

theorem receive_matches (d : Deframer) (chunk : List UInt8) (waits : Waits maxPayload d) :
    Matches (Waits maxPayload) pending (d.receive chunk)
      ((format maxPayload).parse (d.pending ++ chunk)) := by
  obtain ⟨sound, roomy, rfl⟩ := waits
  obtain ⟨fed, fed_eq, handed, ended⟩ := feed_yields sound roomy [] chunk
  simp only [receive, fed_eq, map_some, Matches, handed, nil_append]
  split at ended
  next e outcome => simp only [ended, outcome, Stop.error]
  next left outcome =>
    obtain ⟨result, sound', kept, left⟩ := ended
    simp only [result, outcome]
    exact ⟨_, rfl, ⟨sound', kept.roomy roomy, kept.maxPayload⟩, left⟩

theorem receive_all {asmCap : Nat} (room : (Hdr.payloadCap maxPayload).toNat ≤ asmCap)
    (chunks : List (List UInt8)) :
    (feedAll receive (new asmCap maxPayload) chunks).map (fun r => (r.1, firstError r.2)) =
      some (parseWhole maxPayload chunks.flatten) := by
  have waits : Waits maxPayload (new asmCap maxPayload) := ⟨.new _ _, room, rfl⟩
  have all := feedAll_matches (f := format maxPayload)
    (fun d waits => waits.2.2 ▸ waits.1.incomplete) (receive_matches maxPayload) waits chunks
  have nothing : (new asmCap maxPayload).pending ++ chunks.flatten = chunks.flatten := by
    simp [new, pending]
  rw [nothing] at all
  unfold Matches at all
  unfold parseWhole
  split at all
  next e outcome => simp only [all, outcome, map_some, firstError]
  next left outcome =>
    obtain ⟨d, all, -⟩ := all
    simp only [all, outcome, map_some, firstError]

end Receive

end Deframer

/-! ## The twin -/

/-- A call of `bench_deframe_feed` with a callback that succeeds. -/
def BenchDeframer.receive (d : BenchDeframer) (chunk : List UInt8) :
    Option (List Msg × Except Int BenchDeframer) :=
  (d.feed (fun _ => 0) [] chunk).map fun fed =>
    (fed.log, match fed.result with
      | .ok () => .ok fed.deframer
      | .error stop => .error stop.error)

section Twin

variable {maxPayload : UInt32} {d : Deframer} {c : BenchDeframer}

open Deframer (Waits)

theorem receive_twin (twin : Twin d c) (waits : Waits maxPayload d) (chunk : List UInt8) :
    ∃ ms, (∃ e, d.receive chunk = some (ms, .error e) ∧
        c.receive chunk = some (ms, .error (-e.code))) ∨
      ∃ d' c', d.receive chunk = some (ms, .ok d') ∧ c.receive chunk = some (ms, .ok c') ∧
        Twin d' c' ∧ Waits maxPayload d' := by
  obtain ⟨sound, roomy, rfl⟩ := waits
  obtain ⟨fed, fed_eq, -, ended⟩ := Deframer.feed_yields sound roomy [] chunk
  have both := rounds_twin (fun _ => .short) (fun _ => 0) chunk.length twin [] chunk
  have succeeds : twinCallback (fun _ => .short) (fun _ => 0) = fun _ => .ok () := rfl
  rw [succeeds] at both
  change Option.Rel _ (d.feed _ [] chunk) (c.feed (fun _ => 0) [] chunk) at both
  rw [fed_eq] at both
  generalize found : c.feed (fun _ => 0) [] chunk = right at both
  cases both with
  | @some _ fed' agree =>
    simp only [Deframer.receive, BenchDeframer.receive, fed_eq, found, map_some]
    refine ⟨fed.log, ?_⟩
    have same := agree.result
    rw [← agree.log]
    split at ended
    next e _ =>
      rw [ended] at same ⊢
      generalize fed'.result = result at same ⊢
      cases same with
      | wire e => exact .inl ⟨e, rfl, rfl⟩
    next =>
      obtain ⟨result, sound', kept, -⟩ := ended
      rw [result] at same ⊢
      generalize fed'.result = result at same ⊢
      cases same with
      | ok => exact .inr ⟨_, _, rfl, rfl, agree.deframer, sound', kept.roomy roomy, kept.maxPayload⟩

theorem feedAll_twin (twin : Twin d c) (waits : Waits maxPayload d) (chunks : List (List UInt8)) :
    (feedAll BenchDeframer.receive c chunks).map (fun r => (r.1, firstError r.2)) =
      (feedAll Deframer.receive d chunks).map
        fun r => (r.1, (firstError r.2).map fun e => -e.code) := by
  induction chunks generalizing d c with
  | nil => rfl
  | cons chunk chunks ih =>
    obtain ⟨ms, ⟨e, left, right⟩ | ⟨d', c', left, right, twin', waits'⟩⟩ :=
      receive_twin twin waits chunk
    · simp only [feedAll, left, right, bind_some, map_some, firstError]
    · have rest := congrArg (Option.map fun r => (ms ++ r.1, r.2)) (ih twin' waits')
      rw [Option.map_map, Option.map_map] at rest
      simp only [feedAll, left, right, bind_some, Option.map_map]
      exact rest

end Twin

/-- However a byte string is cut, both deframers hand out the messages of the whole string in their
order, and return its first error. -/
theorem cut_makes_no_difference (maxPayload : UInt32) {asmCap : Nat}
    (room : (Hdr.payloadCap maxPayload).toNat ≤ asmCap) (asmBuf : Vector UInt8 asmCap)
    (bytes : List UInt8) (chunks : List (List UInt8)) (cut : chunks.flatten = bytes) :
    (feedAll Deframer.receive (.new asmCap maxPayload) chunks).map
        (fun r => (r.1, firstError r.2)) =
      some (parseWhole maxPayload bytes) ∧
    (feedAll BenchDeframer.receive (.init asmBuf maxPayload) chunks).map
        (fun r => (r.1, firstError r.2)) =
      some ((parseWhole maxPayload bytes).map id fun e => e.map fun e => -e.code) := by
  subst cut
  have rust := Deframer.receive_all maxPayload room chunks
  refine ⟨rust, ?_⟩
  rw [feedAll_twin (twin_new asmBuf maxPayload) ⟨.new _ _, room, rfl⟩]
  have codes := congrArg (Option.map (Prod.map id (Option.map fun e => -e.code))) rust
  rwa [Option.map_map] at codes

def threeHdr : Hdr := { plainHdr with payloadLen := 3 }

def oddChunks : List (List UInt8) :=
  [threeHdr.encode ++ [7], [8, 9] ++ oddHdr.encode.take 3, oddHdr.encode.drop 3]

theorem cut_in_payload :
    (feedAll Deframer.receive (.new 16 16) oddChunks).map (fun r => (r.1, firstError r.2)) =
      some ([⟨threeHdr, [7, 8, 9]⟩], some .version) ∧
    (feedAll BenchDeframer.receive (.init (Vector.replicate 16 0) 16) oddChunks).map
        (fun r => (r.1, firstError r.2)) =
      some ([⟨threeHdr, [7, 8, 9]⟩], some (-3)) := by
  have parsed : parseWhole 16 (threeHdr.encode ++ [7, 8, 9] ++ oddHdr.encode) =
      ([⟨threeHdr, [7, 8, 9]⟩], some .version) := by decide +kernel
  have cut := cut_makes_no_difference 16 (by decide) (Vector.replicate 16 0)
    (threeHdr.encode ++ [7, 8, 9] ++ oddHdr.encode) oddChunks (by decide +kernel)
  rwa [parsed] at cut

end Urp.Bench
