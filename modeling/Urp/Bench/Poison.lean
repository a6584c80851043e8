import Urp.Bench.Core

/-!
# After a refused header

A deframer that has refused a header should not go on: what follows in the stream cannot be told
from payload.
-/

namespace Urp.Bench

open Urp.Lib Urp.Lib.Framing Option
open List hiding Vector

def Silent {κ ρ : Type} (failed : ρ → Prop)
    (calls : List Msg → List (List UInt8 × κ) → Option (List (Seen ρ))) : Prop :=
  ∀ log more, ∃ seen, calls log more = some seen ∧
    List.Forall₂ (fun call s => s.log = log ∧ (call.1 ≠ [] → failed s.result)) more seen

namespace Deframer

inductive Reached (asmCap : Nat) (maxPayload : UInt32) : Deframer → List Msg → Prop where
  | new : Reached asmCap maxPayload (.new asmCap maxPayload) []
  | feed (cb : Callback) (chunk : List UInt8) {d log fed} (before : Reached asmCap maxPayload d log)
      (fed_eq : d.feed cb log chunk = some fed) : Reached asmCap maxPayload fed.deframer fed.log

/-- The call with this chunk returned a decode or a capacity error and left `d`. -/
def Refused (asmCap : Nat) (maxPayload : UInt32) (before : Deframer) (chunk : List UInt8)
    (d : Deframer) : Prop :=
  ∃ log cb e log', Reached asmCap maxPayload before log ∧
    before.feed cb log chunk = some ⟨.error (.wire e), d, log'⟩

def StaysPoisoned (d : Deframer) : Prop := Silent (∃ e, · = Except.error e) d.calls

variable {asmCap : Nat} {maxPayload : UInt32} {before d : Deframer} {log : List Msg}
  {chunk : List UInt8}

theorem Reached.valid (reached : Reached asmCap maxPayload d log) : d.Valid := by
  induction reached with
  | new => exact .inl (.new asmCap maxPayload)
  | @feed cb chunk d log fed _ fed_eq ih =>
    obtain ⟨fed', fed'_eq, valid⟩ := feed_valid cb ih log chunk
    cases fed'_eq.symm.trans fed_eq
    exact valid

theorem Poisoned.split {e : Error} (poisoned : d.Poisoned e) (chunk : List UInt8) :
    d.Split chunk := by
  have whole := Nat.le_of_eq poisoned.hdrBuf.symm
  have pending : d.pending = d.hdrBuf := by
    simp only [Deframer.pending, poisoned.state, poisoned.hdrHave]
    exact take_of_length_le (Nat.le_of_eq poisoned.hdrBuf)
  refine ⟨poisoned.state, by rw [poisoned.hdrHave]; exact hdrSize_pos, e, ?_⟩
  rw [pending]
  refine refuses_of_accept poisoned.refused (Hdr.decode_append whole chunk).symm ?_
  exact whole.trans (length_append ▸ Nat.le_add_right _ _)

theorem Refused.left (refused : Refused asmCap maxPayload before chunk d) :
    (∃ e, d.Poisoned e) ∧ before.Keeps chunk ∨
      (d.Sound ∧ d.state = .wantHdr ∧ d.hdrHave = 0) ∧ ¬ before.Keeps chunk := by
  obtain ⟨log, cb, e, log', reached, fed_eq⟩ := refused
  rcases reached.valid with sound | ⟨e', poisoned⟩
  · obtain ⟨fed, fed_eq', left⟩ := feed_left cb sound log chunk
    cases fed_eq'.symm.trans fed_eq
    exact left.imp (fun poisoned => ⟨⟨e, poisoned.1⟩, poisoned.2⟩) id
  · cases chunk with
    | nil => cases Option.some.inj fed_eq
    | cons b rest =>
      have again := feed_poisoned cb poisoned (cons_ne_nil b rest) log
      obtain ⟨-, rfl, -⟩ := Fed.mk.inj (Option.some.inj (again.symm.trans fed_eq))
      exact .inl ⟨⟨e', poisoned⟩, .inl (poisoned.split _)⟩

theorem Poisoned.stays {e : Error} (poisoned : d.Poisoned e) : d.StaysPoisoned := by
  intro log more
  induction more with
  | nil => exact ⟨[], rfl, .nil⟩
  | cons call more ih =>
    obtain ⟨seen, seen_eq, held⟩ := ih
    by_cases empty : call.1 = []
    · have fed_eq : d.feed call.2 log call.1 = some ⟨.ok (), d, log⟩ := by rw [empty]; rfl
      simp only [calls, fed_eq, bind_some, seen_eq, map_some]
      exact ⟨_, rfl, .cons ⟨rfl, fun nonempty => absurd empty nonempty⟩ held⟩
    · have fed_eq := feed_poisoned call.2 poisoned empty log
      simp only [calls, fed_eq, bind_some, seen_eq, map_some]
      exact ⟨_, rfl, .cons ⟨rfl, fun _ => ⟨e, rfl⟩⟩ held⟩

theorem feed_byte (sound : d.Sound) (state : d.state = .wantHdr) (none_staged : d.hdrHave = 0)
    (cb : Callback) (log : List Msg) (b : UInt8) :
    ∃ d', d.feed cb log [b] = some ⟨.ok (), d', log⟩ := by
  have short : ¬ (d.hdrHave = 0 ∧ hdrSize ≤ [b].length) :=
    fun inPlace => absurd inPlace.2 (by decide : ¬ hdrSize ≤ 1)
  have taken : min (hdrSize - d.hdrHave) [b].length = 1 := by rw [none_staged]; rfl
  obtain ⟨hdrBuf, copied, -⟩ := copyInto_some d.hdrBuf d.hdrHave [b]
    (by rw [none_staged, sound.hdrBuf]; exact (by decide : 1 ≤ hdrSize))
  have lacks : d.hdrHave + 1 < hdrSize := by rw [none_staged]; decide
  have went : round cb d log [b] =
      some (.done (.ok ()) { d with hdrBuf := hdrBuf, hdrHave := d.hdrHave + 1 } log) := by
    have in_hdr : round cb d log [b] = wantHdr cb d log [b] := by simp only [round, state]
    rw [in_hdr, wantHdr, if_neg short]
    simp only [stageHdr, taken, take_succ_cons, take_zero, copied, map_some, lacks, if_true]
  exact ⟨_, by simp only [feed, length_singleton, rounds, went, bind_some]; rfl⟩

theorem not_staysPoisoned (sound : d.Sound) (state : d.state = .wantHdr)
    (none_staged : d.hdrHave = 0) : ¬ d.StaysPoisoned := by
  intro stays
  obtain ⟨seen, seen_eq, held⟩ := stays [] [([0], fun _ => .ok ())]
  obtain ⟨d', fed_eq⟩ := feed_byte sound state none_staged (fun _ => .ok ()) [] 0
  simp only [calls, fed_eq, bind_some, map_some] at seen_eq
  cases seen_eq
  cases held with
  | cons first _ =>
    obtain ⟨e, failed⟩ := first.2 (by decide)
    cases failed

theorem Refused.staysPoisoned_iff (refused : Refused asmCap maxPayload before chunk d) :
    (d.StaysPoisoned ↔ before.Keeps chunk) ∧ (before.Keeps chunk ↔ d.hdrHave = hdrSize) := by
  rcases refused.left with ⟨⟨e, poisoned⟩, keeps⟩ | ⟨⟨sound, state, none_staged⟩, unkept⟩
  · exact ⟨iff_of_true poisoned.stays keeps, iff_of_true keeps poisoned.hdrHave⟩
  · refine ⟨iff_of_false (not_staysPoisoned sound state none_staged) unkept,
      iff_of_false unkept fun staged => ?_⟩
    exact nomatch none_staged.symm.trans staged

end Deframer

namespace BenchDeframer

inductive Reached {asmCap : Nat} (asmBuf : Vector UInt8 asmCap) (maxPayload : UInt32) :
    BenchDeframer → List Msg → Prop where
  | init : Reached asmBuf maxPayload (.init asmBuf maxPayload) []
  | feed (cb : Callback) (chunk : List UInt8) {d log fed} (before : Reached asmBuf maxPayload d log)
      (fed_eq : d.feed cb log chunk = some fed) : Reached asmBuf maxPayload fed.deframer fed.log

def Refused {asmCap : Nat} (asmBuf : Vector UInt8 asmCap) (maxPayload : UInt32)
    (before : BenchDeframer) (chunk : List UInt8) (d : BenchDeframer) : Prop :=
  ∃ log cb ret log', Reached asmBuf maxPayload before log ∧
    before.feed cb log chunk = some ⟨.error (.wire ret), d, log'⟩

def pending (d : BenchDeframer) : List UInt8 :=
  match d.state with
  | .wantHdr => d.hdrBuf.take d.hdrHave
  | .wantPayload => d.hdrBuf ++ d.asmBuf.take d.asmHave

def Keeps (d : BenchDeframer) (chunk : List UInt8) : Prop :=
  (d.state = .wantHdr ∧ 0 < d.hdrHave ∧
      ∃ e, Refuses d.maxPayload d.asmCap (d.pending ++ chunk) e) ∨
    Overlong d.maxPayload d.asmCap (d.pending ++ chunk)

def StaysPoisoned (d : BenchDeframer) : Prop := Silent (· < 0) d.calls

variable {asmCap : Nat} {asmBuf : Vector UInt8 asmCap} {maxPayload : UInt32}
  {before c : BenchDeframer} {log : List Msg} {chunk : List UInt8}

theorem keeps_twin {d : Deframer} (twin : Twin d c) : c.Keeps chunk ↔ d.Keeps chunk := by
  have pending : c.pending = d.pending := by
    simp only [BenchDeframer.pending, Deframer.pending, twin.state]
    cases state : d.state with
    | wantHdr => simp only [twin.hdrBuf, twin.hdrHave]
    | wantPayload =>
      obtain ⟨-, asmHave, staged⟩ := twin.payload state
      simp only [twin.hdrBuf, asmHave, staged]
  simp only [Keeps, Deframer.Keeps, Deframer.Split, pending, twin.state, twin.hdrHave,
    twin.asmCap, twin.maxPayload]

theorem feed_twin {d : Deframer} (twin : Twin d c) {cb : Callback} {chunk : List UInt8}
    {fed' : Fed BenchDeframer Int} (fed'_eq : c.feed cb log chunk = some fed') :
    ∃ fed, d.feed (twinCallback (fun _ => .short) cb) log chunk = some fed ∧
      FedTwin (fun _ => .short) fed fed' := by
  have both := rounds_twin (fun _ => .short) cb chunk.length twin log chunk
  change Option.Rel _ (d.feed _ log chunk) (c.feed cb log chunk) at both
  rw [fed'_eq] at both
  generalize found : d.feed (twinCallback (fun _ => .short) cb) log chunk = left at both
  cases both with
  | some agree => exact ⟨_, rfl, agree⟩

theorem Reached.twin (reached : Reached asmBuf maxPayload c log) :
    ∃ d, Deframer.Reached asmCap maxPayload d log ∧ Twin d c := by
  induction reached with
  | init => exact ⟨_, .new, twin_new asmBuf maxPayload⟩
  | feed cb chunk _ fed'_eq ih =>
    obtain ⟨d, reached, twin⟩ := ih
    obtain ⟨fed, fed_eq, agree⟩ := feed_twin twin fed'_eq
    exact ⟨fed.deframer, agree.log ▸ reached.feed _ chunk fed_eq, agree.deframer⟩

theorem Refused.twin (refused : Refused asmBuf maxPayload before chunk c) :
    ∃ d d', Deframer.Refused asmCap maxPayload d chunk d' ∧ Twin d before ∧ Twin d' c := by
  obtain ⟨log, cb, ret, log', reached, fed'_eq⟩ := refused
  obtain ⟨d, reached, twin⟩ := reached.twin
  obtain ⟨⟨result, d', log''⟩, fed_eq, same, twin', -⟩ := feed_twin twin fed'_eq
  cases same with
  | wire e => exact ⟨d, d', ⟨log, _, e, log'', reached, fed_eq⟩, twin, twin'⟩

def ofCallback (cb : Deframer.Callback) : Callback := fun log =>
  match cb log with
  | .ok () => 0
  | .error e => -e.code

theorem twinCallback_ofCallback (cb : Deframer.Callback) :
    twinCallback (fun _ => .short) (ofCallback cb) = cb := by
  funext log
  simp only [twinCallback, ofCallback]
  cases cb log with
  | ok => rfl
  | error e =>
    simp only [resultOf, Int.neg_lt_zero_iff.mpr e.code_pos, if_true, Error.ofReturn_neg_code]

theorem failed_iff (other : Int → Error) (ret : Int) :
    (∃ e, resultOf other ret = .error e) ↔ ret < 0 := by
  by_cases negative : ret < 0 <;> simp [resultOf, negative]

theorem forall₂_twin (log : List Msg) (more : List (List UInt8 × Callback))
    (seen : List (Seen Int)) :
    List.Forall₂ (fun call s => s.log = log ∧ (call.1 ≠ [] → ∃ e, s.result = .error e))
        (more.map fun call => (call.1, twinCallback (fun _ => .short) call.2))
        (seen.map (Seen.twin fun _ => .short)) ↔
      List.Forall₂ (fun call s => s.log = log ∧ (call.1 ≠ [] → s.result < 0)) more seen := by
  simp only [forall₂_map_left_iff, forall₂_map_right_iff, Seen.twin, failed_iff]

theorem staysPoisoned_twin {d : Deframer} (twin : Twin d c) :
    c.StaysPoisoned ↔ d.StaysPoisoned := by
  constructor
  · intro stays log more
    obtain ⟨seen, seen_eq, held⟩ := stays log (more.map fun call => (call.1, ofCallback call.2))
    have agree := calls_twin (fun _ => .short) twin log
      (more.map fun call => (call.1, ofCallback call.2))
    have held' := (forall₂_twin log _ _).mpr held
    simp only [List.map_map, Function.comp_def, twinCallback_ofCallback,
      List.map_id'] at agree held'
    rw [seen_eq] at agree
    exact ⟨_, agree, held'⟩
  · intro stays log more
    obtain ⟨seen, seen_eq, held⟩ :=
      stays log (more.map fun call => (call.1, twinCallback (fun _ => .short) call.2))
    have agree := calls_twin (fun _ => .short) twin log more
    rw [seen_eq] at agree
    obtain ⟨seen', seen'_eq, rfl⟩ := map_eq_some_iff.mp agree.symm
    exact ⟨seen', seen'_eq, (forall₂_twin log _ _).mp held⟩

theorem Refused.staysPoisoned_iff (refused : Refused asmBuf maxPayload before chunk c) :
    (c.StaysPoisoned ↔ before.Keeps chunk) ∧ (before.Keeps chunk ↔ c.hdrHave = hdrSize) := by
  obtain ⟨d, d', refused, twin, twin'⟩ := refused.twin
  rw [staysPoisoned_twin twin', keeps_twin twin, twin'.hdrHave]
  exact refused.staysPoisoned_iff

end BenchDeframer

/-- After a call that returned a decode or a capacity error, the stream stays poisoned exactly if
the refused header began in an earlier chunk, or decodes and has a payload that is cut off and too
long for the reassembly buffer. Then the header is staged in full, and only then. -/
theorem poisoned_iff_staged {asmCap : Nat} (asmBuf : Vector UInt8 asmCap) (maxPayload : UInt32) :
    (∀ before chunk d, Deframer.Refused asmCap maxPayload before chunk d →
      (d.StaysPoisoned ↔ before.Keeps chunk) ∧ (before.Keeps chunk ↔ d.hdrHave = hdrSize)) ∧
    ∀ before chunk c, BenchDeframer.Refused asmBuf maxPayload before chunk c →
      (c.StaysPoisoned ↔ before.Keeps chunk) ∧ (before.Keeps chunk ↔ c.hdrHave = hdrSize) :=
  ⟨fun _ _ _ refused => refused.staysPoisoned_iff, fun _ _ _ refused => refused.staysPoisoned_iff⟩

section Runs

def oddBegun : Deframer :=
  { Deframer.new 16 16 with hdrBuf := oddHdr.encode.take 3 ++ List.replicate 21 0, hdrHave := 3 }

def oddStaged : Deframer :=
  { Deframer.new 16 16 with hdrBuf := oddHdr.encode, hdrHave := hdrSize }

def oddBegunTwin : BenchDeframer :=
  { BenchDeframer.init (Vector.replicate 16 0) 16 with
    hdrBuf := oddHdr.encode.take 3 ++ List.replicate 21 0
    hdrHave := 3 }

def oddStagedTwin : BenchDeframer :=
  { oddBegunTwin with hdrBuf := oddHdr.encode, hdrHave := hdrSize, hdr := oddHdr }

theorem odd_staged_refused : Deframer.Refused 16 16 oddBegun (oddHdr.encode.drop 3) oddStaged :=
  ⟨_, fun _ => .ok (), .version, [], .feed (fun _ => .ok ()) (oddHdr.encode.take 3) .new rfl, rfl⟩

theorem odd_staged_refused_twin : BenchDeframer.Refused (Vector.replicate 16 0) 16 oddBegunTwin
    (oddHdr.encode.drop 3) oddStagedTwin :=
  ⟨_, fun _ => 0, -3, [], .feed (fun _ => 0) (oddHdr.encode.take 3) .init rfl, rfl⟩

theorem odd_staged_poisoned : oddStaged.StaysPoisoned ∧ oddStagedTwin.StaysPoisoned := by
  have both := poisoned_iff_staged (Vector.replicate 16 0) 16
  have rust := both.1 _ _ _ odd_staged_refused
  have twin := both.2 _ _ _ odd_staged_refused_twin
  exact ⟨rust.1.mpr (.inl ⟨rfl, by decide, .version, .inl rfl⟩),
    twin.1.mpr (.inl ⟨rfl, by decide, .version, .inl rfl⟩)⟩

/-- A chunk with a header of another version gives an error, and the chunk after it a message. -/
theorem refused_in_place_resynchronises : (Deframer.new 16 16).calls []
        [(oddHdr.encode, fun _ => .ok ()), (plainHdr.encode, fun _ => .ok ())] =
      some [⟨.error .version, [], 0, 0⟩, ⟨.ok (), [⟨plainHdr, []⟩], 1, 0⟩] ∧
    (BenchDeframer.init (Vector.replicate 16 0) 16).calls []
        [(oddHdr.encode, fun _ => 0), (plainHdr.encode, fun _ => 0)] =
      some [⟨-3, [], 0, 0⟩, ⟨0, [⟨plainHdr, []⟩], 1, 0⟩] := by
  exact ⟨rfl, rfl⟩

end Runs

end Urp.Bench
