import Urp.Bench.Header
import Mathlib.Data.List.Dedup
import Mathlib.Data.Fintype.Basic
import Mathlib.Data.Fintype.Card
import Mathlib.Data.Int.ModEq

/-!
# The echo tracker
-/

namespace Urp.Bench

open List
open Function (update)

structure Tracker (window : Nat) where
  sentNs : Fin window → UInt64
  seqs : Fin window → UInt32
  inFlight : Fin window → Bool
  inflightCount : UInt32
  dups : UInt64
  unknowns : UInt64

variable {window : Nat} [NeZero window]

def slot (window : Nat) [NeZero window] (seq : UInt32) : Fin window := Fin.ofNat window seq.toNat

namespace Tracker

def new (window : Nat) : Tracker window where
  sentNs _ := 0
  seqs _ := 0
  inFlight _ := false
  inflightCount := 0
  dups := 0
  unknowns := 0

def sent (t : Tracker window) (seq : UInt32) (tSendNs : UInt64) :
    Except Error Unit × Tracker window :=
  let slot := slot window seq
  if t.inFlight slot then (.error .full, t)
  else (.ok (), { t with
    inFlight := update t.inFlight slot true
    seqs := update t.seqs slot seq
    sentNs := update t.sentNs slot tSendNs
    inflightCount := t.inflightCount + 1 })

def saturatingSub (a b : UInt64) : UInt64 := if a < b then 0 else a - b

def echo (t : Tracker window) (seq : UInt32) (nowNs : UInt64) :
    Except Error UInt64 × Tracker window :=
  let slot := slot window seq
  if !t.inFlight slot then
    if t.seqs slot = seq ∧ t.sentNs slot ≠ 0 then (.error .dup, { t with dups := t.dups + 1 })
    else (.error .unknown, { t with unknowns := t.unknowns + 1 })
  else if t.seqs slot ≠ seq then (.error .unknown, { t with unknowns := t.unknowns + 1 })
  else (.ok (saturatingSub nowNs (t.sentNs slot)), { t with
    inFlight := update t.inFlight slot false
    inflightCount := t.inflightCount - 1 })

def benchTrackSent (t : Tracker window) (seq : UInt32) (tSendNs : UInt64) : Int × Tracker window :=
  let slot := slot window seq
  if t.inFlight slot then (-Error.full.code, t)
  else (0, { t with
    inFlight := update t.inFlight slot true
    seqs := update t.seqs slot seq
    sentNs := update t.sentNs slot tSendNs
    inflightCount := t.inflightCount + 1 })

def benchTrackEcho (t : Tracker window) (seq : UInt32) (nowNs : UInt64) : Int × Tracker window :=
  let slot := slot window seq
  if !t.inFlight slot then
    if t.seqs slot = seq ∧ t.sentNs slot ≠ 0 then (-Error.dup.code, { t with dups := t.dups + 1 })
    else (-Error.unknown.code, { t with unknowns := t.unknowns + 1 })
  else if t.seqs slot ≠ seq then (-Error.unknown.code, { t with unknowns := t.unknowns + 1 })
  else
    let t' := { t with
      inFlight := update t.inFlight slot false
      inflightCount := t.inflightCount - 1 }
    if nowNs < t.sentNs slot then (0, t')
    else ((nowNs - t.sentNs slot).toInt64.toInt, t')

theorem benchTrackSent_eq (t : Tracker window) (seq : UInt32) (tSendNs : UInt64) :
    t.benchTrackSent seq tSendNs = match t.sent seq tSendNs with
      | (.ok _, t') => (0, t')
      | (.error e, t') => (-e.code, t') := by
  simp only [benchTrackSent, sent]
  split <;> rfl

theorem benchTrackEcho_eq (t : Tracker window) (seq : UInt32) (nowNs : UInt64) :
    t.benchTrackEcho seq nowNs = match t.echo seq nowNs with
      | (.ok rtt, t') => (rtt.toInt64.toInt, t')
      | (.error e, t') => (-e.code, t') := by
  simp only [benchTrackEcho, echo, saturatingSub]
  split
  · split <;> rfl
  · split
    · rfl
    · split <;> rfl

end Tracker

/-- A sender with its tracker, and the numbers that are not echoed yet with their times. -/
structure Course (window : Nat) where
  tracker : Tracker window
  next : UInt32
  outstanding : List (UInt32 × UInt64)

inductive Event where
  | send (ns : UInt64) (anyway : Bool)
  | echo (seq : UInt32) (ns : UInt64)

namespace Course

def start (window : Nat) (first : UInt32) : Course window := ⟨.new window, first, []⟩

/-- With `sent` and `echo` of the tracker in Rust. -/
def step (s : Course window) : Event → Course window
  | .send ns anyway =>
    match s.tracker.sent s.next ns with
    | (.ok _, tracker) => ⟨tracker, s.next + 1, (s.next, ns) :: s.outstanding⟩
    | (.error _, tracker) => ⟨tracker, if anyway then s.next + 1 else s.next, s.outstanding⟩
  | .echo seq ns => ⟨(s.tracker.echo seq ns).2, s.next, s.outstanding.filter (·.1 ≠ seq)⟩

/-- With `bench_track_sent` and `bench_track_echo`. -/
def benchStep (s : Course window) : Event → Course window
  | .send ns anyway =>
    let (result, tracker) := s.tracker.benchTrackSent s.next ns
    if result = 0 then ⟨tracker, s.next + 1, (s.next, ns) :: s.outstanding⟩
    else ⟨tracker, if anyway then s.next + 1 else s.next, s.outstanding⟩
  | .echo seq ns => ⟨(s.tracker.benchTrackEcho seq ns).2, s.next, s.outstanding.filter (·.1 ≠ seq)⟩

def reached (window : Nat) [NeZero window] (first : UInt32) (events : List Event) : Course window :=
  events.foldl step (start window first)

def benchReached (window : Nat) [NeZero window] (first : UInt32) (events : List Event) :
    Course window :=
  events.foldl benchStep (start window first)

theorem reached_append (first : UInt32) (events more : List Event) :
    reached window first (events ++ more) = more.foldl step (reached window first events) :=
  foldl_append

theorem benchStep_eq : (benchStep : Course window → Event → Course window) = step := by
  funext s e
  cases e with
  | send ns anyway =>
    simp only [benchStep, step, s.tracker.benchTrackSent_eq]
    split <;> simp [(Error.code_pos _).ne']
  | echo seq ns =>
    simp only [benchStep, step, s.tracker.benchTrackEcho_eq]
    split <;> simp [*]

/-- The number is one of the `window - 1` before the next. -/
def Recent (window : Nat) (next seq : UInt32) : Prop :=
  ∃ d, 0 < d ∧ d < window ∧ next = seq + UInt32.ofNat d

def Records (s : Course window) : Prop :=
  (∀ p ∈ s.outstanding, Recent window s.next p.1) → ∀ ns, (s.tracker.sent s.next ns).1 = .ok ()

def BenchRecords (s : Course window) : Prop :=
  (∀ p ∈ s.outstanding, Recent window s.next p.1) → ∀ ns, (s.tracker.benchTrackSent s.next ns).1 = 0

structure Exact (s : Course window) : Prop where
  measures : ∀ p ∈ s.outstanding, ∀ ns, ∃ rtt : UInt64,
    (s.tracker.echo p.1 ns).1 = .ok rtt ∧ rtt.toNat = ns.toNat - p.2.toNat
  distinct : (s.outstanding.map Prod.fst).Nodup
  counts : s.tracker.inflightCount.toNat = s.outstanding.length

structure BenchExact (s : Course window) : Prop where
  measures : ∀ p ∈ s.outstanding, ∀ ns : UInt64, ns.toNat - p.2.toNat < 2 ^ 63 →
    (s.tracker.benchTrackEcho p.1 ns).1 = (ns.toNat - p.2.toNat : Nat)
  distinct : (s.outstanding.map Prod.fst).Nodup
  counts : s.tracker.inflightCount.toNat = s.outstanding.length

/-! ## What is outstanding is what is in flight -/

structure Sound (s : Course window) : Prop where
  held : ∀ p ∈ s.outstanding, s.tracker.inFlight (slot window p.1) = true ∧
    s.tracker.seqs (slot window p.1) = p.1 ∧ s.tracker.sentNs (slot window p.1) = p.2
  busy : ∀ i, s.tracker.inFlight i = true → ∃ p ∈ s.outstanding, slot window p.1 = i
  distinct : (s.outstanding.map (fun p => slot window p.1)).Nodup
  counts : s.tracker.inflightCount.toNat = s.outstanding.length

theorem sound_start (first : UInt32) : Sound (start window first) where
  held := by simp [start]
  busy := by simp [start, Tracker.new]
  distinct := nodup_nil
  counts := rfl

section

variable {s : Course window}

theorem Sound.eq_of_slot (sound : Sound s) {p q : UInt32 × UInt64} (hp : p ∈ s.outstanding)
    (hq : q ∈ s.outstanding) (same : slot window p.1 = slot window q.1) : p = q :=
  inj_on_of_nodup_map sound.distinct hp hq same

theorem step_send_full {ns : UInt64} {anyway : Bool}
    (taken : s.tracker.inFlight (slot window s.next) = true) :
    s.step (.send ns anyway) =
      ⟨s.tracker, if anyway then s.next + 1 else s.next, s.outstanding⟩ := by
  simp [step, Tracker.sent, taken]

theorem step_send_free {ns : UInt64} {anyway : Bool}
    (free : s.tracker.inFlight (slot window s.next) = false) :
    s.step (.send ns anyway) = ⟨{ s.tracker with
          inFlight := update s.tracker.inFlight (slot window s.next) true
          seqs := update s.tracker.seqs (slot window s.next) s.next
          sentNs := update s.tracker.sentNs (slot window s.next) ns
          inflightCount := s.tracker.inflightCount + 1 },
        s.next + 1, (s.next, ns) :: s.outstanding⟩ := by
  simp [step, Tracker.sent, free]

section

variable (sound : Sound s)
include sound

theorem Sound.send (small : window < 2 ^ 32) (ns : UInt64) (anyway : Bool) :
    Sound (s.step (.send ns anyway)) := by
  cases free : s.tracker.inFlight (slot window s.next) with
  | true =>
    rw [step_send_full free]
    exact { sound with }
  | false =>
    have other : ∀ p ∈ s.outstanding, slot window p.1 ≠ slot window s.next := by
      intro p listed same
      simpa [same, free] using (sound.held p listed).1
    have distinct : (slot window s.next :: s.outstanding.map (fun p => slot window p.1)).Nodup := by
      refine nodup_cons.mpr ⟨fun listed => ?_, sound.distinct⟩
      obtain ⟨p, listed, same⟩ := mem_map.mp listed
      exact other p listed same
    have room := distinct.length_le_card
    simp only [length_cons, length_map, Fintype.card_fin] at room
    rw [step_send_free free]
    refine ⟨?_, ?_, distinct, ?_⟩
    · rintro p (_ | ⟨_, listed⟩)
      · simp
      · simpa [other p listed] using sound.held p listed
    · intro i flying
      by_cases same : i = slot window s.next
      · exact ⟨_, mem_cons_self, same.symm⟩
      · obtain ⟨p, listed, at_i⟩ := sound.busy i (by simpa [same] using flying)
        exact ⟨p, mem_cons_of_mem _ listed, at_i⟩
    · change (s.tracker.inflightCount + 1).toNat = s.outstanding.length + 1
      rw [UInt32.toNat_add, UInt32.toNat_one, sound.counts, Nat.mod_eq_of_lt (by omega)]

theorem Sound.echo_eq {p : UInt32 × UInt64} (listed : p ∈ s.outstanding)
    (ns : UInt64) : s.tracker.echo p.1 ns = (.ok (Tracker.saturatingSub ns p.2), { s.tracker with
        inFlight := update s.tracker.inFlight (slot window p.1) false
        inflightCount := s.tracker.inflightCount - 1 }) := by
  obtain ⟨flying, number, time⟩ := sound.held p listed
  simp [Tracker.echo, flying, number, time]

theorem Sound.echo_other {seq : UInt32} (absent : ∀ p ∈ s.outstanding, p.1 ≠ seq) (ns : UInt64) :
    ∃ dups unknowns, (s.tracker.echo seq ns).2 = { s.tracker with dups, unknowns } := by
  cases flying : s.tracker.inFlight (slot window seq) with
  | true =>
    obtain ⟨p, listed, same⟩ := sound.busy _ flying
    have number : s.tracker.seqs (slot window seq) ≠ seq := by
      rw [← same, (sound.held p listed).2.1]
      exact absent p listed
    simp [Tracker.echo, flying, number]
  | false =>
    by_cases again : s.tracker.seqs (slot window seq) = seq ∧ s.tracker.sentNs (slot window seq) ≠ 0
      <;> simp [Tracker.echo, flying, again]

theorem Sound.length_filter {p : UInt32 × UInt64} (listed : p ∈ s.outstanding) :
    (s.outstanding.filter (·.1 ≠ p.1)).length = s.outstanding.length - 1 := by
  have distinct : s.outstanding.Nodup := sound.distinct.of_map _
  rw [← length_erase_of_mem listed, distinct.erase_eq_filter]
  refine congrArg List.length (filter_congr fun q mem => ?_)
  have same : q.1 = p.1 → q = p := fun same => sound.eq_of_slot mem listed (same ▸ rfl)
  by_cases equal : q = p
  · simp [equal]
  · simp [equal, mt same equal]

theorem Sound.echo (seq : UInt32) (ns : UInt64) : Sound (s.step (.echo seq ns)) := by
  by_cases present : ∃ p ∈ s.outstanding, p.1 = seq
  · obtain ⟨p, listed, rfl⟩ := present
    have other : ∀ q ∈ s.outstanding, q.1 ≠ p.1 → slot window q.1 ≠ slot window p.1 :=
      fun q mem apart same => apart (congrArg Prod.fst (sound.eq_of_slot mem listed same))
    simp only [step, sound.echo_eq listed]
    refine ⟨?_, ?_, (filter_sublist.map _).nodup sound.distinct, ?_⟩
    · intro q left
      obtain ⟨mem, apart⟩ := mem_filter.mp left
      simpa [other q mem (by simpa using apart)] using sound.held q mem
    · intro i flying
      by_cases same : i = slot window p.1
      · simp [same] at flying
      · obtain ⟨q, mem, at_i⟩ := sound.busy i (by simpa [same] using flying)
        have apart : q.1 ≠ p.1 := fun equal => same (at_i ▸ congrArg (slot window) equal)
        exact ⟨q, mem_filter.mpr ⟨mem, by simpa using apart⟩, at_i⟩
    · have positive := length_pos_of_mem listed
      rw [sound.length_filter listed, ← sound.counts]
      rw [← sound.counts] at positive
      exact UInt32.toNat_sub_of_le _ _ (UInt32.le_iff_toNat_le.mpr positive)
  · have absent : ∀ p ∈ s.outstanding, p.1 ≠ seq := fun p listed same => present ⟨p, listed, same⟩
    obtain ⟨dups, unknowns, left⟩ := sound.echo_other absent ns
    have all : s.outstanding.filter (·.1 ≠ seq) = s.outstanding :=
      filter_eq_self.mpr (fun p listed => by simpa using absent p listed)
    simp only [step, left, all]
    exact { sound with }

theorem Sound.run (small : window < 2 ^ 32) (events : List Event) :
    Sound (events.foldl step s) := by
  induction events generalizing s with
  | nil => exact sound
  | cons e events ih =>
    cases e with
    | send ns anyway => exact ih (sound.send small ns anyway)
    | echo seq ns => exact ih (sound.echo seq ns)

omit sound in
theorem saturatingSub_toNat (a b : UInt64) :
    (Tracker.saturatingSub a b).toNat = a.toNat - b.toNat := by
  rw [Tracker.saturatingSub]
  split
  next less => exact (Nat.sub_eq_zero_of_le (UInt64.lt_iff_toNat_lt.mp less).le).symm
  next le => exact UInt64.toNat_sub_of_le _ _ (UInt64.not_lt.mp le)

theorem Sound.exact : Exact s where
  measures p listed ns :=
    ⟨_, congrArg Prod.fst (sound.echo_eq listed ns), saturatingSub_toNat ns p.2⟩
  distinct := List.Nodup.of_map (slot window) (by rw [map_map]; exact sound.distinct)
  counts := sound.counts

theorem Sound.benchExact : BenchExact s where
  measures p listed ns bound := by
    rw [Tracker.benchTrackEcho_eq, sound.echo_eq listed]
    rw [← saturatingSub_toNat] at bound ⊢
    exact BitVec.toInt_eq_toNat_of_lt (Nat.mul_lt_mul_of_pos_left bound Nat.two_pos)
  distinct := sound.exact.distinct
  counts := sound.counts

end

theorem Records.bench (records : Records s) : BenchRecords s := by
  intro recent ns
  rw [Tracker.benchTrackSent_eq]
  split
  next => rfl
  next e t refused => cases congrArg Prod.fst refused ▸ records recent ns

theorem BenchRecords.records (records : BenchRecords s) : Records s := by
  intro recent ns
  have recorded := records recent ns
  rw [Tracker.benchTrackSent_eq] at recorded
  split at recorded
  next t accepted => exact congrArg Prod.fst accepted
  next e t _ => exact absurd recorded (by simp [(Error.code_pos e).ne'])

/-! ## When the next number finds its slot free -/

theorem slot_add_ne (divides : window ∣ 2 ^ 32) (seq : UInt32) {d : Nat} (positive : 0 < d)
    (below : d < window) : slot window seq ≠ slot window (seq + UInt32.ofNat d) := by
  intro same
  have values : seq.toNat % window = (seq.toNat + d % 2 ^ 32) % 2 ^ 32 % window := by
    simpa [slot, Fin.ext_iff] using same
  rw [Nat.mod_mod_of_dvd _ divides, Nat.add_mod, Nat.mod_mod_of_dvd _ divides,
    ← Nat.add_mod] at values
  have multiple := (Nat.modEq_iff_dvd' (Nat.le_add_right seq.toNat d)).mp values
  rw [Nat.add_sub_cancel_left] at multiple
  exact (Nat.le_of_dvd positive multiple).not_gt below

theorem Sound.records (sound : Sound s) (divides : window ∣ 2 ^ 32) : Records s := by
  intro recent ns
  cases free : s.tracker.inFlight (slot window s.next) with
  | false => simp [Tracker.sent, free]
  | true =>
    obtain ⟨p, listed, same⟩ := sound.busy _ free
    obtain ⟨d, positive, below, next_eq⟩ := recent p listed
    rw [next_eq] at same
    exact absurd same (slot_add_ne divides p.1 positive below)

theorem drained_round (sound : Sound s) (drained : s.outstanding = []) :
    ((s.step (.send 0 false)).step (.echo s.next 0)).outstanding = [] ∧
      ((s.step (.send 0 false)).step (.echo s.next 0)).next = s.next + 1 := by
  cases free : s.tracker.inFlight (slot window s.next) with
  | true =>
    obtain ⟨p, listed, -⟩ := sound.busy _ free
    simp [drained] at listed
  | false =>
    rw [step_send_free free]
    simp [step, drained]

end

theorem reaches_drained (small : window < 2 ^ 32) (first : UInt32) (n : Nat) :
    ∃ events, (reached window first events).outstanding = [] ∧
      (reached window first events).next = first + UInt32.ofNat n := by
  induction n with
  | zero => exact ⟨[], rfl, by simp [reached, start]⟩
  | succ n ih =>
    obtain ⟨events, drained, next_eq⟩ := ih
    have sound : Sound (reached window first events) := (sound_start first).run small events
    obtain ⟨drained', next_eq'⟩ := drained_round sound drained
    refine ⟨events ++ [.send 0 false, .echo (first + UInt32.ofNat n) 0], ?_⟩
    rw [reached_append, ← next_eq]
    exact ⟨drained', next_eq'.trans (by simp [next_eq, UInt32.add_assoc])⟩

section

variable (s : Course window)

theorem step_send_anyway :
    (s.step (.send 0 true)).next = s.next + 1 ∧
      (∀ p ∈ (s.step (.send 0 true)).outstanding, p ∈ s.outstanding ∨ p.1 = s.next) ∧
      ∀ i, s.tracker.inFlight i = true ∨ i = slot window s.next →
        (s.step (.send 0 true)).tracker.inFlight i = true := by
  cases free : s.tracker.inFlight (slot window s.next) with
  | true =>
    rw [step_send_full free]
    refine ⟨rfl, fun p listed => .inl listed, ?_⟩
    rintro i (flying | rfl)
    exacts [flying, free]
  | false =>
    rw [step_send_free free]
    refine ⟨rfl, ?_, ?_⟩
    · rintro p (_ | ⟨_, listed⟩)
      exacts [.inr rfl, .inl listed]
    · intro i flying
      by_cases same : i = slot window s.next
      · simp [same]
      · simpa [same] using flying

theorem sent_in_a_row (drained : s.outstanding = []) (k : Nat) :
    ((List.replicate k (.send 0 true)).foldl step s).next = s.next + UInt32.ofNat k ∧
      (∀ p ∈ ((List.replicate k (.send 0 true)).foldl step s).outstanding,
        ∃ j < k, p.1 = s.next + UInt32.ofNat j) ∧
      (0 < k → ((List.replicate k (.send 0 true)).foldl step s).tracker.inFlight
        (slot window s.next) = true) := by
  induction k with
  | zero => simp [drained]
  | succ k ih =>
    obtain ⟨next_eq, numbers, flying⟩ := ih
    obtain ⟨next_eq', numbers', flying'⟩ :=
      step_send_anyway ((List.replicate k (.send 0 true)).foldl step s)
    rw [replicate_succ', foldl_append]
    refine ⟨next_eq'.trans (by simp [next_eq, UInt32.add_assoc]), ?_, fun _ => flying' _ ?_⟩
    · intro p listed
      obtain old | number := numbers' p listed
      · obtain ⟨j, below, number⟩ := numbers p old
        exact ⟨j, by omega, number⟩
      · exact ⟨k, by omega, number.trans next_eq⟩
    · cases k with
      | zero => exact .inr rfl
      | succ k => exact .inl (flying k.succ_pos)

end

theorem not_records (small : window < 2 ^ 32) (first : UInt32) (divides : ¬window ∣ 2 ^ 32) :
    ∃ events, ¬Records (reached window first events) := by
  have positive : 0 < 2 ^ 32 % window := Nat.pos_of_ne_zero (mt Nat.dvd_of_mod_eq_zero divides)
  have below : 2 ^ 32 % window < window := Nat.mod_lt _ (Nat.pos_of_neZero window)
  have start_lt : 2 ^ 32 - 2 ^ 32 % window < 2 ^ 32 := Nat.sub_lt (by decide) positive
  generalize remainder : 2 ^ 32 % window = r at *
  -- From here `r` numbers lead up to the wrap, and the first of them has the slot of number 0.
  have last_slot : slot window (UInt32.ofNat (2 ^ 32 - r)) = slot window 0 := by
    have whole : window ∣ 2 ^ 32 - r := remainder ▸ Nat.dvd_sub_mod (2 ^ 32)
    refine Fin.ext ?_
    change (UInt32.ofNat (2 ^ 32 - r)).toNat % window = 0 % window
    rw [UInt32.toNat_ofNat_of_lt' start_lt, Nat.mod_eq_zero_of_dvd whole, Nat.zero_mod]
  have wrap (j : Nat) (within : j ≤ r) :
      0 = UInt32.ofNat (2 ^ 32 - r) + UInt32.ofNat j + UInt32.ofNat (r - j) := by
    rw [← UInt32.ofNat_add, ← UInt32.ofNat_add, show 2 ^ 32 - r + j + (r - j) = 2 ^ 32 by omega]
    rfl
  obtain ⟨events, drained, next_eq⟩ := reaches_drained small first
    (UInt32.ofNat (2 ^ 32 - r) - first).toNat
  rw [UInt32.ofNat_toNat, UInt32.add_comm, UInt32.sub_add_cancel] at next_eq
  obtain ⟨at_wrap, numbers, flying⟩ := sent_in_a_row (reached window first events) drained r
  rw [next_eq] at at_wrap numbers flying
  have zero := (wrap r le_rfl).symm
  rw [Nat.sub_self] at zero
  change UInt32.ofNat (2 ^ 32 - r) + UInt32.ofNat r + 0 = 0 at zero
  rw [UInt32.add_zero] at zero
  refine ⟨events ++ List.replicate r (.send 0 true), fun records => ?_⟩
  rw [reached_append] at records
  have recorded := records ?_ 0
  · rw [at_wrap, zero] at recorded
    have taken := flying positive
    rw [last_slot] at taken
    simp [Tracker.sent, taken] at recorded
  · intro p listed
    obtain ⟨j, within, number⟩ := numbers p listed
    refine ⟨r - j, Nat.sub_pos_of_lt within, (Nat.sub_le r j).trans_lt below, ?_⟩
    rw [at_wrap, zero, number]
    exact wrap j within.le

/-- The echoes are measured and counted for every window. The next number finds its slot free
exactly for the windows that divide the numbers. -/
theorem tracker_exact_iff (window : Nat) [NeZero window] (small : window < 2 ^ 32)
    (first : UInt32) :
    (∀ events, Exact (reached window first events)) ∧
      (∀ events, BenchExact (benchReached window first events)) ∧
      ((∀ events, Records (reached window first events)) ↔ window ∣ 2 ^ 32) ∧
      ((∀ events, BenchRecords (benchReached window first events)) ↔ window ∣ 2 ^ 32) := by
  have sound (events : List Event) : Sound (reached window first events) :=
    (sound_start first).run small events
  have same : benchReached window first = reached window first := by
    funext events
    rw [benchReached, benchStep_eq, reached]
  have records : (∀ events, Records (reached window first events)) ↔ window ∣ 2 ^ 32 := by
    refine ⟨fun records => ?_, fun divides events => (sound events).records divides⟩
    by_contra indivisible
    obtain ⟨events, fails⟩ := not_records small first indivisible
    exact fails (records events)
  rw [same, ← records]
  exact ⟨fun events => (sound events).exact, fun events => (sound events).benchExact, Iff.rfl,
    fun records events => (records events).records, fun records events => (records events).bench⟩

theorem tracker_exact_window_four :
    4 ∣ 2 ^ 32 ∧ ∀ events, Records (reached 4 0xFFFFFFFF events) :=
  ⟨by decide, (tracker_exact_iff 4 (by decide) 0xFFFFFFFF).2.2.1.mpr (by decide)⟩

/-- A window of three, and the numbers wrap around: the number before the next is the only one
outstanding, and it has the slot of the next. -/
theorem wrap_finds_slot_taken :
    (reached 3 0xFFFFFFFF [.send 1 false]).outstanding = [(0xFFFFFFFF, 1)] ∧
      (reached 3 0xFFFFFFFF [.send 1 false]).next = 0 ∧
      ((reached 3 0xFFFFFFFF [.send 1 false]).tracker.sent 0 2).1 = .error .full ∧
      ((benchReached 3 0xFFFFFFFF [.send 1 false]).tracker.benchTrackSent 0 2).1 = -9 := by
  refine ⟨by decide, by decide, rfl, rfl⟩

end Course

end Urp.Bench
