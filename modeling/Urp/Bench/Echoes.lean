import Urp.Bench.Session

/-!
# What two ends have on the way

An original waits in the queue of its sender, its echo in the queue of the peer. Both queues keep
their order, so the echoes on the way back and then the originals on the way out are all that an
end has in flight, the oldest first.
-/

namespace Urp.Bench

open Urp.Lib List

variable {a b c d : Config}

/-- An original, apart from what its sender gives every one. -/
structure Ticket where
  fin : Bool
  seq : UInt32
  time : UInt64

def Ticket.msg (c : Config) (t : Ticket) : Msg := original c t.fin t.seq t.time

def Ticket.key (t : Ticket) : UInt32 × UInt64 := (t.seq, t.time)

inductive Item where
  | original (t : Ticket)
  | echo (t : Ticket)

namespace Item

/-- The message from an end with `c` to one with `d`. -/
def msg (c d : Config) : Item → Msg
  | original t => t.msg c
  | echo t => (t.msg d).echo

def original? : Item → Option Ticket
  | original t => some t
  | echo _ => none

def echo? : Item → Option Ticket
  | original _ => none
  | echo t => some t

end Item

/-- An end `s` with the echoes that come back to it and the originals it has on the way; the peer
saw its last one or not (`seen`). -/
structure Belt (s : Shell c) (seen : Bool) (back out : List Ticket) : Prop where
  course : Course.Sound ⟨s.tracker, s.nextSeq, (back ++ out).map Ticket.key⟩
  fins : ∃ n, (back ++ out).map Ticket.fin =
    replicate n false ++ if s.ownFinSent && !s.ownFinEchoed then [true] else []
  number : ∀ t ∈ back ++ out, t.fin = true → t.seq = s.ownFinSeq
  echoed : s.ownFinEchoed = true → s.ownFinSent = true ∧ back ++ out = []
  seen : seen = true ↔ s.ownFinSent = true ∧ out = []

theorem Course.Sound.perm {window : Nat} [NeZero window] {t : Tracker window} {next : UInt32}
    {l l' : List (UInt32 × UInt64)} (sound : Course.Sound ⟨t, next, l⟩) (same : l ~ l') :
    Course.Sound ⟨t, next, l'⟩ where
  held p listed := sound.held p (same.mem_iff.mpr listed)
  busy i flying := by
    obtain ⟨p, listed, at_i⟩ := sound.busy i flying
    exact ⟨p, same.mem_iff.mp listed, at_i⟩
  distinct := (same.map _).nodup_iff.mp sound.distinct
  counts := sound.counts.trans same.length_eq

/-- The echo of the oldest that is outstanding. -/
theorem Course.Sound.echo_head {window : Nat} [NeZero window] {t : Tracker window} {next : UInt32}
    {p : UInt32 × UInt64} {l : List (UInt32 × UInt64)} (sound : Course.Sound ⟨t, next, p :: l⟩)
    (ns : UInt64) : ∃ rtt t', t.echo p.1 ns = (.ok rtt, t') ∧ Course.Sound ⟨t', next, l⟩ := by
  have answered := sound.echo_eq mem_cons_self ns
  have rest : (p :: l).filter (·.1 ≠ p.1) = l := by
    have shorter := sound.length_filter mem_cons_self
    rw [filter_cons_of_neg (by simp)] at shorter ⊢
    exact filter_sublist.eq_of_length shorter
  have left := sound.echo p.1 ns
  simp only [Course.step, rest] at left
  exact ⟨_, _, answered, by rwa [answered] at left⟩

/-- A last `true` after any number of `false`. -/
theorem eq_true_iff_last {last : Bool} {n : Nat} {xs ys : List Bool} {y : Bool}
    (shape : xs ++ y :: ys = replicate n false ++ if last then [true] else []) :
    y = true ↔ last = true ∧ ys = [] := by
  induction n generalizing xs with
  | zero =>
    cases last with
    | false => simp at shape
    | true => rcases append_eq_singleton_iff.mp shape with ⟨-, rest⟩ | ⟨-, rest⟩ <;> simp_all
  | succ n ih =>
    cases xs with
    | nil =>
      obtain ⟨rfl, rfl⟩ := cons.inj shape
      cases last <;> simp
    | cons x xs => exact ih (cons.inj shape).2

/-- Both ends were started alike. -/
def Alike (a b : Config) : Prop := a.verify = b.verify ∧ a.msgSize = b.msgSize

/-- The payload of an original passes the check of its own end and of the peer. -/
theorem Ticket.checked (same : d.verify = c.verify) (t : Ticket) :
    (if c.verify = .full then
      verifyPayload (t.msg d).payload (t.msg d).hdr.originId (t.msg d).hdr.seq
    else .ok ()) = .ok () := by
  split
  next full =>
    simp only [msg, original, same, full, if_true]
    exact verifyPayload_fillPayload _ _ _
  next => rfl

theorem Ticket.flags (c : Config) (t : Ticket) :
    (t.msg c).hdr.flags &&& flagEcho = 0 ∧ (t.msg c).echo.hdr.flags &&& flagEcho ≠ 0 ∧
      Shell.isFin (t.msg c).hdr = t.fin ∧ Shell.isFin (t.msg c).echo.hdr = t.fin := by
  change (if t.fin then flagFin else 0) &&& flagEcho = 0 ∧
    ((if t.fin then flagFin else 0) ||| flagEcho) &&& flagEcho ≠ 0 ∧
    decide ((if t.fin then flagFin else 0) &&& flagFin ≠ 0) = t.fin ∧
    decide (((if t.fin then flagFin else 0) ||| flagEcho) &&& flagFin ≠ 0) = t.fin
  cases t.fin <;> decide

/-- The deframer of an end takes the payloads of the end itself. -/
theorem Config.le_payloadCap (c : Config) :
    c.msgSize - UInt32.ofNat hdrSize ≤ Hdr.payloadCap (c.msgSize - UInt32.ofNat hdrSize) := by
  have least : UInt32.ofNat hdrSize ≤ c.msgSize := UInt32.le_iff_toNat_le.mpr c.sized.1
  unfold Hdr.payloadCap
  split
  · exact UInt32.le_refl _
  · rw [UInt32.le_iff_toNat_le, UInt32.toNat_sub_of_le _ _ least]
    exact Nat.sub_le_iff_le_add'.mpr c.sized.2

/-- The deframer of an end with messages of the same size refuses none. -/
theorem Ticket.received (same : d.msgSize = c.msgSize) (t : Ticket) (s : Shell c) (now : UInt64) :
    s.receive now (t.msg d) = s.classifyMsg now (t.msg d) ∧
      s.receive now (t.msg d).echo = s.classifyMsg now (t.msg d).echo := by
  have short : ¬Hdr.payloadCap (c.msgSize - UInt32.ofNat hdrSize) < (t.msg d).hdr.payloadLen := by
    simp only [msg, original, same]
    split
    · exact UInt32.not_lt.mpr UInt32.zero_le
    · exact UInt32.not_lt.mpr c.le_payloadCap
  have known : (t.msg d).hdr.flags &&& ~~~flagMask = 0 ∧
      (t.msg d).echo.hdr.flags &&& ~~~flagMask = 0 := by
    change (if t.fin then flagFin else 0) &&& ~~~flagMask = 0 ∧
      ((if t.fin then flagFin else 0) ||| flagEcho) &&& ~~~flagMask = 0
    cases t.fin <;> decide
  have passes (m : Msg) (magic : m.hdr.magic = magic) (version : m.hdr.version = version)
      (flags : m.hdr.flags &&& ~~~flagMask = 0)
      (len : ¬Hdr.payloadCap (c.msgSize - UInt32.ofNat hdrSize) < m.hdr.payloadLen) :
      s.receive now m = s.classifyMsg now m := by
    simp only [Shell.receive, magic, version, flags, len, ne_eq, not_true_eq_false, if_false]
  exact ⟨passes _ rfl rfl known.1 short, passes _ rfl rfl known.2 short⟩

variable {now : UInt64}

namespace Belt

variable {s s' : Shell c} {seen : Bool} {back out : List Ticket} {t : Ticket}

/-- The peer takes an original and echoes it. -/
theorem bounce (belt : Belt s seen back (t :: out)) :
    Belt s (seen || t.fin) (back ++ [t]) out := by
  have unseen : seen = false := by simpa using belt.seen.not
  have waits : s.ownFinEchoed = false := by simpa using fun echoed => (belt.echoed echoed).2
  obtain ⟨n, fins⟩ := belt.fins
  have same : back ++ [t] ++ out = back ++ t :: out := by simp
  have shape := fins
  rw [map_append, map_cons] at shape
  have last := eq_true_iff_last shape
  rw [map_eq_nil_iff, waits, Bool.not_false, Bool.and_true] at last
  exact ⟨same ▸ belt.course, ⟨n, same ▸ fins⟩, same ▸ belt.number, same ▸ belt.echoed,
    by simpa [unseen] using last⟩

theorem send {m : Msg} {fin : Bool} (belt : Belt s seen back out)
    (more : s.ownFinSent = false) (sent : s.nextOriginal now fin = some (m, s')) :
    Belt s' seen back (out ++ [⟨fin, s.nextSeq, now⟩]) ∧
      m = Ticket.msg c ⟨fin, s.nextSeq, now⟩ ∧ s'.peerFinSeen = s.peerFinSeen := by
  have waits : s.ownFinEchoed = false := by
    simpa [more] using fun echoed => (belt.echoed echoed).1
  obtain ⟨n, fins⟩ := belt.fins
  have unseen : seen = false := by simpa [more] using belt.seen.not
  have course := belt.course.send (Nat.lt_of_le_of_lt c.windowed.2 (by decide)) now false
  have none_fin : ∀ t ∈ back ++ out, t.fin = false := by
    intro t listed
    have flag := mem_map_of_mem (f := Ticket.fin) listed
    rw [fins, more] at flag
    exact (by simpa using flag : n ≠ 0 ∧ t.fin = false).2
  unfold Shell.nextOriginal at sent
  split at sent
  next => cases sent
  next u tracker recorded =>
    obtain ⟨rfl, rfl⟩ := Prod.mk.inj (Option.some.inj sent)
    simp only [Course.step, recorded] at course
    refine ⟨⟨?_, ⟨if fin then n else n + 1, ?_⟩, ?_, by simp [waits], by simp [unseen]⟩, rfl, rfl⟩
    · rw [← append_assoc, map_append]
      exact course.perm (perm_append_singleton _ _).symm
    · rw [← append_assoc, map_append, fins]
      cases fin <;> simp [more, waits, replicate_succ']
    · intro t listed flag
      rw [← append_assoc, mem_append, mem_singleton] at listed
      rcases listed with listed | rfl
      · simp [none_fin t listed] at flag
      · simp only at flag
        simp [flag]

theorem returns (belt : Belt s seen (t :: back) out) (now : UInt64) :
    ∃ rtt tracker, s.classifyMsg now (t.msg c).echo =
        .ok (s.measured (t.msg c).echo.hdr rtt tracker, false) ∧
      Belt (s.measured (t.msg c).echo.hdr rtt tracker) seen back out := by
  obtain ⟨rtt, tracker, answered, course⟩ := belt.course.echo_head now
  have waits : s.ownFinEchoed = false := by simpa using fun echoed => (belt.echoed echoed).2
  obtain ⟨n, fins⟩ := belt.fins
  have shape : [] ++ t.fin :: (back ++ out).map Ticket.fin = _ := fins
  have last := eq_true_iff_last shape
  rw [map_eq_nil_iff, waits, Bool.not_false, Bool.and_true] at last
  obtain ⟨-, isEcho, -, isFin⟩ := t.flags c
  -- Only the last original can be the one whose number is checked.
  have echoed : (s.measured (t.msg c).echo.hdr rtt tracker).ownFinEchoed = t.fin := by
    simp only [Shell.measured, isFin, waits, Bool.false_or]
    cases fin : t.fin with
    | false => rfl
    | true =>
      have number : (t.msg c).echo.hdr.seq = s.ownFinSeq := belt.number t mem_cons_self fin
      simp [(last.mp fin).1, number]
  refine ⟨rtt, tracker, ?_, ⟨course, ?_, fun j listed => belt.number j (mem_cons_of_mem _ listed),
    fun fin => ?_, belt.seen⟩⟩
  · have recorded : s.tracker.echo (t.msg c).echo.hdr.seq now = (.ok rtt, tracker) := answered
    simp only [Shell.classifyMsg, if_pos isEcho, recorded]
    exact congrArg (Except.map fun _ => _) (t.checked rfl)
  · rw [echoed]
    cases fin : t.fin with
    | true => exact ⟨0, by simpa using (last.mp fin).2⟩
    | false =>
      cases n with
      | zero => split at fins <;> simp [fin] at fins
      | succ n => exact ⟨n, by simpa [waits, Shell.measured] using (cons.inj fins).2⟩
  · rw [echoed] at fin
    exact last.mp fin

end Belt

/-! ## Both ends -/

namespace Session

/-- The end finds that its hard deadline has passed. -/
def Move.late (deadlineNs : UInt64) : Move → Bool
  | .timeout nowNs => deadlineNs < nowNs
  | _ => false

/-- An end with the messages `mine` on the way to its peer, and `yours` on the way back. -/
structure Half (x : Side a) (z : Shell b) (mine yours : List Item) : Prop where
  belt : Belt x.shell z.peerFinSeen (yours.filterMap Item.echo?) (mine.filterMap Item.original?)
  out : x.out = mine.map (Item.msg a b)
  alive : x.failed = false
  finished : x.left = true → x.shell.ownFinEchoed = true ∧ x.shell.peerFinSeen = true

structure Sound (w : World a b) (mine yours : List Item) : Prop where
  here : Half w.here w.there.shell mine yours
  there : Half w.there w.here.shell yours mine

namespace Sound

variable {w w' : World a b} {mine yours : List Item} {deadlineNs : UInt64}

theorem swap (sound : Sound w mine yours) : Sound w.swap yours mine := ⟨sound.there, sound.here⟩

theorem start : Sound (start a b) [] [] := by
  have half (a b : Config) : Half (Session.start a b).here (.new b) [] [] :=
    ⟨⟨Course.sound_start 0, ⟨0, rfl⟩, by simp, by simp [Session.start, Shell.new],
      by simp [Session.start, Shell.new]⟩, rfl, rfl, by simp [Session.start]⟩
  exact ⟨half a b, half b a⟩

/-- An end leaves when all that was meant for it has come. -/
theorem of_left (sound : Sound w mine yours) (left : w.here.left = true) :
    yours = [] ∧ mine.filterMap Item.original? = [] := by
  obtain ⟨echoed, seen⟩ := sound.here.finished left
  obtain ⟨echoes, originals⟩ := append_eq_nil_iff.mp (sound.here.belt.echoed echoed).2
  have none_new := (sound.there.belt.seen.mp seen).2
  refine ⟨?_, originals⟩
  cases yours with
  | nil => rfl
  | cons i yours =>
    cases i with
    | original t => simp [Item.original?] at none_new
    | echo t => simp [Item.echo?] at echoes

/-- With nothing on the way the last original of an end is echoed. -/
theorem echoed_of_nil (sound : Sound w [] []) (sent : w.here.shell.ownFinSent = true) :
    w.here.shell.ownFinEchoed = true := by
  obtain ⟨n, fins⟩ := sound.here.belt.fins
  cases echoed : w.here.shell.ownFinEchoed with
  | true => rfl
  | false => simp [sent, echoed] at fins

theorem send (sound : Sound w mine yours) (stays : w.here.left = false)
    {expired fin : Bool} (moved : move deadlineNs w (.send now expired fin) = some w') :
    ∃ mine', Sound w' mine' yours := by
  obtain ⟨planned, moved⟩ := Option.ite_none_right_eq_some.mp moved
  obtain ⟨⟨m, shell⟩, sent, rfl⟩ := Option.map_eq_some_iff.mp moved
  have more : w.here.shell.ownFinSent = false := by
    cases last : w.here.shell.ownFinSent with
    | false => rfl
    | true => cases fin <;> simp [Shell.plan, last] at planned
  have present : w.there.left = false := by
    cases left : w.there.left with
    | false => rfl
    | true =>
      have seen := (sound.here.belt.seen.mp (sound.there.finished left).2).1
      cases more.symm.trans seen
  obtain ⟨belt, rfl, seen⟩ := sound.here.belt.send more sent
  simp only [Side.queue, present, Bool.false_eq_true, if_false]
  refine ⟨mine ++ [.original ⟨fin, w.here.shell.nextSeq, now⟩],
    ⟨?_, ?_, sound.here.alive, by simp [stays]⟩,
    ⟨?_, sound.there.out, sound.there.alive, sound.there.finished⟩⟩
  · rw [filterMap_append]
    exact belt
  · rw [sound.here.out, map_append]
    rfl
  · rw [seen, filterMap_append]
    exact (append_nil (mine.filterMap Item.echo?)).symm ▸ sound.there.belt

theorem read (alike : Alike a b) (sound : Sound w mine yours)
    (stays : w.here.left = false) (moved : move deadlineNs w (.read now) = some w') :
    ∃ mine' yours', Sound w' mine' yours' := by
  obtain ⟨here, there⟩ := sound
  have out := there.out
  cases yours with
  | nil => simp [move, show w.there.out = [] from out] at moved
  | cons i yours =>
    simp only [move, out, map_cons] at moved
    cases i with
    | echo t =>
      obtain ⟨rtt, tracker, classified, belt⟩ := Belt.returns here.belt now
      have taken : w.here.shell.receive now ((Item.echo t).msg b a) = _ :=
        (t.received rfl _ now).2.trans classified
      rw [taken] at moved
      simp only [Bool.false_eq_true, if_false] at moved
      cases moved
      exact ⟨mine, yours, ⟨belt, here.out, here.alive, by simp [stays]⟩,
        ⟨there.belt, rfl, there.alive, there.finished⟩⟩
    | original t =>
      obtain ⟨isOriginal, -, isFin, -⟩ := t.flags b
      have present : w.there.left = false := by
        cases left : w.there.left with
        | false => rfl
        | true => cases (swap ⟨here, there⟩ |>.of_left left).2
      have classified : w.here.shell.classifyMsg now (t.msg b) =
          .ok (w.here.shell.noticed (t.msg b).hdr, true) := by
        simp only [Shell.classifyMsg, if_neg (not_not.mpr isOriginal)]
        exact congrArg (Except.map fun _ => _) (t.checked alike.1.symm)
      have taken : w.here.shell.receive now ((Item.original t).msg b a) = _ :=
        (t.received alike.2.symm _ now).1.trans classified
      rw [taken] at moved
      simp only [Side.queue, present, Bool.false_eq_true, if_false, if_true] at moved
      cases moved
      obtain ⟨course, fins, number, echoed, seen⟩ := here.belt
      refine ⟨mine ++ [.echo t], yours, ⟨?_, ?_, here.alive, by simp [stays]⟩,
        ⟨?_, rfl, there.alive, by simp⟩⟩
      · rw [filterMap_append, show [Item.echo t].filterMap Item.original? = [] from rfl, append_nil]
        exact ⟨course, fins, number, echoed, seen⟩
      · rw [here.out, map_append]
        rfl
      · have bounced := Belt.bounce there.belt
        rw [filterMap_append, Shell.noticed, isFin]
        exact bounced

theorem eof (sound : Sound w mine yours) (moved : move deadlineNs w .eof = some w') :
    Sound w' mine yours := by
  obtain ⟨⟨left, out⟩, rfl⟩ := guarded moved
  obtain ⟨echoed, seen⟩ := sound.there.finished left
  rw [sound.there.out, map_eq_nil_iff] at out
  obtain ⟨rfl, -⟩ := sound.swap.of_left left
  subst out
  have own := sound.echoed_of_nil (sound.here.belt.seen.mp seen).1
  have peer := sound.there.belt.seen.mpr ⟨(sound.there.belt.echoed echoed).1, rfl⟩
  exact ⟨⟨sound.here.belt, sound.here.out, by simp [own, peer], fun _ => ⟨own, peer⟩⟩, sound.there⟩

theorem leave (sound : Sound w mine yours) (moved : move deadlineNs w .leave = some w') :
    Sound w' mine yours := by
  obtain ⟨done, rfl⟩ := guarded moved
  simp only [Shell.doneCore, Bool.and_eq_true] at done
  exact ⟨⟨sound.here.belt, sound.here.out, sound.here.alive, fun _ => done.1⟩, sound.there⟩

theorem act (alike : Alike a b) (sound : Sound w mine yours) {e : Move}
    (inTime : e.late deadlineNs = false) (moved : act deadlineNs w e = some w') :
    ∃ mine' yours', Sound w' mine' yours' := by
  obtain ⟨stays, moved⟩ := Option.ite_none_left_eq_some.mp moved
  have stays : w.here.left = false := by simpa using stays
  cases e with
  | send now expired fin =>
    obtain ⟨mine', sound'⟩ := sound.send stays moved
    exact ⟨mine', yours, sound'⟩
  | read now => exact sound.read alike stays moved
  | eof => exact ⟨mine, yours, sound.eof moved⟩
  | leave => exact ⟨mine, yours, sound.leave moved⟩
  | timeout now => exact absurd (guarded moved).1 (of_decide_eq_false inTime)

variable {startNs : Role → UInt64}

theorem step (alike : Alike a b) (sound : Sound w mine yours) {e : Role × Move}
    (inTime : e.2.late (deadline a b startNs e.1) = false) (moved : step startNs w e = some w') :
    ∃ mine' yours', Sound w' mine' yours' := by
  obtain ⟨role, e⟩ := e
  cases role with
  | listen => exact sound.act alike inTime moved
  | connect =>
    obtain ⟨v, turned, rfl⟩ := Option.map_eq_some_iff.mp moved
    obtain ⟨mine', yours', sound'⟩ := sound.swap.act ⟨alike.1.symm, alike.2.symm⟩ inTime turned
    exact ⟨yours', mine', sound'.swap⟩

theorem run (alike : Alike a b) {events : List (Role × Move)}
    (inTime : ∀ e ∈ events, e.2.late (deadline a b startNs e.1) = false)
    (reached : run (Session.step startNs) (Session.start a b) events = some w) :
    ∃ mine yours, Sound w mine yours := by
  refine run_preserves (P := fun w => ∃ mine yours, Sound w mine yours) ?_ ⟨[], [], start⟩
    (along_of_forall (fun _ => inTime) _) reached
  rintro w e w' ⟨mine, yours, sound⟩ inTime moved
  exact sound.step alike inTime moved

end Sound

/-! ## What a session comes to -/

/-- What an end knows that left: its last original came back and that of the peer came, with nothing
in flight. -/
def Complete (s : Shell a) : Prop :=
  s.ownFinEchoed = true ∧ s.peerFinSeen = true ∧ s.tracker.inflightCount = 0

theorem Sound.complete {w : World a b} {mine yours : List Item} (sound : Sound w mine yours)
    (left : w.here.left = true) : Complete w.here.shell := by
  obtain ⟨rfl, originals⟩ := sound.of_left left
  obtain ⟨echoed, seen⟩ := sound.here.finished left
  have idle := sound.here.belt.course.counts
  rw [originals] at idle
  exact ⟨echoed, seen, UInt32.toNat_inj.mp idle⟩

/-- Until one of them is at its hard deadline, neither of two ends that were started alike fails,
and one that left has seen everything. -/
theorem no_end_fails (a b : Config) (alike : Alike a b) (startNs : Role → UInt64)
    (events : List (Role × Move))
    (inTime : ∀ e ∈ events, e.2.late (deadline a b startNs e.1) = false)
    (w : World a b) (reached : run (step startNs) (start a b) events = some w) :
    w.here.failed = false ∧ w.there.failed = false ∧
      (w.here.left = true → Complete w.here.shell) ∧
      (w.there.left = true → Complete w.there.shell) := by
  obtain ⟨mine, yours, sound⟩ := Sound.run alike inTime reached
  exact ⟨sound.here.alive, sound.there.alive, sound.complete, sound.swap.complete⟩

/-- One original and the last one, with payloads of eight bytes that are checked. -/
def oneEach (id : UInt16) : Config := ⟨id, .full, 32, 1, 1, 0, by decide, by decide, by decide⟩

def exchange : List (Role × Move) :=
  [.send 1 false false, .read 2, .read 3, .send 4 false true, .read 5, .read 6, .leave].flatMap
    fun e => [(.listen, e), (.connect, e)]

theorem exchange_complete : ∃ w : World (oneEach 1) (oneEach 2),
    run (step fun _ => 0) (start _ _) exchange = some w ∧ w.here.left = true ∧
      Complete w.here.shell := by
  obtain ⟨w, reached, left⟩ : ∃ w : World (oneEach 1) (oneEach 2),
    run (step fun _ => 0) (start _ _) exchange = some w ∧ w.here.left = true := by decide +kernel
  exact ⟨w, reached, left, (no_end_fails (oneEach 1) (oneEach 2) ⟨rfl, rfl⟩ (fun _ => 0) exchange
    (by decide) w reached).2.2.1 left⟩

end Session

end Urp.Bench
