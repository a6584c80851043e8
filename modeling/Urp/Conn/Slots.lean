import Urp.Endpoint.Qps
import Urp.Lib.Flags

/-!
# The counters of the queue pairs

Beside the flags of each queue pair the endpoint counts how many are established and how many
slots are held.
-/

namespace Urp.Qps

open Urp.Lib Bool
open Function (update update_of_ne update_self)

def up (q : Qps) (i : Nat) : Bool := (q.qp i).established

def held (q : Qps) (i : Nat) : Bool := (q.qp i).acceptSlotHeld

structure SameSlots (q q' : Qps) : Prop where
  numQps : q'.numQps = q.numQps
  qpsAccepted : q'.qpsAccepted = q.qpsAccepted
  held : ∀ k, q'.held k = q.held k

structure SameUp (q q' : Qps) : Prop where
  numQps : q'.numQps = q.numQps
  qpsConnected : q'.qpsConnected = q.qpsConnected
  connected : q'.connected = q.connected
  up : ∀ k, q'.up k = q.up k

structure SameBut (i : Nat) (q q' : Qps) : Prop where
  numQps : q'.numQps = q.numQps
  qp : ∀ k ≠ i, q'.qp k = q.qp k

theorem SameSlots.refl (q : Qps) : SameSlots q q := ⟨rfl, rfl, fun _ => rfl⟩

theorem SameUp.refl (q : Qps) : SameUp q q := ⟨rfl, rfl, rfl, fun _ => rfl⟩

theorem SameBut.refl (i : Nat) (q : Qps) : SameBut i q q := ⟨rfl, fun _ _ => rfl⟩

variable {q q' q'' : Qps}

theorem SameBut.trans {i : Nat} (first : SameBut i q q')
    (second : SameBut i q' q'') : SameBut i q q'' where
  numQps := second.numQps.trans first.numQps
  qp k other := (second.qp k other).trans (first.qp k other)

theorem SameSlots.trans (first : SameSlots q q') (second : SameSlots q' q'') : SameSlots q q'' where
  numQps := second.numQps.trans first.numQps
  qpsAccepted := second.qpsAccepted.trans first.qpsAccepted
  held k := (second.held k).trans (first.held k)

theorem SameUp.trans (first : SameUp q q') (second : SameUp q' q'') : SameUp q q'' where
  numQps := second.numQps.trans first.numQps
  qpsConnected := second.qpsConnected.trans first.qpsConnected
  connected := second.connected.trans first.connected
  up k := (second.up k).trans (first.up k)

theorem SameUp.symm (same : SameUp q q') : SameUp q' q where
  numQps := same.numQps.symm
  qpsConnected := same.qpsConnected.symm
  connected := same.connected.symm
  up k := (same.up k).symm

section Operations

variable (q : Qps) (i maxAttempts : Nat)

theorem qp_modify (f : Qp → Qp) : (q.modify i f).qp = update q.qp i (f (q.qp i)) := rfl

theorem qp_demote : (q.demote i).qp = update q.qp i { q.qp i with established := false } := rfl

theorem qp_releaseSlot :
    (q.releaseSlot i).qp = update q.qp i { q.qp i with acceptSlotHeld := false } := rfl

theorem qp_claim (c : Capabilities) : (q.claim i c).qp = update q.qp i
      { q.qp i with
        cmId := true
        qp := true
        acceptSlotHeld := true
        peerSupportsWindow := c.window
        peerSupportsTstamp := c.tstamp } := rfl

theorem update_keeps {β : Type} (field : Qp → β) {qp : Qp} (keeps : field qp = field (q.qp i))
    (k : Nat) : field (update q.qp i qp k) = field (q.qp k) := by
  by_cases self : k = i
  · rw [self, update_self, keeps]
  · rw [update_of_ne self]

theorem SameSlots.modify {f : Qp → Qp}
    (keeps : (f (q.qp i)).acceptSlotHeld = (q.qp i).acceptSlotHeld) : SameSlots q (q.modify i f) :=
  ⟨rfl, rfl, fun k => q.update_keeps i Qp.acceptSlotHeld keeps k⟩

theorem SameUp.modify {f : Qp → Qp} (keeps : (f (q.qp i)).established = (q.qp i).established) :
    SameUp q (q.modify i f) :=
  ⟨rfl, rfl, rfl, fun k => q.update_keeps i Qp.established keeps k⟩

theorem SameBut.update {q q' : Qps} {i : Nat} {qp : Qp} (numQps : q'.numQps = q.numQps)
    (updated : q'.qp = update q.qp i qp) : SameBut i q q' := by
  refine ⟨numQps, fun k other => ?_⟩
  rw [updated, update_of_ne other]

theorem sameBut_demoteEstablished : SameBut i q (q.demoteEstablished i) := by
  unfold demoteEstablished
  split
  · exact .update rfl (q.qp_demote i)
  · exact .refl i q

theorem sameBut_retryConnect : SameBut i q (q.retryConnect i maxAttempts) := by
  unfold retryConnect
  split
  · exact .update rfl (q.qp_modify i _)
  · exact ⟨rfl, fun _ _ => rfl⟩

theorem sameBut_down : SameBut i q (q.down i maxAttempts) := by
  unfold down
  split
  · refine SameBut.trans ?_ (sameBut_retryConnect _ i maxAttempts)
    split
    · exact (q.sameBut_demoteEstablished i).trans (.update rfl (qp_releaseSlot _ i))
    · exact q.sameBut_demoteEstablished i
  · exact ⟨rfl, fun _ _ => rfl⟩

theorem sameBut_missed : SameBut i q (q.missed i maxAttempts) := by
  unfold missed
  split
  · have draining : SameBut i q (q.modify i fun qp => { qp with health := .draining }) :=
      .update rfl (q.qp_modify i _)
    dsimp only
    split
    · refine SameBut.trans (draining.trans ?_) (sameBut_retryConnect _ i maxAttempts)
      exact .update rfl (qp_demote _ i)
    · exact draining
  · exact .refl i q

theorem sameBut_releaseStale : SameBut i q (q.releaseStale i) := by
  unfold releaseStale
  split
  · exact (q.sameBut_demoteEstablished i).trans (.update rfl (qp_releaseSlot _ i))
  · exact .refl i q

theorem sameBut_teardownStale : SameBut i q (q.teardownStale i) := by
  unfold teardownStale
  split
  · exact .update rfl (q.qp_modify i _)
  · exact .refl i q

theorem sameBut_retry (dialed : Bool) : SameBut i q (q.retry i maxAttempts dialed) := by
  refine SameBut.trans (.update rfl (q.qp_modify i _) : SameBut i q (q.hardTeardown i)) ?_
  unfold retry
  split
  · exact .update rfl (qp_modify _ i _)
  · exact sameBut_retryConnect _ i maxAttempts

theorem sameBut_acceptOne {i : Nat} {peerIndex : Option Nat}
    (decided : q.slotDecide peerIndex = some i) (c : Capabilities) (a : Accepting) :
    SameBut i q (q.acceptOne peerIndex c a) := by
  have torn := (q.sameBut_releaseStale i).trans (sameBut_teardownStale _ i)
  unfold acceptOne
  rw [decided]
  cases a with
  | unshared => exact q.sameBut_releaseStale i
  | uncreated => exact torn
  | accepted => exact torn.trans (.update rfl (qp_claim _ i c))

theorem sameSlots_demote : SameSlots q (q.demote i) := by
  refine ⟨rfl, rfl, fun k => ?_⟩
  rw [held, qp_demote]
  refine q.update_keeps i Qp.acceptSlotHeld ?_ k
  rfl

theorem sameSlots_demoteEstablished : SameSlots q (q.demoteEstablished i) := by
  unfold demoteEstablished
  split
  · exact q.sameSlots_demote i
  · exact SameSlots.refl q

theorem sameSlots_hardTeardown : SameSlots q (q.hardTeardown i) := SameSlots.modify q i rfl

theorem sameSlots_teardownStale : SameSlots q (q.teardownStale i) := by
  unfold teardownStale
  split
  · exact q.sameSlots_hardTeardown i
  · exact SameSlots.refl q

theorem sameSlots_retryConnect : SameSlots q (q.retryConnect i maxAttempts) := by
  unfold retryConnect
  split
  · exact SameSlots.modify q i rfl
  · exact ⟨rfl, rfl, fun _ => rfl⟩

theorem sameSlots_latch (c : Capabilities) : SameSlots q (q.latch i c) := by
  unfold latch
  split
  · exact ⟨rfl, rfl, fun _ => rfl⟩
  · exact SameSlots.refl q

theorem sameSlots_established (c : Capabilities) : SameSlots q (q.established i c) := by
  unfold established
  split
  · refine SameSlots.trans ?_ (sameSlots_latch _ i c)
    exact (SameSlots.modify q i (f := q.establish c) rfl).trans ⟨rfl, rfl, fun _ => rfl⟩
  · exact SameSlots.refl q

theorem sameSlots_missed : SameSlots q (q.missed i maxAttempts) := by
  unfold missed
  split
  · have draining := SameSlots.modify q i (f := fun qp => { qp with health := .draining }) rfl
    dsimp only
    split
    · exact draining.trans ((sameSlots_demote _ i).trans (sameSlots_retryConnect _ i maxAttempts))
    · exact draining
  · exact SameSlots.refl q

theorem sameSlots_retry (dialed : Bool) : SameSlots q (q.retry i maxAttempts dialed) := by
  refine (q.sameSlots_hardTeardown i).trans ?_
  unfold retry
  split
  · exact SameSlots.modify _ i rfl
  · exact sameSlots_retryConnect _ i maxAttempts

theorem sameUp_releaseSlot : SameUp q (q.releaseSlot i) := by
  refine ⟨rfl, rfl, rfl, fun k => ?_⟩
  rw [up, qp_releaseSlot]
  refine q.update_keeps i Qp.established ?_ k
  rfl

theorem sameUp_retryConnect : SameUp q (q.retryConnect i maxAttempts) := by
  unfold retryConnect
  split
  · exact SameUp.modify q i rfl
  · exact ⟨rfl, rfl, rfl, fun _ => rfl⟩

theorem sameUp_claim (c : Capabilities) : SameUp q (q.claim i c) := by
  refine ⟨rfl, rfl, rfl, fun k => ?_⟩
  rw [up, qp_claim]
  refine q.update_keeps i Qp.established ?_ k
  rfl

theorem sameUp_hardTeardown {q : Qps} {i : Nat} (down : q.up i = false) :
    SameUp q (q.hardTeardown i) := SameUp.modify q i down.symm

end Operations

/-! ## The held slots -/

structure Slots (q : Qps) : Prop where
  word : q.numQps < 2 ^ 32
  accepted : q.qpsAccepted = raised q.held q.numQps

section Held

variable {q q' : Qps} {i : Nat}

theorem Slots.congr (slots : q.Slots) (same : SameSlots q q') : q'.Slots where
  word := by
    rw [same.numQps]
    exact slots.word
  accepted := by
    rw [same.qpsAccepted, slots.accepted, same.numQps]
    exact (raised_congr fun k _ => same.held k).symm

theorem held_releaseSlot_self (q : Qps) (i : Nat) : (q.releaseSlot i).held i = false := by
  rw [held, qp_releaseSlot, update_self]

theorem held_releaseSlot_of_ne {k : Nat} (other : k ≠ i) : (q.releaseSlot i).held k = q.held k := by
  rw [held, qp_releaseSlot, update_of_ne other, held]

theorem held_claim_self (q : Qps) (i : Nat) (c : Capabilities) : (q.claim i c).held i = true := by
  rw [held, qp_claim, update_self]

theorem held_claim_of_ne {k : Nat} (other : k ≠ i) (c : Capabilities) :
    (q.claim i c).held k = q.held k := by
  rw [held, qp_claim, update_of_ne other, held]

theorem Slots.releaseSlot (slots : q.Slots) (bound : i < q.numQps) (held : q.held i = true) :
    (q.releaseSlot i).Slots := by
  refine ⟨slots.word, ?_⟩
  have change := raised_change q.held (q.releaseSlot i).held bound
    fun k _ other => held_releaseSlot_of_ne other
  rw [if_pos held, held_releaseSlot_self, if_neg Bool.false_ne_true] at change
  have word := slots.word
  have most := raised_le q.held q.numQps
  calc decr32 q.qpsAccepted = decr32 (raised q.held q.numQps) := by rw [slots.accepted]
    _ = raised (q.releaseSlot i).held q.numQps := by
      unfold decr32 u32Max
      omega

theorem Slots.claim (slots : q.Slots) (bound : i < q.numQps) (free : q.held i = false)
    (c : Capabilities) : (q.claim i c).Slots := by
  refine ⟨slots.word, ?_⟩
  have change := raised_change q.held (q.claim i c).held bound
    fun k _ other => held_claim_of_ne other c
  rw [if_neg (by simp [free]), held_claim_self, if_pos rfl] at change
  have word := slots.word
  have most := raised_le (q.claim i c).held q.numQps
  calc incr32 q.qpsAccepted = incr32 (raised q.held q.numQps) := by rw [slots.accepted]
    _ = raised (q.claim i c).held q.numQps := by
      unfold incr32
      omega

theorem held_releaseStale_self (q : Qps) (i : Nat) : (q.releaseStale i).held i = false := by
  unfold releaseStale
  split
  · exact held_releaseSlot_self ..
  · rename_i free
    exact eq_false_iff.mpr free

theorem Slots.releaseStale (slots : q.Slots) (bound : i < q.numQps) : (q.releaseStale i).Slots := by
  unfold Qps.releaseStale
  split
  · rename_i held
    have demoted := sameSlots_demoteEstablished q i
    refine (slots.congr demoted).releaseSlot ?_ ?_
    · rwa [demoted.numQps]
    · rwa [demoted.held]
  · exact slots

theorem slotDecide_eq_some_iff {peerIndex : Option Nat} :
    q.slotDecide peerIndex = some i ↔
      (if 1 < q.numQps then peerIndex else none).getD q.qpsAccepted = i ∧ i < q.numQps := by
  unfold slotDecide
  generalize (if 1 < q.numQps then peerIndex else none).getD q.qpsAccepted = j
  dsimp only
  split
  · rename_i bound
    rw [Option.some.injEq]
    exact ⟨fun same => ⟨same, same ▸ bound⟩, fun found => found.1⟩
  · rename_i beyond
    exact iff_of_false (by simp) fun found => beyond (found.1 ▸ found.2)

theorem slotDecide_lt {peerIndex : Option Nat} (decided : q.slotDecide peerIndex = some i) :
    i < q.numQps := (slotDecide_eq_some_iff.mp decided).2

theorem Slots.acceptOne (slots : q.Slots) (peerIndex : Option Nat) (c : Capabilities)
    (a : Accepting) : (q.acceptOne peerIndex c a).Slots := by
  unfold Qps.acceptOne
  split
  · exact slots
  · rename_i i decided
    have bound := slotDecide_lt decided
    have released := slots.releaseStale bound
    have torn := sameSlots_teardownStale (q.releaseStale i) i
    cases a with
    | unshared => exact released
    | uncreated => exact released.congr torn
    | accepted =>
      refine (released.congr torn).claim ?_ ?_ c
      · rwa [torn.numQps, (q.sameBut_releaseStale i).numQps]
      · rw [torn.held, held_releaseStale_self]

theorem Slots.down (slots : q.Slots) (maxAttempts : Nat) : (q.down i maxAttempts).Slots := by
  unfold Qps.down
  split
  · rename_i bound
    have demoted := sameSlots_demoteEstablished q i
    refine Slots.congr ?_ (sameSlots_retryConnect _ i maxAttempts)
    split
    · rename_i releases
      refine (slots.congr demoted).releaseSlot ?_ releases.2
      rwa [demoted.numQps]
    · exact slots.congr demoted
  · exact slots.congr ⟨rfl, rfl, fun _ => rfl⟩

theorem slots_init (isInitiator : Bool) {numQps : Nat} (numBufs : Nat) (word : numQps < 2 ^ 32) :
    (init isInitiator numQps numBufs).Slots := ⟨word, (raised_lowered numQps).symm⟩

end Held

/-! ## The established queue pairs -/

structure Live (q : Qps) : Prop where
  counted : q.qpsConnected = raised q.up q.numQps
  latched : q.connected = true ↔ ∀ k < q.numQps, q.up k = true

section Up

variable {q q' : Qps} {i : Nat}

theorem Live.congr (live : q.Live) (same : SameUp q q') : q'.Live where
  counted := by
    rw [same.qpsConnected, live.counted, same.numQps]
    exact (raised_congr fun k _ => same.up k).symm
  latched := by
    rw [same.connected, live.latched, same.numQps]
    simp only [same.up]

theorem up_demote_self (q : Qps) (i : Nat) : (q.demote i).up i = false := by
  rw [up, qp_demote, update_self]

variable {k : Nat}

theorem up_demote_of_ne (other : k ≠ i) : (q.demote i).up k = q.up k := by
  rw [up, qp_demote, update_of_ne other, up]

theorem up_hardTeardown_self (q : Qps) (i : Nat) : (q.hardTeardown i).up i = false := by
  rw [up, hardTeardown, qp_modify, update_self]

theorem up_hardTeardown_of_ne (other : k ≠ i) : (q.hardTeardown i).up k = q.up k := by
  rw [up, hardTeardown, qp_modify, update_of_ne other, up]

theorem raised_lower {up' : Nat → Bool} (bound : i < q.numQps) (was : q.up i = true)
    (now : up' i = false) (others : ∀ k ≠ i, up' k = q.up k) :
    raised up' q.numQps + 1 = raised q.up q.numQps := by
  have change := raised_change q.up up' bound fun k _ other => others k other
  rwa [if_pos was, now, if_neg Bool.false_ne_true] at change

theorem Live.demote (live : q.Live) (word : q.numQps < 2 ^ 32) (bound : i < q.numQps)
    (was : q.up i = true) : (q.demote i).Live := by
  have change := raised_lower bound was (up_demote_self q i) fun k other => up_demote_of_ne other
  have most := raised_le q.up q.numQps
  have count : decr32 q.qpsConnected = raised (q.demote i).up q.numQps := by
    rw [live.counted]
    unfold decr32 u32Max
    omega
  refine ⟨count, ?_⟩
  have below : decr32 q.qpsConnected < q.numQps := by omega
  constructor
  · intro connected
    simp only [Qps.demote, and_eq_true, not_eq_true', decide_eq_false_iff_not] at connected
    exact absurd below connected.2
  · intro all
    exact nomatch (up_demote_self q i).symm.trans (all i bound)

theorem Live.demoteEstablished (live : q.Live) (word : q.numQps < 2 ^ 32) (bound : i < q.numQps) :
    (q.demoteEstablished i).Live := by
  unfold Qps.demoteEstablished
  split
  · rename_i was
    exact live.demote word bound was
  · exact live

theorem up_demoteEstablished_self (q : Qps) (i : Nat) : (q.demoteEstablished i).up i = false := by
  unfold demoteEstablished
  split
  · exact up_demote_self q i
  · rename_i down
    exact eq_false_iff.mpr down

theorem Live.down (live : q.Live) (word : q.numQps < 2 ^ 32) (maxAttempts : Nat) :
    (q.down i maxAttempts).Live := by
  unfold Qps.down
  split
  · rename_i bound
    refine Live.congr ?_ (sameUp_retryConnect _ i maxAttempts)
    split
    · exact (live.demoteEstablished word bound).congr (sameUp_releaseSlot _ i)
    · exact live.demoteEstablished word bound
  · exact live.congr ⟨rfl, rfl, rfl, fun _ => rfl⟩

theorem up_down_self (bound : i < q.numQps) (maxAttempts : Nat) :
    (q.down i maxAttempts).up i = false := by
  unfold Qps.down
  rw [if_pos bound, (sameUp_retryConnect _ i maxAttempts).up]
  split
  · rw [(sameUp_releaseSlot _ i).up, up_demoteEstablished_self]
  · exact up_demoteEstablished_self q i

theorem held_of_held_down {maxAttempts : Nat} (held : (q.down i maxAttempts).held k = true) :
    q.held k = true := by
  unfold Qps.down at held
  split at held
  · rw [(sameSlots_retryConnect _ i maxAttempts).held] at held
    split at held
    · rcases eq_or_ne k i with rfl | self
      · rw [held_releaseSlot_self] at held
        cases held
      · rwa [held_releaseSlot_of_ne self, (sameSlots_demoteEstablished q i).held] at held
    · rwa [(sameSlots_demoteEstablished q i).held] at held
  · exact held

theorem up_of_up_missed {maxAttempts : Nat} (up : (q.missed i maxAttempts).up k = true) :
    q.up k = true := by
  rcases eq_or_ne k i with rfl | self
  · unfold Qps.missed at up
    split at up
    · rename_i seen
      exact seen.1
    · exact up
  · rwa [Qps.up, (q.sameBut_missed i maxAttempts).qp k self] at up

theorem Live.missed (live : q.Live) (word : q.numQps < 2 ^ 32) (bound : i < q.numQps)
    (maxAttempts : Nat) : (q.missed i maxAttempts).Live := by
  unfold Qps.missed
  split
  · rename_i seen
    have draining := SameUp.modify q i (f := fun qp => { qp with health := .draining }) rfl
    dsimp only
    split
    · refine Live.congr ?_ (sameUp_retryConnect _ i maxAttempts)
      refine (live.congr draining).demote word bound ?_
      rw [draining.up]
      exact seen.1
    · exact live.congr draining
  · exact live

section

variable (c : Capabilities)

theorem qp_established (bound : i < q.numQps) :
    (q.established i c).qp = update q.qp i (q.establish c (q.qp i)) := by
  unfold established latch
  rw [if_pos bound]
  split <;> rfl

theorem up_established (bound : i < q.numQps) (k : Nat) :
    (q.established i c).up k = if k = i then true else q.up k := by
  rw [up, qp_established c bound, Function.update_apply]
  split <;> rfl

theorem qpsConnected_established (bound : i < q.numQps) :
    (q.established i c).qpsConnected = incr32 q.qpsConnected := by
  unfold established latch
  rw [if_pos bound]
  split <;> rfl

theorem connected_established (bound : i < q.numQps) :
    (q.established i c).connected = (q.connected || decide (incr32 q.qpsConnected = q.numQps)) := by
  unfold established latch
  rw [if_pos bound]
  split
  · rename_i full
    have full : incr32 q.qpsConnected = q.numQps := full
    simp [full]
  · rename_i short
    have short : ¬incr32 q.qpsConnected = q.numQps := short
    simp [short, modify]

end

theorem numQps_established (q : Qps) (i : Nat) (c : Capabilities) :
    (q.established i c).numQps = q.numQps := (sameSlots_established q i c).numQps

theorem negotiated_established (c : Capabilities) (bound : i < q.numQps)
    (down : q.connected = false) (connected : (q.established i c).connected = true) :
    (q.established i c).windowNegotiated =
        (c.advertises && (q.establish c (q.qp i)).peerSupportsWindow) ∧
      (q.established i c).tstampNegotiated =
        (c.samples && (q.establish c (q.qp i)).peerSupportsTstamp) := by
  rw [connected_established c bound, down, Bool.false_or, decide_eq_true_eq] at connected
  have latches : incr32 q.qpsConnected = (q.modify i (q.establish c)).numQps := connected
  unfold established latch
  rw [if_pos bound]
  rw [if_pos latches, qp_modify, update_self]
  exact ⟨rfl, rfl⟩

theorem connectFailed_established (q : Qps) (i : Nat) (c : Capabilities) :
    (q.established i c).connectFailed = q.connectFailed := by
  unfold established latch
  split
  · split <;> rfl
  · rfl

theorem Live.established (live : q.Live) (word : q.numQps < 2 ^ 32) (bound : i < q.numQps)
    (was : q.up i = false) (c : Capabilities) : (q.established i c).Live := by
  have change := raised_change q.up (q.established i c).up bound
    fun k _ other => (up_established c bound k).trans (if_neg other)
  rw [if_neg (by simp [was]), up_established c bound, if_pos rfl, if_pos rfl] at change
  have most := raised_le (q.established i c).up q.numQps
  have count : incr32 q.qpsConnected = raised (q.established i c).up q.numQps := by
    rw [live.counted]
    unfold incr32
    omega
  have unlatched : q.connected = false := by
    rw [eq_false_iff, ne_eq, live.latched]
    exact fun all => nomatch was.symm.trans (all i bound)
  constructor
  · rw [qpsConnected_established c bound, numQps_established, count]
  · rw [connected_established c bound, unlatched, Bool.false_or, decide_eq_true_eq, count,
      numQps_established, raised_eq_iff]

theorem up_releaseStale_self (free : q.up i = true → q.held i = true) :
    (q.releaseStale i).up i = false := by
  unfold releaseStale
  split
  · rw [(sameUp_releaseSlot _ i).up, up_demoteEstablished_self]
  · rename_i unheld
    exact eq_false_iff.mpr fun was => unheld (free was)

theorem Live.releaseStale (live : q.Live) (word : q.numQps < 2 ^ 32) (bound : i < q.numQps) :
    (q.releaseStale i).Live := by
  unfold Qps.releaseStale
  split
  · exact (live.demoteEstablished word bound).congr (sameUp_releaseSlot _ i)
  · exact live

theorem sameUp_teardownStale (down : q.up i = false) : SameUp q (q.teardownStale i) := by
  unfold teardownStale
  split
  · exact sameUp_hardTeardown down
  · exact SameUp.refl q

variable {peerIndex : Option Nat}

theorem acceptOne_of_free (decided : q.slotDecide peerIndex = some i) (free : q.held i = false)
    (c : Capabilities) : q.acceptOne peerIndex c .accepted = (q.teardownStale i).claim i c := by
  have stale : q.releaseStale i = q := if_neg (eq_false_iff.mp free)
  unfold acceptOne
  rw [decided]
  dsimp only
  rw [stale]

structure Claims (q q' : Qps) (i : Nat) (c : Capabilities) : Prop where
  up : SameUp q q'
  rest : SameBut i q q'
  held : ∀ k, q'.held k = true ↔ k = i ∨ q.held k = true
  window : (q'.qp i).peerSupportsWindow = c.window
  tstamp : (q'.qp i).peerSupportsTstamp = c.tstamp
  qpsAccepted : q'.qpsAccepted = q.qpsAccepted + 1

theorem Slots.claims_acceptOne (slots : q.Slots)
    (decided : q.slotDecide peerIndex = some i) (free : q.held i = false) (down : q.up i = false)
    (c : Capabilities) : Claims q (q.acceptOne peerIndex c .accepted) i c := by
  have bound := slotDecide_lt decided
  have torn := sameSlots_teardownStale q i
  have claimed := slots.acceptOne peerIndex c .accepted
  rw [acceptOne_of_free decided free c] at claimed ⊢
  have others : ∀ k ≠ i, ((q.teardownStale i).claim i c).held k = q.held k := fun k other => by
    rw [held_claim_of_ne other, torn.held]
  refine ⟨?_, ?_, ?_, ?_, ?_, ?_⟩
  · exact (sameUp_teardownStale down).trans (sameUp_claim _ i c)
  · exact (q.sameBut_teardownStale i).trans (.update rfl (qp_claim _ i c))
  · intro k
    rcases eq_or_ne k i with rfl | self
    · exact iff_of_true (held_claim_self _ k c) (.inl rfl)
    · rw [others k self, or_iff_right self]
  · rw [qp_claim, update_self]
  · rw [qp_claim, update_self]
  · have change := raised_change q.held ((q.teardownStale i).claim i c).held bound
      fun k _ other => others k other
    rw [if_neg (by simp [free]), held_claim_self, if_pos rfl] at change
    rw [claimed.accepted, slots.accepted, ← change]
    exact congrArg _ torn.numQps

theorem Live.acceptOne (live : q.Live) (word : q.numQps < 2 ^ 32)
    (free : ∀ k < q.numQps, q.up k = true → q.held k = true) (peerIndex : Option Nat)
    (c : Capabilities) (a : Accepting) : (q.acceptOne peerIndex c a).Live := by
  unfold Qps.acceptOne
  split
  · exact live
  · rename_i i decided
    have bound := slotDecide_lt decided
    have released := live.releaseStale word bound
    have torn := sameUp_teardownStale (up_releaseStale_self (free i bound))
    cases a with
    | unshared => exact released
    | uncreated => exact released.congr torn
    | accepted => exact (released.congr torn).congr (sameUp_claim _ i c)

theorem up_acceptOne_self {c : Capabilities} {a : Accepting}
    (decided : q.slotDecide peerIndex = some i) (free : q.up i = true → q.held i = true) :
    (q.acceptOne peerIndex c a).up i = false := by
  have released := up_releaseStale_self free
  have torn := ((sameUp_teardownStale released).up i).trans released
  unfold Qps.acceptOne
  rw [decided]
  cases a with
  | unshared => exact released
  | uncreated => exact torn
  | accepted => exact ((sameUp_claim _ i c).up i).trans torn

theorem sameUp_retry (q : Qps) (i maxAttempts : Nat) (dialed : Bool) :
    SameUp (q.hardTeardown i) (q.retry i maxAttempts dialed) := by
  unfold retry
  split
  · exact SameUp.modify _ i rfl
  · exact sameUp_retryConnect _ i maxAttempts

theorem up_retry_self (q : Qps) (i maxAttempts : Nat) (dialed : Bool) :
    (q.retry i maxAttempts dialed).up i = false :=
  ((sameUp_retry q i maxAttempts dialed).up i).trans (up_hardTeardown_self q i)

theorem Live.hardTeardown_iff (live : q.Live) (bound : i < q.numQps) :
    (q.hardTeardown i).Live ↔ q.up i = false := by
  constructor
  · intro torn
    by_contra was
    rw [not_eq_false] at was
    have change := raised_lower bound was (up_hardTeardown_self q i) fun k other =>
      up_hardTeardown_of_ne other
    have counted : q.qpsConnected = raised (q.hardTeardown i).up q.numQps := torn.counted
    have before := live.counted
    omega
  · exact fun down => live.congr (sameUp_hardTeardown down)

theorem live_init (isInitiator : Bool) {numQps : Nat} (numBufs : Nat) (positive : 0 < numQps) :
    (init isInitiator numQps numBufs).Live := by
  refine ⟨(raised_lowered numQps).symm, ?_⟩
  constructor
  · exact fun connected => absurd connected Bool.false_ne_true
  · exact fun all => absurd (all 0 positive) Bool.false_ne_true

end Up

end Urp.Qps
