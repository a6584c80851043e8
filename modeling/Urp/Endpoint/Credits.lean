import Urp.Endpoint.Numbers
import Mathlib.Algebra.BigOperators.Group.Finset.Piecewise
import Mathlib.Algebra.Order.BigOperators.Group.Finset

/-!
# Frame credits

Without byte windows a receiver grants credits for frames.
-/

namespace Urp

open Urp.Lib Urp.Frame Urp.Window Urp.Rx Urp.Tx List Option
open Function (update update_of_ne update_self)
open Urp.Stream (Credit)

namespace Endpoint

def processes (a : Answers) (ep : Endpoint) (wire : List UInt8) : Option Nat :=
  match ep.dataFrame a wire with
  | none => none
  | some (id, flags) =>
    match ep.rxDispatch a.creation id flags with
    | (ep, .ok (some s)) => if (ep.withBackend a s).udsSock.isSome then some id else none
    | _ => none

/-! ## What a frame does to the counts -/

section Qps

variable (a : Creation) (ep : Endpoint) (id : Nat)

theorem streamCreate_qps : (ep.streamCreate a id).1.qps = ep.qps := by
  have numbered : (if id = 0 then ep.nextId else (ep, id)).1.qps = ep.qps := by
    split <;> rfl
  unfold streamCreate
  generalize (if id = 0 then ep.nextId else (ep, id)) = fresh at numbered ⊢
  split
  · dsimp only
    split
    · exact numbered
    · split <;> exact numbered
  · rfl

theorem rxSyn_qps : (ep.rxSyn a id).1.qps = ep.qps := by
  have created := streamCreate_qps a ep id
  unfold rxSyn
  split
  · dsimp only
    split <;> rfl
  · split
    · rename_i same
      rwa [same] at created
    · rename_i same
      rwa [same] at created

theorem rxDispatch_qps (flags : UInt8) : (ep.rxDispatch a id flags).1.qps = ep.qps := by
  have found : (ep.rxFind a id flags).1.qps = ep.qps := by
    unfold rxFind
    split
    · exact rxSyn_qps a ep id
    · split
      · rfl
      · split
        · rfl
        · exact rxSyn_qps a ep id
  rw [rxDispatch]
  split
  · rename_i same
    rwa [same] at found
  · rename_i same
    rw [same] at found
    split
    · exact found
    · split <;> exact found

end Qps

variable {a : Answers} {ep : Endpoint} {wire : List UInt8}

theorem streamId_lt {byteLen : Nat} {hdr : Nat → UInt8} {dec : RxDecoded}
    (stream : classifyFrame byteLen hdr = (.deliverStream, dec)) : dec.streamId < 2 ^ 32 := by
  cases classified_of_eq stream with
  | deliverStream _ _ =>
    have bound := getLe_lt (window hdr 0 4)
    rwa [length_window] at bound

structure SameCounts (q q' : Qps) : Prop where
  numQps : q'.numQps = q.numQps
  windowNegotiated : q'.windowNegotiated = q.windowNegotiated
  threshold : ∀ i, (q'.qp i).credit.threshold = (q.qp i).credit.threshold
  creditsToGrant : ∀ i, (q'.qp i).credit.creditsToGrant = (q.qp i).credit.creditsToGrant

theorem SameCounts.of_eq {q q' : Qps} (same : q' = q) : SameCounts q q' := by
  subst same
  exact ⟨rfl, rfl, fun _ => rfl, fun _ => rfl⟩

theorem receiveControl_counts (a : Answers) (ep : Endpoint) (qp : Nat) (slot : Memory)
    (dec : RxDecoded) : SameCounts ep.qps (ep.receiveControl a qp slot dec).qps := by
  unfold receiveControl
  split
  · split
    · refine ⟨rfl, rfl, fun i => ?_, fun i => ?_⟩ <;>
        by_cases named : i = qp <;> simp [Qps.modify, named, Credit.grant]
    · exact .of_eq rfl
  · split <;> exact .of_eq rfl

theorem recvDone_uncounted (qp : Nat) (stopped : ep.processes a wire = none) :
    SameCounts ep.qps (ep.recvDone a qp wire).1.qps ∧ (ep.recvDone a qp wire).2 = none := by
  unfold processes dataFrame at stopped
  unfold recvDone
  by_cases length : wire.length ≤ ep.geometry.bufSize
  · simp only [if_pos length] at stopped ⊢
    split
    · rename_i dec classified
      have same := rxDispatch_qps a.creation ep dec.streamId dec.flags
      simp only [classified] at stopped
      unfold receiveStream
      split
      · rename_i after s dispatched
        rw [dispatched] at same
        rw [dispatched] at stopped
        have closed : ¬(after.withBackend a s).udsSock.isSome = true := by simpa using stopped
        dsimp only [withBackend] at closed ⊢
        rw [if_neg closed]
        exact ⟨.of_eq same, rfl⟩
      · rename_i after other dispatched
        rw [dispatched] at same
        exact ⟨.of_eq same, rfl⟩
    · exact ⟨receiveControl_counts .., rfl⟩
    · exact ⟨.of_eq rfl, rfl⟩
  · simp only [if_neg length]
    exact ⟨.of_eq rfl, trivial⟩

theorem recvDone_counted {id qp : Nat} (processed : ep.processes a wire = some id)
    (known : a.known = true) (plain : ep.qps.windowNegotiated = false) :
    (ep.recvDone a qp wire).1.qps = (ep.grantFrames qp id).1.qps ∧
      (ep.recvDone a qp wire).2 = (ep.grantFrames qp id).2 := by
  unfold processes dataFrame at processed
  unfold recvDone
  by_cases length : wire.length ≤ ep.geometry.bufSize
  · simp only [if_pos length] at processed ⊢
    split
    · rename_i dec classified
      have same := rxDispatch_qps a.creation ep dec.streamId dec.flags
      simp only [classified] at processed
      unfold receiveStream
      split
      · rename_i after s dispatched
        rw [dispatched] at same processed
        dsimp only at same
        obtain ⟨opened, rfl⟩ : (after.withBackend a s).udsSock.isSome = true ∧
            dec.streamId = id := by simpa using processed
        dsimp only [withBackend] at opened ⊢
        rw [if_pos opened, if_pos known, put_qps, same, plain, if_neg (by decide)]
        simp only [grantFrames, put_qps, same, true_and]
      · rename_i other dispatched
        simp only [dispatched] at processed
        split at processed
        · rename_i after s found
          exact (other s (congrArg Prod.snd found)).elim
        · cases processed
    · rename_i dec classified
      simp only [classified] at processed
      cases processed
    · rename_i noStream noCredit
      split at processed
      · cases processed
      · rename_i frame
        split at frame
        · rename_i dec classified
          exact absurd classified (noStream dec)
        · cases frame
  · simp only [if_neg length] at processed
    cases processed

theorem processes_word {id : Nat} (processed : ep.processes a wire = some id) : id < 2 ^ 32 := by
  unfold processes at processed
  split at processed
  · cases processed
  · rename_i named flags frame
    have word : named < 2 ^ 32 := by
      unfold dataFrame at frame
      split at frame
      · split at frame
        · rename_i dec classified
          cases frame
          exact streamId_lt classified
        · cases frame
      · cases frame
    split at processed
    · split at processed
      · cases processed
        exact word
      · cases processed
    · cases processed

theorem acceptClient_qps (c : Creation) (thread : Bool) (ep : Endpoint) :
    (ep.acceptClient c thread).1.qps = ep.qps := by
  have created := streamCreate_qps c ep 0
  unfold acceptClient
  split
  · rename_i same
    rwa [same] at created
  · rename_i same
    rw [same] at created
    split <;> exact created

theorem pump_counts {id : Nat} {e : PumpEvent} {r : Endpoint × Option (Nat × List UInt8)}
    (moved : ep.pump id e = some r) : SameCounts ep.qps r.1.qps := by
  have plain : ∀ {ep : Endpoint}, ep.stepThread id e = some r → r.1.qps = ep.qps := by
    intro ep stepped
    obtain ⟨s, s', -, -, same⟩ := stepThread_sound stepped
    rw [same, put_qps]
  cases e with
  | read data qp =>
    simp only [pump, ite_none_right_eq_some] at moved
    have same := plain moved.2
    rw [same]
    exact ⟨rfl, rfl, fun _ => rfl, fun _ => rfl⟩
  | post windowNegotiated stalled ok =>
    simp only [pump, ite_none_right_eq_some] at moved
    exact .of_eq (plain moved.2)
  | stop | eof | abort | account => exact .of_eq (plain moved)

end Endpoint

/-! ## Grants -/

namespace Credits

open Endpoint

def wireCredits (wire : List UInt8) : Nat := decodeCredits (fun i => wire.getD i 0)

/-- A receiver, with the streams of the frames that each queue pair counts and what it granted. -/
structure State where
  ep : Endpoint
  pending : Nat → List Nat
  granted : Nat → Nat
  processed : Nat → Nat

inductive Event where
  | receive (a : Answers) (qp : Nat) (wire : List UInt8)
  | accept (a : Creation) (thread : Bool)
  | pump (id : Nat) (e : PumpEvent)

def State.init (settings : Settings) (isInitiator : Bool) (numQps : Nat) : State :=
  ⟨.init settings isInitiator numQps, fun _ => [], fun _ => 0, fun _ => 0⟩

def add (f : Nat → Nat) (id n : Nat) : Nat → Nat := update f id (f id + n)

def State.answers (s : State) (r : Endpoint × Option (List UInt8)) : State :=
  match r.2 with
  | none => { s with ep := r.1 }
  | some reply =>
    { s with ep := r.1, granted := add s.granted (wireId reply) (wireCredits reply) }

def State.counts (s : State) (qp id : Nat) (answered : Bool) : State :=
  { s with
    processed := add s.processed id 1
    pending := update s.pending qp (if answered then [] else id :: s.pending qp) }

/-- A data frame in `urp_recv_done`, or what else the endpoint does. -/
def step (s : State) : Event → Option State
  | .receive a qp wire =>
    if qp < s.ep.qps.numQps ∧ a.known = true then
      let r := s.ep.recvDone a qp wire
      match s.ep.processes a wire with
      | none => some (s.answers r)
      | some id => some ((s.answers r).counts qp id r.2.isSome)
    else none
  | .accept a thread => some { s with ep := (s.ep.acceptClient a thread).1 }
  | .pump id e => (s.ep.pump id e).map fun r => { s with ep := r.1 }

def owned (s : State) : Event → Bool
  | .receive a qp wire => (s.ep.processes a wire).all fun id =>
      (s.ep.recvDone a qp wire).2.isNone || (s.pending qp).all (· == id)
  | .accept _ _ => true
  | .pump _ _ => true

def threshold (settings : Settings) : Nat := settings.sizes.numBufs / 2 / 4

def Bounded (settings : Settings) (numQps : Nat) (s : State) : Prop :=
  ∀ id, s.granted id ≤ s.processed id ∧ s.processed id < s.granted id + threshold settings * numQps

structure Counted (T n : Nat) (s : State) : Prop where
  numQps : s.ep.qps.numQps = n
  plain : s.ep.qps.windowNegotiated = false
  threshold : ∀ i, (s.ep.qps.qp i).credit.threshold = T
  creditsToGrant : ∀ i, (s.ep.qps.qp i).credit.creditsToGrant = (s.pending i).length
  below : ∀ i, (s.pending i).length < T
  total : ∀ id, s.granted id + ∑ i ∈ Finset.range n, (s.pending i).count id = s.processed id

variable {T n : Nat} {s s' : State}

theorem Counted.init {settings : Settings} (isInitiator : Bool) (numQps : Nat) :
    Counted (Credits.threshold settings) numQps (.init settings isInitiator numQps) where
  numQps := rfl
  plain := rfl
  threshold _ := rfl
  creditsToGrant _ := rfl
  below _ := by
    have pool := settings.pool
    simp only [State.init, Credits.threshold, length_nil]
    omega
  total _ := by simp [State.init]

theorem Counted.same (counted : Counted T n s) {ep : Endpoint}
    (same : SameCounts s.ep.qps ep.qps) : Counted T n { s with ep := ep } where
  __ := counted
  numQps := same.numQps.trans counted.numQps
  plain := same.windowNegotiated.trans counted.plain
  threshold i := (same.threshold i).trans (counted.threshold i)
  creditsToGrant i := (same.creditsToGrant i).trans (counted.creditsToGrant i)

theorem sum_update (pending : Nat → List Nat) {qp : Nat} (inside : qp < n) (l : List Nat)
    (id : Nat) :
    ∑ i ∈ Finset.range n, (update pending qp l i).count id + (pending qp).count id =
      ∑ i ∈ Finset.range n, (pending i).count id + l.count id := by
  have mem := Finset.mem_range.mpr inside
  have pointwise : ∀ i, (update pending qp l i).count id =
      update (fun i => (pending i).count id) qp (l.count id) i :=
    fun i => congrFun (Function.comp_update (List.count id) pending qp l) i
  rw [Finset.sum_congr rfl fun i _ => pointwise i, Finset.sum_update_of_mem mem,
    Finset.sum_eq_add_sum_sdiff_singleton_of_mem mem fun i => (pending i).count id]
  omega

/-- The count of one queue pair becomes `k`. -/
def setCount (q : Qps) (qp k : Nat) : Qps :=
  q.modify qp fun x => { x with credit := { x.credit with creditsToGrant := k } }

theorem setCount_threshold (q : Qps) (qp k i : Nat) :
    ((setCount q qp k).qp i).credit.threshold = (q.qp i).credit.threshold := by
  by_cases named : i = qp <;> simp [setCount, Qps.modify, named]

theorem setCount_creditsToGrant (q : Qps) (qp k i : Nat) :
    ((setCount q qp k).qp i).credit.creditsToGrant =
      if i = qp then k else (q.qp i).credit.creditsToGrant := by
  by_cases named : i = qp <;> simp [setCount, Qps.modify, named]

section Grant

variable {ep : Endpoint} {qp : Nat} (id : Nat)
  (room : (ep.qps.qp qp).credit.creditsToGrant < u16Max)

include room

theorem grantFrames_below
    (below : (ep.qps.qp qp).credit.creditsToGrant + 1 < (ep.qps.qp qp).credit.threshold) :
    ep.grantFrames qp id =
      ({ ep with qps := setCount ep.qps qp ((ep.qps.qp qp).credit.creditsToGrant + 1) }, none) := by
  have waits : ¬(ep.qps.qp qp).credit.recordRecv.shouldGrant = true := by
    simp only [Credit.recordRecv, if_pos room, Credit.shouldGrant, Bool.or_eq_true,
      decide_eq_true_eq]
    omega
  simp only [grantFrames, if_neg waits, if_true]
  simp [Credit.recordRecv, room, setCount, Qps.modify]

theorem grantFrames_full
    (full : (ep.qps.qp qp).credit.threshold ≤ (ep.qps.qp qp).credit.creditsToGrant + 1) :
    ep.grantFrames qp id = ({ ep with qps := setCount ep.qps qp 0 },
      some (creditFrame id ((ep.qps.qp qp).credit.creditsToGrant + 1))) := by
  have grants : (ep.qps.qp qp).credit.recordRecv.shouldGrant = true := by
    simp only [Credit.recordRecv, if_pos room, Credit.shouldGrant, Bool.or_eq_true,
      decide_eq_true_eq]
    exact .inr full
  simp only [grantFrames, if_pos grants]
  simp [Credit.recordRecv, room, setCount, Qps.modify, Credit.takeGrants]

end Grant

theorem wireCredits_creditFrame {id k : Nat} (small : k < 2 ^ 16) :
    wireCredits (creditFrame id k) = k := by
  have points := wire_points id 0 typeControl ctrlFlagCredit k 0 []
  exact (decodeCredits_encode points).trans (Nat.mod_eq_of_lt small)

theorem Counted.recount (counted : Counted T n s) {qp id : Nat} (inside : qp < n) {l : List Nat}
    {granted : Nat → Nat} {ep : Endpoint} (changed : ep.qps = setCount s.ep.qps qp l.length)
    (below : l.length < T)
    (gains : ∀ k, granted k + l.count k =
      s.granted k + (s.pending qp).count k + if k = id then 1 else 0) :
    Counted T n ⟨ep, update s.pending qp l, granted, add s.processed id 1⟩ where
  numQps := by
    rw [changed]
    exact counted.numQps
  plain := by
    rw [changed]
    exact counted.plain
  threshold i := by
    rw [changed, setCount_threshold]
    exact counted.threshold i
  creditsToGrant i := by
    rw [changed, setCount_creditsToGrant]
    by_cases named : i = qp
    · simp [named]
    · simp [named, counted.creditsToGrant i]
  below i := by
    by_cases named : i = qp
    · simpa [named] using below
    · simpa [named] using counted.below i
  total k := by
    have before := counted.total k
    have sums := sum_update s.pending inside l k
    have gained := gains k
    rcases eq_or_ne k id with rfl | named
    · simp only [add, update_self, if_true] at gained ⊢
      omega
    · simp only [add, update_of_ne named, if_neg named] at gained ⊢
      omega

theorem Counted.receive (counted : Counted T n s) (most : T ≤ u16Max) {a : Answers} {qp : Nat}
    {wire : List UInt8} (inside : qp < n) (known : a.known = true)
    (allowed : owned s (.receive a qp wire) = true) {id : Nat}
    (processed : s.ep.processes a wire = some id) :
    Counted T n ((s.answers (s.ep.recvDone a qp wire)).counts qp id
      (s.ep.recvDone a qp wire).2.isSome) := by
  obtain ⟨qps, reply⟩ := recvDone_counted processed known counted.plain
  have below := counted.below qp
  have room : (s.ep.qps.qp qp).credit.creditsToGrant < u16Max := by
    rw [counted.creditsToGrant]
    omega
  rcases Nat.lt_or_ge ((s.pending qp).length + 1) T with under | full
  · have counts := grantFrames_below id room (by
      rw [counted.creditsToGrant, counted.threshold]
      exact under)
    rw [counts] at qps reply
    unfold State.answers
    rw [reply]
    have gains (k : Nat) : s.granted k + (id :: s.pending qp).count k =
        s.granted k + (s.pending qp).count k + if k = id then 1 else 0 := by
      rcases eq_or_ne k id with rfl | named
      · rw [count_cons_self, if_pos rfl]
        omega
      · rw [count_cons_of_ne (Ne.symm named), if_neg named, Nat.add_zero]
    exact counted.recount inside (by rw [qps, counted.creditsToGrant]; rfl) under gains
  · have grants := grantFrames_full id room (by
      rw [counted.creditsToGrant, counted.threshold]
      exact full)
    rw [grants] at qps reply
    have own : ∀ k ∈ s.pending qp, k = id := by
      rw [owned, processed, all_some, reply] at allowed
      simpa using allowed
    have names := (controlFrame_credit id ((s.pending qp).length + 1)).names
      (processes_word processed)
    have amount : wireCredits (creditFrame id ((s.pending qp).length + 1)) = (s.pending qp).length +
        1 := wireCredits_creditFrame (by unfold u16Max at most; omega)
    unfold State.answers
    rw [reply, counted.creditsToGrant]
    dsimp only
    rw [names, amount]
    have gains (k : Nat) : add s.granted id ((s.pending qp).length + 1) k + [].count k =
        s.granted k + (s.pending qp).count k + if k = id then 1 else 0 := by
      rcases eq_or_ne k id with rfl | named
      · have whole : (s.pending qp).count k = (s.pending qp).length :=
          count_eq_length.mpr fun b mem => (own b mem).symm
        simp only [add, update_self, count_nil, whole, if_true]
        omega
      · have none : (s.pending qp).count k = 0 := count_eq_zero.mpr fun mem => named (own k mem)
        simp [add, named, none]
    exact counted.recount inside qps (Nat.zero_lt_of_lt below) gains

theorem Counted.step (most : T ≤ u16Max) {e : Event} (counted : Counted T n s)
    (allowed : owned s e = true) (moved : step s e = some s') : Counted T n s' := by
  cases e with
  | receive a qp wire =>
    simp only [Credits.step, ite_none_right_eq_some] at moved
    obtain ⟨⟨inside, known⟩, moved⟩ := moved
    split at moved
    · rename_i stopped
      cases moved
      obtain ⟨same, silent⟩ := recvDone_uncounted qp stopped
      unfold State.answers
      rw [silent]
      exact counted.same same
    · rename_i id processed
      cases moved
      exact counted.receive most (counted.numQps ▸ inside) known allowed processed
  | accept a thread =>
    cases moved
    exact counted.same (.of_eq (acceptClient_qps a thread s.ep))
  | pump id e =>
    obtain ⟨r, pumped, rfl⟩ := map_eq_some_iff.mp moved
    exact counted.same (pump_counts pumped)

theorem Counted.bounded {settings : Settings} (positive : 0 < n)
    (counted : Counted (Credits.threshold settings) n s) : Bounded settings n s := by
  intro id
  have total := counted.total id
  have sum : ∑ i ∈ Finset.range n, (s.pending i).count id < n * Credits.threshold settings := by
    have each := Finset.sum_lt_sum_of_nonempty (Finset.nonempty_range_iff.mpr (by omega))
      fun i (_ : i ∈ Finset.range n) =>
        Nat.lt_of_le_of_lt (count_le_length (a := id)) (counted.below i)
    simpa using each
  rw [Nat.mul_comm] at sum
  omega

end Credits

end Urp
