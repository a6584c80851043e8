import Urp.Conn.Control
import Urp.Conn.Slots
import Urp.Lib.Run

/-!
# What two hosts negotiate
-/

namespace Urp.Conn

open Urp.Lib Urp.Control Bool Function
open List hiding Vector

inductive Link where
  | idle
  | requested (priv : List UInt8)
  | answered (slot : Nat) (reply : List UInt8) (upInitiator upAcceptor : Bool)
  | rejected
deriving DecidableEq

def Link.upInitiator : Link → Bool
  | .answered _ _ up _ => up
  | _ => false

def Link.isAnswered : Link → Bool
  | .answered .. => true
  | _ => false

theorem Link.upInitiator_of_unanswered {l : Link} (unanswered : l.isAnswered = false) :
    l.upInitiator = false := by
  cases l with
  | answered => cases unanswered
  | _ => rfl

structure Host where
  sysctls : Sysctls
  qps : Qps

/-- The `link` of a queue pair carries the private data of both sides. -/
structure Pair where
  initiator : Host
  acceptor : Host
  link : Nat → Link

inductive PairEvent where
  | connect (k : Nat)
  | accept (k zeros : Nat)
  | establishedInitiator (k zeros : Nat)
  | establishedAcceptor (k : Nat)
  | writeInitiator (s : Sysctls)
  | writeAcceptor (s : Sysctls)

def capabilities (ep : Endpoint) (s : Sysctls) (priv : List UInt8) : Capabilities :=
  ⟨peerSupportsWindow priv ep.authLen, peerSupportsTstamp priv ep.authLen, s.advertises, s.samples⟩

def Sysctls.agrees (s s' : Sysctls) : Bool :=
  s.advertises == s'.advertises && s.samples == s'.samples

namespace Pair

variable (i a : Endpoint)

def init (s s' : Sysctls) (numBufs numBufs' : Nat) : Pair where
  initiator := ⟨s, Qps.init true i.numQps numBufs⟩
  acceptor := ⟨s', Qps.init false a.numQps numBufs'⟩
  link _ := .idle

def setLink (p : Pair) (k : Nat) (l : Link) : Pair := { p with link := Function.update p.link k l }

def setInitiator (p : Pair) (q : Qps) : Pair :=
  { p with initiator := { p.initiator with qps := q } }

def setAcceptor (p : Pair) (q : Qps) : Pair := { p with acceptor := { p.acceptor with qps := q } }

def accept (p : Pair) (k : Nat) (priv : List UInt8) : Pair :=
  let peerIndex := (privPeerQpIndex priv a.authLen).map UInt8.toNat
  match p.acceptor.qps.slotDecide peerIndex with
  | none => p.setLink k .rejected
  | some slot =>
    (p.setLink k
      (.answered slot (replyPriv a (localCaps p.acceptor.sysctls)) false false)).setAcceptor
      (p.acceptor.qps.acceptOne peerIndex (capabilities a p.acceptor.sysctls priv) .accepted)

/-- `urp_connect_work_fn`, the events of `urp_cm_handler`, and writes to the sysctls. -/
def step (p : Pair) : PairEvent → Option Pair
  | .connect k =>
    if k < p.initiator.qps.numQps ∧ p.link k = .idle then
      some (p.setLink k (.requested (connectPriv i k (localCaps p.initiator.sysctls))))
    else none
  | .accept k zeros =>
    match p.link k with
    | .requested priv =>
      let priv := priv ++ List.replicate zeros 0
      some (if pskCheck a priv then p.accept a k priv else p.setLink k .rejected)
    | _ => none
  | .establishedInitiator k zeros =>
    match p.link k with
    | .answered slot reply false up =>
      some ((p.setLink k (.answered slot reply true up)).setInitiator (p.initiator.qps.established k
          (capabilities i p.initiator.sysctls (reply ++ List.replicate zeros 0))))
    | _ => none
  | .establishedAcceptor k =>
    match p.link k with
    | .answered slot reply up false =>
      some ((p.setLink k (.answered slot reply up true)).setAcceptor
        (p.acceptor.qps.established slot (capabilities a p.acceptor.sysctls [])))
    | _ => none
  | .writeInitiator s => some { p with initiator := { p.initiator with sysctls := s } }
  | .writeAcceptor s => some { p with acceptor := { p.acceptor with sysctls := s } }

def Agreed (p : Pair) : Prop :=
  p.initiator.qps.connected = true → p.acceptor.qps.connected = true →
    p.initiator.qps.windowNegotiated = p.acceptor.qps.windowNegotiated ∧
      p.initiator.qps.tstampNegotiated = p.acceptor.qps.tstampNegotiated

def quiet (p : Pair) : PairEvent → Bool
  | .writeInitiator s =>
    s.agrees p.initiator.sysctls || p.initiator.qps.connected ||
      (List.range p.initiator.qps.numQps).all fun k => p.link k = .idle
  | .writeAcceptor s =>
    s.agrees p.acceptor.sysctls || p.acceptor.qps.connected ||
      (List.range p.initiator.qps.numQps).all fun k => !(p.link k).isAnswered
  | _ => true

end Pair

/-! ## What the readers find -/

variable {s : Sysctls}

section Readers

variable {sha256 sha256' : List UInt8 → Vector UInt8 pskHashLen}
  {created created' configured configured' : Option (List UInt8)} {i a : Endpoint}

theorem Sysctls.agrees_iff {s s' : Sysctls} :
    s.agrees s' = true ↔ s.advertises = s'.advertises ∧ s.samples = s'.samples := by
  rw [Sysctls.agrees, and_eq_true, beq_iff_eq, beq_iff_eq]

theorem Sysctls.agrees_trans {s s' s'' : Sysctls} (one : s.agrees s' = true)
    (two : s'.agrees s'' = true) : s.agrees s'' = true := by
  rw [agrees_iff] at *
  exact ⟨one.1.trans two.1, one.2.trans two.2⟩

theorem localCaps_agrees {s s' : Sysctls} (agrees : s.agrees s' = true) :
    localCaps s = localCaps s' := by
  obtain ⟨advertises, samples⟩ := Sysctls.agrees_iff.mp agrees
  rw [localCaps, localCaps, advertises, samples]

theorem peerSupports_absent {priv : List UInt8} {authLen : Nat}
    (absent : priv[authLen]? ≠ some privMagic0) :
    peerSupportsWindow priv authLen = false ∧ peerSupportsTstamp priv authLen = false := by
  rw [peerSupportsWindow, peerSupportsTstamp, privPeerCaps, privPeer_absent absent]
  exact ⟨rfl, rfl⟩

theorem supports_request (derived : Derived sha256 created configured i)
    (derived' : Derived sha256' created' configured' a) {k : Nat} {pad : List UInt8}
    (admitted : pskCheck a (connectPriv i k (localCaps s) ++ pad) = true) :
    peerSupportsWindow (connectPriv i k (localCaps s) ++ pad) a.authLen =
        (decide (i.authLen = a.authLen) && s.advertises) ∧
      peerSupportsTstamp (connectPriv i k (localCaps s) ++ pad) a.authLen =
        (decide (i.authLen = a.authLen) && s.samples) := by
  by_cases same : i.authLen = a.authLen
  · have length := derived.length_connPriv
    rw [decide_eq_true same, Bool.true_and, Bool.true_and, ← same, ← length]
    exact peerSupports_build ..
  · rw [decide_eq_false same, Bool.false_and, Bool.false_and]
    exact peerSupports_absent ((derived.admitted_cases derived' admitted).resolve_left same)

theorem supports_reply (derived : Derived sha256 created configured i)
    (derived' : Derived sha256' created' configured' a) (s : Sysctls) (zeros : Nat) :
    peerSupportsWindow (replyPriv a (localCaps s) ++ List.replicate zeros 0) i.authLen =
        (decide (i.authLen = a.authLen) && s.advertises) ∧
      peerSupportsTstamp (replyPriv a (localCaps s) ++ List.replicate zeros 0) i.authLen =
        (decide (i.authLen = a.authLen) && s.samples) := by
  by_cases same : i.authLen = a.authLen
  · have length := derived'.length_connPriv
    rw [decide_eq_true same, Bool.true_and, Bool.true_and, same, ← length]
    exact peerSupports_build ..
  · rw [decide_eq_false same, Bool.false_and, Bool.false_and]
    refine peerSupports_absent ?_
    rcases derived.authLen_cases with ⟨made, with33⟩ | ⟨unmade, without⟩ <;>
      rcases derived'.authLen_cases with ⟨made', with33'⟩ | ⟨unmade', without'⟩
    · exact absurd (with33.trans with33'.symm) same
    · -- behind the short reply there are only zeros
      rw [with33, replyPriv, without', take_zero, privBuildFull, nil_append,
        List.getElem?_append_right (by simp [pskHashLen]), List.getElem?_replicate]
      split <;> simp [privMagic0]
    · rw [without, ← List.head?_eq_getElem?, replyPriv, derived'.head_priv, if_pos made']
      decide
    · exact absurd (without.trans without'.symm) same

end Readers

/-! ## What a quiet run settles -/

namespace Pair

structure Side (i a : Endpoint) (role : Bool) (mine theirs : Sysctls) (q : Qps) : Prop where
  numQps : q.numQps = i.numQps.1
  role : q.isInitiator = role
  live : q.Live
  latched : q.connected = true →
    q.windowNegotiated =
        (mine.advertises && (decide (i.authLen = a.authLen) && theirs.advertises)) ∧
      q.tstampNegotiated = (mine.samples && (decide (i.authLen = a.authLen) && theirs.samples))

structure Answers (i a : Endpoint) (si sa : Sysctls) (q : Qps) (k slot : Nat)
    (reply : List UInt8) (up : Bool) : Prop where
  reply : reply = replyPriv a (localCaps sa)
  own : 1 < i.numQps.1 ∧ i.authLen = a.authLen → slot = k
  bound : slot < i.numQps.1
  up : q.up slot = up
  held : q.held slot = true
  window : (q.qp slot).peerSupportsWindow = (decide (i.authLen = a.authLen) && si.advertises)
  tstamp : (q.qp slot).peerSupportsTstamp = (decide (i.authLen = a.authLen) && si.samples)

structure Settled (i a : Endpoint) (si sa : Sysctls) (p : Pair) : Prop where
  side : Side i a true si sa p.initiator.qps
  side' : Side i a false sa si p.acceptor.qps
  slots : p.acceptor.qps.Slots
  inside : ∀ k, p.link k ≠ .idle → k < i.numQps.1
  requested : ∀ k priv, p.link k = .requested priv → priv = connectPriv i k (localCaps si)
  answers : ∀ k slot reply up up', p.link k = .answered slot reply up up' →
    Answers i a si sa p.acceptor.qps k slot reply up'
  up : ∀ k, p.initiator.qps.up k = (p.link k).upInitiator
  apart : ∀ k k' slot reply reply' up up' up₁ up₁', p.link k = .answered slot reply up up' →
    p.link k' = .answered slot reply' up₁ up₁' → k = k'
  free : ∀ slot, p.acceptor.qps.up slot = true → p.acceptor.qps.held slot = true
  holder : ∀ slot, p.acceptor.qps.held slot = true →
    ∃ k reply up up', p.link k = .answered slot reply up up'
  inTurn : ¬(1 < i.numQps.1 ∧ i.authLen = a.authLen) → ∀ slot,
    (p.acceptor.qps.held slot = true ↔ slot < p.acceptor.qps.qpsAccepted)
  sending : ∀ k, p.link k ≠ .idle → p.initiator.qps.connected = false →
    p.initiator.sysctls.agrees si = true
  sending' : ∀ k, (p.link k).isAnswered = true → p.acceptor.qps.connected = false →
    p.acceptor.sysctls.agrees sa = true

section Steps

variable {i a : Endpoint} {si sa : Sysctls} {p : Pair}

theorem settled_init (equal : i.numQps = a.numQps) (s s' si sa : Sysctls)
    (numBufs numBufs' : Nat) : Settled i a si sa (init i a s s' numBufs numBufs') where
  side := ⟨rfl, rfl, Qps.live_init true numBufs i.numQps.2.1, nofun⟩
  side' := ⟨by rw [equal]; rfl, rfl, Qps.live_init false numBufs' a.numQps.2.1, nofun⟩
  slots := Qps.slots_init false numBufs' (NumQps.word a.numQps)
  inside := fun _ busy => absurd rfl busy
  requested := nofun
  answers := nofun
  up := fun _ => rfl
  apart := nofun
  free := nofun
  holder := nofun
  inTurn := fun _ slot => iff_of_false false_ne_true (Nat.not_lt_zero slot)
  sending := fun _ busy => absurd rfl busy
  sending' := nofun

variable {k slot : Nat}

theorem Side.unconnected {role : Bool} {q : Qps} (x : Side i a role si sa q)
    (bound : slot < i.numQps.1) (down : q.up slot = false) : q.connected = false := by
  rw [eq_false_iff]
  intro connected
  have up := x.live.latched.mp connected slot (x.numQps.symm ▸ bound)
  cases down.symm.trans up

section

variable (x : Settled i a si sa p)
include x

theorem Settled.agreed : p.Agreed := by
  intro connected connected'
  obtain ⟨window, tstamp⟩ := x.side.latched connected
  obtain ⟨window', tstamp'⟩ := x.side'.latched connected'
  rw [window, tstamp, window', tstamp']
  constructor
  · cases si.advertises <;> cases sa.advertises <;> simp
  · cases si.samples <;> cases sa.samples <;> simp

theorem Settled.unconnected (bound : k < i.numQps.1) (down : (p.link k).upInitiator = false) :
    p.initiator.qps.connected = false :=
  x.side.unconnected bound ((x.up k).trans down)

theorem Settled.unconnected_of_unanswered (none : ∀ k, (p.link k).isAnswered = false) :
    p.initiator.qps.connected = false ∧ p.acceptor.qps.connected = false := by
  have positive := i.numQps.2.1
  constructor
  · exact x.unconnected positive (Link.upInitiator_of_unanswered (none 0))
  · refine x.side'.unconnected positive (eq_false_iff.mpr fun up => ?_)
    obtain ⟨k, reply, up₁, up₁', answered⟩ := x.holder 0 (x.free 0 up)
    have first := none k
    rw [answered] at first
    cases first

theorem Settled.reset (idle : ∀ k, p.link k = .idle) (s : Sysctls) : Settled i a s sa p := by
  obtain ⟨down, down'⟩ := x.unconnected_of_unanswered fun k => by
    rw [idle]
    rfl
  exact { x with
      side := { x.side with latched := fun connected => nomatch down.symm.trans connected }
      side' := { x.side' with latched := fun connected => nomatch down'.symm.trans connected }
      requested := fun k priv link => by rw [idle] at link; cases link
      answers := fun k slot reply up up' link => by rw [idle] at link; cases link
      sending := fun k busy => absurd (idle k) busy }

theorem Settled.reset' (none : ∀ k, (p.link k).isAnswered = false)
    (s : Sysctls) : Settled i a si s p := by
  obtain ⟨down, down'⟩ := x.unconnected_of_unanswered none
  exact { x with
      side := { x.side with latched := fun connected => nomatch down.symm.trans connected }
      side' := { x.side' with latched := fun connected => nomatch down'.symm.trans connected }
      answers := fun k slot reply up up' link => by
        have unanswered := none k
        rw [link] at unanswered
        cases unanswered
      sending' := fun k answered => nomatch (none k).symm.trans answered }

theorem Settled.relink (bound : k < i.numQps.1) {l : Link}
    (before : (p.link k).isAnswered = false) (after : l.isAnswered = false)
    (requests : ∀ priv, l = .requested priv → priv = connectPriv i k (localCaps si))
    (busy : p.link k = .idle → p.initiator.qps.connected = false →
      p.initiator.sysctls.agrees si = true) : Settled i a si sa (p.setLink k l) := by
  have elsewhere : ∀ j ≠ k, (p.setLink k l).link j = p.link j := fun j other =>
    update_of_ne other ..
  have here : (p.setLink k l).link k = l := update_self ..
  have answered : ∀ {j slot reply up up'}, (p.setLink k l).link j = .answered slot reply up up' →
      p.link j = .answered slot reply up up' := by
    intro j slot reply up up' link
    rcases eq_or_ne j k with rfl | self
    · rw [here] at link
      rw [link] at after
      cases after
    · rwa [elsewhere j self] at link
  exact { x with
      inside := fun j there => by
        rcases eq_or_ne j k with rfl | self
        · exact bound
        · exact x.inside j (elsewhere j self ▸ there)
      requested := fun j priv link => by
        rcases eq_or_ne j k with rfl | self
        · exact requests priv (here ▸ link)
        · exact x.requested j priv (elsewhere j self ▸ link)
      answers := fun j slot reply up up' link => x.answers j slot reply up up' (answered link)
      up := fun j => by
        rcases eq_or_ne j k with rfl | self
        · rw [here, Link.upInitiator_of_unanswered after, ← Link.upInitiator_of_unanswered before]
          exact x.up j
        · rw [elsewhere j self]
          exact x.up j
      apart := fun j j' slot reply reply' up up' up₁ up₁' link link' =>
        x.apart j j' slot reply reply' up up' up₁ up₁' (answered link) (answered link')
      holder := fun slot held => by
        obtain ⟨j, reply, up, up', link⟩ := x.holder slot held
        refine ⟨j, reply, up, up', ?_⟩
        rw [elsewhere j, link]
        rintro rfl
        rw [link] at before
        cases before
      sending := fun j there => by
        rcases eq_or_ne j k with rfl | self
        · by_cases idle : p.link j = .idle
          · exact busy idle
          · exact x.sending j idle
        · exact x.sending j (elsewhere j self ▸ there)
      sending' := fun j there => by
        rcases eq_or_ne j k with rfl | self
        · rw [here, after] at there
          cases there
        · exact x.sending' j (elsewhere j self ▸ there) }

theorem Settled.decides {created configured : Option (List UInt8)}
    {sha256 : List UInt8 → Vector UInt8 pskHashLen}
    (derived : Derived sha256 created configured i) {caps : UInt8}
    {pad priv : List UInt8} (link : p.link k = .requested priv)
    (absent : i.authLen = a.authLen ∨ (connectPriv i k caps ++ pad)[a.authLen]? ≠ some privMagic0)
    (decided : p.acceptor.qps.slotDecide ((privPeerQpIndex (connectPriv i k caps ++ pad)
      a.authLen).map UInt8.toNat) = some slot) :
    p.acceptor.qps.held slot = false ∧ (1 < i.numQps.1 ∧ i.authLen = a.authLen → slot = k) ∧
      (¬(1 < i.numQps.1 ∧ i.authLen = a.authLen) → slot = p.acceptor.qps.qpsAccepted) := by
  obtain ⟨chosen, -⟩ := Qps.slotDecide_eq_some_iff.mp decided
  rw [x.side'.numQps] at chosen
  have inside : k < i.numQps.1 := x.inside k (by rw [link]; exact nofun)
  by_cases mode : 1 < i.numQps.1 ∧ i.authLen = a.authLen
  · have self : slot = k := by
      rw [if_pos mode.1, ← mode.2, derived.index_arrives inside] at chosen
      exact chosen.symm
    refine ⟨eq_false_iff.mpr fun held => ?_, fun _ => self, fun other => absurd mode other⟩
    obtain ⟨j, reply, up, up', answered⟩ := x.holder slot held
    have same : k = j := self.symm.trans ((x.answers j slot reply up up' answered).own mode)
    rw [← same, link] at answered
    cases answered
  · have counted : slot = p.acceptor.qps.qpsAccepted := by
      by_cases several : 1 < i.numQps.1
      · have differ : i.authLen ≠ a.authLen := fun same => mode ⟨several, same⟩
        have unread : privPeerQpIndex (connectPriv i k caps ++ pad) a.authLen = none :=
          privPeer_absent (absent.resolve_left differ) _ _
        rw [if_pos several, unread] at chosen
        exact chosen.symm
      · rw [if_neg several] at chosen
        exact chosen.symm
    refine ⟨eq_false_iff.mpr fun held => ?_, fun other => absurd other mode, fun _ => counted⟩
    have below := (x.inTurn mode slot).mp held
    omega

theorem Settled.answer {q : Qps} {c : Capabilities}
    (before : (p.link k).isAnswered = false) (busy : p.link k ≠ .idle)
    (bound : slot < i.numQps.1) (unheld : p.acceptor.qps.held slot = false)
    (claims : Qps.Claims p.acceptor.qps q slot c) (slots : q.Slots) (role : q.isInitiator = false)
    (own : 1 < i.numQps.1 ∧ i.authLen = a.authLen → slot = k)
    (inTurn : ¬(1 < i.numQps.1 ∧ i.authLen = a.authLen) → slot = p.acceptor.qps.qpsAccepted)
    (window : c.window = (decide (i.authLen = a.authLen) && si.advertises))
    (tstamp : c.tstamp = (decide (i.authLen = a.authLen) && si.samples))
    (agrees : p.acceptor.sysctls.agrees sa = true) :
    Settled i a si sa ((p.setLink k (.answered slot (replyPriv a (localCaps p.acceptor.sysctls))
      false false)).setAcceptor q) := by
  have low : p.acceptor.qps.up slot = false := eq_false_iff.mpr fun up =>
    nomatch unheld.symm.trans (x.free slot up)
  rw [localCaps_agrees agrees]
  generalize sends : replyPriv a (localCaps sa) = sent
  generalize next : (p.setLink k (.answered slot sent false false)).setAcceptor q = p'
  have initiator : p'.initiator = p.initiator := next ▸ rfl
  have acceptor : p'.acceptor = ⟨p.acceptor.sysctls, q⟩ := next ▸ rfl
  have elsewhere : ∀ j ≠ k, p'.link j = p.link j := fun j other =>
    next ▸ update_of_ne other ..
  have here : p'.link k = .answered slot sent false false := next ▸ update_self ..
  -- an answered link is the new one, or was answered from another slot
  have answered : ∀ {j s reply up up'}, p'.link j = .answered s reply up up' →
      (j = k ∧ s = slot ∧ reply = sent ∧ up' = false) ∨
        (s ≠ slot ∧ p.link j = .answered s reply up up') := by
    intro j s reply up up' link
    rcases eq_or_ne j k with rfl | self
    · rw [here] at link
      injection link with hs hr _ hu
      exact .inl ⟨rfl, hs.symm, hr.symm, hu.symm⟩
    · rw [elsewhere j self] at link
      refine .inr ⟨fun same => ?_, link⟩
      have held := (x.answers j s reply up up' link).held
      rw [same, unheld] at held
      cases held
  constructor
  case side => exact initiator ▸ x.side
  case side' =>
    rw [acceptor]
    refine ⟨claims.up.numQps.trans x.side'.numQps, role, x.side'.live.congr claims.up, ?_⟩
    intro connected
    rw [claims.up.connected, x.side'.unconnected bound low] at connected
    cases connected
  case slots => exact acceptor ▸ slots
  case inside =>
    intro j there
    rcases eq_or_ne j k with rfl | self
    · exact x.inside j busy
    · exact x.inside j (elsewhere j self ▸ there)
  case requested =>
    intro j priv link
    rcases eq_or_ne j k with rfl | self
    · cases here.symm.trans link
    · exact x.requested j priv (elsewhere j self ▸ link)
  case answers =>
    intro j s reply up up' link
    rw [acceptor]
    rcases answered link with ⟨rfl, rfl, rfl, rfl⟩ | ⟨differs, old⟩
    · refine ⟨sends.symm, own, bound, ?_, (claims.held s).mpr (.inl rfl), ?_, ?_⟩
      · rw [claims.up.up, low]
      · rw [claims.window, window]
      · rw [claims.tstamp, tstamp]
    · have was := x.answers j s reply up up' old
      have kept := claims.rest.qp s differs
      refine { was with
        up := ?_
        held := (claims.held s).mpr (.inr was.held)
        window := kept ▸ was.window
        tstamp := kept ▸ was.tstamp }
      rw [claims.up.up, was.up]
  case up =>
    intro j
    rw [initiator, x.up j]
    rcases eq_or_ne j k with rfl | self
    · rw [here, Link.upInitiator_of_unanswered before]
      rfl
    · rw [elsewhere j self]
  case apart =>
    intro j j' s reply reply' up up' up₁ up₁' link link'
    rcases answered link with ⟨here, new, -, -⟩ | ⟨differs, old⟩ <;>
      rcases answered link' with ⟨here', new', -, -⟩ | ⟨differs', old'⟩
    · rw [here, here']
    · exact absurd new differs'
    · exact absurd new' differs
    · exact x.apart j j' s reply reply' up up' up₁ up₁' old old'
  case free =>
    intro s up
    rw [acceptor] at up ⊢
    rw [claims.up.up] at up
    exact (claims.held s).mpr (.inr (x.free s up))
  case holder =>
    intro s taken
    rw [acceptor] at taken
    rcases (claims.held s).mp taken with rfl | old
    · exact ⟨k, _, _, _, here⟩
    · obtain ⟨j, reply, up, up', link⟩ := x.holder s old
      refine ⟨j, reply, up, up', ?_⟩
      rw [elsewhere j, link]
      rintro rfl
      rw [link] at before
      cases before
  case inTurn =>
    intro mode s
    rw [acceptor, claims.held s, claims.qpsAccepted, x.inTurn mode s]
    omega
  case sending =>
    intro _ _
    rw [initiator]
    exact x.sending k busy
  case sending' =>
    intro _ _ _
    rwa [acceptor]

end

variable {reply : List UInt8}

theorem Settled.mark (x : Settled i a si sa p) {up up' now now' : Bool} {q q' : Qps}
    (link : p.link k = .answered slot reply up up') (side : Side i a true si sa q)
    (marks : ∀ j, q.up j = if j = k then now else p.initiator.qps.up j)
    (side' : Side i a false sa si q') (same' : Qps.SameSlots p.acceptor.qps q')
    (marks' : ∀ s, q'.up s = if s = slot then now' else p.acceptor.qps.up s)
    (supports : ∀ s,
      (q'.qp s).peerSupportsWindow = (p.acceptor.qps.qp s).peerSupportsWindow ∧
        (q'.qp s).peerSupportsTstamp = (p.acceptor.qps.qp s).peerSupportsTstamp)
    (sending : q.connected = false → p.initiator.qps.connected = false)
    (sending' : q'.connected = false → p.acceptor.qps.connected = false) :
    Settled i a si sa
      (((p.setLink k (.answered slot reply now now')).setInitiator q).setAcceptor q') := by
  have busy : p.link k ≠ .idle := link ▸ nofun
  generalize next :
    ((p.setLink k (.answered slot reply now now')).setInitiator q).setAcceptor q' = p'
  have initiator : p'.initiator = ⟨p.initiator.sysctls, q⟩ := next ▸ rfl
  have acceptor : p'.acceptor = ⟨p.acceptor.sysctls, q'⟩ := next ▸ rfl
  have elsewhere : ∀ j ≠ k, p'.link j = p.link j := fun j other =>
    next ▸ update_of_ne other ..
  have here : p'.link k = .answered slot reply now now' := next ▸ update_self ..
  -- every link is answered from the slot it was answered from
  have answered : ∀ {j s r v v'}, p'.link j = .answered s r v v' →
      ∃ w w', p.link j = .answered s r w w' ∧ v' = if s = slot then now' else w' := by
    intro j s r v v' answer
    rcases eq_or_ne j k with rfl | self
    · rw [here] at answer
      injection answer with hs hr _ hv
      subst hs hr
      exact ⟨up, up', link, by rw [if_pos rfl, hv]⟩
    · rw [elsewhere j self] at answer
      refine ⟨v, v', answer, (if_neg fun same => ?_).symm⟩
      subst same
      exact self (x.apart j k s r reply v v' up up' answer link)
  constructor
  case side => exact initiator ▸ side
  case side' => exact acceptor ▸ side'
  case slots => exact acceptor ▸ x.slots.congr same'
  case inside =>
    intro j there
    rcases eq_or_ne j k with rfl | self
    · exact x.inside j busy
    · exact x.inside j (elsewhere j self ▸ there)
  case requested =>
    intro j priv request
    rcases eq_or_ne j k with rfl | self
    · cases here.symm.trans request
    · exact x.requested j priv (elsewhere j self ▸ request)
  case answers =>
    intro j s r v v' answer
    obtain ⟨w, w', before, flag⟩ := answered answer
    have was := x.answers j s r w w' before
    rw [acceptor]
    refine { was with
      up := ?_
      held := same'.held s ▸ was.held
      window := (supports s).1.trans was.window
      tstamp := (supports s).2.trans was.tstamp }
    rw [marks' s, flag, was.up]
  case up =>
    intro j
    rw [initiator, marks j]
    rcases eq_or_ne j k with rfl | self
    · rw [if_pos rfl, here]
      rfl
    · rw [if_neg self, elsewhere j self, x.up j]
  case apart =>
    intro j j' s r r' v v' v₁ v₁' answer answer'
    obtain ⟨w, w', before, -⟩ := answered answer
    obtain ⟨w₁, w₁', before', -⟩ := answered answer'
    exact x.apart j j' s r r' w w' w₁ w₁' before before'
  case free =>
    intro s raised
    rw [acceptor] at raised ⊢
    rw [same'.held]
    rw [marks' s] at raised
    split at raised
    · rename_i self
      rw [self, (x.answers k slot reply up up' link).held]
    · exact x.free s raised
  case holder =>
    intro s taken
    rw [acceptor, same'.held] at taken
    obtain ⟨j, r, w, w', before⟩ := x.holder s taken
    rcases eq_or_ne j k with rfl | self
    · injection link.symm.trans before with hs
      exact ⟨j, reply, now, now', hs ▸ here⟩
    · exact ⟨j, r, w, w', (elsewhere j self).trans before⟩
  case inTurn =>
    intro mode s
    rw [acceptor, same'.held, same'.qpsAccepted]
    exact x.inTurn mode s
  case sending =>
    intro j _ down
    rw [initiator] at down ⊢
    exact x.sending k busy (sending down)
  case sending' =>
    intro j _ down
    rw [acceptor] at down ⊢
    refine x.sending' k ?_ (sending' down)
    rw [link]
    rfl

variable {sha256 sha256' : List UInt8 → Vector UInt8 pskHashLen}
  {created created' configured configured' : Option (List UInt8)}

section

variable (x : Settled i a si sa p)
include x

theorem Settled.establishedInitiator (derived : Derived sha256 created configured i)
    (derived' : Derived sha256' created' configured' a) {zeros : Nat}
    {up' : Bool} (link : p.link k = .answered slot reply false up') :
    Settled i a si sa ((p.setLink k (.answered slot reply true up')).setInitiator
      (p.initiator.qps.established k
        (capabilities i p.initiator.sysctls (reply ++ List.replicate zeros 0)))) := by
  have answers := x.answers k slot reply false up' link
  have busy : p.link k ≠ .idle := link ▸ nofun
  have inside := x.inside k busy
  have was : p.initiator.qps.up k = false := by
    rw [x.up k, link]
    rfl
  have down := x.side.unconnected inside was
  obtain ⟨advertises, samples⟩ := Sysctls.agrees_iff.mp (x.sending k busy down)
  obtain ⟨window, tstamp⟩ := supports_reply derived derived' sa zeros
  rw [← answers.reply] at window tstamp
  have bound : k < p.initiator.qps.numQps := x.side.numQps.symm ▸ inside
  have word : p.initiator.qps.numQps < 2 ^ 32 := x.side.numQps ▸ NumQps.word i.numQps
  generalize told : capabilities i p.initiator.sysctls (reply ++ List.replicate zeros 0) = c
  refine x.mark link ⟨?_, ?_, x.side.live.established word bound was c, ?_⟩
    (Qps.up_established c bound) x.side' (Qps.SameSlots.refl _) ?_ (fun _ => ⟨rfl, rfl⟩)
    (fun _ => down) id
  · rw [Qps.numQps_established, x.side.numQps]
  · rw [← x.side.role]
    exact Qps.isInitiator_cm _ (.established k c)
  · intro connected
    obtain ⟨latchedWindow, latchedTstamp⟩ := Qps.negotiated_established c bound down connected
    rw [latchedWindow, latchedTstamp, Qps.establish, if_pos x.side.role, if_pos x.side.role,
      ← told, capabilities, window, tstamp, advertises, samples]
    exact ⟨rfl, rfl⟩
  · intro s
    split
    · rename_i self
      rw [self, answers.up]
    · rfl

theorem Settled.establishedAcceptor {up : Bool} (link : p.link k = .answered slot reply up false) :
    Settled i a si sa ((p.setLink k (.answered slot reply up true)).setAcceptor
      (p.acceptor.qps.established slot (capabilities a p.acceptor.sysctls []))) := by
  have answers := x.answers k slot reply up false link
  have down := x.side'.unconnected answers.bound answers.up
  have agrees := x.sending' k (by rw [link]; rfl) down
  obtain ⟨advertises, samples⟩ := Sysctls.agrees_iff.mp agrees
  have bound : slot < p.acceptor.qps.numQps := x.side'.numQps.symm ▸ answers.bound
  generalize told : capabilities a p.acceptor.sysctls [] = c
  have acceptor : ¬p.acceptor.qps.isInitiator = true := eq_false_iff.mp x.side'.role
  refine x.mark link x.side ?_
    ⟨?_, ?_, x.side'.live.established x.slots.word bound answers.up c, ?_⟩
    (Qps.sameSlots_established _ slot c) (Qps.up_established c bound) ?_ id (fun _ => down)
  · intro j
    split
    · rename_i self
      rw [self, x.up k, link]
      rfl
    · rfl
  · rw [Qps.numQps_established, x.side'.numQps]
  · rw [← x.side'.role]
    exact Qps.isInitiator_cm _ (.established slot c)
  · intro connected
    obtain ⟨latchedWindow, latchedTstamp⟩ := Qps.negotiated_established c bound down connected
    rw [latchedWindow, latchedTstamp, Qps.establish, if_neg acceptor, if_neg acceptor,
      answers.window, answers.tstamp, ← told, capabilities, advertises, samples]
    exact ⟨rfl, rfl⟩
  · intro s
    rw [Qps.qp_established c bound]
    constructor
    · exact Qps.update_keeps _ slot Qp.peerSupportsWindow (if_neg acceptor) s
    · exact Qps.update_keeps _ slot Qp.peerSupportsTstamp (if_neg acceptor) s

theorem Settled.accept (derived : Derived sha256 created configured i)
    (derived' : Derived sha256' created' configured' a) {priv pad : List UInt8}
    (link : p.link k = .requested priv) (admitted : pskCheck a (priv ++ pad) = true) :
    ∃ sa', Settled i a si sa' (p.accept a k (priv ++ pad)) := by
  have before : (p.link k).isAnswered = false := by
    rw [link]
    rfl
  have busy : p.link k ≠ .idle := link ▸ nofun
  obtain rfl := x.requested k priv link
  obtain ⟨window, tstamp⟩ := supports_request derived derived' admitted
  unfold Pair.accept
  dsimp only
  split
  · exact ⟨sa, x.relink (x.inside k busy) before rfl nofun fun idle => absurd idle busy⟩
  · rename_i slot decided
    obtain ⟨unheld, own, inTurn⟩ :=
      x.decides derived link (derived.admitted_cases derived' admitted) decided
    have bound : slot < i.numQps.1 := x.side'.numQps ▸ Qps.slotDecide_lt decided
    have low : p.acceptor.qps.up slot = false := eq_false_iff.mpr fun up =>
      nomatch unheld.symm.trans (x.free slot up)
    have claims := x.slots.claims_acceptOne decided unheld low
    -- the first answer fixes what the acceptor sends
    obtain ⟨sa', agrees, x⟩ :
        ∃ sa', p.acceptor.sysctls.agrees sa' = true ∧ Settled i a si sa' p := by
      by_cases first : ∀ j, (p.link j).isAnswered = false
      · exact ⟨p.acceptor.sysctls, Sysctls.agrees_iff.mpr ⟨rfl, rfl⟩, x.reset' first _⟩
      · push Not at first
        obtain ⟨j, answered⟩ := first
        have answered : (p.link j).isAnswered = true := not_eq_false _ ▸ answered
        exact ⟨sa, x.sending' j answered (x.side'.unconnected bound low), x⟩
    refine ⟨sa', x.answer before busy bound unheld (claims _) (x.slots.acceptOne ..) ?_ own
      inTurn window tstamp agrees⟩
    rw [← x.side'.role]
    exact Qps.isInitiator_cm _ (.connectRequest ..)

theorem Settled.connect (inside : k < i.numQps.1)
    (link : p.link k = .idle) : ∃ si', Settled i a si' sa
      (p.setLink k (.requested (connectPriv i k (localCaps p.initiator.sysctls)))) := by
  -- the first request fixes what the initiator sends
  obtain ⟨si', agrees, x⟩ : ∃ si', p.initiator.sysctls.agrees si' = true ∧
      Settled i a si' sa p := by
    by_cases first : ∀ j, p.link j = .idle
    · exact ⟨p.initiator.sysctls, Sysctls.agrees_iff.mpr ⟨rfl, rfl⟩, x.reset first _⟩
    · push Not at first
      obtain ⟨j, busy⟩ := first
      exact ⟨si, x.sending j busy (x.unconnected inside (by rw [link]; rfl)), x⟩
  refine ⟨si', x.relink inside (by rw [link]; rfl) rfl ?_ fun _ _ => agrees⟩
  intro priv requested
  injection requested with sent
  rw [← sent, localCaps_agrees agrees]

theorem Settled.writeInitiator (quiet : p.quiet (.writeInitiator s) = true) :
    Settled i a si sa { p with initiator := { p.initiator with sysctls := s } } := by
  refine { x with sending := fun k busy down => ?_ }
  simp only [Pair.quiet, or_eq_true, all_eq_true, mem_range, decide_eq_true_eq,
    x.side.numQps] at quiet
  rcases quiet with (same | connected) | idle
  · exact Sysctls.agrees_trans same (x.sending k busy down)
  · exact absurd (Eq.trans down.symm connected) false_ne_true
  · exact absurd (idle k (x.inside k busy)) busy

theorem Settled.writeAcceptor (quiet : p.quiet (.writeAcceptor s) = true) :
    Settled i a si sa { p with acceptor := { p.acceptor with sysctls := s } } := by
  refine { x with sending' := fun k answered down => ?_ }
  simp only [Pair.quiet, or_eq_true, all_eq_true, mem_range, not_eq_true',
    x.side.numQps] at quiet
  rcases quiet with (same | connected) | unanswered
  · exact Sysctls.agrees_trans same (x.sending' k answered down)
  · exact absurd (Eq.trans down.symm connected) false_ne_true
  · have inside := x.inside k fun idle => by
      rw [idle] at answered
      cases answered
    exact absurd (Eq.trans (unanswered k inside).symm answered) false_ne_true

theorem Settled.step (derived : Derived sha256 created configured i)
    (derived' : Derived sha256' created' configured' a) {e : PairEvent} {p' : Pair}
    (quiet : p.quiet e = true) (moved : p.step i a e = some p') :
    ∃ si' sa', Settled i a si' sa' p' := by
  cases e with
  | connect k =>
    obtain ⟨⟨inside, link⟩, rfl⟩ := guarded moved
    obtain ⟨si', settled⟩ := x.connect (x.side.numQps ▸ inside) link
    exact ⟨si', sa, settled⟩
  | accept k zeros =>
    simp only [Pair.step] at moved
    split at moved
    · rename_i priv link
      cases moved
      split
      · rename_i admitted
        obtain ⟨sa', settled⟩ := x.accept derived derived' link admitted
        exact ⟨si, sa', settled⟩
      · have busy : p.link k ≠ .idle := link ▸ nofun
        exact ⟨si, sa, x.relink (x.inside k busy) (by rw [link]; rfl) rfl nofun
          fun idle => absurd idle busy⟩
    · cases moved
  | establishedInitiator k zeros =>
    simp only [Pair.step] at moved
    split at moved
    · rename_i slot reply up' link
      cases moved
      exact ⟨si, sa, x.establishedInitiator derived derived' link⟩
    · cases moved
  | establishedAcceptor k =>
    simp only [Pair.step] at moved
    split at moved
    · rename_i slot reply up link
      cases moved
      exact ⟨si, sa, x.establishedAcceptor link⟩
    · cases moved
  | writeInitiator s =>
    cases moved
    exact ⟨si, sa, x.writeInitiator quiet⟩
  | writeAcceptor s =>
    cases moved
    exact ⟨si, sa, x.writeAcceptor quiet⟩

end

end Steps

/-- Two hosts of any number of queue pairs, in any order of the steps on both and with any writes:
if no write changes what a host enables between its first message and its connection, both have the
same in force once both are connected. -/
theorem negotiated_agree_of_quiet {sha256 sha256' : List UInt8 → Vector UInt8 pskHashLen}
    {fastEnabled fastEnabled' : Bool} (commands commands' : List Command) {i a : Endpoint}
    (initiator : (Account.run sha256 fastEnabled commands).endpoint = some i)
    (acceptor : (Account.run sha256' fastEnabled' commands').endpoint = some a)
    (equal : i.numQps = a.numQps) (s s' : Sysctls) (numBufs numBufs' : Nat)
    {events : List PairEvent} {p : Pair}
    (reached : run (step i a) (init i a s s' numBufs numBufs') events = some p)
    (quietly : Along (step i a) (fun p e => p.quiet e = true) (init i a s s' numBufs numBufs')
      events) : p.Agreed := by
  have derived := Account.kept_run commands i initiator
  have derived' := Account.kept_run commands' a acceptor
  have start : ∃ si sa, Settled i a si sa (init i a s s' numBufs numBufs') :=
    ⟨s, s', settled_init equal s s' s s' numBufs numBufs'⟩
  obtain ⟨si, sa, settled⟩ : ∃ si sa, Settled i a si sa p := by
    refine run_preserves (P := fun p => ∃ si sa, Settled i a si sa p) ?_ start quietly reached
    rintro p e p' ⟨si, sa, x⟩ quiet moved
    exact x.step derived derived' quiet moved
  exact settled.agreed

def negotiating : List PairEvent :=
  [.writeInitiator ⟨0, 1⟩, .connect 0, .writeAcceptor ⟨1, 9⟩, .accept 0 4, .connect 1,
    .writeInitiator ⟨0, 7⟩, .accept 1 0, .establishedAcceptor 1, .establishedInitiator 0 2,
    .establishedInitiator 1 0, .writeInitiator ⟨1, 0⟩, .establishedAcceptor 0,
    .writeAcceptor ⟨0, 0⟩]

theorem negotiated_agree_two_links : ∃ i a p, (Account.run plainDigest false [newEndpoint
        { initiatorConfig none with numQps := some ⟨2, by decide⟩ }]).endpoint = some i ∧
      (Account.run plainDigest false [newEndpoint
        { acceptorConfig none with numQps := some ⟨2, by decide⟩ }]).endpoint = some a ∧
      run (step i a) (init i a ⟨1, 0⟩ ⟨1, 0⟩ 16 16) negotiating = some p ∧
      p.initiator.qps.connected = true ∧ p.acceptor.qps.connected = true ∧
      p.initiator.qps.tstampNegotiated = true ∧ p.acceptor.qps.tstampNegotiated = true ∧
      p.Agreed := by
  have made : ∃ i a, (Account.run plainDigest false [newEndpoint
        { initiatorConfig none with numQps := some ⟨2, by decide⟩ }]).endpoint = some i ∧
      (Account.run plainDigest false [newEndpoint
        { acceptorConfig none with numQps := some ⟨2, by decide⟩ }]).endpoint = some a ∧
      i.numQps = a.numQps ∧
      (∃ p, run (step i a) (init i a ⟨1, 0⟩ ⟨1, 0⟩ 16 16) negotiating = some p ∧
        p.initiator.qps.connected = true ∧ p.acceptor.qps.connected = true ∧
        p.initiator.qps.tstampNegotiated = true ∧ p.acceptor.qps.tstampNegotiated = true) ∧
      Along (step i a) (fun p e => quiet p e) (init i a ⟨1, 0⟩ ⟨1, 0⟩ 16 16) negotiating :=
    ⟨_, _, rfl, rfl, rfl, by decide +kernel, by decide +kernel⟩
  obtain ⟨i, a, initiator, acceptor, equal, ⟨p, reached, up, up', window, window'⟩, quietly⟩ := made
  exact ⟨i, a, p, initiator, acceptor, reached, up, up', window, window',
    negotiated_agree_of_quiet _ _ initiator acceptor equal ⟨1, 0⟩ ⟨1, 0⟩ 16 16 reached quietly⟩

def rewritten : List PairEvent :=
  [.connect 0, .accept 0 0, .establishedInitiator 0 0, .writeAcceptor ⟨0, 0⟩,
    .establishedAcceptor 0]

theorem write_between_reply_and_latch :
    ∃ i a p, (Account.run plainDigest false [newEndpoint (initiatorConfig none)]).endpoint =
        some i ∧
      (Account.run plainDigest false [newEndpoint (acceptorConfig none)]).endpoint = some a ∧
      i.numQps = a.numQps ∧
      run (step i a) (init i a ⟨1, 0⟩ ⟨1, 0⟩ 16 16) rewritten = some p ∧
      p.initiator.qps.connected = true ∧ p.acceptor.qps.connected = true ∧
      p.initiator.qps.windowNegotiated = true ∧ p.acceptor.qps.windowNegotiated = false := by
  refine ⟨_, _, exists_and_left.mpr ⟨rfl, exists_and_left.mpr ⟨rfl, exists_and_left.mpr ⟨rfl, ?_⟩⟩⟩⟩
  decide +kernel

end Pair

end Urp.Conn
