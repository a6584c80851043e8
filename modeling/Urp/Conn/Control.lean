import Mathlib.Data.Vector.Defs
import Urp.Conn.PrivateData

/-!
# The commands that configure an endpoint

An endpoint is made with NEW, changed with SET and removed with DEL.
-/

namespace Urp.Control

open Urp.Lib Urp.Conn Option
open List hiding Vector

def passwordMax : Nat := 16

def pskHashLen : Nat := 32

def pskAuthMethodSha256 : UInt8 := 1

def numQpsMax : Nat := 32

/-- A string attribute copied into a buffer of `size` bytes, which is padded with zeros. -/
def nlaStrscpy (size : Nat) (attr : List UInt8) : List UInt8 :=
  let src := if attr.getLast? = some 0 then attr.dropLast else attr
  let copied := src.take (size - 1)
  copied ++ List.replicate (size - copied.length) 0

def isSet (field : List UInt8) : Bool := field.headD 0 ≠ 0

inductive EpMode where
  | multistream | k0
deriving DecidableEq, Repr

inductive EpKind where
  | uds | fast
deriving DecidableEq, Repr

def EpKind.byte : EpKind → UInt8
  | .uds => 0
  | .fast => 1

inductive EpState where
  | creating | active | draining | stopped
deriving DecidableEq, Repr

abbrev NumQps := { n : Nat // 1 ≤ n ∧ n ≤ numQpsMax }

theorem NumQps.word (numQps : NumQps) : numQps.1 < 2 ^ 32 := by
  have most := numQps.2.2
  unfold numQpsMax at most
  omega

/-- The `cfg` of `urp_new_endpoint_doit`. -/
structure Config where
  name : List UInt8
  listenPath : List UInt8
  connectPath : List UInt8
  hasPeerAddr : Bool
  hasBindAddr : Bool
  numQps : Option NumQps
  bufferCount : Option Nat
  bufferSize : Option Nat
  mode : EpMode
  kind : EpKind
  password : Option (List UInt8)

structure Endpoint where
  isInitiator : Bool
  numQps : NumQps
  bufferCount : Nat
  bufferSize : Nat
  mode : EpMode
  kind : EpKind
  hasPassword : Bool
  password : List UInt8
  passwordHash : List UInt8
  authPriv : List UInt8
  authLen : Nat
  connPriv : List UInt8
  state : EpState
  qps : Bool
deriving DecidableEq

/-- What `urp_set_endpoint_doit` reads. -/
structure Attrs where
  state : Option EpState
  numQps : Option NumQps
  bufferCount : Option Nat
  password : Option (List UInt8)

section Commands

variable (sha256 : List UInt8 → Vector UInt8 pskHashLen)

def token (key : List UInt8) : List UInt8 := pskAuthMethodSha256 :: (sha256 key).toList

/-- The record of a new endpoint. `advertise` is the live setting. -/
def fill (advertise : Nat) (cfg : Config) : Endpoint :=
  let key := nlaStrscpy passwordMax (cfg.password.getD [])
  let hash := if cfg.password.isSome then (sha256 key).toList else List.replicate pskHashLen 0
  let authPriv := if cfg.password.isSome then pskAuthMethodSha256 :: hash
    else List.replicate (1 + pskHashLen) 0
  let authLen := if cfg.password.isSome then 1 + pskHashLen else 0
  { isInitiator := isSet cfg.listenPath
    numQps := cfg.numQps.getD ⟨1, by decide⟩
    bufferCount := cfg.bufferCount.getD 1024
    bufferSize := cfg.bufferSize.getD 4096
    mode := cfg.mode
    kind := cfg.kind
    hasPassword := cfg.password.isSome
    password := List.replicate passwordMax 0
    passwordHash := hash
    authPriv := authPriv
    authLen := authLen
    connPriv := privBuildFull (authPriv.take authLen) cfg.kind.byte 0
      (if advertise ≠ 0 then capWindowBytes else 0)
    state := .creating
    qps := false }

/-- The attributes of NEW are checked before the record is filled. `fastEnabled` is the build. -/
def create (fastEnabled : Bool) (advertise : Nat) (cfg : Config) : Except Errno Endpoint :=
  let initiator := isSet cfg.listenPath
  if !isSet cfg.name then .error .EINVAL
  else if initiator && isSet cfg.connectPath then .error .EINVAL
  else if !initiator && !isSet cfg.connectPath then .error .EINVAL
  else if initiator && !cfg.hasPeerAddr then .error .EINVAL
  else if !initiator && !cfg.hasBindAddr then .error .EINVAL
  else if cfg.kind = .fast ∧ !fastEnabled then .error .EOPNOTSUPP
  else .ok (fill sha256 advertise cfg)

def setSizing {α : Type} [DecidableEq α] (allocated : Bool) (want : Option α) (field : α) :
    Except Errno α :=
  match want with
  | none => .ok field
  | some want => if allocated ∧ want ≠ field then .error .EBUSY else .ok want

def drain (ep : Endpoint) : Endpoint := { ep with state := .stopped, qps := false }

def setPassword (ep : Endpoint) (password : Option (List UInt8)) : Endpoint :=
  match password with
  | none => ep
  | some attr => { ep with password := nlaStrscpy passwordMax attr, hasPassword := true }

def setEndpoint (ep : Endpoint) (attrs : Attrs) : Endpoint × Except Errno Unit :=
  if attrs.state.any (· ≠ .draining) then (ep, .error .EINVAL)
  else
    match setSizing ep.qps attrs.numQps ep.numQps with
    | .error e => (ep, .error e)
    | .ok numQps =>
      let ep := { ep with numQps }
      match setSizing ep.qps attrs.bufferCount ep.bufferCount with
      | .error e => (ep, .error e)
      | .ok bufferCount =>
        let ep := setPassword { ep with bufferCount } attrs.password
        (if attrs.state.isSome then drain ep else ep, .ok ())

inductive Command where
  | new (cfg : Config) (advertise : Nat) (allocated activated : Bool)
  | set (attrs : Attrs)
  | del

/-- The endpoint of a name, and the keys that it was made with and that were set last. -/
structure Account where
  endpoint : Option Endpoint
  created : Option (List UInt8)
  configured : Option (List UInt8)

def Account.empty : Account := ⟨none, none, none⟩

def Account.apply (fastEnabled : Bool) (x : Account) : Command → Account
  | .new cfg advertise allocated activated =>
    match create sha256 fastEnabled advertise cfg, x.endpoint with
    | .ok ep, none =>
      let key := cfg.password.map (nlaStrscpy passwordMax)
      if allocated && activated then ⟨some { ep with state := .active, qps := true }, key, key⟩
      else x
    | _, _ => x
  | .set attrs =>
    match x.endpoint with
    | none => x
    | some ep =>
      match setEndpoint ep attrs with
      | (ep, .error _) => { x with endpoint := some ep }
      | (ep, .ok _) =>
        { x with
          endpoint := some ep
          configured := (attrs.password.map (nlaStrscpy passwordMax)).or x.configured }
  | .del => .empty

def Account.run (fastEnabled : Bool) (commands : List Command) : Account :=
  commands.foldl (Account.apply sha256 fastEnabled) .empty

end Commands

def pskCheck (ep : Endpoint) (priv : List UInt8) : Bool :=
  if ep.hasPassword then
    !(decide (priv.length < 1 + pskHashLen) || decide (priv.take (1 + pskHashLen) ≠ ep.authPriv))
  else true

/-- The private data of the request for the queue pair `index`. -/
def connectPriv (ep : Endpoint) (index : Nat) (caps : UInt8) : List UInt8 :=
  privBuildFull (ep.connPriv.take ep.authLen) ep.kind.byte (UInt8.ofNat index) caps

def replyPriv (ep : Endpoint) (caps : UInt8) : List UInt8 :=
  privBuildFull (ep.connPriv.take ep.authLen) ep.kind.byte 0 caps

/-! ## What the commands keep -/

section Invariant

variable {sha256 : List UInt8 → Vector UInt8 pskHashLen} {fastEnabled : Bool}

structure Derived (sha256 : List UInt8 → Vector UInt8 pskHashLen)
    (created configured : Option (List UInt8)) (ep : Endpoint) : Prop where
  flag : ep.hasPassword = configured.isSome
  made : created.isSome = true → configured.isSome = true
  authPriv : ep.authPriv = (created.map (token sha256)).getD (List.replicate (1 + pskHashLen) 0)
  authLen : ep.authLen = if created.isSome then 1 + pskHashLen else 0
  connPriv : ep.connPriv.take ep.authLen = ep.authPriv.take ep.authLen

@[simp] theorem length_token (key : List UInt8) : (token sha256 key).length = 1 + pskHashLen := by
  simp [token, Nat.add_comm]

variable {created configured : Option (List UInt8)} {ep : Endpoint}

section

variable (derived : Derived sha256 created configured ep)
include derived

theorem Derived.length_authPriv : ep.authPriv.length = 1 + pskHashLen := by
  rw [derived.authPriv]
  cases created <;> simp

theorem Derived.congr {configured' : Option (List UInt8)} {ep' : Endpoint}
    (flag : ep'.hasPassword = configured'.isSome)
    (made : configured.isSome = true → configured'.isSome = true)
    (authPriv : ep'.authPriv = ep.authPriv) (authLen : ep'.authLen = ep.authLen)
    (connPriv : ep'.connPriv = ep.connPriv) : Derived sha256 created configured' ep' where
  flag := flag
  made := made ∘ derived.made
  authPriv := authPriv.trans derived.authPriv
  authLen := authLen.trans derived.authLen
  connPriv := by
    rw [connPriv, authLen, authPriv]
    exact derived.connPriv

theorem Derived.authLen_cases :
    (created.isSome = true ∧ ep.authLen = 1 + pskHashLen) ∨
      (created.isSome = false ∧ ep.authLen = 0) := by
  rw [derived.authLen]
  cases created <;> simp

theorem Derived.length_connPriv : (ep.connPriv.take ep.authLen).length = ep.authLen := by
  rw [derived.connPriv, length_take, derived.length_authPriv]
  rcases derived.authLen_cases with ⟨-, same⟩ | ⟨-, same⟩ <;> rw [same] <;> rfl

theorem Derived.head_priv (kind qpIndex caps : UInt8) (pad : List UInt8) :
    (privBuildFull (ep.connPriv.take ep.authLen) kind qpIndex caps ++ pad).head? =
      some (if created.isSome then pskAuthMethodSha256 else privMagic0) := by
  rw [privBuildFull, derived.connPriv, derived.authPriv, derived.authLen]
  cases created with
  | none | some key => rfl

omit derived in
theorem take_privBuildFull (auth : List UInt8) (kind qpIndex caps : UInt8) {n : Nat}
    (length : auth.length = n) : (privBuildFull auth kind qpIndex caps).take n = auth := by
  rw [privBuildFull, ← length, take_left]

omit derived in
theorem derived_fill (sha256 : List UInt8 → Vector UInt8 pskHashLen) (advertise : Nat)
    (cfg : Config) :
    Derived sha256 (cfg.password.map (nlaStrscpy passwordMax))
      (cfg.password.map (nlaStrscpy passwordMax)) (fill sha256 advertise cfg) := by
  cases password : cfg.password with
  | none =>
    refine ⟨by simp [fill, password], fun h => h, by simp [fill, password],
      by simp [fill, password], ?_⟩
    simp only [fill, password]
    exact take_privBuildFull _ _ _ _ rfl
  | some attr =>
    refine ⟨by simp [fill, password], fun h => h, by simp [fill, password, token],
      by simp [fill, password], ?_⟩
    simp only [fill, password]
    exact take_privBuildFull _ _ _ _ (by simp [Nat.add_comm])

omit derived in
theorem create_ok {advertise : Nat} {cfg : Config}
    (made : create sha256 fastEnabled advertise cfg = .ok ep) : ep = fill sha256 advertise cfg := by
  unfold create at made
  dsimp only at made
  split_ifs at made
  exact (Except.ok.inj made).symm

theorem derived_setEndpoint (attrs : Attrs) :
    ((∃ e, (setEndpoint ep attrs).2 = .error e) →
        Derived sha256 created configured (setEndpoint ep attrs).1) ∧
      ((setEndpoint ep attrs).2 = .ok () →
        Derived sha256 created ((attrs.password.map (nlaStrscpy passwordMax)).or configured)
          (setEndpoint ep attrs).1) := by
  unfold setEndpoint
  split
  · exact ⟨fun _ => derived, by simp⟩
  · split
    · exact ⟨fun _ => derived, by simp⟩
    · simp only
      split
      · exact ⟨fun _ => derived.congr derived.flag (fun h => h) rfl rfl rfl, by simp⟩
      · refine ⟨fun ⟨e, failed⟩ => by simp at failed, fun _ => ?_⟩
        cases attrs.password with
        | none =>
          simp only [setPassword, map_none, none_or]
          split <;> exact derived.congr derived.flag (fun h => h) rfl rfl rfl
        | some attr =>
          simp only [setPassword, map_some, some_or]
          split <;> exact derived.congr rfl (fun _ => rfl) rfl rfl rfl

end

def Account.Kept (sha256 : List UInt8 → Vector UInt8 pskHashLen) (x : Account) : Prop :=
  ∀ ep, x.endpoint = some ep → Derived sha256 x.created x.configured ep

theorem Account.Kept.apply {x : Account} (kept : x.Kept sha256) (command : Command) :
    (x.apply sha256 fastEnabled command).Kept sha256 := by
  cases command with
  | new cfg advertise allocated activated =>
    simp only [Account.apply]
    split
    · rename_i ep made absent
      split
      · intro ep' present
        cases present
        obtain rfl := create_ok made
        have derived := derived_fill sha256 advertise cfg
        exact derived.congr derived.flag (fun h => h) rfl rfl rfl
      · exact kept
    · exact kept
  | set attrs =>
    simp only [Account.apply]
    split
    · exact kept
    · rename_i ep present
      obtain ⟨failing, passing⟩ := derived_setEndpoint (kept ep present) attrs
      split
      · rename_i ep' e failed
        intro ep'' stored
        cases stored
        have derived := failing ⟨e, by rw [failed]⟩
        rwa [failed] at derived
      · rename_i ep' done passed
        intro ep'' stored
        cases stored
        have derived := passing (by rw [passed])
        rwa [passed] at derived
  | del => exact fun ep present => by simp [Account.apply, Account.empty] at present

theorem Account.kept_run (commands : List Command) :
    (Account.run sha256 fastEnabled commands).Kept sha256 := by
  have start : Account.empty.Kept sha256 := fun ep present => by simp [Account.empty] at present
  unfold Account.run
  generalize Account.empty = x at start
  induction commands generalizing x with
  | nil => exact start
  | cons command rest ih => exact ih _ (start.apply command)

theorem pskCheck_iff (flag : ep.hasPassword = true) (length : ep.authPriv.length = 1 + pskHashLen)
    (priv : List UInt8) : pskCheck ep priv = true ↔ ep.authPriv <+: priv := by
  rw [pskCheck, if_pos flag, prefix_iff_eq_take, length]
  simp only [Bool.not_eq_true', Bool.or_eq_false_iff, decide_eq_false_iff_not, not_not, Nat.not_lt]
  constructor
  · exact fun checked => checked.2.symm
  · intro same
    refine ⟨?_, same.symm⟩
    have taken := congrArg List.length same
    rw [length, length_take] at taken
    omega

/-- The check admits exactly the token of the key that was configured last, if and only if NEW had
a key with the same digest. -/
theorem psk_check_follows_key_iff (commands : List Command) {ep : Endpoint} {key : List UInt8}
    (present : (Account.run sha256 fastEnabled commands).endpoint = some ep)
    (configured : (Account.run sha256 fastEnabled commands).configured = some key) :
    (∀ priv : List UInt8, priv.length < 2 ^ 8 →
        (pskCheck ep priv = true ↔ token sha256 key <+: priv)) ↔
      ∃ first, (Account.run sha256 fastEnabled commands).created = some first ∧
        sha256 first = sha256 key := by
  have derived := Account.kept_run commands ep present
  have flag : ep.hasPassword = true := by rw [derived.flag, configured]; rfl
  have length := derived.length_authPriv
  have authPriv := derived.authPriv
  constructor
  · intro follows
    have short : ep.authPriv.length < 2 ^ 8 := by rw [length]; decide
    have starts : token sha256 key <+: ep.authPriv :=
      (follows _ short).mp ((pskCheck_iff flag length _).mpr (prefix_refl _))
    have same : token sha256 key = ep.authPriv :=
      starts.eq_of_length (by rw [length, length_token])
    rw [authPriv] at same
    cases created : (Account.run sha256 fastEnabled commands).created with
    | none =>
      rw [created] at same
      exact absurd (congrArg List.head? same) (by simp [token, pskAuthMethodSha256, pskHashLen])
    | some first =>
      rw [created] at same
      exact ⟨first, rfl, (Vector.toList_inj.mp (List.cons.inj same).2).symm⟩
  · rintro ⟨first, created, digest⟩ priv -
    have same : ep.authPriv = token sha256 key := by
      rw [authPriv, created, map_some, getD_some, token, token, digest]
    rw [pskCheck_iff flag length, same]

def initiatorConfig (password : Option (List UInt8)) : Config :=
  ⟨[105], [47], [], true, false, none, none, none, .multistream, .uds, password⟩

def acceptorConfig (password : Option (List UInt8)) : Config :=
  ⟨[97], [], [47], false, true, none, none, none, .multistream, .uds, password⟩

def newEndpoint (cfg : Config) : Command := .new cfg 1 true true

def plainDigest (key : List UInt8) : Vector UInt8 pskHashLen := Vector.ofFn fun i => key.getD i 0

theorem psk_check_follows_key_of_new : ∃ ep key, (Account.run plainDigest false
        [newEndpoint (acceptorConfig (some [107]))]).endpoint = some ep ∧
      ∀ priv : List UInt8, priv.length < 2 ^ 8 →
        (pskCheck ep priv = true ↔ token plainDigest key <+: priv) := by
  have made : ∃ ep, (Account.run plainDigest false
      [newEndpoint (acceptorConfig (some [107]))]).endpoint = some ep := ⟨_, rfl⟩
  obtain ⟨ep, present⟩ := made
  exact ⟨ep, _, present, (psk_check_follows_key_iff _ present rfl).mpr ⟨_, rfl, rfl⟩⟩

/-- A key that SET brings to an endpoint without one is never asked for: zeros pass the check, and
the token of the key does not. -/
theorem zeros_pass_after_set :
    ∃ commands key, ∀ sha256 : List UInt8 → Vector UInt8 pskHashLen, ∃ ep,
      (Account.run sha256 false commands).endpoint = some ep ∧ ep.isInitiator = false ∧
      (Account.run sha256 false commands).configured = some key ∧
      pskCheck ep (List.replicate 33 0) = true ∧
      ¬token sha256 key <+: List.replicate 33 0 ∧
      pskCheck ep (token sha256 key) = false := by
  refine ⟨[newEndpoint (acceptorConfig none), .set ⟨none, none, none, some [107]⟩],
    nlaStrscpy passwordMax [107], fun sha256 => ?_⟩
  have made : ∃ ep, (Account.run sha256 false [newEndpoint (acceptorConfig none),
      .set ⟨none, none, none, some [107]⟩]).endpoint = some ep ∧ ep.isInitiator = false :=
    ⟨_, rfl, rfl⟩
  obtain ⟨ep, present, acceptor⟩ := made
  have derived := Account.kept_run _ ep present
  have zeros : ep.authPriv = List.replicate 33 0 := derived.authPriv
  have checks := pskCheck_iff derived.flag derived.length_authPriv
  have differ : ∀ key, ¬token sha256 key <+: List.replicate 33 0 ∧
      ¬List.replicate 33 0 <+: token sha256 key := by
    intro key
    constructor <;> intro starts <;> have same := starts.eq_of_length (by simp [pskHashLen])
    · exact absurd (congrArg List.head? same) (by simp [token, pskAuthMethodSha256])
    · exact absurd (congrArg List.head? same) (by simp [token, pskAuthMethodSha256])
  refine ⟨ep, present, acceptor, rfl, ?_, (differ _).1, ?_⟩
  · exact (checks _).mpr ⟨[], by rw [append_nil, zeros]⟩
  · rw [Bool.eq_false_iff, ne_eq, checks, zeros]
    exact (differ _).2

theorem Derived.admitted_cases {sha256' : List UInt8 → Vector UInt8 pskHashLen}
    {created' configured' : Option (List UInt8)} {i a : Endpoint}
    (derived : Derived sha256 created configured i)
    (derived' : Derived sha256' created' configured' a) {index : Nat} {caps : UInt8}
    {pad : List UInt8} (admitted : pskCheck a (connectPriv i index caps ++ pad) = true) :
    i.authLen = a.authLen ∨ (connectPriv i index caps ++ pad)[a.authLen]? ≠ some privMagic0 := by
  have starts := derived.head_priv i.kind.byte (UInt8.ofNat index) caps pad
  rcases derived.authLen_cases with ⟨made, with33⟩ | ⟨unmade, without⟩ <;>
    rcases derived'.authLen_cases with ⟨made', with33'⟩ | ⟨unmade', without'⟩
  · exact .inl (with33.trans with33'.symm)
  · refine .inr ?_
    rw [without', ← List.head?_eq_getElem?, connectPriv, starts, if_pos made]
    decide
  · -- the acceptor's token starts with the method byte, the request with the magic
    have flag : a.hasPassword = true := by rw [derived'.flag, derived'.made made']
    obtain ⟨rest, request⟩ := (pskCheck_iff flag derived'.length_authPriv _).mp admitted
    rw [← connectPriv, ← request, derived'.authPriv] at starts
    obtain ⟨first, created⟩ := isSome_iff_exists.mp made'
    rw [created, if_neg (by simp [unmade])] at starts
    exact absurd starts (by simp [token, pskAuthMethodSha256, privMagic0])
  · exact .inl (without.trans without'.symm)

theorem Derived.index_arrives {i : Endpoint} (derived : Derived sha256 created configured i)
    {index : Nat} (bound : index < i.numQps) (caps : UInt8) (pad : List UInt8) :
    (privPeerQpIndex (connectPriv i index caps ++ pad) i.authLen).map UInt8.toNat = some index := by
  have small : index % 256 = index := Nat.mod_eq_of_lt (by
    have most := i.numQps.2.2
    unfold numQpsMax at most
    omega)
  have length := derived.length_connPriv
  rw [← length, connectPriv, privPeerQpIndex_build, map_some]
  simp [small]

/-- A reader finds what the other host put into its private data exactly if the tokens of both have
one length. -/
theorem readers_recover_iff {fastEnabled' : Bool} (commands commands' : List Command)
    {i a : Endpoint} (initiator : (Account.run sha256 fastEnabled commands).endpoint = some i)
    (acceptor : (Account.run sha256 fastEnabled' commands').endpoint = some a) {index : Nat}
    (bound : index < i.numQps) (caps caps' : UInt8) (pad pad' : List UInt8)
    (admitted : pskCheck a (connectPriv i index caps ++ pad) = true) :
    ((privPeerKind (connectPriv i index caps ++ pad) a.authLen = some i.kind.byte ∧
        (privPeerQpIndex (connectPriv i index caps ++ pad) a.authLen).map UInt8.toNat =
          some index ∧
        privPeerCaps (connectPriv i index caps ++ pad) a.authLen = some caps) ∧
      privPeerKind (replyPriv a caps' ++ pad') i.authLen = some a.kind.byte ∧
      privPeerCaps (replyPriv a caps' ++ pad') i.authLen = some caps') ↔
      i.authLen = a.authLen := by
  have derived := Account.kept_run commands i initiator
  have derived' := Account.kept_run commands' a acceptor
  have length := derived.length_connPriv
  have length' := derived'.length_connPriv
  constructor
  · rintro ⟨⟨kind, -, -⟩, -⟩
    rcases derived.admitted_cases derived' admitted with same | absent
    · exact same
    · rw [privPeerKind, privPeer_absent absent] at kind
      cases kind
  · intro same
    refine ⟨⟨?_, ?_, ?_⟩, ?_, ?_⟩
    · rw [← same, ← length]
      exact privPeerKind_build ..
    · rw [← same]
      exact derived.index_arrives bound caps pad
    · rw [← same, ← length]
      exact privPeerCaps_build ..
    · rw [same, ← length']
      exact privPeerKind_build ..
    · rw [same, ← length']
      exact privPeerCaps_build ..

/-- Two hosts with one key. -/
theorem readers_recover_one_key : ∃ i a, (Account.run plainDigest false
        [newEndpoint (initiatorConfig (some [107]))]).endpoint = some i ∧
      (Account.run plainDigest false
        [newEndpoint (acceptorConfig (some [107]))]).endpoint = some a ∧
      privPeerCaps (connectPriv i 0 3 ++ []) a.authLen = some 3 ∧
      privPeerCaps (replyPriv a 3 ++ []) i.authLen = some 3 := by
  have made : ∃ i a, (Account.run plainDigest false
        [newEndpoint (initiatorConfig (some [107]))]).endpoint = some i ∧
      (Account.run plainDigest false
        [newEndpoint (acceptorConfig (some [107]))]).endpoint = some a ∧
      0 < i.numQps.1 ∧ pskCheck a (connectPriv i 0 3 ++ []) = true ∧ i.authLen = a.authLen :=
    ⟨_, _, rfl, rfl, by decide, by decide, rfl⟩
  obtain ⟨i, a, initiator, acceptor, bound, admitted, same⟩ := made
  have recovered :=
    (readers_recover_iff _ _ initiator acceptor bound 3 3 [] [] admitted).mpr same
  exact ⟨i, a, initiator, acceptor, recovered.1.2.2, recovered.2.2⟩

/-- An acceptor without a key admits an initiator with one, and finds nothing in its trailer. -/
theorem trailer_lost_behind_token :
    ∃ commands commands', ∀ sha256 : List UInt8 → Vector UInt8 pskHashLen, ∃ i a,
      (Account.run sha256 false commands).endpoint = some i ∧ i.isInitiator = true ∧
      (Account.run sha256 false commands').endpoint = some a ∧ a.isInitiator = false ∧
      pskCheck a (connectPriv i 0 3 ++ []) = true ∧
      privPeerKind (connectPriv i 0 3 ++ []) a.authLen = none ∧
      privPeerQpIndex (connectPriv i 0 3 ++ []) a.authLen = none ∧
      privPeerCaps (connectPriv i 0 3 ++ []) a.authLen = none := by
  refine ⟨[newEndpoint (initiatorConfig (some [107]))], [newEndpoint (acceptorConfig none)],
    fun sha256 => ?_⟩
  have made : ∃ i a, (Account.run sha256 false
        [newEndpoint (initiatorConfig (some [107]))]).endpoint = some i ∧ i.isInitiator = true ∧
      (Account.run sha256 false [newEndpoint (acceptorConfig none)]).endpoint = some a ∧
      a.isInitiator = false ∧ a.authLen = 0 ∧ a.hasPassword = false :=
    ⟨_, _, rfl, rfl, rfl, rfl, rfl, rfl⟩
  obtain ⟨i, a, initiator, role, acceptor, role', without, unchecked⟩ := made
  have starts := (Account.kept_run _ i initiator).head_priv i.kind.byte (UInt8.ofNat 0) 3 []
  have absent : (connectPriv i 0 3 ++ [])[a.authLen]? ≠ some privMagic0 := by
    rw [without, ← List.head?_eq_getElem?, connectPriv, starts]
    exact (by decide : some pskAuthMethodSha256 ≠ some privMagic0)
  exact ⟨i, a, initiator, role, acceptor, role', by simp [pskCheck, unchecked],
    privPeer_absent absent _ _, privPeer_absent absent _ _, privPeer_absent absent _ _⟩

end Invariant

end Urp.Control
