import Urp.Lib.Machine

/-!
# The private data of a connection request
-/

namespace Urp.Conn

open List

def privMagic0 : UInt8 := 0x55

def privMagic1 : UInt8 := 0x52

def privTrailerLen : Nat := 3

def privQpTrailerLen : Nat := 4

def privCapTrailerLen : Nat := 5

def capWindowBytes : UInt8 := 1

def capTstamp : UInt8 := 2

def privBuildFull (auth : List UInt8) (kind qpIndex caps : UInt8) : List UInt8 :=
  auth ++ [privMagic0, privMagic1, kind, qpIndex, caps]

/-- The byte at `offset` of a trailer of at least `trailerLen` bytes. The sum of the lengths is cut
to a byte. -/
def privPeer (trailerLen offset : Nat) (priv : List UInt8) (authLen : Nat) : Option UInt8 :=
  if priv.length < (authLen + trailerLen) % 2 ^ 8 then none
  else if priv[authLen]? ≠ some privMagic0 ∨ priv[authLen + 1]? ≠ some privMagic1 then none
  else priv[authLen + offset]?

def privPeerKind (priv : List UInt8) (authLen : Nat) : Option UInt8 :=
  privPeer privTrailerLen 2 priv authLen

def privPeerQpIndex (priv : List UInt8) (authLen : Nat) : Option UInt8 :=
  privPeer privQpTrailerLen 3 priv authLen

def privPeerCaps (priv : List UInt8) (authLen : Nat) : Option UInt8 :=
  privPeer privCapTrailerLen 4 priv authLen

/-- The settings that `urp_local_caps` reads. -/
structure Sysctls where
  windowBytesAdvertise : Nat
  latencySamplePeriod : Nat
deriving DecidableEq, Repr

def Sysctls.advertises (s : Sysctls) : Bool := s.windowBytesAdvertise ≠ 0

def Sysctls.samples (s : Sysctls) : Bool := s.latencySamplePeriod ≠ 0

def localCaps (s : Sysctls) : UInt8 :=
  (if s.advertises then capWindowBytes else 0) ||| (if s.samples then capTstamp else 0)

def peerSupportsWindow (priv : List UInt8) (authLen : Nat) : Bool :=
  (privPeerCaps priv authLen).any fun caps => caps &&& capWindowBytes ≠ 0

def peerSupportsTstamp (priv : List UInt8) (authLen : Nat) : Bool :=
  (privPeerCaps priv authLen).any fun caps => caps &&& capTstamp ≠ 0

/-! ## A reader and a writer with tokens of one length -/

section RoundTrip

variable (auth pad : List UInt8) (kind qpIndex caps : UInt8)

theorem privBuildFull_byte {offset : Nat} (inside : offset < privCapTrailerLen) :
    (privBuildFull auth kind qpIndex caps ++ pad)[auth.length + offset]? =
      [privMagic0, privMagic1, kind, qpIndex, caps][offset]? := by
  unfold privCapTrailerLen at inside
  rw [privBuildFull, append_assoc, List.getElem?_append_right (Nat.le_add_right _ _),
    Nat.add_sub_cancel_left, List.getElem?_append_left (by simpa using inside)]

theorem privPeer_build {trailerLen offset : Nat} (trailer : trailerLen ≤ privCapTrailerLen)
    (inside : offset < privCapTrailerLen) :
    privPeer trailerLen offset (privBuildFull auth kind qpIndex caps ++ pad) auth.length =
      [privMagic0, privMagic1, kind, qpIndex, caps][offset]? := by
  have length : ¬(privBuildFull auth kind qpIndex caps ++ pad).length <
      (auth.length + trailerLen) % 2 ^ 8 := by
    unfold privCapTrailerLen at trailer
    simp only [privBuildFull, length_append, length_cons, length_nil]
    omega
  have first := privBuildFull_byte auth pad kind qpIndex caps (by decide : 0 < privCapTrailerLen)
  have second := privBuildFull_byte auth pad kind qpIndex caps (by decide : 1 < privCapTrailerLen)
  rw [Nat.add_zero] at first
  rw [privPeer, if_neg length, first, second, if_neg (by simp),
    privBuildFull_byte auth pad kind qpIndex caps inside]

theorem privPeerKind_build :
    privPeerKind (privBuildFull auth kind qpIndex caps ++ pad) auth.length = some kind :=
  privPeer_build auth pad kind qpIndex caps (by decide) (by decide)

theorem privPeerQpIndex_build :
    privPeerQpIndex (privBuildFull auth kind qpIndex caps ++ pad) auth.length = some qpIndex :=
  privPeer_build auth pad kind qpIndex caps (by decide) (by decide)

theorem privPeerCaps_build :
    privPeerCaps (privBuildFull auth kind qpIndex caps ++ pad) auth.length = some caps :=
  privPeer_build auth pad kind qpIndex caps (by decide) (by decide)

theorem peerSupports_build (s : Sysctls) :
    peerSupportsWindow (privBuildFull auth kind qpIndex (localCaps s) ++ pad) auth.length =
        s.advertises ∧
      peerSupportsTstamp (privBuildFull auth kind qpIndex (localCaps s) ++ pad) auth.length =
        s.samples := by
  rw [peerSupportsWindow, peerSupportsTstamp, privPeerCaps_build, Option.any_some, Option.any_some,
    localCaps]
  cases s.advertises <;> cases s.samples <;> decide

end RoundTrip

theorem privPeer_absent {priv : List UInt8} {authLen : Nat}
    (absent : priv[authLen]? ≠ some privMagic0) (trailerLen offset : Nat) :
    privPeer trailerLen offset priv authLen = none := by
  unfold privPeer
  split
  · rfl
  · rw [if_pos (.inl absent)]

end Urp.Conn
