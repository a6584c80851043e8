import Mathlib.Data.List.Basic
import Urp.Lib.Nla

/-!
# Netlink messages
-/

namespace Urp.Lib.Nlmsg

open List
open Urp.Lib.Nla (align4)

def hdrLen : Nat := 16

structure Msg where
  type : UInt16
  flags : UInt16
  seq : UInt32
  pid : UInt32
  body : List UInt8
deriving DecidableEq

namespace Msg

def size (m : Msg) : Nat := hdrLen + m.body.length

def header (m : Msg) : List UInt8 :=
  putLe 2 m.type.toNat ++ (putLe 2 m.flags.toNat ++ (putLe 4 m.seq.toNat ++ putLe 4 m.pid.toNat))

def bytes (m : Msg) : List UInt8 := putLe 4 m.size ++ (m.header ++ m.body)

def padded (m : Msg) : List UInt8 := m.bytes ++ List.replicate (align4 m.size - m.size) 0

@[simp] theorem length_header (m : Msg) : m.header.length = 12 := by simp [header]

@[simp] theorem length_bytes (m : Msg) : m.bytes.length = m.size := by
  simp [bytes, size, hdrLen]
  omega

theorem length_padded (m : Msg) : m.padded.length = align4 m.size := by
  simp only [padded, length_append, length_bytes, length_replicate, align4]
  omega

end Msg

/-! ## The fields of a message in a buffer -/

def lenOf (buf : List UInt8) : Nat := getLe (buf.take 4)

def typeOf (buf : List UInt8) : Nat := getLe ((buf.drop 4).take 2)

def seqOf (buf : List UInt8) : Nat := getLe ((buf.drop 8).take 4)

section Fields

variable (m : Msg) (tail : List UInt8)

theorem lenOf_header (small : m.size < 2 ^ 32) :
    lenOf (putLe 4 m.size ++ (m.header ++ tail)) = m.size := by
  rw [lenOf, take_left' (length_putLe 4 _), getLe_putLe_of_lt (by simpa using small)]

theorem typeOf_header : typeOf (putLe 4 m.size ++ (m.header ++ tail)) = m.type.toNat := by
  have bound := m.type.toNat_lt
  rw [typeOf, drop_left' (length_putLe 4 _), Msg.header, append_assoc,
    take_left' (length_putLe 2 _), getLe_putLe_of_lt (by simpa using bound)]

theorem seqOf_header : seqOf (putLe 4 m.size ++ (m.header ++ tail)) = m.seq.toNat := by
  have bound := m.seq.toNat_lt
  have skipped :
      (putLe 4 m.size ++ (putLe 2 m.type.toNat ++ putLe 2 m.flags.toNat)).length = 8 := by
    simp
  have split : putLe 4 m.size ++ (m.header ++ tail) =
      (putLe 4 m.size ++ (putLe 2 m.type.toNat ++ putLe 2 m.flags.toNat)) ++
        (putLe 4 m.seq.toNat ++ (putLe 4 m.pid.toNat ++ tail)) := by
    simp [Msg.header]
  rw [seqOf, split, drop_left' skipped, take_left' (length_putLe 4 _),
    getLe_putLe_of_lt (by simpa using bound)]

theorem drop_header : (putLe 4 m.size ++ (m.header ++ tail)).drop hdrLen = tail := by
  rw [← append_assoc, drop_left' (by simp [hdrLen])]

end Fields

end Urp.Lib.Nlmsg
