import Mathlib.Data.List.Forall2
import Urp.Genl.Attr

/-!
# Trees of attributes

Any calls on an `AttrBuf`, nested to any depth, and what `AttrIter` gives for the bytes.
-/

namespace Urp.Genl

open Urp.Lib Urp.Lib.Nla List

inductive Value where
  | bytes (data : List UInt8)
  | string (s : String)
  | u8 (v : UInt8)
  | u16 (v : UInt16)
  | u32 (v : UInt32)
  | u64 (v : UInt64)

def Value.payload : Value → List UInt8
  | .bytes data => data
  | .string s => utf8 s ++ [0]
  | .u8 v => [v]
  | .u16 v => putLe 2 v.toNat
  | .u32 v => putLe 4 v.toNat
  | .u64 v => putLe 8 v.toNat

def AttrBuf.put (type : Nat) : Value → AttrBuf → AttrBuf
  | .bytes data => putBytes type data
  | .string s => putString type s
  | .u8 v => putU8 type v
  | .u16 v => putU16 type v
  | .u32 v => putU32 type v
  | .u64 v => putU64 type v

theorem AttrBuf.put_eq (type : Nat) (v : Value) : put type v = putBytes type v.payload := by
  cases v <;> rfl

inductive Call where
  | put (type : Nat) (v : Value)
  | nest (type : Nat) (calls : List Call)

namespace Call

mutual

def on : Call → AttrBuf → AttrBuf
  | .put type v, buf => AttrBuf.put type v buf
  | .nest type calls, buf => AttrBuf.nest type (allOn calls) buf

def allOn : List Call → AttrBuf → AttrBuf
  | [], buf => buf
  | call :: calls, buf => allOn calls (call.on buf)

end

def build (calls : List Call) : List UInt8 := allOn calls []

inductive Fits : Call → Prop where
  | put {type v} (small : type < nestedFlag)
      (size : hdrLen + v.payload.length ≤ 65535) : Fits (.put type v)
  | nest {type calls} (small : type < nestedFlag)
      (size : hdrLen + (build calls).length ≤ 65535) (inner : ∀ call ∈ calls, Fits call) :
      Fits (.nest type calls)

inductive Yielded : Call → Attr → Prop where
  | put (type : Nat) (v : Value) : Yielded (.put type v) ⟨type, v.payload⟩
  | nest {type calls} (inner : List.Forall₂ Yielded calls (attrIter (build calls))) :
      Yielded (.nest type calls) ⟨type, build calls⟩

def attr : Call → Attr
  | .put type v => ⟨type, v.payload⟩
  | .nest type calls => ⟨nestType type, build calls⟩

theorem on_eq (call : Call) {buf : AttrBuf} (aligned : buf.length % 4 = 0) :
    call.on buf = buf ++ call.attr.bytes := by
  cases call with
  | put type v => rw [on, AttrBuf.put_eq, AttrBuf.putBytes_eq type v.payload aligned, attr]
  | nest type calls => rw [on, AttrBuf.nest, AttrBuf.putBytes_eq _ _ aligned, attr, build]

theorem allOn_eq (calls : List Call) {buf : AttrBuf} (aligned : buf.length % 4 = 0) :
    allOn calls buf = buf ++ encode (calls.map attr) := by
  induction calls generalizing buf with
  | nil => rw [allOn, map_nil, encode_nil, append_nil]
  | cons call calls ih =>
    have still : (buf ++ call.attr.bytes).length % 4 = 0 := by
      rw [length_append, Attr.length_bytes, align4]
      omega
    rw [allOn, call.on_eq aligned, ih still, map_cons, encode_cons, append_assoc]

theorem build_eq (calls : List Call) : build calls = encode (calls.map attr) := by
  rw [build, allOn_eq calls rfl, nil_append]

theorem Fits.attr {call : Call} (fits : call.Fits) : call.attr.Fits := by
  cases fits with
  | put small size => exact ⟨Nat.lt_succ_of_le size, Nat.lt_trans small (by decide)⟩
  | nest small size inner =>
    refine ⟨Nat.lt_succ_of_le size, ?_⟩
    simp only [Call.attr, nestType, nestedFlag]
    omega

theorem attrIter_build {calls : List Call} (fits : ∀ call ∈ calls, call.Fits) :
    attrIter (build calls) = calls.map fun call => unflag call.attr := by
  have each : ∀ a ∈ calls.map attr, a.Fits := by
    intro a member
    obtain ⟨call, made, rfl⟩ := mem_map.mp member
    exact (fits call made).attr
  rw [build_eq, attrIter_encode each, map_map]
  rfl

theorem Fits.yielded {call : Call} (fits : call.Fits) : Yielded call (unflag call.attr) := by
  induction fits with
  | put small size =>
    rw [Call.attr, unflag_of_lt small]
    exact .put _ _
  | nest small size inner ih =>
    rw [Call.attr, unflag_nest small]
    refine .nest ?_
    rwa [attrIter_build inner, forall₂_map_right_iff, forall₂_same]

end Call

/-! ## Any bytes -/

def AttrIter.next (rest : List UInt8) : Option (Attr × List UInt8) :=
  (Nla.next rest).map fun found => (unflag found.1, found.2)

inductive Iterates : List UInt8 → List Attr → Prop where
  | done {rest} (ended : AttrIter.next rest = none) : Iterates rest []
  | item {rest rest' a items}
      (found : AttrIter.next rest = some (a, rest')) (more : Iterates rest' items) :
      Iterates rest (a :: items)

theorem Iterates.of_walks {buf left : List UInt8} {attrs : List Attr}
    (walks : Walks buf attrs left) : Iterates buf (attrs.map unflag) := by
  induction walks with
  | done ended => exact .done (by rw [AttrIter.next, ended, Option.map_none])
  | step found walks ih => exact .item (by rw [AttrIter.next, found, Option.map_some]) ih

theorem attrIter_length_le (buf : List UInt8) : (attrIter buf).length ≤ buf.length / 4 := by
  have walked := (walks_walk buf).length_le
  unfold hdrLen at walked
  rw [attrIter, length_map]
  omega

theorem attrIter_inside {buf : List UInt8} {a : Attr} (member : a ∈ attrIter buf) :
    a.payload <:+: buf := by
  obtain ⟨a, walked, rfl⟩ := mem_map.mp member
  have inside : a.payload <:+: buf := (walks_walk buf).inside walked
  exact inside

/-- Every tree of calls is read back as it was built, and on any bytes the iterator ends within a
quarter of their number and stays inside them. -/
theorem calls_read_back : (∀ calls : List Call, (∀ call ∈ calls, call.Fits) →
      List.Forall₂ Call.Yielded calls (attrIter (Call.build calls))) ∧
    ∀ buf : List UInt8, Iterates buf (attrIter buf) ∧ (attrIter buf).length ≤ buf.length / 4 ∧
      ∀ a ∈ attrIter buf, a.payload <:+: buf := by
  refine ⟨fun calls fits => ?_, fun buf => ⟨?_, attrIter_length_le buf, ?_⟩⟩
  · rw [Call.attrIter_build fits, forall₂_map_right_iff, forall₂_same]
    exact fun call member => (fits call member).yielded
  · exact .of_walks (walks_walk buf)
  · exact fun a member => attrIter_inside member

def sampleNest : List Call :=
  [.put 11 (.u8 7), .put 12 (.u64 0x0102030405060708), .nest 13 []]

def sampleCalls : List Call :=
  [.put 1 (.string "hello"), .put 2 (.u32 0xdeadbeef), .nest 3 sampleNest]

theorem sampleNest_fits : ∀ call ∈ sampleNest, call.Fits := by
  have empty : (Call.nest 13 []).Fits := .nest (by decide) (by decide) (by simp)
  simp only [sampleNest, forall_mem_cons]
  exact ⟨.put (by decide) (by decide), .put (by decide) (by decide), empty, by simp⟩

theorem sampleCalls_fits : ∀ call ∈ sampleCalls, call.Fits := by
  simp only [sampleCalls, forall_mem_cons]
  exact ⟨.put (by decide) (by decide), .put (by decide) (by decide),
    .nest (by decide) (by decide) sampleNest_fits, by simp⟩

theorem sampleCalls_read_back :
    List.Forall₂ Call.Yielded sampleCalls (attrIter (Call.build sampleCalls)) :=
  calls_read_back.1 sampleCalls sampleCalls_fits

end Urp.Genl
