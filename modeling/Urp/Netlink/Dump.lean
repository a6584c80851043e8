import Urp.Conn.Control
import Urp.Lib.LittleEndian

/-!
# The endpoint dump
-/

namespace Urp.Netlink

open Urp.Lib Urp.Control Option
open List hiding Vector

structure Endpoint where
  name : List UInt8
  listenPath : List UInt8
  connectPath : List UInt8
  rdmaDevice : List UInt8
  hasPeerAddr : Bool
  peerAddr : Vector UInt8 28
  hasBindAddr : Bool
  bindAddr : Vector UInt8 28
  numQps : Nat
  bufferCount : Nat
  bufferSize : Nat
  state : EpState

inductive AttrType where
  | name | listenPath | connectPath | rdmaDevice | peerAddr | bindAddr
  | numQps | bufferCount | bufferSize | state
deriving DecidableEq, Repr

structure Attr where
  type : AttrType
  payload : List UInt8
deriving DecidableEq, Repr

def nlaHdrlen : Nat := 4

def nlaTotalSize (len : Nat) : Nat := (nlaHdrlen + len + 3) / 4 * 4

def Attr.size (a : Attr) : Nat := nlaTotalSize a.payload.length

def string (type : AttrType) (field : List UInt8) : Attr := ⟨type, field.takeWhile (· ≠ 0) ++ [0]⟩

def u32 (type : AttrType) (n : Nat) : Attr := ⟨type, putLe 4 n⟩

def stateByte : EpState → UInt8
  | .creating => 0
  | .active => 1
  | .draining => 2
  | .stopped => 3

def attributes (ep : Endpoint) : List Attr :=
  [string .name ep.name] ++
    (if isSet ep.listenPath then [string .listenPath ep.listenPath] else []) ++
    (if isSet ep.connectPath then [string .connectPath ep.connectPath] else []) ++
    (if isSet ep.rdmaDevice then [string .rdmaDevice ep.rdmaDevice] else []) ++
    (if ep.hasPeerAddr then [⟨.peerAddr, ep.peerAddr.toList⟩] else []) ++
    (if ep.hasBindAddr then [⟨.bindAddr, ep.bindAddr.toList⟩] else []) ++
    [u32 .numQps ep.numQps, u32 .bufferCount ep.bufferCount, u32 .bufferSize ep.bufferSize,
      ⟨.state, [stateByte ep.state]⟩]

/-- A message under construction, with the room left behind it. -/
structure Draft where
  room : Nat
  attrs : List Attr

def nlaPut (draft : Draft) (a : Attr) : Option Draft :=
  if draft.room < a.size then none else some ⟨draft.room - a.size, draft.attrs ++ [a]⟩

def fillEndpoint (draft : Draft) (ep : Endpoint) : Option Draft :=
  if draft.room < nlaTotalSize 0 then none
  else (attributes ep).foldlM nlaPut { draft with room := draft.room - nlaTotalSize 0 }

structure Message where
  portid : Nat
  seq : Nat
  attrs : List Attr
deriving DecidableEq, Repr

structure Skb where
  room : Nat
  len : Nat
  messages : List Message

def Skb.alloc (size : Nat) : Skb := ⟨size, 0, []⟩

def genlmsgHdrlen : Nat := 20

structure Request where
  portid : Nat
  seq : Nat

variable (request : Request)

def message (ep : Endpoint) : Message := ⟨request.portid, request.seq, attributes ep⟩

def putEndpoint (skb : Skb) (ep : Endpoint) : Option Skb :=
  if skb.room < genlmsgHdrlen then none
  else
    (fillEndpoint ⟨skb.room - genlmsgHdrlen, []⟩ ep).map fun draft =>
      ⟨draft.room, skb.len + (skb.room - draft.room),
        skb.messages ++ [⟨request.portid, request.seq, draft.attrs⟩]⟩

abbrev Walk := List (Except Errno Endpoint)

def dumpLoop : Walk → Skb → Skb × Walk × Option Errno
  | [], skb => (skb, [], none)
  | .error .EAGAIN :: walk, skb => dumpLoop walk skb
  | .error e :: walk, skb => (skb, walk, some e)
  | .ok ep :: walk, skb =>
    match putEndpoint request skb ep with
    | none => (skb, walk, some .EMSGSIZE)
    | some skb => dumpLoop walk skb

def getEndpointDumpit (walk : Walk) (size : Nat) : Skb × Walk × Except Errno Nat :=
  match dumpLoop request walk (Skb.alloc size) with
  | (skb, walk, none) => (skb, walk, .ok skb.len)
  | (skb, walk, some .EMSGSIZE) => (skb, walk, .ok skb.len)
  | (skb, walk, some e) => (skb, walk, .error e)

/-- At most `calls` calls, with the buffers `sizes k`, `sizes (k + 1)` and so on; the call that
returns an empty buffer ends the dump. -/
def dump (sizes : Nat → Nat) : (calls k : Nat) → Walk → Option (List Message)
  | 0, _, _ => none
  | calls + 1, k, walk =>
    match getEndpointDumpit request walk (sizes k) with
    | (_, _, .error _) => none
    | (_, _, .ok 0) => some []
    | (skb, walk, .ok _) => (dump sizes calls (k + 1) walk).map (skb.messages ++ ·)

/-! ## One buffer -/

def attrsSize (attrs : List Attr) : Nat := (attrs.map Attr.size).sum

def messageSize (ep : Endpoint) : Nat := genlmsgHdrlen + nlaTotalSize 0 + attrsSize (attributes ep)

theorem foldlM_nlaPut (attrs : List Attr) (draft : Draft) :
    attrs.foldlM nlaPut draft =
      if draft.room < attrsSize attrs then none
      else some ⟨draft.room - attrsSize attrs, draft.attrs ++ attrs⟩ := by
  induction attrs generalizing draft with
  | nil => simp [attrsSize]
  | cons a attrs ih =>
    have total : attrsSize (a :: attrs) = a.size + attrsSize attrs := by simp [attrsSize]
    rw [foldlM_cons, total, nlaPut]
    by_cases short : draft.room < a.size
    · rw [if_pos short, if_pos (by omega)]
      rfl
    · rw [if_neg short, bind_eq_bind, bind_some, ih]
      simp only [append_assoc, singleton_append, Nat.sub_sub]
      split <;> split <;> first | rfl | omega

theorem putEndpoint_eq (skb : Skb) (ep : Endpoint) :
    putEndpoint request skb ep =
      if skb.room < messageSize ep then none
      else some ⟨skb.room - messageSize ep, skb.len + messageSize ep,
        skb.messages ++ [message request ep]⟩ := by
  unfold putEndpoint fillEndpoint messageSize
  rw [foldlM_nlaPut]
  simp only
  split
  · rw [if_pos (by omega)]
  · split
    · rw [if_pos (by omega)]
      rfl
    · split
      · rw [if_pos (by omega)]
        rfl
      · rw [if_neg (by omega)]
        have left : skb.room - genlmsgHdrlen - nlaTotalSize 0 - attrsSize (attributes ep) =
            skb.room - (genlmsgHdrlen + nlaTotalSize 0 + attrsSize (attributes ep)) := by omega
        have written : skb.room -
            (skb.room - (genlmsgHdrlen + nlaTotalSize 0 + attrsSize (attributes ep))) =
              genlmsgHdrlen + nlaTotalSize 0 + attrsSize (attributes ep) := by omega
        simp only [map_some, nil_append, message, left, written]

def fitting : Nat → List Endpoint → List Endpoint
  | _, [] => []
  | room, ep :: eps =>
    if room < messageSize ep then [] else ep :: fitting (room - messageSize ep) eps

def tableSize (eps : List Endpoint) : Nat := (eps.map messageSize).sum

theorem tableSize_cons (ep : Endpoint) (eps : List Endpoint) :
    tableSize (ep :: eps) = messageSize ep + tableSize eps := by
  rw [tableSize, map_cons, sum_cons, ← tableSize]

theorem fitting_eq_self (room : Nat) (eps : List Endpoint) (fits : tableSize eps ≤ room) :
    fitting room eps = eps := by
  induction eps generalizing room with
  | nil => rfl
  | cons ep eps ih =>
    rw [tableSize_cons] at fits
    rw [fitting, if_neg (by omega), ih _ (by omega)]

theorem length_fitting_lt (room : Nat) (eps : List Endpoint) (passes : room < tableSize eps) :
    (fitting room eps).length < eps.length := by
  induction eps generalizing room with
  | nil => simp [tableSize] at passes
  | cons ep eps ih =>
    rw [tableSize_cons] at passes
    rw [fitting]
    split
    · exact Nat.succ_pos _
    · have fewer := ih (room - messageSize ep) (by omega)
      simpa using fewer

theorem fitting_append (room : Nat) (eps : List Endpoint) :
    fitting room eps ++ eps.drop (fitting room eps).length = eps := by
  induction eps generalizing room with
  | nil => rfl
  | cons ep eps ih =>
    rw [fitting]
    split
    · rfl
    · rw [length_cons, drop_succ_cons, cons_append, ih]

theorem dumpLoop_entries (eps : List Endpoint) (skb : Skb) :
    dumpLoop request (eps.map .ok) skb =
      (⟨skb.room - tableSize (fitting skb.room eps), skb.len + tableSize (fitting skb.room eps),
          skb.messages ++ (fitting skb.room eps).map (message request)⟩,
        (eps.drop ((fitting skb.room eps).length + 1)).map .ok,
        if skb.room < tableSize eps then some .EMSGSIZE else none) := by
  induction eps generalizing skb with
  | nil => simp [dumpLoop, fitting, tableSize]
  | cons ep eps ih =>
    rw [map_cons, dumpLoop, putEndpoint_eq, fitting]
    by_cases short : skb.room < messageSize ep
    · rw [if_pos short, if_pos short, tableSize_cons, if_pos (by omega)]
      simp [tableSize]
    · have same : skb.room - messageSize ep < tableSize eps ↔
          skb.room < messageSize ep + tableSize eps := by omega
      rw [if_neg short, if_neg short]
      simp only [ih, tableSize_cons, length_cons, drop_succ_cons, map_cons,
        append_assoc, singleton_append, Nat.sub_sub, Nat.add_assoc, same]

theorem getEndpointDumpit_entries (eps : List Endpoint) (size : Nat) :
    ∃ skb : Skb, skb.messages = (fitting size eps).map (message request) ∧
      getEndpointDumpit request (eps.map .ok) size =
        (skb, (eps.drop ((fitting size eps).length + 1)).map .ok,
          .ok (tableSize (fitting size eps))) := by
  refine ⟨⟨size - tableSize (fitting size eps), tableSize (fitting size eps),
    (fitting size eps).map (message request)⟩, rfl, ?_⟩
  simp only [getEndpointDumpit, dumpLoop_entries, Skb.alloc, Nat.zero_add, nil_append]
  by_cases passes : size < tableSize eps
  · simp only [if_pos passes]
  · simp only [if_neg passes]

/-! ## The whole dump -/

theorem dump_nil (sizes : Nat → Nat) (calls k : Nat) :
    dump request sizes (calls + 1) k [] = some [] := by
  obtain ⟨skb, -, returns⟩ := getEndpointDumpit_entries request [] (sizes k)
  rw [map_nil] at returns
  rw [dump, returns]
  rfl

theorem dump_cons {sizes : Nat → Nat} (calls k : Nat) {ep : Endpoint} {eps : List Endpoint}
    (fits : messageSize ep ≤ sizes k) :
    dump request sizes (calls + 1) k ((ep :: eps).map .ok) = (dump request sizes calls (k + 1)
        (((ep :: eps).drop ((fitting (sizes k) (ep :: eps)).length + 1)).map .ok)).map
        ((fitting (sizes k) (ep :: eps)).map (message request) ++ ·) := by
  obtain ⟨skb, reports, returns⟩ := getEndpointDumpit_entries request (ep :: eps) (sizes k)
  obtain ⟨len, full⟩ : ∃ len, tableSize (fitting (sizes k) (ep :: eps)) = len + 1 := by
    refine Nat.exists_eq_succ_of_ne_zero ?_
    rw [fitting, if_neg (by omega), tableSize_cons, messageSize, genlmsgHdrlen]
    omega
  rw [dump, returns, full, ← reports]
  rfl

theorem dump_ends (sizes : Nat → Nat) (calls k : Nat) (eps : List Endpoint)
    (large : ∀ k, ∀ ep ∈ eps, messageSize ep ≤ sizes k) (enough : eps.length < calls) :
    ∃ kept : List Endpoint, kept.Sublist eps ∧
      dump request sizes calls k (eps.map .ok) = some (kept.map (message request)) := by
  induction calls generalizing k eps with
  | zero => omega
  | succ calls ih =>
    cases eps with
    | nil => exact ⟨[], List.Sublist.refl _, dump_nil request sizes calls k⟩
    | cons ep eps =>
      generalize taken : fitting (sizes k) (ep :: eps) = first
      have left : ((ep :: eps).drop (first.length + 1)).length < calls := by
        rw [length_drop, length_cons]
        rw [length_cons] at enough
        omega
      obtain ⟨kept, sub, rest⟩ := ih (k + 1) _
        (fun k ep member => large k ep (mem_of_mem_drop member)) left
      refine ⟨first ++ kept, ?_, ?_⟩
      · have whole : first ++ (ep :: eps).drop first.length = ep :: eps :=
          taken ▸ fitting_append (sizes k) (ep :: eps)
        have later : kept.Sublist ((ep :: eps).drop first.length) :=
          sub.trans (drop_sublist_drop_left _ (Nat.le_succ _))
        exact whole ▸ (List.Sublist.refl first).append later
      · rw [dump_cons request calls k (large k ep mem_cons_self), taken, rest, map_some, map_append]

/-- A dump reports every endpoint exactly once if and only if the whole table fits into its first
buffer: otherwise the endpoint that did not fit is behind the walk when the next call resumes. -/
theorem dump_complete_iff (table : List Endpoint) (sizes : Nat → Nat)
    (large : ∀ k, ∀ ep ∈ table, messageSize ep ≤ sizes k) (calls : Nat)
    (enough : table.length < calls) :
    ∃ messages, dump request sizes calls 0 (table.map .ok) = some messages ∧
      (messages.Perm (table.map (message request)) ↔ tableSize table ≤ sizes 0) := by
  obtain ⟨calls, rfl⟩ : ∃ calls', calls = calls' + 1 := ⟨calls - 1, by omega⟩
  cases table with
  | nil => exact ⟨[], dump_nil request sizes calls 0, by simp [tableSize]⟩
  | cons ep eps =>
    rw [dump_cons request calls 0 (large 0 ep mem_cons_self)]
    obtain ⟨kept, sub, rest⟩ := dump_ends request sizes calls 1
      ((ep :: eps).drop ((fitting (sizes 0) (ep :: eps)).length + 1))
      (fun k ep member => large k ep (mem_of_mem_drop member))
      (by rw [length_drop, length_cons]; rw [length_cons] at enough; omega)
    refine ⟨_, by rw [rest, map_some], ?_⟩
    constructor
    case mp =>
      intro complete
      refine Nat.le_of_not_lt fun passes => ?_
      have fewer := length_fitting_lt _ _ passes
      have counted := complete.length_eq
      have left := sub.length_le
      rw [length_append, length_map, length_map, length_map] at counted
      rw [length_drop] at left
      omega
    case mpr =>
      intro fits
      rw [fitting_eq_self _ _ fits, drop_of_length_le (Nat.le_succ _)] at sub
      rw [fitting_eq_self _ _ fits, sublist_nil.mp sub, map_nil, append_nil]

def namedEndpoint (letter : UInt8) : Endpoint :=
  ⟨letter :: List.replicate 15 0, [], [], [], false, Vector.replicate 28 0, false,
    Vector.replicate 28 0, 1, 16, 4096, .active⟩

def threeEndpoints : List Endpoint := [namedEndpoint 97, namedEndpoint 98, namedEndpoint 99]

theorem dump_complete_three :
    ∃ messages, dump ⟨1, 1⟩ (fun _ => 192) 4 0 (threeEndpoints.map .ok) = some messages ∧
      messages.Perm (threeEndpoints.map (message ⟨1, 1⟩)) := by
  have large : ∀ ep ∈ threeEndpoints, messageSize ep ≤ 192 := by decide
  obtain ⟨messages, ends, complete⟩ := dump_complete_iff ⟨1, 1⟩ threeEndpoints (fun _ => 192)
    (fun _ => large) 4 (by decide)
  exact ⟨messages, ends, complete.mpr (by decide)⟩

/-- Of three endpoints, with buffers that hold one each, the second is not reported. -/
theorem dump_skips_second :
    (∀ ep ∈ threeEndpoints, messageSize ep ≤ 64) ∧
      dump ⟨1, 1⟩ (fun _ => 64) 4 0 (threeEndpoints.map .ok) =
        some ([namedEndpoint 97, namedEndpoint 99].map (message ⟨1, 1⟩)) := by
  decide +kernel

end Urp.Netlink
