import Urp.Endpoint.Inversion
import Urp.Genl.Reply

/-!
# Endpoints with many clients

Every client that an endpoint accepts gets a stream.
-/

namespace Urp.Genl

open Urp.Lib List

def afterClients (a : Creation) (ep : Urp.Endpoint) : Nat → Urp.Endpoint
  | 0 => ep
  | n + 1 => ((afterClients a ep n).acceptClient a true).1

structure Walked (ep : Urp.Endpoint) (streams : List Fill.Stream) : Prop where
  once : (streams.map fun s => s.id.toNat).Nodup
  all : ∀ id, (ep.streams id).isSome = true ↔ id ∈ streams.map fun s => s.id.toNat

theorem nodup_odd (n : Nat) : ((List.range n).map (1 + 2 * ·)).Nodup :=
  List.Nodup.map (fun i j (same : 1 + 2 * i = 1 + 2 * j) => by omega) nodup_range

section Accepted

variable {a : Creation} (record : a.record = true) (buffer : a.buffer = true)

include record buffer

theorem acceptClient_served {ep : Urp.Endpoint} (absent : ep.streams ep.nextStreamId = none) :
    (ep.acceptClient a true).1 =
      { ep with nextStreamId := wrap32 (ep.nextStreamId + 2) }.put ep.nextStreamId
        (some (Urp.Endpoint.clientStream (ep.sizes a) ep.nextStreamId)) := by
  simp [Urp.Endpoint.acceptClient, Urp.Endpoint.streamCreate, record, buffer, Urp.Endpoint.nextId,
    Stream.create_eq, absent, Stream.blank, Urp.Endpoint.put_put, Urp.Endpoint.clientStream]

theorem afterClients_streams (settings : Settings) (numQps : Nat) {n : Nat}
    (bound : 1 + 2 * n < 2 ^ 32) :
    (afterClients a (.init settings true numQps) n).nextStreamId = 1 + 2 * n ∧
    ∀ id, ((afterClients a (.init settings true numQps) n).streams id).isSome = true ↔
      id ∈ (List.range n).map (1 + 2 * ·) := by
  induction n with
  | zero => exact ⟨rfl, fun id => by simp [afterClients, Urp.Endpoint.init]⟩
  | succ n ih =>
    obtain ⟨next, streams⟩ := ih (by omega)
    have absent : (afterClients a (.init settings true numQps) n).streams
        (afterClients a (.init settings true numQps) n).nextStreamId = none := by
      rw [next]
      refine Option.not_isSome_iff_eq_none.mp fun present => ?_
      obtain ⟨i, before, same⟩ := mem_map.mp ((streams _).mp present)
      have before := mem_range.mp before
      omega
    rw [afterClients, acceptClient_served record buffer absent, next]
    refine ⟨?_, fun id => ?_⟩
    · change wrap32 (1 + 2 * n + 2) = 1 + 2 * (n + 1)
      unfold wrap32
      omega
    · rw [Urp.Endpoint.put_streams, range_succ, map_append, mem_append, ← streams id]
      by_cases same : id = 1 + 2 * n
      · simp [same]
      · simp [same]

theorem length_walked {settings : Settings} {numQps n : Nat} {streams : List Fill.Stream}
    (bound : 1 + 2 * n < 2 ^ 32)
    (walked : Walked (afterClients a (.init settings true numQps) n) streams) :
    streams.length = n := by
  have all := (afterClients_streams record buffer settings numQps bound).2
  have same : (streams.map fun s => s.id.toNat).Perm ((List.range n).map (1 + 2 * ·)) :=
    (perm_ext_iff_of_nodup walked.once (nodup_odd n)).mpr fun id =>
      (walked.all id).symm.trans (all id)
  simpa using same.length_eq

/-- The reply for an endpoint with so many clients does not fit, whatever the room for it. -/
theorem crowded_refused {settings : Settings} {numQps n : Nat} (many : 964 ≤ n)
    (bound : 1 + 2 * n < 2 ^ 32) {streams : List Fill.Stream}
    (walked : Walked (afterClients a (.init settings true numQps) n) streams)
    {misplaced : Nat → Bool} {sys : Fill.Sysctl} {familyId : UInt16} {env : ReplyEnv}
    {info : GenlInfo} {e : Entry} {table : List UInt8 → Option Entry} {room : Fin (2 ^ 16)}
    (shown : e.live.streams = some streams)
    (found : genlLookupByName table info.attrs = .ok e) (allocated : env.room = some room) :
    getEndpointDoit misplaced sys familyId table env info = .error (.errno .EMSGSIZE) := by
  have length := length_walked record buffer bound walked
  have nonempty : streams ≠ [] := by
    rintro rfl
    rw [length_nil] at length
    omega
  have reported : e.live.reportedStreams = streams := by
    simp [Fill.Live.reportedStreams, shown, nonempty]
  exact many_streams_refused found allocated (by rw [reported, length]; exact many)

end Accepted

section Thousand

def thousandStreams : List Fill.Stream :=
  (List.range 1000).map fun i => .fresh (UInt32.ofNat (1 + 2 * i))

def crowdedEntry : Entry :=
  { plainEntry with live := { clientLive with streams := some thousandStreams } }

theorem walked_thousand (settings : Settings) :
    Walked (afterClients ⟨true, true, 0, 0⟩ (.init settings true 1) 1000) thousandStreams := by
  have ids : (thousandStreams.map fun s => s.id.toNat) = (List.range 1000).map (1 + 2 * ·) := by
    rw [thousandStreams, map_map]
    refine map_congr_left fun i before => ?_
    have before := mem_range.mp before
    change (UInt32.ofNat (1 + 2 * i)).toNat = 1 + 2 * i
    rw [UInt32.toNat_ofNat']
    omega
  refine ⟨?_, fun id => ?_⟩
  · rw [ids]
    exact nodup_odd 1000
  · rw [ids]
    exact (afterClients_streams rfl rfl settings 1 (by decide)).2 id

/-- An initiator with one queue pair that has accepted a thousand clients cannot be shown. -/
theorem thousand_clients_refused :
    (∀ settings, Walked (afterClients ⟨true, true, 0, 0⟩ (.init settings true 1) 1000)
      thousandStreams) ∧
    ∀ misplaced sys room, getEndpointDoit misplaced sys 16 (onlyEntry crowdedEntry)
      ⟨some room, .ok ()⟩ ⟨7, 1, 4, getPayload "a"⟩ = .error (.errno .EMSGSIZE) := by
  refine ⟨walked_thousand, fun misplaced sys room => ?_⟩
  exact crowded_refused rfl rfl (by decide) (by decide) (walked_thousand smallSettings) rfl
    (lookup_getPayload held_name rfl) rfl

end Thousand

end Urp.Genl
