import Urp.Fast.Device

/-!
# What a completion entry names
-/

namespace Urp.Fast

open Urp.Lib Urp.Frame Option

def Delivered (byteLen : Nat) (hdr : Nat → UInt8) (dec : RxDecoded) : Prop :=
  ∃ action, classifyFrame byteLen hdr = (action, dec) ∧ fastRxDisposition action = .deliver

def readEntry (res : Res) (res2 : Nat) : Option (Nat × Nat × Nat) :=
  match res with
  | .ok n => some (n, res2 % 2 ^ 32, res2 / 2 ^ 32)
  | .error _ => none

/-- The entry of a receive of `r` that a frame completed. -/
def recvEntry (r : Req) (byteLen : Nat) (hdr : Nat → UInt8) : Option (Nat × Nat × Nat) :=
  readEntry ((Outcome.wc (.success byteLen hdr)).res r)
    (res2 r.bufIndex (Wc.success byteLen hdr).recvRes.2)

variable {hdr : Nat → UInt8} {dec : RxDecoded}

theorem recvRes_of_delivered {byteLen : Nat} (delivered : Delivered byteLen hdr dec) :
    (Wc.success byteLen hdr).recvRes = (.ok dec.payloadLen, dec.streamId % 2 ^ 16) := by
  obtain ⟨action, classified, disposition⟩ := delivered
  simp only [Wc.recvRes, classified, disposition]

theorem recvEntry_eq {r : Req} {byteLen : Nat}
    (recv : r.kind = .recv) (index : r.bufIndex < 2 ^ 32) (delivered : Delivered byteLen hdr dec) :
    recvEntry r byteLen hdr = some (dec.payloadLen, r.bufIndex, dec.streamId % 2 ^ 16) := by
  obtain ⟨low, high⟩ := res2_parts index (dec.streamId % 2 ^ 16)
  simp only [recvEntry, Outcome.res, recv, recvRes_of_delivered delivered, readEntry, low, high]

/-- An entry names its frame exactly if the stream has a number of 16 bits, and the entries of two
frames name one stream exactly if the low halves of the two numbers are equal. -/
theorem entry_names_frame_iff (r : Req) (byteLen : Nat) (hdr : Nat → UInt8) (dec : RxDecoded)
    (recv : r.kind = .recv) (index : r.bufIndex < 2 ^ 32)
    (delivered : Delivered byteLen hdr dec) :
    (recvEntry r byteLen hdr = some (dec.payloadLen, r.bufIndex, dec.streamId) ↔
      dec.streamId < 2 ^ 16) ∧
    ∀ (r' : Req) (byteLen' : Nat) (hdr' : Nat → UInt8) (dec' : RxDecoded), r'.kind = .recv →
      r'.bufIndex < 2 ^ 32 → Delivered byteLen' hdr' dec' →
      ((recvEntry r byteLen hdr).map (·.2.2) = (recvEntry r' byteLen' hdr').map (·.2.2) ↔
        dec.streamId % 2 ^ 16 = dec'.streamId % 2 ^ 16) := by
  rw [recvEntry_eq recv index delivered]
  constructor
  · rw [some_inj, Prod.mk.injEq, Prod.mk.injEq]
    constructor
    · rintro ⟨_, _, same⟩
      exact same ▸ Nat.mod_lt _ (by decide)
    · intro small
      exact ⟨rfl, rfl, Nat.mod_eq_of_lt small⟩
  · intro r' byteLen' hdr' dec' recv' index' delivered'
    rw [recvEntry_eq recv' index' delivered', map_some, map_some, some_inj]

def oneByteHeader (id : Nat) (i : Nat) : UInt8 := (encode id 0 typeData 0 0 1).getD i 0

theorem delivered_oneByte (id : Nat) (named : id = 1 ∨ id = 65537) :
    Delivered 21 (oneByteHeader id) ⟨1, id, 0, typeData, 0⟩ := by
  rcases named with rfl | rfl <;> exact ⟨.deliverStream, by decide +kernel, rfl⟩

theorem first_stream_named : recvEntry ⟨.recv, 3, 100, 0⟩ 21 (oneByteHeader 1) = some (1, 3, 1) :=
  (entry_names_frame_iff ⟨.recv, 3, 100, 0⟩ 21 (oneByteHeader 1) ⟨1, 1, 0, typeData, 0⟩ rfl
    (by decide) (delivered_oneByte 1 (.inl rfl))).1.mpr (by decide)

/-- An initiator numbers its streams 1, 3, 5 and so on, and reaches 65537. -/
theorem streams_share_entry : Delivered 21 (oneByteHeader 1) ⟨1, 1, 0, typeData, 0⟩ ∧
      Delivered 21 (oneByteHeader 65537) ⟨1, 65537, 0, typeData, 0⟩ ∧
      recvEntry ⟨.recv, 3, 100, 0⟩ 21 (oneByteHeader 1) =
        recvEntry ⟨.recv, 3, 100, 0⟩ 21 (oneByteHeader 65537) := by
  refine ⟨delivered_oneByte 1 (.inl rfl), delivered_oneByte 65537 (.inr rfl), ?_⟩
  rw [recvEntry_eq rfl (by decide) (delivered_oneByte 1 (.inl rfl)),
    recvEntry_eq rfl (by decide) (delivered_oneByte 65537 (.inr rfl))]
  decide

end Urp.Fast
