import Urp.Rx.Deliver

/-!
# A frame from the wire to its stream
-/

namespace Urp.Rx

open Urp.Lib Urp.Reorder Urp.Frame Urp.Window Urp.Stream List

def windowGrant (s : Stream) : Stream × Option Nat :=
  if shouldGrant s.rxBytes s.lastWindowGrant s.windowBytes then
    ({ s with lastWindowGrant := s.rxBytes }, some s.rxBytes)
  else (s, none)

def receiveData (kmalloc : Nat → Bool) (results : Nat → SendResult) (g : Geometry)
    (windowNegotiated : Bool) (s : Stream) (slot : Memory) (dec : RxDecoded) :
    Stream × Option Nat :=
  let s' := deliverFrame kmalloc results g s slot (decodeSeq (slot 0)) dec.payloadLen
  if windowNegotiated then windowGrant s' else (s', none)

theorem receiveData_negotiated (kmalloc : Nat → Bool) (results : Nat → SendResult) (g : Geometry)
    (s : Stream) (slot : Memory) (dec : RxDecoded) :
    receiveData kmalloc results g true s slot dec =
      windowGrant (deliverFrame kmalloc results g s slot (decodeSeq (slot 0)) dec.payloadLen) := rfl

theorem receiveData_plain (kmalloc : Nat → Bool) (results : Nat → SendResult) (g : Geometry)
    (s : Stream) (slot : Memory) (dec : RxDecoded) :
    (receiveData kmalloc results g false s slot dec).1 =
      deliverFrame kmalloc results g s slot (decodeSeq (slot 0)) dec.payloadLen := by
  simp only [receiveData, Bool.false_eq_true, if_false]

theorem windowGrant_fields (s : Stream) :
    (windowGrant s).1.state = s.state ∧ (windowGrant s).1.reorder = s.reorder ∧
      (windowGrant s).1.udsSock = s.udsSock := by
  unfold windowGrant
  split <;> exact ⟨rfl, rfl, rfl⟩

theorem receiveData_fields (kmalloc : Nat → Bool) (results : Nat → SendResult) (g : Geometry)
    (windowNegotiated : Bool) (s : Stream) (slot : Memory) (dec : RxDecoded) {s' : Stream}
    (delivered : deliverFrame kmalloc results g s slot (decodeSeq (slot 0)) dec.payloadLen = s') :
    (receiveData kmalloc results g windowNegotiated s slot dec).1.state = s'.state ∧
      (receiveData kmalloc results g windowNegotiated s slot dec).1.reorder = s'.reorder ∧
      (receiveData kmalloc results g windowNegotiated s slot dec).1.udsSock = s'.udsSock := by
  subst delivered
  cases windowNegotiated with
  | true => exact windowGrant_fields _
  | false => rw [receiveData_plain]; exact ⟨rfl, rfl, rfl⟩

def creditBytesFrame (id cumulativeBytes : Nat) : List UInt8 :=
  encode id 0 typeControl ctrlFlagCreditBytes 0 creditBytesPayloadSize ++
    creditBytesEncode cumulativeBytes

def creditFrame (id grants : Nat) : List UInt8 := encode id 0 typeControl ctrlFlagCredit grants 0

def receiveCredit (s : Stream) (slot : Memory) (dec : RxDecoded) : Stream :=
  let s' := if dec.flags &&& ctrlFlagCredit ≠ 0 then { s with credit := s.credit.grant dec.credits }
    else s
  if dec.flags &&& ctrlFlagCreditBytes ≠ 0 then
    match creditBytesDecode (fun i => slot 0 (headerSize + i)) dec.payloadLen with
    | some granted => { s' with txBytesAcked := applyGrant s'.txBytesAcked granted }
    | none => s'
  else s'

/-! ## What lands in the slot -/

theorem classifyFrame_landing {g : Geometry} {id seq : Nat} {frameType flags : UInt8}
    {credits : Nat} {data rest : List UInt8} (mem : Memory) (word : id < 2 ^ 32)
    (notProbe : frameType ≠ typeProbe)
    (fits : (encode id seq frameType flags credits data.length ++ (data ++ rest)).length ≤
      g.bufSize) :
    classifyFrame (encode id seq frameType flags credits data.length ++ (data ++ rest)).length
      (landing g mem (encode id seq frameType flags credits data.length ++ (data ++ rest)) 0) =
        (if frameType = typeControl then .credit
          else if id = 0 then .deliverLegacy else .deliverStream,
          ⟨data.length, id, credits % 2 ^ 16, frameType, flags⟩) := by
  have length := length_encode id seq frameType flags credits data.length
  have size_max := g.size_max
  simp only [length_append] at fits ⊢
  refine classifyFrame_encode (header_landing mem length (by simpa using fits)) word ?_ ?_ notProbe
  · unfold maxPayload
    omega
  · omega

theorem creditBytesFrame_eq (id n : Nat) : creditBytesFrame id n =
      encode id 0 typeControl ctrlFlagCreditBytes 0 (creditBytesEncode n).length ++
        (creditBytesEncode n ++ []) := by
  rw [creditBytesFrame, append_nil, creditBytesEncode, length_putLe]
  rfl

theorem length_creditBytesFrame (id n : Nat) : (creditBytesFrame id n).length = 28 := by
  simp [creditBytesFrame, creditBytesEncode, length_putLe, headerSize]

theorem creditBytesFrame_fits (g : Geometry) (id n : Nat) :
    (creditBytesFrame id n).length ≤ g.bufSize := by
  rw [length_creditBytesFrame]
  exact le_trans (by decide) g.size_min

theorem classifyFrame_creditBytesFrame {g : Geometry} (mem : Memory) {id : Nat} (n : Nat)
    (word : id < 2 ^ 32) :
    classifyFrame (creditBytesFrame id n).length (landing g mem (creditBytesFrame id n) 0) =
      (.credit, ⟨creditBytesPayloadSize, id, 0, typeControl, ctrlFlagCreditBytes⟩) := by
  have fits := creditBytesFrame_fits g id n
  rw [creditBytesFrame_eq] at fits ⊢
  rw [classifyFrame_landing mem word (by decide) fits, if_pos rfl, creditBytesEncode, length_putLe]
  rfl

theorem receiveCredit_creditBytesFrame {g : Geometry} (mem : Memory) (s : Stream) {id n : Nat}
    (word : n < 2 ^ 64) :
    receiveCredit s (landing g mem (creditBytesFrame id n))
        ⟨creditBytesPayloadSize, id, 0, typeControl, ctrlFlagCreditBytes⟩ =
      { s with txBytesAcked := applyGrant s.txBytesAcked n } := by
  have length := length_creditBytesFrame id n
  have fits := creditBytesFrame_fits g id n
  have bytes : window (fun i => landing g mem (creditBytesFrame id n) 0 (headerSize + i)) 0 8 =
      creditBytesEncode n := by
    have shifted : window (fun i => landing g mem (creditBytesFrame id n) 0 (headerSize + i)) 0 8 =
        window (landing g mem (creditBytesFrame id n) 0) headerSize 8 := by
      simp [window]
    rw [shifted, window_landing_zero mem fits (by rw [length]; decide)
      (le_trans (by decide) g.page_le)]
    rfl
  have decoded : creditBytesDecode
      (fun i => landing g mem (creditBytesFrame id n) 0 (headerSize + i))
      creditBytesPayloadSize = some n := by
    have small : n < 256 ^ 8 := by omega
    rw [creditBytesDecode, if_neg (Nat.lt_irrefl _), bytes, creditBytesEncode, getLe_putLe,
      Nat.mod_eq_of_lt small]
  have notFrames : ¬ctrlFlagCreditBytes &&& ctrlFlagCredit ≠ 0 := by decide
  have forBytes : ctrlFlagCreditBytes &&& ctrlFlagCreditBytes ≠ 0 := by decide
  simp only [receiveCredit, decoded, if_neg notFrames, if_pos forBytes]

end Urp.Rx
