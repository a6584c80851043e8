import Urp.Lib.Checked
import Urp.Lib.Framing
import Urp.Protocol.Header

/-!
# The messages of the benchmark

A message of the benchmark is a header of 24 bytes and a payload.
-/

namespace Urp.Bench

open Urp.Lib Urp.Lib.Framing Urp.Protocol List

def hdrSize : Nat := 24

theorem hdrSize_pos : 0 < hdrSize := by decide

/-- `"URPB"` in the order of the bytes. -/
def magic : UInt32 := 0x42505255

def version : UInt8 := 1

def payloadMax : UInt32 := 0x100000

def flagEcho : UInt8 := 1

def flagFin : UInt8 := 2

def flagMask : UInt8 := flagEcho ||| flagFin

inductive Error where
  | short | magic | version | flags | cap | corrupt | unknown | dup | full | empty | range | invalid
deriving DecidableEq, Repr

/-- The `BENCH_E*` constant of an error. -/
def Error.code : Error → Int
  | .short => 1
  | .magic => 2
  | .version => 3
  | .flags => 4
  | .cap => 5
  | .corrupt => 6
  | .unknown => 7
  | .dup => 8
  | .full => 9
  | .empty => 10
  | .range => 11
  | .invalid => 12

theorem Error.code_pos (e : Error) : 0 < e.code := by
  cases e <;> decide

theorem Error.code_injective {e e' : Error} (same : e.code = e'.code) : e = e' := by
  cases e <;> cases e' <;> first | rfl | exact absurd same (by decide)

structure Hdr where
  magic : UInt32
  version : UInt8
  flags : UInt8
  originId : UInt16
  payloadLen : UInt32
  seq : UInt32
  tSendNs : UInt64
deriving DecidableEq, Repr

namespace Hdr

def encode (h : Hdr) : List UInt8 :=
  putLe 4 h.magic.toNat ++ [h.version, h.flags] ++ putLe 2 h.originId.toNat ++
    putLe 4 h.payloadLen.toNat ++ putLe 4 h.seq.toNat ++ putLe 8 h.tSendNs.toNat

def read (buf : List UInt8) : Hdr where
  magic := .ofNat (word buf 0 4)
  version := buf.getD 4 0
  flags := buf.getD 5 0
  originId := .ofNat (word buf 6 2)
  payloadLen := .ofNat (word buf 8 4)
  seq := .ofNat (word buf 12 4)
  tSendNs := .ofNat (word buf 16 8)

/-- What `max_payload` and the absolute cap leave; 0 stands for the absolute cap only. -/
def payloadCap (maxPayload : UInt32) : UInt32 :=
  if maxPayload ≠ 0 ∧ maxPayload < payloadMax then maxPayload else payloadMax

def decode (buf : List UInt8) (maxPayload : UInt32) : Except Error Hdr :=
  if buf.length < hdrSize then .error .short
  else
    let h := read buf
    if h.magic ≠ Bench.magic then .error .magic
    else if h.version ≠ Bench.version then .error .version
    else if h.flags &&& ~~~flagMask ≠ 0 then .error .flags
    else if payloadCap maxPayload < h.payloadLen then .error .cap
    else .ok h

end Hdr

def benchHdrDecode (buf : List UInt8) (maxPayload : UInt32) (out : Hdr) : Int × Hdr :=
  if buf.length < hdrSize then (-Error.short.code, out)
  else
    let out := Hdr.read buf
    if out.magic ≠ magic then (-Error.magic.code, out)
    else if out.version ≠ version then (-Error.version.code, out)
    else if out.flags &&& ~~~flagMask ≠ 0 then (-Error.flags.code, out)
    else if Hdr.payloadCap maxPayload < out.payloadLen then (-Error.cap.code, out)
    else (0, out)

section Agree

variable {buf : List UInt8} {maxPayload : UInt32} {h : Hdr} {e : Error}

theorem benchHdrDecode_ok (decoded : Hdr.decode buf maxPayload = .ok h) (out : Hdr) :
    benchHdrDecode buf maxPayload out = (0, h) := by
  simp only [Hdr.decode, guard_eq_ok] at decoded
  obtain ⟨long, known, versioned, flagged, within, read⟩ := decoded
  cases read
  simp only [benchHdrDecode, long, known, versioned, flagged, within, if_false]

theorem benchHdrDecode_error (refused : Hdr.decode buf maxPayload = .error e) (out : Hdr) :
    ∃ left, benchHdrDecode buf maxPayload out = (-e.code, left) := by
  simp only [Hdr.decode] at refused
  simp only [benchHdrDecode]
  split_ifs at refused ⊢ <;> exact ⟨_, by rw [Except.error.inj refused]⟩

end Agree

namespace Hdr

variable {buf : List UInt8} {maxPayload : UInt32} {h : Hdr}

theorem decode_short : decode buf maxPayload = .error .short ↔ buf.length < hdrSize := by
  simp only [decode]
  split_ifs with short <;> simp [short]

theorem decode_ok (decoded : decode buf maxPayload = .ok h) :
    hdrSize ≤ buf.length ∧ h.payloadLen ≤ payloadCap maxPayload := by
  simp only [decode, guard_eq_ok, Nat.not_lt] at decoded
  obtain ⟨long, -, -, -, within, read⟩ := decoded
  cases read
  exact ⟨long, UInt32.not_lt.mp within⟩

theorem word_take {first width : Nat} (inside : first + width ≤ hdrSize) (buf : List UInt8) :
    word (buf.take hdrSize) first width = word buf first width := by
  rw [word, word, drop_take, take_take, Nat.min_eq_left (by omega)]

theorem read_take (buf : List UInt8) : read (buf.take hdrSize) = read buf := by
  have byte {i : Nat} (inside : i < hdrSize) : (buf.take hdrSize).getD i 0 = buf.getD i 0 := by
    simp [getD_eq_getElem?_getD, inside]
  simp only [read, word_take (by decide : 0 + 4 ≤ hdrSize), word_take (by decide : 6 + 2 ≤ hdrSize),
    word_take (by decide : 8 + 4 ≤ hdrSize), word_take (by decide : 12 + 4 ≤ hdrSize),
    word_take (by decide : 16 + 8 ≤ hdrSize), byte (by decide : 4 < hdrSize),
    byte (by decide : 5 < hdrSize)]

theorem decode_take (long : hdrSize ≤ buf.length) :
    decode (buf.take hdrSize) maxPayload = decode buf maxPayload := by
  have length : (buf.take hdrSize).length = hdrSize := length_take_of_le long
  simp only [decode, read_take, length, if_neg (Nat.not_lt.mpr long), Nat.lt_irrefl, if_false]

theorem decode_append (long : hdrSize ≤ buf.length) (rest : List UInt8) :
    decode (buf ++ rest) maxPayload = decode buf maxPayload := by
  have longer : hdrSize ≤ (buf ++ rest).length := by
    rw [length_append]
    omega
  rw [← decode_take longer, take_append_of_le_length long, decode_take long]

end Hdr

/-! ## Messages -/

structure Msg where
  hdr : Hdr
  payload : List UInt8
deriving DecidableEq, Repr

def front (maxPayload : UInt32) (bytes : List UInt8) : Front UInt8 Msg Error :=
  match Hdr.decode bytes maxPayload with
  | .error .short => .incomplete
  | .error e => .invalid e
  | .ok h =>
    if (bytes.drop hdrSize).length < h.payloadLen.toNat then .incomplete
    else
      .message ⟨h, (bytes.drop hdrSize).take h.payloadLen.toNat⟩
        (bytes.drop (hdrSize + h.payloadLen.toNat))

section Front

variable {maxPayload : UInt32} {bytes : List UInt8} {h : Hdr}

theorem front_short (short : bytes.length < hdrSize) : front maxPayload bytes = .incomplete := by
  simp only [front, Hdr.decode_short.mpr short]

theorem front_invalid {e : Error} (refused : Hdr.decode bytes maxPayload = .error e)
    (long : hdrSize ≤ bytes.length) : front maxPayload bytes = .invalid e := by
  have other : e ≠ .short := by
    rintro rfl
    exact Nat.not_lt.mpr long (Hdr.decode_short.mp refused)
  cases e <;> simp_all [front]

theorem front_ok (decoded : Hdr.decode bytes maxPayload = .ok h) : front maxPayload bytes =
      if (bytes.drop hdrSize).length < h.payloadLen.toNat then .incomplete
      else
        .message ⟨h, (bytes.drop hdrSize).take h.payloadLen.toNat⟩
          (bytes.drop (hdrSize + h.payloadLen.toNat)) := by
  simp only [front, decoded]

theorem front_cases (maxPayload : UInt32) (bytes : List UInt8) : bytes.length < hdrSize ∨
      (∃ e, hdrSize ≤ bytes.length ∧ Hdr.decode bytes maxPayload = .error e) ∨
      ∃ h, hdrSize ≤ bytes.length ∧ Hdr.decode bytes maxPayload = .ok h := by
  by_cases short : bytes.length < hdrSize
  · exact .inl short
  · cases decoded : Hdr.decode bytes maxPayload with
    | error e => exact .inr (.inl ⟨e, Nat.not_lt.mp short, rfl⟩)
    | ok h => exact .inr (.inr ⟨h, Nat.not_lt.mp short, rfl⟩)

end Front

def format (maxPayload : UInt32) : Format UInt8 Msg Error where
  front := front maxPayload
  shorter := by
    intro bytes m rest found
    rcases front_cases maxPayload bytes with short | ⟨e, long, refused⟩ | ⟨h, long, decoded⟩
    · rw [front_short short] at found
      cases found
    · rw [front_invalid refused long] at found
      cases found
    · rw [front_ok decoded] at found
      split_ifs at found
      obtain ⟨-, rfl⟩ := Front.message.inj found
      have positive := hdrSize_pos
      rw [length_drop]
      omega
  invalid_append := by
    intro bytes e more found
    rcases front_cases maxPayload bytes with short | ⟨e', long, refused⟩ | ⟨h, long, decoded⟩
    · rw [front_short short] at found
      cases found
    · rw [front_invalid refused long] at found
      obtain rfl := Front.invalid.inj found
      exact front_invalid ((Hdr.decode_append long more).trans refused)
        (by rw [length_append]; omega)
    · rw [front_ok decoded] at found
      split_ifs at found
  message_append := by
    intro bytes m rest more found
    rcases front_cases maxPayload bytes with short | ⟨e, long, refused⟩ | ⟨h, long, decoded⟩
    · rw [front_short short] at found
      cases found
    · rw [front_invalid refused long] at found
      cases found
    · rw [front_ok decoded] at found
      split_ifs at found with whole
      obtain ⟨rfl, rfl⟩ := Front.message.inj found
      have payload : h.payloadLen.toNat ≤ (bytes.drop hdrSize).length := Nat.not_lt.mp whole
      rw [length_drop] at payload
      rw [front_ok ((Hdr.decode_append long more).trans decoded),
        drop_append_of_le_length long, if_neg (by simp; omega),
        take_append_of_le_length (by simpa using payload),
        drop_append_of_le_length (by omega)]

def plainHdr : Hdr := ⟨magic, version, 0, 1, 0, 10, 0⟩

def oddHdr : Hdr := { plainHdr with version := 7 }

end Urp.Bench
