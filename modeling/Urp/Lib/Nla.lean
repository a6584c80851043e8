import Mathlib.Logic.Function.Iterate
import Urp.Lib.LittleEndian

/-!
# Netlink attributes
-/

namespace Urp.Lib.Nla

open List Option

def hdrLen : Nat := 4

def nestedFlag : Nat := 2 ^ 15

def align4 (n : Nat) : Nat := (n + 3) / 4 * 4

structure Attr where
  type : Nat
  payload : List UInt8
deriving DecidableEq

namespace Attr

def size (a : Attr) : Nat := hdrLen + a.payload.length

def header (a : Attr) : List UInt8 := putLe 2 a.size ++ putLe 2 a.type

def bytes (a : Attr) : List UInt8 :=
  a.header ++ (a.payload ++ List.replicate (align4 a.size - a.size) 0)

structure Fits (a : Attr) : Prop where
  size : a.size < 2 ^ 16
  type : a.type < 2 ^ 16

@[simp] theorem length_header (a : Attr) : a.header.length = hdrLen := by
  simp [header, hdrLen]

theorem length_bytes (a : Attr) : a.bytes.length = align4 a.size := by
  simp only [bytes, length_append, length_header, length_replicate, size, align4]
  omega

end Attr

def encode (attrs : List Attr) : List UInt8 := attrs.flatMap Attr.bytes

@[simp] theorem encode_nil : encode [] = [] := rfl

@[simp] theorem encode_cons (a : Attr) (attrs : List Attr) :
    encode (a :: attrs) = a.bytes ++ encode attrs := rfl

@[simp] theorem encode_append (first second : List Attr) :
    encode (first ++ second) = encode first ++ encode second :=
  flatMap_append

theorem length_encode_mod (attrs : List Attr) : (encode attrs).length % 4 = 0 := by
  induction attrs with
  | nil => rfl
  | cons a attrs ih =>
    rw [encode_cons, length_append, a.length_bytes, align4]
    omega

theorem length_le_encode (attrs : List Attr) : 4 * attrs.length ≤ (encode attrs).length := by
  induction attrs with
  | nil => rfl
  | cons a attrs ih =>
    rw [encode_cons, length_append, a.length_bytes, length_cons]
    simp only [Attr.size, align4, hdrLen]
    omega

/-! ## Reading -/

def next (buf : List UInt8) : Option (Attr × List UInt8) :=
  if buf.length < hdrLen then none
  else
    let len := getLe (buf.take 2)
    if len < hdrLen ∨ buf.length < len then none
    else
      some (⟨getLe ((buf.drop 2).take 2), (buf.take len).drop hdrLen⟩, buf.drop (align4 len))

def walkFrom : Nat → List UInt8 → List Attr × List UInt8
  | 0, buf => ([], buf)
  | fuel + 1, buf =>
    match next buf with
    | none => ([], buf)
    | some (a, rest) => (a :: (walkFrom fuel rest).1, (walkFrom fuel rest).2)

def walk (buf : List UInt8) : List Attr × List UInt8 := walkFrom buf.length buf

variable {a : Attr}

theorem next_bytes (fits : a.Fits) (rest : List UInt8) :
    next (a.bytes ++ rest) = some (a, rest) := by
  have least : hdrLen ≤ a.size := Nat.le_add_right _ _
  have aligned : a.size ≤ align4 a.size := by
    unfold align4
    omega
  have length : (a.bytes ++ rest).length = align4 a.size + rest.length := by
    rw [length_append, a.length_bytes]
  have size : getLe ((a.bytes ++ rest).take 2) = a.size := by
    simp only [Attr.bytes, Attr.header, append_assoc]
    rw [take_left' (length_putLe 2 _), getLe_putLe_of_lt (by simpa using fits.size)]
  have type : getLe (((a.bytes ++ rest).drop 2).take 2) = a.type := by
    simp only [Attr.bytes, Attr.header, append_assoc]
    rw [drop_left' (length_putLe 2 _), take_left' (length_putLe 2 _),
      getLe_putLe_of_lt (by simpa using fits.type)]
  have payload : ((a.bytes ++ rest).take a.size).drop hdrLen = a.payload := by
    rw [drop_take, Attr.bytes, append_assoc, drop_left' a.length_header, Attr.size,
      Nat.add_sub_cancel_left, append_assoc, take_left]
  simp only [next, size, type, payload]
  rw [if_neg (by omega), if_neg (by omega), ← a.length_bytes, drop_left]

variable {attrs : List Attr}

theorem walkFrom_encode (fits : ∀ a ∈ attrs, a.Fits) {fuel : Nat}
    (enough : attrs.length ≤ fuel) : walkFrom fuel (encode attrs) = (attrs, []) := by
  induction attrs generalizing fuel with
  | nil =>
    cases fuel with
    | zero | succ fuel => rfl
  | cons a attrs ih =>
    cases fuel with
    | zero => simp at enough
    | succ fuel =>
      have rest := ih (fun b member => fits b (mem_cons_of_mem _ member))
        (Nat.le_of_succ_le_succ enough)
      simp only [walkFrom, encode_cons, next_bytes (fits a mem_cons_self), rest]

theorem walk_encode (fits : ∀ a ∈ attrs, a.Fits) : walk (encode attrs) = (attrs, []) := by
  have bound := length_le_encode attrs
  exact walkFrom_encode fits (by omega)

inductive Walks : List UInt8 → List Attr → List UInt8 → Prop where
  | done {buf} (ended : next buf = none) : Walks buf [] buf
  | step {buf rest left a attrs}
      (found : next buf = some (a, rest)) (walks : Walks rest attrs left) :
      Walks buf (a :: attrs) left

section Walks

variable {buf rest left : List UInt8} {a : Attr} {attrs : List Attr}

theorem next_some (found : next buf = some (a, rest)) :
    ∃ len, hdrLen ≤ len ∧ len ≤ buf.length ∧ a.payload = (buf.take len).drop hdrLen ∧
      rest = buf.drop (align4 len) := by
  simp only [next] at found
  split_ifs at found with short outside
  obtain ⟨rfl, rfl⟩ := found
  exact ⟨_, by omega, by omega, rfl, rfl⟩

theorem next_shorter (found : next buf = some (a, rest)) : rest.length + hdrLen ≤ buf.length := by
  obtain ⟨len, least, most, -, rfl⟩ := next_some found
  rw [length_drop]
  unfold align4
  omega

theorem walks_walkFrom {fuel : Nat} (enough : buf.length ≤ fuel) :
    Walks buf (walkFrom fuel buf).1 (walkFrom fuel buf).2 := by
  induction fuel generalizing buf with
  | zero =>
    obtain rfl := eq_nil_of_length_eq_zero (Nat.le_zero.mp enough)
    exact .done rfl
  | succ fuel ih =>
    unfold walkFrom
    split
    next ended => exact .done ended
    next a rest found =>
      have shorter := next_shorter found
      unfold hdrLen at shorter
      exact .step found (ih (by omega))

theorem walks_walk (buf : List UInt8) : Walks buf (walk buf).1 (walk buf).2 :=
  walks_walkFrom le_rfl

theorem Walks.length_le (walks : Walks buf attrs left) :
    hdrLen * attrs.length + left.length ≤ buf.length := by
  induction walks with
  | done ended => simp
  | step found walks ih =>
    have shorter := next_shorter found
    rw [length_cons, Nat.mul_succ]
    omega

theorem Walks.inside (walks : Walks buf attrs left) (member : a ∈ attrs) : a.payload <:+: buf := by
  induction walks with
  | done ended => cases member
  | step found walks ih =>
    obtain ⟨len, -, -, payload, rfl⟩ := next_some found
    rcases mem_cons.mp member with rfl | member
    · rw [payload]
      exact (drop_suffix _ _).isInfix.trans (IsPrefix.isInfix <| take_prefix ..)
    · exact (ih member).trans (drop_suffix _ _).isInfix

end Walks

/-! ## Checking against a policy -/

inductive Fault where
  | EINVAL | ERANGE
deriving DecidableEq

def Attr.kind (a : Attr) : Nat := a.type % 2 ^ 14

def Attr.flagged (a : Attr) : Bool := decide (nestedFlag ≤ a.type)

inductive Policy where
  | unspec
  | nulString (max : Nat)
  | exactLen (len : Nat)
  | u8 (low high : Nat)
  | u32 (low high : Nat)
  | nested (max : Nat) (inner : Nat → Policy)

def inRange (n low high : Nat) : Except Fault Unit :=
  if low ≤ n ∧ n ≤ high then .ok () else .error .ERANGE

def validateString (max : Nat) (payload : List UInt8) : Except Fault Unit :=
  if 0 ∉ payload.take (max + 1) then .error .EINVAL
  else
    let len := if payload.getLast? = some 0 then payload.length - 1 else payload.length
    if max < len then .error .ERANGE else .ok ()

def Policy.validate : Policy → Attr → Except Fault Unit
  | .unspec, _ => .error .EINVAL
  | .nulString max, a => if a.flagged then .error .EINVAL else validateString max a.payload
  | .exactLen len, a => if a.flagged then .error .EINVAL else inRange a.payload.length len len
  | .u8 low high, a =>
    if a.payload.length ≠ 1 ∨ a.flagged then .error .EINVAL else inRange (getLe a.payload) low high
  | .u32 low high, a =>
    if a.payload.length ≠ 4 ∨ a.flagged then .error .EINVAL else inRange (getLe a.payload) low high
  | .nested max inner, a =>
    if !a.flagged then .error .EINVAL
    else if a.payload = [] then .ok ()
    else if a.payload.length < hdrLen then .error .ERANGE
    else do
      for b in (walk a.payload).1 do
        if b.kind = 0 ∨ max < b.kind then throw .EINVAL
        (inner b.kind).validate b
      if (walk a.payload).2 ≠ [] then throw .EINVAL

def enter (max : Nat) (policy : Nat → Policy) (tb : Nat → Option Attr) (a : Attr) :
    Except Fault (Nat → Option Attr) := do
  if a.kind = 0 ∨ max < a.kind then throw .EINVAL
  (policy a.kind).validate a
  return Function.update tb a.kind (some a)

def parse (max : Nat) (policy : Nat → Policy) (buf : List UInt8) :
    Except Fault (Nat → Option Attr) := do
  let tb ← (walk buf).1.foldlM (enter max policy) fun _ => none
  if (walk buf).2 ≠ [] then throw .EINVAL
  return tb

def parseNested (max : Nat) (policy : Nat → Policy) (a : Attr) :
    Except Fault (Nat → Option Attr) :=
  if !a.flagged then .error .EINVAL else parse max policy a.payload

def lookup : List Attr → Nat → Option Attr
  | [], _ => none
  | a :: attrs, k => (lookup attrs k).or (if a.kind = k then some a else none)

@[simp] theorem lookup_append (first second : List Attr) (k : Nat) :
    lookup (first ++ second) k = (lookup second k).or (lookup first k) := by
  induction first with
  | nil => simp [lookup]
  | cons a first ih => simp [lookup, ih, Option.or_assoc]

theorem lookup_eq_none {k : Nat} (absent : ∀ a ∈ attrs, a.kind ≠ k) : lookup attrs k = none := by
  induction attrs with
  | nil => rfl
  | cons a attrs ih =>
    obtain ⟨other, absent⟩ := forall_mem_cons.mp absent
    rw [lookup, ih absent, if_neg other]
    rfl

theorem bind_eq_ok {ε α β : Type} {x : Except ε α} {f : α → Except ε β} {b : β}
    (bound : x >>= f = .ok b) : ∃ a, x = .ok a ∧ f a = .ok b := by
  cases x with
  | error e => cases bound
  | ok a => exact ⟨a, rfl, bound⟩

variable {max : Nat} {policy : Nat → Policy} {tb : Nat → Option Attr}

variable {tb' : Nat → Option Attr}

theorem enter_ok (entered : enter max policy tb a = .ok tb') :
    (policy a.kind).validate a = .ok () ∧ tb' = Function.update tb a.kind (some a) := by
  unfold enter at entered
  split_ifs at entered with unknown
  · cases entered
  · obtain ⟨_, checked, entered⟩ := bind_eq_ok entered
    exact ⟨checked, (Except.ok.inj entered).symm⟩

theorem foldlM_enter_ok (entered : attrs.foldlM (enter max policy) tb = .ok tb') :
    (∀ a ∈ attrs, (policy a.kind).validate a = .ok ()) ∧
      ∀ k, tb' k = (lookup attrs k).or (tb k) := by
  induction attrs generalizing tb with
  | nil =>
    cases entered
    exact ⟨by simp, fun k => rfl⟩
  | cons a attrs ih =>
    obtain ⟨tb₁, first, entered⟩ := bind_eq_ok entered
    obtain ⟨checked, rfl⟩ := enter_ok first
    obtain ⟨rest, looked⟩ := ih entered
    refine ⟨forall_mem_cons.mpr ⟨checked, rest⟩, fun k => ?_⟩
    rw [looked k, lookup, Option.or_assoc]
    rcases eq_or_ne k a.kind with rfl | same
    · simp
    · simp [Function.update_of_ne same, Ne.symm same]

theorem parse_ok {buf : List UInt8} (parsed : parse max policy buf = .ok tb) :
    (∀ a ∈ (walk buf).1, (policy a.kind).validate a = .ok ()) ∧ tb = lookup (walk buf).1 := by
  obtain ⟨tb', entered, parsed⟩ := bind_eq_ok parsed
  obtain ⟨checked, looked⟩ := foldlM_enter_ok entered
  split_ifs at parsed with trailing
  · obtain ⟨_, thrown, -⟩ := bind_eq_ok parsed
    cases thrown
  · cases parsed
    exact ⟨checked, funext fun k => by simp [looked k]⟩

theorem parse_one (fits : a.Fits)
    (known : ¬(a.kind = 0 ∨ max < a.kind)) (valid : (policy a.kind).validate a = .ok ()) :
    parse max policy (encode [a]) = .ok (Function.update (fun _ => none) a.kind (some a)) := by
  have walked : walk (encode [a]) = ([a], []) := walk_encode fun b member =>
    mem_singleton.mp member ▸ fits
  have entered : enter max policy (fun _ => none) a =
      .ok (Function.update (fun _ => none) a.kind (some a)) := by
    simp only [enter, if_neg known, valid]
    rfl
  simp only [parse, walked, foldlM_cons, entered]
  rfl

variable {type : Nat}

theorem validate_nested_one {inner : Nat → Policy} {b : Attr}
    (flagged : nestedFlag ≤ type) (fits : b.Fits) (known : ¬(b.kind = 0 ∨ max < b.kind))
    (valid : (inner b.kind).validate b = .ok ()) :
    (Policy.nested max inner).validate ⟨type, encode [b]⟩ = .ok () := by
  have walked : walk (encode [b]) = ([b], []) := walk_encode fun c member =>
    mem_singleton.mp member ▸ fits
  have least : hdrLen ≤ (encode [b]).length := length_le_encode [b]
  have nonempty : encode [b] ≠ [] := by
    intro empty
    rw [empty] at least
    cases least
  have flag : Attr.flagged ⟨type, encode [b]⟩ = true := decide_eq_true flagged
  unfold Policy.validate
  rw [flag]
  simp only [if_neg nonempty, if_neg (Nat.not_lt.mpr least), walked, forIn_cons, if_neg known,
    valid]
  rfl

/-! ## Writing -/

structure Skb where
  data : List UInt8
  size : Nat
  fits : data.length ≤ size
  small : size < 2 ^ 16

abbrev Writer := Skb → Option Skb

def put (type : Nat) (payload : List UInt8) : Writer := fun s =>
  let a : Attr := ⟨type, payload⟩
  if room : s.data.length + align4 a.size ≤ s.size then
    some { s with
      data := s.data ++ a.bytes
      fits := by rw [length_append, a.length_bytes]; exact room }
  else none

/-- Where a 64-bit word has to be aligned, an empty attribute of type 0 goes before it. `misplaced`
tells from the position whether it has to. -/
def putU64 (misplaced : Nat → Bool) (type : Nat) (v : UInt64) : Writer := fun s =>
  if misplaced s.data.length then (put 0 [] s).bind (put type (putLe 8 v.toNat))
  else put type (putLe 8 v.toNat) s

def nestType (type : Nat) : Nat := type % nestedFlag + nestedFlag

/-- The size of the attribute at `start` becomes what was written from there. -/
def nestEnd (start : Nat) (s : Skb) (inside : start + 2 ≤ s.data.length) : Skb :=
  { s with
    data := s.data.take start ++ (putLe 2 (s.data.length - start) ++ s.data.drop (start + 2))
    fits := by
      have fits := s.fits
      simp only [length_append, length_take, length_putLe, length_drop]
      omega }

def nest (type : Nat) (contents : Writer) : Writer := fun s =>
  ((put (nestType type) [] s).bind contents).bind fun s' =>
    if inside : s.data.length + 2 ≤ s'.data.length then some (nestEnd s.data.length s' inside)
    else none

def seq : List Writer → Writer
  | [] => some
  | w :: ws => fun s => (w s).bind (seq ws)

theorem seq_append (ws ws' : List Writer) : seq (ws ++ ws') = seq [seq ws, seq ws'] := by
  induction ws with
  | nil =>
    funext s
    simp [seq]
  | cons w ws ih =>
    funext s
    rw [cons_append, seq, ih]
    simp [seq, bind_assoc]

def whenever (c : Bool) (w : Writer) : Writer := if c then w else some

/-- Where a writer succeeds, it appends attributes of which `R` holds. -/
def Writes (w : Writer) (R : List Attr → Prop) : Prop :=
  ∀ s s', w s = some s' →
    ∃ attrs, s'.data = s.data ++ encode attrs ∧ (∀ a ∈ attrs, a.Fits) ∧ R attrs

variable {w : Writer} {R : List Attr → Prop}

variable {R' : List Attr → Prop}

theorem Writes.mono (writes : Writes w R) (weaker : ∀ l, R l → R' l) : Writes w R' := by
  intro s s' written
  obtain ⟨attrs, data, fits, held⟩ := writes s s' written
  exact ⟨attrs, data, fits, weaker attrs held⟩

theorem writes_put (small : type < 2 ^ 16) (payload : List UInt8) :
    Writes (put type payload) (· = [⟨type, payload⟩]) := by
  intro s s' written
  simp only [put] at written
  split_ifs at written with room
  cases written
  refine ⟨[⟨type, payload⟩], by simp, ?_, rfl⟩
  intro a member
  obtain rfl := mem_singleton.mp member
  have bound := s.small
  refine ⟨?_, small⟩
  unfold align4 at room
  omega

theorem writes_nil : Writes (seq []) (· = []) := by
  intro s s' written
  cases written
  exact ⟨[], by simp, by simp, rfl⟩

theorem Writes.cons {ws : List Writer} (first : Writes w R) (rest : Writes (seq ws) R') :
    Writes (seq (w :: ws)) fun l => ∃ l₁ l₂, l = l₁ ++ l₂ ∧ R l₁ ∧ R' l₂ := by
  intro s s' written
  obtain ⟨s₁, written₁, written₂⟩ := bind_eq_some_iff.mp written
  obtain ⟨l₁, data₁, fits₁, held₁⟩ := first s s₁ written₁
  obtain ⟨l₂, data₂, fits₂, held₂⟩ := rest s₁ s' written₂
  refine ⟨l₁ ++ l₂, ?_, ?_, l₁, l₂, rfl, held₁, held₂⟩
  · rw [data₂, data₁, encode_append, append_assoc]
  · intro a member
    rcases mem_append.mp member with member | member
    · exact fits₁ a member
    · exact fits₂ a member

theorem Writes.nest (writes : Writes w R) (type : Nat) :
    Writes (nest type w) fun l => ∃ inner, l = [⟨nestType type, encode inner⟩] ∧
      (∀ a ∈ inner, a.Fits) ∧ R inner := by
  intro s s' written
  obtain ⟨s₂, written, ended⟩ := bind_eq_some_iff.mp written
  obtain ⟨s₁, started, filled⟩ := bind_eq_some_iff.mp written
  have type_lt : nestType type < 2 ^ 16 := by
    unfold nestType nestedFlag
    omega
  obtain ⟨_, data₁, -, rfl⟩ := writes_put type_lt [] s s₁ started
  obtain ⟨inner, data₂, fits, held⟩ := writes s₁ s₂ filled
  split_ifs at ended with inside
  cases ended
  let a : Attr := ⟨nestType type, encode inner⟩
  have unpadded : align4 a.size - a.size = 0 := by
    have whole := length_encode_mod inner
    simp only [a, Attr.size, align4, hdrLen]
    omega
  have whole : s₂.data = s.data ++ (putLe 2 4 ++ (putLe 2 (nestType type) ++ encode inner)) := by
    rw [data₂, data₁]
    simp [Attr.bytes, Attr.header, Attr.size, hdrLen, align4]
  have length : s₂.data.length - s.data.length = a.size := by
    rw [whole]
    simp only [length_append, length_putLe, a, Attr.size, hdrLen]
    omega
  refine ⟨[a], ?_, ?_, inner, rfl, fits, held⟩
  · simp only [nestEnd]
    rw [length, whole, take_left, ← drop_drop, drop_left, drop_left' (length_putLe 2 _)]
    simp [a, Attr.bytes, unpadded, Attr.header]
  · intro b member
    obtain rfl := mem_singleton.mp member
    have most := s₂.fits
    have small := s₂.small
    exact ⟨by omega, type_lt⟩

variable {misplaced : Nat → Bool}

theorem writes_putU64 (small : type < 2 ^ 16) (v : UInt64) :
    Writes (putU64 misplaced type v) fun l =>
      l = [⟨type, putLe 8 v.toNat⟩] ∨ l = [⟨0, []⟩, ⟨type, putLe 8 v.toNat⟩] := by
  intro s s' written
  unfold putU64 at written
  split_ifs at written
  · have padding : Writes (put 0 []) (· = [⟨0, []⟩]) := writes_put (by decide) []
    have both := padding.cons ((writes_put small (putLe 8 v.toNat)).cons writes_nil)
    obtain ⟨l, data, fits, l₁, l₂, rfl, rfl, l₃, l₄, rfl, rfl, rfl⟩ := both s s' (by
      simpa [seq] using written)
    exact ⟨_, data, fits, .inr rfl⟩
  · obtain ⟨l, data, fits, rfl⟩ := writes_put small (putLe 8 v.toNat) s s' written
    exact ⟨_, data, fits, .inl rfl⟩

theorem writes_each {α : Type} {f : α → Writer} {P : α → Attr → Prop} (xs : List α)
    (writes : ∀ x ∈ xs, Writes (f x) fun l => ∃ a, l = [a] ∧ P x a) :
    Writes (seq (xs.map f)) fun l => List.Forall₂ P xs l := by
  induction xs with
  | nil => exact writes_nil.mono (by rintro l rfl; exact .nil)
  | cons x xs ih =>
    have rest := ih fun y member => writes y (mem_cons_of_mem _ member)
    refine ((writes x mem_cons_self).cons rest).mono ?_
    rintro l ⟨l₁, l₂, rfl, ⟨a, rfl, held⟩, helds⟩
    exact .cons held helds

/-! ## The room that a writer takes -/

structure Takes (w : Writer) (upTo : Nat → Nat) : Prop where
  grows : ∀ n, n ≤ upTo n
  fits : ∀ s : Skb, upTo s.data.length ≤ s.size →
    ∃ s', w s = some s' ∧ s'.data.length = upTo s.data.length ∧ s'.size = s.size
  full : ∀ s : Skb, s.size < upTo s.data.length → w s = none

section Takes

variable {upTo upTo' : Nat → Nat}

theorem Takes.congr (takes : Takes w upTo) (same : ∀ n, upTo n = upTo' n) : Takes w upTo' := by
  obtain rfl : upTo = upTo' := funext same
  exact takes

theorem takes_put (type : Nat) {payload : List UInt8} {total : Nat}
    (size : align4 (hdrLen + payload.length) = total) : Takes (put type payload) (· + total) where
  grows n := Nat.le_add_right n _
  fits s room := by
    let a : Attr := ⟨type, payload⟩
    subst size
    have room' : s.data.length + align4 a.size ≤ s.size := room
    simp only [put]
    rw [dif_pos room']
    exact ⟨_, rfl, by rw [length_append, a.length_bytes]; rfl, rfl⟩
  full s none := by
    subst size
    simp only [put]
    exact dif_neg (Nat.not_le.mpr none)

theorem takes_nil : Takes (seq []) id where
  grows n := Nat.le_refl n
  fits s _ := ⟨s, rfl, rfl, rfl⟩
  full s none := absurd s.fits (Nat.not_le.mpr none)

theorem Takes.cons {ws : List Writer} (first : Takes w upTo) (rest : Takes (seq ws) upTo') :
    Takes (seq (w :: ws)) (upTo' ∘ upTo) where
  grows n := Nat.le_trans (first.grows n) (rest.grows _)
  fits s room := by
    obtain ⟨s₁, written, length, size⟩ := first.fits s (Nat.le_trans (rest.grows _) room)
    obtain ⟨s₂, later, length', size'⟩ := rest.fits s₁ (by rw [length, size]; exact room)
    refine ⟨s₂, ?_, by rw [length', length]; rfl, size'.trans size⟩
    simp only [seq, written]
    exact later
  full s none := by
    simp only [seq]
    rcases Nat.lt_or_ge s.size (upTo s.data.length) with early | room
    · rw [first.full s early]
      rfl
    · obtain ⟨s₁, written, length, size⟩ := first.fits s room
      rw [written]
      exact rest.full s₁ (by rw [length, size]; exact none)

theorem takes_seq_append {ws ws' : List Writer} (first : Takes (seq ws) upTo)
    (second : Takes (seq ws') upTo') : Takes (seq (ws ++ ws')) (upTo' ∘ upTo) := by
  rw [seq_append]
  exact first.cons (second.cons takes_nil)

theorem takes_each {α : Type} {f : α → Writer} {xs : List α} (takes : ∀ x ∈ xs, Takes (f x) upTo) :
    Takes (seq (xs.map f)) upTo^[xs.length] := by
  induction xs with
  | nil => exact takes_nil
  | cons x xs ih =>
    obtain ⟨first, rest⟩ := forall_mem_cons.mp takes
    exact first.cons (ih rest)

theorem takes_whenever (c : Bool) (takes : Takes w upTo) :
    Takes (whenever c w) fun n => if c then upTo n else n := by
  cases c with
  | true => exact takes
  | false => exact takes_nil

def u64End (misplaced : Nat → Bool) (n : Nat) : Nat := n + (if misplaced n then 4 else 0) + 12

theorem takes_putU64 (type : Nat) (v : UInt64) :
    Takes (putU64 misplaced type v) (u64End misplaced) := by
  have padded : Takes (seq [put 0 [], put type (putLe 8 v.toNat)]) (· + 4 + 12) :=
    (takes_put 0 rfl).cons ((takes_put type (by simp [align4, hdrLen])).cons takes_nil)
  have plain : Takes (put type (putLe 8 v.toNat)) (· + 12) :=
    takes_put type (by simp [align4, hdrLen])
  have unfolded (s : Skb) : putU64 misplaced type v s =
      if misplaced s.data.length then seq [put 0 [], put type (putLe 8 v.toNat)] s
      else put type (putLe 8 v.toNat) s := by
    simp [putU64, seq]
  refine ⟨fun n => ?_, fun s => ?_, fun s => ?_⟩
  · unfold u64End
    omega
  all_goals
    rw [unfolded, u64End]
    split
  · exact padded.fits s
  · exact plain.fits s
  · exact padded.full s
  · exact plain.full s

theorem length_nestEnd {start : Nat} {s : Skb} (inside : start + 2 ≤ s.data.length) :
    (nestEnd start s inside).data.length = s.data.length := by
  simp only [nestEnd, length_append, length_take, length_putLe, length_drop]
  omega

theorem Takes.nest (takes : Takes w upTo) (type : Nat) :
    Takes (nest type w) fun n => upTo (n + hdrLen) := by
  have header : Takes (seq [put (nestType type) [], w]) fun n => upTo (n + hdrLen) :=
    (takes_put _ rfl).cons (takes.cons takes_nil)
  have opened (s : Skb) :
      (put (nestType type) [] s).bind w = seq [put (nestType type) [], w] s := by
    simp [seq]
  refine ⟨header.grows, fun s room => ?_, fun s none => ?_⟩
  · obtain ⟨s', written, length, size⟩ := header.fits s room
    have more := takes.grows (s.data.length + hdrLen)
    have inside : s.data.length + 2 ≤ s'.data.length := by
      unfold hdrLen at more length
      omega
    refine ⟨nestEnd s.data.length s' inside, ?_, (length_nestEnd inside).trans length, size⟩
    rw [Nla.nest, opened, written, bind_some, dif_pos inside]
  · rw [Nla.nest, opened, header.full s none]
    rfl

end Takes

end Urp.Lib.Nla
