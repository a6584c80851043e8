import Mathlib.Algebra.Order.Ring.Nat

/-!
# Messages in a stream

A stream holds messages one after the other.
-/

namespace Urp.Lib.Framing

open List Option

universe u v w x

inductive Front (α : Type u) (μ : Type v) (ε : Type w) where
  | incomplete
  | invalid (e : ε)
  | message (m : μ) (rest : List α)

structure Format (α : Type u) (μ : Type v) (ε : Type w) where
  front : List α → Front α μ ε
  shorter : ∀ {xs m rest}, front xs = .message m rest → rest.length < xs.length
  invalid_append : ∀ {xs e} ys, front xs = .invalid e → front (xs ++ ys) = .invalid e
  message_append : ∀ {xs m rest} ys, front xs = .message m rest →
    front (xs ++ ys) = .message m (rest ++ ys)

structure Parsed (α : Type u) (μ : Type v) (ε : Type w) where
  messages : List μ
  outcome : Except ε (List α)

variable {α : Type u} {μ : Type v} {ε : Type w}

def Parsed.after (ms : List μ) (p : Parsed α μ ε) : Parsed α μ ε := ⟨ms ++ p.messages, p.outcome⟩

@[simp] theorem Parsed.after_nil (p : Parsed α μ ε) : p.after [] = p := rfl

namespace Format

variable (f : Format α μ ε)

def parseFrom : Nat → List α → Parsed α μ ε
  | 0, xs => ⟨[], .ok xs⟩
  | fuel + 1, xs =>
    match f.front xs with
    | .incomplete => ⟨[], .ok xs⟩
    | .invalid e => ⟨[], .error e⟩
    | .message m rest => (parseFrom fuel rest).after [m]

def parse (xs : List α) : Parsed α μ ε := f.parseFrom (xs.length + 1) xs

theorem parseFrom_eq_parse {fuel : Nat} {xs : List α} (enough : xs.length < fuel) :
    f.parseFrom fuel xs = f.parse xs := by
  have stable : ∀ fuel' fuel (xs : List α), xs.length < fuel → xs.length < fuel' →
      f.parseFrom fuel xs = f.parseFrom fuel' xs := by
    intro fuel'
    induction fuel' with
    | zero => intro fuel xs _ none; omega
    | succ fuel' ih =>
      intro fuel xs enough enough'
      cases fuel with
      | zero => omega
      | succ fuel =>
        cases front : f.front xs with
        | incomplete | invalid e => simp only [parseFrom, front]
        | message m rest =>
          have less := f.shorter front
          simp only [parseFrom, front, ih fuel rest (by omega) (by omega)]
  exact stable _ _ _ enough (Nat.lt_succ_self _)

variable {f} {xs ys rest : List α} {m : μ} {e : ε}

theorem parse_incomplete (front : f.front xs = .incomplete) : f.parse xs = ⟨[], .ok xs⟩ := by
  simp only [parse, parseFrom, front]

theorem parse_invalid (front : f.front xs = .invalid e) : f.parse xs = ⟨[], .error e⟩ := by
  simp only [parse, parseFrom, front]

theorem parse_message (front : f.front xs = .message m rest) :
    f.parse xs = (f.parse rest).after [m] := by
  have less := f.shorter front
  rw [parse, parseFrom, front]
  simp only [f.parseFrom_eq_parse less]

theorem parse_append (xs ys : List α) : f.parse (xs ++ ys) =
      match (f.parse xs).outcome with
      | .ok rest => (f.parse (rest ++ ys)).after (f.parse xs).messages
      | .error e => ⟨(f.parse xs).messages, .error e⟩ := by
  induction length : xs.length using Nat.strongRecOn generalizing xs with
  | ind n ih =>
    cases front : f.front xs with
    | incomplete => simp [parse_incomplete front]
    | invalid e => simp [parse_invalid front, parse_invalid (f.invalid_append ys front)]
    | message m rest =>
      have less := f.shorter front
      have later := ih rest.length (by omega) rest rfl
      rw [parse_message (f.message_append ys front), later, parse_message front]
      cases outcome : (f.parse rest).outcome with
      | error e | ok left => simp [Parsed.after, outcome]

end Format

/-! ## Receivers -/

section Receivers

variable {σ : Type x}

def feedAll (feed : σ → List α → Option (List μ × Except ε σ)) :
    σ → List (List α) → Option (List μ × Except ε σ)
  | s, [] => some ([], .ok s)
  | s, chunk :: chunks =>
    (feed s chunk).bind fun
      | (ms, .error e) => some (ms, .error e)
      | (ms, .ok s') => (feedAll feed s' chunks).map fun (ms', result) => (ms ++ ms', result)

def Matches (Sound : σ → Prop) (pending : σ → List α) (fed : Option (List μ × Except ε σ))
    (p : Parsed α μ ε) : Prop :=
  match p.outcome with
  | .error e => fed = some (p.messages, .error e)
  | .ok rest => ∃ s, fed = some (p.messages, .ok s) ∧ Sound s ∧ pending s = rest

variable {f : Format α μ ε} {feed : σ → List α → Option (List μ × Except ε σ)} {Sound : σ → Prop}
  {pending : σ → List α}

theorem feedAll_matches (waits : ∀ s, Sound s → f.front (pending s) = .incomplete)
    (fed : ∀ s chunk, Sound s → Matches Sound pending (feed s chunk) (f.parse (pending s ++ chunk)))
    {s : σ} (sound : Sound s) (chunks : List (List α)) :
    Matches Sound pending (feedAll feed s chunks) (f.parse (pending s ++ chunks.flatten)) := by
  induction chunks generalizing s with
  | nil =>
    rw [flatten_nil, append_nil, Format.parse_incomplete (waits s sound)]
    exact ⟨s, rfl, sound, rfl⟩
  | cons chunk chunks ih =>
    have first := fed s chunk sound
    rw [flatten_cons, ← append_assoc, Format.parse_append]
    unfold Matches at first
    cases outcome : (f.parse (pending s ++ chunk)).outcome with
    | error e =>
      simp only [outcome] at first
      simp only [Matches, feedAll, first, bind_some]
    | ok rest =>
      simp only [outcome] at first
      obtain ⟨s', first, sound', rfl⟩ := first
      have later := ih sound'
      simp only [feedAll, first, bind_some]
      cases result : (f.parse (pending s' ++ chunks.flatten)).outcome with
      | error e =>
        simp only [Matches, result] at later
        simp only [Matches, Parsed.after, result, later, map_some]
      | ok rest =>
        simp only [Matches, result] at later
        obtain ⟨s'', later, sound'', pending''⟩ := later
        simp only [Matches, Parsed.after, result, later, map_some]
        exact ⟨s'', rfl, sound'', pending''⟩

end Receivers

/-! ## Staging -/

/-- A buffer with `bytes` written over it from `first` on, if it has room for them. -/
def copyInto (buf : List α) (first : Nat) (bytes : List α) : Option (List α) :=
  if first + bytes.length ≤ buf.length then
    some (buf.take first ++ (bytes ++ buf.drop (first + bytes.length)))
  else none

theorem copyInto_some (buf : List α) (first : Nat) (bytes : List α)
    (room : first + bytes.length ≤ buf.length) :
    ∃ buf', copyInto buf first bytes = some buf' ∧ buf'.length = buf.length ∧
      buf'.take (first + bytes.length) = buf.take first ++ bytes := by
  have before : (buf.take first).length = first := length_take_of_le (by omega)
  refine ⟨_, if_pos room, ?_, ?_⟩
  · simp only [length_append, before, length_drop]
    omega
  · rw [← append_assoc]
    exact take_left' (by rw [length_append, before])

theorem copyInto_stage (buf : List α) {piece : List α} {first size take : Nat}
    (taken : take = min (size - first) piece.length) (lacks : first ≤ size)
    (room : size ≤ buf.length) :
    ∃ buf', copyInto buf first (piece.take take) = some buf' ∧ buf'.length = buf.length ∧
      (first + take < size ∧ buf'.take (first + take) = buf.take first ++ piece ∨
        first + take = size ∧ buf'.take size = (buf.take first ++ piece).take size ∧
          piece.drop take = (buf.take first ++ piece).drop size) := by
  have length : (piece.take take).length = take := length_take_of_le (by omega)
  have before : (buf.take first).length = first := length_take_of_le (by omega)
  obtain ⟨buf', copied, same, staged⟩ := copyInto_some buf first (piece.take take) (by omega)
  rw [length] at staged
  refine ⟨buf', copied, same, ?_⟩
  by_cases short : first + take < size
  · rw [take_of_length_le (by omega : piece.length ≤ take)] at staged
    exact .inl ⟨short, staged⟩
  · have full : first + take = size := by omega
    refine .inr ⟨full, ?_, ?_⟩
    · rw [← full, staged, take_append, before, take_take,
        Nat.min_eq_right (Nat.le_add_right _ _), Nat.add_sub_cancel_left]
    · have used : (buf.take first).drop (first + take) = [] := drop_of_length_le (by omega)
      rw [← full, drop_append, used, before, Nat.add_sub_cancel_left, nil_append]

@[simp] theorem copyInto_nil {buf : List α} {first : Nat} (inside : first ≤ buf.length) :
    copyInto buf first [] = some buf := by
  simp [copyInto, inside]

end Urp.Lib.Framing
