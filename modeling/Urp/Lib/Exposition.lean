import Mathlib.Algebra.Order.Ring.Nat
import Mathlib.Algebra.BigOperators.Group.List.Basic

/-!
# Texts made of lines

A text of lines that are samples or comments.
-/

namespace Urp.Lib.Exposition

open List

abbrev Text := List Char

/-- The number of lines that are neither empty nor a comment. `fresh` tells whether the text
begins a line. -/
def samplesFrom : Bool → Text → Nat
  | _, [] => 0
  | fresh, c :: cs =>
    if c = '\n' then samplesFrom true cs
    else (if fresh ∧ c ≠ '#' then 1 else 0) + samplesFrom false cs

def samples (t : Text) : Nat := samplesFrom true t

def OneLine (t : Text) : Prop := '\n' ∉ t

instance (t : Text) : Decidable (OneLine t) := inferInstanceAs (Decidable (_ ∉ _))

theorem OneLine.append {t t' : Text} (first : OneLine t) (second : OneLine t') :
    OneLine (t ++ t') :=
  not_mem_append first second

theorem oneLine_literal {s : String} {t : Text} (same : String.ofList t = s) (one : OneLine t) :
    OneLine s.toList := by
  rwa [← same, String.toList_ofList]

def BeginsSample (t : Text) : Prop := t.head?.any (· ≠ '#') ∧ OneLine t

instance (t : Text) : Decidable (BeginsSample t) := inferInstanceAs (Decidable (_ ∧ _))

theorem beginsSample_literal {s : String} {t : Text} (same : String.ofList t = s)
    (begins : BeginsSample t) : BeginsSample s.toList := by
  rwa [← same, String.toList_ofList]

/-- A text of whole lines, `n` of them samples. -/
def Lines (n : Nat) (t : Text) : Prop := ∀ rest, samples (t ++ rest) = n + samples rest

variable {n m : Nat} {t : Text}

theorem Lines.samples (lines : Lines n t) : samples t = n := by
  have alone := lines []
  rwa [append_nil] at alone

theorem lines_nil : Lines 0 [] := fun _ => (Nat.zero_add _).symm

theorem Lines.append {t' : Text} (first : Lines n t) (second : Lines m t') :
    Lines (n + m) (t ++ t') := by
  intro rest
  rw [append_assoc, first, second, Nat.add_assoc]

theorem lines_flatMap {α : Type} {f : α → Text} {count : α → Nat} (xs : List α)
    (each : ∀ x ∈ xs, Lines (count x) (f x)) : Lines (xs.map count).sum (xs.flatMap f) := by
  induction xs with
  | nil => exact lines_nil
  | cons x xs ih =>
    rw [map_cons, sum_cons, flatMap_cons]
    have rest := ih fun y member => each y (mem_cons_of_mem _ member)
    exact (each x mem_cons_self).append rest

theorem lines_each {α : Type} {f : α → Text} (xs : List α) (each : ∀ x ∈ xs, Lines n (f x)) :
    Lines (xs.length * n) (xs.flatMap f) := by
  have all := lines_flatMap xs each
  rwa [map_const', sum_replicate_nat] at all

theorem samplesFrom_line {body : Text} (one : OneLine body) (rest : Text) :
    samplesFrom false (body ++ '\n' :: rest) = samples rest := by
  induction body with
  | nil => simp [samplesFrom, samples]
  | cons c body ih =>
    obtain ⟨other, one⟩ := not_or.mp (mt mem_cons.mpr one)
    rw [cons_append, samplesFrom, if_neg (Ne.symm other), ih one]
    simp

theorem lines_sample {name rest : Text} (begins : BeginsSample name) (one : OneLine rest) :
    Lines 1 (name ++ rest ++ ['\n']) := by
  intro after
  obtain ⟨first, name_line⟩ := begins
  cases name with
  | nil => cases first
  | cons c cs =>
    have sample : c ≠ '#' := by simpa using first
    obtain ⟨other, cs_line⟩ := not_or.mp (mt mem_cons.mpr name_line)
    rw [append_assoc, singleton_append, cons_append, cons_append, samples, samplesFrom,
      if_neg (Ne.symm other), samplesFrom_line (OneLine.append cs_line one), if_pos ⟨rfl, sample⟩]

theorem lines_comment {body : Text} (one : OneLine body) : Lines 0 ('#' :: body ++ ['\n']) := by
  intro rest
  rw [append_assoc, singleton_append, cons_append, samples, samplesFrom,
    if_neg (by decide), samplesFrom_line one, if_neg (by simp)]

theorem lines_newline (t : Text) : Lines (samples (t ++ ['\n'])) (t ++ ['\n']) := by
  intro rest
  have each : ∀ fresh, samplesFrom fresh (t ++ '\n' :: rest) =
      samplesFrom fresh (t ++ ['\n']) + samples rest := by
    induction t with
    | nil => simp [samplesFrom, samples]
    | cons c t ih =>
      intro fresh
      simp only [cons_append, samplesFrom, ih]
      split
      · rfl
      · rw [Nat.add_assoc]
  rw [append_assoc, singleton_append]
  exact each true

end Urp.Lib.Exposition
