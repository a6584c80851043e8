import Urp.Exporter.Series

/-!
# The cap on the number of series

`select_within_cap` goes on after an endpoint that does not fit, and counts the endpoints that do.
-/

namespace Urp.Exporter

open Urp.Lib Urp.Lib.Exposition List
open Urp.Genl.Format

section Selection

variable {max running included capped c : Nat} {counts : List Nat}

theorem add_fits (bounded : running + c < 2 ^ 64) (fits : running + c ≤ max) :
    Selection.add max ⟨running, included, capped⟩ c = ⟨running + c, included + 1, capped⟩ := by
  simp only [Selection.add, wrap64_of_lt bounded, fits, if_true]

theorem add_misfits (bounded : running + c < 2 ^ 64) (misfits : max < running + c) :
    Selection.add max ⟨running, included, capped⟩ c = ⟨running, included, wrap64 (capped + c)⟩ := by
  simp only [Selection.add, wrap64_of_lt bounded, Nat.not_le.mpr misfits, if_false]

theorem foldl_fits (bounded : running + counts.sum < 2 ^ 64) (fits : running + counts.sum ≤ max) :
    counts.foldl (Selection.add max) ⟨running, included, capped⟩ =
      ⟨running + counts.sum, included + counts.length, capped⟩ := by
  induction counts generalizing running included with
  | nil => rfl
  | cons c counts ih =>
    rw [sum_cons] at bounded fits
    rw [foldl_cons, add_fits (by omega) (by omega), ih (by omega) (by omega), sum_cons,
      length_cons, Nat.add_assoc, Nat.add_assoc, Nat.add_comm 1]

theorem foldl_misfits (bounded : running + counts.sum < 2 ^ 64)
    (dropped : capped + counts.sum < 2 ^ 64) (misfits : ∀ c ∈ counts, max < running + c) :
    counts.foldl (Selection.add max) ⟨running, included, capped⟩ =
      ⟨running, included, capped + counts.sum⟩ := by
  induction counts generalizing capped with
  | nil => rfl
  | cons c counts ih =>
    rw [sum_cons] at bounded dropped
    obtain ⟨first, rest⟩ := forall_mem_cons.mp misfits
    rw [foldl_cons, add_misfits (by omega) first, wrap64_of_lt (by omega),
      ih (by omega) (by omega) rest, sum_cons, Nat.add_assoc]

theorem add_included (max : Nat) (s : Selection) (c : Nat) :
    s.included ≤ (s.add max c).included ∧ (s.add max c).included ≤ s.included + 1 := by
  unfold Selection.add
  split
  · exact ⟨Nat.le_succ _, Nat.le_refl _⟩
  · exact ⟨Nat.le_refl _, Nat.le_succ _⟩

theorem foldl_included (max : Nat) (counts : List Nat) (s : Selection) :
    s.included ≤ (counts.foldl (Selection.add max) s).included ∧
      (counts.foldl (Selection.add max) s).included ≤ s.included + counts.length := by
  induction counts generalizing s with
  | nil => exact ⟨Nat.le_refl _, Nat.le_refl _⟩
  | cons c counts ih =>
    have first := add_included max s c
    have rest := ih (s.add max c)
    rw [foldl_cons, length_cons]
    omega

theorem misfits_of_foldl (bounded : running + counts.sum < 2 ^ 64)
    (same : (counts.foldl (Selection.add max) ⟨running, included, capped⟩).included = included) :
    ∀ c ∈ counts, max < running + c := by
  induction counts generalizing capped with
  | nil => simp
  | cons c counts ih =>
    rw [sum_cons] at bounded
    rw [foldl_cons] at same
    by_cases fits : running + c ≤ max
    · rw [add_fits (by omega) fits] at same
      have least := (foldl_included max counts ⟨running + c, included + 1, capped⟩).1
      rw [same] at least
      exact absurd least (Nat.not_succ_le_self _)
    · rw [add_misfits (by omega) (Nat.not_le.mp fits)] at same
      exact forall_mem_cons.mpr ⟨Nat.not_le.mp fits, ih (by omega) same⟩

end Selection

def FitsPrefix (max : Nat) (counts : List Nat) : Prop :=
  ∃ n, (counts.take n).sum ≤ max ∧ ∀ c ∈ counts.drop n, max < (counts.take n).sum + c

theorem exists_longest (max : Nat) (counts : List Nat) :
    ∃ fits rest, counts = fits ++ rest ∧ fits.sum ≤ max ∧
      ∀ c rest', rest = c :: rest' → max < fits.sum + c := by
  induction counts generalizing max with
  | nil => exact ⟨[], [], rfl, Nat.zero_le _, by simp⟩
  | cons c counts ih =>
    by_cases first : c ≤ max
    · obtain ⟨fits, rest, rfl, within, ended⟩ := ih (max - c)
      refine ⟨c :: fits, rest, rfl, ?_, fun c' rest' same => ?_⟩
      · rw [sum_cons]
        omega
      · have beyond := ended c' rest' same
        rw [sum_cons]
        omega
    · refine ⟨[], c :: counts, rfl, Nat.zero_le _, ?_⟩
      rintro c' rest' same
      obtain ⟨rfl, rfl⟩ := List.cons.inj same
      rw [sum_nil]
      omega

theorem selectWithinCap_append {max : Nat} {fits rest : List Nat}
    (bounded : fits.sum < 2 ^ 64) (within : fits.sum ≤ max) :
    selectWithinCap (fits ++ rest) max =
      let s := rest.foldl (Selection.add max) ⟨fits.sum, fits.length, 0⟩
      (s.included, s.capped) := by
  have start : fits.foldl (Selection.add max) ⟨0, 0, 0⟩ = ⟨fits.sum, fits.length, 0⟩ := by
    rw [foldl_fits (by omega) (by omega), Nat.zero_add, Nat.zero_add]
  rw [selectWithinCap, foldl_append, start]

theorem selectWithinCap_iff {max : Nat} {counts : List Nat} (bounded : counts.sum < 2 ^ 64) :
    ((counts.take (selectWithinCap counts max).1).sum ≤ max ∧
      (selectWithinCap counts max).2 = (counts.drop (selectWithinCap counts max).1).sum) ↔
    FitsPrefix max counts := by
  constructor
  · rintro ⟨within, -⟩
    obtain ⟨fits, rest, rfl, fits_within, ended⟩ := exists_longest max counts
    rw [sum_append] at bounded
    rw [selectWithinCap_append (by omega) fits_within] at within
    refine ⟨fits.length, by rwa [take_left], ?_⟩
    rw [take_left, drop_left]
    have least := (foldl_included max rest ⟨fits.sum, fits.length, 0⟩).1
    have same : (rest.foldl (Selection.add max) ⟨fits.sum, fits.length, 0⟩).included =
        fits.length := by
      by_contra more
      -- With one more endpoint, the slice has the first one that does not fit.
      cases rest with
      | nil => exact more rfl
      | cons c rest =>
        obtain ⟨j, j_eq⟩ := Nat.exists_eq_add_of_lt (Nat.lt_of_le_of_ne least (Ne.symm more))
        have beyond := ended c rest rfl
        dsimp only at within j_eq
        rw [j_eq, Nat.add_assoc, take_length_add_append, take_succ_cons,
          sum_append, sum_cons] at within
        omega
    exact misfits_of_foldl (by omega) same
  · rintro ⟨n, within, misfits⟩
    obtain ⟨fits, fits_eq⟩ : ∃ fits, fits = counts.take n := ⟨_, rfl⟩
    obtain ⟨rest, rest_eq⟩ : ∃ rest, rest = counts.drop n := ⟨_, rfl⟩
    have split : counts = fits ++ rest := by rw [fits_eq, rest_eq, take_append_drop]
    rw [← fits_eq] at within misfits
    rw [← rest_eq] at misfits
    subst split
    rw [sum_append] at bounded
    have chosen : selectWithinCap (fits ++ rest) max = (fits.length, rest.sum) := by
      rw [selectWithinCap_append (by omega) within,
        foldl_misfits (by omega) (by omega) misfits, Nat.zero_add]
    rw [chosen, take_left, drop_left]
    exact ⟨within, rfl⟩

section Document

variable (fl : Floats) (build : Build) (cfg : Config) (s : SelfStats fl)

/-- The rendered endpoints keep to the cap, and the reported number is that of the others, where
the endpoints that fit come first. -/
theorem cap_kept_iff {eps : List Endpoint}
    (bounded : (eps.map (endpointSeriesCount cfg)).sum < 2 ^ 64) :
    (((rendered eps cfg).map (endpointSeriesCount cfg)).sum ≤ cfg.maxSeries.toNat ∧
      (renderIntoScratch eps fl build cfg s).2 =
        ((eps.drop (rendered eps cfg).length).map (endpointSeriesCount cfg)).sum) ↔
    FitsPrefix cfg.maxSeries.toNat (eps.map (endpointSeriesCount cfg)) := by
  have most := (foldl_included cfg.maxSeries.toNat (eps.map (endpointSeriesCount cfg)) ⟨0, 0, 0⟩).2
  rw [Nat.zero_add, length_map] at most
  have length : (rendered eps cfg).length =
      (selectWithinCap (eps.map (endpointSeriesCount cfg)) cfg.maxSeries.toNat).1 :=
    length_take_of_le most
  rw [← selectWithinCap_iff bounded, length, map_drop, rendered, map_take]
  rfl

end Document

section Runs

def twentySeries : Config := { allFamilies with maxSeries := 20 }

def wideEndpoint : Endpoint := { Endpoint.empty with qps := [.empty, .empty] }

theorem equal_endpoints_capped :
    ((rendered (List.replicate 3 .empty) twentySeries).map (endpointSeriesCount twentySeries)).sum ≤
        20 ∧
      (renderIntoScratch (List.replicate 3 .empty) wholeFloats ⟨"", none⟩ twentySeries
        quietStats).2 =
      (((List.replicate 3 .empty).drop (rendered (List.replicate 3 .empty) twentySeries).length).map
        (endpointSeriesCount twentySeries)).sum :=
  (cap_kept_iff wholeFloats ⟨"", none⟩ twentySeries quietStats (by decide)).mpr
    ⟨2, by decide, by decide⟩

/-- The wide endpoint does not fit and is rendered, the last one fits and is not. -/
theorem wide_endpoint_rendered :
    rendered [.empty, wideEndpoint, .empty] twentySeries = [.empty, wideEndpoint] ∧
    [Endpoint.empty, wideEndpoint].map (endpointSeriesCount twentySeries) = [7, 27] ∧
    (renderIntoScratch [.empty, wideEndpoint, .empty] wholeFloats ⟨"", none⟩ twentySeries
      quietStats).2 = 27 :=
  ⟨rfl, rfl, rfl⟩

end Runs

end Urp.Exporter
