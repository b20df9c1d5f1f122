/-
This file finds the order statistics of a list by ranks. They depend on the levels of the ranked
values alone, so that neither the order of a list nor what is no number in it counts.
-/

import BenchmarkReport.Proofs.Number.Classes
import BenchmarkReport.Proofs.Statistics.Interpolation
import BenchmarkReport.Statistics.Summary
import Mathlib.Algebra.Order.Floor.Semifield

namespace BenchmarkReport.Statistics

open Number

/-- Numbers whose levels do not fall. -/
structure IsRising (ranked : List Float) : Prop where
  numbers : ∀ value ∈ ranked, value.isNaN = false
  levels : (ranked.map level).Pairwise (· ≤ ·)

section Sorting

variable {values ranked others : List Float}

theorem isNaN_of_mem_present {value : Float} (member : value ∈ present values) :
    value.isNaN = false := by
  simpa [present] using (List.mem_filter.mp member).2

theorem sorted_perm (values : List Float) : (sorted values).Perm values :=
  List.mergeSort_perm ..

/-- Values without NaN are sorted by their levels. -/
theorem isRising_sorted (numbers : ∀ value ∈ values, value.isNaN = false) :
    IsRising (sorted values) where
  numbers value member := numbers value ((sorted_perm values).mem_iff.mp member)
  levels := by
    have byLevel : (sorted values).map level = (values.map level).mergeSort (· ≤ ·) := by
      apply List.map_mergeSort
      intro first firstMember second secondMember
      exact decide_eq_decide.mpr
        (le_iff_level (numbers first firstMember) (numbers second secondMember))
    rw [byLevel]
    have transitive : ∀ first second third : Level, decide (first ≤ second) = true →
        decide (second ≤ third) = true → decide (first ≤ third) = true :=
      fun _ _ _ below above =>
        decide_eq_true ((of_decide_eq_true below).trans (of_decide_eq_true above))
    have total : ∀ first second : Level,
        (decide (first ≤ second) || decide (second ≤ first)) = true :=
      fun first second => by simpa using le_total first second
    simpa using List.pairwise_mergeSort transitive total (values.map level)

theorem isRising_of_pairwise (numbers : ∀ value ∈ ranked, value.isNaN = false)
    (ordered : ranked.Pairwise (· ≤ ·)) : IsRising ranked where
  numbers := numbers
  levels := by
    rw [List.pairwise_map]
    refine ordered.imp_of_mem fun firstMember secondMember below => ?_
    exact (le_iff_level (numbers _ firstMember) (numbers _ secondMember)).mp below

theorem sorted_of_pairwise (ordered : values.Pairwise (· ≤ ·)) : sorted values = values :=
  List.mergeSort_of_pairwise (ordered.imp decide_eq_true)

/-- The same values in rising order have the same levels. -/
theorem IsRising.levels_eq (rising : IsRising ranked) (risingOthers : IsRising others)
    (same : ranked.Perm others) : ranked.map level = others.map level :=
  (same.map level).eq_of_pairwise (fun _ _ _ _ => le_antisymm) rising.levels risingOthers.levels

theorem IsRising.le_of_le (rising : IsRising ranked) {first second : ℕ} {lower upper : Float}
    (lowerPlace : ranked[first]? = some lower) (upperPlace : ranked[second]? = some upper)
    (ordered : first ≤ second) : level lower ≤ level upper := by
  obtain ⟨firstBound, rfl⟩ := List.getElem?_eq_some_iff.mp lowerPlace
  obtain ⟨secondBound, rfl⟩ := List.getElem?_eq_some_iff.mp upperPlace
  rcases ordered.eq_or_lt with rfl | less
  · exact le_rfl
  · have pairs := List.pairwise_iff_getElem.mp rising.levels first second
      (by rwa [List.length_map]) (by rwa [List.length_map]) less
    rwa [List.getElem_map, List.getElem_map] at pairs

end Sorting

/-- The values on the two sides of the rank of a quartile. -/
structure AreNeighbours (ranked : List Float) (quarter : ℕ) (lower upper : Float) : Prop where
  below : ranked[quarterRank quarter ranked.length / 4]? = some lower
  above : ranked[(quarterRank quarter ranked.length + 3) / 4]? = some upper
  isNumberBelow : lower.isNaN = false
  isNumberAbove : upper.isNaN = false
  ordered : level lower ≤ level upper

/-- The part of the way between the neighbours at which a quartile stands. -/
def quarterPart (quarter count : ℕ) : ℚ :=
  (quarterRank quarter count % 4 : ℕ) / 4

section Quartiles

variable {ranked others : List Float} {quarter : ℕ} {lower upper : Float}

theorem quarterPart_nonneg (quarter count : ℕ) : 0 ≤ quarterPart quarter count := by
  unfold quarterPart
  positivity

theorem quarterPart_le (quarter count : ℕ) : quarterPart quarter count ≤ 3 / 4 := by
  have few : ((quarterRank quarter count % 4 : ℕ) : ℚ) ≤ 3 := by
    exact_mod_cast Nat.le_of_lt_succ (Nat.mod_lt _ (by norm_num))
  exact div_le_div_of_nonneg_right few (by norm_num)

theorem hasValue_quarterPart (quarter count : ℕ) :
    HasValue (Float.ofNat (quarterRank quarter count % 4) / 4) (quarterPart quarter count) := by
  have less : quarterRank quarter count % 4 < 4 := Nat.mod_lt _ (by norm_num)
  unfold quarterPart
  generalize quarterRank quarter count % 4 = rest at less
  have four : HasValue 4 4 := hasValue_literal 4 (by decide)
  have quotient := (hasValue_ofNat (by omega : rest < 2 ^ 53)).div four (by norm_num)
  have double : IsDouble (rest / 4 : ℚ) :=
    ⟨rest, -2, by rw [abs_of_nonneg] <;> omega, by decide, by push_cast; norm_num; ring⟩
  have bounded : |(rest / 4 : ℚ)| < overflow := by
    have whole := abs_whole_lt (by rw [abs_of_nonneg] <;> omega : |(rest : ℤ)| < 2 ^ 53)
    rw [Int.cast_natCast] at whole
    rw [abs_div, abs_of_pos (by norm_num : (0 : ℚ) < 4)]
    exact (div_le_self (abs_nonneg _) (by norm_num)).trans_lt whole
  exact quotient.hasValue double bounded

/-- A filled list has neighbours for each quartile. -/
theorem IsRising.exists_neighbours (rising : IsRising ranked) (filled : ranked ≠ [])
    (atMostWhole : quarter ≤ 4) : ∃ lower upper, AreNeighbours ranked quarter lower upper := by
  have bound := quarterRank_bound atMostWhole (List.length_pos_iff.mpr filled)
  have below : quarterRank quarter ranked.length / 4 < ranked.length := by omega
  exact ⟨_, _,
    { below := List.getElem?_eq_getElem below
      above := List.getElem?_eq_getElem bound
      isNumberBelow := rising.numbers _ (List.getElem_mem below)
      isNumberAbove := rising.numbers _ (List.getElem_mem bound)
      ordered := rising.le_of_le (List.getElem?_eq_getElem below) (List.getElem?_eq_getElem bound)
        (by omega) }⟩

theorem AreNeighbours.quartile_eq (neighbours : AreNeighbours ranked quarter lower upper) :
    quartile quarter ranked =
      interpolate lower upper (Float.ofNat (quarterRank quarter ranked.length % 4) / 4) := by
  unfold quartile
  dsimp only
  rw [neighbours.below, neighbours.above]

namespace AreNeighbours

/-- A quartile at a whole rank, or between equal values, is the lower one. -/
theorem quartile_settled (neighbours : AreNeighbours ranked quarter lower upper)
    (settled : quarterPart quarter ranked.length = 0 ∨ level lower = level upper) :
    quartile quarter ranked = lower := by
  rw [neighbours.quartile_eq]
  exact interpolate_eq_lower neighbours.isNumberBelow neighbours.isNumberAbove
    (hasValue_quarterPart ..) settled

theorem quartile_between (neighbours : AreNeighbours ranked quarter lower upper)
    (proper : quarterPart quarter ranked.length ≠ 0) (apart : level lower ≠ level upper) :
    quartile quarter ranked =
      Float.ofNat (quarterRank quarter ranked.length % 4) / 4 * (upper - lower) + lower := by
  rw [neighbours.quartile_eq]
  exact interpolate_eq_bridge neighbours.isNumberBelow neighbours.isNumberAbove
    (hasValue_quarterPart ..) proper apart

/-- Every other quartile is a bridge between its neighbours. -/
theorem isBridge_quartile (neighbours : AreNeighbours ranked quarter lower upper)
    (proper : quarterPart quarter ranked.length ≠ 0) (apart : level lower ≠ level upper) :
    IsBridge (quarterPart quarter ranked.length) (level lower) (level upper)
      (quartile quarter ranked) := by
  rw [neighbours.quartile_between proper apart]
  exact isBridge_of_lt neighbours.isNumberBelow neighbours.isNumberAbove
    (neighbours.ordered.lt_of_ne apart) (hasValue_quarterPart ..)
    ((quarterPart_nonneg ..).lt_of_ne proper.symm) (quarterPart_le ..)

/-- The levels of neighbours are those at their ranks. -/
theorem levels_eq {first last : Float} (neighbours : AreNeighbours ranked quarter lower upper)
    (neighboursOther : AreNeighbours others quarter first last)
    (same : ranked.map level = others.map level) :
    level lower = level first ∧ level upper = level last := by
  have count : ranked.length = others.length := by simpa using congrArg List.length same
  have belowOther := neighboursOther.below
  have aboveOther := neighboursOther.above
  rw [← count] at belowOther aboveOther
  have below := congrArg (·[quarterRank quarter ranked.length / 4]?) same
  have above := congrArg (·[(quarterRank quarter ranked.length + 3) / 4]?) same
  simp only [List.getElem?_map, neighbours.below, neighbours.above, belowOther, aboveOther,
    Option.map_some, Option.some.injEq] at below above
  exact ⟨below, above⟩

end AreNeighbours

/-- Lists at the same levels have the same quartiles. -/
theorem quartile_congr (rising : IsRising ranked) (risingOthers : IsRising others)
    (filled : ranked ≠ []) (same : ranked.map level = others.map level)
    (atMostWhole : quarter ≤ 4) :
    Alike (quartile quarter ranked) (quartile quarter others) := by
  have count : ranked.length = others.length := by simpa using congrArg List.length same
  have filledOthers : others ≠ [] := by
    rintro rfl
    exact filled (List.length_eq_zero_iff.mp count)
  obtain ⟨lower, upper, neighbours⟩ := rising.exists_neighbours filled atMostWhole
  obtain ⟨first, last, neighboursOther⟩ := risingOthers.exists_neighbours filledOthers atMostWhole
  obtain ⟨below, above⟩ := neighbours.levels_eq neighboursOther same
  by_cases settled : quarterPart quarter ranked.length = 0 ∨ level lower = level upper
  · have settledOther : quarterPart quarter others.length = 0 ∨ level first = level last := by
      rwa [← count, ← below, ← above]
    rw [neighbours.quartile_settled settled, neighboursOther.quartile_settled settledOther]
    exact alike_of_level neighbours.isNumberBelow neighboursOther.isNumberBelow below
  · obtain ⟨proper, apart⟩ := not_or.mp settled
    have bridge := neighbours.isBridge_quartile proper apart
    have bridgeOther := neighboursOther.isBridge_quartile (by rwa [← count])
      (by rwa [← below, ← above])
    rw [← count, ← below, ← above] at bridgeOther
    exact bridge.alike (neighbours.ordered.lt_of_ne apart) bridgeOther

end Quartiles

end BenchmarkReport.Statistics
