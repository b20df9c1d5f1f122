/-
This file says which order statistics a summary holds: the least value, the greatest one and three
quantiles of the values in rising order.
-/

import BenchmarkReport.Proofs.Statistics.Ranks

namespace BenchmarkReport.Statistics

open Number

/-- A value is the quantile of ranked values at some part of them. Ranks count from zero, so that
the rank of the quantile is this part of the last rank. Between two ranks the way from the lower
value to the upper one is divided as the ranks are. -/
def IsQuantile (ranked : List Float) (part : ℚ) (value : Float) : Prop :=
  let rank := part * (ranked.length - 1)
  ∃ lower upper, ranked[⌊rank⌋₊]? = some lower ∧ ranked[⌈rank⌉₊]? = some upper ∧
    (Int.fract rank = 0 ∨ (lower == upper) = true → Alike value lower) ∧
    (Int.fract rank ≠ 0 → (lower == upper) = false → ∃ fraction,
      HasValue fraction (Int.fract rank) ∧ Alike value (lower + fraction * (upper - lower)))

section Quantiles

variable {ranked others values : List Float} {quarter : ℕ} {part : ℚ} {value other : Float}

theorem ceil_quarter (count : ℕ) : ⌈(count / 4 : ℚ)⌉₊ = (count + 3) / 4 := by
  apply eq_of_forall_ge_iff
  intro bound
  rw [Nat.ceil_le, div_le_iff₀ (by norm_num)]
  have cast : (count : ℚ) ≤ bound * 4 ↔ count ≤ bound * 4 := by exact_mod_cast Iff.rfl
  rw [cast]
  omega

/-- The rank of a quartile is a number of quarters. -/
theorem rank_eq (quarter : ℕ) (filled : ranked ≠ []) :
    (quarter / 4 : ℚ) * (ranked.length - 1) = (quarterRank quarter ranked.length : ℕ) / 4 := by
  have positive := List.length_pos_iff.mpr filled
  rw [quarterRank, Nat.cast_mul, Nat.cast_pred positive]
  ring

theorem isQuantile_quartile (rising : IsRising ranked) (filled : ranked ≠ [])
    (atMostWhole : quarter ≤ 4) : IsQuantile ranked (quarter / 4) (quartile quarter ranked) := by
  obtain ⟨lower, upper, neighbours⟩ := rising.exists_neighbours filled atMostWhole
  have fraction : Int.fract ((quarterRank quarter ranked.length : ℕ) / 4 : ℚ) =
      quarterPart quarter ranked.length := by
    exact_mod_cast Int.fract_div_natCast_eq_div_natCast_mod (k := ℚ) (n := 4)
  have floor : ⌊((quarterRank quarter ranked.length : ℕ) / 4 : ℚ)⌋₊ =
      quarterRank quarter ranked.length / 4 := by
    exact_mod_cast Nat.floor_div_eq_div (K := ℚ) (quarterRank quarter ranked.length) 4
  have equal := beq_iff_level neighbours.isNumberBelow neighbours.isNumberAbove
  unfold IsQuantile
  dsimp only
  rw [rank_eq quarter filled, fraction, floor, ceil_quarter]
  refine ⟨lower, upper, neighbours.below, neighbours.above, fun settled => ?_,
    fun proper apart => ?_⟩
  · rw [equal] at settled
    rw [neighbours.quartile_settled settled]
    exact Alike.refl lower
  · have levels : level lower ≠ level upper := fun same => by
      rw [equal.mpr same] at apart
      exact Bool.noConfusion apart
    refine ⟨_, hasValue_quarterPart .., ?_⟩
    rw [neighbours.quartile_between proper levels, float_add_comm]
    exact Alike.refl _

theorem IsQuantile.congr (isQuantile : IsQuantile ranked part value) (same : Alike other value) :
    IsQuantile ranked part other := by
  obtain ⟨lower, upper, below, above, settled, between⟩ := isQuantile
  refine ⟨lower, upper, below, above, fun whole => same.trans (settled whole),
    fun proper apart => ?_⟩
  obtain ⟨fraction, valued, computed⟩ := between proper apart
  exact ⟨fraction, valued, same.trans computed⟩

end Quantiles

/-- Two summaries have the same count and order statistics. -/
structure SameOrder (first second : Summary) : Prop where
  count : first.count = second.count
  least : Alike first.least second.least
  lowerQuartile : Alike first.lowerQuartile second.lowerQuartile
  median : Alike first.median second.median
  upperQuartile : Alike first.upperQuartile second.upperQuartile
  greatest : Alike first.greatest second.greatest

section Summaries

variable {ranked others values : List Float} {quarter : ℕ}

theorem getElem?_congr (rising : IsRising ranked) (risingOthers : IsRising others)
    (same : ranked.map level = others.map level) (rank : ℕ) (missing : Float) :
    Alike (ranked[rank]?.getD missing) (others[rank]?.getD missing) := by
  have levels := congrArg (·[rank]?) same
  simp only [List.getElem?_map] at levels
  cases first : ranked[rank]? with
  | none =>
      rw [first, Option.map_none, eq_comm, Option.map_eq_none_iff] at levels
      rw [levels]
      exact Alike.refl missing
  | some value =>
      rw [first, Option.map_some, eq_comm, Option.map_eq_some_iff] at levels
      obtain ⟨other, second, equal⟩ := levels
      rw [second]
      exact alike_of_level (rising.numbers _ (List.mem_of_getElem? first))
        (risingOthers.numbers _ (List.mem_of_getElem? second)) equal.symm

theorem quartile_congr_of_levels (rising : IsRising ranked) (risingOthers : IsRising others)
    (same : ranked.map level = others.map level) (atMostWhole : quarter ≤ 4) :
    Alike (quartile quarter ranked) (quartile quarter others) := by
  rcases eq_or_ne ranked [] with rfl | filled
  · rw [List.map_nil, eq_comm, List.map_eq_nil_iff] at same
    rw [same]
    exact Alike.refl _
  · exact quartile_congr rising risingOthers filled same atMostWhole

/-- The values that are present are sorted by their levels. -/
theorem isRising_present (values : List Float) : IsRising (sorted (present values)) :=
  isRising_sorted fun _ member => isNaN_of_mem_present member

/-- The order of values and what is no number among them do not count. -/
theorem sameOrder_ofValues (same : (present others).Perm (present values)) :
    SameOrder (.ofValues others) (.ofValues values) := by
  have rising := isRising_present others
  have risingValues := isRising_present values
  have permuted : (sorted (present others)).Perm (sorted (present values)) :=
    (sorted_perm _).trans (same.trans (sorted_perm _).symm)
  have levels := rising.levels_eq risingValues permuted
  refine ⟨same.length_eq, ?_, ?_, ?_, ?_, ?_⟩
  · unfold Summary.ofValues
    dsimp only
    rw [List.head?_eq_getElem?, List.head?_eq_getElem?]
    exact getElem?_congr rising risingValues levels 0 _
  · exact quartile_congr_of_levels rising risingValues levels (by decide)
  · exact quartile_congr_of_levels rising risingValues levels (by decide)
  · exact quartile_congr_of_levels rising risingValues levels (by decide)
  · unfold Summary.ofValues
    dsimp only
    rw [List.getLast?_eq_getElem?, List.getLast?_eq_getElem?, permuted.length_eq]
    exact getElem?_congr rising risingValues levels _ _

theorem present_append_missing {missing : List Float}
    (none : ∀ value ∈ missing, value.isNaN = true) :
    present (values ++ missing) = present values := by
  have absent : missing.filter (!·.isNaN) = [] :=
    List.filter_eq_nil_iff.mpr fun value member => by
      rw [none value member]
      exact Bool.false_ne_true
  rw [present, List.filter_append, absent, List.append_nil]
  rfl

/-- Without values all statistics but the count are no numbers. -/
theorem isNaN_of_absent (absent : present values = []) :
    ∀ statistic ∈ (Summary.ofValues values).values.tail, statistic.isNaN = true := by
  have mean : (mean ([] : List Float)).isNaN = true := by
    rw [Statistics.mean, sum_nil]
    decide +kernel
  have ranked : sorted [] = [] := List.length_eq_zero_iff.mp (sorted_perm []).length_eq
  unfold Summary.ofValues Summary.values
  dsimp only
  rw [absent, ranked, quartile_nil, quartile_nil, quartile_nil]
  simp only [List.tail_cons, List.forall_mem_cons]
  exact ⟨mean, isNaN_quotient, isNaN_quotient, isNaN_quotient, isNaN_quotient, isNaN_quotient,
    isNaN_quotient, List.forall_mem_nil _⟩

end Summaries

/-- A summary counts the numbers among some values and holds their least and greatest one and their
quartiles by rank. Only the numbers count and not their order. -/
theorem Summary.ofValues_ranked (values ranked : List Float)
    (same : ranked.Perm (present values)) (ordered : ranked.Pairwise (· ≤ ·)) :
    let summary := Summary.ofValues values
    summary.count = ranked.length ∧
    (ranked ≠ [] →
      (∃ first, ranked[0]? = some first ∧ Alike summary.least first) ∧
      (∃ last, ranked[ranked.length - 1]? = some last ∧ Alike summary.greatest last) ∧
      IsQuantile ranked (1 / 4) summary.lowerQuartile ∧
      IsQuantile ranked (1 / 2) summary.median ∧
      IsQuantile ranked (3 / 4) summary.upperQuartile) ∧
    (ranked = [] → ∀ statistic ∈ summary.values.tail, statistic.isNaN = true) ∧
    ∀ missing others : List Float, (∀ value ∈ missing, value.isNaN = true) →
      others.Perm (values ++ missing) → SameOrder (.ofValues others) summary := by
  intro summary
  have numbers : ∀ value ∈ ranked, value.isNaN = false :=
    fun value member => isNaN_of_mem_present (same.mem_iff.mp member)
  have rising := isRising_of_pairwise numbers ordered
  have permuted : (sorted (present values)).Perm ranked := (sorted_perm _).trans same.symm
  have levels := (isRising_present values).levels_eq rising permuted
  have places := getElem?_congr (isRising_present values) rising levels
  refine ⟨same.length_eq.symm, fun filled => ?_, fun empty => ?_,
    fun missing others none moved => ?_⟩
  · have positive := List.length_pos_iff.mpr filled
    have quantile {quarter : ℕ} (atMostWhole : quarter ≤ 4) :
        IsQuantile ranked (quarter / 4) (quartile quarter (sorted (present values))) :=
      (isQuantile_quartile rising filled atMostWhole).congr
        (quartile_congr_of_levels (isRising_present values) rising levels atMostWhole)
    have first := List.getElem?_eq_getElem positive
    have last := List.getElem?_eq_getElem (Nat.sub_one_lt_of_lt positive)
    have least := places 0 (0 / 0)
    have greatest := places (ranked.length - 1) (0 / 0)
    rw [first, ← List.head?_eq_getElem?] at least
    have lastOf : (sorted (present values)).getLast? =
        (sorted (present values))[ranked.length - 1]? := by
      rw [List.getLast?_eq_getElem?, permuted.length_eq]
    rw [last, ← lastOf] at greatest
    refine ⟨⟨_, first, least⟩, ⟨_, last, greatest⟩, ?_, ?_, ?_⟩
    · exact_mod_cast quantile (by decide : 1 ≤ 4)
    · have half : ((2 : ℕ) / 4 : ℚ) = 1 / 2 := by norm_num
      rw [← half]
      exact quantile (by decide : 2 ≤ 4)
    · exact_mod_cast quantile (by decide : 3 ≤ 4)
  · apply isNaN_of_absent
    rw [empty] at same
    exact same.symm.eq_nil
  · have kept : (present others).Perm (present (values ++ missing)) := moved.filter _
    rw [present_append_missing none] at kept
    exact sameOrder_ofValues kept

/-- Two zeros, an infinity and what is no number. -/
theorem Summary.mixedValues_ranked :
    [-0, 0, 3, 1 / 0].Perm (present [3, 0 / 0, 0, 1 / 0, -0]) ∧
    List.Pairwise (· ≤ ·) [(-0 : Float), 0, 3, 1 / 0] ∧
    (Summary.ofValues [3, 0 / 0, 0, 1 / 0, -0]).count = 4 ∧
    IsQuantile [-0, 0, 3, 1 / 0] (1 / 2) (Summary.ofValues [3, 0 / 0, 0, 1 / 0, -0]).median ∧
    SameOrder (.ofValues [0 / 0, 1 / 0, 0, 3, -0, 0 / 0]) (.ofValues [3, 0 / 0, 0, 1 / 0, -0]) := by
  have same : [-0, 0, 3, 1 / 0].Perm (present [3, 0 / 0, 0, 1 / 0, -0]) := by decide +kernel
  have ordered : List.Pairwise (· ≤ ·) [(-0 : Float), 0, 3, 1 / 0] := by decide +kernel
  obtain ⟨count, filled, -, moved⟩ := ofValues_ranked _ _ same ordered
  have missing : ∀ value ∈ [(0 / 0 : Float)], value.isNaN = true := by decide +kernel
  have others : [0 / 0, 1 / 0, 0, 3, -0, 0 / 0].Perm
      ([3, 0 / 0, 0, 1 / 0, -0] ++ [(0 / 0 : Float)]) := by decide +kernel
  exact ⟨same, ordered, count, (filled (by simp)).2.2.2.1, moved _ _ missing others⟩

end BenchmarkReport.Statistics
