/-
This file orders the five numbers from the least value to the greatest one. A quartile between two
values may fail to be computed: there is no way up from minus infinity, and a way that is longer
than all doubles leads to infinity.
-/

import BenchmarkReport.Proofs.Statistics.Ranks

namespace BenchmarkReport.Statistics

open Number

/-- The neighbours of a quartile let it be computed: it is one of them, or their distance is no
obstacle. -/
def IsPlaced (ranked : List Float) (quarter : ℕ) : Prop :=
  ∀ lower upper, AreNeighbours ranked quarter lower upper →
    quarterPart quarter ranked.length = 0 ∨ (lower == upper) = true ∨ IsSpanned lower upper

/-- A value is a number that lies between the neighbours of a quartile. -/
structure LiesBetween (ranked : List Float) (quarter : ℕ) (value : Float) : Prop where
  isNumber : value.isNaN = false
  bounds : ∀ lower upper, AreNeighbours ranked quarter lower upper → lower ≤ value ∧ value ≤ upper

/-- The five numbers are numbers, and none is less than the one before. -/
structure Summary.IsOrdered (summary : Summary) : Prop where
  numbers : ∀ statistic ∈ [summary.least, summary.lowerQuartile, summary.median,
    summary.upperQuartile, summary.greatest], statistic.isNaN = false
  lowest : summary.least ≤ summary.lowerQuartile
  lower : summary.lowerQuartile ≤ summary.median
  upper : summary.median ≤ summary.upperQuartile
  highest : summary.upperQuartile ≤ summary.greatest

section Quartiles

variable {ranked : List Float} {quarter : ℕ} {lower upper : Float}

/-- Neighbours without a way between them have a quartile that is no number, or too great. -/
theorem AreNeighbours.not_liesBetween (neighbours : AreNeighbours ranked quarter lower upper)
    (proper : quarterPart quarter ranked.length ≠ 0) (apart : level lower ≠ level upper)
    (broken : ¬ IsSpanned lower upper) :
    ¬ LiesBetween ranked quarter (quartile quarter ranked) := by
  rintro ⟨isNumber, bounds⟩
  have bridge := neighbours.isBridge_quartile proper apart
  have less := neighbours.ordered.lt_of_ne apart
  have below := (bounds lower upper neighbours).2
  rw [le_iff_level isNumber neighbours.isNumberAbove] at below
  rcases level_cases (level lower) with lowest | highest | ⟨least, placed⟩
  · rw [bridge.bottomless lowest] at isNumber
    exact Bool.noConfusion isNumber
  · rw [highest] at less
    exact not_top_lt less
  · have valued := hasValue_of_level neighbours.isNumberBelow placed
    rcases number_cases neighbours.isNumberAbove with ⟨negative, infinite⟩ | ⟨greatest, valuedUpper⟩
    · refine broken ⟨valued.isFinite, fun finite => ?_⟩
      rw [isFinite_of_infinity infinite] at finite
      exact Bool.noConfusion finite
    · rw [placed, valuedUpper.level_eq, value_lt_value] at less
      rcases lt_or_ge (nearest (greatest - least)) overflow with within | beyond
      · exact broken (isSpanned_of_lt valued valuedUpper less.le within)
      · have result := bridge.far least greatest placed valuedUpper.level_eq beyond
        rw [level_of_infinity result, valuedUpper.level_eq] at below
        exact absurd below (value_lt_top greatest).not_ge

theorem AreNeighbours.spanned (neighbours : AreNeighbours ranked quarter lower upper)
    (placed : IsPlaced ranked quarter) (proper : quarterPart quarter ranked.length ≠ 0)
    (apart : level lower ≠ level upper) : IsSpanned lower upper := by
  have equal := beq_iff_level neighbours.isNumberBelow neighbours.isNumberAbove
  rcases placed lower upper neighbours with whole | same | spanned
  · exact absurd whole proper
  · exact absurd (equal.mp same) apart
  · exact spanned

/-- A quartile that is placed stands between its neighbours. -/
theorem AreNeighbours.quartile_mem (neighbours : AreNeighbours ranked quarter lower upper)
    (placed : IsPlaced ranked quarter) : (quartile quarter ranked).isNaN = false ∧
      level lower ≤ level (quartile quarter ranked) ∧
      level (quartile quarter ranked) ≤ level upper := by
  by_cases settled : quarterPart quarter ranked.length = 0 ∨ level lower = level upper
  · rw [neighbours.quartile_settled settled]
    exact ⟨neighbours.isNumberBelow, le_rfl, neighbours.ordered⟩
  · obtain ⟨proper, apart⟩ := not_or.mp settled
    exact (neighbours.isBridge_quartile proper apart).between
      (neighbours.spanned placed proper apart) neighbours.isNumberAbove
      (neighbours.ordered.lt_of_ne apart) (quarterPart_nonneg ..) (quarterPart_le ..)

/-- A quartile stands between its neighbours just when these let it be computed. -/
theorem IsRising.isPlaced_iff (rising : IsRising ranked) (filled : ranked ≠ [])
    (atMostWhole : quarter ≤ 4) :
    IsPlaced ranked quarter ↔ LiesBetween ranked quarter (quartile quarter ranked) := by
  constructor
  · intro placed
    obtain ⟨lower, upper, neighbours⟩ := rising.exists_neighbours filled atMostWhole
    have isNumber := (neighbours.quartile_mem placed).1
    refine ⟨isNumber, fun first last others => ?_⟩
    rw [le_iff_level others.isNumberBelow isNumber, le_iff_level isNumber others.isNumberAbove]
    exact (others.quartile_mem placed).2
  · intro between lower upper neighbours
    have equal := beq_iff_level neighbours.isNumberBelow neighbours.isNumberAbove
    by_contra broken
    obtain ⟨proper, rest⟩ := not_or.mp broken
    obtain ⟨apart, unspanned⟩ := not_or.mp rest
    exact neighbours.not_liesBetween proper (fun same => apart (equal.mpr same)) unspanned between

/-- The ranks of the quartiles of two values lie between these. -/
theorem quarterRank_pair (positive : 0 < quarter) (few : quarter < 4) :
    quarterRank quarter 2 / 4 = 0 ∧ (quarterRank quarter 2 + 3) / 4 = 1 ∧
      quarterPart quarter 2 = quarter / 4 := by
  have rank : quarterRank quarter 2 = quarter := Nat.mul_one quarter
  rw [quarterPart, rank, Nat.mod_eq_of_lt few]
  exact ⟨by omega, by omega, rfl⟩

/-- The quartiles of two values are parts of one way. -/
theorem AreNeighbours.quartile_le_of_pair (neighbours : AreNeighbours ranked quarter lower upper)
    (pair : ranked.length = 2) (positive : 0 < quarter) (few : quarter < 3)
    (placed : IsPlaced ranked quarter) :
    level (quartile quarter ranked) ≤ level (quartile (quarter + 1) ranked) := by
  obtain ⟨below, above, part⟩ := quarterRank_pair positive (by omega : quarter < 4)
  obtain ⟨belowNext, aboveNext, partNext⟩ :=
    quarterRank_pair quarter.succ_pos (by omega : quarter + 1 < 4)
  rw [← pair] at below above part belowNext aboveNext partNext
  have next : AreNeighbours ranked (quarter + 1) lower upper :=
    { neighbours with
      below := by rw [belowNext, ← below, neighbours.below]
      above := by rw [aboveNext, ← above, neighbours.above] }
  by_cases same : level lower = level upper
  · rw [neighbours.quartile_settled (.inr same), next.quartile_settled (.inr same)]
  · have some : (0 : ℚ) < quarter := by exact_mod_cast positive
    have proper : quarterPart quarter ranked.length ≠ 0 := by
      rw [part]
      positivity
    have properNext : quarterPart (quarter + 1) ranked.length ≠ 0 := by
      rw [partNext]
      positivity
    have longer : quarterPart quarter ranked.length ≤ quarterPart (quarter + 1) ranked.length := by
      rw [part, partNext]
      push_cast
      linarith
    exact (neighbours.isBridge_quartile proper same).mono (next.isBridge_quartile properNext same)
      (neighbours.spanned placed proper same) neighbours.isNumberAbove
      (neighbours.ordered.lt_of_ne same) longer

/-- Quartiles that are placed rise. -/
theorem IsRising.quartile_le_next (rising : IsRising ranked) (filled : ranked ≠ [])
    (positive : 0 < quarter) (few : quarter < 3) (placed : IsPlaced ranked quarter)
    (placedNext : IsPlaced ranked (quarter + 1)) :
    level (quartile quarter ranked) ≤ level (quartile (quarter + 1) ranked) := by
  obtain ⟨lower, upper, neighbours⟩ := rising.exists_neighbours filled (by omega : quarter ≤ 4)
  obtain ⟨first, last, others⟩ := rising.exists_neighbours filled (by omega : quarter + 1 ≤ 4)
  by_cases pair : ranked.length = 2
  · exact neighbours.quartile_le_of_pair pair positive few placed
  · have ranks : (quarterRank quarter ranked.length + 3) / 4 ≤
        quarterRank (quarter + 1) ranked.length / 4 := by
      unfold quarterRank
      have cases : quarter = 1 ∨ quarter = 2 := by omega
      rcases cases with rfl | rfl <;> omega
    calc level (quartile quarter ranked)
        ≤ level upper := (neighbours.quartile_mem placed).2.2
      _ ≤ level first := rising.le_of_le neighbours.above others.below ranks
      _ ≤ level (quartile (quarter + 1) ranked) := (others.quartile_mem placedNext).2.1

end Quartiles

/-- The ends of rising numbers, which are the least and the greatest one. -/
structure AreEnds (ranked : List Float) (first last : Float) : Prop where
  least : ranked.head?.getD (0 / 0) = first
  greatest : ranked.getLast?.getD (0 / 0) = last
  isNumberFirst : first.isNaN = false
  isNumberLast : last.isNaN = false
  bounds : ∀ value ∈ ranked, level first ≤ level value ∧ level value ≤ level last

section Ends

variable {ranked : List Float} {quarter : ℕ} {first last : Float}

theorem IsRising.exists_ends (rising : IsRising ranked) (filled : ranked ≠ []) :
    ∃ first last, AreEnds ranked first last := by
  have positive := List.length_pos_iff.mpr filled
  have first := List.getElem?_eq_getElem positive
  have last := List.getElem?_eq_getElem (Nat.sub_one_lt_of_lt positive)
  refine ⟨_, _,
    { least := by rw [List.head?_eq_getElem?, first, Option.getD_some]
      greatest := by rw [List.getLast?_eq_getElem?, last, Option.getD_some]
      isNumberFirst := rising.numbers _ (List.getElem_mem _)
      isNumberLast := rising.numbers _ (List.getElem_mem _)
      bounds := fun value member => ?_ }⟩
  obtain ⟨rank, bound, rfl⟩ := List.getElem_of_mem member
  have place := List.getElem?_eq_getElem bound
  exact ⟨rising.le_of_le first place (Nat.zero_le _), rising.le_of_le place last (by omega)⟩

/-- A quartile that is placed stands between the ends. -/
theorem AreEnds.quartile_mem (ends : AreEnds ranked first last) (rising : IsRising ranked)
    (filled : ranked ≠ []) (atMostWhole : quarter ≤ 4) (placed : IsPlaced ranked quarter) :
    (quartile quarter ranked).isNaN = false ∧ level first ≤ level (quartile quarter ranked) ∧
      level (quartile quarter ranked) ≤ level last := by
  obtain ⟨lower, upper, neighbours⟩ := rising.exists_neighbours filled atMostWhole
  obtain ⟨isNumber, above, below⟩ := neighbours.quartile_mem placed
  exact ⟨isNumber, (ends.bounds lower (List.mem_of_getElem? neighbours.below)).1.trans above,
    below.trans (ends.bounds upper (List.mem_of_getElem? neighbours.above)).2⟩

/-- Where the ends have a distance, all quartiles are placed. -/
theorem AreEnds.isPlaced (ends : AreEnds ranked first last) (spanned : IsSpanned first last)
    (finite : last.isFinite = true) : IsPlaced ranked quarter := by
  intro lower upper neighbours
  obtain ⟨least, valued⟩ := hasValue_of_isFinite spanned.finite
  obtain ⟨greatest, valuedLast⟩ := hasValue_of_isFinite finite
  have within := (valuedLast.sub valued).isFinite_iff.mp (spanned.within finite)
  have value {member : Float} (isMember : member ∈ ranked) (isNumber : member.isNaN = false) :
      ∃ exact, HasValue member exact ∧ least ≤ exact ∧ exact ≤ greatest := by
    obtain ⟨above, below⟩ := ends.bounds member isMember
    rw [valued.level_eq] at above
    rw [valuedLast.level_eq] at below
    rcases level_cases (level member) with lowest | highest | ⟨exact, placed⟩
    · rw [lowest] at above
      exact absurd above (bot_lt_value least).not_ge
    · rw [highest] at below
      exact absurd below (value_lt_top greatest).not_ge
    · rw [placed] at above below
      exact ⟨exact, hasValue_of_level isNumber placed, value_le_value.mp above,
        value_le_value.mp below⟩
  obtain ⟨bottom, valuedLower, above, -⟩ :=
    value (List.mem_of_getElem? neighbours.below) neighbours.isNumberBelow
  obtain ⟨top, valuedUpper, -, below⟩ :=
    value (List.mem_of_getElem? neighbours.above) neighbours.isNumberAbove
  have ordered := neighbours.ordered
  rw [valuedLower.level_eq, valuedUpper.level_eq, value_le_value] at ordered
  have narrower := nearest_mono (sub_le_sub below above)
  exact .inr (.inr (isSpanned_of_lt valuedLower valuedUpper ordered
    (narrower.trans_lt (abs_lt.mp within).2)))

end Ends

section Summaries

variable {values : List Float}

theorem sorted_present_ne_nil (some : present values ≠ []) : sorted (present values) ≠ [] :=
  fun empty => some (List.Perm.nil_eq (empty ▸ sorted_perm (present values))).symm

/-- When all quartiles are placed, the five numbers are ordered. -/
theorem isOrdered_of_isPlaced (some : present values ≠ [])
    (placed : ∀ quarter, 0 < quarter → quarter < 4 → IsPlaced (sorted (present values)) quarter) :
    (Summary.ofValues values).IsOrdered := by
  have rising : IsRising (sorted (present values)) :=
    isRising_sorted fun _ member => isNaN_of_mem_present member
  have filled := sorted_present_ne_nil some
  obtain ⟨first, last, ends⟩ := rising.exists_ends filled
  have first := placed 1 (by decide) (by decide)
  have second := placed 2 (by decide) (by decide)
  have third := placed 3 (by decide) (by decide)
  obtain ⟨isNumberFirst, lowest, -⟩ := ends.quartile_mem rising filled (by decide) first
  obtain ⟨isNumberSecond, -, -⟩ := ends.quartile_mem rising filled (by decide) second
  obtain ⟨isNumberThird, -, highest⟩ := ends.quartile_mem rising filled (by decide) third
  have lower := rising.quartile_le_next filled (by decide) (by decide) first second
  have upper := rising.quartile_le_next filled (by decide) (by decide) second third
  rw [← le_iff_level ends.isNumberFirst isNumberFirst, ← ends.least] at lowest
  rw [← le_iff_level isNumberThird ends.isNumberLast, ← ends.greatest] at highest
  rw [← le_iff_level isNumberFirst isNumberSecond] at lower
  rw [← le_iff_level isNumberSecond isNumberThird] at upper
  have least : (Summary.ofValues values).least = _ := ends.least
  have greatest : (Summary.ofValues values).greatest = _ := ends.greatest
  refine ⟨?_, lowest, lower, upper, highest⟩
  simp only [List.forall_mem_cons, least, greatest]
  exact ⟨ends.isNumberFirst, isNumberFirst, isNumberSecond, isNumberThird, ends.isNumberLast,
    by simp⟩

end Summaries

/-- The least and the greatest number are ordered. Each quartile lies between its neighbours unless
their distance is too great, and where all quartiles do, the five numbers are ordered. That is so
when the greatest number is finite and so is its distance from the least one. -/
theorem Summary.ofValues_ordered (values : List Float) (some : present values ≠ []) :
    let ranked := sorted (present values)
    let summary := Summary.ofValues values
    (summary.least.isNaN = false ∧ summary.greatest.isNaN = false ∧
      summary.least ≤ summary.greatest) ∧
    ((IsPlaced ranked 1 ↔ LiesBetween ranked 1 summary.lowerQuartile) ∧
      (IsPlaced ranked 2 ↔ LiesBetween ranked 2 summary.median) ∧
      (IsPlaced ranked 3 ↔ LiesBetween ranked 3 summary.upperQuartile)) ∧
    (IsPlaced ranked 1 → IsPlaced ranked 2 → IsPlaced ranked 3 → summary.IsOrdered) ∧
    (summary.greatest.isFinite = true → IsSpanned summary.least summary.greatest →
      summary.IsOrdered) := by
  intro ranked summary
  have rising : IsRising ranked := isRising_sorted fun _ member => isNaN_of_mem_present member
  have filled : ranked ≠ [] := sorted_present_ne_nil some
  have placed {quarter : ℕ} (atMostWhole : quarter ≤ 4) :=
    rising.isPlaced_iff filled atMostWhole
  obtain ⟨first, last, ends⟩ := rising.exists_ends filled
  have least : summary.least = first := ends.least
  have greatest : summary.greatest = last := ends.greatest
  rw [least, greatest]
  refine ⟨⟨ends.isNumberFirst, ends.isNumberLast, ?_⟩,
    ⟨placed (by decide), placed (by decide), placed (by decide)⟩, fun lower middle upper => ?_,
    fun finite spanned => ?_⟩
  · rw [le_iff_level ends.isNumberFirst ends.isNumberLast]
    obtain ⟨value, member⟩ := List.exists_mem_of_ne_nil _ filled
    exact (ends.bounds value member).1.trans (ends.bounds value member).2
  · apply isOrdered_of_isPlaced some
    intro quarter positive few
    have cases : quarter = 1 ∨ quarter = 2 ∨ quarter = 3 := by omega
    rcases cases with rfl | rfl | rfl
    · exact lower
    · exact middle
    · exact upper
  · exact isOrdered_of_isPlaced some fun _ _ _ => ends.isPlaced spanned finite

/-- An infinity above is no obstacle. -/
theorem Summary.openValues_ordered :
    present [1, 0 / 0, 2, 1 / 0] ≠ [] ∧ (Summary.ofValues [1, 0 / 0, 2, 1 / 0]).IsOrdered := by
  have some : present [1, 0 / 0, 2, 1 / 0] ≠ [] := by decide +kernel
  have kept : present [1, 0 / 0, 2, 1 / 0] = [1, 2, 1 / 0] := by decide +kernel
  have ranked : sorted [1, 2, 1 / 0] = [1, 2, 1 / 0] := sorted_of_pairwise (by decide +kernel)
  have ordered := (ofValues_ordered _ some).2.2.1
  rw [kept, ranked] at ordered
  refine ⟨some, ordered ?_ ?_ ?_⟩
  · intro lower upper neighbours
    have below : 1 = lower := Option.some.inj neighbours.below
    have above : 2 = upper := Option.some.inj neighbours.above
    rw [← below, ← above]
    exact .inr (.inr ⟨by decide +kernel, by decide +kernel⟩)
  · intro lower upper neighbours
    exact .inl (by decide +kernel)
  · intro lower upper neighbours
    have below : 2 = lower := Option.some.inj neighbours.below
    have above : 1 / 0 = upper := Option.some.inj neighbours.above
    rw [← below, ← above]
    exact .inr (.inr ⟨by decide +kernel, by decide +kernel⟩)

/-- The values are finite, but their distance is not, so that the lower quartile is infinite. There
is no median above minus infinity. -/
theorem Summary.distantValues_disordered :
    present [-1.7e308, 1.7e308] = [-1.7e308, 1.7e308] ∧
    (∀ value ∈ [(-1.7e308 : Float), 1.7e308], value.isFinite = true) ∧
    ¬ (Summary.ofValues [-1.7e308, 1.7e308]).lowerQuartile ≤
        (Summary.ofValues [-1.7e308, 1.7e308]).greatest ∧
    (Summary.ofValues [-1 / 0, 0]).median.isNaN = true := by
  have kept : present [-1.7e308, 1.7e308] = [-1.7e308, 1.7e308] := by decide +kernel
  have keptBelow : present [-1 / 0, 0] = [-1 / 0, 0] := by decide +kernel
  have ranked : sorted [-1.7e308, 1.7e308] = [-1.7e308, 1.7e308] :=
    sorted_of_pairwise (by decide +kernel)
  have rankedBelow : sorted [-1 / 0, 0] = [-1 / 0, 0] := sorted_of_pairwise (by decide +kernel)
  refine ⟨kept, by decide +kernel, ?_, ?_⟩
  · unfold ofValues
    dsimp only
    rw [kept, ranked]
    decide +kernel
  · unfold ofValues
    dsimp only
    rw [keptBelow, rankedBelow]
    decide +kernel

end BenchmarkReport.Statistics
