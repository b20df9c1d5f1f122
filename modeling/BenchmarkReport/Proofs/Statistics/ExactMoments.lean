/-
This file reads the operations of the sum, the mean and the variance as exact ones. Whatever way the
values are cut into parts, the parts together have the sum of the values and the sum of their
squared deviations from the mean.
-/

import Mathlib.Algebra.BigOperators.Group.List.Basic
import Mathlib.Tactic.FieldSimp
import Mathlib.Tactic.LinearCombination
import BenchmarkReport.Proofs.Number.Wholes
import BenchmarkReport.Proofs.Number.Classes
import BenchmarkReport.Statistics.Summary

namespace BenchmarkReport.Statistics

open Number

/-- Exact numbers have exact operations. -/
instance : Arithmetic ℚ where
  ofCount count := count

section Cuttings

variable {α : Type} [Arithmetic α]

/-- The total of values that are cut into runs and full blocks. Totals are added pair by pair, in
whatever order. -/
inductive IsTotal : List α → α → Prop
  | run (values : List α) : IsTotal values (sumInOrder values)
  | block (values : List α) (full : laneCount ∣ values.length) : IsTotal values (blockSum values)
  | join {values first second : List α} {total totalOther : α} (parts : IsTotal first total)
      (others : IsTotal second totalOther) (cut : values.Perm (first ++ second)) :
      IsTotal values (total + totalOther)

/-- The spread of values that are cut into chunks. The spreads of neighbouring parts are
combined. -/
inductive IsGathered : List α → Spread α → Prop
  | empty : IsGathered [] .empty
  | chunk (values : List α) : IsGathered values (.ofChunk values)
  | combine {first second : List α} {spread spreadOther : Spread α}
      (parts : IsGathered first spread) (others : IsGathered second spreadOther) :
      IsGathered (first ++ second) (spread.combine spreadOther)

omit [Arithmetic α] in
/-- When the values fill their chunks, so does each chunk. -/
theorem length_of_mem_chunks {length : ℕ} (positive : 0 < length) {values : List α}
    (full : length ∣ values.length) :
    ∀ chunk ∈ chunks length positive values, chunk.length = length := by
  fun_induction chunks length positive values with
  | case1 values short empty => simp
  | case2 values short filled =>
      have least : 0 < values.length := by
        rwa [List.length_pos_iff, ← List.isEmpty_eq_false_iff, Bool.eq_false_iff]
      simpa using short.antisymm (Nat.le_of_dvd least full)
  | case3 values long inductionHypothesis =>
      rw [List.forall_mem_cons]
      refine ⟨?_, inductionHypothesis ?_⟩
      · rw [List.length_take]
        omega
      · rw [List.length_drop]
        exact Nat.dvd_sub full (dvd_refl length)

theorem isTotal_sumOfBlocks {blocks : List (List α)}
    (full : ∀ block ∈ blocks, laneCount ∣ block.length) :
    IsTotal blocks.flatten (sumOfBlocks blocks) := by
  fun_induction sumOfBlocks blocks with
  | case1 => exact .run []
  | case2 block =>
      rw [List.flatten_singleton]
      exact .block block (full block List.mem_cons_self)
  | case3 first second others half firstHalf secondHalf =>
      have parts := firstHalf fun block member => full block (List.mem_of_mem_take member)
      have others := secondHalf fun block member => full block (List.mem_of_mem_drop member)
      refine .join parts others ?_
      rw [← List.flatten_append, List.take_append_drop]

/-- The sum of a list cuts it into blocks behind a run. -/
theorem isTotal_sum (values : List α) : IsTotal values (sum values) := by
  have full : blockLength ∣ (values.drop (values.length % blockLength)).length := by
    rw [List.length_drop]
    exact Nat.dvd_sub_mod values.length
  have blocks := isTotal_sumOfBlocks fun block member =>
    (length_of_mem_chunks (by decide : 0 < blockLength) full block member).symm ▸
      (by decide : laneCount ∣ blockLength)
  rw [chunks_flatten] at blocks
  refine .join blocks (.run _) ?_
  have whole := List.take_append_drop (values.length % blockLength) values
  exact (List.Perm.of_eq whole.symm).trans List.perm_append_comm

theorem IsGathered.foldl {chunks : List (List α)} {values : List α} {spread : Spread α}
    (gathered : IsGathered values spread) :
    IsGathered (values ++ chunks.flatten)
      ((chunks.map Spread.ofChunk).foldl Spread.combine spread) := by
  induction chunks generalizing values spread with
  | nil => simpa using gathered
  | cons chunk chunks inductionHypothesis =>
      rw [List.flatten_cons, ← List.append_assoc]
      exact inductionHypothesis (gathered.combine (.chunk chunk))

/-- The spread of a list cuts it into chunks that are combined one after the other. -/
theorem isGathered_spread (values : List α) : IsGathered values (spread values) := by
  have gathered : IsGathered ([] ++ (chunks blockLength (by decide) values).flatten)
      (spread values) := IsGathered.empty.foldl
  rwa [List.nil_append, chunks_flatten] at gathered

end Cuttings

section Sums

variable {values : List ℚ} {total : ℚ}

theorem sumInOrder_eq (values : List ℚ) : sumInOrder values = values.sum :=
  List.sum_eq_foldl.symm

/-- The lanes have the sum of the chunks that are added to them. -/
theorem sum_foldl_lanes {chunks : List (List ℚ)} {lanes : List ℚ}
    (full : ∀ chunk ∈ chunks, chunk.length = lanes.length) :
    (chunks.foldl (List.zipWith (· + ·)) lanes).sum = lanes.sum + chunks.flatten.sum ∧
      (chunks.foldl (List.zipWith (· + ·)) lanes).length = lanes.length := by
  induction chunks generalizing lanes with
  | nil => simp
  | cons chunk chunks inductionHypothesis =>
      obtain ⟨here, others⟩ := List.forall_mem_cons.mp full
      have added : (List.zipWith (· + ·) lanes chunk).length = lanes.length := by
        rw [List.length_zipWith, here, min_self]
      obtain ⟨sums, lengths⟩ := inductionHypothesis fun other member =>
        (others other member).trans added.symm
      refine ⟨?_, lengths.trans added⟩
      rw [List.foldl_cons, sums, ← List.sum_add_sum_eq_sum_zipWith_of_length_eq _ _ here.symm,
        List.flatten_cons, List.sum_append, add_assoc]

theorem sum_foldHalves (count : ℕ) (halves : values.length = count + count) :
    (foldHalves count values).sum = values.sum ∧ (foldHalves count values).length = count := by
  have front : (values.take count).length = count := by
    rw [List.length_take]
    omega
  have back : (values.drop count).length = count := by
    rw [List.length_drop]
    omega
  unfold foldHalves
  constructor
  · rw [← List.sum_add_sum_eq_sum_zipWith_of_length_eq _ _ (front.trans back.symm),
      List.sum_take_add_sum_drop]
  · rw [List.length_zipWith, front, back, min_self]

theorem sumOfFour_eq (values : List ℚ) : sumOfFour values = values.sum := by
  unfold sumOfFour
  split
  · simp only [List.sum_cons, List.sum_nil]
    ring
  · exact sumInOrder_eq _

/-- A block without a gap in its lanes has the sum of its values. -/
theorem blockSum_eq (full : laneCount ∣ values.length) : blockSum values = values.sum := by
  have lengths := length_of_mem_chunks (by decide : 0 < laneCount) full
  have none : (List.replicate laneCount (0 : ℚ)).length = laneCount := List.length_replicate
  obtain ⟨laneSum, lanes⟩ := sum_foldl_lanes fun chunk member =>
    (lengths chunk member).trans none.symm
  obtain ⟨eightSum, eight⟩ := sum_foldHalves 8 (lanes.trans none)
  obtain ⟨fourSum, -⟩ := sum_foldHalves 4 eight
  unfold blockSum
  rw [sumOfFour_eq, fourSum, eightSum, laneSum, chunks_flatten]
  simp

/-- No cut changes an exact sum. -/
theorem IsTotal.eq_sum (reached : IsTotal values total) : total = values.sum := by
  induction reached with
  | run values => exact sumInOrder_eq values
  | block values full => exact blockSum_eq full
  | join parts others cut partsSum othersSum =>
      rw [cut.sum_eq, List.sum_append, partsSum, othersSum]

theorem mean_eq (values : List ℚ) : mean values = values.sum / values.length := by
  unfold mean
  rw [(isTotal_sum values).eq_sum]
  rfl

end Sums

/-- The sum of the squared distances of the values from a center. -/
def squaresAround (center : ℚ) (values : List ℚ) : ℚ :=
  (values.map fun value => (value - center) ^ 2).sum

/-- A spread has the weight, the mean and the squared deviations of values. Without values any mean
will do. -/
structure IsSpreadOf (values : List ℚ) (spread : Spread ℚ) : Prop where
  weight : spread.weight = values.length
  total : spread.mean * values.length = values.sum
  squares : spread.squares = squaresAround spread.mean values

section Spreads

variable {values others : List ℚ} {spread spreadOther : Spread ℚ}

theorem squaresAround_append (center : ℚ) (values others : List ℚ) :
    squaresAround center (values ++ others) =
      squaresAround center values + squaresAround center others := by
  unfold squaresAround
  rw [List.map_append, List.sum_append]

/-- The squared distances from the mean are the least ones. -/
theorem squaresAround_eq {mean : ℚ} (total : mean * values.length = values.sum) (center : ℚ) :
    squaresAround center values =
      squaresAround mean values + values.length * (mean - center) ^ 2 := by
  have expanded (center : ℚ) : squaresAround center values =
      (values.map (· ^ 2)).sum - 2 * center * values.sum + values.length * center ^ 2 := by
    clear total
    induction values with
    | nil => simp [squaresAround]
    | cons value values inductionHypothesis =>
        unfold squaresAround at inductionHypothesis ⊢
        rw [List.map_cons, List.sum_cons, inductionHypothesis, List.map_cons, List.sum_cons,
          List.sum_cons, List.length_cons]
        push_cast
        ring
  rw [expanded, expanded, ← total]
  ring

theorem isSpreadOf_empty : IsSpreadOf [] .empty where
  weight := by simp [Spread.empty]
  total := by simp
  squares := by simp [Spread.empty, squaresAround]

theorem isSpreadOf_ofChunk (values : List ℚ) : IsSpreadOf values (.ofChunk values) where
  weight := rfl
  total := by
    change sumInOrder values / values.length * values.length = values.sum
    rw [sumInOrder_eq]
    rcases eq_or_ne values [] with rfl | filled
    · simp
    · have positive := List.length_pos_iff.mpr filled
      exact div_mul_cancel₀ _ (by exact_mod_cast positive.ne')
  squares := by
    change sumInOrder (values.map _) = _
    rw [sumInOrder_eq, squaresAround]
    simp only [sq]
    rfl

/-- The common mean of two groups weighs their means. -/
theorem IsSpreadOf.combine_total (first : IsSpreadOf values spread)
    (second : IsSpreadOf others spreadOther) :
    (spread.combine spreadOther).mean * (values.length + others.length) =
      spread.mean * values.length + spreadOther.mean * others.length := by
  change (spread.mean - (spread.mean - spreadOther.mean) *
    (spreadOther.weight / (spread.weight + spreadOther.weight))) * _ = _
  rw [first.weight, second.weight]
  rcases eq_or_ne (values.length + others.length : ℚ) 0 with empty | filled
  · have nonnegative : (0 : ℚ) ≤ values.length := Nat.cast_nonneg _
    have nonnegativeOther : (0 : ℚ) ≤ others.length := Nat.cast_nonneg _
    have noValues : (values.length : ℚ) = 0 := by linarith
    have noOthers : (others.length : ℚ) = 0 := by linarith
    simp [noValues, noOthers]
  · field_simp
    ring

/-- Two groups together have the spread of all their values. -/
theorem IsSpreadOf.combine (first : IsSpreadOf values spread)
    (second : IsSpreadOf others spreadOther) :
    IsSpreadOf (values ++ others) (spread.combine spreadOther) := by
  have total := first.combine_total second
  refine ⟨?_, ?_, ?_⟩
  · change spread.weight + spreadOther.weight = _
    rw [first.weight, second.weight, List.length_append]
    exact (Nat.cast_add _ _).symm
  · rw [List.length_append, List.sum_append, Nat.cast_add, total, first.total, second.total]
  · rw [squaresAround_append, squaresAround_eq first.total, squaresAround_eq second.total]
    change spread.squares + (spreadOther.squares + spreadOther.weight *
      ((spread.combine spreadOther).mean - spreadOther.mean) *
        (spread.mean - spreadOther.mean)) = _
    rw [first.squares, second.squares, second.weight]
    linear_combination (spread.mean - (spread.combine spreadOther).mean) * total

/-- No cut changes an exact spread. -/
theorem IsGathered.isSpreadOf (gathered : IsGathered values spread) : IsSpreadOf values spread := by
  induction gathered with
  | empty => exact isSpreadOf_empty
  | chunk values => exact isSpreadOf_ofChunk values
  | combine parts others first second => exact first.combine second

/-- The mean of a spread is the mean of its values. -/
theorem IsSpreadOf.mean_eq (isSpread : IsSpreadOf values spread) (filled : values ≠ []) :
    spread.mean = mean values := by
  have positive := List.length_pos_iff.mpr filled
  rw [Statistics.mean_eq]
  exact eq_div_of_mul_eq (by exact_mod_cast positive.ne') isSpread.total

theorem IsSpreadOf.variance_eq (isSpread : IsSpreadOf values spread) (filled : values ≠ []) :
    spread.squares / (spread.weight - 1) =
      squaresAround (mean values) values / (values.length - 1) := by
  rw [isSpread.squares, isSpread.weight, isSpread.mean_eq filled]

end Spreads

section Summaries

variable {values : List Float}

theorem present_of_finite (finite : ∀ value ∈ values, value.isFinite = true) :
    present values = values := by
  refine List.filter_eq_self.mpr fun value member => ?_
  have classes := finite value member
  rw [isFinite_eq, Bool.and_eq_true] at classes
  exact classes.1

theorem exists_exact_values (finite : ∀ value ∈ values, value.isFinite = true) :
    ∃ exacts, List.Forall₂ HasValue values exacts := by
  induction values with
  | nil => exact ⟨[], .nil⟩
  | cons value values inductionHypothesis =>
      obtain ⟨here, others⟩ := List.forall_mem_cons.mp finite
      obtain ⟨exact, valued⟩ := hasValue_of_isFinite here
      obtain ⟨exacts, valuedOthers⟩ := inductionHypothesis others
      exact ⟨exact :: exacts, .cons valued valuedOthers⟩

/-- One value is its own mean. -/
theorem hasValue_mean_singleton {value : Float} {exact : ℚ} (valued : HasValue value exact) :
    HasValue (mean [value]) exact := by
  have alone : mean [value] = (0 + (0 + value)) / Float.ofNat 1 := by
    simp [mean, sum, blockLength, chunks_nil, sumOfBlocks, sumInOrder, Arithmetic.ofCount]
  have added {number : Float} (valuedNumber : HasValue number exact) :
      HasValue (0 + number) exact := by
    have rounded := hasValue_zero.add valuedNumber
    rw [zero_add] at rounded
    exact rounded.hasValue valued.isDouble valued.bounded
  have quotient := (added (added valued)).div hasValue_unit one_ne_zero
  rw [div_one] at quotient
  rw [alone]
  exact quotient.hasValue valued.isDouble valued.bounded

end Summaries

/-- Read exactly, the mean is the sum of the values divided by their number, and under the root of
the deviation stand their squared deviations divided by one less. The cut of the values into parts
does not matter. One value has a mean, but no deviation. -/
theorem Summary.ofValues_moments (values : List Float)
    (finite : ∀ value ∈ values, value.isFinite = true) :
    let summary := Summary.ofValues values
    ∃ exacts : List ℚ, List.Forall₂ HasValue values exacts ∧
      (values ≠ [] → summary.mean = Statistics.mean values ∧
        Statistics.mean exacts = exacts.sum / exacts.length) ∧
      (2 ≤ values.length → summary.deviation = Float.sqrt (variance values) ∧
        variance exacts = squaresAround (Statistics.mean exacts) exacts / (exacts.length - 1)) ∧
      (IsTotal values (sum values) ∧ ∀ total, IsTotal exacts total → total = exacts.sum) ∧
      (IsGathered values (spread values) ∧
        ∀ spread, IsGathered exacts spread → IsSpreadOf exacts spread) ∧
      (∀ exact, exacts = [exact] →
        HasValue summary.mean exact ∧ summary.deviation.isNaN = true) := by
  intro summary
  obtain ⟨exacts, valued⟩ := exists_exact_values finite
  have kept := present_of_finite finite
  have meanEq : summary.mean = Statistics.mean values := congrArg Statistics.mean kept
  have deviationEq : summary.deviation = Statistics.deviation values :=
    congrArg Statistics.deviation kept
  refine ⟨exacts, valued, fun _ => ⟨meanEq, mean_eq exacts⟩, fun several => ⟨?_, ?_⟩,
    ⟨isTotal_sum values, fun _ reached => reached.eq_sum⟩,
    ⟨isGathered_spread values, fun _ gathered => gathered.isSpreadOf⟩, fun exact single => ?_⟩
  · rw [deviationEq, Statistics.deviation, if_neg (by omega)]
  · rw [valued.length_eq] at several
    have filled : exacts ≠ [] := List.length_pos_iff.mp (by omega)
    exact (isGathered_spread exacts).isSpreadOf.variance_eq filled
  · rw [single, List.forall₂_cons_right_iff] at valued
    obtain ⟨value, _, valuedHere, none, rfl⟩ := valued
    rw [List.forall₂_nil_right_iff.mp none] at meanEq deviationEq
    rw [meanEq, deviationEq]
    exact ⟨hasValue_mean_singleton valuedHere, isNaN_quotient⟩

/-- The deviations of three values from their mean are two, one and three. -/
theorem Summary.threeValues_moments :
    (∀ value ∈ [(1 : Float), 2, 6], value.isFinite = true) ∧
    List.Forall₂ HasValue [1, 2, 6] [1, 2, 6] ∧
    Statistics.mean [(1 : ℚ), 2, 6] = 3 ∧ variance [(1 : ℚ), 2, 6] = 7 := by
  have finite : ∀ value ∈ [(1 : Float), 2, 6], value.isFinite = true := by decide +kernel
  have two : HasValue 2 2 := hasValue_literal 2 (by decide)
  have six : HasValue 6 6 := hasValue_literal 6 (by decide)
  have valued : List.Forall₂ HasValue [1, 2, 6] [1, 2, 6] :=
    .cons hasValue_unit (.cons two (.cons six .nil))
  obtain ⟨exacts, valuedExacts, mean, variance, -⟩ := ofValues_moments [1, 2, 6] finite
  have unique : Relator.RightUnique HasValue := fun _ _ _ => HasValue.unique
  have same : exacts = [1, 2, 6] := unique.forall₂ valuedExacts valued
  rw [same] at mean variance
  have middle := (mean (by simp)).2
  have under := (variance (by simp)).2
  rw [middle] at under
  refine ⟨finite, valued, middle.trans (by norm_num), under.trans ?_⟩
  norm_num [squaresAround]

end BenchmarkReport.Statistics
