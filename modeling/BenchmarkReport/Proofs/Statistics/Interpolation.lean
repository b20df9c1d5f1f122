/-
This file says what stands between two values at a part of the way: only their levels count, and the
result lies between them unless the way is infinitely long or longer than all doubles.
-/

import BenchmarkReport.Proofs.Number.Distance
import BenchmarkReport.Proofs.Number.Levels
import BenchmarkReport.Proofs.Number.Wholes
import BenchmarkReport.Statistics.Quantile

namespace BenchmarkReport.Statistics

open Number

/-- What is computed at a part of the way from one level up to another one. No way leads up from
minus infinity. A distance beyond the doubles leads to infinity. -/
structure IsBridge (part : ℚ) (lower upper : Level) (result : Float) : Prop where
  bottomless : lower = ⊥ → result.isNaN = true
  endless : ∀ least, lower = .of least → upper = ⊤ → Extended.ofFloat result = .infinity false
  far : ∀ least greatest, lower = .of least → upper = .of greatest →
    overflow ≤ nearest (greatest - least) → Extended.ofFloat result = .infinity false
  near : ∀ least greatest, lower = .of least → upper = .of greatest →
    nearest (greatest - least) < overflow →
      HasValue result (nearest (nearest (part * nearest (greatest - least)) + least))

section Parts

variable {part least greatest : ℚ}

/-- Up to three quarters of a rounded distance are no more than the distance. -/
theorem nearest_part_le (double : IsDouble least) (doubleGreatest : IsDouble greatest)
    (ordered : least ≤ greatest) (few : part ≤ 3 / 4) :
    nearest (part * nearest (greatest - least)) ≤ greatest - least := by
  have distance : |greatest - least| = greatest - least := abs_of_nonneg (sub_nonneg.mpr ordered)
  have nonnegative := nearest_nonneg (sub_nonneg.mpr ordered)
  rcases lt_or_ge |greatest - least| leastNormal with close | normal
  · have exact := nearest_sub_eq double doubleGreatest close
    calc nearest (part * nearest (greatest - least))
        ≤ nearest (greatest - least) := by
          apply nearest_mono
          rw [exact] at nonnegative ⊢
          exact mul_le_of_le_one_left nonnegative (by linarith)
      _ = greatest - least := exact
  · rw [distance] at normal
    have width := abs_le.mp (abs_nearest_sub_le distance.le normal)
    have taken : part * nearest (greatest - least) ≤ 3 / 4 * nearest (greatest - least) :=
      mul_le_mul_of_nonneg_right few nonnegative
    have most : |3 / 4 * nearest (greatest - least)| ≤ greatest - least := by
      rw [abs_of_nonneg (by linarith)]
      linarith
    have rounded := abs_le.mp (abs_nearest_sub_le most normal)
    have above := nearest_mono taken
    linarith

/-- What is computed at a part of the way lies between the two ends. -/
theorem bridge_bounds (double : IsDouble least) (doubleGreatest : IsDouble greatest)
    (ordered : least ≤ greatest) (nonnegative : 0 ≤ part) (few : part ≤ 3 / 4) :
    least ≤ nearest (nearest (part * nearest (greatest - least)) + least) ∧
      nearest (nearest (part * nearest (greatest - least)) + least) ≤ greatest := by
  have width := nearest_nonneg (sub_nonneg.mpr ordered)
  have step := nearest_nonneg (mul_nonneg nonnegative width)
  have most := nearest_part_le double doubleGreatest ordered few
  have above := nearest_mono (le_add_of_nonneg_left step : least ≤ _)
  have below := nearest_mono (by linarith :
    nearest (part * nearest (greatest - least)) + least ≤ greatest)
  rw [nearest_of_isDouble double] at above
  rw [nearest_of_isDouble doubleGreatest] at below
  exact ⟨above, below⟩

end Parts

section Bridges

variable {lower upper fraction : Float} {part : ℚ}

/-- What is computed between two levels in order is a bridge between them. -/
theorem isBridge_of_lt (isNumberLower : lower.isNaN = false) (isNumberUpper : upper.isNaN = false)
    (less : level lower < level upper) (valued : HasValue fraction part) (positive : 0 < part)
    (few : part ≤ 3 / 4) :
    IsBridge part (level lower) (level upper) (fraction * (upper - lower) + lower) where
  bottomless lowest := by
    have infinite := infinity_of_level_bot isNumberLower lowest
    have width : Extended.ofFloat (upper - lower) = .infinity false := by
      rcases number_cases isNumberUpper with ⟨negative, infiniteUpper⟩ | ⟨greatest, valuedUpper⟩
      · cases negative with
        | false => exact infinity_sub_infinity infiniteUpper infinite
        | true =>
            rw [level_of_infinity infiniteUpper, lowest] at less
            exact absurd less (lt_irrefl _)
      · exact valuedUpper.sub_infinity infinite
    exact isNaN_iff.mpr (infinity_add_infinity (valued.mul_infinity positive width) infinite)
  endless least placed highest := by
    have valuedLower := hasValue_of_level isNumberLower placed
    have width := infinity_sub (infinity_of_level_top isNumberUpper highest) valuedLower
    exact infinity_add (valued.mul_infinity positive width) valuedLower
  far least greatest placed placedUpper beyond := by
    have valuedLower := hasValue_of_level isNumberLower placed
    have width := ((hasValue_of_level isNumberUpper placedUpper).sub valuedLower).above beyond
    exact infinity_add (valued.mul_infinity positive width) valuedLower
  near least greatest placed placedUpper within := by
    have valuedLower := hasValue_of_level isNumberLower placed
    have valuedUpper := hasValue_of_level isNumberUpper placedUpper
    have ordered : least ≤ greatest := by
      rw [placed, placedUpper] at less
      exact (value_lt_value.mp less).le
    have nonnegative := nearest_nonneg (sub_nonneg.mpr ordered)
    have width := (valuedUpper.sub valuedLower).finite ((abs_of_nonneg nonnegative).trans_lt within)
    have step := ((valued.mul width).between hasValue_zero width
      (mul_nonneg positive.le nonnegative) (mul_le_of_le_one_left nonnegative (by linarith))).1
    have bounds := bridge_bounds valuedLower.isDouble valuedUpper.isDouble ordered positive.le few
    have first := (abs_lt.mp valuedLower.bounded).1
    have last := (abs_lt.mp valuedUpper.bounded).2
    exact (step.add valuedLower).finite
      (abs_lt.mpr ⟨first.trans_le bounds.1, bounds.2.trans_lt last⟩)

end Bridges

section Results

variable {lower upper first second : Float} {part partOther : ℚ}

/-- A bridge is determined by the levels of its ends. -/
theorem IsBridge.alike {lower upper : Level} (less : lower < upper)
    (bridge : IsBridge part lower upper first) (other : IsBridge part lower upper second) :
    Alike first second := by
  rcases level_cases lower with lowest | highest | ⟨least, placed⟩
  · exact .inl ⟨bridge.bottomless lowest, other.bottomless lowest⟩
  · rw [highest] at less
    exact absurd less not_top_lt
  · rcases level_cases upper with lowest | highest | ⟨greatest, placedUpper⟩
    · rw [lowest] at less
      exact absurd less not_lt_bot
    · exact .inr (infinity_beq (bridge.endless least placed highest)
        (other.endless least placed highest))
    · rcases lt_or_ge (nearest (greatest - least)) overflow with within | beyond
      · exact .inr (((bridge.near least greatest placed placedUpper within).beq_iff
          (other.near least greatest placed placedUpper within)).mpr rfl)
      · exact .inr (infinity_beq (bridge.far least greatest placed placedUpper beyond)
          (other.far least greatest placed placedUpper beyond))

/-- Two values have a way between them when the lower one is finite and their distance is not beyond
the doubles, unless the upper one is infinite. -/
structure IsSpanned (lower upper : Float) : Prop where
  finite : lower.isFinite = true
  within : upper.isFinite = true → (upper - lower).isFinite = true

theorem isSpanned_of_lt {least greatest : ℚ} (valued : HasValue lower least)
    (valuedUpper : HasValue upper greatest) (ordered : least ≤ greatest)
    (within : nearest (greatest - least) < overflow) : IsSpanned lower upper where
  finite := valued.isFinite
  within _ := by
    have nonnegative := nearest_nonneg (sub_nonneg.mpr ordered)
    exact (valuedUpper.sub valued).isFinite_iff.mpr ((abs_of_nonneg nonnegative).trans_lt within)

/-- There are two kinds of ways: those that lead to infinity, and those between two values. -/
theorem IsSpanned.cases (spanned : IsSpanned lower upper) (isNumber : upper.isNaN = false)
    (less : level lower < level upper) :
    (∃ least, HasValue lower least ∧ level upper = ⊤) ∨
      ∃ least greatest, HasValue lower least ∧ HasValue upper greatest ∧ least < greatest ∧
        nearest (greatest - least) < overflow := by
  obtain ⟨least, valued⟩ := hasValue_of_isFinite spanned.finite
  rcases level_cases (level upper) with lowest | highest | ⟨greatest, placed⟩
  · rw [lowest] at less
    exact absurd less not_lt_bot
  · exact .inl ⟨least, valued, highest⟩
  · have valuedUpper := hasValue_of_level isNumber placed
    rw [valued.level_eq, placed] at less
    have finite := (valuedUpper.sub valued).isFinite_iff.mp (spanned.within valuedUpper.isFinite)
    exact .inr ⟨least, greatest, valued, valuedUpper, value_lt_value.mp less, (abs_lt.mp finite).2⟩

/-- A bridge over a way that is not too long is a number between its ends. -/
theorem IsBridge.between (bridge : IsBridge part (level lower) (level upper) first)
    (spanned : IsSpanned lower upper) (isNumber : upper.isNaN = false)
    (less : level lower < level upper) (nonnegative : 0 ≤ part) (few : part ≤ 3 / 4) :
    first.isNaN = false ∧ level lower ≤ level first ∧ level first ≤ level upper := by
  rcases spanned.cases isNumber less with
    ⟨least, valued, highest⟩ | ⟨least, greatest, valued, valuedUpper, ordered, within⟩
  · have infinite := bridge.endless least valued.level_eq highest
    have placed : level first = ⊤ := level_of_infinity infinite
    rw [placed, highest]
    exact ⟨isNaN_of_infinity infinite, le_top, le_rfl⟩
  · have result := bridge.near least greatest valued.level_eq valuedUpper.level_eq within
    have bounds := bridge_bounds valued.isDouble valuedUpper.isDouble ordered.le nonnegative few
    rw [valued.level_eq, valuedUpper.level_eq, result.level_eq]
    exact ⟨result.isNaN, value_le_value.mpr bounds.1, value_le_value.mpr bounds.2⟩

/-- A longer part of a way leads at least as far. -/
theorem IsBridge.mono (bridge : IsBridge part (level lower) (level upper) first)
    (other : IsBridge partOther (level lower) (level upper) second)
    (spanned : IsSpanned lower upper) (isNumber : upper.isNaN = false)
    (less : level lower < level upper) (parts : part ≤ partOther) : level first ≤ level second := by
  rcases spanned.cases isNumber less with
    ⟨least, valued, highest⟩ | ⟨least, greatest, valued, valuedUpper, ordered, within⟩
  · rw [level_of_infinity (other.endless least valued.level_eq highest)]
    exact le_top
  · have result := bridge.near least greatest valued.level_eq valuedUpper.level_eq within
    have resultOther := other.near least greatest valued.level_eq valuedUpper.level_eq within
    have width := nearest_nonneg (sub_nonneg.mpr ordered.le)
    have steps := nearest_mono (mul_le_mul_of_nonneg_right parts width)
    rw [result.level_eq, resultOther.level_eq]
    exact value_le_value.mpr (nearest_mono (add_le_add_left steps least))

end Results

section Interpolating

variable {lower upper fraction : Float} {part : ℚ}

/-- Nothing is computed where the rank is whole or the neighbours are equal. -/
theorem interpolate_eq_lower (isNumberLower : lower.isNaN = false)
    (isNumberUpper : upper.isNaN = false) (valued : HasValue fraction part)
    (settled : part = 0 ∨ level lower = level upper) :
    interpolate lower upper fraction = lower := by
  unfold interpolate
  rw [if_pos]
  rw [Bool.or_eq_true, valued.beq_iff hasValue_zero, beq_iff_level isNumberLower isNumberUpper]
  exact settled

theorem interpolate_eq_bridge (isNumberLower : lower.isNaN = false)
    (isNumberUpper : upper.isNaN = false) (valued : HasValue fraction part) (proper : part ≠ 0)
    (apart : level lower ≠ level upper) :
    interpolate lower upper fraction = fraction * (upper - lower) + lower := by
  unfold interpolate
  rw [if_neg]
  rw [Bool.or_eq_true, valued.beq_iff hasValue_zero, beq_iff_level isNumberLower isNumberUpper]
  exact not_or_intro proper apart

end Interpolating

end BenchmarkReport.Statistics
