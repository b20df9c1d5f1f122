/-
This file proves that the refinement of a step never ends in a range whose width is infinite. Each
of its steps is infinite then, and no multiple of such a step can be found.
-/

import BenchmarkReport.Proofs.Plot.Ranges
import BenchmarkReport.Proofs.Plot.Ticks

namespace BenchmarkReport.Plot

open Number

/-- The distance of the ends is too great for a double, as it is when one of them is infinite. -/
structure AxisRange.IsEndless (range : AxisRange) : Prop where
  forwards : Extended.ofFloat (range.stop - range.start) = .infinity false
  backwards : Extended.ofFloat (range.start - range.stop) = .infinity true

section Steps

variable {range : AxisRange} {step : TickStep} {value scale divisor width : Float} {exact : ℚ}
  {limit : ℕ}

/-- There are no multiples of an infinite step, not even zero. -/
theorem remainder_infinity (infinite : Extended.ofFloat scale = .infinity false) :
    Extended.ofFloat (remainder value scale) = .nan := by
  -- The quotient is zero or no number, and neither can be multiplied with the step.
  have multiple : Extended.ofFloat (floor (value / scale) * scale) = .nan := by
    cases read : Extended.ofFloat value with
    | nan =>
        have quotient : Extended.ofFloat (value / scale) = .nan := nan_div read
        rw [floor_nan quotient]
        exact nan_mul quotient
    | infinity negative =>
        have quotient := infinity_div_infinity read infinite
        rw [floor_nan quotient]
        exact nan_mul quotient
    | finite binary =>
        have valued : HasValue value binary.value := ⟨binary, read, rfl⟩
        have below := hasValue_floor (valued.div_infinity infinite) (by norm_num)
        rw [Int.floor_zero, Int.cast_zero] at below
        exact below.zero_mul_infinity infinite
  have rest : Extended.ofFloat (value - floor (value / scale) * scale) = .nan := sub_nan multiple
  have apart : ¬ magnitude (value - floor (value / scale) * scale - scale) < closeness := by
    unfold magnitude
    rw [if_neg (not_nan_lt (nan_sub rest))]
    exact not_nan_lt (nan_sub rest)
  unfold remainder
  dsimp only
  rw [if_pos (hasValue_zero.lt_infinity infinite), if_neg apart]
  exact rest

/-- No ticks are counted for an infinite step. -/
theorem tickCount_infinity (infinite : Extended.ofFloat scale = .infinity false)
    (valued : HasValue divisor exact) (positive : 0 < exact) :
    TickStep.tickCount range scale divisor = 0 := by
  have divided := infinity_div infinite valued positive
  have last : Extended.ofFloat (range.lastMultiple (scale / divisor)) = .nan :=
    sub_nan (remainder_infinity divided)
  have count : Extended.ofFloat (1 + (range.lastMultiple (scale / divisor) -
      range.firstMultiple (scale / divisor)) / scale * divisor) = .nan :=
    add_nan (nan_mul (nan_div (nan_sub last)))
  unfold TickStep.tickCount
  dsimp only
  rw [round_nan count]
  exact toCount_nan count

theorem divisors_positive : ∀ divisor ∈ TickStep.divisors, ∃ exact, HasValue divisor exact ∧
    0 < exact := by
  intro divisor member
  simp only [TickStep.divisors, List.mem_cons, List.not_mem_nil, or_false] at member
  rcases member with rfl | rfl | rfl
  · exact ⟨2, hasValue_literal 2 (by decide), by norm_num⟩
  · exact ⟨5, hasValue_literal 5 (by decide), by norm_num⟩
  · exact ⟨10, hasValue_literal 10 (by decide), by norm_num⟩

/-- No division of an infinite step gives too many ticks. -/
theorem settledScale?_infinity {whole : Float} {divisors : List Float}
    (infinite : Extended.ofFloat whole = .infinity false)
    (positive : ∀ divisor ∈ divisors, ∃ exact, HasValue divisor exact ∧ 0 < exact) :
    TickStep.settledScale? limit range whole scale divisors = none := by
  induction divisors generalizing scale with
  | nil => rfl
  | cons divisor later inductionHypothesis =>
      rw [List.forall_mem_cons] at positive
      obtain ⟨⟨exact, valued, above⟩, others⟩ := positive
      unfold TickStep.settledScale?
      rw [tickCount_infinity infinite valued above, if_neg (Nat.not_lt_zero limit)]
      exact inductionHypothesis others

/-- An infinite step stays infinite however often it is divided. -/
theorem settle?_infinity (infinite : Extended.ofFloat step.scale = .infinity false) (fuel : ℕ) :
    TickStep.settle? limit range fuel step = none := by
  induction fuel generalizing step with
  | zero => rfl
  | succ fuel inductionHypothesis =>
      unfold TickStep.settle?
      rw [settledScale?_infinity infinite divisors_positive]
      exact inductionHypothesis (infinity_div infinite (hasValue_literal 10 (by decide))
        (by norm_num))

theorem decade_infinity (infinite : Extended.ofFloat width = .infinity false) :
    Extended.ofFloat (decade width) = .infinity false := by
  have logarithm : naturalLogarithm width = width := by
    unfold naturalLogarithm
    rw [infinite]
  have quotient := infinity_div infinite hasValue_logarithmOfTen (by positivity)
  unfold decade
  dsimp only
  rw [logarithm, floor_infinity quotient, quotient]
  exact quotient

end Steps

namespace AxisRange

variable {range : AxisRange} {exact : ℚ} {limit : ℕ}

/-- A range that covers some number is endless unless its width is finite. -/
theorem Covers.isEndless (covers : range.Covers exact)
    (infinite : (range.stop - range.start).isFinite = false) : range.IsEndless := by
  rcases covers.below with startInfinite | ⟨least, valuedStart, below⟩
  · rcases covers.above with stopInfinite | ⟨greatest, valuedStop, -⟩
    · exact ⟨infinity_sub_infinity stopInfinite startInfinite,
        infinity_sub_infinity startInfinite stopInfinite⟩
    · exact ⟨valuedStop.sub_infinity startInfinite, infinity_sub startInfinite valuedStop⟩
  · rcases covers.above with stopInfinite | ⟨greatest, valuedStop, above⟩
    · exact ⟨infinity_sub stopInfinite valuedStart, valuedStart.sub_infinity stopInfinite⟩
    · have width := valuedStop.sub valuedStart
      have great : overflow ≤ nearest (greatest - least) := by
        rw [← Bool.not_eq_true, width.isFinite_iff, abs_of_nonneg (nearest_nonneg (by linarith))]
          at infinite
        exact not_lt.mp infinite
      refine ⟨width.above great, (valuedStart.sub valuedStop).below ?_⟩
      rw [← neg_sub, nearest_neg]
      exact neg_le_neg great

namespace IsEndless

/-- The refinement starts with an infinite step, and so it never ends. -/
theorem settle?_eq_none (endless : range.IsEndless) (limit fuel : ℕ) :
    TickStep.settle? limit range fuel (.initial limit range) = none := by
  have infinite := decade_infinity endless.forwards
  apply settle?_infinity
  unfold TickStep.initial
  dsimp only
  split
  · exact infinity_mul infinite (hasValue_literal 10 (by decide)) (by norm_num)
  · exact infinite

theorem not_isClose (endless : range.IsEndless) : ¬ range.IsClose := by
  unfold IsClose magnitude
  rw [if_pos (hasValue_zero.infinity_lt endless.backwards)]
  exact not_infinity_lt (neg_infinity endless.backwards)

theorem ticks?_eq_none (endless : range.IsEndless) : range.ticks? limit = none := by
  refine (if_neg endless.not_isClose).trans ?_
  rw [endless.settle?_eq_none limit decadeFuel]
  rfl

end IsEndless

end AxisRange

end BenchmarkReport.Plot
