/-
This file says how far the computed multiples of a step lie from the ends of a range. The range has
room for ticks when its ends are not too far from zero beside its width.
-/

import BenchmarkReport.Plot.Tick
import BenchmarkReport.Proofs.Number.Scientific

namespace BenchmarkReport.Plot

open Number

/-- The ends of a range lie within a bound that its width makes good, up to a factor that leaves the
doubles some bits for the ticks. The bound is far from the greatest double. -/
structure IsBroad (range : AxisRange) (least greatest bound : ℚ) : Prop where
  start : HasValue range.start least
  stop : HasValue range.stop greatest
  startWithin : |least| ≤ bound
  stopWithin : |greatest| ≤ bound
  broad : bound ≤ 2 ^ 39 * (greatest - least)
  small : bound ≤ overflow / 2 ^ 10

/-- A broad range has room for ticks when it is far from the least double. -/
structure HasRoom (range : AxisRange) (least greatest bound : ℚ) : Prop
    extends IsBroad range least greatest bound where
  wide : 1 ≤ 2 ^ 60 * (greatest - least)

/-- A result of an operation on numbers of a range is off by this much at most. -/
def slackWithin (bound : ℚ) : ℚ := bound / 2 ^ 48

/-- A step that is neither too small nor too great for the ticks of a range. -/
structure IsFitting (least greatest : ℚ) (step : Float) (scale : ℚ) : Prop where
  valued : HasValue step scale
  fine : greatest - least ≤ 7500 * scale
  coarse : scale ≤ 5 * (greatest - least)

namespace HasRoom

variable {range : AxisRange} {number step : Float} {least greatest bound exact scale : ℚ}

/-- The slack is small beside the width, and the width is not great beside the bound. -/
theorem sizes (room : HasRoom range least greatest bound) :
    0 < greatest - least ∧ greatest - least ≤ 2 * bound ∧ 0 < slackWithin bound ∧
      512 * slackWithin bound ≤ greatest - least := by
  have wide := room.wide
  have broad := room.broad
  have start := abs_le.mp room.startWithin
  have stop := abs_le.mp room.stopWithin
  have width : 0 < greatest - least := by
    by_contra none
    linarith
  unfold slackWithin
  refine ⟨width, ?_, ?_, ?_⟩ <;> linarith

/-- A result that is not too great beside the bound is off by the slack at most. -/
theorem near (room : HasRoom range least greatest bound) (rounded : IsRounded exact number)
    (below : -(32 * bound) ≤ exact) (above : exact ≤ 32 * bound) :
    ∃ value, HasValue number value ∧ exact - slackWithin bound ≤ value ∧
      value ≤ exact + slackWithin bound := by
  have wide := room.wide
  have small := room.small
  obtain ⟨-, width, -⟩ := room.sizes
  obtain ⟨value, valued, error⟩ := rounded.near (abs_le.mpr ⟨below, above⟩)
    (leastNormal_le_inv.trans (by linarith)) (by linarith)
  have unit : slackWithin bound = 32 * bound / 2 ^ 53 := by
    unfold slackWithin
    ring
  rw [← unit, abs_le] at error
  exact ⟨value, valued, by linarith, by linarith⟩

/-- The quotient of a number and a step leaves some bits for its fraction. -/
theorem exists_quotient (room : HasRoom range least greatest bound)
    (fitting : IsFitting least greatest step scale) (valued : HasValue number exact)
    (within : |exact| ≤ bound + 6 * (greatest - least)) :
    ∃ quotient, HasValue (number / step) quotient ∧ |quotient| < 2 ^ 52 ∧
      |quotient * scale - exact| ≤ slackWithin bound := by
  have broad := room.broad
  have fine := fitting.fine
  have coarse := fitting.coarse
  obtain ⟨width, widthLe, -⟩ := room.sizes
  have positive : 0 < scale := by linarith
  have size : |exact / scale| ≤ (bound + 6 * (greatest - least)) / scale := by
    rw [abs_div, abs_of_pos positive]
    exact div_le_div_of_nonneg_right within positive.le
  have lower : 1 / 10 ≤ (bound + 6 * (greatest - least)) / scale := by
    rw [le_div_iff₀ positive]
    linarith
  have upper : (bound + 6 * (greatest - least)) / scale ≤ 4200000000000000 := by
    rw [div_le_iff₀ positive]
    linarith
  obtain ⟨quotient, valuedQuotient, error⟩ := (valued.div fitting.valued positive.ne').near size
    (leastNormal_le_inv.trans (by linarith))
    (upper.trans ((by norm_num : (4200000000000000 : ℚ) ≤ 2 ^ 52).trans
      (pow_le_overflow (by decide))))
  refine ⟨quotient, valuedQuotient, ?_, ?_⟩
  · have size := abs_le.mp size
    have near := abs_le.mp error
    rw [abs_lt]
    constructor <;> linarith
  · -- The error of the quotient is relative, so that the step cancels when it is multiplied back.
    have scaled : quotient * scale - exact = (quotient - exact / scale) * scale := by
      rw [sub_mul, div_mul_cancel₀ _ positive.ne']
    rw [scaled, abs_mul, abs_of_pos positive]
    calc |quotient - exact / scale| * scale
        ≤ (bound + 6 * (greatest - least)) / scale / 2 ^ 53 * scale :=
          mul_le_mul_of_nonneg_right error positive.le
      _ = (bound + 6 * (greatest - least)) / 2 ^ 53 := by
          field_simp
      _ ≤ slackWithin bound := by
          unfold slackWithin
          linarith

/-- The multiple of a step below a number, as it is computed. -/
theorem exists_multiple (room : HasRoom range least greatest bound)
    (fitting : IsFitting least greatest step scale) (valued : HasValue number exact)
    (within : |exact| ≤ bound + 6 * (greatest - least)) :
    ∃ multiple, HasValue (floor (number / step) * step) multiple ∧
      exact - scale - 2 * slackWithin bound ≤ multiple ∧
      multiple ≤ exact + 2 * slackWithin bound := by
  have fine := fitting.fine
  have coarse := fitting.coarse
  obtain ⟨width, widthLe, slackPos, slack⟩ := room.sizes
  obtain ⟨quotient, valuedQuotient, few, error⟩ := room.exists_quotient fitting valued within
  have near := abs_le.mp error
  have size := abs_le.mp within
  have positive : 0 < scale := by linarith
  have below := mul_le_mul_of_nonneg_right (Int.floor_le quotient) positive.le
  have above := mul_lt_mul_of_pos_right (Int.lt_floor_add_one quotient) positive
  obtain ⟨multiple, valuedMultiple, lower, upper⟩ :=
    room.near ((hasValue_floor valuedQuotient few).mul fitting.valued) (by linarith) (by linarith)
  exact ⟨multiple, valuedMultiple, by linarith, by linarith⟩

/-- The rest of a number over the multiples of a step is less than a step, but for the slack. -/
theorem exists_remainder (room : HasRoom range least greatest bound)
    (fitting : IsFitting least greatest step scale) (valued : HasValue number exact)
    (within : |exact| ≤ bound) :
    ∃ rest, HasValue (remainder number step) rest ∧ -(3 * slackWithin bound) ≤ rest ∧
      rest ≤ scale + 3 * slackWithin bound := by
  have fine := fitting.fine
  have coarse := fitting.coarse
  obtain ⟨width, widthLe, slackPos, slack⟩ := room.sizes
  have positive : 0 < scale := by linarith
  obtain ⟨multiple, valuedMultiple, below, above⟩ :=
    room.exists_multiple fitting valued (by linarith)
  obtain ⟨rest, valuedRest, lower, upper⟩ :=
    room.near (valued.sub valuedMultiple) (by linarith) (by linarith)
  unfold remainder
  rw [if_pos ((hasValue_zero.lt_iff fitting.valued).mpr positive)]
  dsimp only
  split
  · exact ⟨0, hasValue_zero, by linarith, by linarith⟩
  · exact ⟨rest, valuedRest, by linarith, by linarith⟩

theorem exists_firstMultiple (room : HasRoom range least greatest bound)
    (fitting : IsFitting least greatest step scale) :
    ∃ first, HasValue (range.firstMultiple step) first ∧ least - 5 * slackWithin bound ≤ first ∧
      first ≤ least + scale + 5 * slackWithin bound := by
  have fine := fitting.fine
  have coarse := fitting.coarse
  have size := abs_le.mp room.startWithin
  obtain ⟨width, widthLe, slackPos, slack⟩ := room.sizes
  obtain ⟨rest, valuedRest, restLeast, restGreatest⟩ :=
    room.exists_remainder fitting room.start room.startWithin
  obtain ⟨below, valuedBelow, lower, upper⟩ :=
    room.near (room.start.sub valuedRest) (by linarith) (by linarith)
  unfold AxisRange.firstMultiple
  dsimp only
  split
  · rename_i less
    have less := (valuedBelow.lt_iff room.start).mp less
    obtain ⟨first, valuedFirst, lowerFirst, upperFirst⟩ :=
      room.near (valuedBelow.add fitting.valued) (by linarith) (by linarith)
    exact ⟨first, valuedFirst, by linarith, by linarith⟩
  · rename_i notLess
    have notLess := not_lt.mp (fun less => notLess ((valuedBelow.lt_iff room.start).mpr less))
    exact ⟨below, valuedBelow, by linarith, by linarith⟩

theorem exists_lastMultiple (room : HasRoom range least greatest bound)
    (fitting : IsFitting least greatest step scale) :
    ∃ last, HasValue (range.lastMultiple step) last ∧
      greatest - scale - 4 * slackWithin bound ≤ last ∧
      last ≤ greatest + 4 * slackWithin bound := by
  have coarse := fitting.coarse
  have fine := fitting.fine
  have size := abs_le.mp room.stopWithin
  obtain ⟨width, widthLe, slackPos, slack⟩ := room.sizes
  obtain ⟨rest, valuedRest, restLeast, restGreatest⟩ :=
    room.exists_remainder fitting room.stop room.stopWithin
  obtain ⟨last, valuedLast, lower, upper⟩ :=
    room.near (room.stop.sub valuedRest) (by linarith) (by linarith)
  exact ⟨last, valuedLast, by linarith, by linarith⟩

end HasRoom

end BenchmarkReport.Plot
