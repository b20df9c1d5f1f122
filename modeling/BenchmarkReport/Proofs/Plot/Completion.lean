/-
This file says when the drawing of a plot ends. It does when no value is too great beside the width
of the range that holds the values, and it does not when this width is infinite.
-/

import BenchmarkReport.Proofs.Plot.EndlessRanges
import BenchmarkReport.Proofs.Plot.Order
import BenchmarkReport.Proofs.Plot.UsableRanges

namespace BenchmarkReport.Plot

open Number

/-- No value is too great beside the distance of the least and the greatest one, or beside one when
all values are equal. -/
def IsModerate (values : List Float) : Prop :=
  ∀ least greatest, IsExtent values least greatest →
    max |least| |greatest| ≤ overflow / 2 ^ 11 ∧
      max |least| |greatest| ≤ 2 ^ 38 * if least = greatest then 1 else greatest - least

/-- The search for the ticks of a range ends with ticks that rise. Unless the ends of the range are
so close that one tick is enough, the refinement of the step ends with a positive one, whose ticks
go on until the end of the range is passed. -/
def AxisRange.HasTicks (range : AxisRange) (limit : ℕ) : Prop :=
  ∃ ticks, range.ticks? limit = some ticks ∧ ticks.Pairwise (· < ·) ∧
    (¬ range.IsClose → ∃ step,
      TickStep.settle? limit range decadeFuel (.initial limit range) = some step ∧
        0 < step.scale ∧ range.IsReached step ticks)

section Ranges

variable {values : List Float} {range : AxisRange} {least greatest bound exact : ℚ} {limit : ℕ}

theorem isBroad_ofValues_nil : IsBroad (.ofValues []) 0 1 1 := by
  rw [AxisRange.ofValues_nil]
  have limit := two_pow_le_overflow
  refine ⟨hasValue_zero, hasValue_unit, ?_, ?_, ?_, ?_⟩
  · norm_num
  · norm_num
  · norm_num
  · linarith

/-- The halves around a single value are rounded to doubles close to them. -/
theorem AxisRange.Spans.exists_isBroad_of_eq (spans : range.Spans exact exact)
    (small : |exact| ≤ 2 ^ 38) :
    ∃ first last bound, IsBroad range first last bound := by
  obtain ⟨start, stop⟩ := spans.finite (AxisRange.nearest_sub_self_lt exact)
  rw [AxisRange.margin, if_pos rfl] at start stop
  obtain ⟨below, above⟩ := abs_le.mp small
  obtain ⟨first, valuedFirst, errorFirst⟩ := start.near
    (abs_le.mpr ⟨by linarith, by linarith⟩ : |exact - 1 / 2| ≤ 2 ^ 39) (leastNormal_le_pow 39)
    (pow_le_overflow (by decide))
  obtain ⟨last, valuedLast, errorLast⟩ := stop.near
    (abs_le.mpr ⟨by linarith, by linarith⟩ : |exact + 1 / 2| ≤ 2 ^ 39) (leastNormal_le_pow 39)
    (pow_le_overflow (by decide))
  have nearFirst := abs_le.mp errorFirst
  have nearLast := abs_le.mp errorLast
  have limit := two_pow_le_overflow
  refine ⟨first, last, 2 ^ 38 + 1, valuedFirst, valuedLast, abs_le.mpr ⟨?_, ?_⟩,
    abs_le.mpr ⟨?_, ?_⟩, ?_, ?_⟩
  all_goals linarith

/-- The ends of a range with padding are at most twice as far from zero as the values. -/
theorem AxisRange.Spans.exists_isBroad_of_lt (spans : range.Spans least greatest)
    (apart : least < greatest) (doubleFirst : IsDouble least) (doubleLast : IsDouble greatest)
    (double : IsDouble bound) (withinFirst : |least| ≤ bound) (withinLast : |greatest| ≤ bound)
    (small : bound ≤ overflow / 2 ^ 11) (broad : bound ≤ 2 ^ 38 * (greatest - least)) :
    ∃ first last bound, IsBroad range first last bound := by
  have positive := overflow_pos
  have nonnegative := AxisRange.margin_nonneg apart.le
  obtain ⟨belowFirst, aboveFirst⟩ := abs_le.mp withinFirst
  obtain ⟨belowLast, aboveLast⟩ := abs_le.mp withinLast
  -- The bound is a double, and so is twice the bound: no rounding leads beyond either.
  have width : |nearest (greatest - least)| ≤ 2 * bound :=
    abs_nearest_le double.twice (abs_le.mpr ⟨by linarith, by linarith⟩)
  have room : |AxisRange.margin least greatest| ≤ bound := by
    rw [AxisRange.margin, if_neg apart.ne, nearest_twentieth]
    obtain ⟨below, above⟩ := abs_le.mp width
    exact abs_nearest_le double (abs_le.mpr ⟨by linarith, by linarith⟩)
  obtain ⟨-, roomLe⟩ := abs_le.mp room
  have far (exact : ℚ) (below : -(2 * bound) ≤ exact) (above : exact ≤ 2 * bound) :
      |nearest exact| ≤ 2 * bound ∧ |nearest exact| < overflow := by
    have near := abs_nearest_le double.twice (abs_le.mpr ⟨below, above⟩)
    exact ⟨near, by linarith⟩
  obtain ⟨nearFirst, finiteFirst⟩ := far (least - AxisRange.margin least greatest)
    (by linarith) (by linarith)
  obtain ⟨nearLast, finiteLast⟩ := far (greatest + AxisRange.margin least greatest)
    (by linarith) (by linarith)
  have below := nearest_mono (sub_le_self least nonnegative)
  have above := nearest_mono (le_add_of_nonneg_right nonnegative : greatest ≤ _)
  rw [nearest_of_isDouble doubleFirst] at below
  rw [nearest_of_isDouble doubleLast] at above
  obtain ⟨start, stop⟩ := spans.finite (by linarith [(abs_le.mp width).2])
  exact ⟨_, _, 2 * bound, start.finite finiteFirst, stop.finite finiteLast, nearFirst, nearLast,
    by linarith, by linarith⟩

/-- The range of moderate values is broad. -/
theorem exists_isBroad_ofValues (finite : ∀ value ∈ values, value.isFinite = true)
    (moderate : IsModerate values) :
    ∃ first last bound, IsBroad (.ofValues values) first last bound := by
  rcases eq_or_ne values [] with rfl | some
  · exact ⟨0, 1, 1, isBroad_ofValues_nil⟩
  · obtain ⟨least, greatest, isExtent, valuedFirst, valuedLast⟩ := exists_isExtent finite some
    obtain ⟨small, broad⟩ := moderate least greatest isExtent
    have spans := AxisRange.spans_ofValues finite isExtent
    rcases isExtent.ordered.eq_or_lt with rfl | apart
    · rw [if_pos rfl, mul_one, max_self] at broad
      exact spans.exists_isBroad_of_eq broad
    · rw [if_neg apart.ne] at broad
      have double : IsDouble (max |least| |greatest|) := by
        rcases max_choice |least| |greatest| with same | same <;> rw [same]
        · exact valuedFirst.isDouble.abs
        · exact valuedLast.isDouble.abs
      exact spans.exists_isBroad_of_lt apart valuedFirst.isDouble valuedLast.isDouble double
        (le_max_left _ _) (le_max_right _ _) small broad

/-- The search for the ticks of moderate values ends. -/
theorem hasTicks_ofValues (finite : ∀ value ∈ values, value.isFinite = true)
    (moderate : IsModerate values) (limitLeast : 11 ≤ limit) (limitLe : limit ≤ 110) :
    (AxisRange.ofValues values).HasTicks limit := by
  obtain ⟨first, last, bound, broad⟩ := exists_isBroad_ofValues finite moderate
  by_cases close : (AxisRange.ofValues values).IsClose
  · exact ⟨_, ticks?_of_isClose close, List.pairwise_singleton _ _, absurd close⟩
  · obtain ⟨step, ticks, ended, positive, found, rising, reached⟩ :=
      broad.exists_ticks close limitLeast limitLe
    exact ⟨ticks, found, rising, fun _ => ⟨step, ended, positive, reached⟩⟩

/-- A range of finite values is endless unless its width is finite. -/
theorem isEndless_ofValues (finite : ∀ value ∈ values, value.isFinite = true)
    (infinite : ((AxisRange.ofValues values).stop - (AxisRange.ofValues values).start).isFinite =
      false) : (AxisRange.ofValues values).IsEndless := by
  rcases eq_or_ne values [] with rfl | some
  · rw [AxisRange.ofValues_nil] at infinite
    exact absurd infinite (by decide +kernel)
  · obtain ⟨value, member⟩ := List.exists_mem_of_ne_nil values some
    obtain ⟨exact, valued⟩ := hasValue_of_isFinite (finite value member)
    exact (covers_ofValues finite member valued).isEndless infinite

/-- The least and the greatest value decide. -/
theorem IsExtent.isModerate (isExtent : IsExtent values least greatest)
    (small : max |least| |greatest| ≤ overflow / 2 ^ 11)
    (broad : max |least| |greatest| ≤ 2 ^ 38 * if least = greatest then 1 else greatest - least) :
    IsModerate values := by
  intro leastOther greatestOther other
  obtain ⟨rfl, rfl⟩ := isExtent.unique other
  exact ⟨small, broad⟩

theorem isExtent_pair {first second : Float} (valuedFirst : HasValue first least)
    (valuedSecond : HasValue second greatest) (ordered : least ≤ greatest) :
    IsExtent [first, second] least greatest where
  leastMember := ⟨first, List.mem_cons_self, valuedFirst⟩
  greatestMember := ⟨second, List.mem_cons_of_mem _ List.mem_cons_self, valuedSecond⟩
  bounds := by
    intro value member exact valued
    rw [List.mem_pair] at member
    rcases member with rfl | rfl
    · rw [valued.unique valuedFirst]
      exact ⟨le_rfl, ordered⟩
    · rw [valued.unique valuedSecond]
      exact ⟨ordered, le_rfl⟩

end Ranges

namespace ScatterPlot

variable {plot : ScatterPlot}

/-- A plot is drawn just when each search for ticks ends. -/
theorem drawing?_isSome_iff : (∃ drawing, plot.drawing? = some drawing) ↔
    ∀ range ∈ [(Chart.ofPlot plot).xRange, (Chart.ofPlot plot).yRange],
      ∀ limit ∈ [lightLimit, boldLimit], ∃ ticks, range.ticks? limit = some ticks := by
  simp only [List.mem_cons, List.not_mem_nil, or_false, forall_eq_or_imp, forall_eq]
  unfold drawing?
  simp only [Option.bind_eq_bind, Option.bind_eq_some_iff]
  constructor
  · rintro ⟨-, xLight, xLightFound, yLight, yLightFound, xBold, xBoldFound, yBold, yBoldFound, -⟩
    exact ⟨⟨⟨xLight, xLightFound⟩, xBold, xBoldFound⟩, ⟨yLight, yLightFound⟩, yBold, yBoldFound⟩
  · rintro ⟨⟨⟨xLight, xLightFound⟩, xBold, xBoldFound⟩, ⟨yLight, yLightFound⟩, yBold, yBoldFound⟩
    exact ⟨_, xLight, xLightFound, yLight, yLightFound, xBold, xBoldFound, yBold, yBoldFound, rfl⟩

theorem isFinite_fst : ∀ value ∈ plot.finitePoints.map Prod.fst, value.isFinite = true :=
  isFinite_coordinate plot fun _ drawable => (Bool.and_eq_true_iff.mp drawable).1

theorem isFinite_snd : ∀ value ∈ plot.finitePoints.map Prod.snd, value.isFinite = true :=
  isFinite_coordinate plot fun _ drawable => (Bool.and_eq_true_iff.mp drawable).2

section Endless

variable {range : AxisRange}
  (member : range ∈ [(Chart.ofPlot plot).xRange, (Chart.ofPlot plot).yRange])
include member

/-- The range of an axis is endless unless its width is finite. -/
theorem isEndless_of_infinite (infinite : (range.stop - range.start).isFinite = false) :
    range.IsEndless := by
  rcases List.mem_pair.mp member with rfl | rfl
  · exact isEndless_ofValues isFinite_fst infinite
  · exact isEndless_ofValues isFinite_snd infinite

/-- An endless range on either axis keeps the plot from being drawn. -/
theorem drawing?_eq_none (endless : range.IsEndless) : plot.drawing? = none := by
  rw [Option.eq_none_iff_forall_ne_some]
  intro drawing drawn
  obtain ⟨ticks, found⟩ := drawing?_isSome_iff.mp ⟨drawing, drawn⟩ range member lightLimit
    List.mem_cons_self
  exact Option.some_ne_none ticks (found.symm.trans endless.ticks?_eq_none)

end Endless

/-- The drawing of a plot ends when the coordinates of its points are moderate on both axes: the
refinement of the step ends, the step is positive, and each tick is greater than the one before,
until the end of the range is passed.
When the width of a range is infinite, the refinement goes on for ever. The size of the canvas does
not matter. -/
theorem drawing_completes (plot : ScatterPlot) :
    let chart := Chart.ofPlot plot
    let xValues := plot.finitePoints.map Prod.fst
    let yValues := plot.finitePoints.map Prod.snd
    (IsModerate xValues → ∀ limit ∈ [lightLimit, boldLimit], chart.xRange.HasTicks limit) ∧
    (IsModerate yValues → ∀ limit ∈ [lightLimit, boldLimit], chart.yRange.HasTicks limit) ∧
    (IsModerate xValues → IsModerate yValues → ∃ drawing, plot.drawing? = some drawing) ∧
    (∀ range ∈ [chart.xRange, chart.yRange], (range.stop - range.start).isFinite = false →
      (∀ limit fuel, TickStep.settle? limit range fuel (.initial limit range) = none) ∧
        plot.drawing? = none) := by
  intro chart xValues yValues
  have limits : ∀ limit ∈ [lightLimit, boldLimit], 11 ≤ limit ∧ limit ≤ 110 := by decide
  have xTicks (moderate : IsModerate xValues) :
      ∀ limit ∈ [lightLimit, boldLimit], chart.xRange.HasTicks limit := fun limit member =>
    hasTicks_ofValues isFinite_fst moderate (limits limit member).1 (limits limit member).2
  have yTicks (moderate : IsModerate yValues) :
      ∀ limit ∈ [lightLimit, boldLimit], chart.yRange.HasTicks limit := fun limit member =>
    hasTicks_ofValues isFinite_snd moderate (limits limit member).1 (limits limit member).2
  refine ⟨xTicks, yTicks, fun moderateX moderateY => ?_, fun range member infinite => ?_⟩
  · apply drawing?_isSome_iff.mpr
    intro range member limit isLimit
    rcases List.mem_pair.mp member with rfl | rfl
    · obtain ⟨ticks, found, -⟩ := xTicks moderateX limit isLimit
      exact ⟨ticks, found⟩
    · obtain ⟨ticks, found, -⟩ := yTicks moderateY limit isLimit
      exact ⟨ticks, found⟩
  · have endless := isEndless_of_infinite member infinite
    exact ⟨endless.settle?_eq_none, drawing?_eq_none member endless⟩

end ScatterPlot

/-- Two points whose distance is too great for a double. -/
def tallPlot : ScatterPlot where
  xLabel := "x"
  yLabel := "y"
  points := [(1, -1.7e308), (2, 1.7e308)]

theorem risingPlot_completes :
    IsModerate (risingPlot.finitePoints.map Prod.fst) ∧
    IsModerate (risingPlot.finitePoints.map Prod.snd) ∧
    (∃ drawing, risingPlot.drawing? = some drawing) ∧
    ((Chart.ofPlot tallPlot).yRange.stop - (Chart.ofPlot tallPlot).yRange.start).isFinite = false ∧
    tallPlot.drawing? = none := by
  have points : risingPlot.finitePoints = [(1, 2000), (2, 3600)] := by decide +kernel
  have least : HasValue 2000 2000 := hasValue_literal 2000 (by decide)
  have greatest : HasValue 3600 3600 := hasValue_literal 3600 (by decide)
  have xModerate : IsModerate (risingPlot.finitePoints.map Prod.fst) := by
    rw [points]
    have limit := two_pow_le_overflow
    refine (isExtent_pair hasValue_unit (hasValue_literal 2 (by decide))
      (by norm_num)).isModerate ?_ ?_
    · norm_num
      linarith
    · norm_num
  have yModerate : IsModerate (risingPlot.finitePoints.map Prod.snd) := by
    rw [points]
    have limit := two_pow_le_overflow
    refine (isExtent_pair least greatest (by norm_num)).isModerate ?_ ?_
    · norm_num
      linarith
    · norm_num
  have infinite : ((Chart.ofPlot tallPlot).yRange.stop -
      (Chart.ofPlot tallPlot).yRange.start).isFinite = false := by decide +kernel
  obtain ⟨-, -, drawn, -⟩ := ScatterPlot.drawing_completes risingPlot
  obtain ⟨-, -, -, stuck⟩ := ScatterPlot.drawing_completes tallPlot
  exact ⟨xModerate, yModerate, drawn xModerate yModerate, infinite,
    (stuck _ (by simp) infinite).2⟩

/-- A single value of 2 ^ 50, at which a quarter lies between two doubles. -/
def crowdedPlot : ScatterPlot where
  xLabel := "x"
  yLabel := "y"
  points := [(1125899906842624, 1)]
  width := 200
  height := 150

/-- Around a single value of 2 ^ 50 the ticks are closer to each other than the doubles, so that
some of them come twice. The refinement never ends for two points that are too far apart. -/
theorem crowdedPlot_repeats : crowdedPlot.finitePoints = crowdedPlot.points ∧
    (∃ ticks, (Chart.ofPlot crowdedPlot).xRange.ticks? boldLimit = some ticks ∧
      ¬ ticks.Pairwise (· < ·)) ∧
    tallPlot.finitePoints = tallPlot.points ∧
    (∀ limit fuel, TickStep.settle? limit (Chart.ofPlot tallPlot).yRange fuel
      (.initial limit (Chart.ofPlot tallPlot).yRange) = none) ∧
    tallPlot.drawing? = none := by
  have repeated : ((Chart.ofPlot crowdedPlot).xRange.ticks? boldLimit).any
      (fun ticks => ¬ ticks.Pairwise (· < ·)) = true := by decide +kernel
  have infinite : ((Chart.ofPlot tallPlot).yRange.stop -
      (Chart.ofPlot tallPlot).yRange.start).isFinite = false := by decide +kernel
  have member : (Chart.ofPlot tallPlot).yRange ∈
      [(Chart.ofPlot tallPlot).xRange, (Chart.ofPlot tallPlot).yRange] :=
    List.mem_cons_of_mem _ List.mem_cons_self
  have endless := ScatterPlot.isEndless_of_infinite member infinite
  have pointsCrowded : crowdedPlot.finitePoints = crowdedPlot.points := by decide +kernel
  have pointsTall : tallPlot.finitePoints = tallPlot.points := by decide +kernel
  have stuck := ScatterPlot.drawing?_eq_none member endless
  refine ⟨pointsCrowded, ?_, pointsTall, endless.settle?_eq_none, stuck⟩
  cases found : (Chart.ofPlot crowdedPlot).xRange.ticks? boldLimit with
  | none =>
      rw [found] at repeated
      exact absurd repeated Bool.false_ne_true
  | some ticks =>
      rw [found, Option.any_some, decide_eq_true_iff] at repeated
      exact ⟨ticks, rfl, repeated⟩

end BenchmarkReport.Plot
