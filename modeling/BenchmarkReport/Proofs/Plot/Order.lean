/-
This file shows that the dots of a plot stand within its area and in the order of the points.
-/

import BenchmarkReport.Proofs.Plot.Marks
import BenchmarkReport.Proofs.Plot.Positions

namespace BenchmarkReport.Plot

open Number

/-- The pixel at which a point is drawn. -/
def Chart.center (chart : Chart) (point : Float × Float) : Pixel :=
  chart.area.clamp (chart.pixel point)

section Areas

/-- A position at the start of a side leaves nothing before it. -/
theorem Span.divide_start (side : Span) {second : Int} (above : side.start < second)
    (below : second ≤ side.stop) : side.divide side.start second =
      ⟨⟨side.start, side.start⟩, ⟨side.start, second⟩, ⟨second, side.stop⟩⟩ := by
  have first : insertSorted side.start [second] = [side.start, second] := by
    simp [insertSorted, above]
  have stop : insertSorted side.stop [side.start, second] = [side.start, second, side.stop] := by
    rw [insertSorted_of_le (by omega), insertSorted_of_le below]
    rfl
  have start : insertSorted side.start [side.start, second, side.stop] =
      [side.start, side.start, second, side.stop] := by
    simp [insertSorted, above]
  simp [divide, insertSorted, first, stop, start]

variable {width height : ℕ}

/-- The columns of a canvas: the labels on the left, the plot, and nothing on the right. -/
theorem columns_divided (wide : 104 < width) (fits : width < 2 ^ 31 + 16) :
    (Layout.ofSize width height).columns =
      ⟨⟨16, 88⟩, ⟨88, width - 16⟩, ⟨width - 16, width - 16⟩⟩ := by
  have limit := coordinate_limit
  have right : wrapPixel (width - 16) = width - 16 := wrapPixel_of_small (by omega) (by omega)
  have columns : (⟨16, width - 16⟩ : Span).divide (16 + 72) (width - 16) =
      ⟨⟨16, 16 + 72⟩, ⟨16 + 72, width - 16⟩, ⟨width - 16, width - 16⟩⟩ :=
    Span.divide_ordered _ (by decide : (16 : ℤ) < 16 + 72) (by omega) le_rfl
  unfold Layout.ofSize margin verticalLabelWidth
  dsimp only
  rw [right, columns]
  rfl

/-- The rows of a canvas: nothing at the top, the plot, and the labels below. -/
theorem rows_divided (tall : 72 < height) (fits : height < 2 ^ 31 + 16) :
    (Layout.ofSize width height).rows =
      ⟨⟨16, 16⟩, ⟨16, height - 56⟩, ⟨height - 56, height - 16⟩⟩ := by
  have limit := coordinate_limit
  have bottom : wrapPixel (height - 16) = height - 16 := wrapPixel_of_small (by omega) (by omega)
  have above : wrapPixel (height - 16 - 40) = height - 56 := by
    rw [wrapPixel_of_small (by omega) (by omega)]
    ring
  have rows : (⟨16, height - 16⟩ : Span).divide 16 (height - 56) =
      ⟨⟨16, 16⟩, ⟨16, height - 56⟩, ⟨height - 56, height - 16⟩⟩ :=
    Span.divide_start ⟨16, height - 16⟩ (by omega : (16 : ℤ) < height - 56)
      (by omega : (height - 56 : ℤ) ≤ height - 16)
  unfold Layout.ofSize margin horizontalLabelHeight
  dsimp only
  rw [bottom, above, rows]

/-- The columns of a plot are those of the canvas less its margin and the labels on the left. -/
theorem columns_ofSize (wide : 104 < width) (fits : width < 2 ^ 31 + 16) :
    (Layout.ofSize width height).plotArea.horizontal = ⟨88, width - 16⟩ := by
  unfold Layout.plotArea
  rw [columns_divided wide fits]

/-- The rows of a plot are those of the canvas less its margin and the labels below. -/
theorem rows_ofSize (tall : 72 < height) (fits : height < 2 ^ 31 + 16) :
    (Layout.ofSize width height).plotArea.vertical = ⟨16, height - 56⟩ := by
  unfold Layout.plotArea
  rw [rows_divided tall fits]

end Areas

section Centers

variable (plot : ScatterPlot)

theorem isFinite_coordinate {coordinate : Float × Float → Float}
    (finite : ∀ point, ScatterPlot.isDrawable point = true → (coordinate point).isFinite = true) :
    ∀ value ∈ plot.finitePoints.map coordinate, value.isFinite = true := by
  intro value isValue
  obtain ⟨source, isSource, rfl⟩ := List.mem_map.mp isValue
  exact finite source (List.mem_filter.mp isSource).2

/-- The range of an axis covers the coordinates of all points that are drawn. -/
theorem covers_coordinate {coordinate : Float × Float → Float}
    (finite : ∀ point, ScatterPlot.isDrawable point = true → (coordinate point).isFinite = true)
    {point : Float × Float} (member : point ∈ plot.finitePoints) :
    ∃ exact, HasValue (coordinate point) exact ∧
      (AxisRange.ofValues (plot.finitePoints.map coordinate)).Covers exact := by
  have allFinite := isFinite_coordinate plot finite
  have isValue : coordinate point ∈ plot.finitePoints.map coordinate := List.mem_map_of_mem member
  obtain ⟨exact, valued⟩ := hasValue_of_isFinite (allFinite (coordinate point) isValue)
  exact ⟨exact, valued, covers_ofValues allFinite isValue valued⟩

/-- The dots stand within the columns of the plot, and no point with a greater first value stands
further to the left. -/
theorem center_x_faithful (wide : 104 < plot.width) (fits : plot.width < 2 ^ 31 + 16)
    {first : Float × Float} (isFirst : first ∈ plot.finitePoints) :
    (88 ≤ ((Chart.ofPlot plot).center first).x ∧
      ((Chart.ofPlot plot).center first).x ≤ plot.width - 16) ∧
    ∀ second ∈ plot.finitePoints, first.1 ≤ second.1 →
      ((Chart.ofPlot plot).center first).x ≤ ((Chart.ofPlot plot).center second).x := by
  have columns : (Chart.ofPlot plot).area.horizontal = ⟨88, plot.width - 16⟩ :=
    columns_ofSize wide fits
  have left : (Chart.ofPlot plot).area.horizontal.start = 88 := by rw [columns]
  have right : (Chart.ofPlot plot).area.horizontal.stop = plot.width - 16 := by rw [columns]
  have rightmost : (Chart.ofPlot plot).area.horizontal.last = plot.width - 17 := by
    rw [Span.last, right]
    ring
  constructor
  · have bounds := Span.clamp_bounds (Chart.ofPlot plot).area.horizontal (by omega)
      ((Chart.ofPlot plot).pixel first).x
    rwa [left, right] at bounds
  · intro second isSecond ordered
    have finite (point : Float × Float) (drawable : ScatterPlot.isDrawable point = true) :
        point.1.isFinite = true := (Bool.and_eq_true_iff.mp drawable).1
    obtain ⟨exact, valued, covers⟩ := covers_coordinate plot finite isFirst
    obtain ⟨exactOther, valuedOther, coversOther⟩ := covers_coordinate plot finite isSecond
    apply Span.clamp_mono
    exact pixel_mono valued valuedOther covers coversOther
      ((valued.le_iff valuedOther).mp ordered) (by omega) (by omega) (by omega)

/-- The dots stand within the rows of the plot, and no point with a greater second value stands
further down. -/
theorem center_y_faithful (tall : 72 < plot.height) (fits : plot.height < 2 ^ 31 + 16)
    {first : Float × Float} (isFirst : first ∈ plot.finitePoints) :
    (16 ≤ ((Chart.ofPlot plot).center first).y ∧
      ((Chart.ofPlot plot).center first).y ≤ plot.height - 56) ∧
    ∀ second ∈ plot.finitePoints, first.2 ≤ second.2 →
      ((Chart.ofPlot plot).center second).y ≤ ((Chart.ofPlot plot).center first).y := by
  have rows : (Chart.ofPlot plot).area.vertical = ⟨16, plot.height - 56⟩ := rows_ofSize tall fits
  have top : (Chart.ofPlot plot).area.vertical.start = 16 := by rw [rows]
  have bottom : (Chart.ofPlot plot).area.vertical.stop = plot.height - 56 := by rw [rows]
  have lowest : (Chart.ofPlot plot).area.vertical.last = plot.height - 57 := by
    rw [Span.last, bottom]
    ring
  constructor
  · have bounds := Span.clamp_bounds (Chart.ofPlot plot).area.vertical (by omega)
      ((Chart.ofPlot plot).pixel first).y
    rwa [top, bottom] at bounds
  · intro second isSecond ordered
    have finite (point : Float × Float) (drawable : ScatterPlot.isDrawable point = true) :
        point.2.isFinite = true := (Bool.and_eq_true_iff.mp drawable).2
    obtain ⟨exact, valued, covers⟩ := covers_coordinate plot finite isFirst
    obtain ⟨exactOther, valuedOther, coversOther⟩ := covers_coordinate plot finite isSecond
    apply Span.clamp_mono
    exact pixel_antitone valued valuedOther covers coversOther
      ((valued.le_iff valuedOther).mp ordered) (by omega) (by omega) (by omega)

/-- The centers of the dots are faithful to the order of the points: each of them lies within the
area of the plot, edges included, no point with a greater first value stands further to the left,
and none with a greater second value stands further down. Each side of the canvas has to have a
place among the signed coordinates. -/
theorem centers_faithful (wide : 104 < plot.width) (tall : 72 < plot.height) :
    let center := (Chart.ofPlot plot).center
    (∀ drawing, plot.drawing? = some drawing →
      drawing.centers = plot.finitePoints.map center) ∧
    (plot.width < 2 ^ 31 + 16 → ∀ first ∈ plot.finitePoints,
      (88 ≤ (center first).x ∧ (center first).x ≤ plot.width - 16) ∧
      ∀ second ∈ plot.finitePoints, first.1 ≤ second.1 → (center first).x ≤ (center second).x) ∧
    (plot.height < 2 ^ 31 + 16 → ∀ first ∈ plot.finitePoints,
      (16 ≤ (center first).y ∧ (center first).y ≤ plot.height - 56) ∧
      ∀ second ∈ plot.finitePoints, first.2 ≤ second.2 → (center second).y ≤ (center first).y) := by
  refine ⟨fun drawing drawn => centers_of_drawing drawn, ?_, ?_⟩
  · intro fits first isFirst
    exact center_x_faithful plot wide fits isFirst
  · intro fits first isFirst
    exact center_y_faithful plot tall fits isFirst

end Centers

/-- Two points, the second of which has the greater values. -/
def risingPlot : ScatterPlot where
  xLabel := "x"
  yLabel := "y"
  points := [(1, 2000), (2, 3600)]

theorem risingPlot_centers : 104 < risingPlot.width ∧ 72 < risingPlot.height ∧
    risingPlot.width < 2 ^ 31 + 16 ∧ risingPlot.height < 2 ^ 31 + 16 ∧
    ((Chart.ofPlot risingPlot).center (1, 2000)).x ≤
      ((Chart.ofPlot risingPlot).center (2, 3600)).x ∧
    ((Chart.ofPlot risingPlot).center (2, 3600)).y ≤
      ((Chart.ofPlot risingPlot).center (1, 2000)).y := by
  have finite : risingPlot.finitePoints = [(1, 2000), (2, 3600)] := by decide +kernel
  have isFirst : ((1, 2000) : Float × Float) ∈ risingPlot.finitePoints := by
    rw [finite]
    exact List.mem_cons_self
  have isSecond : ((2, 3600) : Float × Float) ∈ risingPlot.finitePoints := by
    rw [finite]
    exact List.mem_cons_of_mem _ List.mem_cons_self
  obtain ⟨-, columns, rows⟩ := centers_faithful risingPlot (by decide) (by decide)
  have toTheRight := (columns (by decide) (1, 2000) isFirst).2 (2, 3600) isSecond
  have upwards := (rows (by decide) (1, 2000) isFirst).2 (2, 3600) isSecond
  exact ⟨by decide, by decide, by decide, by decide, toTheRight (by decide +kernel),
    upwards (by decide +kernel)⟩

/-- Neither side of the canvas has a place among the signed coordinates. -/
def hugePlot : ScatterPlot := coarsePlot.withSize 4294967295 4294967295

/-- The sides of a canvas that is too great start over at their other ends, so that the area of the
plot lies to the left of the canvas and above it. -/
theorem hugePlot_displaced : 104 < hugePlot.width ∧ 72 < hugePlot.height ∧
    ∃ drawing, hugePlot.drawing? = some drawing ∧ ∃ center ∈ drawing.centers,
      ¬(88 ≤ center.x ∧ center.x ≤ hugePlot.width - 16) ∧
      ¬(16 ≤ center.y ∧ center.y ≤ hugePlot.height - 56) := by
  have some : hugePlot.drawing?.isSome = true := by decide +kernel
  obtain ⟨drawing, drawn⟩ := Option.isSome_iff_exists.mp some
  have finite : hugePlot.finitePoints =
      [(coarseValue, coarseValue), (coarseValue, coarseValue)] := by decide +kernel
  have outside : (Chart.ofPlot hugePlot).area.clamp
      ((Chart.ofPlot hugePlot).pixel (coarseValue, coarseValue)) = ⟨16, -16⟩ := by decide +kernel
  refine ⟨by decide, by decide, drawing, drawn, ⟨16, -16⟩, ?_, by decide, by decide⟩
  rw [centers_of_drawing drawn, finite, List.map_cons, outside]
  exact List.mem_cons_self

end BenchmarkReport.Plot
