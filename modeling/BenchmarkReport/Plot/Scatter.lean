/-
This file pairs the values of two columns of a table to the points of a plot.
-/

import BenchmarkReport.Plot.Area
import BenchmarkReport.Plot.Format
import BenchmarkReport.Table

namespace BenchmarkReport.Plot

/-- A plot has one point for each pair of values and a size in pixels. -/
structure ScatterPlot where
  xLabel : String
  yLabel : String
  points : List (Float × Float)
  width : Nat := defaultWidth
  height : Nat := defaultHeight

namespace ScatterPlot

/-- The points of two columns. The names of the columns describe the axes. -/
def ofTable (table : Table) (xName yName : String) : Except PlotError ScatterPlot := do
  let xValues ← (table.numeric xName).mapError .table
  let yValues ← (table.numeric yName).mapError .table
  return { xLabel := xName, yLabel := yName, points := xValues.zip yValues }

def withSize (plot : ScatterPlot) (width height : Nat) : ScatterPlot :=
  { plot with width, height }

/-- Only a point with two finite coordinates has a place on the plot. -/
def isDrawable (point : Float × Float) : Bool :=
  point.1.isFinite && point.2.isFinite

def finitePoints (plot : ScatterPlot) : List (Float × Float) :=
  plot.points.filter isDrawable

/-- The font that belongs to the program is damaged. -/
def loadFont : Except PlotError Unit :=
  .error .font

/-- The format is checked before the font is loaded, and nothing is written without a font. -/
def save (_plot : ScatterPlot) (path : String) : Except PlotError PlotFormat := do
  let format ← PlotFormat.ofPath path
  loadFont
  return format

theorem save_isError (plot : ScatterPlot) (path : String) :
    ∃ error, plot.save path = .error error := by
  unfold save
  cases PlotFormat.ofPath path with
  | error error => exact ⟨error, rfl⟩
  | ok format => exact ⟨.font, rfl⟩

end ScatterPlot

end BenchmarkReport.Plot
