/-
This file draws a plot: its grid, its axes with their labels, and its points.
-/

import BenchmarkReport.Plot.Element
import BenchmarkReport.Plot.Label
import BenchmarkReport.Plot.Scatter
import BenchmarkReport.Plot.Tick

namespace BenchmarkReport.Plot

/-- Where a plot stands and which values it shows. -/
structure Chart where
  layout : Layout
  xRange : AxisRange
  yRange : AxisRange

namespace Chart

def ofPlot (plot : ScatterPlot) : Chart :=
  { layout := .ofSize plot.width plot.height
    xRange := .ofValues (plot.finitePoints.map Prod.fst)
    yRange := .ofValues (plot.finitePoints.map Prod.snd) }

def area (chart : Chart) : Area := chart.layout.plotArea

/-- Values grow to the right. -/
def xPixel (chart : Chart) (value : Float) : Int :=
  chart.xRange.pixel chart.area.horizontal.start chart.area.horizontal.last value

/-- Values grow upwards. -/
def yPixel (chart : Chart) (value : Float) : Int :=
  chart.yRange.pixel chart.area.vertical.last chart.area.vertical.start value

def pixel (chart : Chart) (point : Float × Float) : Pixel :=
  ⟨chart.xPixel point.1, chart.yPixel point.2⟩

/-- The font is smaller on a small plot. -/
def fontSize (chart : Chart) : Int := chart.area.share 0.12 12

/-- The length of the strokes at the ticks. There are none on a very small plot. -/
def tickLength (chart : Chart) : Int := chart.area.share 0.05 5

/-- The line across the plot at each tick of the horizontal axis, and at each tick of the vertical
one. -/
def gridLines (chart : Chart) (weight : Weight) (xTicks yTicks : List Float) : List Element :=
  let columns := chart.area.horizontal
  let rows := chart.area.vertical
  let upright (x : Int) : Element := .gridLine weight ⟨x, rows.last⟩ ⟨x, rows.start⟩
  let level (y : Int) : Element := .gridLine weight ⟨columns.start, y⟩ ⟨columns.last, y⟩
  xTicks.map (upright ∘ chart.xPixel) ++ yTicks.map (level ∘ chart.yPixel)

/-- The name of an axis stands at the outer edge of its area. -/
def description (chart : Chart) (xLabel yLabel : String) (side : Side) (area : Area) : Caption :=
  let size := chart.fontSize
  let columns := area.horizontal
  let rows := area.vertical
  match side with
  | .top => ⟨xLabel.toList, ⟨columns.middle, rows.start⟩, size, .middle, .top, .upright⟩
  | .left => ⟨yLabel.toList, ⟨columns.start, rows.middle⟩, size, .middle, .top, .quarterLeft⟩
  | .bottom => ⟨xLabel.toList, ⟨columns.middle, rows.stop⟩, size, .middle, .bottom, .upright⟩
  | .right => ⟨yLabel.toList, ⟨columns.stop, rows.middle⟩, size, .middle, .top, .quarterRight⟩

/-- A horizontal axis shows the first kind of ticks and a vertical one the second. -/
def sideTicks (side : Side) (xTicks yTicks : List Float) : List Float :=
  match side with
  | .top | .bottom => xTicks
  | .left | .right => yTicks

/-- The position of a value along the axis of a side. -/
def along (chart : Chart) (side : Side) (value : Float) : Int :=
  match side with
  | .top | .bottom => chart.xPixel value
  | .left | .right => chart.yPixel value

/-- The span of the plot along the axis of a side. -/
def axisSpan (chart : Chart) (side : Side) : Span :=
  match side with
  | .top | .bottom => chart.area.horizontal
  | .left | .right => chart.area.vertical

/-- The pixel at a distance from the axis and at a position along it. The axis stands on the pixels
of the area that are next to the plot. -/
def offAxis (side : Side) (area : Area) (distance position : Int) : Pixel :=
  match side with
  | .top => ⟨position, area.vertical.last - distance⟩
  | .left => ⟨area.horizontal.last - distance, position⟩
  | .bottom => ⟨position, area.vertical.start + distance⟩
  | .right => ⟨area.horizontal.start + distance, position⟩

/-- A stroke between two pixels, both brought into the area. -/
def strokeWithin (area : Area) (first second : Pixel) : Element :=
  .stroke (area.clamp first) (area.clamp second)

def axisLine (chart : Chart) (side : Side) (area : Area) : Element :=
  let span := chart.axisSpan side
  strokeWithin area (offAxis side area 0 span.start) (offAxis side area 0 span.last)

/-- The stroke at a tick. It starts further to the left or further up. -/
def tickStroke (chart : Chart) (side : Side) (area : Area) (position : Int) : Element :=
  let onAxis := offAxis side area 0 position
  let outside := offAxis side area chart.tickLength position
  match side with
  | .top | .left => strokeWithin area outside onAxis
  | .bottom | .right => strokeWithin area onAxis outside

/-- The number at a tick stands twice the length of a tick away from the plot. -/
def tickCaption (chart : Chart) (side : Side) (area : Area) (position : Int) (value : Float) :
    Caption :=
  let content := labelText value
  let distance := 2 * chart.tickLength
  let size := chart.fontSize
  match side with
  | .top => ⟨content, ⟨position, area.vertical.stop - distance⟩, size, .middle, .bottom, .upright⟩
  | .left => ⟨content, ⟨area.horizontal.stop - distance, position⟩, size, .stop, .center, .upright⟩
  | .bottom => ⟨content, ⟨position, area.vertical.start + distance⟩, size, .middle, .top, .upright⟩
  | .right =>
    ⟨content, ⟨area.horizontal.start + distance, position⟩, size, .start, .center, .upright⟩

/-- What is drawn at one tick. A tick beside the plot is left out. -/
def tickElements (chart : Chart) (side : Side) (area : Area) (value : Float) : List Element :=
  let position := chart.along side value
  if !(chart.axisSpan side).contains position then []
  else
    .caption (chart.tickCaption side area position value) ::
      if chart.tickLength = 0 then [] else [chart.tickStroke side area position]

/-- The line of an axis and its ticks. -/
def axisElements (chart : Chart) (xTicks yTicks : List Float) (side : Side) (area : Area) :
    List Element :=
  chart.axisLine side area ::
    (sideTicks side xTicks yTicks).flatMap (chart.tickElements side area)

/-- What is drawn on the sides that have an area for labels. -/
def onSides (chart : Chart) (draw : Side → Area → List Element) : List Element :=
  Side.all.flatMap fun side =>
    match chart.layout.labelArea? side with
    | none => []
    | some area => draw side area

/-- A point stands within the plot or on its edges. -/
def dot (chart : Chart) (point : Float × Float) : Element :=
  .dot (chart.area.clamp (chart.pixel point))

end Chart

/-- The greatest number of ticks with a bold line and a label. -/
def boldLimit : Nat := 11

/-- The greatest number of ticks with a light line. -/
def lightLimit : Nat := 110

namespace ScatterPlot

/-- The drawing of a plot. There is none when the search for its ticks does not end. -/
def drawing? (plot : ScatterPlot) : Option Drawing := do
  let chart := Chart.ofPlot plot
  let xLight ← chart.xRange.ticks? lightLimit
  let yLight ← chart.yRange.ticks? lightLimit
  let xBold ← chart.xRange.ticks? boldLimit
  let yBold ← chart.yRange.ticks? boldLimit
  return {
    width := plot.width
    height := plot.height
    elements :=
      .background (wrapPixel plot.width) (wrapPixel plot.height) ::
        chart.gridLines .light xLight yLight ++
        chart.onSides (fun side area =>
          [.caption (chart.description plot.xLabel plot.yLabel side area)]) ++
        chart.gridLines .bold xBold yBold ++
        chart.onSides (chart.axisElements xBold yBold) ++
        plot.finitePoints.map chart.dot }

end ScatterPlot

namespace Drawing

/-- A picture made of pixels needs the font for its texts. -/
def rasterize (drawing : Drawing) : Except PlotError Unit :=
  if drawing.elements.any Element.isCaption then
    .error (.drawing "backend error: Font loading error: FontUnavailable")
  else .ok ()

end Drawing

end BenchmarkReport.Plot
