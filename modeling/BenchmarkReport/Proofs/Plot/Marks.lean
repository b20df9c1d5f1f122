/-
This file shows that the document of a plot has one circle for each finite point and no other ones,
and that the other points leave no trace in it.
-/

import BenchmarkReport.Plot.Chart
import BenchmarkReport.Proofs.Plot.Markup

namespace BenchmarkReport.Plot

open Markup Number Text

/-- The circles have a radius of three pixels and are filled. -/
def circleStyle : List Char :=
  "\" r=\"3\" opacity=\"1\" fill=\"#000000\" stroke=\"none\" stroke-width=\"1\"/".toList

/-- The tag of the circle around a center. -/
def circleTag (center : Pixel) : List Char :=
  "circle cx=\"".toList ++ integerText center.x ++ "\" cy=\"".toList ++ integerText center.y ++
    circleStyle

/-- The center of an element that is a dot. -/
def Element.center? : Element → Option Pixel
  | .dot center => some center
  | _ => none

section Elements

theorem name_real (name : String) (value : Float) : (real name value).name = name := by
  unfold real
  split <;> rfl

theorem bare_captionAttributes (label : Caption) :
    ∀ known ∈ label.attributes.map Attribute.name, IsBare known.toList := by
  have names : label.attributes.map Attribute.name ⊆ ["x", "y", "dy", "text-anchor",
      "font-family", "font-size", "opacity", "fill", "transform"] := by
    unfold Caption.attributes Caption.turnAttributes
    cases label.turn.degrees? <;> simp [integer, constant, name_real]
  have bare : ∀ known ∈ ["x", "y", "dy", "text-anchor", "font-family", "font-size", "opacity",
      "fill", "transform"], IsBare known.toList := by decide
  exact fun known member => bare known (names member)

/-- The document shows an element with closed lines. A dot has the only tag of a circle. -/
structure Shown (element : Element) : Prop where
  closed : ∀ line ∈ element.lines, IsClosed line
  circles : element.lines.flatMap (tagsNamed "circle") =
    element.center?.toList.map circleTag

theorem text_integer (name : String) (value : Int) : (integer name value).text =
    ' ' :: name.toList ++ ['=', '"'] ++ integerText value ++ ['"'] := by
  rw [Attribute.text, integer, escape_integerText]

/-- A tag that closes itself, with two integers in front of its other attributes. -/
theorem tagInner_integers (name first second : String) (x y : Int) (others : List Attribute) :
    tagInner name (integer first x :: integer second y :: others) .own =
      (name.toList ++ ' ' :: first.toList ++ ['=', '"']) ++ integerText x ++
        ('"' :: ' ' :: second.toList ++ ['=', '"']) ++ integerText y ++
          '"' :: (others.flatMap Attribute.text ++ ['/']) := by
  simp [tagInner, text_integer]

theorem tagInner_circle (center : Pixel) :
    tagInner "circle" [integer "cx" center.x, integer "cy" center.y, integer "r" 3,
      constant "opacity" "1", constant "fill" "#000000", constant "stroke" "none",
      constant "stroke-width" "1"] .own = circleTag center := by
  have opening : "circle".toList ++ ' ' :: "cx".toList ++ ['=', '"'] =
      "circle cx=\"".toList := by decide
  have between : '"' :: ' ' :: "cy".toList ++ ['=', '"'] = "\" cy=\"".toList := by decide
  have style : '"' :: ([integer "r" 3, constant "opacity" "1", constant "fill" "#000000",
      constant "stroke" "none", constant "stroke-width" "1"].flatMap Attribute.text ++ ['/']) =
        circleStyle := by decide
  unfold circleTag
  rw [tagInner_integers, opening, between, style]

/-- An element whose only line is a tag of its own. -/
theorem shown_of_tag {element : Element} {name : String} {attributes : List Attribute}
    (written : element.lines = [tag name attributes .own])
    (known : name ∈ ["rect", "line", "polyline", "circle"])
    (names : ∀ known ∈ attributes.map Attribute.name, IsBare known.toList)
    (circles : (if name = "circle" then [tagInner name attributes .own] else []) =
      element.center?.toList.map circleTag) : Shown element := by
  have bare : ∀ name ∈ ["rect", "line", "polyline", "circle"], IsBare name.toList ∧
      ' ' ∉ name.toList ∧ '/' ∉ name.toList := by decide
  obtain ⟨bareName, plain⟩ := bare name known
  constructor
  · intro line member
    rw [written] at member
    obtain rfl := List.mem_singleton.mp member
    exact (isClosed_tag bareName names).2
  · rw [written, List.flatMap_singleton, tagsNamed_tag bareName plain names, circles]

theorem shown (element : Element) : Shown element := by
  cases element with
  | background width height =>
      exact shown_of_tag rfl (by decide) (by decide : ∀ known ∈ ["x", "y", "width", "height",
        "opacity", "fill", "stroke"], IsBare known.toList) rfl
  | gridLine weight first second =>
      exact shown_of_tag rfl (by decide) (by decide : ∀ known ∈ ["opacity", "stroke",
        "stroke-width", "x1", "y1", "x2", "y2"], IsBare known.toList) rfl
  | stroke first second =>
      exact shown_of_tag rfl (by decide) (by decide : ∀ known ∈ ["fill", "opacity", "stroke",
        "stroke-width", "points"], IsBare known.toList) rfl
  | caption label =>
      have bareText : IsBare "text".toList := by decide
      constructor
      · intro line member
        simp only [Element.lines, List.mem_cons, List.not_mem_nil, or_false] at member
        rcases member with rfl | rfl | rfl
        · exact (isClosed_tag bareText (bare_captionAttributes label)).2
        · exact (isClosed_escape _).2
        · exact (isClosed_closingTag bareText).2
      · simp only [Element.lines, List.flatMap_cons, List.flatMap_nil]
        rw [tagsNamed_tag bareText (by decide) (bare_captionAttributes label), tagsNamed_escape,
          tagsNamed_closingTag bareText (by decide), if_neg (by decide)]
        rfl
  | dot center =>
      have circles := congrArg (fun inner => [inner]) (tagInner_circle center)
      exact shown_of_tag rfl (by decide) (by decide : ∀ known ∈ ["cx", "cy", "r", "opacity",
        "fill", "stroke", "stroke-width"], IsBare known.toList) circles

end Elements

namespace Drawing

/-- The centers of the dots of a drawing, in the order in which they are drawn. -/
def centers (drawing : Drawing) : List Pixel :=
  drawing.elements.filterMap Element.center?

theorem isClosed_openingTag (drawing : Drawing) :
    IsClosed drawing.openingTag ∧ tagsNamed "circle" drawing.openingTag = [] := by
  have bareRoot : IsBare "svg".toList := by decide
  have names : ∀ known ∈ ["width", "height", "viewBox", "xmlns"], IsBare known.toList := by decide
  unfold openingTag
  constructor
  · exact (isClosed_tag bareRoot (by exact names)).2
  · rw [tagsNamed_tag bareRoot (by decide) (by exact names), if_neg (by decide)]

theorem isClosed_lines (drawing : Drawing) : ∀ line ∈ drawing.openingTag ::
    drawing.elements.flatMap Element.lines ++ [closingTag "svg"], IsClosed line := by
  intro line member
  rcases List.mem_append.mp member with front | last
  · rcases List.mem_cons.mp front with rfl | inside
    · exact (isClosed_openingTag drawing).1
    · obtain ⟨element, -, member⟩ := List.mem_flatMap.mp inside
      exact (shown element).closed line member
  · obtain rfl := List.mem_singleton.mp last
    exact (isClosed_closingTag (by decide)).2

/-- The document has the circles of the dots and no other ones. -/
theorem tagsNamed_document (drawing : Drawing) :
    tagsNamed "circle" drawing.document = drawing.centers.map circleTag := by
  have inside : (drawing.elements.flatMap Element.lines).flatMap (tagsNamed "circle") =
      drawing.centers.map circleTag := by
    unfold centers
    induction drawing.elements with
    | nil => rfl
    | cons element others inductionHypothesis =>
        rw [List.flatMap_cons, List.flatMap_append, (shown element).circles, inductionHypothesis,
          List.filterMap_cons]
        cases element.center? <;> rfl
  have noClosing : tagsNamed "circle" (closingTag "svg") = [] :=
    tagsNamed_closingTag (by decide) (by decide)
  rw [document, tagsNamed_unlines drawing.isClosed_lines, List.flatMap_append, List.flatMap_cons,
    (isClosed_openingTag drawing).2, List.flatMap_singleton, noClosing, List.nil_append,
    List.append_nil, inside]

end Drawing

section Drawings

variable {plot : ScatterPlot} {drawing : Drawing}

theorem filterMap_gridLines (chart : Chart) (weight : Weight) (xTicks yTicks : List Float) :
    (chart.gridLines weight xTicks yTicks).filterMap Element.center? = [] := by
  unfold Chart.gridLines
  simp [List.filterMap_append, List.filterMap_map, Function.comp_def, Element.center?]

theorem filterMap_onSides (chart : Chart) {draw : Side → Area → List Element}
    (noDots : ∀ side area, (draw side area).filterMap Element.center? = []) :
    (chart.onSides draw).filterMap Element.center? = [] := by
  unfold Chart.onSides
  rw [List.filterMap_flatMap, List.flatMap_eq_nil_iff]
  intro side _
  cases chart.layout.labelArea? side with
  | none => rfl
  | some area => exact noDots side area

theorem filterMap_tickElements (chart : Chart) (side : Side) (area : Area) (value : Float) :
    (chart.tickElements side area value).filterMap Element.center? = [] := by
  unfold Chart.tickElements
  dsimp only
  split
  · rfl
  · split
    · rfl
    · unfold Chart.tickStroke Chart.strokeWithin
      cases side <;> rfl

theorem filterMap_axisElements (chart : Chart) (xTicks yTicks : List Float) (side : Side)
    (area : Area) : (chart.axisElements xTicks yTicks side area).filterMap Element.center? = [] := by
  have line : (chart.axisLine side area).center? = none := rfl
  unfold Chart.axisElements
  rw [List.filterMap_cons, line, List.filterMap_flatMap]
  exact List.flatMap_eq_nil_iff.mpr fun value _ => filterMap_tickElements chart side area value

/-- The dots of a plot stand for its finite points, in their order. -/
theorem centers_of_drawing (drawn : plot.drawing? = some drawing) : drawing.centers =
    plot.finitePoints.map fun point =>
      (Chart.ofPlot plot).area.clamp ((Chart.ofPlot plot).pixel point) := by
  unfold ScatterPlot.drawing? at drawn
  simp only [Option.bind_eq_bind, Option.bind_eq_some_iff] at drawn
  obtain ⟨xLight, -, yLight, -, xBold, -, yBold, -, same⟩ := drawn
  obtain rfl := Option.some.inj same
  unfold Drawing.centers
  have names (chart : Chart) : (chart.onSides fun side area =>
      [.caption (chart.description plot.xLabel plot.yLabel side area)]).filterMap
        Element.center? = [] := filterMap_onSides chart fun _ _ => rfl
  have axes (chart : Chart) :
      (chart.onSides (chart.axisElements xBold yBold)).filterMap Element.center? = [] :=
    filterMap_onSides chart fun side area => filterMap_axisElements chart xBold yBold side area
  have background (width height : Int) : (Element.background width height).center? = none := rfl
  have dots (chart : Chart) : (plot.finitePoints.map chart.dot).filterMap Element.center? =
      plot.finitePoints.map fun point => chart.area.clamp (chart.pixel point) := by
    rw [List.filterMap_map, ← List.filterMap_eq_map]
    rfl
  simp only [List.filterMap_append, List.filterMap_cons, filterMap_gridLines, names, axes,
    background, dots, List.nil_append]

/-- The points that are not finite are left out from the start. -/
theorem drawing?_finitePoints (plot : ScatterPlot) :
    ({ plot with points := plot.finitePoints } : ScatterPlot).drawing? = plot.drawing? := by
  have same : ({ plot with points := plot.finitePoints } : ScatterPlot).finitePoints =
      plot.finitePoints := by
    unfold ScatterPlot.finitePoints
    rw [List.filter_filter]
    simp only [Bool.and_self]
  unfold ScatterPlot.drawing? Chart.ofPlot
  rw [same]

/-- The document of a plot has one circle for each point with two finite coordinates, in the order
of the points, and no other circle. The other points change nothing in it. -/
theorem document_marks (plot : ScatterPlot) (drawing : Drawing)
    (drawn : plot.drawing? = some drawing) :
    let finite := plot.points.filter fun point => point.1.isFinite && point.2.isFinite
    tagsNamed "circle" drawing.document = finite.map (fun point =>
        circleTag ((Chart.ofPlot plot).area.clamp ((Chart.ofPlot plot).pixel point))) ∧
      ∃ other, ({ plot with points := finite } : ScatterPlot).drawing? = some other ∧
        other.document = drawing.document := by
  intro finite
  constructor
  · rw [drawing.tagsNamed_document, centers_of_drawing drawn, List.map_map]
    rfl
  · exact ⟨drawing, (drawing?_finitePoints plot).trans drawn, rfl⟩

end Drawings

/-- Two to the power of 54. One half has no place beside it, so that its axis has a single tick. -/
def coarseValue : Float := .ofBits 0x4350000000000000

/-- A point that is given twice, with a point between that has no place. The name of the axis looks
like a circle. -/
def coarsePlot : ScatterPlot where
  xLabel := "threads"
  yLabel := "<circle r=\"3\"/>"
  points := [(coarseValue, coarseValue), (coarseValue, .ofBits 0x7ff8000000000000),
    (coarseValue, coarseValue)]
  width := 200
  height := 150

theorem coarsePlot_marks : ∃ drawing, coarsePlot.drawing? = some drawing ∧
    tagsNamed "circle" drawing.document = [circleTag ⟨88, 16⟩, circleTag ⟨88, 16⟩] := by
  have some : coarsePlot.drawing?.isSome = true := by decide +kernel
  obtain ⟨drawing, drawn⟩ := Option.isSome_iff_exists.mp some
  obtain ⟨marks, -⟩ := document_marks coarsePlot drawing drawn
  have finite : coarsePlot.points.filter (fun point => point.1.isFinite && point.2.isFinite) =
      [(coarseValue, coarseValue), (coarseValue, coarseValue)] := by decide +kernel
  have center : (Chart.ofPlot coarsePlot).area.clamp
      ((Chart.ofPlot coarsePlot).pixel (coarseValue, coarseValue)) = ⟨88, 16⟩ := by decide +kernel
  refine ⟨drawing, drawn, ?_⟩
  rw [marks, finite, List.map_cons, List.map_singleton, center]

end BenchmarkReport.Plot
