/-
This file shows that the names of the axes change nothing in the document of a plot but the contents
of the elements that show them.
-/

import BenchmarkReport.Proofs.Plot.Entities
import BenchmarkReport.Proofs.Plot.Order

namespace BenchmarkReport.Plot

open Markup Text

inductive Axis
  | horizontal
  | vertical
  deriving DecidableEq, Repr

/-- The axis that is described on a side of the plot. -/
def Side.axis : Side → Axis
  | .top | .bottom => .horizontal
  | .left | .right => .vertical

def Axis.label (axis : Axis) (xLabel yLabel : String) : List Char :=
  match axis with
  | .horizontal => xLabel.toList
  | .vertical => yLabel.toList

/-- A part of a document stands in it whatever the axes are called, or is the element that shows the
name of an axis. -/
inductive Part
  | constant (text : List Char)
  | description (axis : Axis) (attributes : List Attribute)

namespace Part

/-- The name of an axis stands in its element on a line of its own. -/
def text (xLabel yLabel : String) : Part → List Char
  | .constant text => text
  | .description axis attributes =>
    tag "text" attributes .later ++ '\n' :: escape (axis.label xLabel yLabel) ++
      '\n' :: closingTag "text" ++ ['\n']

def axis? : Part → Option Axis
  | .constant _ => none
  | .description axis _ => some axis

/-- The tags of a part. The name of an axis has none. -/
def tags : Part → List (List Char)
  | .constant text => Markup.tags text
  | .description _ attributes => [tagInner "text" attributes .later, '/' :: "text".toList]

def ofElement (element : Element) : List Part :=
  element.lines.map fun line => .constant (line ++ ['\n'])

end Part

section Sides

/-- The sides with an area for labels, in the order in which they are drawn. -/
def Layout.describedSides (layout : Layout) : List (Side × Area) :=
  Side.all.filterMap fun side => (layout.labelArea? side).map (side, ·)

theorem onSides_eq (chart : Chart) (draw : Side → Area → List Element) :
    chart.onSides draw = chart.layout.describedSides.flatMap fun side => draw side.1 side.2 := by
  unfold Chart.onSides Layout.describedSides
  rw [List.filterMap_eq_flatMap_toList, List.flatMap_assoc]
  congr 1
  funext side
  cases chart.layout.labelArea? side <;> simp

/-- On a canvas with room for a plot there is an area on the left and one below. -/
theorem describedSides_ofSize {width height : ℕ} (wide : 104 < width) (tall : 72 < height)
    (fitsWidth : width < 2 ^ 31 + 16) (fitsHeight : height < 2 ^ 31 + 16) :
    (Layout.ofSize width height).describedSides =
      [(.left, ⟨⟨16, 88⟩, ⟨16, height - 56⟩⟩),
        (.bottom, ⟨⟨88, width - 16⟩, ⟨height - 56, height - 16⟩⟩)] := by
  have columns := @columns_divided width height wide fitsWidth
  have rows := @rows_divided width height tall fitsHeight
  have top : (Layout.ofSize width height).labelArea? .top = none := by
    simp [Layout.labelArea?, Layout.labelArea, Area.isEmpty, Span.length, columns, rows]
  have left : (Layout.ofSize width height).labelArea? .left =
      some ⟨⟨16, 88⟩, ⟨16, height - 56⟩⟩ := by
    simp [Layout.labelArea?, Layout.labelArea, Area.isEmpty, Span.length, columns, rows]
    omega
  have bottom : (Layout.ofSize width height).labelArea? .bottom =
      some ⟨⟨88, width - 16⟩, ⟨height - 56, height - 16⟩⟩ := by
    simp [Layout.labelArea?, Layout.labelArea, Area.isEmpty, Span.length, columns, rows]
    omega
  have right : (Layout.ofSize width height).labelArea? .right = none := by
    simp [Layout.labelArea?, Layout.labelArea, Area.isEmpty, Span.length, columns, rows]
  simp [Layout.describedSides, Side.all, top, left, bottom, right]

end Sides

/-- The same points on the same canvas, under other names. -/
def ScatterPlot.titled (plot : ScatterPlot) (xLabel yLabel : String) : ScatterPlot :=
  { plot with xLabel, yLabel }

section Drawings

variable (plot : ScatterPlot)

/-- The element that names the axis of a side. Its place and its font do not depend on the name. -/
def Chart.descriptionPart (chart : Chart) (side : Side) (area : Area) : Part :=
  .description side.axis (chart.description "" "" side area).attributes

/-- A drawing without the names of the axes is the same for all of them. Whether there is one does
not depend on them either. -/
theorem drawing?_titled : (∀ xLabel yLabel, (plot.titled xLabel yLabel).drawing? = none) ∨
    ∃ front back, ∀ xLabel yLabel, (plot.titled xLabel yLabel).drawing? =
      some ⟨plot.width, plot.height, front ++ ((Chart.ofPlot plot).onSides fun side area =>
        [.caption ((Chart.ofPlot plot).description xLabel yLabel side area)]) ++ back⟩ := by
  have chart (xLabel yLabel : String) :
      Chart.ofPlot (plot.titled xLabel yLabel) = Chart.ofPlot plot := rfl
  unfold ScatterPlot.drawing?
  simp only [chart, Option.bind_eq_bind]
  cases (Chart.ofPlot plot).xRange.ticks? lightLimit with
  | none => exact .inl fun _ _ => rfl
  | some xLight =>
  cases (Chart.ofPlot plot).yRange.ticks? lightLimit with
  | none => exact .inl fun _ _ => rfl
  | some yLight =>
  cases (Chart.ofPlot plot).xRange.ticks? boldLimit with
  | none => exact .inl fun _ _ => rfl
  | some xBold =>
  cases (Chart.ofPlot plot).yRange.ticks? boldLimit with
  | none => exact .inl fun _ _ => rfl
  | some yBold =>
  right
  let chart := Chart.ofPlot plot
  refine ⟨.background (wrapPixel plot.width) (wrapPixel plot.height) ::
      chart.gridLines .light xLight yLight,
    chart.gridLines .bold xBold yBold ++ chart.onSides (chart.axisElements xBold yBold) ++
      plot.finitePoints.map chart.dot, fun xLabel yLabel => ?_⟩
  simp only [Option.bind_some, List.append_assoc]
  rfl

end Drawings

section Parts

variable {xLabel yLabel : String}

theorem text_ofElement (element : Element) :
    (Part.ofElement element).flatMap (Part.text xLabel yLabel) = unlines element.lines := by
  unfold Part.ofElement
  rw [List.flatMap_map]
  rfl

theorem text_descriptionPart (chart : Chart) (side : Side) (area : Area) :
    (chart.descriptionPart side area).text xLabel yLabel =
      unlines (Element.caption (chart.description xLabel yLabel side area)).lines := by
  cases side <;> simp [Chart.descriptionPart, Chart.description, Part.text, Side.axis, Axis.label,
    Element.lines, unlines, Caption.attributes, Caption.turnAttributes]

/-- The tags of a part are found in its text, whatever follows it. -/
def Part.IsWhole (part : Part) : Prop :=
  ∀ xLabel yLabel rest,
    Markup.tags (part.text xLabel yLabel ++ rest) = part.tags ++ Markup.tags rest

theorem isWhole_constant {line : List Char} (closed : IsClosed line) :
    (Part.constant (line ++ ['\n'])).IsWhole := by
  intro _ _ rest
  have alone : Markup.tags (line ++ ['\n']) = Markup.tags line := by
    rw [closed]
    exact List.append_nil _
  change Markup.tags (line ++ ['\n'] ++ rest) = Markup.tags (line ++ ['\n']) ++ Markup.tags rest
  rw [alone, List.append_assoc, closed]
  rfl

theorem isWhole_descriptionPart (chart : Chart) (side : Side) (area : Area) :
    (chart.descriptionPart side area).IsWhole := by
  intro xLabel yLabel rest
  have bareName : IsBare "text".toList := by decide
  have behind (text : List Char) : Markup.tags ('\n' :: text) = Markup.tags text := rfl
  unfold Chart.descriptionPart Part.text Part.tags
  simp only [List.append_assoc, List.cons_append, List.nil_append]
  rw [tags_tag bareName (bare_captionAttributes _), behind, tags_bare (isBare_escape _).1, behind,
    tags_closingTag bareName, behind]

theorem tags_flatMap {parts : List Part} (whole : ∀ part ∈ parts, part.IsWhole) :
    Markup.tags (parts.flatMap (Part.text xLabel yLabel)) = parts.flatMap Part.tags := by
  induction parts with
  | nil => rfl
  | cons part others inductionHypothesis =>
      rw [List.flatMap_cons, List.flatMap_cons, whole part List.mem_cons_self,
        inductionHypothesis fun other member => whole other (List.mem_cons_of_mem _ member)]

end Parts

/-- The parts of the document of a plot whose other elements are known. -/
def ScatterPlot.parts (plot : ScatterPlot) (front back : List Element) : List Part :=
  let chart := Chart.ofPlot plot
  let around : Drawing := ⟨plot.width, plot.height, front ++ back⟩
  [.constant (around.openingTag ++ ['\n'])] ++ front.flatMap Part.ofElement ++
    chart.layout.describedSides.map (fun side => chart.descriptionPart side.1 side.2) ++
      back.flatMap Part.ofElement ++ [.constant (closingTag "svg" ++ ['\n'])]

section Documents

variable (plot : ScatterPlot) (front back : List Element)

theorem axes_parts : (plot.parts front back).filterMap Part.axis? =
    (Layout.ofSize plot.width plot.height).describedSides.map fun side => side.1.axis := by
  have none (elements : List Element) :
      (elements.flatMap Part.ofElement).filterMap Part.axis? = [] := by
    rw [List.filterMap_flatMap, List.flatMap_eq_nil_iff]
    intro element _
    simp [Part.ofElement, Part.axis?]
  have alone (text : List Char) : [Part.constant text].filterMap Part.axis? = [] := rfl
  unfold ScatterPlot.parts
  simp only [List.filterMap_append, none, alone, List.filterMap_map, List.append_nil,
    List.nil_append]
  rw [← List.filterMap_eq_map]
  rfl

theorem text_parts (xLabel yLabel : String) :
    (plot.parts front back).flatMap (Part.text xLabel yLabel) =
      (⟨plot.width, plot.height, front ++ ((Chart.ofPlot plot).onSides fun side area =>
        [.caption ((Chart.ofPlot plot).description xLabel yLabel side area)]) ++ back⟩ :
          Drawing).document := by
  have elements (list : List Element) :
      (list.flatMap Part.ofElement).flatMap (Part.text xLabel yLabel) =
        unlines (list.flatMap Element.lines) := by
    rw [List.flatMap_assoc]
    simp only [text_ofElement, unlines, List.flatMap_assoc]
  unfold Drawing.document ScatterPlot.parts
  rw [onSides_eq]
  simp only [List.flatMap_append, elements, List.flatMap_map, text_descriptionPart]
  simp [unlines, List.flatMap_assoc, Part.text, Drawing.openingTag]

theorem isWhole_parts : ∀ part ∈ plot.parts front back, part.IsWhole := by
  have elements (list : List Element) : ∀ part ∈ list.flatMap Part.ofElement, part.IsWhole := by
    intro part member
    obtain ⟨element, -, member⟩ := List.mem_flatMap.mp member
    obtain ⟨line, isLine, rfl⟩ := List.mem_map.mp member
    exact isWhole_constant ((shown element).closed line isLine)
  intro part member
  unfold ScatterPlot.parts at member
  simp only [List.mem_append, List.mem_singleton, List.mem_map] at member
  rcases member with (((rfl | inFront) | ⟨side, -, rfl⟩) | inBack) | rfl
  · exact isWhole_constant (Drawing.isClosed_openingTag _).1
  · exact elements front part inFront
  · exact isWhole_descriptionPart _ _ _
  · exact elements back part inBack
  · exact isWhole_constant (isClosed_closingTag (by decide)).2

/-- The names of the axes neither break nor change the drawing. Whether there is one does not depend
on them, and its document is made of parts that are the same for all names: only the contents of the
elements that describe the axes are others. These elements are the ones of the label areas, one for
each axis on a canvas with room for a plot. Such a content has no bracket and no ampersand of its
own, and gives back the name. -/
theorem document_axisNames :
    (∀ label : String, IsContentOf label.toList (escape label.toList)) ∧
    ((∀ xLabel yLabel, (plot.titled xLabel yLabel).drawing? = none) ∨
      ∃ parts : List Part,
        (parts.filterMap Part.axis? =
          (Layout.ofSize plot.width plot.height).describedSides.map fun side => side.1.axis) ∧
        (104 < plot.width ∧ plot.width < 2 ^ 31 + 16 ∧ 72 < plot.height ∧
          plot.height < 2 ^ 31 + 16 → parts.filterMap Part.axis? = [.vertical, .horizontal]) ∧
        ∀ xLabel yLabel, ∃ drawing, (plot.titled xLabel yLabel).drawing? = some drawing ∧
          drawing.document = parts.flatMap (Part.text xLabel yLabel) ∧
          tags drawing.document = parts.flatMap Part.tags) := by
  refine ⟨fun label => isContentOf_escape label.toList, ?_⟩
  rcases drawing?_titled plot with none | ⟨front, back, drawn⟩
  · exact .inl none
  · have axes := axes_parts plot front back
    refine .inr ⟨plot.parts front back, axes, ?_, fun xLabel yLabel => ?_⟩
    · rintro ⟨wide, fitsWidth, tall, fitsHeight⟩
      rw [axes, describedSides_ofSize wide tall fitsWidth fitsHeight]
      rfl
    · refine ⟨_, drawn xLabel yLabel, (text_parts plot front back xLabel yLabel).symm, ?_⟩
      rw [← text_parts, tags_flatMap (isWhole_parts plot front back)]

end Documents

end BenchmarkReport.Plot
