/-
This file lists the shapes of which a drawing is made.
-/

import BenchmarkReport.Plot.Area

namespace BenchmarkReport.Plot

/-- The part of a line of text that stands at its position, from left to right. -/
inductive HorizontalAnchor
  | start
  | middle
  | stop
  deriving DecidableEq, Repr

/-- The part of a line of text that stands at its position, from top to bottom. -/
inductive VerticalAnchor
  | top
  | center
  | bottom
  deriving DecidableEq, Repr

/-- A text may be turned around its position. -/
inductive Turn
  | upright
  | quarterRight
  | quarterLeft
  deriving DecidableEq, Repr

/-- A line of text on a drawing. The size is that of its font. -/
structure Caption where
  content : List Char
  position : Pixel
  size : Int
  horizontal : HorizontalAnchor
  vertical : VerticalAnchor
  turn : Turn := .upright
  deriving DecidableEq, Repr

/-- The lines of a grid show through, the light ones more than the bold ones. -/
inductive Weight
  | light
  | bold
  deriving DecidableEq, Repr

inductive Element
  | background (width height : Int)
  | gridLine (weight : Weight) (first second : Pixel)
  | stroke (first second : Pixel)
  | caption (caption : Caption)
  | dot (center : Pixel)
  deriving DecidableEq, Repr

def Element.isCaption : Element → Bool
  | .caption _ => true
  | _ => false

/-- The elements of a drawing are drawn in their order. -/
structure Drawing where
  width : Nat
  height : Nat
  elements : List Element

end BenchmarkReport.Plot
