/-
This file finds the range of an axis and places values of the range on pixels.
-/

import BenchmarkReport.Number.Binary
import BenchmarkReport.Plot.Area

namespace BenchmarkReport.Plot

open Number

/-- An axis shows the values from `start` to `stop`. -/
structure AxisRange where
  start : Float
  stop : Float

/-- The smaller of two numbers. A second value that is no number does not count. -/
def lesser (first second : Float) : Float :=
  if second < first then second else first

def greater (first second : Float) : Float :=
  if first < second then second else first

namespace AxisRange

/-- The least and the greatest value. Without values the least is the greater one. -/
def extent (values : List Float) : AxisRange :=
  values.foldl
    (fun extent value => ⟨lesser extent.start value, greater extent.stop value⟩)
    ⟨1 / 0, -1 / 0⟩

/-- The part of the extent that is added on either side. -/
def padding : Float := 0.05

/-- The extent of the values with some padding. A single value stands in the middle of a range of
width one. -/
def ofValues (values : List Float) : AxisRange :=
  let extent := extent values
  if extent.stop < extent.start then ⟨0, 1⟩
  else if extent.start == extent.stop then ⟨extent.start - 0.5, extent.stop + 0.5⟩
  else
    let added := (extent.stop - extent.start) * padding
    ⟨extent.start - added, extent.stop + added⟩

/-- The part of the way from the start to the stop at which a value lies. -/
def portion (range : AxisRange) (value : Float) : Float :=
  (value - range.start) / (range.stop - range.start)

/-- This much is added to a length in pixels before its fraction is cut off. -/
def pixelSlack : Float := 0.001

/-- The whole number of pixels in a part of the way from one pixel to another. -/
def pixelOffset (length : Int) (portion : Float) : Int :=
  let exact := Float.ofInt length * portion
  if 0 < length then toPixel (floor (exact + pixelSlack))
  else toPixel (ceil (exact - pixelSlack))

/-- The pixel of a value when the start of the range lies on the pixel `first` and the stop on the
pixel `last`. -/
def pixel (range : AxisRange) (first last : Int) (value : Float) : Int :=
  let portion := range.portion value
  let length := wrapPixel (last - first)
  if range.start == range.stop then length.tdiv 2
  else if last = first then last
  else if portion.isInf then
    if 0 < portion then last else first
  else wrapPixel (first + pixelOffset length portion)

theorem extent_append (values : List Float) (value : Float) :
    extent (values ++ [value]) =
      ⟨lesser (extent values).start value, greater (extent values).stop value⟩ := by
  simp [extent]

end AxisRange

end BenchmarkReport.Plot
