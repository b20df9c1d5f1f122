/-
This file divides a canvas into the area of the plot and the areas of its labels.
-/

import BenchmarkReport.Number.Binary

namespace BenchmarkReport.Plot

open Number

/-- A coordinate has thirty-two bits and a sign. One that needs more starts over at the other
end. -/
def wrapPixel (value : Int) : Int :=
  value.bmod (twoPower 32)

structure Pixel where
  x : Int
  y : Int
  deriving DecidableEq, Repr

/-- The pixels from `start` to `stop` along one side, without `stop`. -/
structure Span where
  start : Int
  stop : Int
  deriving DecidableEq, Repr

namespace Span

def length (span : Span) : Int := span.stop - span.start

/-- The last pixel of a span. -/
def last (span : Span) : Int := span.stop - 1

/-- Half of the length lies before the middle. -/
def middle (span : Span) : Int := span.start + span.length / 2

/-- The nearest position of the span. Both of its ends count. -/
def clamp (span : Span) (position : Int) : Int :=
  min span.stop (max span.start position)

def contains (span : Span) (position : Int) : Bool :=
  span.start ≤ position && position ≤ span.last

theorem clamp_bounds (span : Span) (ordered : span.start ≤ span.stop) (position : Int) :
    span.start ≤ span.clamp position ∧ span.clamp position ≤ span.stop := by
  unfold clamp
  omega

theorem clamp_mono (span : Span) {first second : Int} (ordered : first ≤ second) :
    span.clamp first ≤ span.clamp second := by
  unfold clamp
  omega

end Span

/-- Three spans, each of which starts where the one before it stops. -/
structure Division where
  before : Span
  middle : Span
  after : Span

/-- An integer is inserted in front of the first greater one. -/
def insertSorted (value : Int) : List Int → List Int
  | [] => [value]
  | first :: others =>
    if value < first then value :: first :: others else first :: insertSorted value others

/-- A side is divided at two positions. The ends and the positions are taken in ascending order,
wherever they lie. -/
def Span.divide (side : Span) (first second : Int) : Division :=
  let positions := [side.start, side.stop, first, second].foldr insertSorted []
  let position (index : Nat) : Int := positions.getD index 0
  { before := ⟨position 0, position 1⟩
    middle := ⟨position 1, position 2⟩
    after := ⟨position 2, position 3⟩ }

structure Area where
  horizontal : Span
  vertical : Span
  deriving DecidableEq, Repr

namespace Area

def clamp (area : Area) (pixel : Pixel) : Pixel :=
  ⟨area.horizontal.clamp pixel.x, area.vertical.clamp pixel.y⟩

def isEmpty (area : Area) : Bool :=
  area.horizontal.length ≤ 0 || area.vertical.length ≤ 0

/-- The shorter side of an area. -/
def shorterSide (area : Area) : Int :=
  min area.horizontal.length area.vertical.length

/-- A share of the shorter side, but no more than a limit. -/
def share (area : Area) (portion : Float) (limit : Int) : Int :=
  min limit (toPixel (round (Float.ofInt area.shorterSide * portion)))

end Area

/-- The side of the plot on which an axis stands. -/
inductive Side
  | top
  | left
  | bottom
  | right
  deriving DecidableEq, Repr

/-- The sides in the order in which they are drawn. -/
def Side.all : List Side := [.top, .left, .bottom, .right]

/-- A canvas has this size unless another one is asked for. -/
def defaultWidth : Nat := 640

def defaultHeight : Nat := 480

/-- The margin of the canvas is left empty on all sides. -/
def margin : Int := 16

def horizontalLabelHeight : Int := 40

def verticalLabelWidth : Int := 72

/-- The two sides of a canvas are divided on their own. -/
structure Layout where
  columns : Division
  rows : Division

namespace Layout

def ofSize (width height : Nat) : Layout :=
  let horizontal : Span := ⟨margin, wrapPixel (width - margin)⟩
  let vertical : Span := ⟨margin, wrapPixel (height - margin)⟩
  { columns := horizontal.divide (horizontal.start + verticalLabelWidth) horizontal.stop
    rows := vertical.divide vertical.start (wrapPixel (vertical.stop - horizontalLabelHeight)) }

def plotArea (layout : Layout) : Area :=
  ⟨layout.columns.middle, layout.rows.middle⟩

def labelArea (layout : Layout) : Side → Area
  | .top => ⟨layout.columns.middle, layout.rows.before⟩
  | .left => ⟨layout.columns.before, layout.rows.middle⟩
  | .bottom => ⟨layout.columns.middle, layout.rows.after⟩
  | .right => ⟨layout.columns.after, layout.rows.middle⟩

/-- An empty area is not used. -/
def labelArea? (layout : Layout) (side : Side) : Option Area :=
  let area := layout.labelArea side
  if area.isEmpty then none else some area

end Layout

theorem wrapPixel_of_small {value : Int} (least : -twoPower 31 ≤ value)
    (greatest : value < twoPower 31) :
    wrapPixel value = value := by
  have doubled : twoPower 32 = 2 * twoPower 31 := twoPower_succ 31
  unfold wrapPixel
  exact Int.bmod_eq_of_le (by omega) (by omega)

theorem insertSorted_of_le {value first : Int} {others : List Int} (ordered : first ≤ value) :
    insertSorted value (first :: others) = first :: insertSorted value others := by
  simp [insertSorted, Int.not_lt.mpr ordered]

/-- Positions in order divide a side where they stand. -/
theorem Span.divide_ordered (side : Span) {first second : Int} (above : side.start < first)
    (between : first ≤ second) (below : second ≤ side.stop) :
    side.divide first second =
      ⟨⟨side.start, first⟩, ⟨first, second⟩, ⟨second, side.stop⟩⟩ := by
  have last : insertSorted side.stop [first, second] = [first, second, side.stop] := by
    rw [insertSorted_of_le (by omega), insertSorted_of_le (by omega)]
    rfl
  have start : insertSorted side.start [first, second, side.stop] =
      [side.start, first, second, side.stop] := by
    simp [insertSorted, above]
  have pair : insertSorted first [second] = [first, second] := by
    rcases Int.lt_or_eq_of_le between with apart | same
    · simp [insertSorted, apart]
    · simp [insertSorted, same]
  simp [divide, pair, last, start, insertSorted]

end BenchmarkReport.Plot
