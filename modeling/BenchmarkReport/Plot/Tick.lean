/-
This file chooses the values of an axis at which lines and labels stand.
-/

import BenchmarkReport.Number.Logarithm
import BenchmarkReport.Plot.Range

namespace BenchmarkReport.Plot

open Number

/-- Two numbers that are closer than this count as one. -/
def closeness : Float := 1 / Float.ofNat (twoPower fractionBits)

/-- The size of a number without its sign. -/
def magnitude (value : Float) : Float :=
  if value < 0 then -value else value

/-- The rest of a value over the multiples of a step. A rest of nearly a whole step is none. -/
def remainder (value step : Float) : Float :=
  let multiple := if 0 < step then floor (value / step) else ceil (value / step)
  let rest := value - multiple * step
  if magnitude (rest - step) < closeness then 0 else rest

namespace AxisRange

/-- The first multiple of a step that is not below the range. -/
def firstMultiple (range : AxisRange) (step : Float) : Float :=
  let below := range.start - remainder range.start step
  if below < range.start then below + step else below

/-- The last multiple of a step that is not above the range. -/
def lastMultiple (range : AxisRange) (step : Float) : Float :=
  range.stop - remainder range.stop step

end AxisRange

/-- The ticks are `scale` apart. Their offsets from the first one are rounded to multiples of the
granularity to find those that fall below it. -/
structure TickStep where
  scale : Float
  granularity : Float

namespace TickStep

/-- A step and its granularity made ten times as wide. -/
def coarser (step : TickStep) : TickStep :=
  ⟨step.scale * 10, step.granularity * 10⟩

def finer (step : TickStep) : TickStep :=
  ⟨step.scale / 10, step.granularity / 10⟩

/-- The decade of the width of the range is tried first, or the next one if it gives more than
`limit` ticks. -/
def initial (limit : Nat) (range : AxisRange) : TickStep :=
  let width := range.stop - range.start
  let scale := decade width
  let step : TickStep := ⟨scale, scale / 10⟩
  if limit < 1 + toCount (floor (width / scale)) then step.coarser else step

/-- The number of multiples in the range of a scale divided by a number. -/
def tickCount (range : AxisRange) (scale divisor : Float) : Nat :=
  let first := range.firstMultiple (scale / divisor)
  let last := range.lastMultiple (scale / divisor)
  toCount (round (1 + (last - first) / scale * divisor))

/-- A decade is divided in these ways. -/
def divisors : List Float := [2, 5, 10]

/-- The last scale before a division gives more than `limit` ticks. There is none when no division
does. -/
def settledScale? (limit : Nat) (range : AxisRange) (whole : Float) :
    Float → List Float → Option Float
  | _, [] => none
  | scale, divisor :: later =>
    if limit < tickCount range whole divisor then some scale
    else settledScale? limit range whole (whole / divisor) later

/-- The step is divided in decades until a division gives too many ticks. -/
def settle? (limit : Nat) (range : AxisRange) : Nat → TickStep → Option TickStep
  | 0, _ => none
  | fuel + 1, step =>
    match settledScale? limit range step.scale step.scale divisors with
    | some scale => some { step with scale }
    | none => settle? limit range fuel step.finer

/-- The ticks at offsets from a base, from the given offset up to the last tick. -/
def ticksFrom? (step : TickStep) (base last : Float) : Nat → Float → Option (List Float)
  | 0, _ => none
  | fuel + 1, offset =>
    if -closeness ≤ last - offset - base then
      let rounded := round (offset / step.granularity) * step.granularity
      let placed := if rounded < 0 then offset + step.granularity else offset
      (ticksFrom? step base last fuel (placed + step.scale)).map ((placed + base) :: ·)
    else some []

/-- The ticks of a step in a range. The base is a multiple of the granularity. -/
def ticks? (step : TickStep) (fuel : Nat) (range : AxisRange) : Option (List Float) :=
  let first := range.firstMultiple step.scale
  let base := floor (first / step.granularity) * step.granularity
  ticksFrom? step base (range.lastMultiple step.scale) fuel (first - base)

end TickStep

/-- Dividing a finite double by ten this often leaves zero. -/
def decadeFuel : Nat := 1000

/-- More ticks than this do not fit into the closeness around a range. -/
def tickFuel : Nat := 100000

/-- The ticks of a range, of which there are about `limit` at most. There are none to be had when
the search for them does not end. -/
def AxisRange.ticks? (limit : Nat) (range : AxisRange) : Option (List Float) :=
  if magnitude (range.start - range.stop) < closeness then some [range.start]
  else
    (TickStep.settle? limit range decadeFuel (.initial limit range)).bind
      (TickStep.ticks? · tickFuel range)

theorem TickStep.settle?_granularity_of_settled {limit fuel : Nat} {range : AxisRange}
    {step : TickStep} {scale : Float}
    (settled : settledScale? limit range step.scale step.scale divisors = some scale) :
    settle? limit range (fuel + 1) step = some ⟨scale, step.granularity⟩ := by
  simp [settle?, settled]

end BenchmarkReport.Plot
