/-
This file writes the number that stands at a tick.
-/

import BenchmarkReport.Number.Decimal

namespace BenchmarkReport.Plot

open Number

/-- A label may differ from its value by less than this. -/
def labelTolerance : Float := 0.00001

/-- The value with the fewest decimal places that is close to the given one, and the number of its
places. The levels bound the places. -/
def shorten : Nat → Float → Float → Float × Nat
  | 0, value, _ => (value, 0)
  | levels + 1, value, tolerance =>
    let whole := floor value
    if 1 ≤ tolerance then (value, 0)
    else if value - whole < tolerance then (whole, 0)
    else if ceil value - value < tolerance then (ceil value, 0)
    else
      let (rest, places) := shorten levels ((value - whole) * 10) (tolerance * 10)
      (whole + rest / 10, places + 1)

/-- Each place makes the tolerance ten times as wide, so seven places make it wider than one. -/
def labelLevels : Nat := 8

/-- The digits of a value with a point and no zeros at the end. One place is written at least. -/
def placesText (places : Nat) (value : Float) : List Char :=
  let negative := value < 0
  let size := if negative then -value else value
  let whole := floor size
  let fraction := toCount (round ((size - whole) * Float.ofNat (tenPower places)))
  let sign := signText negative
  match Extended.ofFloat whole with
  | .finite exact =>
    if fraction = 0 || places = 0 then sign ++ fixedText 1 exact
    else
      let text := padZeros places (digits fraction)
      sign ++ digits exact.whole ++ '.' :: (text.reverse.dropWhile (· == '0')).reverse
  | .infinity _ => sign ++ "inf".toList
  | .nan => "NaN".toList

def labelText (value : Float) : List Char :=
  let (shortened, places) := shorten labelLevels value labelTolerance
  placesText places shortened

end BenchmarkReport.Plot
