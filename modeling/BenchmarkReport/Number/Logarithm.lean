/-
This file computes logarithms in exact whole numbers and finds the decade of a width.
-/

import BenchmarkReport.Number.Binary

namespace BenchmarkReport.Number

/-- Logarithms are whole numbers of units, and so many units make one. -/
def logarithmUnits : Nat := twoPower 128

/-- The terms `power / index` of a power series in which each power is the earlier one times
`factor`, a whole number of units. The indices are odd. -/
def oddSeries (factor : Int) : Nat → Int → Nat → Int
  | 0, _, _ => 0
  | terms + 1, power, index =>
    power / (index : Int) + oddSeries factor terms (power * factor / logarithmUnits) (index + 2)

/-- The logarithm of a positive quotient between one half and two, by the series for the area
tangent of `(numerator - denominator) / (numerator + denominator)`. -/
def seriesLogarithm (numerator denominator : Nat) : Int :=
  let ratio : Int :=
    ((numerator : Int) - denominator) * logarithmUnits / ((numerator : Int) + denominator)
  2 * oddSeries (ratio * ratio / logarithmUnits) 64 ratio 1

/-- The logarithm of a positive binary value in units. -/
def Binary.logarithm (value : Binary) : Int :=
  let bits := value.mantissa.log2
  seriesLogarithm value.mantissa (twoPower bits) + (value.exponent + bits) * seriesLogarithm 2 1

/-- The natural logarithm of a positive double, rounded to a double. -/
def naturalLogarithm (value : Float) : Float :=
  match Extended.ofFloat value with
  | .nan => value
  | .infinity _ => value
  | .finite exact =>
    let units := exact.logarithm
    signed (units < 0) units.natAbs / Float.ofNat logarithmUnits

/-- The power of ten with a whole exponent. It is the nearest double, or the one above it for the
two exponents at which the arithmetic of doubles is off. -/
def powerOfTen (exponent : Int) : Float :=
  if exponent = 23 then 1.0000000000000001e23
  else if exponent = 210 then 1.0000000000000001e210
  else Float.ofScientific 1 (exponent < 0) exponent.natAbs

/-- The power of ten below a width, as far as the quotient of the rounded logarithms tells it. -/
def decade (width : Float) : Float :=
  let exponent := floor (naturalLogarithm width / naturalLogarithm 10)
  match Extended.ofFloat exponent with
  | .nan => exponent
  | .infinity negative => if negative then 0 else exponent
  | .finite exact => powerOfTen exact.truncated

theorem oddSeries_zero (factor power : Int) (index : Nat) :
    oddSeries factor 0 power index = 0 := rfl

end BenchmarkReport.Number
