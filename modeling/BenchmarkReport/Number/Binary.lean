/-
This file gives the exact value of a double and its roundings to whole numbers.
-/

import BenchmarkReport.Number.Power

namespace BenchmarkReport.Number

/-- A sign, a whole number and a power of two. The sign of a zero counts. -/
structure Binary where
  negative : Bool
  mantissa : Nat
  exponent : Int
  deriving DecidableEq, Repr

/-- A double is no number, an infinity or a finite value. -/
inductive Extended
  | nan
  | infinity (negative : Bool)
  | finite (value : Binary)
  deriving DecidableEq, Repr

/-- The least power of two of a double. -/
def leastExponent : Int := -1074

/-- The number of fraction bits of a double. -/
def fractionBits : Nat := 52

/-- This function reads the fields of the bit pattern. -/
def Extended.ofBits (bits : Nat) : Extended :=
  let negative := bits / twoPower 63 == 1
  let exponent := bits / twoPower fractionBits % twoPower 11
  let fraction := bits % twoPower fractionBits
  if exponent = 2047 then
    if fraction = 0 then .infinity negative else .nan
  else if exponent = 0 then .finite ⟨negative, fraction, leastExponent⟩
  else
    .finite ⟨negative, twoPower fractionBits + fraction, leastExponent + (exponent - 1 : Nat)⟩

def Extended.ofFloat (value : Float) : Extended :=
  .ofBits value.toBits.toNat

namespace Binary

/-- The magnitude is the quotient of `numerator` and `denominator`. -/
def numerator (value : Binary) : Nat :=
  value.mantissa * twoPower value.exponent.toNat

def denominator (value : Binary) : Nat :=
  twoPower (-value.exponent).toNat

theorem denominator_pos (value : Binary) : 0 < value.denominator :=
  twoPower_pos _

/-- The magnitude rounded down. -/
def whole (value : Binary) : Nat :=
  value.numerator / value.denominator

def isWhole (value : Binary) : Bool :=
  value.numerator % value.denominator == 0

/-- The magnitude rounded up. -/
def wholeUp (value : Binary) : Nat :=
  if value.isWhole then value.whole else value.whole + 1

/-- The magnitude rounded to the nearest whole number. A half goes up. -/
def wholeNearest (value : Binary) : Nat :=
  (2 * value.numerator + value.denominator) / (2 * value.denominator)

/-- The value without its fraction. -/
def truncated (value : Binary) : Int :=
  if value.negative then -(value.whole : Int) else value.whole

theorem whole_le_wholeUp (value : Binary) : value.whole ≤ value.wholeUp := by
  unfold wholeUp
  split <;> omega

end Binary

/-- The float of a whole magnitude with a sign. -/
def signed (negative : Bool) (magnitude : Nat) : Float :=
  if negative then -Float.ofNat magnitude else Float.ofNat magnitude

def floor (value : Float) : Float :=
  match Extended.ofFloat value with
  | .finite exact =>
    signed exact.negative (if exact.negative then exact.wholeUp else exact.whole)
  | _ => value

def ceil (value : Float) : Float :=
  match Extended.ofFloat value with
  | .finite exact =>
    signed exact.negative (if exact.negative then exact.whole else exact.wholeUp)
  | _ => value

/-- A half goes away from zero. -/
def round (value : Float) : Float :=
  match Extended.ofFloat value with
  | .finite exact => signed exact.negative exact.wholeNearest
  | _ => value

/-- The whole part of a value, cut to the given limits. No number counts as zero. -/
def truncateBetween (least greatest : Int) (value : Float) : Int :=
  match Extended.ofFloat value with
  | .nan => 0
  | .infinity negative => if negative then least else greatest
  | .finite exact => max least (min greatest exact.truncated)

/-- The pixel coordinates have thirty-two bits. -/
def toPixel (value : Float) : Int :=
  truncateBetween (-twoPower 31) (twoPower 31 - 1) value

/-- A count has sixty-four bits and no sign. -/
def toCount (value : Float) : Nat :=
  (truncateBetween 0 (twoPower 64 - 1) value).toNat

end BenchmarkReport.Number
