/-
This file writes binary values as decimal text: with fixed places, with an exponent, and with the
fewest digits that read back.
-/

import BenchmarkReport.Number.Binary

namespace BenchmarkReport.Number

/-- The decimal digits of a natural number. -/
def digits (value : Nat) : List Char :=
  Nat.toDigits 10 value

/-- The digits of an integer with a minus sign where it is negative. -/
def integerText (value : Int) : List Char :=
  if value < 0 then '-' :: digits value.natAbs else digits value.natAbs

/-- Zeros in front fill a text up to the given length. -/
def padZeros (length : Nat) (text : List Char) : List Char :=
  List.replicate (length - text.length) '0' ++ text

/-- The nearest whole number to a quotient. A half goes to the even neighbour. -/
def roundQuotient (numerator denominator : Nat) : Nat :=
  let quotient := numerator / denominator
  let rest := numerator % denominator
  if 2 * rest < denominator then quotient
  else if denominator < 2 * rest then quotient + 1
  else quotient + quotient % 2

/-- A whole number of units, where `10 ^ places` units make one, is written with a point. -/
def pointText (places units : Nat) : List Char :=
  let text := padZeros (places + 1) (digits units)
  text.take (text.length - places) ++ '.' :: text.drop (text.length - places)

def signText (negative : Bool) : List Char :=
  if negative then ['-'] else []

/-- The value rounded to the given number of decimal places. -/
def fixedText (places : Nat) (value : Binary) : List Char :=
  signText value.negative ++
    pointText places (roundQuotient (value.numerator * tenPower places) value.denominator)

/-- The greatest power of ten that is at most a positive quotient. -/
def decimalExponent (numerator denominator : Nat) : Int :=
  if denominator ≤ numerator then (digits (numerator / denominator)).length - 1
  else
    let places := (digits (denominator / numerator)).length
    if denominator ≤ numerator * tenPower (places - 1) then 1 - (places : Int) else -(places : Int)

/-- A decimal is a whole number of powers of ten. -/
structure Decimal where
  coefficient : Nat
  exponent : Int
  deriving DecidableEq, Repr

/-- The numerator and denominator of a quotient in units of `10 ^ exponent`. -/
def scaleQuotient (numerator denominator : Nat) (exponent : Int) : Nat × Nat :=
  (numerator * tenPower (-exponent).toNat, denominator * tenPower exponent.toNat)

/-- The reals that a double stands for, in quarters of its last binary place. The ends count when
the mantissa is even. The gap below a power of two is half as wide. -/
structure Interval where
  low : Nat
  high : Nat
  closed : Bool

def Binary.interval (value : Binary) : Interval :=
  let narrow := value.mantissa == twoPower fractionBits && leastExponent < value.exponent
  { low := 4 * value.mantissa - (if narrow then 1 else 2)
    high := 4 * value.mantissa + 2
    closed := value.mantissa % 2 == 0 }

/-- A decimal reads back as the value when it lies in the interval. -/
def Binary.readsBack (value : Binary) (decimal : Decimal) : Bool :=
  let interval := value.interval
  let scale := tenPower (-decimal.exponent).toNat * twoPower value.exponent.toNat
  let position := 4 * decimal.coefficient * tenPower decimal.exponent.toNat * value.denominator
  if interval.closed then interval.low * scale ≤ position && position ≤ interval.high * scale
  else interval.low * scale < position && position < interval.high * scale

/-- The decimal with the given number of digits that is nearest to the value among the neighbours
that read back. Of two equally near ones the greater is taken. -/
def Binary.withDigits? (value : Binary) (count : Nat) : Option Decimal :=
  let exponent := decimalExponent value.numerator value.denominator - (count : Int) + 1
  let (numerator, denominator) := scaleQuotient value.numerator value.denominator exponent
  let below : Decimal := ⟨numerator / denominator, exponent⟩
  let above : Decimal := ⟨numerator / denominator + 1, exponent⟩
  match value.readsBack below, value.readsBack above with
  | true, true => some (if 2 * (numerator % denominator) < denominator then below else above)
  | true, false => some below
  | false, true => some above
  | false, false => none

/-- Seventeen digits are always enough. -/
def Binary.shortest (value : Binary) : Decimal :=
  ((List.range' 1 17).findSome? value.withDigits?).getD ⟨value.numerator, 0⟩

/-- The digits of a decimal without zeros at the end, and the power of ten of the first one. -/
def Decimal.significant (decimal : Decimal) : List Char × Int :=
  let text := digits decimal.coefficient
  let kept := (text.reverse.dropWhile (· == '0')).reverse
  (kept, decimal.exponent + (text.length : Int) - 1)

/-- A positional text has no exponent and no point after a whole number. -/
def positionalDigits (significant : List Char) (leading : Int) : List Char :=
  if leading < 0 then
    '0' :: '.' :: List.replicate (-leading - 1).toNat '0' ++ significant
  else
    let before := leading.toNat + 1
    if significant.length ≤ before then
      significant ++ List.replicate (before - significant.length) '0'
    else significant.take before ++ '.' :: significant.drop before

/-- The fewest digits that read back, written without an exponent. -/
def shortestText (value : Binary) : List Char :=
  if value.mantissa = 0 then signText value.negative ++ ['0']
  else
    let (significant, leading) := value.shortest.significant
    signText value.negative ++ positionalDigits significant leading

/-- One digit stands before the point. -/
def exponentDigits (significant : List Char) (leading : Int) : List Char :=
  match significant with
  | [] => []
  | [digit] => digit :: 'e' :: integerText leading
  | digit :: others => digit :: '.' :: others ++ 'e' :: integerText leading

/-- The fewest digits that read back, written with an exponent. -/
def shortestExponentText (value : Binary) : List Char :=
  if value.mantissa = 0 then signText value.negative ++ ['0', 'e', '0']
  else
    let (significant, leading) := value.shortest.significant
    signText value.negative ++ exponentDigits significant leading

/-- The value rounded to the given number of decimal places after its first digit. -/
def exponentText (places : Nat) (value : Binary) : List Char :=
  if value.mantissa = 0 then
    signText value.negative ++ exponentDigits (List.replicate (places + 1) '0') 0
  else
    let leading := decimalExponent value.numerator value.denominator
    let (numerator, denominator) :=
      scaleQuotient value.numerator value.denominator (leading - places)
    let text := digits (roundQuotient numerator denominator)
    let carried := (text.length : Int) - (places + 1)
    signText value.negative ++ exponentDigits (text.take (places + 1)) (leading + carried)

end BenchmarkReport.Number
