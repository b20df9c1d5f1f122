/-
This file reads the width or height of a plot.
-/

import BenchmarkReport.Number.Decimal
import BenchmarkReport.Text.Digit

namespace BenchmarkReport.CommandLine

open Number Text

/-- The greatest width or height of a plot. -/
def dimensionLimit : Int := 8192

inductive DimensionFault
  | empty
  | invalidDigit
  | tooLarge
  | tooSmall
  | outside (value : Int)
  deriving DecidableEq, Repr

def DimensionFault.message : DimensionFault → String
  | .empty => "cannot parse integer from empty string"
  | .invalidDigit => "invalid digit found in string"
  | .tooLarge => "number too large to fit in target type"
  | .tooSmall => "number too small to fit in target type"
  | .outside value =>
    String.ofList (integerText value) ++ " is not in 1..=" ++
      String.ofList (integerText dimensionLimit)

/-- The value of digits up to a greatest value. The first digit that is none or that leads beyond
the greatest value is at fault. -/
def readLimited (greatest : Nat) (beyond : DimensionFault) :
    Nat → List Char → Except DimensionFault Nat
  | value, [] => .ok value
  | value, digit :: later =>
    if !isDigit digit then .error .invalidDigit
    else
      let next := 10 * value + digitValue digit
      if greatest < next then .error beyond else readLimited greatest beyond next later

/-- One or more digits. -/
def readDigits (greatest : Nat) (beyond : DimensionFault) (digits : List Char) :
    Except DimensionFault Nat :=
  if digits.isEmpty then .error .invalidDigit else readLimited greatest beyond 0 digits

/-- A whole number with an optional sign. It has sixty-four bits. -/
def readWhole : List Char → Except DimensionFault Int
  | [] => .error .empty
  | '-' :: digits => (readDigits (twoPower 63) .tooSmall digits).map fun value => -(value : Int)
  | '+' :: digits => (readDigits (twoPower 63 - 1) .tooLarge digits).map Int.ofNat
  | digits => (readDigits (twoPower 63 - 1) .tooLarge digits).map Int.ofNat

/-- A dimension lies between one and the limit. -/
def readDimension (text : List Char) : Except DimensionFault Nat := do
  let value ← readWhole text
  if 1 ≤ value ∧ value ≤ dimensionLimit then return value.toNat
  else throw (.outside value)

theorem readDimension_bounds {text : List Char} {value : Nat}
    (accepted : readDimension text = .ok value) : 1 ≤ value ∧ (value : Int) ≤ dimensionLimit := by
  simp only [readDimension, bind, Except.bind] at accepted
  split at accepted
  · simp at accepted
  · split at accepted
    · simp only [pure, Except.pure, Except.ok.injEq] at accepted
      omega
    · simp [throw, throwThe, MonadExceptOf.throw] at accepted

end BenchmarkReport.CommandLine
