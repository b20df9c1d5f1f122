/-
This file reads decimal text as whole numbers and as doubles.
-/

import BenchmarkReport.Text.Digit

namespace BenchmarkReport.Number

open Text

/-- A sign may stand in front of a number. The result says whether it is a minus. -/
def splitSign : List Char → Bool × List Char
  | '-' :: rest => (true, rest)
  | '+' :: rest => (false, rest)
  | text => (false, text)

/-- The value of one or more digits and nothing else. -/
def readNatural? (text : List Char) : Option Nat :=
  if !text.isEmpty && text.all isDigit then some (Nat.ofDigitChars 10 text 0) else none

/-- The value of an optional sign and one or more digits. -/
def readInteger? (text : List Char) : Option Int :=
  let (negative, magnitude) := splitSign text
  (readNatural? magnitude).map fun value => if negative then -(value : Int) else value

/-- The exponent after a number: nothing, or a letter and a whole number. -/
def readExponent? : List Char → Option Int
  | [] => some 0
  | symbol :: rest => if symbol = 'e' || symbol = 'E' then readInteger? rest else none

/-- The digits before and after a point, and the text after them. -/
def splitPoint (text : List Char) : List Char × List Char × List Char :=
  let whole := text.takeWhile isDigit
  match text.dropWhile isDigit with
  | '.' :: rest => (whole, rest.takeWhile isDigit, rest.dropWhile isDigit)
  | rest => (whole, [], rest)

/-- A double is read from its exact decimal value. A value beyond the greatest double is
infinite. -/
def scientific (coefficient : Nat) (exponent : Int) : Float :=
  Float.ofScientific coefficient (exponent < 0) exponent.natAbs

/-- The value of digits with an optional point and an optional exponent. -/
def readMagnitude? (text : List Char) : Option Float :=
  let (whole, fraction, rest) := splitPoint text
  if whole.isEmpty && fraction.isEmpty then none
  else (readExponent? rest).map fun exponent =>
    scientific (Nat.ofDigitChars 10 (whole ++ fraction) 0) (exponent - fraction.length)

/-- The infinities and the value that is no number have names in any case of letters. -/
def readNamed? (text : List Char) : Option Float :=
  match text.map Char.toLower with
  | ['i', 'n', 'f'] => some (1 / 0)
  | ['i', 'n', 'f', 'i', 'n', 'i', 't', 'y'] => some (1 / 0)
  | ['n', 'a', 'n'] => some (0 / 0)
  | _ => none

def readReal? (text : List Char) : Option Float :=
  let (negative, magnitude) := splitSign text
  ((readNamed? magnitude).or (readMagnitude? magnitude)).map fun value =>
    if negative then -value else value

end BenchmarkReport.Number
