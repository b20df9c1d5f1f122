/-
This file shows that whole numbers are read back from the text that they were written to.
-/

import BenchmarkReport.Number.Decimal
import BenchmarkReport.Proofs.Number.Grammar

namespace BenchmarkReport.Number

open Text

/-- A number is written with digits alone. -/
theorem isNumeral_digits (value : Nat) : IsNumeral (digits value) := by
  refine ⟨Nat.toDigits_ne_nil, fun symbol member => ?_⟩
  have digit : symbol.isDigit = true :=
    Nat.isDigit_of_mem_toDigits (by decide) (by decide) member
  simpa [Char.isDigit, isDigit, Char.le_def] using digit

theorem ofDigitChars_digits (value : Nat) : Nat.ofDigitChars 10 (digits value) 0 = value :=
  Nat.ofDigitChars_ten_toDigits

/-- The value of the digits of a whole number, with its sign. -/
def wholeValue : List Char → Int
  | '-' :: digits => -(digitsValue digits : Int)
  | digits => digitsValue digits

/-- A whole number is read as its value. -/
theorem readInteger?_eq_wholeValue {text : List Char} (isWhole : IsWhole text) :
    readInteger? text = some (wholeValue text) := by
  cases isWhole with
  | positive numeral =>
      have noMinus := numeral.head?_ne (by decide : isDigit '-' = false)
      rw [show wholeValue text = digitsValue text by unfold wholeValue; split <;> simp_all]
      exact readInteger?_of_signed .absent numeral
  | negative numeral => exact readInteger?_of_signed .minus numeral

section Integers

variable {value : Int}

theorem isWhole_integerText (value : Int) : IsWhole (integerText value) := by
  unfold integerText
  split
  · exact .negative (isNumeral_digits value.natAbs)
  · exact .positive (isNumeral_digits value.natAbs)

/-- An integer is read back from its text. -/
theorem readInteger?_integerText (value : Int) : readInteger? (integerText value) = some value := by
  have numeral := isNumeral_digits value.natAbs
  unfold integerText
  by_cases negative : value < 0
  · have same : -(value.natAbs : Int) = value := by omega
    have read := readInteger?_of_signed .minus numeral
    rw [ofDigitChars_digits] at read
    rw [if_pos negative]
    exact read.trans (congrArg some same)
  · have same : (value.natAbs : Int) = value := by omega
    have read := readInteger?_of_signed .absent numeral
    rw [ofDigitChars_digits] at read
    rw [if_neg negative]
    exact read.trans (congrArg some same)

theorem integerText_ne_nil (value : Int) : integerText value ≠ [] :=
  (isWhole_integerText value).ne_nil

end Integers

end BenchmarkReport.Number
