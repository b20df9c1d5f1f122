/-
This file says which texts are accepted as the width or height of a plot: digits of any number whose
value is in range.
-/

import BenchmarkReport.CommandLine.Settings
import BenchmarkReport.Proofs.Delimited.Rows
import BenchmarkReport.Proofs.Number.Integers

namespace BenchmarkReport.CommandLine

open Delimited Number Text

/-- A dimension is written with one or more digits, and a plus may stand in front of them. -/
structure IsDimension (text : List Char) (value : Nat) : Prop where
  written : ∃ sign digits, text = sign ++ digits ∧ (sign = [] ∨ sign = ['+']) ∧
    IsNumeral digits ∧ value = digitsValue digits
  lower : 1 ≤ value
  upper : value ≤ 8192

theorem le_ofDigitChars (value : Nat) (digits : List Char) :
    value ≤ Nat.ofDigitChars 10 digits value := by
  induction digits generalizing value with
  | nil => exact Nat.le_refl value
  | cons digit later inductionHypothesis =>
      rw [Nat.ofDigitChars_cons]
      exact Nat.le_trans (by omega) (inductionHypothesis _)

section Digits

variable {greatest value : Nat} {beyond : DimensionFault} {digits : List Char}

/-- The reading stops as soon as it leads beyond the greatest value, so that what is read is the
value of all the digits. -/
theorem readLimited_eq_ok_iff {start : Nat} (within : start ≤ greatest) :
    readLimited greatest beyond start digits = .ok value ↔
      (∀ symbol ∈ digits, isDigit symbol = true) ∧
        value = Nat.ofDigitChars 10 digits start ∧ value ≤ greatest := by
  induction digits generalizing start with
  | nil =>
      constructor
      · intro read
        obtain rfl := Except.ok.inj read
        exact ⟨by simp, rfl, within⟩
      · rintro ⟨-, rfl, -⟩
        rfl
  | cons digit later inductionHypothesis =>
      have step : Nat.ofDigitChars 10 (digit :: later) start =
          Nat.ofDigitChars 10 later (10 * start + digitValue digit) := rfl
      rw [readLimited, step]
      by_cases isDigit : isDigit digit = true
      · rw [if_neg (by simp [isDigit])]
        dsimp only
        by_cases exceeds : greatest < 10 * start + digitValue digit
        · rw [if_pos exceeds]
          constructor
          · simp
          · rintro ⟨-, rfl, bounded⟩
            have grows := le_ofDigitChars (10 * start + digitValue digit) later
            omega
        · rw [if_neg exceeds, inductionHypothesis (by omega)]
          simp [isDigit]
      · rw [if_pos (by simp [isDigit])]
        simp [isDigit]

theorem readDigits_eq_ok_iff : readDigits greatest beyond digits = .ok value ↔
    IsNumeral digits ∧ value = digitsValue digits ∧ value ≤ greatest := by
  unfold readDigits IsNumeral
  cases digits with
  | nil => simp
  | cons first later =>
      have same : digitsValue (first :: later) = Nat.ofDigitChars 10 (first :: later) 0 := rfl
      rw [if_neg (by simp), readLimited_eq_ok_iff (Nat.zero_le greatest), same]
      simp

end Digits

section Text

variable {text digits : List Char} {value : Nat}

theorem isDimension_iff_of_numeral (noPlus : text.head? ≠ some '+') : IsDimension text value ↔
    IsNumeral text ∧ value = digitsValue text ∧ 1 ≤ value ∧ value ≤ 8192 := by
  constructor
  · rintro ⟨⟨sign, digits, rfl, rfl | rfl, numeral, same⟩, lower, upper⟩
    · exact ⟨numeral, same, lower, upper⟩
    · exact absurd rfl noPlus
  · rintro ⟨numeral, same, lower, upper⟩
    exact ⟨⟨[], text, rfl, .inl rfl, numeral, same⟩, lower, upper⟩

theorem isDimension_plus_iff : IsDimension ('+' :: digits) value ↔
    IsNumeral digits ∧ value = digitsValue digits ∧ 1 ≤ value ∧ value ≤ 8192 := by
  constructor
  · rintro ⟨⟨sign, found, split, rfl | rfl, numeral, same⟩, lower, upper⟩
    · rw [List.nil_append] at split
      exact absurd (congrArg List.head? split).symm (numeral.head?_ne (by decide))
    · obtain rfl := (List.cons.inj split).2
      exact ⟨numeral, same, lower, upper⟩
  · rintro ⟨numeral, same, lower, upper⟩
    exact ⟨⟨['+'], digits, rfl, .inr rfl, numeral, same⟩, lower, upper⟩

/-- Sixty-four bits are enough for every value in range. -/
theorem ofNat_digits_iff : (∃ read : Int, (readDigits (twoPower 63 - 1) .tooLarge digits).map
      Int.ofNat = .ok read ∧ read = value ∧ 1 ≤ value ∧ value ≤ 8192) ↔
    IsNumeral digits ∧ value = digitsValue digits ∧ 1 ≤ value ∧ value ≤ 8192 := by
  constructor
  · rintro ⟨read, accepted, same, lower, upper⟩
    obtain ⟨magnitude, found, rfl⟩ := map_eq_ok_iff.mp accepted
    obtain rfl := Int.ofNat.inj same
    obtain ⟨numeral, same, -⟩ := readDigits_eq_ok_iff.mp found
    exact ⟨numeral, same, lower, upper⟩
  · rintro ⟨numeral, rfl, lower, upper⟩
    have fits : digitsValue digits ≤ twoPower 63 - 1 := Nat.le_trans upper (by decide)
    have found : readDigits (twoPower 63 - 1) .tooLarge digits = .ok (digitsValue digits) :=
      readDigits_eq_ok_iff.mpr ⟨numeral, rfl, fits⟩
    exact ⟨digitsValue digits, by rw [found]; rfl, rfl, lower, upper⟩

/-- The whole number that is read has to be in range. -/
theorem readDimension_eq_ok_iff_readWhole : readDimension text = .ok value ↔
    ∃ read : Int, readWhole text = .ok read ∧ read = value ∧ 1 ≤ value ∧ value ≤ 8192 := by
  constructor
  · intro accepted
    obtain ⟨lower, upper⟩ := readDimension_bounds accepted
    obtain ⟨read, whole, kept⟩ := bind_eq_ok_iff.mp accepted
    split at kept
    · obtain rfl := Except.ok.inj kept
      refine ⟨read, whole, by omega, lower, ?_⟩
      unfold dimensionLimit at upper
      omega
    · simp [throw, throwThe, MonadExceptOf.throw] at kept
  · rintro ⟨read, whole, rfl, lower, upper⟩
    refine bind_eq_ok_iff.mpr ⟨value, whole, ?_⟩
    rw [if_pos (by unfold dimensionLimit; omega)]
    rfl

theorem readDimension_eq_ok_iff : readDimension text = .ok value ↔ IsDimension text value := by
  rw [readDimension_eq_ok_iff_readWhole]
  unfold readWhole
  split
  next =>
    rw [isDimension_iff_of_numeral (by simp)]
    simp [IsNumeral]
  next digits =>
    rw [isDimension_iff_of_numeral (by simp)]
    constructor
    · rintro ⟨read, accepted, rfl, lower, upper⟩
      obtain ⟨read, found, negative⟩ := map_eq_ok_iff.mp accepted
      obtain ⟨magnitude, -, same⟩ := bind_eq_ok_iff.mp found
      obtain rfl := Except.ok.inj same
      omega
    · rintro ⟨numeral, -, -, -⟩
      exact absurd rfl (numeral.head?_ne (by decide : isDigit '-' = false))
  next digits =>
    rw [isDimension_plus_iff]
    exact ofNat_digits_iff
  next _ noPlus =>
    rw [isDimension_iff_of_numeral (by
      intro plus
      obtain ⟨later, rfl⟩ := List.head?_eq_some_iff.mp plus
      exact noPlus later rfl)]
    exact ofNat_digits_iff

/-- This value has 640 left over when it is divided by two to the power of 64. -/
example : readDimension "+000640".toList = .ok 640 ∧
    readDimension "18446744073709552256".toList = .error .tooLarge := by decide

end Text

/-- The values of the width and height are exactly the texts in range, whatever their length. -/
theorem Given.dimension_eq_ok_iff {option : ValueOption} {text : String} {value : Nat} :
    Given.dimension option text = .ok value ↔ IsDimension text.toList value := by
  rw [← readDimension_eq_ok_iff, Given.dimension]
  cases readDimension text.toList <;> simp [Except.mapError]

end BenchmarkReport.CommandLine
