/-
This file says which texts are whole numbers and decimal numbers, and that these can be read.
-/

import BenchmarkReport.Number.Reading
import Mathlib.Data.List.TakeWhile

namespace BenchmarkReport.Number

open Text

/-- One or more digits. -/
def IsNumeral (text : List Char) : Prop :=
  text ≠ [] ∧ ∀ symbol ∈ text, isDigit symbol = true

/-- A sign that may be absent. -/
inductive IsSign : List Char → Prop
  | absent : IsSign []
  | minus : IsSign ['-']
  | plus : IsSign ['+']

/-- A letter, a sign that may be absent, and digits. -/
inductive IsExponent : List Char → Prop
  | scaled {letter : Char} {sign digits : List Char} (letterE : letter = 'e' ∨ letter = 'E')
      (signed : IsSign sign) (numeral : IsNumeral digits) : IsExponent (letter :: (sign ++ digits))

/-- A whole number has digits and nothing else but a minus in front of them. -/
inductive IsWhole : List Char → Prop
  | positive {digits : List Char} (numeral : IsNumeral digits) : IsWhole digits
  | negative {digits : List Char} (numeral : IsNumeral digits) : IsWhole ('-' :: digits)

/-- A decimal number has a point or an exponent. There are digits behind the point unless there is
nothing behind it. -/
inductive IsDecimal : List Char → Prop
  | fraction {sign whole digits exponent : List Char} (signed : IsSign sign)
      (wholeDigits : ∀ symbol ∈ whole, isDigit symbol = true) (numeral : IsNumeral digits)
      (scaled : exponent = [] ∨ IsExponent exponent) :
      IsDecimal (sign ++ (whole ++ '.' :: (digits ++ exponent)))
  | point {sign whole : List Char} (signed : IsSign sign) (numeral : IsNumeral whole) :
      IsDecimal (sign ++ (whole ++ ['.']))
  | power {sign whole exponent : List Char} (signed : IsSign sign) (numeral : IsNumeral whole)
      (scaled : IsExponent exponent) : IsDecimal (sign ++ (whole ++ exponent))

/-- Numbers are written with these symbols. -/
def isNumberSymbol (symbol : Char) : Bool :=
  isDigit symbol || ['-', '+', '.', 'e', 'E'].contains symbol

section Digits

variable {symbol : Char}

theorem toNat_of_isDigit (digit : isDigit symbol = true) :
    0x30 ≤ symbol.toNat ∧ symbol.toNat ≤ 0x39 := by
  simpa [isDigit, Char.le_def, UInt32.le_iff_toNat_le] using digit

theorem ne_of_isDigit (digit : isDigit symbol = true) {other : Char}
    (noDigit : isDigit other = false) : symbol ≠ other := by
  rintro rfl
  rw [digit] at noDigit
  exact Bool.noConfusion noDigit

end Digits

section Numerals

variable {sign digits whole rest text : List Char}

theorem splitSign_append (signed : IsSign sign) (noMinus : rest.head? ≠ some '-')
    (noPlus : rest.head? ≠ some '+') : splitSign (sign ++ rest) = (sign == ['-'], rest) := by
  cases signed with
  | absent =>
      rw [List.nil_append]
      unfold splitSign
      split <;> simp_all
  | minus => rfl
  | plus => rfl

/-- What stands in front of digits and the text behind them is a digit or stands in front of that
text. -/
theorem head?_digits_append (wholeDigits : ∀ symbol ∈ whole, isDigit symbol = true) {other : Char}
    (noDigit : isDigit other = false) (behind : rest.head? ≠ some other) :
    (whole ++ rest).head? ≠ some other := by
  cases whole with
  | nil => exact behind
  | cons first later =>
      simpa using ne_of_isDigit (wholeDigits first List.mem_cons_self) noDigit

theorem IsNumeral.head?_ne (numeral : IsNumeral digits) {other : Char}
    (noDigit : isDigit other = false) : digits.head? ≠ some other := by
  have front := head?_digits_append numeral.2 noDigit (by simp : [].head? ≠ some other)
  rwa [List.append_nil] at front

/-- Digits with something behind them that starts without a digit are cut off as a whole. -/
theorem takeWhile_digits {test : Char → Bool} (all : ∀ symbol ∈ whole, test symbol = true)
    (stops : ∀ symbol, rest.head? = some symbol → test symbol = false) :
    (whole ++ rest).takeWhile test = whole ∧ (whole ++ rest).dropWhile test = rest := by
  have stopped : rest.takeWhile test = [] ∧ rest.dropWhile test = rest := by
    cases rest with
    | nil => exact ⟨rfl, rfl⟩
    | cons symbol later =>
        have other := stops symbol rfl
        simp [other]
  rw [List.takeWhile_append_of_pos all, List.dropWhile_append_of_pos all, stopped.1, stopped.2,
    List.append_nil]
  exact ⟨rfl, rfl⟩

theorem readNatural?_of_isNumeral (numeral : IsNumeral digits) :
    readNatural? digits = some (Nat.ofDigitChars 10 digits 0) := by
  have digitsOnly : digits.all isDigit = true := List.all_eq_true.mpr numeral.2
  have present : digits.isEmpty = false := List.isEmpty_eq_false_iff.mpr numeral.1
  rw [readNatural?, digitsOnly, present]
  rfl

theorem readInteger?_of_signed (signed : IsSign sign) (numeral : IsNumeral digits) :
    readInteger? (sign ++ digits) = some (if sign == ['-'] then
      -(Nat.ofDigitChars 10 digits 0 : Int) else Nat.ofDigitChars 10 digits 0) := by
  have magnitude := splitSign_append signed (numeral.head?_ne (by decide))
    (numeral.head?_ne (by decide))
  unfold readInteger?
  rw [magnitude]
  dsimp only
  rw [readNatural?_of_isNumeral numeral]
  rfl

theorem IsExponent.head_eq (exponent : IsExponent text) {symbol : Char}
    (front : text.head? = some symbol) : symbol = 'e' ∨ symbol = 'E' := by
  obtain ⟨letterE, signed, numeral⟩ := exponent
  rw [List.head?_cons, Option.some.injEq] at front
  rwa [← front]

theorem readExponent?_of_isExponent (exponent : text = [] ∨ IsExponent text) :
    ∃ value, readExponent? text = some value := by
  rcases exponent with rfl | ⟨letterE, signed, numeral⟩
  · exact ⟨0, rfl⟩
  · rw [readExponent?, if_pos (by simpa using letterE)]
    exact ⟨_, readInteger?_of_signed signed numeral⟩

end Numerals

section Symbols

variable {text : List Char}

theorem isNumberSymbol_of_isDigit {symbol : Char} (digit : isDigit symbol = true) :
    isNumberSymbol symbol = true := by
  rw [isNumberSymbol, digit, Bool.true_or]

theorem IsSign.symbols (signed : IsSign text) : ∀ symbol ∈ text, isNumberSymbol symbol = true := by
  cases signed with
  | absent => exact List.forall_mem_nil _
  | minus => exact List.forall_mem_singleton.mpr (by decide)
  | plus => exact List.forall_mem_singleton.mpr (by decide)

theorem IsNumeral.symbols (numeral : IsNumeral text) :
    ∀ symbol ∈ text, isNumberSymbol symbol = true :=
  fun symbol member => isNumberSymbol_of_isDigit (numeral.2 symbol member)

theorem IsExponent.symbols (exponent : IsExponent text) :
    ∀ symbol ∈ text, isNumberSymbol symbol = true := by
  obtain ⟨letterE, signed, numeral⟩ := exponent
  refine List.forall_mem_cons.mpr ⟨?_, List.forall_mem_append.mpr ⟨signed.symbols, numeral.symbols⟩⟩
  rcases letterE with rfl | rfl <;> decide

theorem IsWhole.symbols (isWhole : IsWhole text) :
    ∀ symbol ∈ text, isNumberSymbol symbol = true := by
  cases isWhole with
  | positive numeral => exact numeral.symbols
  | negative numeral => exact List.forall_mem_cons.mpr ⟨by decide, numeral.symbols⟩

theorem IsWhole.ne_nil (isWhole : IsWhole text) : text ≠ [] := by
  cases isWhole with
  | positive numeral => exact numeral.1
  | negative numeral => exact List.cons_ne_nil _ _

/-- There are only digits behind the sign of a whole number. -/
theorem IsWhole.eq_minus_or_isDigit (isWhole : IsWhole text) :
    ∀ symbol ∈ text, symbol = '-' ∨ isDigit symbol = true := by
  cases isWhole with
  | positive numeral => exact fun symbol member => Or.inr (numeral.2 symbol member)
  | negative numeral =>
      refine List.forall_mem_cons.mpr ⟨Or.inl rfl, ?_⟩
      exact fun symbol member => Or.inr (numeral.2 symbol member)

theorem IsDecimal.symbols (decimal : IsDecimal text) :
    ∀ symbol ∈ text, isNumberSymbol symbol = true := by
  have point : isNumberSymbol '.' = true := by decide
  cases decimal with
  | fraction signed wholeDigits numeral scaled =>
      rename_i sign whole digits exponent
      have behind : ∀ symbol ∈ exponent, isNumberSymbol symbol = true := by
        rcases scaled with rfl | scaled
        · simp
        · exact scaled.symbols
      simp only [List.forall_mem_append, List.forall_mem_cons]
      exact ⟨signed.symbols, fun symbol member => isNumberSymbol_of_isDigit
        (wholeDigits symbol member), point, numeral.symbols, behind⟩
  | point signed numeral =>
      simp only [List.forall_mem_append, List.forall_mem_singleton]
      exact ⟨signed.symbols, numeral.symbols, point⟩
  | power signed numeral scaled =>
      simp only [List.forall_mem_append]
      exact ⟨signed.symbols, numeral.symbols, scaled.symbols⟩

/-- A text of such symbols holds no other one. -/
theorem not_mem_of_symbols (symbols : ∀ symbol ∈ text, isNumberSymbol symbol = true)
    {other : Char} (strange : isNumberSymbol other = false) :
    other ∉ text := by
  intro member
  rw [symbols other member] at strange
  exact Bool.noConfusion strange

theorem IsDecimal.not_isWhole (decimal : IsDecimal text) : ¬ IsWhole text := by
  intro isWhole
  have wholeSymbols := isWhole.eq_minus_or_isDigit
  have mark : '.' ∈ text ∨ 'e' ∈ text ∨ 'E' ∈ text := by
    cases decimal with
    | fraction signed wholeDigits numeral scaled => simp
    | point signed numeral => simp
    | power signed numeral scaled =>
        obtain ⟨letterE, signed, numeral⟩ := scaled
        rcases letterE with rfl | rfl <;> simp
  rcases mark with point | small | capital
  · exact absurd (wholeSymbols '.' point) (by decide)
  · exact absurd (wholeSymbols 'e' small) (by decide)
  · exact absurd (wholeSymbols 'E' capital) (by decide)

end Symbols

section Reading

variable {text : List Char}

theorem readInteger?_of_isWhole (isWhole : IsWhole text) :
    ∃ value, readInteger? text = some value := by
  cases isWhole with
  | positive numeral => exact ⟨_, readInteger?_of_signed .absent numeral⟩
  | negative numeral => exact ⟨_, readInteger?_of_signed .minus numeral⟩

/-- Digits, a point among them and an exponent behind them make a magnitude. -/
theorem readMagnitude?_of_parts {whole fraction exponent : List Char}
    (parts : splitPoint text = (whole, fraction, exponent)) (present : whole ≠ [] ∨ fraction ≠ [])
    (scaled : exponent = [] ∨ IsExponent exponent) :
    ∃ value, readMagnitude? text = some value := by
  obtain ⟨power, read⟩ := readExponent?_of_isExponent scaled
  have filled : (whole.isEmpty && fraction.isEmpty) = false := by
    rw [Bool.and_eq_false_iff, List.isEmpty_eq_false_iff, List.isEmpty_eq_false_iff]
    exact present
  unfold readMagnitude?
  rw [parts]
  dsimp only
  rw [filled, read]
  exact ⟨_, rfl⟩

theorem readReal?_of_signed {sign : List Char} (signed : IsSign sign)
    (noMinus : text.head? ≠ some '-') (noPlus : text.head? ≠ some '+')
    (magnitude : ∃ value, readMagnitude? text = some value) :
    ∃ value, readReal? (sign ++ text) = some value := by
  obtain ⟨value, read⟩ := magnitude
  unfold readReal?
  rw [splitSign_append signed noMinus noPlus]
  dsimp only
  rw [read]
  cases readNamed? text <;> exact ⟨_, rfl⟩

theorem splitPoint_of_point {whole digits exponent : List Char}
    (wholeDigits : ∀ symbol ∈ whole, isDigit symbol = true)
    (fraction : ∀ symbol ∈ digits, isDigit symbol = true)
    (stops : ∀ symbol, exponent.head? = some symbol → isDigit symbol = false) :
    splitPoint (whole ++ '.' :: (digits ++ exponent)) = (whole, digits, exponent) := by
  have point : ∀ symbol, ('.' :: (digits ++ exponent)).head? = some symbol →
      isDigit symbol = false := by
    rintro symbol front
    rw [← Option.some.inj front]
    decide
  obtain ⟨front, back⟩ := takeWhile_digits wholeDigits point
  obtain ⟨fractionFront, fractionBack⟩ := takeWhile_digits fraction stops
  simp only [splitPoint, front, back, fractionFront, fractionBack]

theorem splitPoint_of_noPoint {whole exponent : List Char}
    (wholeDigits : ∀ symbol ∈ whole, isDigit symbol = true)
    (stops : ∀ symbol, exponent.head? = some symbol → isDigit symbol = false)
    (noPoint : exponent.head? ≠ some '.') :
    splitPoint (whole ++ exponent) = (whole, [], exponent) := by
  obtain ⟨front, back⟩ := takeWhile_digits wholeDigits stops
  rw [splitPoint, front, back]
  split
  · simp at noPoint
  · rfl

/-- No digit, sign or point is in front of an exponent. -/
theorem head_of_exponent {exponent : List Char} (scaled : exponent = [] ∨ IsExponent exponent)
    {symbol : Char} (front : exponent.head? = some symbol) : symbol = 'e' ∨ symbol = 'E' := by
  rcases scaled with rfl | scaled
  · simp at front
  · exact scaled.head_eq front

theorem readReal?_of_isDecimal (decimal : IsDecimal text) :
    ∃ value, readReal? text = some value := by
  have stops {exponent : List Char} (scaled : exponent = [] ∨ IsExponent exponent)
      (symbol : Char) (front : exponent.head? = some symbol) : isDigit symbol = false := by
    rcases head_of_exponent scaled front with rfl | rfl <;> decide
  have behind {exponent : List Char} (scaled : exponent = [] ∨ IsExponent exponent)
      {other : Char} (noLetter : other ≠ 'e' ∧ other ≠ 'E') : exponent.head? ≠ some other :=
    fun front => (head_of_exponent scaled front).elim noLetter.1 noLetter.2
  cases decimal with
  | fraction signed wholeDigits numeral scaled =>
      have parts := splitPoint_of_point wholeDigits numeral.2 (stops scaled)
      refine readReal?_of_signed signed ?_ ?_
        (readMagnitude?_of_parts parts (Or.inr numeral.1) scaled)
      · exact head?_digits_append wholeDigits (by decide) (by simp)
      · exact head?_digits_append wholeDigits (by decide) (by simp)
  | point signed numeral =>
      have parts := splitPoint_of_point numeral.2 (List.forall_mem_nil _) (stops (Or.inl rfl))
      refine readReal?_of_signed signed ?_ ?_
        (readMagnitude?_of_parts parts (Or.inl numeral.1) (Or.inl rfl))
      · exact head?_digits_append numeral.2 (by decide) (by simp)
      · exact head?_digits_append numeral.2 (by decide) (by simp)
  | power signed numeral scaled =>
      have parts := splitPoint_of_noPoint numeral.2 (stops (Or.inr scaled))
        (behind (Or.inr scaled) (by decide))
      refine readReal?_of_signed signed ?_ ?_
        (readMagnitude?_of_parts parts (Or.inl numeral.1) (Or.inr scaled))
      · exact head?_digits_append numeral.2 (by decide) (behind (Or.inr scaled) (by decide))
      · exact head?_digits_append numeral.2 (by decide) (behind (Or.inr scaled) (by decide))

/-- Digits without a point read as a real too. -/
theorem readReal?_of_isWhole (isWhole : IsWhole text) : ∃ value, readReal? text = some value := by
  have magnitude {digits : List Char} (numeral : IsNumeral digits) :
      ∃ value, readMagnitude? digits = some value := by
    have stops (symbol : Char) (front : [].head? = some symbol) : isDigit symbol = false :=
      absurd front (by simp)
    have parts := splitPoint_of_noPoint numeral.2 stops (by simp)
    rw [List.append_nil] at parts
    exact readMagnitude?_of_parts parts (Or.inl numeral.1) (Or.inl rfl)
  cases isWhole with
  | positive numeral =>
      exact readReal?_of_signed .absent (numeral.head?_ne (by decide))
        (numeral.head?_ne (by decide)) (magnitude numeral)
  | negative numeral =>
      exact readReal?_of_signed .minus (numeral.head?_ne (by decide))
        (numeral.head?_ne (by decide)) (magnitude numeral)

end Reading

end BenchmarkReport.Number
