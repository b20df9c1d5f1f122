/-
This file reads a text with a fixed number of decimal places back: it stands for the nearest number
with so many places, and of two equally near ones for the one whose last digit is even.
-/

import BenchmarkReport.Proofs.Number.Integers
import BenchmarkReport.Proofs.Number.Wholes

namespace BenchmarkReport.Number

open Text

section Digits

variable {text : List Char} {places units : ℕ}

theorem digitsValue_digits (value : ℕ) : digitsValue (digits value) = value :=
  ofDigitChars_digits value

/-- Digits in front count for as many powers of ten as there are digits behind them. -/
theorem digitsValue_append_digits (front back : List Char) :
    digitsValue (front ++ back) = digitsValue front * 10 ^ back.length + digitsValue back := by
  induction back using List.reverseRecOn with
  | nil => simp [digitsValue]
  | append_singleton others last inductionHypothesis =>
      rw [← List.append_assoc, digitsValue_append, digitsValue_append, inductionHypothesis,
        List.length_append, List.length_singleton, pow_succ]
      ring

theorem digitsValue_replicate_zero (count : ℕ) : digitsValue (List.replicate count '0') = 0 := by
  induction count with
  | zero => rfl
  | succ count inductionHypothesis =>
      rw [List.replicate_succ', digitsValue_append, inductionHypothesis]
      rfl

/-- A number that is not zero does not start with a zero. -/
theorem head?_digits (positive : 0 < units) : (digits units).head? ≠ some '0' := by
  induction units using Nat.strongRecOn with
  | ind units inductionHypothesis =>
    by_cases single : units < 10
    · have plain : ∀ digit < 10, 0 < digit → [digit.digitChar].head? ≠ some '0' := by decide
      rw [digits, Nat.toDigits_of_lt_base single]
      exact plain units single positive
    · have front := inductionHypothesis (units / 10) (by omega) (by omega)
      rw [digits, Nat.toDigits_of_base_le (by decide) (by omega)]
      rwa [List.head?_append_of_ne_nil _ Nat.toDigits_ne_nil]

theorem length_padZeros (count : ℕ) (text : List Char) :
    (padZeros count text).length = max count text.length := by
  rw [padZeros, List.length_append, List.length_replicate]
  omega

theorem digitsValue_padZeros (count : ℕ) (text : List Char) :
    digitsValue (padZeros count text) = digitsValue text := by
  rw [padZeros, digitsValue_append_digits, digitsValue_replicate_zero, zero_mul, zero_add]

theorem isDigit_padZeros {count : ℕ} (digits : ∀ symbol ∈ text, isDigit symbol = true) :
    ∀ symbol ∈ padZeros count text, isDigit symbol = true := by
  intro symbol member
  rcases List.mem_append.mp member with zero | digit
  · rw [List.eq_of_mem_replicate zero]
    decide
  · exact digits symbol digit

/-- Zeros that are filled in leave a single digit in front of the places. -/
theorem take_padZeros_digits
    (zero : (padZeros (places + 1) (digits units)).head? = some '0') :
    (padZeros (places + 1) (digits units)).length = places + 1 := by
  rw [length_padZeros]
  by_contra several
  have enough : places + 1 < (digits units).length := by omega
  have plain : padZeros (places + 1) (digits units) = digits units := by
    rw [padZeros, Nat.sub_eq_zero_of_le enough.le]
    rfl
  rw [plain] at zero
  refine head?_digits (Nat.pos_of_ne_zero ?_) zero
  rintro rfl
  exact absurd enough (by simp [digits])

/-- Digits around a point stand for a whole number of units. There is no needless zero in front. -/
structure IsPointed (places units : ℕ) (whole fraction : List Char) : Prop where
  numeral : IsNumeral whole
  shortest : whole.head? = some '0' → whole = ['0']
  digits : ∀ symbol ∈ fraction, isDigit symbol = true
  length : fraction.length = places
  value : digitsValue whole * 10 ^ places + digitsValue fraction = units

/-- The digits are filled up with zeros so that one of them stands in front of the point. -/
theorem pointText_eq (places units : ℕ) : ∃ whole fraction,
    pointText places units = whole ++ '.' :: fraction ∧ IsPointed places units whole fraction := by
  have filled := @isDigit_padZeros _ (places + 1) (isNumeral_digits units).2
  have length := length_padZeros (places + 1) (digits units)
  have value := digitsValue_padZeros (places + 1) (digits units)
  have zero := @take_padZeros_digits places units
  unfold pointText
  generalize padZeros (places + 1) (digits units) = padded at *
  have front : (padded.take (padded.length - places)).length = padded.length - places := by
    rw [List.length_take]
    omega
  have behind : (padded.drop (padded.length - places)).length = places := by
    rw [List.length_drop]
    omega
  refine ⟨_, _, rfl, ⟨?_, fun symbol member => filled symbol (List.mem_of_mem_take member)⟩, ?_,
    fun symbol member => filled symbol (List.mem_of_mem_drop member), behind, ?_⟩
  · intro nothing
    rw [nothing] at front
    simp at front
    omega
  · intro isZero
    rw [List.head?_take, if_neg (by omega)] at isZero
    obtain ⟨first, others, rfl⟩ : ∃ first others, padded = first :: others :=
      List.exists_cons_of_length_pos (by omega)
    rw [zero isZero, Nat.add_sub_cancel_left, List.take_one, isZero]
    rfl
  · have joined := digitsValue_append_digits (padded.take (padded.length - places))
      (padded.drop (padded.length - places))
    rw [List.take_append_drop, behind, value, digitsValue_digits] at joined
    exact joined.symm

theorem length_digits_le {count : ℕ} (positive : 0 < count) (bounded : units < 10 ^ count) :
    (digits units).length ≤ count :=
  (Nat.length_toDigits_le_iff (by decide) positive).mpr bounded

theorem length_pointText (places units : ℕ) :
    (pointText places units).length = max (places + 1) (digits units).length + 1 := by
  rw [pointText, List.length_append, List.length_cons, List.length_take, List.length_drop,
    length_padZeros]
  omega

theorem digits_mul_tenPower (positive : 0 < units) (places : ℕ) :
    digits (units * 10 ^ places) = digits units ++ List.replicate places '0' := by
  induction places with
  | zero => simp
  | succ places inductionHypothesis =>
      have shifted := Nat.toDigits_append_toDigits (by decide : 1 < 10)
        (Nat.mul_pos positive (Nat.pow_pos (by decide) : 0 < 10 ^ places)) (by decide : 0 < 10)
      rw [pow_succ, ← mul_assoc, mul_comm _ 10, ← add_zero (10 * _), digits, ← shifted, ← digits,
        inductionHypothesis, List.append_assoc, List.replicate_succ']
      rfl

/-- A whole number is written with zeros behind the point. -/
theorem pointText_whole (places count : ℕ) :
    pointText places (count * 10 ^ places) = digits count ++ '.' :: List.replicate places '0' := by
  have padded : padZeros (places + 1) (digits (count * 10 ^ places)) =
      digits count ++ List.replicate places '0' := by
    rcases Nat.eq_zero_or_pos count with rfl | positive
    · have turned : List.replicate places '0' ++ ['0'] = '0' :: List.replicate places '0' := by
        rw [← List.replicate_succ', List.replicate_succ]
      rw [zero_mul]
      exact turned
    · have filled : 0 < (digits count).length := List.length_pos_iff.mpr Nat.toDigits_ne_nil
      rw [digits_mul_tenPower positive, padZeros, Nat.sub_eq_zero_of_le]
      · rfl
      · rw [List.length_append, List.length_replicate]
        omega
  have front : (digits count ++ List.replicate places '0').length - places =
      (digits count).length := by
    rw [List.length_append, List.length_replicate, Nat.add_sub_cancel]
  rw [pointText, padded, front, List.take_left, List.drop_left]

theorem even_digit {symbol : Char} (digit : isDigit symbol = true) (even : 2 ∣ digitValue symbol) :
    symbol ∈ ['0', '2', '4', '6', '8'] := by
  have listed : ∀ value < 10, 2 ∣ value → Char.ofNat (48 + value) ∈ ['0', '2', '4', '6', '8'] := by
    decide
  obtain ⟨least, greatest⟩ := toNat_of_isDigit digit
  have code : 48 + digitValue symbol = symbol.toNat := Nat.add_sub_cancel' least
  have same : symbol = Char.ofNat (48 + digitValue symbol) := by
    rw [code, Char.ofNat_toNat]
  rw [same]
  exact listed _ (by omega) even

/-- The last digit of an even number of units is even. -/
theorem IsPointed.even_last {whole fraction : List Char}
    (pointed : IsPointed (places + 1) units whole fraction) (even : 2 ∣ units) :
    ∃ last ∈ ['0', '2', '4', '6', '8'], fraction.getLast? = some last := by
  obtain ⟨others, last, rfl⟩ : ∃ others last, fraction = others ++ [last] := by
    rcases List.eq_nil_or_concat fraction with rfl | ⟨others, last, rfl⟩
    · exact absurd pointed.length (by simp)
    · exact ⟨others, last, List.concat_eq_append⟩
  have value := pointed.value
  rw [digitsValue_append, pow_succ, ← mul_assoc] at value
  exact ⟨last, even_digit (pointed.digits last (by simp)) (by omega), List.getLast?_concat⟩

end Digits

/-- The units of a number with fixed places. -/
def Binary.units (places : ℕ) (value : Binary) : ℕ :=
  roundQuotient (value.numerator * tenPower places) value.denominator

section Rounding

/-- Quotients are rounded to the nearest whole number. -/
theorem roundQuotient_eq (numerator : ℕ) {denominator : ℕ} (positive : 0 < denominator) :
    (roundQuotient numerator denominator : ℤ) = nearestWhole (numerator / denominator) := by
  have denominatorPositive : (0 : ℚ) < denominator := by exact_mod_cast positive
  have floor : ⌊(numerator : ℚ) / denominator⌋ = (numerator / denominator : ℕ) :=
    Rat.floor_natCast_div_natCast numerator denominator
  have rest : (numerator : ℚ) / denominator - (numerator / denominator : ℕ) =
      (numerator % denominator : ℕ) / denominator := by
    rw [quotient_eq numerator positive, add_sub_cancel_left]
  have below : ((numerator % denominator : ℕ) : ℚ) / denominator < 1 / 2 ↔
      2 * (numerator % denominator) < denominator := by
    rw [div_lt_div_iff₀ denominatorPositive two_pos]
    norm_cast
    omega
  have above : 1 / 2 < ((numerator % denominator : ℕ) : ℚ) / denominator ↔
      denominator < 2 * (numerator % denominator) := by
    rw [div_lt_div_iff₀ two_pos denominatorPositive]
    norm_cast
    omega
  unfold roundQuotient nearestWhole
  simp only [floor, Int.cast_natCast, rest, below, above]
  split
  · rfl
  · split <;> simp

/-- The sign counts for all digits and the point. -/
def decimalValue (text : List Char) : ℚ :=
  let (negative, magnitude) := splitSign text
  let (whole, fraction, _) := splitPoint magnitude
  let size : ℚ := digitsValue whole + digitsValue fraction / 10 ^ fraction.length
  if negative then -size else size

variable {places units : ℕ} {whole fraction : List Char}

theorem decimalValue_signed (negative : Bool) (pointed : IsPointed places units whole fraction) :
    decimalValue (signText negative ++ (whole ++ '.' :: fraction)) =
      if negative then -(units / 10 ^ places : ℚ) else units / 10 ^ places := by
  have unit : (10 : ℚ) ^ places ≠ 0 := by positivity
  have parts : splitPoint (whole ++ '.' :: fraction) = (whole, fraction, []) := by
    have cut := @splitPoint_of_point _ _ [] pointed.numeral.2 pointed.digits (by simp)
    rwa [List.append_nil] at cut
  have size : (digitsValue whole + digitsValue fraction / 10 ^ fraction.length : ℚ) =
      units / 10 ^ places := by
    rw [pointed.length, eq_div_iff unit, add_mul, div_mul_cancel₀ _ unit]
    exact_mod_cast pointed.value
  have signed : IsSign (signText negative) := by
    cases negative
    · exact .absent
    · exact .minus
  have sign : splitSign (signText negative ++ (whole ++ '.' :: fraction)) =
      (signText negative == ['-'], whole ++ '.' :: fraction) := by
    apply splitSign_append signed
    · exact head?_digits_append pointed.numeral.2 (by decide) (by simp)
    · exact head?_digits_append pointed.numeral.2 (by decide) (by simp)
  unfold decimalValue
  rw [sign]
  dsimp only
  rw [parts]
  dsimp only
  rw [size]
  cases negative <;> rfl

theorem cast_tenPower (exponent : ℕ) : ((tenPower exponent : ℕ) : ℚ) = 10 ^ exponent :=
  Nat.cast_pow 10 exponent

theorem units_eq (places : ℕ) (binary : Binary) :
    (binary.units places : ℤ) = nearestWhole (binary.magnitude * 10 ^ places) := by
  rw [Binary.units, roundQuotient_eq _ binary.denominator_pos, magnitude_eq_div, Nat.cast_mul,
    cast_tenPower, div_mul_eq_mul_div]

theorem units_le {binary : Binary} {limit : ℕ} (bounded : binary.magnitude ≤ limit) :
    binary.units places ≤ limit * 10 ^ places := by
  have least : (binary.units places : ℤ) ≤ (limit * 10 ^ places : ℕ) := by
    rw [units_eq, ← nearestWhole_intCast (limit * 10 ^ places : ℕ)]
    apply nearestWhole_mono
    push_cast
    exact mul_le_mul_of_nonneg_right bounded (by positivity)
  exact_mod_cast least

theorem units_of_value {binary : Binary} {count : ℕ} (value : binary.magnitude = count) :
    binary.units places = count * 10 ^ places := by
  have whole : (binary.units places : ℤ) = (count * 10 ^ places : ℕ) := by
    rw [units_eq, value, ← nearestWhole_intCast (count * 10 ^ places : ℕ)]
    push_cast
    rfl
  exact_mod_cast whole

/-- A text with fixed places stands for the nearest number with so many places. -/
theorem fixedText_eq (places : ℕ) (binary : Binary) : ∃ whole fraction,
    fixedText places binary = signText binary.negative ++ (whole ++ '.' :: fraction) ∧
      IsPointed places (binary.units places) whole fraction ∧
      decimalValue (fixedText places binary) =
        nearestWhole (binary.value * 10 ^ places) / 10 ^ places := by
  obtain ⟨whole, fraction, written, pointed⟩ := pointText_eq places (binary.units places)
  have text : fixedText places binary = signText binary.negative ++ (whole ++ '.' :: fraction) :=
    congrArg _ written
  refine ⟨whole, fraction, text, pointed, ?_⟩
  have units := units_eq places binary
  rw [text, decimalValue_signed _ pointed, Binary.value]
  cases binary.negative with
  | false =>
      rw [if_neg Bool.false_ne_true, if_neg Bool.false_ne_true, ← units, Int.cast_natCast]
  | true =>
      rw [if_pos rfl, if_pos rfl, neg_mul, nearestWhole_neg, ← units, Int.cast_neg,
        Int.cast_natCast, neg_div]

end Rounding

end BenchmarkReport.Number
