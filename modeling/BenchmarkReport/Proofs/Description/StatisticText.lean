/-
This file shows that a statistic is written as the nearest number with six decimal places, that its
sign is kept, and that greater values have no smaller texts.
-/

import BenchmarkReport.Description.Printer
import BenchmarkReport.Proofs.Number.FixedPlaces

namespace BenchmarkReport

open Number Text

/-- The first bit of a double. -/
def signBit (value : Float) : Bool :=
  value.toBits.toNat.testBit 63

section Classes

variable {value : Float}

theorem signBit_eq (value : Float) : signBit value = (value.toBits.toNat / twoPower 63 == 1) := by
  have bound : value.toBits.toNat < 2 ^ 64 := value.toBits.toNat_lt
  have shifted : value.toBits.toNat / 2 ^ 63 < 2 := by omega
  unfold signBit twoPower
  rw [Nat.testBit_eq_decide_div_mod_eq, Nat.mod_eq_of_lt shifted]
  rfl

/-- The sign of a double is its first bit. -/
theorem negative_of_finite {binary : Binary} (read : Extended.ofFloat value = .finite binary) :
    binary.negative = signBit value := by
  rw [signBit_eq]
  unfold Extended.ofFloat Extended.ofBits at read
  dsimp only at read
  split at read
  · split at read <;> exact Extended.noConfusion read
  · split at read <;> rw [← Extended.finite.inj read]

theorem negative_of_infinity {negative : Bool}
    (read : Extended.ofFloat value = .infinity negative) : negative = signBit value := by
  rw [signBit_eq]
  unfold Extended.ofFloat Extended.ofBits at read
  dsimp only at read
  split at read
  · split at read
    · exact (Extended.infinity.inj read).symm
    · exact Extended.noConfusion read
  · split at read <;> exact Extended.noConfusion read

theorem ofFloat_of_isNaN (none : value.isNaN = true) : Extended.ofFloat value = .nan := by
  change value.toModel.unpack.isNaN = true at none
  rw [ofFloat_eq_ofUnpacked]
  cases unpacked : value.toModel.unpack with
  | notANumber => rfl
  | infinity | zero | finite =>
      rw [unpacked] at none
      exact Bool.noConfusion none

theorem ofFloat_of_isInf (infinite : value.isInf = true) :
    Extended.ofFloat value = .infinity (signBit value) := by
  change value.toModel.unpack.isInf = true at infinite
  have read := ofFloat_eq_ofUnpacked value
  cases unpacked : value.toModel.unpack with
  | infinity sign =>
      rw [unpacked, Extended.ofUnpacked_infinity] at read
      rw [read, negative_of_infinity read]
  | notANumber | zero | finite =>
      rw [unpacked] at infinite
      exact Bool.noConfusion infinite

end Classes

section Places

variable {value other : Float} {exact : ℚ}

/-- A value that is not finite has a name, and an infinity keeps its sign. -/
theorem statisticText_named (value : Float) :
    (value.isNaN = true → statisticText value = "NaN".toList) ∧
    (value.isInf = true → statisticText value = signText (signBit value) ++ "inf".toList) := by
  constructor
  · intro none
    unfold statisticText
    rw [ofFloat_of_isNaN none]
  · intro infinite
    unfold statisticText
    rw [ofFloat_of_isInf infinite]
    cases signBit value <;> rfl

/-- A finite value is written with its sign, a whole number and six places. -/
theorem statisticText_eq {binary : Binary} (read : Extended.ofFloat value = .finite binary) :
    ∃ whole fraction,
      statisticText value = signText (signBit value) ++ (whole ++ '.' :: fraction) ∧
      IsPointed 6 (binary.units 6) whole fraction ∧
      decimalValue (statisticText value) = nearestWhole (binary.value * 10 ^ 6) / 10 ^ 6 := by
  obtain ⟨whole, fraction, written, pointed, reads⟩ := fixedText_eq statisticPlaces binary
  have text : statisticText value = fixedText statisticPlaces binary := by
    unfold statisticText
    rw [read]
  rw [text, ← negative_of_finite read]
  exact ⟨whole, fraction, written, pointed, reads⟩

theorem decimalValue_statisticText (valued : HasValue value exact) :
    decimalValue (statisticText value) = nearestWhole (exact * 10 ^ 6) / 10 ^ 6 := by
  obtain ⟨binary, read, rfl⟩ := valued
  obtain ⟨-, -, -, -, reads⟩ := statisticText_eq read
  exact reads

theorem even_units {binary : Binary} {places : ℕ}
    (even : 2 ∣ nearestWhole (binary.value * 10 ^ places)) : 2 ∣ binary.units places := by
  have units := units_eq places binary
  unfold Binary.value at even
  split at even
  · rw [neg_mul, nearestWhole_neg, dvd_neg, ← units] at even
    exact_mod_cast even
  · rw [← units] at even
    exact_mod_cast even

/-- The distance of a text from its value, in units of the last place. -/
theorem decimalValue_distance (valued : HasValue value exact) :
    |decimalValue (statisticText value) - exact| =
      |exact * 10 ^ 6 - nearestWhole (exact * 10 ^ 6)| / 10 ^ 6 := by
  have scaled : decimalValue (statisticText value) - exact =
      -(exact * 10 ^ 6 - nearestWhole (exact * 10 ^ 6)) / 10 ^ 6 := by
    rw [decimalValue_statisticText valued]
    ring
  rw [scaled, abs_div, abs_neg, abs_of_pos (by norm_num : (0 : ℚ) < 10 ^ 6)]

/-- Greater values have no smaller texts. -/
theorem decimalValue_mono (finite : value.isFinite = true) (finiteOther : other.isFinite = true)
    (ordered : value ≤ other) :
    decimalValue (statisticText value) ≤ decimalValue (statisticText other) := by
  obtain ⟨exact, valued⟩ := hasValue_of_isFinite finite
  obtain ⟨exactOther, valuedOther⟩ := hasValue_of_isFinite finiteOther
  have exactOrdered := (valued.le_iff valuedOther).mp ordered
  rw [decimalValue_statisticText valued, decimalValue_statisticText valuedOther]
  apply div_le_div_of_nonneg_right _ (by norm_num)
  exact_mod_cast nearestWhole_mono (mul_le_mul_of_nonneg_right exactOrdered (by norm_num))

/-- The greatest doubles have three hundred and nine digits in front of the point. -/
theorem length_statisticText_le (value : Float) : (statisticText value).length ≤ 317 := by
  unfold statisticText
  cases read : Extended.ofFloat value with
  | nan => decide
  | infinity negative => cases negative <;> decide
  | finite binary =>
      have bounded : binary.magnitude ≤ (2 ^ 1024 : ℕ) := by
        rw [← abs_value, Nat.cast_pow]
        exact (HasValue.bounded ⟨binary, read, rfl⟩).le
      have below : 2 ^ 1024 * 10 ^ statisticPlaces < 10 ^ 315 := by
        rw [statisticPlaces]
        decide +kernel
      have units := (@units_le statisticPlaces _ _ bounded).trans_lt below
      have digits := length_digits_le (by decide) units
      have sign : (signText binary.negative).length ≤ 1 := by
        cases binary.negative <;> decide
      have pointed := length_pointText statisticPlaces (binary.units statisticPlaces)
      have places : statisticPlaces = 6 := rfl
      have text : fixedText statisticPlaces binary =
        signText binary.negative ++ pointText statisticPlaces (binary.units statisticPlaces) := rfl
      dsimp only
      rw [text, List.length_append]
      omega

/-- A count is written with all its digits. -/
theorem statisticText_count {count : ℕ} (bits : count < 2 ^ 53) :
    statisticText (Float.ofNat count) = digits count ++ ".000000".toList := by
  rcases Nat.eq_zero_or_pos count with rfl | positive
  · decide +kernel
  · obtain ⟨binary, read, value⟩ := hasValue_ofNat bits
    have magnitude : binary.magnitude = count := by
      rw [← abs_value, value, Nat.abs_cast]
    have sign : binary.negative = false := by
      by_contra negative
      rw [Binary.value, if_pos (Bool.of_not_eq_false negative), magnitude] at value
      have above : (0 : ℚ) < count := by exact_mod_cast positive
      linarith
    have text : statisticText (Float.ofNat count) =
        signText binary.negative ++ pointText statisticPlaces (binary.units statisticPlaces) := by
      unfold statisticText
      rw [read]
      rfl
    rw [text, sign, units_of_value magnitude, pointText_whole]
    rfl

end Places

/-- A finite statistic is written as a whole number without needless zeros, a point and six digits,
behind a minus just when its first bit is set. The text is at most half a unit of its last place away
from the value, and ends with an even digit if it is just as far away. Greater values have no smaller
texts. What is no number and the infinities have names. -/
theorem statisticText_rounded :
    (∀ value : Float, value.isFinite = true → ∃ exact whole fraction, HasValue value exact ∧
      statisticText value = signText (signBit value) ++ (whole ++ '.' :: fraction) ∧
      IsNumeral whole ∧ (whole.head? = some '0' → whole = ['0']) ∧
      fraction.length = 6 ∧ (∀ symbol ∈ fraction, isDigit symbol = true) ∧
      |decimalValue (statisticText value) - exact| ≤ 1 / 2000000 ∧
      (|decimalValue (statisticText value) - exact| = 1 / 2000000 →
        ∃ last ∈ ['0', '2', '4', '6', '8'], fraction.getLast? = some last)) ∧
    (∀ value other : Float, value.isFinite = true → other.isFinite = true → value ≤ other →
      decimalValue (statisticText value) ≤ decimalValue (statisticText other)) ∧
    (∀ value : Float, value.isNaN = true → statisticText value = "NaN".toList) ∧
    (∀ value : Float, value.isInf = true →
      statisticText value = signText (signBit value) ++ "inf".toList) := by
  refine ⟨fun value finite => ?_, fun _ _ => decimalValue_mono,
    fun value => (statisticText_named value).1, fun value => (statisticText_named value).2⟩
  obtain ⟨exact, binary, read, same⟩ := hasValue_of_isFinite finite
  obtain ⟨whole, fraction, written, pointed, -⟩ := statisticText_eq read
  have distance := decimalValue_distance ⟨binary, read, same⟩
  have nearest := isNearestWhole_nearestWhole (exact * 10 ^ 6)
  refine ⟨exact, whole, fraction, ⟨binary, read, same⟩, written, pointed.numeral, pointed.shortest,
    pointed.length, pointed.digits, ?_, fun half => ?_⟩
  · rw [distance, div_le_iff₀ (by norm_num)]
    linarith [nearest.distance]
  · have between : |exact * 10 ^ 6 - nearestWhole (exact * 10 ^ 6)| = 1 / 2 := by
      rw [distance, div_eq_iff (by norm_num)] at half
      linarith
    rcases nearest with near | ⟨-, even⟩
    · exact absurd between near.ne
    · rw [← same] at even
      exact pointed.even_last (even_units even)

/-- The neighbours of 1/128 are equally near. -/
example : statisticText 0.0078125 = "0.007812".toList := by decide +kernel

end BenchmarkReport
