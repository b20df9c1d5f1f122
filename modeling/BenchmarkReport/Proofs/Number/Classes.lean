/-
This file divides the doubles into finite values, infinities and what is no number, counts the
members of a list by these classes, and finds the class of a whole number.
-/

import BenchmarkReport.Statistics.Summary

namespace BenchmarkReport.Number

open Statistics

/-- A double is finite unless it is no number or an infinity. -/
theorem isFinite_eq (value : Float) : value.isFinite = (!value.isNaN && !value.isInf) := by
  have classes (unpacked : Float.Model.UnpackedFloat) :
      unpacked.isFinite = (!unpacked.isNaN && !unpacked.isInf) := by
    cases unpacked <;> rfl
  exact classes value.toModel.unpack

/-- An infinity is a number. -/
theorem isNaN_of_isInf {value : Float} (infinite : value.isInf = true) : value.isNaN = false := by
  have classes (unpacked : Float.Model.UnpackedFloat) (infinite : unpacked.isInf = true) :
      unpacked.isNaN = false := by
    cases unpacked with
    | infinity sign => rfl
    | notANumber | zero | finite => exact Bool.noConfusion infinite
  exact classes value.toModel.unpack infinite

section Counting

variable (values : List Float)

theorem countP_isFinite_add :
    values.countP (·.isFinite) + values.countP (!·.isFinite) = values.length := by
  rw [List.length_eq_countP_add_countP (·.isFinite)]
  simp

/-- What is present is finite or an infinity. -/
theorem present_length :
    (present values).length = values.countP (·.isFinite) + values.countP (·.isInf) := by
  rw [present, ← List.countP_eq_length_filter]
  induction values with
  | nil => rfl
  | cons value others inductionHypothesis =>
      simp only [List.countP_cons, inductionHypothesis, isFinite_eq]
      cases infinite : value.isInf with
      | true =>
          rw [isNaN_of_isInf infinite]
          simp
          omega
      | false =>
          simp
          omega

end Counting

section Conversion

open Float.Model Float.Model.UnpackedFloat

theorem isNaN_dite {test : Prop} [Decidable test] {first : test → UnpackedFloat}
    {second : ¬ test → UnpackedFloat} (firstNumber : ∀ holds, (first holds).isNaN = false)
    (secondNumber : ∀ fails, (second fails).isNaN = false) :
    (if holds : test then first holds else second holds).isNaN = false := by
  by_cases holds : test
  · rw [dif_pos holds]
    exact firstNumber holds
  · rw [dif_neg holds]
    exact secondNumber holds

/-- Bits stand for a number unless their exponent is the greatest and their fraction is not zero. -/
theorem isNaN_unpack {bits : BitVec Format.binary64.numBits}
    (number : unpackExponent bits ≠ -1#_ ∨ unpackMantissa bits = 0#_) :
    (unpack .binary64 bits).isNaN = false := by
  unfold UnpackedFloat.unpack
  dsimp only
  by_cases greatest : unpackExponent bits = -1#_
  · rw [if_pos greatest, if_pos (number.resolve_left (not_not_intro greatest))]
    rfl
  · rw [if_neg greatest]
    by_cases least : unpackExponent bits = 0#_
    · rw [if_pos least]
      exact isNaN_dite (fun _ => rfl) fun _ => rfl
    · rw [if_neg least]
      rfl

theorem isNaN_unpack_packComponents (sign : Sign) {exponent : BitVec Format.binary64.exponentBits}
    {mantissa : BitVec Format.binary64.mantissaBitsWithoutImplicit}
    (number : exponent ≠ -1#_ ∨ mantissa = 0#_) :
    (unpack .binary64 (packComponents .binary64 sign exponent mantissa)).isNaN = false := by
  apply isNaN_unpack
  rw [unpackExponent_packComponents, unpackMantissa_packComponents]
  exact number

/-- A number is still one after it was packed. -/
theorem isNaN_pack {value : UnpackedFloat} (number : value.isNaN = false) :
    (Float.Model.pack value).isNaN = false := by
  show (unpack .binary64 (pack .binary64 value)).isNaN = false
  cases value with
  | notANumber => exact Bool.noConfusion number
  | infinity sign => exact isNaN_unpack_packComponents sign (Or.inr rfl)
  | zero sign => exact isNaN_unpack_packComponents sign (Or.inr rfl)
  | finite sign mantissa exponent positive =>
      unfold UnpackedFloat.pack
      dsimp only
      split
      · exact isNaN_unpack_packComponents sign (Or.inr rfl)
      · rename_i small
        split
        · apply isNaN_unpack_packComponents sign
          left
          intro greatest
          have bound := Nat.lt_of_not_le small
          have bits := congrArg BitVec.toNat greatest
          have top : (-BitVec.ofNat Format.binary64.exponentBits 1).toNat + 1 =
              2 ^ Format.binary64.exponentBits := by decide
          rw [BitVec.toNat_ofNat, Nat.mod_eq_of_lt (Nat.lt_of_succ_lt bound)] at bits
          rw [bits, top] at bound
          exact Nat.lt_irrefl _ bound
        · exact isNaN_unpack_packComponents sign (Or.inl (by decide))

theorem isNaN_roundWithAccuracy (format : Format) (sign : Sign) (mantissa : Nat) (exponent : Int)
    (accuracy : Accuracy) :
    (roundWithAccuracy format sign mantissa exponent accuracy).isNaN = false := by
  unfold roundWithAccuracy
  exact isNaN_dite (fun _ => rfl) fun _ => rfl

theorem isNaN_normalize (format : Format) (mantissa exponent : Int) (sign : Sign) :
    (UnpackedFloat.normalize format mantissa exponent sign).isNaN = false := by
  unfold UnpackedFloat.normalize
  split
  · exact isNaN_roundWithAccuracy ..
  · rfl
  · exact isNaN_roundWithAccuracy ..

/-- A number times a finite number other than zero is a number. -/
theorem isNaN_mul_finite (format : Format) {value : UnpackedFloat} (number : value.isNaN = false)
    (sign : Sign) (mantissa : Nat) (exponent : Int) (positive : 0 < mantissa) :
    (mul format value (.finite sign mantissa exponent positive)).isNaN = false := by
  cases value with
  | notANumber => exact Bool.noConfusion number
  | infinity sign => rfl
  | zero sign => rfl
  | finite sign mantissa exponent positive => exact isNaN_roundWithAccuracy ..

theorem isNaN_ofScientific (format : Format) (mantissa : Nat) :
    (ofScientific format mantissa 0).isNaN = false := by
  unfold UnpackedFloat.ofScientific
  apply isNaN_dite
  · exact fun _ => rfl
  · intro positive
    by_cases great : 0 > (2 : Int) ^ format.exponentBits
    · rw [if_pos great]
      rfl
    · by_cases small : 0 < -((2 : Int) ^ format.exponentBits + mantissa.log2)
      · rw [if_neg great, if_pos small]
        rfl
      · rw [if_neg great, if_neg small, if_pos (Int.le_refl 0)]
        exact isNaN_mul_finite format rfl ..

theorem isNaN_neg {value : UnpackedFloat} (number : value.isNaN = false) :
    value.neg.isNaN = false := by
  cases value with
  | notANumber => exact Bool.noConfusion number
  | infinity | zero | finite => rfl

/-- A count is a number. -/
theorem isNaN_ofNat (count : Nat) : (Float.ofNat count).isNaN = false := by
  have one : (Float.exactlyRepresentablePowersOfTen[0]).toModel.unpack =
      .finite .positive (2 ^ 52) (-52) (by decide) := rfl
  show (Float.ofScientific count false 0).isNaN = false
  unfold Float.ofScientific
  split
  · show (Float.Model.mul _ _).isNaN = false
    apply isNaN_pack
    rw [one]
    apply isNaN_mul_finite
    exact isNaN_pack (isNaN_normalize ..)
  · exact isNaN_pack (isNaN_ofScientific ..)

/-- A whole number rounds to a number. -/
theorem isNaN_ofInt (value : Int) : (Float.ofInt value).isNaN = false := by
  cases value with
  | ofNat count => exact isNaN_ofNat count
  | negSucc count => exact isNaN_pack (isNaN_neg (isNaN_ofNat (count + 1)))

theorem isNaN_quotient : (0 / 0 : Float).isNaN = true := by decide

end Conversion

end BenchmarkReport.Number
