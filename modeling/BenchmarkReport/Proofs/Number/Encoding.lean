/-
This file compares the bits of a double with the unpacked doubles that the operations work on.
-/

import BenchmarkReport.Number.Binary
import Mathlib.Algebra.Ring.Nat

namespace BenchmarkReport.Number

open Float.Model Float.Model.UnpackedFloat

namespace Extended

/-- What an unpacked double stands for. -/
def ofUnpacked : UnpackedFloat → Extended
  | .notANumber => .nan
  | .infinity sign => .infinity (sign == .negative)
  | .zero sign => .finite ⟨sign == .negative, 0, leastExponent⟩
  | .finite sign mantissa exponent _ => .finite ⟨sign == .negative, mantissa, exponent⟩

theorem ofUnpacked_infinity (sign : Sign) :
    ofUnpacked (.infinity sign) = .infinity (sign == .negative) := rfl

theorem ofUnpacked_zero (sign : Sign) :
    ofUnpacked (.zero sign) = .finite ⟨sign == .negative, 0, leastExponent⟩ := rfl

theorem ofUnpacked_finite (sign : Sign) {mantissa : Nat} {exponent : Int}
    (positive : 0 < mantissa) : ofUnpacked (.finite sign mantissa exponent positive) =
      .finite ⟨sign == .negative, mantissa, exponent⟩ := rfl

/-- What a double with these fields stands for. -/
def ofFields (negative : Bool) (exponent fraction : Nat) : Extended :=
  if exponent = 2047 then
    if fraction = 0 then .infinity negative else .nan
  else if exponent = 0 then .finite ⟨negative, fraction, leastExponent⟩
  else .finite ⟨negative, twoPower fractionBits + fraction, leastExponent + (exponent - 1 : Nat)⟩

end Extended

/-- The mantissa has 53 bits, or fewer at the least exponent. -/
structure IsCanonical (mantissa : Nat) (exponent : Int) : Prop where
  bits : mantissa < 2 ^ 53
  least : leastExponent ≤ exponent
  full : 2 ^ 52 ≤ mantissa ∨ exponent = leastExponent

section Fields

variable (bits : BitVec Format.binary64.numBits)

theorem toNat_unpackMantissa : (unpackMantissa bits).toNat = bits.toNat % 2 ^ 52 := by
  unfold unpackMantissa
  simp

theorem toNat_unpackExponent : (unpackExponent bits).toNat = bits.toNat / 2 ^ 52 % 2 ^ 11 := by
  unfold unpackExponent
  simp [Nat.shiftRight_eq_div_pow]

theorem toNat_unpackSign : (unpackSign bits).toNat = bits.toNat / 2 ^ 63 := by
  have bound : bits.toNat / 2 ^ 63 < 2 := by
    rw [Nat.div_lt_iff_lt_mul (by decide)]
    exact bits.isLt
  unfold unpackSign
  simp only [BitVec.toNat_cast, BitVec.extractLsb_toNat, Nat.shiftRight_eq_div_pow]
  omega

theorem isNegative_ofBitVec (bit : BitVec 1) :
    (Sign.ofBitVec bit == Sign.negative) = (bit.toNat == 1) := by
  revert bit
  decide

/-- The leading bit stands in front of the other ones. -/
theorem toNat_leadingBit (fraction : BitVec Format.binary64.mantissaBitsWithoutImplicit) :
    (1#1 ++ fraction).toNat = 2 ^ 52 + fraction.toNat := by
  rw [BitVec.toNat_append, ← Nat.shiftLeft_add_eq_or_of_lt fraction.isLt]
  rfl

/-- An unpacked double stands for the fields that it was made of. -/
theorem ofUnpacked_unpack : Extended.ofUnpacked (UnpackedFloat.unpack .binary64 bits) =
    .ofFields ((unpackSign bits).toNat == 1) (unpackExponent bits).toNat
      (unpackMantissa bits).toNat := by
  have greatest : (unpackExponent bits).toNat = 2047 ↔ unpackExponent bits = -1#_ := by
    rw [← BitVec.toNat_inj]
    rfl
  have least : (unpackExponent bits).toNat = 0 ↔ unpackExponent bits = 0#_ := by
    rw [← BitVec.toNat_inj]
    rfl
  have noFraction : (unpackMantissa bits).toNat = 0 ↔ unpackMantissa bits = 0#_ := by
    rw [← BitVec.toNat_inj]
    rfl
  rw [← isNegative_ofBitVec]
  unfold UnpackedFloat.unpack
  dsimp only
  by_cases isGreatest : unpackExponent bits = -1#_
  · rw [if_pos isGreatest, Extended.ofFields, if_pos (greatest.mpr isGreatest)]
    by_cases empty : unpackMantissa bits = 0#_
    · rw [if_pos empty, if_pos (noFraction.mpr empty)]
      rfl
    · rw [if_neg empty, if_neg (mt noFraction.mp empty)]
      rfl
  · rw [if_neg isGreatest, Extended.ofFields, if_neg (mt greatest.mp isGreatest)]
    by_cases isLeast : unpackExponent bits = 0#_
    · rw [if_pos isLeast, if_pos (least.mpr isLeast)]
      by_cases empty : unpackMantissa bits = 0#_
      · rw [dif_pos empty, empty]
        rfl
      · rw [dif_neg empty, isLeast]
        rfl
    · have positive : 1 ≤ (unpackExponent bits).toNat := by
        rw [← least] at isLeast
        omega
      have bias : (Format.binary64.exponentBias : Int) = 1023 := rfl
      have width : (Format.binary64.mantissaBitsWithoutImplicit : Int) = 52 := rfl
      rw [if_neg isLeast, if_neg (mt least.mp isLeast), Extended.ofUnpacked_finite,
        toNat_leadingBit, bias, width]
      congr 2
      unfold leastExponent
      omega

/-- The bits of a double are read as what the unpacked double stands for. -/
theorem ofBits_eq_ofUnpacked :
    Extended.ofBits bits.toNat = .ofUnpacked (UnpackedFloat.unpack .binary64 bits) := by
  rw [ofUnpacked_unpack, toNat_unpackSign, toNat_unpackExponent, toNat_unpackMantissa]
  rfl

/-- Bits are unpacked to canonical fields, and the exponent has a greatest value. -/
theorem isCanonical_unpack {sign : Sign} {mantissa : Nat} {exponent : Int} {positive : 0 < mantissa}
    (unpacked : UnpackedFloat.unpack .binary64 bits = .finite sign mantissa exponent positive) :
    IsCanonical mantissa exponent ∧ exponent ≤ 971 := by
  have same := ofUnpacked_unpack bits
  have fraction : (unpackMantissa bits).toNat < 2 ^ 52 := (unpackMantissa bits).isLt
  have field : (unpackExponent bits).toNat < 2 ^ 11 := (unpackExponent bits).isLt
  have leading : twoPower fractionBits = 2 ^ 52 := rfl
  rw [unpacked, Extended.ofUnpacked_finite, Extended.ofFields] at same
  split at same
  · split at same <;> simp at same
  · split at same
    · simp only [Extended.finite.injEq, Binary.mk.injEq] at same
      obtain ⟨-, rfl, rfl⟩ := same
      exact ⟨⟨by omega, by decide, .inr rfl⟩, by decide⟩
    · simp only [Extended.finite.injEq, Binary.mk.injEq] at same
      obtain ⟨-, rfl, rfl⟩ := same
      exact ⟨⟨by omega, by omega, .inl (by omega)⟩, by unfold leastExponent; omega⟩

end Fields

section Packing

variable (sign : Sign)

theorem unpackSign_packComponents (exponent : BitVec Format.binary64.exponentBits)
    (fraction : BitVec Format.binary64.mantissaBitsWithoutImplicit) :
    unpackSign (packComponents .binary64 sign exponent fraction) = sign.toBitVec := by
  have low : exponent.toNat < 2 ^ 11 := exponent.isLt
  have lower : fraction.toNat < 2 ^ 52 := fraction.isLt
  apply BitVec.eq_of_toNat_eq
  rw [toNat_unpackSign, packComponents, BitVec.toNat_append,
    ← Nat.shiftLeft_add_eq_or_of_lt fraction.isLt, BitVec.toNat_append,
    ← Nat.shiftLeft_add_eq_or_of_lt exponent.isLt, Nat.shiftLeft_eq, Nat.shiftLeft_eq]
  change ((sign.toBitVec.toNat * 2 ^ 11 + exponent.toNat) * 2 ^ 52 + fraction.toNat) / 2 ^ 63 =
    sign.toBitVec.toNat
  omega

/-- What packed fields stand for. -/
theorem ofUnpacked_packComponents (exponent : BitVec Format.binary64.exponentBits)
    (fraction : BitVec Format.binary64.mantissaBitsWithoutImplicit) :
    Extended.ofUnpacked (UnpackedFloat.unpack .binary64
        (packComponents .binary64 sign exponent fraction)) =
      .ofFields (sign == .negative) exponent.toNat fraction.toNat := by
  rw [ofUnpacked_unpack, unpackSign_packComponents, unpackExponent_packComponents,
    unpackMantissa_packComponents]
  cases sign <;> rfl

/-- A canonical double is kept if its exponent is not too great. -/
theorem ofUnpacked_pack_finite {mantissa : Nat} {exponent : Int} (positive : 0 < mantissa)
    (canonical : IsCanonical mantissa exponent) : Extended.ofUnpacked
      (UnpackedFloat.unpack .binary64 (UnpackedFloat.pack .binary64
        (.finite sign mantissa exponent positive))) =
      if exponent ≤ 971 then .finite ⟨sign == .negative, mantissa, exponent⟩
      else .infinity (sign == .negative) := by
  obtain ⟨bits, least, full⟩ := canonical
  have log : mantissa.log2 < 53 := (Nat.log2_lt (Nat.ne_of_gt positive)).mpr bits
  let biased := (exponent + 1023 + 52).toNat
  have packed : UnpackedFloat.pack .binary64 (.finite sign mantissa exponent positive) =
      if 2 ^ 11 ≤ biased + 1 then packComponents .binary64 sign (-1#11) 0#52
      else if mantissa.log2 + 1 = 53 then
        packComponents .binary64 sign (.ofNat 11 biased) (.ofNat 52 mantissa)
      else packComponents .binary64 sign 0#11 (.ofNat 52 mantissa) := rfl
  have counted : (biased : Int) = exponent + 1075 := by
    unfold leastExponent at least
    omega
  rw [packed]
  by_cases great : exponent ≤ 971
  · rw [if_neg (by omega), if_pos great]
    by_cases normal : mantissa.log2 + 1 = 53
    · have leading : 2 ^ 52 ≤ mantissa := (Nat.le_log2 (Nat.ne_of_gt positive)).mp (by omega)
      have field : (BitVec.ofNat 11 biased).toNat = biased := by
        rw [BitVec.toNat_ofNat]
        omega
      have fraction : (BitVec.ofNat 52 mantissa).toNat = mantissa - 2 ^ 52 := by
        rw [BitVec.toNat_ofNat]
        omega
      have width : twoPower fractionBits = 2 ^ 52 := rfl
      have whole : 2 ^ 52 + (mantissa - 2 ^ 52) = mantissa := by omega
      have unit : leastExponent + (biased - 1 : Nat) = exponent := by
        unfold leastExponent at *
        omega
      rw [if_pos normal, ofUnpacked_packComponents, field, fraction, Extended.ofFields,
        if_neg (by omega), if_neg (by unfold leastExponent at least; omega), width, whole, unit]
    · have small : mantissa < 2 ^ 52 :=
        (Nat.log2_lt (Nat.ne_of_gt positive)).mp (by omega)
      have same : exponent = leastExponent := full.resolve_left (by omega)
      have fraction : (BitVec.ofNat 52 mantissa).toNat = mantissa := by
        rw [BitVec.toNat_ofNat]
        omega
      have field : (0#11).toNat = 0 := rfl
      rw [if_neg normal, ofUnpacked_packComponents, fraction, field, same, Extended.ofFields,
        if_neg (by decide), if_pos rfl]
  · rw [if_pos (by omega), if_neg great]
    exact ofUnpacked_packComponents sign _ _

end Packing

/-- The value of a double, as it is read from its bits, is that of the unpacked double. -/
theorem ofFloat_eq_ofUnpacked (value : Float) :
    Extended.ofFloat value = .ofUnpacked value.toModel.unpack :=
  ofBits_eq_ofUnpacked value.toModel.toBits.toBitVec

/-- Finite doubles have canonical fields or are zero, and the exponent has a greatest value. -/
theorem fields_of_finite {value : Float} {binary : Binary}
    (read : Extended.ofFloat value = .finite binary) :
    binary.mantissa < 2 ^ 53 ∧ binary.exponent ≤ 971 := by
  rw [ofFloat_eq_ofUnpacked] at read
  cases unpacked : value.toModel.unpack with
  | notANumber | infinity =>
      rw [unpacked] at read
      exact Extended.noConfusion read
  | zero sign =>
      rw [unpacked, Extended.ofUnpacked_zero, Extended.finite.injEq] at read
      rw [← read]
      cases sign <;> decide
  | finite sign mantissa exponent positive =>
      obtain ⟨canonical, greatest⟩ := isCanonical_unpack _ unpacked
      rw [unpacked, Extended.ofUnpacked_finite, Extended.finite.injEq] at read
      rw [← read]
      exact ⟨canonical.bits, greatest⟩

section Results

/-- The double that is packed from an unpacked one. -/
abbrev packed (unpacked : UnpackedFloat) : Float :=
  .ofModel (.pack unpacked)

theorem ofFloat_packed (unpacked : UnpackedFloat) : Extended.ofFloat (packed unpacked) =
    .ofUnpacked (UnpackedFloat.unpack .binary64 (UnpackedFloat.pack .binary64 unpacked)) :=
  ofFloat_eq_ofUnpacked _

theorem ofFloat_packed_nan : Extended.ofFloat (packed .notANumber) = .nan := by decide

theorem ofFloat_packed_infinity (sign : Sign) :
    Extended.ofFloat (packed (.infinity sign)) = .infinity (sign == .negative) := by
  cases sign <;> decide

theorem ofFloat_packed_zero (sign : Sign) : Extended.ofFloat (packed (.zero sign)) =
    .finite ⟨sign == .negative, 0, leastExponent⟩ := by
  cases sign <;> decide

end Results

end BenchmarkReport.Number
