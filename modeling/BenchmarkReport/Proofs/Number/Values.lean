/-
This file computes with doubles through their values. The result of an operation is the double
nearest to the exact result, or an infinity if there is no double so far out.
-/

import BenchmarkReport.Proofs.Number.Arithmetic

namespace BenchmarkReport.Number

open Float.Model Float.Model.UnpackedFloat

namespace Binary

/-- The value without its sign. -/
def magnitude (binary : Binary) : ℚ :=
  binary.mantissa * 2 ^ binary.exponent

def value (binary : Binary) : ℚ :=
  if binary.negative then -binary.magnitude else binary.magnitude

end Binary

/-- A double is finite and has this value. -/
def HasValue (number : Float) (exact : ℚ) : Prop :=
  ∃ binary, Extended.ofFloat number = .finite binary ∧ binary.value = exact

/-- No double is as great as this. -/
def overflow : ℚ := 2 ^ 1024

/-- A double is what a number is rounded to. Beyond the doubles there are only infinities. -/
structure IsRounded (exact : ℚ) (number : Float) : Prop where
  finite : |nearest exact| < overflow → HasValue number (nearest exact)
  above : overflow ≤ nearest exact → Extended.ofFloat number = .infinity false
  below : nearest exact ≤ -overflow → Extended.ofFloat number = .infinity true

theorem overflow_eq (bits : ℕ) (power : ℤ) (sum : power + bits = 1024) :
    overflow = 2 ^ bits * 2 ^ power := by
  rw [← pow_mul_unit, sum]
  rfl

theorem overflow_pos : 0 < overflow :=
  unit_pos 1024

section Unpacking

variable {number : Float} {exact : ℚ} {unpacked : UnpackedFloat}

theorem value_signFactor (sign : Sign) (mantissa : ℕ) (exponent : ℤ) :
    Binary.value ⟨sign == .negative, mantissa, exponent⟩ =
      signFactor sign * (mantissa * 2 ^ exponent) := by
  cases sign with
  | negative => exact (neg_one_mul _).symm
  | positive => exact (one_mul _).symm

theorem value_zero (negative : Bool) (exponent : ℤ) :
    Binary.value ⟨negative, 0, exponent⟩ = 0 := by
  unfold Binary.value Binary.magnitude
  simp

theorem Denotes.ofUnpacked (denotes : Denotes exact unpacked) :
    ∃ binary, Extended.ofUnpacked unpacked = .finite binary ∧ binary.value = exact := by
  cases denotes with
  | zero sign vanishes => exact ⟨_, rfl, (value_zero _ _).trans vanishes.symm⟩
  | @finite sign mantissa exponent positive canonical value =>
      exact ⟨_, rfl, (value_signFactor sign mantissa exponent).trans value⟩

/-- The value of a double is the number that the unpacked double stands for. -/
theorem hasValue_iff_denotes : HasValue number exact ↔ Denotes exact number.toModel.unpack := by
  unfold HasValue
  rw [ofFloat_eq_ofUnpacked]
  constructor
  · rintro ⟨binary, read, rfl⟩
    cases unpacked : number.toModel.unpack with
    | notANumber | infinity =>
        rw [unpacked] at read
        exact Extended.noConfusion read
    | zero sign =>
        rw [unpacked, Extended.ofUnpacked_zero, Extended.finite.injEq] at read
        rw [← read]
        exact .zero sign (value_zero _ _)
    | finite sign mantissa exponent positive =>
        rw [unpacked, Extended.ofUnpacked_finite, Extended.finite.injEq] at read
        rw [← read]
        exact .finite sign positive (isCanonical_unpack _ unpacked).1
          (value_signFactor sign mantissa exponent).symm
  · exact Denotes.ofUnpacked

theorem abs_value (binary : Binary) : |binary.value| = binary.magnitude := by
  have nonnegative : 0 ≤ binary.magnitude := mul_nonneg (Nat.cast_nonneg _) (unit_pos _).le
  unfold Binary.value
  split
  · rw [abs_neg, abs_of_nonneg nonnegative]
  · exact abs_of_nonneg nonnegative

theorem hasValue_of_isFinite (finite : number.isFinite = true) : ∃ exact, HasValue number exact := by
  change number.toModel.unpack.isFinite = true at finite
  unfold HasValue
  rw [ofFloat_eq_ofUnpacked]
  cases unpacked : number.toModel.unpack with
  | notANumber | infinity =>
      rw [unpacked] at finite
      exact Bool.noConfusion finite
  | zero | finite => exact ⟨_, _, rfl, rfl⟩

/-- There is no double beyond the limit. -/
theorem HasValue.bounded (valued : HasValue number exact) : |exact| < overflow := by
  obtain ⟨binary, read, rfl⟩ := valued
  obtain ⟨bits, greatest⟩ := fields_of_finite read
  rw [abs_value, Binary.magnitude]
  calc (binary.mantissa * 2 ^ binary.exponent : ℚ)
      < 2 ^ 53 * 2 ^ binary.exponent :=
        mul_lt_mul_of_pos_right (by exact_mod_cast bits) (unit_pos _)
    _ ≤ 2 ^ 53 * 2 ^ (971 : ℤ) :=
        mul_le_mul_of_nonneg_left (zpow_le_zpow_right₀ (by norm_num) greatest) (by norm_num)
    _ = overflow := (overflow_eq 53 971 rfl).symm

theorem HasValue.isDouble (valued : HasValue number exact) : IsDouble exact :=
  (hasValue_iff_denotes.mp valued).isDouble

theorem HasValue.nearest_eq (valued : HasValue number exact) : nearest exact = exact :=
  nearest_of_isDouble valued.isDouble

/-- A double has no other value. -/
theorem HasValue.unique {other : ℚ} (valued : HasValue number exact)
    (valuedOther : HasValue number other) : exact = other := by
  obtain ⟨binary, read, rfl⟩ := valued
  obtain ⟨binaryOther, readOther, rfl⟩ := valuedOther
  rw [read, Extended.finite.injEq] at readOther
  rw [readOther]

theorem HasValue.isRounded (valued : HasValue number (nearest exact)) : IsRounded exact number := by
  have bounds := abs_lt.mp valued.bounded
  exact
    { finite := fun _ => valued
      above := fun great => absurd bounds.2 great.not_gt
      below := fun small => absurd bounds.1 small.not_gt }

/-- A double is rounded to itself. -/
theorem IsRounded.hasValue (rounded : IsRounded exact number) (double : IsDouble exact)
    (within : |exact| < overflow) : HasValue number exact := by
  have same := nearest_of_isDouble double
  have valued := rounded.finite (by rwa [same])
  rwa [same] at valued

/-- A number between two doubles is rounded to a double between them. -/
theorem IsRounded.between {lower upper : Float} {least greatest : ℚ}
    (rounded : IsRounded exact number) (valuedLower : HasValue lower least)
    (valuedUpper : HasValue upper greatest) (above : least ≤ exact) (below : exact ≤ greatest) :
    HasValue number (nearest exact) ∧ least ≤ nearest exact ∧ nearest exact ≤ greatest := by
  have aboveNearest := nearest_mono above
  have belowNearest := nearest_mono below
  rw [valuedLower.nearest_eq] at aboveNearest
  rw [valuedUpper.nearest_eq] at belowNearest
  have within : |nearest exact| < overflow := abs_lt.mpr
    ⟨(abs_lt.mp valuedLower.bounded).1.trans_le aboveNearest,
      belowNearest.trans_lt (abs_lt.mp valuedUpper.bounded).2⟩
  exact ⟨rounded.finite within, aboveNearest, belowNearest⟩

/-- A number beyond the doubles is rounded to the infinity on its side. -/
theorem isRounded_of_infinity {sign : Sign} {magnitude : ℚ}
    (infinite : Extended.ofFloat number = .infinity (sign == .negative))
    (value : signFactor sign * magnitude = nearest exact) (beyond : overflow ≤ magnitude) :
    IsRounded exact number := by
  have limit := overflow_pos
  cases sign with
  | negative =>
      rw [signFactor, neg_one_mul] at value
      exact
        { finite := fun small => by linarith [(abs_lt.mp small).1]
          above := fun above => by linarith
          below := fun _ => infinite }
  | positive =>
      rw [signFactor, one_mul] at value
      exact
        { finite := fun small => by linarith [(abs_lt.mp small).2]
          above := fun _ => infinite
          below := fun below => by linarith }

/-- A canonical mantissa whose exponent is too great stands for a number beyond the doubles. -/
theorem IsCanonical.overflow_le {mantissa : ℕ} {exponent : ℤ}
    (canonical : IsCanonical mantissa exponent) (great : 971 < exponent) :
    overflow ≤ mantissa * 2 ^ exponent := by
  have full : 2 ^ 52 ≤ mantissa := by
    refine canonical.full.resolve_right ?_
    unfold leastExponent
    omega
  calc overflow
      = 2 ^ 52 * 2 ^ (972 : ℤ) := overflow_eq 52 972 rfl
    _ ≤ 2 ^ 52 * 2 ^ exponent :=
        mul_le_mul_of_nonneg_left (zpow_le_zpow_right₀ (by norm_num) (by omega)) (by norm_num)
    _ ≤ mantissa * 2 ^ exponent :=
        mul_le_mul_of_nonneg_right (by exact_mod_cast full) (unit_pos _).le

/-- A number is packed unless it is too great. -/
theorem Denotes.isRounded (denotes : Denotes (nearest exact) unpacked) :
    IsRounded exact (packed unpacked) := by
  cases denotes with
  | zero sign vanishes =>
      apply HasValue.isRounded
      exact ⟨_, ofFloat_packed_zero sign, (value_zero _ _).trans vanishes.symm⟩
  | @finite sign mantissa exponent positive canonical value =>
      have read := ofUnpacked_pack_finite sign positive canonical
      rw [← ofFloat_packed] at read
      by_cases great : exponent ≤ 971
      · rw [if_pos great] at read
        apply HasValue.isRounded
        exact ⟨_, read, (value_signFactor sign mantissa exponent).trans value⟩
      · rw [if_neg great] at read
        exact isRounded_of_infinity read value (canonical.overflow_le (not_le.mp great))

end Unpacking

section Operations

variable {first second : Float} {exactFirst exactSecond : ℚ}

theorem HasValue.neg (valued : HasValue first exactFirst) : HasValue (-first) (-exactFirst) := by
  have denotes := (hasValue_iff_denotes.mp valued).neg
  have rounded : IsRounded (-exactFirst) (-first) := denotes.rounded.isRounded
  exact rounded.hasValue denotes.isDouble (by rw [abs_neg]; exact valued.bounded)

theorem HasValue.add (valuedFirst : HasValue first exactFirst)
    (valuedSecond : HasValue second exactSecond) :
    IsRounded (exactFirst + exactSecond) (first + second) :=
  ((hasValue_iff_denotes.mp valuedFirst).add (hasValue_iff_denotes.mp valuedSecond)).isRounded

theorem float_add_comm (first second : Float) : first + second = second + first :=
  congrArg packed (add_symm .binary64 first.toModel.unpack second.toModel.unpack)

theorem HasValue.sub (valuedFirst : HasValue first exactFirst)
    (valuedSecond : HasValue second exactSecond) :
    IsRounded (exactFirst - exactSecond) (first - second) :=
  ((hasValue_iff_denotes.mp valuedFirst).sub (hasValue_iff_denotes.mp valuedSecond)).isRounded

theorem HasValue.mul (valuedFirst : HasValue first exactFirst)
    (valuedSecond : HasValue second exactSecond) :
    IsRounded (exactFirst * exactSecond) (first * second) :=
  ((hasValue_iff_denotes.mp valuedFirst).mul (hasValue_iff_denotes.mp valuedSecond)).isRounded

theorem HasValue.div (valuedFirst : HasValue first exactFirst)
    (valuedSecond : HasValue second exactSecond) (nonzero : exactSecond ≠ 0) :
    IsRounded (exactFirst / exactSecond) (first / second) :=
  ((hasValue_iff_denotes.mp valuedFirst).div (hasValue_iff_denotes.mp valuedSecond)
    nonzero).isRounded

theorem HasValue.compare_eq (valuedFirst : HasValue first exactFirst)
    (valuedSecond : HasValue second exactSecond) :
    first.toModel.unpack.compare second.toModel.unpack = some (compare exactFirst exactSecond) :=
  (hasValue_iff_denotes.mp valuedFirst).compare_eq (hasValue_iff_denotes.mp valuedSecond)

theorem HasValue.lt_iff (valuedFirst : HasValue first exactFirst)
    (valuedSecond : HasValue second exactSecond) : first < second ↔ exactFirst < exactSecond := by
  have same : first < second ↔
      decide ((first.toModel.unpack.compare second.toModel.unpack == some .lt) = true) = true :=
    Iff.rfl
  rw [same, valuedFirst.compare_eq valuedSecond, decide_eq_true_iff, beq_iff_eq,
    Option.some.injEq, compare_lt_iff_lt]

theorem HasValue.le_iff (valuedFirst : HasValue first exactFirst)
    (valuedSecond : HasValue second exactSecond) : first ≤ second ↔ exactFirst ≤ exactSecond := by
  have same : first ≤ second ↔
      decide ((first.toModel.unpack.compare second.toModel.unpack).any (·.isLE) = true) = true :=
    Iff.rfl
  rw [same, valuedFirst.compare_eq valuedSecond, decide_eq_true_iff, Option.any_some,
    ← Ordering.ne_gt_iff_isLE]
  exact compare_le_iff_le

theorem HasValue.beq_iff (valuedFirst : HasValue first exactFirst)
    (valuedSecond : HasValue second exactSecond) :
    (first == second) = true ↔ exactFirst = exactSecond := by
  have same : (first == second) =
      (first.toModel.unpack.compare second.toModel.unpack == some .eq) := rfl
  rw [same, valuedFirst.compare_eq valuedSecond, beq_iff_eq, Option.some.injEq,
    compare_eq_iff_eq]

end Operations

end BenchmarkReport.Number
