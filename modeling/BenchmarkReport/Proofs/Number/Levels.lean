/-
This file places doubles on a line that the two infinities close. Two doubles stand at the same
level when they are equal as numbers, as the two zeros are.
-/

import BenchmarkReport.Proofs.Number.Infinities
import Mathlib.Order.WithBot

namespace BenchmarkReport.Number

open Float.Model

/-- A place among the rational numbers, or at one of the two ends. -/
abbrev Level := WithBot (WithTop ℚ)

/-- The place of a rational number. -/
abbrev Level.of (exact : ℚ) : Level := ((exact : WithTop ℚ) : WithBot (WithTop ℚ))

/-- The level of a number. What is no number is placed at the upper end. -/
def level (number : Float) : Level :=
  match Extended.ofFloat number with
  | .nan => ⊤
  | .infinity negative => if negative then ⊥ else ⊤
  | .finite binary => .of binary.value

/-- Two doubles are both no number, or they are equal as numbers. The signs of zeros may differ. -/
def Alike (first second : Float) : Prop :=
  first.isNaN = true ∧ second.isNaN = true ∨ (first == second) = true

section Classes

variable {number : Float} {exact : ℚ} {negative : Bool}

theorem isNaN_iff : number.isNaN = true ↔ Extended.ofFloat number = .nan := by
  change number.toModel.unpack.isNaN = true ↔ _
  rw [ofFloat_eq_ofUnpacked]
  cases number.toModel.unpack with
  | notANumber => exact iff_of_true rfl rfl
  | infinity | zero | finite => exact iff_of_false Bool.noConfusion Extended.noConfusion

theorem isNaN_of_infinity (infinite : Extended.ofFloat number = .infinity negative) :
    number.isNaN = false := by
  rw [← Bool.not_eq_true, isNaN_iff, infinite]
  exact Extended.noConfusion

theorem HasValue.isNaN (valued : HasValue number exact) : number.isNaN = false := by
  obtain ⟨binary, read, -⟩ := valued
  rw [← Bool.not_eq_true, isNaN_iff, read]
  exact Extended.noConfusion

/-- A number is an infinity or has a value. -/
theorem number_cases (isNumber : number.isNaN = false) :
    (∃ negative, Extended.ofFloat number = .infinity negative) ∨
      ∃ exact, HasValue number exact := by
  cases read : Extended.ofFloat number with
  | nan =>
      rw [isNaN_iff.mpr read] at isNumber
      exact Bool.noConfusion isNumber
  | infinity negative => exact .inl ⟨negative, rfl⟩
  | finite binary => exact .inr ⟨binary.value, binary, read, rfl⟩

theorem level_of_infinity (infinite : Extended.ofFloat number = .infinity negative) :
    level number = if negative then ⊥ else ⊤ := by
  unfold level
  rw [infinite]

theorem HasValue.level_eq (valued : HasValue number exact) :
    level number = Level.of exact := by
  obtain ⟨binary, read, rfl⟩ := valued
  unfold level
  rw [read]

end Classes

section Order

variable {first second : Float} {exact : ℚ}

theorem value_lt_top (exact : ℚ) : Level.of exact < ⊤ :=
  WithBot.coe_lt_coe.mpr (WithTop.coe_lt_top exact)

theorem bot_lt_value (exact : ℚ) : ⊥ < Level.of exact :=
  WithBot.bot_lt_coe _

theorem value_le_value {other : ℚ} :
    Level.of exact ≤ Level.of other ↔ exact ≤ other := by
  rw [WithBot.coe_le_coe, WithTop.coe_le_coe]

theorem value_lt_value {other : ℚ} :
    Level.of exact < Level.of other ↔ exact < other := by
  rw [WithBot.coe_lt_coe, WithTop.coe_lt_coe]

theorem value_eq_value {other : ℚ} :
    Level.of exact = Level.of other ↔ exact = other := by
  rw [WithBot.coe_eq_coe, WithTop.coe_eq_coe]

theorem HasValue.compare_infinity (valued : HasValue first exact) (negative : Bool) :
    first.toModel.unpack.compare (.infinity (signOf negative)) =
      some (if negative then .gt else .lt) := by
  have denotes := hasValue_iff_denotes.mp valued
  generalize first.toModel.unpack = unpacked at denotes
  cases negative <;> cases denotes <;> rfl

theorem HasValue.infinity_compare (valued : HasValue first exact) (negative : Bool) :
    UnpackedFloat.compare (.infinity (signOf negative)) first.toModel.unpack =
      some (if negative then .lt else .gt) := by
  have denotes := hasValue_iff_denotes.mp valued
  generalize first.toModel.unpack = unpacked at denotes
  cases negative <;> cases denotes <;> rfl

/-- Numbers are compared as their levels are. -/
theorem compare_eq_level (isNumber : first.isNaN = false) (isNumberSecond : second.isNaN = false) :
    first.toModel.unpack.compare second.toModel.unpack =
      some (compare (level first) (level second)) := by
  rcases number_cases isNumber with ⟨negative, infinite⟩ | ⟨exact, valued⟩
  · rw [unpack_of_infinity infinite, level_of_infinity infinite]
    rcases number_cases isNumberSecond with ⟨other, infiniteSecond⟩ | ⟨exactSecond, valuedSecond⟩
    · rw [unpack_of_infinity infiniteSecond, level_of_infinity infiniteSecond]
      cases negative <;> cases other <;> rfl
    · rw [valuedSecond.infinity_compare, valuedSecond.level_eq]
      cases negative with
      | false => exact congrArg some (compare_gt_iff_gt.mpr (value_lt_top exactSecond)).symm
      | true => exact congrArg some (compare_lt_iff_lt.mpr (bot_lt_value exactSecond)).symm
  · rw [valued.level_eq]
    rcases number_cases isNumberSecond with ⟨other, infiniteSecond⟩ | ⟨exactSecond, valuedSecond⟩
    · rw [unpack_of_infinity infiniteSecond, level_of_infinity infiniteSecond,
        valued.compare_infinity]
      cases other with
      | false => exact congrArg some (compare_lt_iff_lt.mpr (value_lt_top exact)).symm
      | true => exact congrArg some (compare_gt_iff_gt.mpr (bot_lt_value exact)).symm
    · rw [valuedSecond.level_eq, valued.compare_eq valuedSecond]
      rcases lt_trichotomy exact exactSecond with less | rfl | greater
      · rw [compare_lt_iff_lt.mpr less, compare_lt_iff_lt.mpr (value_lt_value.mpr less)]
      · rw [compare_eq_iff_eq.mpr rfl, compare_eq_iff_eq.mpr rfl]
      · rw [compare_gt_iff_gt.mpr greater, compare_gt_iff_gt.mpr (value_lt_value.mpr greater)]

theorem le_iff_level (isNumber : first.isNaN = false) (isNumberSecond : second.isNaN = false) :
    first ≤ second ↔ level first ≤ level second := by
  have same : first ≤ second ↔
      decide ((first.toModel.unpack.compare second.toModel.unpack).any (·.isLE) = true) = true :=
    Iff.rfl
  rw [same, compare_eq_level isNumber isNumberSecond, decide_eq_true_iff, Option.any_some,
    ← Ordering.ne_gt_iff_isLE]
  exact compare_le_iff_le

theorem beq_iff_level (isNumber : first.isNaN = false) (isNumberSecond : second.isNaN = false) :
    (first == second) = true ↔ level first = level second := by
  have same : (first == second) =
      (first.toModel.unpack.compare second.toModel.unpack == some .eq) := rfl
  rw [same, compare_eq_level isNumber isNumberSecond, beq_iff_eq, Option.some.injEq,
    compare_eq_iff_eq]

end Order

section Classes

variable {first second : Float} {exact : ℚ}

/-- A level is the lowest one, the highest one, or that of a rational number. -/
theorem level_cases (place : Level) : place = ⊥ ∨ place = ⊤ ∨ ∃ exact, place = .of exact := by
  rcases eq_or_ne place ⊥ with lowest | above
  · exact .inl lowest
  · obtain ⟨upper, rfl⟩ := WithBot.ne_bot_iff_exists.mp above
    rcases eq_or_ne upper ⊤ with rfl | below
    · exact .inr (.inl rfl)
    · obtain ⟨exact, rfl⟩ := WithTop.ne_top_iff_exists.mp below
      exact .inr (.inr ⟨exact, rfl⟩)

theorem infinity_of_level_bot (isNumber : first.isNaN = false) (lowest : level first = ⊥) :
    Extended.ofFloat first = .infinity true := by
  rcases number_cases isNumber with ⟨negative, infinite⟩ | ⟨exact, valued⟩
  · rw [level_of_infinity infinite] at lowest
    cases negative with
    | false => exact absurd lowest top_ne_bot
    | true => exact infinite
  · rw [valued.level_eq] at lowest
    exact absurd lowest (bot_lt_value exact).ne'

theorem infinity_of_level_top (isNumber : first.isNaN = false) (highest : level first = ⊤) :
    Extended.ofFloat first = .infinity false := by
  rcases number_cases isNumber with ⟨negative, infinite⟩ | ⟨exact, valued⟩
  · rw [level_of_infinity infinite] at highest
    cases negative with
    | false => exact infinite
    | true => exact absurd highest bot_ne_top
  · rw [valued.level_eq] at highest
    exact absurd highest (value_lt_top exact).ne

theorem hasValue_of_level (isNumber : first.isNaN = false) (placed : level first = .of exact) :
    HasValue first exact := by
  rcases number_cases isNumber with ⟨negative, infinite⟩ | ⟨value, valued⟩
  · rw [level_of_infinity infinite] at placed
    cases negative with
    | false => exact absurd placed (value_lt_top exact).ne'
    | true => exact absurd placed (bot_lt_value exact).ne
  · rw [valued.level_eq] at placed
    rwa [← value_eq_value.mp placed]

theorem alike_of_level (isNumber : first.isNaN = false) (isNumberSecond : second.isNaN = false)
    (same : level first = level second) : Alike first second :=
  .inr ((beq_iff_level isNumber isNumberSecond).mpr same)

theorem isNaN_of_beq (same : (first == second) = true) :
    first.isNaN = false ∧ second.isNaN = false := by
  change (first.toModel.unpack.compare second.toModel.unpack == some .eq) = true at same
  change first.toModel.unpack.isNaN = false ∧ second.toModel.unpack.isNaN = false
  generalize first.toModel.unpack = unpacked, second.toModel.unpack = other at same
  cases unpacked <;> cases other <;> first | exact ⟨rfl, rfl⟩ | exact Bool.noConfusion same

/-- Doubles are alike when both or none are numbers, and numbers are at the same level. -/
theorem alike_iff : Alike first second ↔
    first.isNaN = second.isNaN ∧ (first.isNaN = false → level first = level second) := by
  constructor
  · rintro (⟨none, noneSecond⟩ | same)
    · refine ⟨none.trans noneSecond.symm, fun isNumber => ?_⟩
      rw [none] at isNumber
      exact Bool.noConfusion isNumber
    · obtain ⟨isNumber, isNumberSecond⟩ := isNaN_of_beq same
      exact ⟨isNumber.trans isNumberSecond.symm,
        fun _ => (beq_iff_level isNumber isNumberSecond).mp same⟩
  · rintro ⟨classes, levels⟩
    cases isNumber : first.isNaN with
    | false => exact alike_of_level isNumber (classes ▸ isNumber) (levels isNumber)
    | true => exact .inl ⟨isNumber, classes ▸ isNumber⟩

theorem Alike.trans {third : Float} (same : Alike first second) (next : Alike second third) :
    Alike first third := by
  rw [alike_iff] at *
  exact ⟨same.1.trans next.1, fun isNumber =>
    (same.2 isNumber).trans (next.2 (same.1 ▸ isNumber))⟩

theorem Alike.refl (number : Float) : Alike number number :=
  alike_iff.mpr ⟨rfl, fun _ => rfl⟩

end Classes

end BenchmarkReport.Number
