/-
This file measures texts around a blank, and texts of single places: their widths are sums.
-/

import BenchmarkReport.Text.Reserve

namespace BenchmarkReport.Text

/-- A blank in a text separates two texts that are measured on their own. -/
theorem measure_append_blank (front back : List Char) :
    measure (front ++ ' ' :: back) =
      ((measure front).1 + (1 + (measure back).1), (measure front).2) := by
  induction front with
  | nil =>
      rw [List.nil_append, measure_cons, place_blank]
      simp [measure]
  | cons symbol rest inductionHypothesis =>
      rw [List.cons_append, measure_cons, measure_cons, inductionHypothesis, Int.add_assoc]

theorem displayWidth_append_blank (front back : List Char) :
    displayWidth (front ++ ' ' :: back) = displayWidth front + 1 + displayWidth back := by
  have nonnegative := measure_nonneg front
  have nonnegativeBack := measure_nonneg back
  unfold displayWidth
  rw [measure_append_blank]
  omega

theorem displayWidth_blanks (count : Nat) (text : List Char) :
    displayWidth (List.replicate count ' ' ++ text) = count + displayWidth text := by
  induction count with
  | zero => simp
  | succ count inductionHypothesis =>
      rw [List.replicate_succ, List.cons_append, displayWidth_blank, inductionHypothesis]
      omega

/-- These symbols take one place each and join nothing. -/
def isNarrow (symbol : Char) : Bool :=
  symbol.toNat ≤ 0xA0 && symbol != '\n'

section Narrow

variable {text : List Char}

theorem measure_narrow (narrow : ∀ symbol ∈ text, isNarrow symbol = true) :
    measure text = ((text.length : Int), Following.of .plain) := by
  induction text with
  | nil => rfl
  | cons symbol rest inductionHypothesis =>
      obtain ⟨latin, single⟩ : symbol.toNat ≤ 0xA0 ∧ symbol ≠ '\n' := by
        simpa [isNarrow] using narrow symbol List.mem_cons_self
      have placed : place symbol (.of .plain) = (1, .of .plain) := by
        simp [place, placeLatin, Following.of, Following.dropPictureSelector, latin, single]
      rw [measure_cons, inductionHypothesis fun other member =>
        narrow other (List.mem_cons_of_mem symbol member), placed, List.length_cons, Int.natCast_succ,
        Int.add_comm]

theorem displayWidth_narrow (narrow : ∀ symbol ∈ text, isNarrow symbol = true) :
    displayWidth text = text.length := by
  rw [displayWidth, measure_narrow narrow]
  rfl

end Narrow

end BenchmarkReport.Text
