/-
This file reads lines of printed ASCII characters behind which nothing is hidden: no line is dropped,
cut or taken for a comment, and the reader takes nothing off the front.
-/

import BenchmarkReport.Proofs.Delimited.UniformLines
import BenchmarkReport.Proofs.Table.Metadata

namespace BenchmarkReport.Table

open Text Delimited

/-- Lines that hold something, with characters from the comma to the last letter. -/
structure ArePrinted (lines : List (List Char)) : Prop where
  filled : ∀ line ∈ lines, line ≠ []
  bounds : ∀ line ∈ lines, ∀ symbol ∈ line, 0x2C ≤ symbol.toNat ∧ symbol.toNat ≤ 0x7A

namespace ArePrinted

variable {lines : List (List Char)} {line text : List Char} (printed : ArePrinted lines)

include printed

theorem not_mem {symbol : Char} (low : symbol.toNat < 0x2C) : ∀ line ∈ lines, symbol ∉ line := by
  intro line member within
  obtain ⟨above, -⟩ := printed.bounds line member symbol within
  omega

theorem not_isBlankLine (member : line ∈ lines) : isBlankLine line = false := by
  rw [isBlankLine, List.all_eq_false]
  obtain ⟨symbol, within⟩ := List.exists_mem_of_ne_nil line (printed.filled line member)
  obtain ⟨above, below⟩ := printed.bounds line member symbol within
  refine ⟨symbol, within, ?_⟩
  simp only [isBlank, Bool.or_eq_true, Bool.and_eq_true, decide_eq_true_eq, beq_iff_eq]
  omega

/-- No line is dropped or cut. -/
theorem filledLines_unlines : filledLines (unlines lines) = lines := by
  rw [filledLines, lines_unlines (printed.not_mem (by decide)) (printed.not_mem (by decide)),
    List.filter_eq_self]
  exact fun line member => by simp [printed.not_isBlankLine member]

theorem startsWith_eq_false : ∀ line ∈ lines, startsWith (Dialect.marker? {}) line = false := by
  intro line member
  rw [marker_default]
  exact startsWith_of_not_mem (printed.not_mem (by decide) line member)

theorem isComment_eq_false : ∀ line ∈ lines, Dialect.isComment {} line = false := by
  intro line member
  rw [Dialect.isComment_eq_startsWith (by decide)]
  exact printed.startsWith_eq_false line member

/-- The reader takes nothing off the front. -/
theorem symbolLines_eq : symbolLines {} lines = lines ∧ dropEndings lines = lines := by
  cases lines with
  | nil => exact ⟨rfl, rfl⟩
  | cons line later =>
      cases line with
      | nil => exact absurd rfl (printed.filled [] List.mem_cons_self)
      | cons first rest =>
          obtain ⟨above, below⟩ :=
            printed.bounds (first :: rest) List.mem_cons_self first List.mem_cons_self
          exact symbolLines_of_header (by decide) (by omega) (by omega) rest later

theorem isCompressed_eq_false : isCompressed (unlines lines) = false := by
  cases lines with
  | nil => decide
  | cons line later =>
      apply isCompressed_of_header (printed.filled line List.mem_cons_self)
      intro symbol member
      obtain ⟨above, below⟩ := printed.bounds line List.mem_cons_self symbol member
      omega

theorem readLines_eq (present : lines ≠ []) : readLines {} lines = lineColumns {} lines := by
  obtain ⟨symbols, started⟩ := printed.symbolLines_eq
  rw [readLines, symbols, started, if_neg (by simp [printed.isCompressed_eq_false]), if_neg present]

/-- A text of printed lines is read as the columns of its lines. -/
theorem ofText_eq (present : lines ≠ []) (shape : filledLines text = lines) :
    ofText {} text = withMetadata [] (lineColumns {} lines) := by
  obtain ⟨first, later, split⟩ := List.exists_cons_of_ne_nil present
  rw [ofText_eq_of_unmarked (shape.trans split) (shape ▸ printed.startsWith_eq_false)
    (shape ▸ printed.not_mem (by decide)), shape, printed.readLines_eq present]

end ArePrinted

end BenchmarkReport.Table
