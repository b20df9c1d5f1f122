/-
This file writes fields as a line with any separator between them and says which symbols such a line
holds, how it starts and how it is cut.
-/

import BenchmarkReport.Proofs.Delimited.Header
import BenchmarkReport.Text.Blank

namespace BenchmarkReport.Delimited

open Text

/-- A line of fields with a separator between any two of them. -/
def delimitedLine (separator : Char) (fields : List (List Char)) : List Char :=
  [separator].intercalate fields

section Symbols

variable {separator symbol : Char} {field : List Char} {cells : List (List Char)}

theorem delimitedLine_singleton (separator : Char) (field : List Char) :
    delimitedLine separator [field] = field :=
  List.intercalate_singleton

theorem delimitedLine_cons (separator : Char) (field : List Char) (filled : cells ≠ []) :
    delimitedLine separator (field :: cells) = field ++ separator :: delimitedLine separator cells := by
  cases cells with
  | nil => exact absurd rfl filled
  | cons next later =>
      rw [delimitedLine, List.intercalate_cons_cons, List.append_assoc, List.singleton_append]
      rfl

/-- A line holds the symbols of its fields, and the separator if there are several of them. -/
theorem mem_delimitedLine : symbol ∈ delimitedLine separator cells ↔
    symbol = separator ∧ 2 ≤ cells.length ∨ ∃ field ∈ cells, symbol ∈ field := by
  induction cells with
  | nil => simp [delimitedLine]
  | cons field others inductionHypothesis =>
      cases others with
      | nil => simp [delimitedLine_singleton]
      | cons next later =>
          rw [delimitedLine_cons separator field (by simp), List.mem_append, List.mem_cons,
            inductionHypothesis]
          constructor
          · rintro (front | same | ⟨same, -⟩ | ⟨other, member, within⟩)
            · exact Or.inr ⟨field, List.mem_cons_self, front⟩
            · exact Or.inl ⟨same, by simp⟩
            · exact Or.inl ⟨same, by simp⟩
            · exact Or.inr ⟨other, List.mem_cons_of_mem field member, within⟩
          · rintro (⟨same, -⟩ | ⟨other, member, within⟩)
            · exact Or.inr (Or.inl same)
            · rcases List.mem_cons.mp member with rfl | behind
              · exact Or.inl within
              · exact Or.inr (Or.inr (Or.inr ⟨other, behind, within⟩))

theorem not_mem_delimitedLine (different : symbol ≠ separator)
    (absent : ∀ field ∈ cells, symbol ∉ field) : symbol ∉ delimitedLine separator cells := by
  rw [mem_delimitedLine]
  rintro (⟨same, -⟩ | ⟨field, member, within⟩)
  · exact different same
  · exact absent field member within

theorem split_delimitedLine (present : cells ≠ []) (plain : ∀ field ∈ cells, separator ∉ field) :
    split separator (delimitedLine separator cells) = cells :=
  split_intercalate present plain

/-- A symbol in front of the first separator is the first field. -/
theorem head?_of_delimitedLine {rest : List Char} (present : cells ≠ [])
    (plain : ∀ field ∈ cells, separator ∉ field) (different : symbol ≠ separator)
    (shape : delimitedLine separator cells = symbol :: separator :: rest) :
    cells.head? = some [symbol] := by
  have cut := split_delimitedLine present plain
  rw [shape, split_cons, if_neg different, split_cons, if_pos rfl] at cut
  rw [← cut]
  rfl

/-- The fields are read back from their line. -/
theorem fields_delimitedLine (present : cells ≠ []) (plain : ∀ field ∈ cells, separator ∉ field)
    (noQuote : '"' ≠ separator) (unquoted : ∀ field ∈ cells, '"' ∉ field)
    (noLineFeed : '\n' ≠ separator) (single : ∀ field ∈ cells, '\n' ∉ field) :
    fields separator (delimitedLine separator cells) = cells := by
  rw [fields_of_unquoted (not_mem_delimitedLine noQuote unquoted)
    (not_mem_delimitedLine noLineFeed single), split_delimitedLine present plain]

/-- A line of several fields is blank just when its separator and all of its fields are. -/
theorem isBlankLine_delimitedLine (several : 2 ≤ cells.length) :
    isBlankLine (delimitedLine separator cells) =
      (isBlank separator && cells.all isBlankLine) := by
  rw [Bool.eq_iff_iff]
  simp only [isBlankLine, List.all_eq_true, mem_delimitedLine, several, and_true,
    Bool.and_eq_true]
  constructor
  · exact fun blank => ⟨blank separator (Or.inl rfl), fun field member symbol within =>
      blank symbol (Or.inr ⟨field, member, within⟩)⟩
  · rintro ⟨separates, blank⟩ symbol (rfl | ⟨field, member, within⟩)
    · exact separates
    · exact blank field member symbol within

/-- A line of several fields starts with the marker just when its first field does, unless the marker
separates the fields. -/
theorem startsWith_delimitedLine {marker : Option Char} (several : 2 ≤ cells.length)
    (different : marker ≠ some separator) :
    startsWith marker (delimitedLine separator cells) = startsWith marker (cells.headD []) := by
  match cells with
  | [] => simp at several
  | [field] => simp at several
  | field :: next :: later =>
      rw [delimitedLine_cons separator field (by simp), List.headD_cons]
      cases field with
      | nil =>
          rw [startsWith_nil, List.nil_append]
          simpa [startsWith] using fun _ same => different same.symm
      | cons symbol rest => simp [startsWith]

end Symbols

end BenchmarkReport.Delimited
