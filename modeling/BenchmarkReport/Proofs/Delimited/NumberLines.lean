/-
This file reads lines whose fields are whole numbers or empty: which fields such a line holds, and
which types the reader finds for the columns.
-/

import BenchmarkReport.Proofs.Delimited.RectangularLines
import BenchmarkReport.Proofs.Delimited.UniformLines

namespace BenchmarkReport.Delimited

open Text Number

/-- A field holds a whole number or nothing. -/
def IsNumberField (field : List Char) : Prop :=
  field = [] ∨ IsWhole field

section Fields

variable {field : List Char} {cells : List (List Char)}

theorem IsNumberField.mem (isNumber : IsNumberField field) {symbol : Char}
    (member : symbol ∈ field) : symbol = '-' ∨ isDigit symbol = true := by
  rcases isNumber with rfl | whole
  · simp at member
  · exact whole.eq_minus_or_isDigit symbol member

theorem IsNumberField.not_mem (isNumber : IsNumberField field) {symbol : Char}
    (noDigit : isDigit symbol = false) (noMinus : symbol ≠ '-') : symbol ∉ field := by
  intro member
  rcases isNumber.mem member with minus | digit
  · exact noMinus minus
  · exact ne_of_isDigit digit noDigit rfl

theorem IsNumberField.isPlainCell (isNumber : IsNumberField field) : IsPlainCell field := by
  rcases isNumber with rfl | whole
  · exact isPlainCell_nil
  · exact isPlainCell_of_symbols whole.symbols

/-- A column of whole numbers is taken for one if it has a number. -/
theorem foundType_numbers (numbers : ∀ cell ∈ cells, IsNumberField cell)
    (spoken : ∃ cell ∈ cells, cell ≠ []) : foundType cells = .integer .signed64 := by
  have plain : ∀ cell ∈ cells, IsPlainCell cell :=
    fun cell member => (numbers cell member).isPlainCell
  have unquoted : ∀ cell ∈ cells, '"' ∉ cell :=
    fun cell member => (numbers cell member).not_mem (by decide) (by decide)
  have present : presentCells cells ≠ [] := by
    obtain ⟨cell, member, filled⟩ := spoken
    exact List.ne_nil_of_mem (List.mem_filter.mpr ⟨member, by simpa using filled⟩)
  have wholes : ∀ cell ∈ presentCells cells, IsWhole cell := by
    intro cell member
    obtain ⟨within, filled⟩ := List.mem_filter.mp member
    exact (numbers cell within).resolve_left (by simpa using filled)
  rw [foundType_of_isPlainCell plain unquoted, columnType, if_neg present, if_pos wholes]

end Fields

section Lines

variable {row : List (List Char)} (numbers : ∀ field ∈ row, IsNumberField field)

include numbers

theorem mem_numberLine {symbol : Char} (member : symbol ∈ fieldLine row) :
    symbol = ',' ∨ symbol = '-' ∨ isDigit symbol = true := by
  rcases mem_fieldLine member with separator | ⟨field, fieldMember, within⟩
  · exact Or.inl separator
  · exact Or.inr ((numbers field fieldMember).mem within)

theorem not_mem_numberLine {symbol : Char} (noDigit : isDigit symbol = false)
    (noSeparator : symbol ≠ ',') (noMinus : symbol ≠ '-') : symbol ∉ fieldLine row := by
  intro member
  rcases mem_numberLine numbers member with separator | minus | digit
  · exact noSeparator separator
  · exact noMinus minus
  · exact ne_of_isDigit digit noDigit rfl

theorem split_numberLine (present : row ≠ []) : split ',' (fieldLine row) = row :=
  split_intercalate present fun field member => (numbers field member).not_mem (by decide) (by decide)

/-- The numbers of a row are its fields. -/
theorem fields_numberLine (present : row ≠ []) : fields ',' (fieldLine row) = row := by
  rw [fields_of_unquoted (not_mem_numberLine numbers (by decide) (by decide) (by decide))
    (not_mem_numberLine numbers (by decide) (by decide) (by decide)),
    split_numberLine numbers present]

theorem lineCells_numberLine (present : row ≠ []) : lineCells (fieldLine row) = row := by
  have noReturn : '\r' ∉ fieldLine row :=
    not_mem_numberLine numbers (by decide) (by decide) (by decide)
  rw [lineCells, dropLineReturn_of_not_mem noReturn, split_numberLine numbers present]

theorem startsWith_numberLine : startsWith (Dialect.marker? {}) (fieldLine row) = false := by
  rw [marker_default]
  exact startsWith_of_not_mem (not_mem_numberLine numbers (by decide) (by decide) (by decide))

/-- A field that a row does not have is empty. -/
theorem isNumberField_getD (place : Nat) : IsNumberField (row.getD place []) := by
  rw [List.getD_eq_getElem?_getD]
  cases atPlace : row[place]? with
  | none => exact Or.inl rfl
  | some field => exact numbers field (List.mem_of_getElem? atPlace)

end Lines

section Rows

variable {rows : List (List (List Char))} {count : Nat}

/-- Columns of whole numbers are taken for these if each of them has a number early enough. -/
theorem inferTypes_numbers (positive : 0 < count) (widths : ∀ row ∈ rows, row.length = count)
    (numbers : ∀ row ∈ rows, ∀ field ∈ row, IsNumberField field)
    (spoken : ∀ place < count, ∃ row ∈ rows.take inferenceLength, row.getD place [] ≠ []) :
    inferTypes {} count (rows.map fieldLine) = List.replicate count (.integer .signed64) := by
  have present : ∀ row ∈ rows, row ≠ [] := ne_nil_of_widths positive widths
  have absent {symbol : Char} (noDigit : isDigit symbol = false) (noSeparator : symbol ≠ ',')
      (noMinus : symbol ≠ '-') : ∀ line ∈ rows.map fieldLine, symbol ∉ line :=
    List.forall_mem_map.mpr fun row member =>
      not_mem_numberLine (numbers row member) noDigit noSeparator noMinus
  have found : inferTypes {} count (rows.map fieldLine) = (List.range count).map fun place =>
      foundType (columnCells place ((rows.map fieldLine).take inferenceLength)) := by
    refine inferTypes_of_widths rfl (absent (by decide) (by decide) (by decide))
      (absent (by decide) (by decide) (by decide)) ?_ ?_
    · exact List.forall_mem_map.mpr fun row member => startsWith_numberLine (numbers row member)
    · refine List.forall_mem_map.mpr fun row member => ?_
      rw [lineCells_numberLine (numbers row member) (present row member), widths row member]
  have columns (place : Nat) : columnCells place ((rows.map fieldLine).take inferenceLength) =
      (rows.take inferenceLength).map fun row => row.getD place [] := by
    rw [columnCells, ← List.map_take, List.map_map]
    refine List.map_congr_left fun row member => ?_
    have within : row ∈ rows := List.mem_of_mem_take member
    rw [Function.comp_apply, lineCells_numberLine (numbers row within) (present row within)]
  rw [found, List.eq_replicate_iff]
  refine ⟨by simp, List.forall_mem_map.mpr fun place inRange => ?_⟩
  rw [columns]
  apply foundType_numbers
  · exact List.forall_mem_map.mpr fun row member =>
      isNumberField_getD (numbers row (List.mem_of_mem_take member)) place
  · obtain ⟨row, member, filled⟩ := spoken place (List.mem_range.mp inRange)
    exact ⟨_, List.mem_map_of_mem member, filled⟩

end Rows

end BenchmarkReport.Delimited
