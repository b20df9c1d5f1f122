/-
This file relates the table of a text to the lines of the text.
-/

import BenchmarkReport.Table.Loader
import BenchmarkReport.Proofs.Delimited.Header
import BenchmarkReport.Proofs.Delimited.Rows

namespace BenchmarkReport

/-- The bytes of a text are read back. -/
theorem Text.fromUTF8?_toUTF8 (text : String) : String.fromUTF8? text.toUTF8 = some text := by
  unfold String.fromUTF8?
  exact dif_pos text.isValidUTF8

namespace Table

open Text Delimited

/-- The bytes of a text. -/
def bytesOf (text : List Char) : ByteArray :=
  (String.ofList text).toUTF8

theorem ofBytes_bytesOf (dialect : Dialect) (text : List Char) :
    ofBytes dialect (bytesOf text) = ofText dialect text := by
  rw [ofBytes, bytesOf, fromUTF8?_toUTF8]
  show ofText dialect (String.ofList text).toList = ofText dialect text
  rw [String.toList_ofList]

/-- The columns that were read make a table. -/
def withMetadata (metadata : List (String × String)) :
    Except Fault (List Column) → Except TableError Table
  | .error fault => .error (.malformed fault)
  | .ok columns => .ok { columns, metadata }

section Lines

variable {text line : List Char}

theorem mem_filledLines (member : line ∈ filledLines text) :
    line ∈ lines text ∧ isBlankLine line = false := by
  simpa [filledLines] using member

theorem filledLines_single : ∀ line ∈ filledLines text, '\n' ∉ line :=
  fun _ member => (mem_lines (mem_filledLines member).1).1

/-- What a text does not hold its lines do not hold. -/
theorem filledLines_absent {symbol : Char} (absent : symbol ∉ text) :
    ∀ line ∈ filledLines text, symbol ∉ line :=
  fun _ member within => absent ((mem_lines (mem_filledLines member).1).2 within)

theorem filledLines_ne_nil (member : line ∈ filledLines text) : line ≠ [] := by
  rintro rfl
  simpa [isBlankLine] using (mem_filledLines member).2

end Lines

section Outcome

variable {dialect : Dialect} {text : List Char} {table : Table}

theorem ofText_eq (dialect : Dialect) (text : List Char) :
    ofText dialect text =
      if (filledLines text).all (startsWith dialect.marker?) then .error .noHeader
      else withMetadata (metadataOf dialect text)
        (readColumns dialect (unlines (filledLines text))) := by
  unfold ofText
  dsimp only
  split
  · rfl
  · cases readColumns dialect (unlines (filledLines text)) <;> rfl

theorem ofText_unquotedLines (unquoted : ∀ line ∈ filledLines text, '"' ∉ line) :
    ofText dialect text =
      if (filledLines text).all (startsWith dialect.marker?) then .error .noHeader
      else withMetadata (metadataOf dialect text) (readLines dialect (filledLines text)) := by
  rw [ofText_eq, readColumns_unquoted filledLines_single unquoted]

theorem ofText_unquoted (unquoted : '"' ∉ text) :
    ofText dialect text =
      if (filledLines text).all (startsWith dialect.marker?) then .error .noHeader
      else withMetadata (metadataOf dialect text) (readLines dialect (filledLines text)) :=
  ofText_unquotedLines (filledLines_absent unquoted)

theorem withMetadata_eq_ok_iff {metadata : List (String × String)}
    {result : Except Fault (List Column)} :
    withMetadata metadata result = .ok table ↔
      result = .ok table.columns ∧ table.metadata = metadata := by
  cases result with
  | error fault => simp [withMetadata]
  | ok columns =>
      obtain ⟨tableColumns, tableMetadata⟩ := table
      simp [withMetadata, eq_comm]

/-- The columns of a table are those of its lines. -/
theorem lineColumns_of_ofText (unquoted : '"' ∉ text) (success : ofText dialect text = .ok table) :
    (filledLines text).all (startsWith dialect.marker?) = false ∧
      lineColumns dialect (symbolLines dialect (filledLines text)) = .ok table.columns := by
  rw [ofText_unquoted unquoted] at success
  split at success
  · simp at success
  · rename_i filled
    refine ⟨Bool.eq_false_iff.mpr filled, ?_⟩
    have read := (withMetadata_eq_ok_iff.mp success).1
    unfold readLines at read
    split at read
    · simp at read
    · split at read
      · simp at read
      · exact read

/-- A text with a line that is no comment makes a table or has a fault. -/
theorem ofText_cases (filled : (filledLines text).all (startsWith dialect.marker?) = false) :
    (∃ table, ofText dialect text = .ok table) ∨
      ∃ fault, ofText dialect text = .error (.malformed fault) := by
  rw [ofText_eq, if_neg (by simp [filled])]
  cases readColumns dialect (unlines (filledLines text)) with
  | error fault => exact Or.inr ⟨fault, rfl⟩
  | ok columns => exact Or.inl ⟨_, rfl⟩

end Outcome

section Shape

variable {dialect : Dialect} {text : List Char} {table : Table}

/-- Columns of one length make a well-formed table. -/
theorem wellFormed_of_lengths {rows : Nat} (lengths : ∀ column ∈ table.columns, column.length = rows)
    (names : table.columnNames.Nodup) : table.WellFormed where
  lengths := by
    intro column member
    rw [lengths column member, rowCount]
    cases shape : table.columns with
    | nil => simp [shape] at member
    | cons first others => exact (lengths first (by simp [shape])).symm
  names := names

/-- Every table that was read is well formed, whatever stands in its text. -/
theorem wellFormed_of_ofText (success : ofText dialect text = .ok table) : table.WellFormed := by
  rw [ofText_eq] at success
  split at success
  · simp at success
  · obtain ⟨rows, -, columns⟩ :=
      exists_rows_of_readColumns (withMetadata_eq_ok_iff.mp success).1
    have lengths : ∀ column ∈ table.columns, column.length = rows.length := by
      rw [columns]
      exact columnsOfRows_lengths
    refine wellFormed_of_lengths lengths ?_
    rw [columnNames, columns, columnsOfRows_names]
    exact foldl_addToSchema_nodup List.nodup_nil

end Shape

end Table

end BenchmarkReport
