/-
This file reads lines of fields under a header of names, where all columns have one type and every
field is written from a value. The columns then hold the cells of these values.
-/

import BenchmarkReport.Proofs.Delimited.DelimitedLines
import BenchmarkReport.Proofs.Delimited.Rows

namespace BenchmarkReport.Delimited

open Text

/-- A line of fields with a comma between any two of them. -/
def fieldLine (fields : List (List Char)) : List Char :=
  [','].intercalate fields

def headerLine (names : List String) : List Char :=
  fieldLine (names.map String.toList)

/-- Columns of one type that hold the cells of values in rows. -/
def uniformColumns {Value : Type} (type : ElementType) (cell : Value → Cell) (names : List String)
    (rows : List (List Value)) : List Column :=
  names.zipIdx.map fun (name, place) =>
    ⟨name, valuesOfCells type (rows.map fun row => (row[place]?.map cell).getD .missing)⟩

theorem separator_default : Dialect.separator {} = ',' := rfl

theorem marker_default : Dialect.marker? {} = some '#' := rfl

theorem kind_default : Dialect.kind {} = .character := rfl

section FieldLines

variable {fields : List (List Char)}

theorem fieldLine_singleton (field : List Char) : fieldLine [field] = field :=
  delimitedLine_singleton ',' field

theorem fieldLine_cons (field : List Char) (filled : fields ≠ []) :
    fieldLine (field :: fields) = field ++ ',' :: fieldLine fields :=
  delimitedLine_cons ',' field filled

theorem mem_fieldLine {symbol : Char} (member : symbol ∈ fieldLine fields) :
    symbol = ',' ∨ ∃ field ∈ fields, symbol ∈ field :=
  (mem_delimitedLine.mp member).imp_left And.left

/-- A line with a comma or with a field that is not empty is not empty. -/
theorem fieldLine_ne_nil (present : fields ≠ [])
    (visible : 2 ≤ fields.length ∨ ∀ field ∈ fields, field ≠ []) : fieldLine fields ≠ [] := by
  match fields with
  | [] => exact absurd rfl present
  | [field] =>
      rw [fieldLine_singleton]
      rcases visible with several | filled
      · simp at several
      · exact filled field List.mem_cons_self
  | field :: next :: later =>
      rw [fieldLine_cons field (by simp)]
      simp

end FieldLines

section HeaderLines

variable {names : List String} {symbol : Char} {allowed : Char → Bool}
  (words : ∀ name ∈ names, ∀ symbol ∈ name.toList, allowed symbol = true)

include words in
theorem mem_headerLine (member : symbol ∈ headerLine names) :
    symbol = ',' ∨ allowed symbol = true := by
  rcases mem_fieldLine member with separator | ⟨field, fieldMember, within⟩
  · exact Or.inl separator
  · obtain ⟨name, nameMember, rfl⟩ := List.mem_map.mp fieldMember
    exact Or.inr (words name nameMember symbol within)

include words in
theorem not_mem_headerLine (noWord : allowed symbol = false) (noSeparator : symbol ≠ ',') :
    symbol ∉ headerLine names := by
  intro member
  rcases mem_headerLine words member with separator | word
  · exact noSeparator separator
  · rw [noWord] at word
    exact Bool.noConfusion word

include words in
/-- The names in a header without line ends and quotation marks are those that were written, with
the repetitions among them renamed. -/
theorem headerNames_eq_renameRepeated (noSeparator : allowed ',' = false)
    (noLineFeed : allowed '\n' = false) (noReturn : allowed '\r' = false)
    (noQuote : allowed '"' = false) (present : names ≠ []) :
    headerNames {} (headerLine names) = renameRepeated [] names := by
  have pieces : fields ',' (headerLine names) = names.map String.toList := by
    rw [fields_of_unquoted (not_mem_headerLine words noQuote (by decide))
      (not_mem_headerLine words noLineFeed (by decide))]
    refine split_intercalate (by simpa using present) ?_
    intro field member within
    obtain ⟨name, nameMember, rfl⟩ := List.mem_map.mp member
    exact Bool.noConfusion (noSeparator.symm.trans (words name nameMember ',' within))
  have named : ∀ name ∈ names, headerName .character name.toList = name := by
    intro name member
    have unquoted : isQuoted name.toList = false := isQuoted_of_not_mem fun within =>
      Bool.noConfusion (noQuote.symm.trans (words name member '"' within))
    simp [headerName, unquoted, SymbolKind.decode]
  have read : (names.map String.toList).map (headerName .character) = names := by
    rw [List.map_map]
    exact (List.map_congr_left named).trans (List.map_id' names)
  rw [headerNames, dropLineReturn_of_not_mem (not_mem_headerLine words noReturn (by decide)),
    separator_default, kind_default, pieces, read]

include words in
/-- Names without separators, line ends and quotation marks come back from their header. -/
theorem headerNames_of_words (noSeparator : allowed ',' = false) (noLineFeed : allowed '\n' = false)
    (noReturn : allowed '\r' = false) (noQuote : allowed '"' = false) (present : names ≠ [])
    (distinct : names.Nodup) : headerNames {} (headerLine names) = names := by
  rw [headerNames_eq_renameRepeated words noSeparator noLineFeed noReturn noQuote present]
  exact renameRepeated_of_nodup distinct fun _ _ => List.not_mem_nil

end HeaderLines

section Columns

variable {Value : Type} {dialect : Dialect} {names : List String} {type : ElementType}
  {write : Value → List Char} {cell : Value → Cell} {rows : List (List Value)}

/-- Rows of a width that is not zero have a value. -/
theorem ne_nil_of_widths {count : Nat} (positive : 0 < count)
    (widths : ∀ row ∈ rows, row.length = count) : ∀ row ∈ rows, row ≠ [] := by
  intro row member
  rw [← List.length_pos_iff, widths row member]
  exact positive

theorem uniformColumns_eq :
    columnsOfRows (names.map (·, type)) (rows.map (List.map cell)) =
      uniformColumns type cell names rows := by
  unfold columnsOfRows uniformColumns
  rw [List.zipIdx_map, List.map_map]
  apply List.map_congr_left
  intro entry _
  simp [Function.comp_def]

theorem uniformColumns_names : (uniformColumns type cell names rows).map Column.name = names := by
  apply List.ext_getElem <;> simp [uniformColumns]

theorem getElem?_uniformColumns {place : Nat} : (uniformColumns type cell names rows)[place]? =
    names[place]?.map fun name =>
      ⟨name, valuesOfCells type (rows.map fun row => (row[place]?.map cell).getD .missing)⟩ := by
  rw [uniformColumns, List.getElem?_map, List.getElem?_zipIdx]
  cases names[place]? <;> simp

/-- Distinct names have the one type in the schema. -/
theorem schemaOf_uniform {header : List Char} {later : List (List Char)}
    (named : headerNames dialect header = names) (distinct : names.Nodup)
    (typed : inferTypes dialect names.length later = List.replicate names.length type) :
    schemaOf dialect header later = names.map (·, type) := by
  have entries (names : List String) :
      names.zip (List.replicate names.length type) = names.map (·, type) := by
    induction names with
    | nil => rfl
    | cons name others inductionHypothesis =>
        rw [List.length_cons, List.replicate_succ, List.zip_cons_cons, inductionHypothesis,
          List.map_cons]
  unfold schemaOf
  dsimp only
  rw [named, typed, entries, foldl_addToSchema_of_nodup]
  · rfl
  · simpa [Function.comp_def] using distinct

/-- A row is read back when each of its values is. -/
theorem readRecord_uniform {kind : SymbolKind} {row : List Value} (number : Nat)
    (width : row.length = names.length)
    (reads : ∀ value ∈ row, readCell kind type (dropReturn (write value)) = .ok (cell value)) :
    readRecord kind number (names.map (·, type)) (row.map write) = .ok (row.map cell) := by
  induction row generalizing names number with
  | nil =>
      rw [List.length_nil] at width
      rw [List.length_eq_zero_iff.mp width.symm]
      rfl
  | cons value others inductionHypothesis =>
      cases names with
      | nil => simp at width
      | cons name names =>
          have later := inductionHypothesis (number + 1) (by simpa using width)
            fun value member => reads value (List.mem_cons_of_mem _ member)
          simp only [List.map_cons, readRecord, reads value List.mem_cons_self, later]
          rfl

variable {line : List Value → List Char} {header : List Char}

/-- Lines of fields are read as the columns of the values that they were written from. -/
theorem lineColumns_uniform
    (started : dropEndings (header :: rows.map line) = header :: rows.map line)
    (uncommented : ∀ record ∈ header :: rows.map line, dialect.isComment record = false)
    (named : headerNames dialect header = names) (distinct : names.Nodup)
    (typed : inferTypes dialect names.length (rows.map line) = List.replicate names.length type)
    (cut : ∀ row ∈ rows, fields dialect.separator (line row) = row.map write)
    (widths : ∀ row ∈ rows, row.length = names.length)
    (reads : ∀ row ∈ rows, ∀ value ∈ row,
      readCell dialect.kind type (dropReturn (write value)) = .ok (cell value)) :
    lineColumns dialect (header :: rows.map line) = .ok (uniformColumns type cell names rows) := by
  have records : (header :: rows.map line).filter (!dialect.isComment ·) =
      header :: rows.map line :=
    List.filter_eq_self.mpr fun record member => by simp [uncommented record member]
  have noComment : dialect.isComment header = false := uncommented header List.mem_cons_self
  have schema : lineSchema dialect (header :: rows.map line) = names.map (·, type) := by
    rw [lineSchema, started, splitHeader, List.dropWhile_cons_of_neg (by simp [noComment])]
    exact schemaOf_uniform named distinct typed
  have read : (rows.map line).mapM (fun record =>
      readRecord dialect.kind 1 (names.map (·, type)) (fields dialect.separator record)) =
        .ok (rows.map (List.map cell)) := by
    rw [mapM_eq_ok_iff, List.forall₂_map_left_iff, List.forall₂_map_right_iff, List.forall₂_same]
    intro row member
    rw [cut row member]
    exact readRecord_uniform 1 (widths row member) (reads row member)
  rw [lineColumns_eq, started, ite_self, records, schema, List.tail_cons, read,
    ← uniformColumns_eq]
  rfl

end Columns

end BenchmarkReport.Delimited
