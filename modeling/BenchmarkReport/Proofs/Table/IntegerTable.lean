/-
This file writes a table of whole numbers as text and shows that the text loads as the table.
-/

import BenchmarkReport.Proofs.Delimited.IntegerLines
import BenchmarkReport.Proofs.Table.PrintedLines

namespace BenchmarkReport.Table

open Text Number Delimited

/-- Columns of whole numbers of 64 bits, of which some may be missing. A line that shows nothing
would be dropped, and a column without a number among its first rows would not be taken for one of
whole numbers. -/
structure IntegerTable where
  names : List String
  rows : List (List (Option Int))
  named : names ≠ []
  filled : ∀ name ∈ names, name ≠ ""
  words : ∀ name ∈ names, ∀ symbol ∈ name.toList, isWordSymbol symbol = true
  distinct : names.Nodup
  widths : ∀ row ∈ rows, row.length = names.length
  bounded : ∀ row ∈ rows, ∀ value, some value ∈ row →
    leastInteger ≤ value ∧ value ≤ greatestInteger
  visible : 2 ≤ names.length ∨ ∀ row ∈ rows, none ∉ row
  spoken : ∀ place < names.length, ∃ row ∈ rows.take inferenceLength, row[place]?.join.isSome

namespace IntegerTable

/-- The header and one line for each row. -/
def lines (source : IntegerTable) : List (List Char) :=
  headerLine source.names :: source.rows.map integerLine

def text (source : IntegerTable) : List Char :=
  unlines source.lines

section Lines

variable (source : IntegerTable) {line : List Char} {symbol : Char}

theorem names_length_pos : 0 < source.names.length :=
  List.length_pos_iff.mpr source.named

theorem exists_number : ∀ place < source.names.length,
    ∃ row ∈ source.rows.take inferenceLength, ∃ value, row[place]? = some (some value) := by
  intro place within
  obtain ⟨row, member, number⟩ := source.spoken place within
  obtain ⟨value, found⟩ := Option.isSome_iff_exists.mp number
  exact ⟨row, member, value, Option.join_eq_some_iff.mp found⟩

/-- All that is written lies between the comma and the last letter. -/
theorem symbol_bounds (member : line ∈ source.lines) (within : symbol ∈ line) :
    0x2C ≤ symbol.toNat ∧ symbol.toNat ≤ 0x7A := by
  rcases List.mem_cons.mp member with rfl | behind
  · rcases mem_headerLine source.words within with rfl | word
    · decide
    · obtain ⟨above, below⟩ := toNat_of_isWordSymbol word
      omega
  · obtain ⟨row, -, rfl⟩ := List.mem_map.mp behind
    rcases mem_integerLine within with rfl | rfl | digit
    · decide
    · decide
    · obtain ⟨above, below⟩ := toNat_of_isDigit digit
      omega

theorem line_ne_nil (member : line ∈ source.lines) : line ≠ [] := by
  rcases List.mem_cons.mp member with rfl | behind
  · refine fieldLine_ne_nil (by simpa using source.named) (Or.inr ?_)
    intro field fieldMember
    obtain ⟨name, nameMember, rfl⟩ := List.mem_map.mp fieldMember
    simpa using source.filled name nameMember
  · obtain ⟨row, rowMember, rfl⟩ := List.mem_map.mp behind
    have width := source.widths row rowMember
    have present : row ≠ [] :=
      ne_nil_of_widths source.names_length_pos source.widths row rowMember
    refine fieldLine_ne_nil (by simpa using present) ?_
    rcases source.visible with several | complete
    · exact Or.inl (by simpa [width] using several)
    · refine Or.inr fun field fieldMember => ?_
      obtain ⟨value, valueMember, rfl⟩ := List.mem_map.mp fieldMember
      cases value with
      | none => exact absurd valueMember (complete row rowMember)
      | some value => exact Number.integerText_ne_nil value

theorem arePrinted : ArePrinted source.lines :=
  ⟨fun _ member => source.line_ne_nil member, fun _ member _ => source.symbol_bounds member⟩

theorem not_mem_line (member : line ∈ source.lines) (low : symbol.toNat < 0x2C) :
    symbol ∉ line :=
  source.arePrinted.not_mem low line member

/-- No line is dropped or cut. -/
theorem filledLines_text : filledLines source.text = source.lines :=
  source.arePrinted.filledLines_unlines

theorem startsWith_header : startsWith (Dialect.marker? {}) (headerLine source.names) = false :=
  source.arePrinted.startsWith_eq_false _ List.mem_cons_self

/-- The columns are read back. -/
theorem readLines_lines :
    readLines {} source.lines = .ok (integerColumns source.names source.rows) := by
  have uncommented := source.arePrinted.isComment_eq_false _ List.mem_cons_self
  rw [source.arePrinted.readLines_eq (List.cons_ne_nil _ _)]
  exact lineColumns_integers source.names_length_pos source.widths source.exists_number
    source.bounded source.distinct
    (headerNames_headerLine source.words source.named source.distinct) uncommented
    source.arePrinted.symbolLines_eq.2

end Lines

end IntegerTable

/-- A table of whole numbers comes back from its text: its names in their order, all columns of
the type of 64 bits, all rows and every number. -/
theorem ofText_integerTable (source : IntegerTable) :
    ∃ table, ofText {} source.text = .ok table ∧ table.columnNames = source.names ∧
      table.rowCount = source.rows.length ∧
      (∀ column ∈ table.columns, column.type = .integer .signed64) ∧
      ∀ (place : Nat) (column : Column), table.columns[place]? = some column →
        column.cells = source.rows.map fun row => integerCell row[place]?.join := by
  have loaded : ofText {} source.text = withMetadata (metadataOf {} source.text)
      (.ok (integerColumns source.names source.rows)) := by
    have noHeader : (filledLines source.text).all (startsWith (Dialect.marker? {})) = false := by
      rw [source.filledLines_text, List.all_eq_false]
      exact ⟨_, List.mem_cons_self, by simp [source.startsWith_header]⟩
    rw [ofText_eq, if_neg (by simp [noHeader]), source.filledLines_text, readColumns_unquoted
      (fun line member => source.not_mem_line member (by decide))
      (fun line member => source.not_mem_line member (by decide)), source.readLines_lines]
  have shape {place : Nat} {column : Column}
      (atPlace : (integerColumns source.names source.rows)[place]? = some column) :
      column.values = .integers .signed64 (source.rows.map fun row => row[place]?.join) := by
    rw [getElem?_integerColumns] at atPlace
    obtain ⟨name, -, rfl⟩ := Option.map_eq_some_iff.mp atPlace
    rfl
  refine ⟨_, loaded, integerColumns_names, ?_, ?_, ?_⟩
  · cases columns : integerColumns source.names source.rows with
    | nil =>
        have named : (integerColumns source.names source.rows).map Column.name = source.names :=
          integerColumns_names
        rw [columns] at named
        exact absurd named.symm source.named
    | cons first others =>
        have values : first.values = .integers .signed64 _ := @shape 0 first (by rw [columns]; rfl)
        simp [rowCount, Column.length, values, Values.length]
  · intro column member
    obtain ⟨place, atPlace⟩ := List.mem_iff_getElem?.mp member
    rw [Column.type, shape atPlace]
    rfl
  · intro place column atPlace
    rw [Column.cells, shape atPlace, Values.cells, List.map_map]
    rfl

/-- The least and the greatest number stand beside missing ones. -/
def extremeIntegers : IntegerTable :=
  { names := ["low", "high_2"]
    rows := [[some leastInteger, none], [none, some greatestInteger]]
    named := by decide
    filled := by decide
    words := by
      have letters : ∀ name ∈ ["low", "high_2"], name.toList.all isWordSymbol = true := by decide
      exact fun name member => List.all_eq_true.mp (letters name member)
    distinct := by decide
    widths := by decide
    bounded := by
      intro row member value within
      simp only [List.mem_cons, List.not_mem_nil, or_false] at member
      rcases member with rfl | rfl
      · have same : value = leastInteger := by simpa using within
        rw [same]
        decide
      · have same : value = greatestInteger := by simpa using within
        rw [same]
        decide
    visible := by decide
    spoken := by decide }

theorem extremeIntegers_loaded :
    ∃ table, ofText {} extremeIntegers.text = .ok table ∧
      table.columnNames = ["low", "high_2"] ∧ table.rowCount = 2 := by
  obtain ⟨table, loaded, names, count, -⟩ := ofText_integerTable extremeIntegers
  exact ⟨table, loaded, names, count⟩

end BenchmarkReport.Table
