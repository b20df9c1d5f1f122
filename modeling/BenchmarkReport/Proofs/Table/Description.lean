/-
This file says what the description of a table holds: one summary for each numeric column, made
from the numbers that the column has by its name.
-/

import BenchmarkReport.Description
import BenchmarkReport.Proofs.Delimited.Rows
import BenchmarkReport.Proofs.Table.Derivation

namespace BenchmarkReport

open Delimited Statistics

/-- The coordinate that a cell has on a plot. A cell without a number has none. -/
def Cell.coordinate (cell : Cell) : Float :=
  Table.orNaN cell.number?

/-- A numeric column is summarized by its cells. -/
theorem Column.summary?_eq (column : Column) :
    column.summary? =
      if isNumber column.type then
        some ⟨column.name, .ofValues (column.cells.map Cell.coordinate)⟩
      else none := by
  rw [summary?, Values.numbers?_eq_cells, type]
  split
  · simp only [Option.map_some, List.map_map]
    rfl
  · rfl

theorem Column.summary?_name {column : Column} {entry : ColumnSummary}
    (described : column.summary? = some entry) : entry.name = column.name := by
  obtain ⟨numbers, -, rfl⟩ := Option.map_eq_some_iff.mp described
  rfl

namespace Table

section Description

variable {name : String} {column : Column}

/-- The first summary of a name is that of the first column of the name. -/
theorem find?_filterMap_summary? {columns : List Column} {entry : ColumnSummary}
    (found : columns.find? (·.name == name) = some column)
    (described : column.summary? = some entry) :
    (columns.filterMap Column.summary?).find? (·.name == name) = some entry := by
  induction columns with
  | nil => simp at found
  | cons first others inductionHypothesis =>
      by_cases named : first.name = name
      · have same : first = column := by simpa [named] using found
        have entryName : entry.name = name := by
          rw [Column.summary?_name described, ← same, named]
        rw [List.filterMap_cons_some (same ▸ described), List.find?_cons_of_pos]
        simpa using entryName
      · have later : others.find? (·.name == name) = some column := by simpa [named] using found
        cases summary : first.summary? with
        | none =>
            rw [List.filterMap_cons_none summary]
            exact inductionHypothesis later
        | some other =>
            have otherName : other.name ≠ name := by
              rw [Column.summary?_name summary]
              exact named
            rw [List.filterMap_cons_some summary, List.find?_cons_of_neg (by simpa using otherName)]
            exact inductionHypothesis later

end Description

section Reading

variable {table : Table} {name : String} {column : Column}

theorem numeric_of_numeric (found : table.column? name = some column)
    (isNumeric : isNumber column.type = true) :
    table.numeric name = .ok (column.cells.map Cell.coordinate) := by
  rw [numeric, numbers_of_numeric found isNumeric]
  simp [Except.map, Cell.coordinate, Function.comp_def]

theorem describe_get? (found : table.column? name = some column)
    (isNumeric : isNumber column.type = true) :
    table.describe.get? name = some (.ofValues (column.cells.map Cell.coordinate)) := by
  have described := column.summary?_eq
  rw [if_pos isNumeric] at described
  rw [Description.get?, describe, find?_filterMap_summary? found described]
  rfl

/-- Where no two columns share a name, each column is found by its own. -/
theorem column?_of_mem (names : table.columnNames.Nodup) (member : column ∈ table.columns) :
    table.column? column.name = some column := by
  cases found : table.column? column.name with
  | none =>
      have absent := List.find?_eq_none.mp found column member
      simp at absent
  | some first =>
      obtain ⟨firstMember, firstName⟩ := column?_mem found
      rw [List.inj_on_of_nodup_map names firstMember member firstName]

end Reading

section Summaries

variable {table : Table}

/-- The summary of a column, whose numbers are read by its name. -/
def summarize (table : Table) (column : Column) : Except TableError ColumnSummary :=
  (table.numeric column.name).map fun values => ⟨column.name, .ofValues values⟩

/-- The description of a table, column by column. -/
def describeByName (table : Table) : Except TableError Description := do
  let summaries ← (table.columns.filter (isNumber ·.type)).mapM table.summarize
  return ⟨summaries⟩

theorem mapM_summarize (names : table.columnNames.Nodup) {columns : List Column}
    (within : ∀ column ∈ columns, column ∈ table.columns) :
    (columns.filter (isNumber ·.type)).mapM table.summarize =
      .ok (columns.filterMap Column.summary?) := by
  induction columns with
  | nil => rfl
  | cons column others inductionHypothesis =>
      have rest := inductionHypothesis fun other member => within other (List.mem_cons_of_mem _ member)
      have summary := column.summary?_eq
      by_cases isNumeric : isNumber column.type = true
      · have found := column?_of_mem names (within column List.mem_cons_self)
        have read : table.summarize column =
            .ok ⟨column.name, .ofValues (column.cells.map Cell.coordinate)⟩ := by
          rw [summarize, numeric_of_numeric found isNumeric]
          rfl
        rw [if_pos isNumeric] at summary
        rw [List.filter_cons, if_pos isNumeric, List.mapM_cons, read, rest,
          List.filterMap_cons_some summary]
        rfl
      · rw [if_neg isNumeric] at summary
        rw [List.filter_cons, if_neg isNumeric, rest, List.filterMap_cons_none summary]

/-- To describe a table never fails. -/
theorem describeByName_eq (names : table.columnNames.Nodup) :
    table.describeByName = .ok table.describe := by
  rw [describeByName, mapM_summarize names fun column member => member]
  rfl

end Summaries

end Table

end BenchmarkReport
