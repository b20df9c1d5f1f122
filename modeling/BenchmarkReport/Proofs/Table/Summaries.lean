/-
This file shows that a table is described by just the columns that can be read as numbers, each by
the summary of its numbers.
-/

import BenchmarkReport.Proofs.Number.Classes
import BenchmarkReport.Proofs.Table.Description

namespace BenchmarkReport

open Delimited Number Statistics

/-- A cell counts unless it is missing or holds a real that is no number. -/
def Cell.counts : Cell → Bool
  | .missing => false
  | .real value => !value.isNaN
  | .integer _ | .boolean _ | .text _ => true

section Counting

/-- The cells of a numeric column count just when they have a coordinate. -/
theorem Values.counts_eq {values : Values} (numeric : isNumber values.type = true) {cell : Cell}
    (member : cell ∈ values.cells) : cell.counts = !cell.coordinate.isNaN := by
  have missing : Cell.missing.coordinate.isNaN = true := isNaN_quotient
  cases values with
  | integers kind values =>
      obtain ⟨value, -, rfl⟩ := List.mem_map.mp member
      cases value with
      | none =>
          show false = !Cell.missing.coordinate.isNaN
          rw [missing]
          rfl
      | some value =>
          have whole : (Cell.integer value).coordinate.isNaN = false := isNaN_ofInt value
          show true = !(Cell.integer value).coordinate.isNaN
          rw [whole]
          rfl
  | reals kind values =>
      obtain ⟨value, -, rfl⟩ := List.mem_map.mp member
      cases value with
      | none =>
          show false = !Cell.missing.coordinate.isNaN
          rw [missing]
          rfl
      | some value => rfl
  | booleans values => simp [type, isNumber] at numeric
  | texts values => simp [type, isNumber] at numeric
  | nulls count => simp [type, isNumber] at numeric

theorem Column.count_eq {column : Column} (numeric : isNumber column.type = true) :
    (Summary.ofValues (column.cells.map Cell.coordinate)).count =
      column.cells.countP Cell.counts := by
  show (present (column.cells.map Cell.coordinate)).length = column.cells.countP Cell.counts
  rw [present, ← List.countP_eq_length_filter, List.countP_map]
  apply List.countP_congr
  intro cell member
  rw [Values.counts_eq numeric member]
  rfl

end Counting

namespace Table

/-- A description has one summary for each numeric column, in the order of the columns, and has
none of a name just when no column of that name can be read as numbers. -/
structure Agrees (table : Table) (description : Description) : Prop where
  entries : description.columns.map ColumnSummary.name =
    (table.columns.filter (isNumber ·.type)).map Column.name
  distinct : (description.columns.map ColumnSummary.name).Nodup
  found : ∀ name summary, description.get? name = some summary ↔
    ∃ values, table.numeric name = .ok values ∧ summary = .ofValues values
  counted : ∀ {name summary}, description.get? name = some summary →
    ∃ column, table.column? name = some column ∧ column.cells.length = table.rowCount ∧
      summary.count = column.cells.countP Cell.counts
  absent : ∀ name, description.get? name = none ↔
    table.numeric name = .error (.missingColumn name) ∨
      ∃ type, table.numeric name = .error (.notNumeric name type)
  missing : ∀ name, table.numeric name = .error (.missingColumn name) ↔ name ∉ table.columnNames
  notNumeric : ∀ name type, table.numeric name = .error (.notNumeric name type) ↔
    type ∈ [.boolean, .text, .null] ∧ ∃ column, table.column? name = some column ∧
      column.type = type

section Fault

variable {table : Table} {name : String} {fault : TableError}

theorem numeric_of_fault (faulty : table.numberFault? name = some fault) :
    table.numeric name = .error fault := by
  rw [numeric, numbers_of_fault faulty]
  rfl

/-- The first column of a name is the only one, so that no other is described by that name. -/
theorem describe_get?_of_fault (names : table.columnNames.Nodup)
    (faulty : table.numberFault? name = some fault) : table.describe.get? name = none := by
  rw [Description.get?, Option.map_eq_none_iff, List.find?_eq_none]
  intro entry member named
  obtain ⟨column, columnMember, described⟩ := List.mem_filterMap.mp member
  have columnName : column.name = name := by
    rw [← Column.summary?_name described]
    exact beq_iff_eq.mp named
  have found : table.column? name = some column := columnName ▸ column?_of_mem names columnMember
  have isNumeric : isNumber column.type = true := by
    by_contra other
    rw [column.summary?_eq, if_neg other] at described
    simp at described
  simp [numberFault?, found, isNumeric] at faulty

end Fault

section Reading

variable {table : Table} {name : String}

theorem not_isNumber_iff (type : ElementType) :
    isNumber type = false ↔ type ∈ [ElementType.boolean, .text, .null] := by
  cases type <;> simp [isNumber]

theorem column?_eq_none_iff : table.column? name = none ↔ name ∉ table.columnNames := by
  rw [column?, List.find?_eq_none, columnNames, List.mem_map]
  constructor
  · rintro absent ⟨column, member, named⟩
    exact absent column member (beq_iff_eq.mpr named)
  · intro absent column member named
    exact absent ⟨column, member, beq_iff_eq.mp named⟩

/-- The first column of a name is read as numbers, or there is one of two faults. -/
theorem numeric_eq (table : Table) (name : String) : table.numeric name =
    match table.column? name with
    | none => .error (.missingColumn name)
    | some column =>
      if isNumber column.type then .ok (column.cells.map Cell.coordinate)
      else .error (.notNumeric name column.type) := by
  cases found : table.column? name with
  | none => exact numeric_of_fault (by simp [numberFault?, found])
  | some column =>
      dsimp only
      split
      · rename_i isNumeric
        exact numeric_of_numeric found isNumeric
      · rename_i other
        exact numeric_of_fault (by simp [numberFault?, found, other])

theorem numeric_missing_iff (name : String) :
    table.numeric name = .error (.missingColumn name) ↔ name ∉ table.columnNames := by
  rw [← column?_eq_none_iff, numeric_eq]
  cases table.column? name with
  | none => simp
  | some column =>
      dsimp only
      split <;> simp

theorem numeric_notNumeric_iff (name : String) (type : ElementType) :
    table.numeric name = .error (.notNumeric name type) ↔
      type ∈ [.boolean, .text, .null] ∧ ∃ column, table.column? name = some column ∧
        column.type = type := by
  rw [← not_isNumber_iff, numeric_eq]
  cases table.column? name with
  | none => simp
  | some column =>
      dsimp only
      split
      · rename_i isNumeric
        constructor
        · simp
        · rintro ⟨other, _, ⟨⟩, rfl⟩
          exact absurd isNumeric (by simp [other])
      · rename_i other
        constructor
        · rintro ⟨⟩
          exact ⟨Bool.eq_false_iff.mpr other, column, rfl, rfl⟩
        · rintro ⟨-, _, ⟨⟩, rfl⟩
          rfl

/-- There are no other faults. -/
theorem numeric_isError_iff (name : String) : (table.numeric name).toOption = none ↔
    table.numeric name = .error (.missingColumn name) ∨
      ∃ type, table.numeric name = .error (.notNumeric name type) := by
  rw [numeric_eq]
  cases table.column? name with
  | none => simp [Except.toOption]
  | some column =>
      dsimp only
      split <;> simp [Except.toOption]

end Reading

section Describing

variable {table : Table}

/-- A column is described just when it can be read, and by what is read. -/
theorem describe_get?_eq (names : table.columnNames.Nodup) (name : String) :
    table.describe.get? name = (table.numeric name).toOption.map Summary.ofValues := by
  cases faulty : table.numberFault? name with
  | none =>
      obtain ⟨column, found, isNumeric⟩ := column_of_noFault faulty
      rw [describe_get? found isNumeric, numeric_of_numeric found isNumeric]
      rfl
  | some fault =>
      rw [describe_get?_of_fault names faulty, numeric_of_fault faulty]
      rfl

theorem describe_names (table : Table) : table.describe.columns.map ColumnSummary.name =
    (table.columns.filter (isNumber ·.type)).map Column.name := by
  show (table.columns.filterMap Column.summary?).map ColumnSummary.name = _
  rw [List.map_filterMap, ← List.filterMap_eq_map, List.filterMap_filter]
  apply List.filterMap_congr
  intro column _
  rw [Column.summary?_eq]
  split <;> rfl

/-- A summary counts the cells of its column. -/
theorem exists_counted (wellFormed : table.WellFormed) {name : String} {summary : Summary}
    (described : table.describe.get? name = some summary) :
    ∃ column, table.column? name = some column ∧ column.cells.length = table.rowCount ∧
      summary.count = column.cells.countP Cell.counts := by
  cases faulty : table.numberFault? name with
  | some fault => simp [describe_get?_of_fault wellFormed.names faulty] at described
  | none =>
      obtain ⟨column, found, isNumeric⟩ := column_of_noFault faulty
      rw [describe_get? found isNumeric] at described
      refine ⟨column, found, ?_, ?_⟩
      · rw [column.cells_length]
        exact wellFormed.lengths column (column?_mem found).1
      · rw [← Option.some.inj described]
        exact Column.count_eq isNumeric

end Describing

/-- To describe a table never fails, and its description agrees with what its columns can be read
as. -/
theorem describe_agrees_with_numeric {table : Table} (wellFormed : table.WellFormed) :
    table.describeByName = .ok table.describe ∧ Agrees table table.describe := by
  have names : table.columnNames.Nodup := wellFormed.names
  have distinct : (table.describe.columns.map ColumnSummary.name).Nodup := by
    rw [describe_names]
    exact names.sublist (List.filter_sublist.map Column.name)
  have found (name : String) (summary : Summary) : table.describe.get? name = some summary ↔
      ∃ values, table.numeric name = .ok values ∧ summary = .ofValues values := by
    rw [describe_get?_eq names]
    cases table.numeric name with
    | error fault => simp [Except.toOption]
    | ok values => simp [Except.toOption, eq_comm]
  have absent (name : String) : table.describe.get? name = none ↔
      table.numeric name = .error (.missingColumn name) ∨
        ∃ type, table.numeric name = .error (.notNumeric name type) := by
    rw [describe_get?_eq names, Option.map_eq_none_iff]
    exact numeric_isError_iff name
  exact ⟨describeByName_eq names, describe_names table, distinct, found,
    exists_counted wellFormed, absent, numeric_missing_iff, numeric_notNumeric_iff⟩

/-- Columns of all sorts, with a missing value in each. -/
def assortedTable : Table where
  columns := [⟨"Label", .texts [some "x", none]⟩, ⟨"Rate", .reals .double [some (0 / 0), none]⟩,
    ⟨"Count", .integers .signed64 [some 3, none]⟩, ⟨"Empty", .nulls 2⟩,
    ⟨"Valid", .booleans [some true, none]⟩]

theorem assortedTable_described :
    assortedTable.WellFormed ∧
      assortedTable.describe.columns.map ColumnSummary.name = ["Rate", "Count"] ∧
      assortedTable.describe.get? "Empty" = none ∧
      ∃ summary, assortedTable.describe.get? "Count" = some summary ∧ summary.count = 1 := by
  have wellFormed : assortedTable.WellFormed := by
    refine ⟨?_, by decide⟩
    simp [assortedTable, rowCount, Column.length, Values.length]
  have agrees : Agrees assortedTable assortedTable.describe :=
    (describe_agrees_with_numeric wellFormed).2
  refine ⟨wellFormed, agrees.entries, ?_, ?_⟩
  · apply (agrees.absent "Empty").mpr
    exact Or.inr ⟨.null, (agrees.notNumeric "Empty" .null).mpr ⟨by decide, _, rfl, rfl⟩⟩
  · have described := (agrees.found "Count" _).mpr ⟨_, rfl, rfl⟩
    obtain ⟨column, found, -, counted⟩ := agrees.counted described
    obtain rfl := Option.some.inj found
    exact ⟨_, described, counted⟩

end Table

end BenchmarkReport
