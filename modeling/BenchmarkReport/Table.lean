/-
This file holds tables of benchmark results and their basic views.
-/

import BenchmarkReport.Table.Error

namespace BenchmarkReport

/-- The columns of a table stand in order. The metadata is what the comments of its source say. -/
structure Table where
  columns : List Column
  metadata : List (String × String) := []

namespace Table

/-- All columns of a table have the length of the first. -/
def rowCount (table : Table) : Nat :=
  match table.columns with
  | [] => 0
  | first :: _ => first.length

def columnNames (table : Table) : List String :=
  table.columns.map Column.name

def schema (table : Table) : List (String × ElementType) :=
  table.columns.map fun column => (column.name, column.type)

def column? (table : Table) (name : String) : Option Column :=
  table.columns.find? (·.name == name)

/-- The numbers of a column, of which some may be missing. -/
def numbers (table : Table) (name : String) : Except TableError (List (Option Float)) :=
  match table.column? name with
  | none => .error (.missingColumn name)
  | some column =>
    match column.values.numbers? with
    | none => .error (.notNumeric name column.type)
    | some values => .ok values

/-- A missing number reads as no number. -/
def orNaN (value : Option Float) : Float :=
  value.getD (0 / 0)

def numeric (table : Table) (name : String) : Except TableError (List Float) :=
  (table.numbers name).map (List.map orNaN)

/-- The first rows of a table. -/
def head (count : Nat) (table : Table) : Table :=
  { table with columns := table.columns.map (Column.take count) }

/-- A column takes the place of the column with its name, or else stands last. -/
def setColumn (table : Table) (column : Column) : Table :=
  if table.columnNames.contains column.name then
    { table with
      columns := table.columns.map fun present =>
        if present.name == column.name then column else present }
  else { table with columns := table.columns ++ [column] }

/-- The columns have one length and no two of them share a name. -/
structure WellFormed (table : Table) : Prop where
  lengths : ∀ column ∈ table.columns, column.length = table.rowCount
  names : table.columnNames.Nodup

theorem head_columnNames (count : Nat) (table : Table) :
    (table.head count).columnNames = table.columnNames := by
  simp [head, columnNames, Column.take_name]

theorem head_rowCount (count : Nat) (table : Table) :
    (table.head count).rowCount = min count table.rowCount := by
  cases shape : table.columns with
  | nil => simp [head, rowCount, shape]
  | cons first others => simp [head, rowCount, shape, Column.take_length]

end Table

end BenchmarkReport
