/-
This file changes all columns of a table alike, so that each keeps its name and its type and a
column of numbers stays one. What is looked up, read and derived is then changed in the same way.
-/

import BenchmarkReport.Proofs.Table.Derivation

namespace BenchmarkReport

/-- A change of columns that keeps names and types, and what it does to numbers. -/
structure IsRowwise (change : Column → Column)
    (part : List (Option Float) → List (Option Float)) : Prop where
  name : ∀ column, (change column).name = column.name
  type : ∀ column, (change column).type = column.type
  numbers : ∀ column, (change column).values.numbers? = column.values.numbers?.map part

namespace Table

def mapColumns (change : Column → Column) (table : Table) : Table :=
  { table with columns := table.columns.map change }

section Changing

variable {change : Column → Column} {part : List (Option Float) → List (Option Float)}
  (rowwise : IsRowwise change part) (table : Table)

include rowwise

theorem columnNames_mapColumns : (table.mapColumns change).columnNames = table.columnNames := by
  simp [mapColumns, columnNames, rowwise.name]

theorem column?_mapColumns (name : String) :
    (table.mapColumns change).column? name = (table.column? name).map change := by
  have sameTest : ((·.name == name) ∘ change) = (·.name == name) := by
    funext column
    simp [rowwise.name]
  rw [column?, mapColumns, List.find?_map, sameTest]
  rfl

/-- The numbers of a column are changed, and what is wrong with them stays the same. -/
theorem numbers_mapColumns (name : String) :
    (table.mapColumns change).numbers name = (table.numbers name).map part := by
  rw [numbers, numbers, column?_mapColumns rowwise]
  cases table.column? name with
  | none => rfl
  | some column =>
      simp only [Option.map_some, rowwise.numbers, rowwise.type]
      cases column.values.numbers? <;> rfl

theorem setColumn_mapColumns (column : Column) :
    (table.setColumn column).mapColumns change =
      (table.mapColumns change).setColumn (change column) := by
  unfold setColumn
  rw [columnNames_mapColumns rowwise, rowwise.name]
  split
  · simp only [mapColumns, List.map_map, Table.mk.injEq, and_true]
    refine List.map_congr_left fun present _ => ?_
    show change (if present.name == column.name then column else present) =
      if (change present).name == column.name then change column else change present
    rw [rowwise.name]
    exact apply_ite change _ _ _
  · simp [mapColumns]

/-- The throughput is changed like the events and the times that it is derived from. -/
theorem addThroughput_mapColumns (joins : ∀ events times,
      table.numbers eventCountName = .ok events → table.numbers elapsedTimeName = .ok times →
      change ⟨throughputName, .reals .double (throughputs events times)⟩ =
        ⟨throughputName, .reals .double (throughputs (part events) (part times))⟩) :
    (table.mapColumns change).addThroughput = table.addThroughput.map (mapColumns change) := by
  unfold addThroughput
  rw [numbers_mapColumns rowwise, numbers_mapColumns rowwise]
  cases eventsRead : table.numbers eventCountName with
  | error fault => rfl
  | ok events =>
      cases timesRead : table.numbers elapsedTimeName with
      | error fault => rfl
      | ok times =>
          simp only [Except.map, bind, Except.bind, pure, Except.pure, setColumn_mapColumns rowwise,
            joins events times eventsRead timesRead]

end Changing

end Table

end BenchmarkReport
