/-
This file shows that the operations on a table get along with taking its first rows: it does not
matter whether a column is read, or the throughput derived, before or after that. What is done
twice is as if it was done once.
-/

import BenchmarkReport.Proofs.Table.Rowwise

namespace BenchmarkReport

theorem Values.take_take (first second : Nat) (values : Values) :
    (values.take second).take first = values.take (min first second) := by
  cases values with
  | nulls length => simp [take, Nat.min_assoc]
  | _ => simp [take, List.take_take]

theorem Column.isRowwise_take (count : Nat) :
    IsRowwise (Column.take count) (List.take count) where
  name := Column.take_name count
  type := fun column => column.values.take_type count
  numbers := fun column => column.values.take_numbers? count

namespace Table

theorem head_head (first second : Nat) (table : Table) :
    (table.head second).head first = table.head (min first second) := by
  simp only [head, List.map_map, Table.mk.injEq, and_true]
  refine List.map_congr_left fun column _ => ?_
  show Column.take first (Column.take second column) = Column.take (min first second) column
  simp only [Column.take, Values.take_take]

theorem numeric_head (count : Nat) (table : Table) (name : String) :
    (table.head count).numeric name = (table.numeric name).map (List.take count) := by
  have read := numbers_mapColumns (Column.isRowwise_take count) table name
  change (table.head count).numbers name = (table.numbers name).map (List.take count) at read
  rw [numeric, numeric, read]
  cases table.numbers name with
  | error fault => rfl
  | ok values => exact congrArg Except.ok List.map_take

theorem addThroughput_head (count : Nat) (table : Table) :
    (table.head count).addThroughput = table.addThroughput.map (head count) := by
  refine addThroughput_mapColumns (Column.isRowwise_take count) table fun events times _ _ => ?_
  simp only [Column.take, Values.take, throughputs_eq_zipWith, List.take_zipWith]

/-- No other column than the one that was set has its name. -/
theorem eq_of_mem_setColumn {table : Table} {column present : Column}
    (member : present ∈ (table.setColumn column).columns) (same : present.name = column.name) :
    present = column := by
  unfold setColumn at member
  simp only [List.contains_eq_mem, decide_eq_true_eq] at member
  split at member
  · obtain ⟨old, -, rfl⟩ := List.mem_map.mp member
    by_cases replaced : old.name = column.name
    · simp [replaced]
    · simp [replaced] at same
  · rename_i absent
    rcases List.mem_append.mp member with old | added
    · exact absurd (same ▸ List.mem_map_of_mem old) absent
    · exact List.mem_singleton.mp added

/-- To set a column a second time changes nothing. -/
theorem setColumn_setColumn (table : Table) (column : Column) :
    (table.setColumn column).setColumn column = table.setColumn column := by
  have present : column.name ∈ (table.setColumn column).columnNames := by
    rw [columnNames_setColumn]
    split
    · assumption
    · simp
  have kept : (table.setColumn column).columns.map
      (fun old => if old.name == column.name then column else old) =
        (table.setColumn column).columns := by
    refine (List.map_congr_left fun old member => ?_).trans (List.map_id _)
    by_cases same : old.name = column.name
    · simp [eq_of_mem_setColumn member same]
    · simp [same]
  rw [setColumn, if_pos (by simpa using present), kept]

/-- The derivation reads the same columns again, since it sets none of them. -/
theorem addThroughput_addThroughput {table derived : Table}
    (success : table.addThroughput = .ok derived) : derived.addThroughput = .ok derived := by
  obtain ⟨events, times, eventsFound, eventsNumeric, timesFound, timesNumeric, rfl⟩ :=
    exists_columns_of_addThroughput success
  have eventsKept := table.column?_setColumn_of_ne (throughputColumn events times)
    (by decide : eventCountName ≠ throughputName)
  have timesKept := table.column?_setColumn_of_ne (throughputColumn events times)
    (by decide : elapsedTimeName ≠ throughputName)
  rw [addThroughput_of_numeric (eventsKept.trans eventsFound) eventsNumeric
    (timesKept.trans timesFound) timesNumeric, setColumn_setColumn]

/-- The first rows of the first rows are as many as the lesser of the two numbers says. The numbers
of a column and the derived throughput are those of the whole table in the first rows, and what is
wrong with them is the same. A derivation in place that is run again ends as it did and leaves the
table as it was left. -/
theorem operations_algebra (table : Table) (first second : Nat) (name : String) :
    (table.head second).head first = table.head (min second first) ∧
    (table.head second).numeric name = (table.numeric name).map (List.take second) ∧
    (table.head second).addThroughput = table.addThroughput.map (head second) ∧
    (deriveInPlace.run.run (table.head second)).2 =
      (deriveInPlace.run.run table).2.head second ∧
    deriveInPlace.run.run (deriveInPlace.run.run table).2 = deriveInPlace.run.run table := by
  refine ⟨?_, numeric_head second table name, addThroughput_head second table, ?_, ?_⟩
  · rw [head_head, Nat.min_comm]
  · rw [deriveInPlace_run, deriveInPlace_run, addThroughput_head]
    cases table.addThroughput <;> rfl
  · cases outcome : table.addThroughput with
    | ok derived =>
        simp only [deriveInPlace_run, outcome, addThroughput_addThroughput outcome]
    | error fault => simp only [deriveInPlace_run, outcome]

end Table

end BenchmarkReport
