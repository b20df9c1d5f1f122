/-
This file follows a table through any sequence of operations: how many rows are left of it, which
columns it has, and that it stays well formed.
-/

import BenchmarkReport.Description
import BenchmarkReport.Plot.Scatter
import BenchmarkReport.Proofs.Table.Derivation
import BenchmarkReport.Proofs.Table.Loading

namespace BenchmarkReport

open Delimited Plot

namespace Table

theorem WellFormed.head {table : Table} (wellFormed : table.WellFormed) (count : Nat) :
    (table.head count).WellFormed where
  lengths := by
    intro column member
    obtain ⟨original, originalMember, rfl⟩ := List.mem_map.mp member
    rw [Column.take_length, head_rowCount, wellFormed.lengths original originalMember]
  names := by
    rw [head_columnNames]
    exact wellFormed.names

/-- Where a table comes from. Its metadata is what the comments of its text say. -/
inductive IsSource : List (String × String) → Table → Prop
  | text {dialect : Dialect} {text : List Char} {table : Table}
      (success : ofText dialect text = .ok table) : IsSource (metadataOf dialect text) table
  | columns {columns : List Column} (wellFormed : (⟨columns, []⟩ : Table).WellFormed) :
      IsSource [] ⟨columns, []⟩

theorem IsSource.wellFormed {metadata : List (String × String)} {source : Table}
    (isSource : IsSource metadata source) : source.WellFormed := by
  cases isSource with
  | text success => exact wellFormed_of_ofText success
  | columns wellFormed => exact wellFormed

theorem IsSource.metadata_eq {metadata : List (String × String)} {source : Table}
    (isSource : IsSource metadata source) : source.metadata = metadata := by
  cases isSource with
  | text success => exact ofText_metadata success
  | columns => rfl

end Table

/-- What can be done with a table. -/
inductive Operation
  | head (count : Nat)
  | addThroughput
  | numeric (name : String)
  | describe
  | scatter (xName yName : String)

/-- What an operation answers. -/
inductive Answer
  | shortened
  | derived (outcome : Except TableError Nat)
  | numbers (outcome : Except TableError (List Float))
  | description (description : Description)
  | plot (outcome : Except PlotError ScatterPlot)

/-- Whether the answer is that of a derivation that succeeded. -/
def Answer.isDerived : Answer → Bool
  | .derived (.ok _) => true
  | _ => false

namespace Operation

/-- The number of rows that an operation leaves at most. -/
def bound? : Operation → Option Nat
  | .head count => some count
  | _ => none

/-- An operation in place. -/
def perform : Operation → StateM Table Answer
  | .head count => do
    modify (Table.head count)
    return .shortened
  | .addThroughput => Answer.derived <$> Table.deriveInPlace.run
  | .numeric name => return .numbers ((← get).numeric name)
  | .describe => return .description (← get).describe
  | .scatter xName yName => return .plot (ScatterPlot.ofTable (← get) xName yName)

/-- What an operation answers and what it leaves. -/
theorem perform_run (operation : Operation) (table : Table) :
    operation.perform.run table =
      match operation with
      | .head count => (.shortened, table.head count)
      | .addThroughput =>
        match table.addThroughput with
        | .ok derived => (.derived (.ok derived.unboundedRows), derived)
        | .error fault => (.derived (.error fault), table)
      | .numeric name => (.numbers (table.numeric name), table)
      | .describe => (.description table.describe, table)
      | .scatter xName yName => (.plot (ScatterPlot.ofTable table xName yName), table) := by
  cases operation with
  | addThroughput =>
      have performed : (perform .addThroughput).run table =
          (.derived (Table.deriveInPlace.run.run table).1,
            (Table.deriveInPlace.run.run table).2) := rfl
      rw [performed, Table.deriveInPlace_run]
      cases table.addThroughput <;> rfl
  | head count => rfl
  | numeric name => rfl
  | describe => rfl
  | scatter xName yName => rfl

/-- The names of a table, with that of the throughput if it was derived. -/
def namesAfter (names : List String) (derived : Bool) : List String :=
  if derived && !names.contains Table.throughputName then names ++ [Table.throughputName]
  else names

/-- What operations have made of a source of which so many rows are left. -/
structure Follows (source : Table) (rows : Nat) (derived : Bool) (table : Table) : Prop where
  wellFormed : table.WellFormed
  rowCount : table.rowCount = rows
  columnNames : table.columnNames = namesAfter source.columnNames derived
  metadata : table.metadata = source.metadata

section Steps

variable {source table : Table} {rows : Nat} {derived : Bool}

theorem follows_self (wellFormed : source.WellFormed) :
    Follows source source.rowCount false source :=
  ⟨wellFormed, rfl, rfl, rfl⟩

theorem Follows.head (follows : Follows source rows derived table) (count : Nat) :
    Follows source (min rows count) derived (table.head count) where
  wellFormed := follows.wellFormed.head count
  rowCount := by rw [Table.head_rowCount, follows.rowCount, Nat.min_comm]
  columnNames := by rw [Table.head_columnNames, follows.columnNames]
  metadata := follows.metadata

/-- The name of the throughput is added at most once. -/
theorem namesAfter_true (names : List String) (derived : Bool) :
    (if Table.throughputName ∈ namesAfter names derived then namesAfter names derived
      else namesAfter names derived ++ [Table.throughputName]) = namesAfter names true := by
  by_cases present : Table.throughputName ∈ names
  · simp [namesAfter, present]
  · cases derived <;> simp [namesAfter, present]

theorem Follows.addThroughput (follows : Follows source rows derived table) {result : Table}
    (success : table.addThroughput = .ok result) : Follows source rows true result := by
  obtain ⟨events, times, eventsFound, eventsNumeric, timesFound, timesNumeric, same⟩ :=
    Table.exists_columns_of_addThroughput success
  have outcome := Table.derived_setColumn follows.wellFormed eventsFound eventsNumeric timesFound
    timesNumeric
  rw [← same] at outcome
  refine ⟨outcome.wellFormed, ?_, ?_, ?_⟩
  · rw [outcome.rowCount, follows.rowCount]
  · rw [outcome.names, follows.columnNames, namesAfter_true]
  · rw [outcome.metadata, follows.metadata]

/-- One operation keeps the number of rows within its bound and derives at most the throughput. -/
theorem follows_perform (follows : Follows source rows derived table) (operation : Operation) :
    Follows source (operation.bound?.elim rows (min rows))
      (derived || (operation.perform.run table).1.isDerived) (operation.perform.run table).2 := by
  rw [perform_run]
  cases operation with
  | head count => simpa [Answer.isDerived, bound?] using follows.head count
  | addThroughput =>
      cases success : table.addThroughput with
      | ok result => simpa [Answer.isDerived, bound?, success] using follows.addThroughput success
      | error fault => simpa [Answer.isDerived, bound?, success] using follows
  | numeric name => simpa [Answer.isDerived, bound?] using follows
  | describe => simpa [Answer.isDerived, bound?] using follows
  | scatter xName yName => simpa [Answer.isDerived, bound?] using follows

end Steps

section Runs

variable {source table : Table} {rows : Nat} {derived : Bool}

theorem mapM_perform_cons (operation : Operation) (later : List Operation) (table : Table) :
    ((operation :: later).mapM perform).run table =
      ((operation.perform.run table).1 ::
          ((later.mapM perform).run (operation.perform.run table).2).1,
        ((later.mapM perform).run (operation.perform.run table).2).2) := by
  rw [List.mapM_cons]
  rfl

/-- A run of operations keeps the number of rows within all bounds, and it derives the throughput
just when one of its operations does. -/
theorem follows_mapM (follows : Follows source rows derived table) (operations : List Operation) :
    Follows source ((operations.filterMap bound?).foldl min rows)
      (derived || ((operations.mapM perform).run table).1.any Answer.isDerived)
      ((operations.mapM perform).run table).2 := by
  induction operations generalizing rows derived table with
  | nil =>
      change Follows source rows (derived || false) table
      rwa [Bool.or_false]
  | cons operation later inductionHypothesis =>
      have after := inductionHypothesis (follows_perform follows operation)
      rw [mapM_perform_cons, List.any_cons, ← Bool.or_assoc]
      cases bound : operation.bound? with
      | none => simpa [bound] using after
      | some count => simpa [bound] using after

end Runs

/-- After any operations on a table that was read or made of columns, all columns have the length
of the source or the least of the bounds, no two columns share a name, the metadata is that of the
source, and the only new name is that of the throughput. -/
theorem operations_keep_shape {metadata : List (String × String)} {source : Table}
    (isSource : Table.IsSource metadata source) (operations : List Operation) :
    ∃ answers table, (operations.mapM perform).run source = (answers, table) ∧
      (∀ column ∈ table.columns, column.length = table.rowCount) ∧
      (source.rowCount :: operations.filterMap bound?).min? = some table.rowCount ∧
      table.columnNames.Nodup ∧ table.metadata = metadata ∧
      table.columnNames = source.columnNames ++
        (if answers.any Answer.isDerived ∧ Table.throughputName ∉ source.columnNames
          then [Table.throughputName] else []) := by
  have follows := follows_mapM (follows_self isSource.wellFormed) operations
  generalize (operations.mapM perform).run source = result at follows
  obtain ⟨answers, table⟩ := result
  refine ⟨answers, table, rfl, follows.wellFormed.lengths, ?_, follows.wellFormed.names, ?_, ?_⟩
  · rw [List.min?_cons', follows.rowCount]
  · rw [follows.metadata, isSource.metadata_eq]
  · rw [follows.columnNames, Bool.false_or]
    by_cases present : Table.throughputName ∈ source.columnNames
    · simp [namesAfter, present]
    · cases answers.any Answer.isDerived <;> simp [namesAfter, present]

/-- Two names in the header fall together, and the second row ends early. -/
def repeatedNames : List Char :=
  "# k: v\nEventCount,ElapsedTime,x,x_duplicated_0,x\n8,2,1,1\n4,1\n".toList

def repeatedTable : Table where
  columns := [⟨"EventCount", .integers .signed64 [some 8, some 4]⟩,
    ⟨"ElapsedTime", .integers .signed64 [some 2, some 1]⟩,
    ⟨"x", .integers .signed64 [some 1, none]⟩,
    ⟨"x_duplicated_0", .texts [some "1", none]⟩]
  metadata := [("k", "v")]

theorem repeatedTable_keeps_shape :
    Table.ofText {} repeatedNames = .ok repeatedTable ∧ ∃ answers table,
      ([.numeric "y", .addThroughput, .head 1, .head 7, .addThroughput].mapM perform).run
        repeatedTable = (answers, table) ∧
      table.rowCount = 1 ∧ table.columnNames.Nodup ∧
      table.metadata = [("k", "v")] := by
  have loaded : Table.ofText {} repeatedNames = .ok repeatedTable := by
    rw [Table.ofText_unquoted (by decide)]
    rfl
  obtain ⟨answers, table, run, -, rows, names, metadata, -⟩ := operations_keep_shape (.text loaded)
    [.numeric "y", .addThroughput, .head 1, .head 7, .addThroughput]
  exact ⟨loaded, answers, table, run, (Option.some.inj rows).symm, names, metadata⟩

end Operation

end BenchmarkReport
