/-
This file says what the derivation of the throughput does to a table: which cells the new column
has, where it stands, what stays as it was, and which fault is reported otherwise. The column is
computed as a whole, and its rows are what the throughput of a single row is.
-/

import BenchmarkReport.Delimited.Inference
import BenchmarkReport.Table.Throughput
import Mathlib.Data.List.Nodup

namespace BenchmarkReport

open Delimited

/-- The number in a cell. A whole number is rounded to the nearest double. -/
def Cell.number? : Cell → Option Float
  | .integer value => some (Float.ofInt value)
  | .real value => some value
  | _ => none

/-- The cell that holds a number or nothing. -/
def Cell.ofNumber? (number : Option Float) : Cell :=
  number.elim .missing .real

/-- The numbers of a numeric column are those of its cells. -/
theorem Values.numbers?_eq_cells (values : Values) :
    values.numbers? =
      if isNumber values.type then some (values.cells.map Cell.number?) else none := by
  cases values with
  | integers kind values =>
      simp only [numbers?, type, isNumber, if_true, cells, List.map_map]
      congr 2
      funext value
      cases value <;> rfl
  | reals kind values =>
      simp only [numbers?, type, isNumber, if_true, cells, List.map_map]
      have same : Cell.number? ∘ (fun value => value.elim .missing .real) = id := by
        funext value
        cases value <;> rfl
      rw [same, List.map_id]
  | booleans values => rfl
  | texts values => rfl
  | nulls count => rfl

/-- A cell of a numeric column has a number unless it is missing. -/
theorem Values.number?_eq_none_iff {values : Values} (numeric : isNumber values.type = true)
    {cell : Cell} (member : cell ∈ values.cells) : cell.number? = none ↔ cell = .missing := by
  cases values with
  | integers kind values =>
      obtain ⟨value, -, rfl⟩ := List.mem_map.mp member
      cases value <;> simp [Cell.number?]
  | reals kind values =>
      obtain ⟨value, -, rfl⟩ := List.mem_map.mp member
      cases value <;> simp [Cell.number?]
  | booleans values => simp [type, isNumber] at numeric
  | texts values => simp [type, isNumber] at numeric
  | nulls count => simp [type, isNumber] at numeric

theorem Column.cells_length (column : Column) : column.cells.length = column.length :=
  column.values.cells_length

namespace Table

/-- The place of a column with a name, or the one after the last column. -/
def placeOf (table : Table) (name : String) : Nat :=
  table.columnNames.idxOf name

/-- Why the column with a name cannot be read as numbers. -/
def numberFault? (table : Table) (name : String) : Option TableError :=
  match table.column? name with
  | none => some (.missingColumn name)
  | some column => if isNumber column.type then none else some (.notNumeric name column.type)

section Reading

variable {table : Table} {name : String}

theorem numbers_of_fault {fault : TableError} (faulty : table.numberFault? name = some fault) :
    table.numbers name = .error fault := by
  cases found : table.column? name with
  | none =>
      have missing : .missingColumn name = fault := by simpa [numberFault?, found] using faulty
      rw [numbers, found, ← missing]
  | some column =>
      by_cases numeric : isNumber column.type = true
      · simp [numberFault?, found, numeric] at faulty
      · have other : .notNumeric name column.type = fault := by
          simpa [numberFault?, found, numeric] using faulty
        have none : column.values.numbers? = none := by
          rw [Values.numbers?_eq_cells]
          exact if_neg numeric
        simp only [numbers, found, none, other]

theorem numbers_of_numeric {column : Column} (found : table.column? name = some column)
    (numeric : isNumber column.type = true) :
    table.numbers name = .ok (column.cells.map Cell.number?) := by
  have read : column.values.numbers? = some (column.values.cells.map Cell.number?) := by
    rw [Values.numbers?_eq_cells]
    exact if_pos numeric
  simp only [numbers, found, read, Column.cells]

theorem column_of_noFault (sound : table.numberFault? name = none) :
    ∃ column, table.column? name = some column ∧ isNumber column.type = true := by
  unfold numberFault? at sound
  split at sound <;> rename_i found
  · simp at sound
  · split at sound <;> rename_i numeric
    · exact ⟨_, found, numeric⟩
    · simp at sound

end Reading

section Setting

variable (table : Table) (column : Column)

theorem setColumn_metadata : (table.setColumn column).metadata = table.metadata := by
  unfold setColumn
  split <;> rfl

/-- A name is added only where it is new. -/
theorem columnNames_setColumn :
    (table.setColumn column).columnNames =
      if column.name ∈ table.columnNames then table.columnNames
      else table.columnNames ++ [column.name] := by
  unfold setColumn
  simp only [List.contains_eq_mem, decide_eq_true_eq]
  split
  · simp only [columnNames, List.map_map]
    apply List.map_congr_left
    intro present _
    by_cases same : present.name = column.name <;> simp [same]
  · simp [columnNames]

/-- The column that was set is found by its name. -/
theorem column?_setColumn : (table.setColumn column).column? column.name = some column := by
  unfold setColumn column?
  simp only [List.contains_eq_mem, decide_eq_true_eq]
  split
  · rename_i present
    obtain ⟨old, member, oldName⟩ := List.mem_map.mp present
    have sameTest : ((·.name == column.name) ∘ fun present : Column =>
        if present.name == column.name then column else present) =
        (·.name == column.name) := by
      funext present
      by_cases same : present.name = column.name <;> simp [same]
    rw [List.find?_map, sameTest]
    cases found : table.columns.find? (·.name == column.name) with
    | none => exact absurd oldName (by simpa using List.find?_eq_none.mp found old member)
    | some first =>
        have sameName : first.name = column.name := by
          have test := List.find?_some found
          simpa using test
        simp [sameName]
  · rename_i absent
    have none : table.columns.find? (·.name == column.name) = none := by
      rw [List.find?_eq_none]
      intro present member
      have different : present.name ≠ column.name := fun same =>
        absent (List.mem_map.mpr ⟨present, member, same⟩)
      simpa using different
    simp [none]

/-- A column of another name is found as before. -/
theorem column?_setColumn_of_ne {name : String} (different : name ≠ column.name) :
    (table.setColumn column).column? name = table.column? name := by
  have otherName : (column.name == name) = false := by simpa using different.symm
  unfold setColumn column?
  split
  · have sameTest : ((·.name == name) ∘ fun present : Column =>
        if present.name == column.name then column else present) = (·.name == name) := by
      funext present
      by_cases same : present.name = column.name <;> simp [same]
    rw [List.find?_map, sameTest]
    cases found : table.columns.find? (·.name == name) with
    | none => rfl
    | some first =>
        have named : first.name = name := by simpa using List.find?_some found
        simp [named, different]
  · rw [List.find?_append, List.find?_singleton, otherName]
    simp

/-- The column stands at the place of its name. -/
theorem getElem?_setColumn_placeOf :
    (table.setColumn column).columns[table.placeOf column.name]? = some column := by
  unfold setColumn placeOf
  simp only [List.contains_eq_mem, decide_eq_true_eq]
  split
  · rename_i present
    have name : (table.columns.map Column.name)[table.columnNames.idxOf column.name]? =
        some column.name := List.getElem?_idxOf present
    rw [List.getElem?_map] at name ⊢
    obtain ⟨old, standing, oldName⟩ := Option.map_eq_some_iff.mp name
    simp [standing, oldName]
  · rename_i absent
    rw [List.idxOf_eq_length absent]
    simp [columnNames]

/-- All other columns stay where they are. -/
theorem getElem?_setColumn_of_ne {index : Nat} {present : Column}
    (standing : table.columns[index]? = some present) (different : present.name ≠ column.name) :
    (table.setColumn column).columns[index]? = some present := by
  unfold setColumn
  split
  · simp [standing, different]
  · obtain ⟨bound, -⟩ := List.getElem?_eq_some_iff.mp standing
    rw [List.getElem?_append_left bound, standing]

theorem mem_setColumn {present : Column}
    (member : present ∈ (table.setColumn column).columns) :
    present ∈ table.columns ∨ present = column := by
  unfold setColumn at member
  split at member
  · obtain ⟨old, oldMember, rfl⟩ := List.mem_map.mp member
    by_cases same : old.name = column.name <;> simp [same, oldMember]
  · simpa using member

variable {table column}

theorem rowCount_setColumn (fits : column.length = table.rowCount) :
    (table.setColumn column).rowCount = table.rowCount := by
  unfold setColumn
  cases shape : table.columns with
  | nil => simp_all [rowCount, columnNames]
  | cons first others =>
      split
      · by_cases same : first.name = column.name <;> simp_all [rowCount]
      · simp [rowCount, shape]

/-- A column of the right length keeps a table well formed. -/
theorem WellFormed.setColumn (wellFormed : table.WellFormed)
    (fits : column.length = table.rowCount) : (table.setColumn column).WellFormed where
  lengths := by
    intro present member
    rw [rowCount_setColumn fits]
    rcases mem_setColumn table column member with old | rfl
    · exact wellFormed.lengths present old
    · exact fits
  names := by
    rw [columnNames_setColumn]
    split
    · exact wellFormed.names
    · rename_i absent
      rw [← List.concat_eq_append]
      exact wellFormed.names.concat absent

end Setting

section Rows

/-- The throughput of a single row. Without events or without time there is none. -/
def rowThroughput : Option Float → Option Float → Option Float
  | some events, some microseconds => some (throughput events microseconds)
  | _, _ => none

theorem rowThroughput_eq_none_iff (events microseconds : Option Float) :
    rowThroughput events microseconds = none ↔ events = none ∨ microseconds = none := by
  cases events <;> cases microseconds <;> simp [rowThroughput]

/-- What is computed on whole columns is the throughput of every single row. -/
theorem throughputs_eq_zipWith (events microseconds : List (Option Float)) :
    throughputs events microseconds = List.zipWith rowThroughput events microseconds := by
  have row : (fun count time => (· / ·) <$> ((· * microsecondsPerSecond) <$> count) <*> time) =
      rowThroughput := by
    funext count time
    cases count <;> cases time <;> rfl
  rw [throughputs, quotients, scaled, List.zipWith_map_left, row]

end Rows

section Derivation

variable {table : Table} {events times : Column}

/-- The column that the derivation sets. -/
def throughputColumn (events times : Column) : Column :=
  ⟨throughputName, .reals .double
    (throughputs (events.cells.map Cell.number?) (times.cells.map Cell.number?))⟩

/-- The first fault of the two columns that the derivation reads. -/
def derivationFault? (table : Table) : Option TableError :=
  (table.numberFault? eventCountName).or (table.numberFault? elapsedTimeName)

theorem addThroughput_of_fault {fault : TableError} (faulty : table.derivationFault? = some fault) :
    table.addThroughput = .error fault := by
  unfold derivationFault? at faulty
  cases eventFault : table.numberFault? eventCountName with
  | some first =>
      have same : first = fault := by simpa [eventFault] using faulty
      simp only [addThroughput, numbers_of_fault eventFault, same]
      rfl
  | none =>
      have timeFault : table.numberFault? elapsedTimeName = some fault := by
        simpa [eventFault] using faulty
      obtain ⟨events, found, numeric⟩ := column_of_noFault eventFault
      simp only [addThroughput, numbers_of_numeric found numeric, numbers_of_fault timeFault]
      rfl

theorem addThroughput_of_numeric (eventsFound : table.column? eventCountName = some events)
    (eventsNumeric : isNumber events.type = true)
    (timesFound : table.column? elapsedTimeName = some times)
    (timesNumeric : isNumber times.type = true) :
    table.addThroughput = .ok (table.setColumn (throughputColumn events times)) := by
  simp only [addThroughput, numbers_of_numeric eventsFound eventsNumeric,
    numbers_of_numeric timesFound timesNumeric]
  rfl

/-- A derivation that succeeds read two numeric columns and set the throughput. -/
theorem exists_columns_of_addThroughput {derived : Table}
    (success : table.addThroughput = .ok derived) :
    ∃ events times, table.column? eventCountName = some events ∧ isNumber events.type = true ∧
      table.column? elapsedTimeName = some times ∧ isNumber times.type = true ∧
      derived = table.setColumn (throughputColumn events times) := by
  cases found : table.derivationFault? with
  | some fault =>
      rw [addThroughput_of_fault found] at success
      simp at success
  | none =>
      obtain ⟨eventsSound, timesSound⟩ := Option.or_eq_none_iff.mp found
      obtain ⟨events, eventsFound, eventsNumeric⟩ := column_of_noFault eventsSound
      obtain ⟨times, timesFound, timesNumeric⟩ := column_of_noFault timesSound
      rw [addThroughput_of_numeric eventsFound eventsNumeric timesFound timesNumeric] at success
      exact ⟨events, times, eventsFound, eventsNumeric, timesFound, timesNumeric,
        (Except.ok.inj success).symm⟩

end Derivation

section Steps

variable {Value Result : Type}
  (next : Value → ExceptT TableError (StateM Table) Result) (table : Table)

theorem run_ofExcept_bind (value : Except TableError Value) :
    (MonadExcept.ofExcept value >>= next).run.run table =
      match value with
      | .ok value => (next value).run.run table
      | .error fault => (.error fault, table) := by
  cases value <;> rfl

theorem run_get_bind (next : Table → ExceptT TableError (StateM Table) Result) :
    (get >>= next).run.run table = (next table).run.run table := rfl

theorem run_modify_bind (change : Table → Table)
    (next : PUnit → ExceptT TableError (StateM Table) Result) :
    (modify change >>= next).run.run table = (next ⟨⟩).run.run (change table) := rfl

end Steps

/-- A column of reals that was set is read back. -/
theorem numeric_setColumn (table : Table) (name : String) (kind : RealKind)
    (values : List (Option Float)) :
    (table.setColumn ⟨name, .reals kind values⟩).numeric name = .ok (values.map orNaN) := by
  have found := table.column?_setColumn ⟨name, .reals kind values⟩
  simp only at found
  simp only [numeric, numbers, found, Values.numbers?]
  rfl

/-- The change in place has the result of the derivation, and a failure comes before any change:
to read the new column back never fails. -/
theorem deriveInPlace_run (table : Table) :
    deriveInPlace.run.run table =
      match table.addThroughput with
      | .ok derived => (.ok derived.unboundedRows, derived)
      | .error fault => (.error fault, table) := by
  simp only [deriveInPlace, run_get_bind, run_ofExcept_bind, run_modify_bind, addThroughput]
  cases table.numbers eventCountName with
  | error fault => rfl
  | ok events =>
      cases table.numbers elapsedTimeName with
      | error fault => rfl
      | ok times =>
          simp only [bind, Except.bind, pure, Except.pure, unboundedRows, numeric_setColumn]
          rfl

section Outcome

variable {table : Table} {events times : Column}

theorem column?_mem {name : String} {column : Column} (found : table.column? name = some column) :
    column ∈ table.columns ∧ column.name = name :=
  ⟨List.mem_of_find?_eq_some found, by simpa using List.find?_some found⟩

/-- The throughput of one row is missing exactly where its events or its time are. Else it is the
throughput of their numbers, which is a million times the events divided by the microseconds. -/
def IsRowThroughput (event time cell : Cell) : Prop :=
  (cell = .missing ↔ event = .missing ∨ time = .missing) ∧
    (cell ≠ .missing → ∃ count microseconds, event.number? = some count ∧
      time.number? = some microseconds ∧ cell = .real (count * 1000000 / microseconds) ∧
      throughput count microseconds = count * 1000000 / microseconds)

/-- What a table is after the derivation. -/
structure Derived (table : Table) (events times : Column) (derived : Table) : Prop where
  /-- The throughput stands where a column of its name stood, or else last. -/
  place : derived.columns[table.placeOf throughputName]? = derived.column? throughputName
  rows : ∃ column, derived.column? throughputName = some column ∧ column.type = .real .double ∧
    column.length = table.rowCount ∧ ∀ row < table.rowCount, ∃ event time cell,
      events.cells[row]? = some event ∧ times.cells[row]? = some time ∧
        column.cells[row]? = some cell ∧ IsRowThroughput event time cell
  names : derived.columnNames = if throughputName ∈ table.columnNames then table.columnNames
    else table.columnNames ++ [throughputName]
  others : ∀ (index : Nat) (column : Column), table.columns[index]? = some column →
    column.name ≠ throughputName → derived.columns[index]? = some column
  rowCount : derived.rowCount = table.rowCount
  metadata : derived.metadata = table.metadata
  wellFormed : derived.WellFormed

/-- The cell is fixed by the two that it is computed from. -/
theorem IsRowThroughput.cell_eq {event time cell : Cell}
    (isThroughput : IsRowThroughput event time cell) :
    cell = .ofNumber? (rowThroughput event.number? time.number?) := by
  obtain ⟨missing, value⟩ := isThroughput
  by_cases absent : cell = .missing
  · have none : rowThroughput event.number? time.number? = none := by
      rw [rowThroughput_eq_none_iff]
      rcases missing.mp absent with rfl | rfl
      · exact Or.inl rfl
      · exact Or.inr rfl
    rw [none, absent]
    rfl
  · obtain ⟨count, microseconds, counted, timed, real, -⟩ := value absent
    rw [counted, timed, real]
    rfl

theorem isRowThroughput_of_numeric {event time : Cell}
    (eventNumber : event.number? = none ↔ event = .missing)
    (timeNumber : time.number? = none ↔ time = .missing) :
    IsRowThroughput event time (.ofNumber? (rowThroughput event.number? time.number?)) := by
  have missing : Cell.ofNumber? (rowThroughput event.number? time.number?) = .missing ↔
      rowThroughput event.number? time.number? = none := by
    cases rowThroughput event.number? time.number? <;> simp [Cell.ofNumber?]
  refine ⟨?_, ?_⟩
  · rw [missing, rowThroughput_eq_none_iff, eventNumber, timeNumber]
  · intro present
    rw [ne_eq, missing] at present
    cases counted : event.number? with
    | none => simp [rowThroughput_eq_none_iff, counted] at present
    | some count =>
        cases timed : time.number? with
        | none => simp [rowThroughput_eq_none_iff, timed] at present
        | some microseconds => exact ⟨count, microseconds, rfl, rfl, rfl, rfl⟩

theorem throughputColumn_length (sameLength : events.length = times.length) :
    (throughputColumn events times).length = events.length := by
  have eventCells := events.cells_length
  have timeCells := times.cells_length
  change (throughputs (events.cells.map Cell.number?) (times.cells.map Cell.number?)).length =
    events.length
  rw [length_throughputs, List.length_map, List.length_map]
  omega

theorem throughputColumn_cell {row : Nat} {event time : Cell}
    (eventCell : events.cells[row]? = some event) (timeCell : times.cells[row]? = some time) :
    (throughputColumn events times).cells[row]? =
      some (.ofNumber? (rowThroughput event.number? time.number?)) := by
  have joined : (List.zipWith rowThroughput (events.cells.map Cell.number?)
      (times.cells.map Cell.number?))[row]? =
        some (rowThroughput event.number? time.number?) := by
    rw [List.getElem?_zipWith, List.getElem?_map, List.getElem?_map, eventCell, timeCell]
    rfl
  change ((throughputs (events.cells.map Cell.number?) (times.cells.map Cell.number?)).map
    Cell.ofNumber?)[row]? = _
  rw [throughputs_eq_zipWith, List.getElem?_map, joined]
  rfl

/-- All cells of the throughput, computed row by row. -/
theorem Derived.exists_cells {derived : Table} (outcome : Derived table events times derived)
    (sameLength : events.length = table.rowCount) :
    ∃ column, derived.column? throughputName = some column ∧
      column.cells = List.zipWith
        (fun event time => .ofNumber? (rowThroughput event.number? time.number?))
        events.cells times.cells := by
  obtain ⟨column, found, -, length, rows⟩ := outcome.rows
  refine ⟨column, found, List.ext_getElem? fun row => ?_⟩
  by_cases inside : row < table.rowCount
  · obtain ⟨event, time, cell, eventCell, timeCell, standing, isThroughput⟩ := rows row inside
    rw [standing, List.getElem?_zipWith, eventCell, timeCell, isThroughput.cell_eq]
  · have beyond : table.rowCount ≤ row := Nat.le_of_not_lt inside
    rw [List.getElem?_eq_none (by rwa [column.cells_length, length]), List.getElem?_eq_none]
    rw [List.length_zipWith, events.cells_length, sameLength]
    exact Nat.le_trans (Nat.min_le_left _ _) beyond

/-- The column that the derivation sets makes the table a derived one. -/
theorem derived_setColumn (wellFormed : table.WellFormed)
    (eventsFound : table.column? eventCountName = some events)
    (eventsNumeric : isNumber events.type = true)
    (timesFound : table.column? elapsedTimeName = some times)
    (timesNumeric : isNumber times.type = true) :
    Derived table events times (table.setColumn (throughputColumn events times)) := by
  have eventLength : events.length = table.rowCount :=
    wellFormed.lengths events (column?_mem eventsFound).1
  have timeLength : times.length = table.rowCount :=
    wellFormed.lengths times (column?_mem timesFound).1
  have fits : (throughputColumn events times).length = table.rowCount := by
    rw [throughputColumn_length (eventLength.trans timeLength.symm), eventLength]
  have found : (table.setColumn (throughputColumn events times)).column? throughputName =
      some (throughputColumn events times) :=
    table.column?_setColumn (throughputColumn events times)
  refine ⟨?_, ⟨_, found, rfl, fits, ?_⟩, ?_, ?_, ?_, ?_, ?_⟩
  · rw [found]
    exact table.getElem?_setColumn_placeOf (throughputColumn events times)
  · intro row inside
    obtain ⟨event, eventCell⟩ : ∃ event, events.cells[row]? = some event :=
      ⟨_, List.getElem?_eq_getElem (by rw [Column.cells_length]; omega)⟩
    obtain ⟨time, timeCell⟩ : ∃ time, times.cells[row]? = some time :=
      ⟨_, List.getElem?_eq_getElem (by rw [Column.cells_length]; omega)⟩
    refine ⟨event, time, _, eventCell, timeCell, throughputColumn_cell eventCell timeCell, ?_⟩
    exact isRowThroughput_of_numeric
      (Values.number?_eq_none_iff eventsNumeric (List.mem_of_getElem? eventCell))
      (Values.number?_eq_none_iff timesNumeric (List.mem_of_getElem? timeCell))
  · exact table.columnNames_setColumn (throughputColumn events times)
  · intro index column standing different
    exact table.getElem?_setColumn_of_ne (throughputColumn events times) standing different
  · exact rowCount_setColumn fits
  · exact table.setColumn_metadata (throughputColumn events times)
  · exact wellFormed.setColumn fits

end Outcome

/-- Two numeric columns of events and time give a derived table. In every other case the first
fault of the two is reported and the table is what it was. -/
theorem addThroughput_outcome (table : Table) (wellFormed : table.WellFormed) :
    (∀ events times, table.column? eventCountName = some events → isNumber events.type = true →
      table.column? elapsedTimeName = some times → isNumber times.type = true →
      ∃ derived, table.addThroughput = .ok derived ∧
        deriveInPlace.run.run table = (.ok derived.unboundedRows, derived) ∧
        Derived table events times derived) ∧
    (∀ fault, table.derivationFault? = some fault → table.addThroughput = .error fault ∧
      deriveInPlace.run.run table = (.error fault, table)) ∧
    (table.derivationFault? = none → ∃ events times,
      table.column? eventCountName = some events ∧ isNumber events.type = true ∧
      table.column? elapsedTimeName = some times ∧ isNumber times.type = true) := by
  refine ⟨?_, ?_, ?_⟩
  · intro events times eventsFound eventsNumeric timesFound timesNumeric
    have success := addThroughput_of_numeric eventsFound eventsNumeric timesFound timesNumeric
    refine ⟨_, success, ?_, derived_setColumn wellFormed eventsFound eventsNumeric timesFound
      timesNumeric⟩
    rw [deriveInPlace_run, success]
  · intro fault faulty
    have failure := addThroughput_of_fault faulty
    refine ⟨failure, ?_⟩
    rw [deriveInPlace_run, failure]
  · intro sound
    have both := Option.or_eq_none_iff.mp sound
    obtain ⟨events, eventsFound, eventsNumeric⟩ := column_of_noFault both.1
    obtain ⟨times, timesFound, timesNumeric⟩ := column_of_noFault both.2
    exact ⟨events, times, eventsFound, eventsNumeric, timesFound, timesNumeric⟩

/-- A table whose throughput is text and stands between the columns that it is derived from. Its
last three rows have a negative time, no time at all, and no events either. -/
def mislabelledTable : Table where
  columns := [
    ⟨eventCountName, .integers .unsigned32 [some 7, none, some 4, some 7, some 3, some 0]⟩,
    ⟨throughputName, .texts [some "fast", none, none, none, none, none]⟩,
    ⟨"Label", .booleans [none, some true, some false, none, none, none]⟩,
    ⟨elapsedTimeName, .reals .double [some 2, some 1, none, some (-2), some 0, some 0]⟩]
  metadata := [("Samples", "6")]

theorem mislabelledTable_derived :
    mislabelledTable.WellFormed ∧ ∃ derived column, mislabelledTable.addThroughput = .ok derived ∧
      derived.columnNames = mislabelledTable.columnNames ∧ derived.rowCount = 6 ∧
      derived.metadata = [("Samples", "6")] ∧ derived.columns[1]? = some column ∧
      column.cells = [.real 3500000, .missing, .missing, .real (-3500000), .real (1 / 0),
        .real (0 / 0)] := by
  have wellFormed : mislabelledTable.WellFormed := by
    refine ⟨?_, by decide⟩
    intro column member
    simp only [mislabelledTable, List.mem_cons, List.not_mem_nil, or_false] at member
    rcases member with rfl | rfl | rfl | rfl <;> rfl
  obtain ⟨derived, success, -, outcome⟩ :=
    (addThroughput_outcome mislabelledTable wellFormed).1 _ _ rfl rfl rfl rfl
  obtain ⟨column, found, cells⟩ := outcome.exists_cells rfl
  change column.cells = [.real (Float.ofInt 7 * 1000000 / 2), .missing, .missing,
    .real (Float.ofInt 7 * 1000000 / -2), .real (Float.ofInt 3 * 1000000 / 0),
    .real (Float.ofInt 0 * 1000000 / 0)] at cells
  have ahead : Float.ofInt 7 * 1000000 / 2 = (3500000 : Float) := by decide +kernel
  have behind : Float.ofInt 7 * 1000000 / -2 = (-3500000 : Float) := by decide +kernel
  have endless : Float.ofInt 3 * 1000000 / 0 = (1 / 0 : Float) := by decide +kernel
  have empty : Float.ofInt 0 * 1000000 / 0 = (0 / 0 : Float) := by decide +kernel
  rw [ahead, behind, endless, empty] at cells
  exact ⟨wellFormed, derived, column, success, outcome.names, outcome.rowCount, outcome.metadata,
    outcome.place.trans found, cells⟩

end Table

end BenchmarkReport
