/-
This file shows what a column that nothing uses does to a table. Where the text still loads with the
column behind every line, the other columns stay as they are, and so does all that is derived from
them. Whether it loads depends on the fields of that column alone.
-/

import BenchmarkReport.Proofs.Delimited.Widening
import BenchmarkReport.Proofs.Table.BlankLines
import BenchmarkReport.Proofs.Table.ColumnTypes
import BenchmarkReport.Proofs.Table.Metadata
import BenchmarkReport.Proofs.Table.Summaries
import BenchmarkReport.Plot.Scatter

namespace BenchmarkReport.Table

open Text Number Delimited Plot

/-- A table with one more column behind the others. -/
def addColumn (column : Column) (table : Table) : Table :=
  { table with columns := table.columns ++ [column] }

/-- All columns but those of one name are the same, in the same order. -/
def AgreeBut (name : String) (first second : Table) : Prop :=
  first.columns.filter (·.name != name) = second.columns.filter (·.name != name)

section Agreement

variable {name : String} {first second : Table}

/-- What is searched for is not dropped. -/
theorem find?_filter_of_imp {Item : Type} {keep test : Item → Bool}
    (kept : ∀ item, test item = true → keep item = true) (items : List Item) :
    (items.filter keep).find? test = items.find? test := by
  rw [List.find?_filter]
  congr 1
  funext item
  cases tested : test item with
  | false => simp
  | true => simp [kept item tested]

theorem agreeBut_addColumn (table : Table) (column : Column) :
    AgreeBut column.name table (table.addColumn column) := by
  simp [AgreeBut, addColumn]

variable (agree : AgreeBut name first second)

include agree

theorem AgreeBut.column? {other : String} (different : other ≠ name) :
    first.column? other = second.column? other := by
  have kept : ∀ column : Column, (column.name == other) = true → (column.name != name) = true := by
    intro column named
    rw [beq_iff_eq.mp named]
    exact bne_iff_ne.mpr different
  rw [Table.column?, Table.column?, ← find?_filter_of_imp kept, agree, find?_filter_of_imp kept]

theorem AgreeBut.numeric {other : String} (different : other ≠ name) :
    first.numeric other = second.numeric other := by
  rw [numeric_eq, numeric_eq, agree.column? different]

theorem AgreeBut.numbers {other : String} (different : other ≠ name) :
    first.numbers other = second.numbers other := by
  rw [Table.numbers, Table.numbers, agree.column? different]

/-- A summary has the name of its column. -/
theorem AgreeBut.describe_get? {other : String} (different : other ≠ name) :
    first.describe.get? other = second.describe.get? other := by
  have kept : ∀ column : Column, column.summary?.any (·.name == other) = true →
      (column.name != name) = true := by
    intro column described
    cases summary : column.summary? with
    | none => simp [summary] at described
    | some entry =>
        rw [summary, Option.any_some] at described
        rw [← Column.summary?_name summary, beq_iff_eq.mp described]
        exact bne_iff_ne.mpr different
  rw [Description.get?, Description.get?, describe, describe, List.find?_filterMap,
    List.find?_filterMap, ← find?_filter_of_imp kept, agree, find?_filter_of_imp kept]

theorem AgreeBut.mem_columnNames {other : String} (different : other ≠ name) :
    other ∈ first.columnNames ↔ other ∈ second.columnNames := by
  rw [← not_iff_not, ← column?_eq_none_iff, ← column?_eq_none_iff, agree.column? different]

/-- A column of another name is set beside the one that may differ. -/
theorem AgreeBut.setColumn {column : Column} (different : column.name ≠ name) :
    AgreeBut name (first.setColumn column) (second.setColumn column) := by
  have replaced (columns : List Column) :
      (columns.map fun present => if present.name == column.name then column else present).filter
          (·.name != name) =
        (columns.filter (·.name != name)).map fun present =>
          if present.name == column.name then column else present := by
    rw [List.filter_map]
    congr 2
    funext present
    by_cases named : present.name = column.name <;> simp [named]
  have present := agree.mem_columnNames different
  unfold AgreeBut at agree ⊢
  unfold Table.setColumn
  simp only [List.contains_eq_mem, decide_eq_true_eq, present]
  split
  · rw [replaced, replaced, agree]
  · rw [List.filter_append, List.filter_append, agree]

theorem AgreeBut.addThroughput (others : name ∉ [eventCountName, elapsedTimeName, throughputName]) :
    (∀ fault, first.addThroughput = .error fault ↔ second.addThroughput = .error fault) ∧
    (∀ derived, first.addThroughput = .ok derived →
      ∃ wider, second.addThroughput = .ok wider ∧ AgreeBut name derived wider) := by
  simp only [List.mem_cons, List.not_mem_nil, or_false, not_or] at others
  obtain ⟨noEvents, noTime, noRate⟩ := others
  unfold Table.addThroughput
  rw [agree.numbers (Ne.symm noEvents), agree.numbers (Ne.symm noTime)]
  cases second.numbers eventCountName with
  | error fault =>
      exact ⟨fun _ => Iff.rfl, fun derived success => by simp [bind, Except.bind] at success⟩
  | ok events =>
      cases second.numbers elapsedTimeName with
      | error fault =>
          exact ⟨fun _ => Iff.rfl, fun derived success => by simp [bind, Except.bind] at success⟩
      | ok times =>
          refine ⟨fun fault => by simp [bind, Except.bind, pure, Except.pure], ?_⟩
          rintro derived success
          refine ⟨_, rfl, ?_⟩
          rw [← Except.ok.inj success]
          exact agree.setColumn (Ne.symm noRate)

theorem AgreeBut.ofTable {xName yName : String} (xOther : xName ≠ name) (yOther : yName ≠ name) :
    ScatterPlot.ofTable first xName yName = ScatterPlot.ofTable second xName yName := by
  rw [ScatterPlot.ofTable, ScatterPlot.ofTable, agree.numeric xOther, agree.numeric yOther]

end Agreement

/-- Each line of a text has one more field in another text. The text has a header and records with
a field for each name in it, and its lines may end with or without carriage returns. One that is
left at the end of a line comes to stand within the wider line. There it would change the last name,
so that the header has none, and it must not change the types that the records speak for. -/
structure IsExtended (dialect : Dialect) (text widened header name : List Char)
    (rows : List (List Char × List Char)) : Prop where
  ascii : dialect.delimiter < 128
  isSeparator : IsSeparator dialect.separator
  original : filledLines text = header :: rows.map Prod.fst
  extended : filledLines widened =
    extendLine dialect.separator header name :: extendRows dialect rows
  unquoted : '"' ∉ text
  noReturn : header.getLast? ≠ some '\r'
  whole : ∀ row ∈ rows.take inferenceLength, SpeaksWhole dialect.separator row.1
  isHeader : IsHeader dialect header
  uncommented : ∀ row ∈ rows, startsWith dialect.marker? row.1 = false
  widths : ∀ row ∈ rows,
    (split dialect.separator row.1).length = (headerNames dialect (bareHeader header)).length
  isName : IsField dialect.separator name
  areFields : ∀ row ∈ rows, IsField dialect.separator row.2

/-- The type that the reader finds for the fields behind the records. -/
def extraType (rows : List (List Char × List Char)) : ElementType :=
  foundType ((rows.map Prod.snd).take inferenceLength)

namespace IsExtended

variable {dialect : Dialect} {text widened header name : List Char}
  {rows : List (List Char × List Char)} {table wider : Table}
  (isExtended : IsExtended dialect text widened header name rows)

include isExtended

theorem header_line : header ∈ filledLines text :=
  isExtended.original ▸ List.mem_cons_self

theorem row_line {row : List Char × List Char} (member : row ∈ rows) : row.1 ∈ filledLines text :=
  isExtended.original ▸ List.mem_cons_of_mem header (List.mem_map_of_mem member)

theorem line_unquoted : ∀ line ∈ filledLines text, '"' ∉ line :=
  filledLines_absent isExtended.unquoted

/-- The header is no comment, with or without a byte order mark. -/
theorem header_unmarked : startsWith dialect.marker? header = false := by
  rw [Bool.eq_false_iff]
  intro starts
  have unmarked := isExtended.isHeader.unmarked
  rw [dropByteOrderMark_of_startsWith starts,
    Dialect.isComment_eq_startsWith isExtended.ascii, starts] at unmarked
  exact Bool.noConfusion unmarked

theorem areExtended :
    AreExtended dialect (headerNames dialect (bareHeader header)).length rows where
  filled := fun _ member => filledLines_ne_nil (isExtended.row_line member)
  uncommented := by
    intro row member
    rw [Dialect.isComment_eq_startsWith isExtended.ascii]
    exact isExtended.uncommented row member
  unquoted := fun row member => isExtended.line_unquoted row.1 (isExtended.row_line member)
  single := fun row member => filledLines_single row.1 (isExtended.row_line member)
  widths := by
    intro row member
    rw [fields_of_unquoted (isExtended.line_unquoted row.1 (isExtended.row_line member))
      (filledLines_single row.1 (isExtended.row_line member))]
    exact isExtended.widths row member
  areFields := isExtended.areFields

theorem text_unmarked : ∀ line ∈ filledLines text, startsWith dialect.marker? line = false := by
  rw [isExtended.original, List.forall_mem_cons, List.forall_mem_map]
  exact ⟨isExtended.header_unmarked, isExtended.uncommented⟩

theorem widened_unmarked :
    ∀ line ∈ filledLines widened, startsWith dialect.marker? line = false := by
  have ascii := isExtended.ascii
  rw [isExtended.extended, List.forall_mem_cons, extendRows, List.forall_mem_map]
  simp only [← Dialect.isComment_eq_startsWith ascii]
  refine ⟨?_, fun row member => ?_⟩
  · rw [isComment_extendLine ascii isExtended.isHeader.ne_nil,
      Dialect.isComment_eq_startsWith ascii, isExtended.header_unmarked]
  · rw [isComment_extendLine ascii (isExtended.areExtended.filled row member),
      isExtended.areExtended.uncommented row member]

theorem widened_unquoted : ∀ line ∈ filledLines widened, '"' ∉ line := by
  rw [isExtended.extended, List.forall_mem_cons, extendRows, List.forall_mem_map]
  exact ⟨extendLine_unquoted isExtended.isSeparator isExtended.isName
      (isExtended.line_unquoted header isExtended.header_line),
    fun row member => extendLine_unquoted isExtended.isSeparator (isExtended.areFields row member)
      (isExtended.line_unquoted row.1 (isExtended.row_line member))⟩

/-- The text with the further fields makes the table with the further column, if these can be
read. -/
theorem ofText_widened_iff (success : ofText dialect text = .ok table)
    (fresh : String.ofList name ∉ table.columnNames) : ofText dialect widened = .ok wider ↔
      isCompressed (unlines (filledLines widened)) = false ∧
      ∃ values, (rows.map Prod.snd).mapM (readCell .character (extraType rows)) = .ok values ∧
        wider = table.addColumn ⟨.ofList name, valuesOfCells (extraType rows) values⟩ := by
  rw [ofText_eq_of_unmarked isExtended.original isExtended.text_unmarked
    isExtended.line_unquoted, withMetadata_eq_ok_iff, isExtended.original] at success
  obtain ⟨read, noMetadata⟩ := success
  rw [ofText_eq_of_unmarked isExtended.extended isExtended.widened_unmarked
    isExtended.widened_unquoted, withMetadata_eq_ok_iff, isExtended.extended,
    readLines_extendRows isExtended.ascii isExtended.isSeparator isExtended.isHeader
      (isExtended.line_unquoted header isExtended.header_line)
      (filledLines_single header isExtended.header_line) isExtended.noReturn isExtended.isName
      isExtended.areExtended isExtended.whole read fresh]
  constructor
  · rintro ⟨⟨plain, values, readable, columns⟩, metadata⟩
    refine ⟨plain, values, readable, ?_⟩
    obtain ⟨widerColumns, widerMetadata⟩ := wider
    rw [addColumn, Table.mk.injEq]
    exact ⟨columns, metadata.trans noMetadata.symm⟩
  · rintro ⟨plain, values, readable, rfl⟩
    exact ⟨⟨plain, values, readable, rfl⟩, noMetadata⟩

/-- Where all fields serve to find their type they can be read as values of it. -/
theorem exists_cell_of_isPlainCell (short : rows.length ≤ inferenceLength)
    (plain : ∀ row ∈ rows, IsPlainCell row.2) (within : ∀ row ∈ rows, readsWithin row.2 = true) :
    ∀ row ∈ rows, ∃ cell, readCell .character (extraType rows) row.2 = .ok cell := by
  have type : extraType rows = columnType (rows.map Prod.snd) := by
    rw [extraType, List.take_of_length_le (by rwa [List.length_map])]
    exact foundType_of_isPlainCell (List.forall_mem_map.mpr plain)
      (List.forall_mem_map.mpr fun row member => (isExtended.areFields row member).unquoted)
  intro row member
  rw [type]
  exact readCell_of_columnType (List.mem_map_of_mem member)
    (isExtended.areFields row member).unquoted (Or.inl rfl)
    fun _ _ read => bounds_of_readsWithin (within row member) read

end IsExtended

/-- The names that the derivation and the plot look for. -/
def usedNames : List String :=
  [threadCountName, eventCountName, elapsedTimeName, throughputName]

/-- A further column has no part in the other columns, in their summaries, in the derivation and in
the plot. -/
structure IsUndisturbed (name : String) (table wider : Table) : Prop where
  columns : ∃ values, wider = table.addColumn ⟨name, values⟩
  summaries : ∀ other ≠ name, wider.describe.get? other = table.describe.get? other
  faults : name ∉ usedNames → ∀ fault,
    wider.addThroughput = .error fault ↔ table.addThroughput = .error fault
  derived : name ∉ usedNames → ∀ derived, table.addThroughput = .ok derived →
    ∃ result, wider.addThroughput = .ok result ∧
      result.column? throughputName = derived.column? throughputName ∧
      ScatterPlot.ofTable result threadCountName throughputName =
        ScatterPlot.ofTable derived threadCountName throughputName ∧
      ∀ other ≠ name, result.describe.get? other = derived.describe.get? other

theorem isUndisturbed_addColumn (table : Table) (column : Column) :
    IsUndisturbed column.name table (table.addColumn column) := by
  have agree := agreeBut_addColumn table column
  have derivation (unused : column.name ∉ usedNames) := agree.addThroughput
    fun used => unused (List.mem_cons_of_mem threadCountName used)
  refine ⟨⟨column.values, rfl⟩, fun other different => (agree.describe_get? different).symm,
    fun unused fault => ((derivation unused).1 fault).symm, ?_⟩
  intro unused derived success
  obtain ⟨result, derives, agreeDerived⟩ := (derivation unused).2 derived success
  have threads : threadCountName ≠ column.name := fun same => unused (by simp [usedNames, ← same])
  have rate : throughputName ≠ column.name := fun same => unused (by simp [usedNames, ← same])
  exact ⟨result, derives, (agreeDerived.column? rate).symm,
    (agreeDerived.ofTable threads rate).symm,
    fun other different => (agreeDerived.describe_get? different).symm⟩

/-- A text with a further column loads if the fields of that column can be read as the type that
the first of them speak for and the reader does not take it for compressed data. The other columns
and what is derived from them are not disturbed then. A short column of plain cells always can be
read. -/
theorem ofText_extended {dialect : Dialect} {text widened header name : List Char}
    {rows : List (List Char × List Char)} {table : Table}
    (isExtended : IsExtended dialect text widened header name rows)
    (success : ofText dialect text = .ok table) (fresh : String.ofList name ∉ table.columnNames) :
    ((∃ wider, ofText dialect widened = .ok wider) ↔
      isCompressed (unlines (filledLines widened)) = false ∧
        ∀ row ∈ rows, ∃ cell, readCell .character (extraType rows) row.2 = .ok cell) ∧
    (∀ wider, ofText dialect widened = .ok wider →
      IsUndisturbed (.ofList name) table wider) ∧
    (rows.length ≤ inferenceLength →
      (∀ row ∈ rows, IsPlainCell row.2 ∧ readsWithin row.2 = true) →
        ∀ row ∈ rows, ∃ cell, readCell .character (extraType rows) row.2 = .ok cell) := by
  have readable :
      (∃ values, (rows.map Prod.snd).mapM (readCell .character (extraType rows)) = .ok values) ↔
        ∀ row ∈ rows, ∃ cell, readCell .character (extraType rows) row.2 = .ok cell := by
    rw [exists_mapM_iff, List.forall_mem_map]
  have loads {wider : Table} :=
    @IsExtended.ofText_widened_iff _ _ _ _ _ _ _ wider isExtended success fresh
  rw [← readable]
  refine ⟨⟨?_, ?_⟩, ?_, ?_⟩
  · rintro ⟨wider, loaded⟩
    obtain ⟨plain, values, read, -⟩ := loads.mp loaded
    exact ⟨plain, values, read⟩
  · rintro ⟨plain, values, read⟩
    exact ⟨_, loads.mpr ⟨plain, values, read, rfl⟩⟩
  · intro wider loaded
    obtain ⟨-, values, -, rfl⟩ := loads.mp loaded
    exact isUndisturbed_addColumn table ⟨.ofList name, _⟩
  · intro short cells
    rw [readable]
    exact isExtended.exists_cell_of_isPlainCell short (fun row member => (cells row member).1)
      fun row member => (cells row member).2

/-- The driver writes a text behind its numbers, and one of them is missing. -/
def hostRows : List (List Char × List Char) :=
  [("1,1000,500000".toList, "#1: ä".toList), ("4,,250000".toList, [])]

def bareText : List Char :=
  "ThreadCount,EventCount,ElapsedTime\r\n1,1000,500000\r\n4,,250000".toList

def hostText : List Char :=
  "ThreadCount,EventCount,ElapsedTime,Host\r\n1,1000,500000,#1: ä\r\n4,,250000,".toList

theorem hostText_undisturbed :
    IsExtended {} bareText hostText "ThreadCount,EventCount,ElapsedTime".toList "Host".toList
        hostRows ∧
      ∃ table, ofText {} bareText = .ok table ∧
        String.ofList "Host".toList ∉ table.columnNames ∧
        ∃ wider, ofText {} hostText = .ok wider ∧
          IsUndisturbed (.ofList "Host".toList) table wider := by
  have isExtended : IsExtended {} bareText hostText
      "ThreadCount,EventCount,ElapsedTime".toList "Host".toList hostRows :=
    { ascii := by decide
      isSeparator := ⟨by decide, by decide, by decide⟩
      original := by decide
      extended := by decide
      unquoted := by decide
      noReturn := by decide
      whole := by decide
      isHeader := ⟨by decide, by decide, by decide⟩
      uncommented := by decide
      widths := by decide
      isName := by decide
      areFields := by decide }
  have loaded : ∃ table, ofText {} bareText = .ok table ∧
      String.ofList "Host".toList ∉ table.columnNames := by
    rw [ofText_unquoted (by decide)]
    exact ⟨_, rfl, by decide⟩
  obtain ⟨table, success, fresh⟩ := loaded
  obtain ⟨loads, undisturbed, -⟩ := ofText_extended isExtended success fresh
  have readable : ∀ row ∈ hostRows,
      ∃ cell, readCell .character (extraType hostRows) row.2 = .ok cell :=
    List.forall_mem_cons.mpr ⟨⟨_, rfl⟩, List.forall_mem_cons.mpr ⟨⟨_, rfl⟩, by simp⟩⟩
  obtain ⟨wider, widerLoaded⟩ := loads.mpr ⟨by decide, readable⟩
  exact ⟨isExtended, table, success, fresh, wider, widerLoaded, undisturbed wider widerLoaded⟩

/-- The last of a hundred and one fields behind the records is the only one that is no whole
number. -/
def lateRows : List (List Char × List Char) :=
  List.replicate 100 (['1'], ['1']) ++ [(['1'], ['x'])]

/-- The type of the further column is found from the rows before it, so that the whole text is
refused because of a column that nothing uses. -/
theorem lateRows_refused :
    IsExtended {} (unlines (['a'] :: lateRows.map Prod.fst))
        (unlines (extendLine ',' ['a'] ['b'] :: extendRows {} lateRows)) ['a'] ['b'] lateRows ∧
      ∃ table, ofText {} (unlines (['a'] :: lateRows.map Prod.fst)) = .ok table ∧
        String.ofList ['b'] ∉ table.columnNames ∧
        ¬ ∃ wider, ofText {} (unlines (extendLine ',' ['a'] ['b'] :: extendRows {} lateRows)) =
          .ok wider := by
  have isExtended : IsExtended {} (unlines (['a'] :: lateRows.map Prod.fst))
      (unlines (extendLine ',' ['a'] ['b'] :: extendRows {} lateRows)) ['a'] ['b'] lateRows :=
    { ascii := by decide
      isSeparator := ⟨by decide, by decide, by decide⟩
      original := by decide +kernel
      extended := by decide +kernel
      unquoted := by decide +kernel
      noReturn := by decide
      whole := by decide +kernel
      isHeader := ⟨by decide, by decide, by decide⟩
      uncommented := by decide +kernel
      widths := by decide +kernel
      isName := by decide
      areFields := by decide +kernel }
  have loaded : ∃ table, ofText {} (unlines (['a'] :: lateRows.map Prod.fst)) = .ok table ∧
      String.ofList ['b'] ∉ table.columnNames := by
    rw [ofText_unquoted isExtended.unquoted]
    exact ⟨_, rfl, by decide +kernel⟩
  obtain ⟨table, success, fresh⟩ := loaded
  refine ⟨isExtended, table, success, fresh, ?_⟩
  rintro ⟨wider, widerLoaded⟩
  obtain ⟨-, values, read, -⟩ := (isExtended.ofText_widened_iff success fresh).mp widerLoaded
  obtain ⟨cell, last⟩ := exists_mapM_iff.mp ⟨values, read⟩ ['x'] (by decide +kernel)
  have type : extraType lateRows = .integer .signed64 := by decide +kernel
  have refused : readCell .character (.integer .signed64) ['x'] = .error .leftover := rfl
  rw [type, refused] at last
  exact absurd last (by simp)

end BenchmarkReport.Table
