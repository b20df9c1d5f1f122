/-
This file reads whole numbers under a header in which names may repeat. All columns are there under
distinct names exactly if no repetition gets a name that the header holds as well.
-/

import BenchmarkReport.Proofs.Delimited.IntegerLines
import BenchmarkReport.Proofs.Delimited.RepeatedNames
import BenchmarkReport.Proofs.Table.PrintedLines

namespace BenchmarkReport.Table

open Text Number Delimited

/-- A header of words, in any pattern of repetition, and records of whole numbers of 64 bits. -/
structure NumberTable where
  names : List String
  rows : List (List (List Char))
  named : names ≠ []
  filled : ∀ name ∈ names, name ≠ ""
  words : ∀ name ∈ names, ∀ symbol ∈ name.toList, isWordSymbol symbol = true
  widths : ∀ row ∈ rows, row.length = names.length
  numbers : ∀ row ∈ rows, ∀ field ∈ row, IsWhole field
  bounded : ∀ row ∈ rows, ∀ field ∈ row,
    leastInteger ≤ wholeValue field ∧ wholeValue field ≤ greatestInteger

namespace NumberTable

/-- The header and one line for each record. -/
def lines (source : NumberTable) : List (List Char) :=
  headerLine source.names :: source.rows.map fieldLine

/-- Without records there is nothing that speaks for numbers. -/
def type (source : NumberTable) : ElementType :=
  if source.rows = [] then .text else .integer .signed64

/-- A column belongs to each field of the header. It has a name of its own that starts with the
field, and the field itself where it stands for the first time, and holds the fields below it. -/
structure IsKept (source : NumberTable) (table : Table) : Prop where
  count : table.columns.length = source.names.length
  distinct : table.columnNames.Nodup
  first : ∀ (place : Nat) (name : String), source.names[place]? = some name →
    name ∉ source.names.take place → table.columnNames[place]? = some name
  started : ∀ (place : Nat) (name renamed : String), source.names[place]? = some name →
    table.columnNames[place]? = some renamed → name.toList <+: renamed.toList
  cells : ∀ (place : Nat) (column : Column), table.columns[place]? = some column →
    column.cells = source.rows.map fun row => .integer (wholeValue (row.getD place []))

variable (source : NumberTable) {table : Table} {text : List Char}

theorem areNumbers : ∀ row ∈ source.rows, ∀ field ∈ row, IsNumberField field :=
  fun row member field within => Or.inr (source.numbers row member field within)

theorem row_ne_nil : ∀ row ∈ source.rows, row ≠ [] :=
  ne_nil_of_widths (List.length_pos_iff.mpr source.named) source.widths

theorem arePrinted : ArePrinted source.lines where
  filled := by
    refine List.forall_mem_cons.mpr ⟨?_, List.forall_mem_map.mpr fun row member => ?_⟩
    · refine fieldLine_ne_nil (by simpa using source.named) (Or.inr ?_)
      exact List.forall_mem_map.mpr fun name member => by simpa using source.filled name member
    · exact fieldLine_ne_nil (source.row_ne_nil row member)
        (Or.inr fun field within => (source.numbers row member field within).ne_nil)
  bounds := by
    refine List.forall_mem_cons.mpr ⟨?_, List.forall_mem_map.mpr fun row member => ?_⟩
    · intro symbol within
      rcases mem_headerLine source.words within with rfl | word
      · decide
      · obtain ⟨above, below⟩ := toNat_of_isWordSymbol word
        omega
    · intro symbol within
      rcases mem_numberLine (source.areNumbers row member) within with rfl | rfl | digit
      · decide
      · decide
      · obtain ⟨above, below⟩ := toNat_of_isDigit digit
        omega

theorem headerNames_eq :
    headerNames {} (headerLine source.names) = renameRepeated [] source.names :=
  headerNames_eq_renameRepeated source.words (by decide) (by decide) (by decide) (by decide)
    source.named

theorem inferTypes_eq : inferTypes {} source.names.length (source.rows.map fieldLine) =
    List.replicate source.names.length source.type := by
  unfold type
  split
  · rename_i none
    rw [none]
    exact List.eq_replicate_iff.mpr
      ⟨inferTypes_length {} _ [], by simp [inferTypes, joinTypes]⟩
  · rename_i some
    refine inferTypes_numbers (List.length_pos_iff.mpr source.named) source.widths
      source.areNumbers ?_
    intro place within
    obtain ⟨row, later, shape⟩ := List.exists_cons_of_ne_nil some
    have member : row ∈ source.rows := by simp [shape]
    refine ⟨row, by simp [shape, inferenceLength], ?_⟩
    rw [← source.widths row member] at within
    rw [List.getD_eq_getElem?_getD, List.getElem?_eq_getElem within]
    exact (source.numbers row member _ (List.getElem_mem within)).ne_nil

/-- Every field is read as its value. -/
theorem readCell_field : ∀ row ∈ source.rows, ∀ field ∈ row,
    readCell .character source.type (dropReturn field) = .ok (.integer (wholeValue field)) := by
  intro row member field within
  have whole := source.numbers row member field within
  obtain ⟨least, greatest⟩ := source.bounded row member field within
  rw [type, if_neg (List.ne_nil_of_mem member), dropReturn_of_not_mem
    (IsNumberField.not_mem (Or.inr whole) (by decide) (by decide))]
  exact readCell_of_isWhole whole (readInteger?_eq_wholeValue whole) least greatest _

/-- Where the new names are distinct the records are read as the columns under them. -/
theorem lineColumns_of_repeatsApart (apart : RepeatsApart source.names) :
    lineColumns {} source.lines = .ok (uniformColumns source.type
      (fun field => .integer (wholeValue field)) (renameRepeated [] source.names) source.rows) := by
  refine lineColumns_uniform source.arePrinted.symbolLines_eq.2
    source.arePrinted.isComment_eq_false source.headerNames_eq apart.renameRepeated_nodup ?_
    (fun row member => ?_) ?_ source.readCell_field
  · rw [renameRepeated_length]
    exact source.inferTypes_eq
  · rw [List.map_id']
    exact fields_numberLine (source.areNumbers row member) (source.row_ne_nil row member)
  · rw [renameRepeated_length]
    exact source.widths

/-- The cells below a name are the fields that stand there. -/
theorem uniformColumns_cells {place : Nat} {name : String} (within : place < source.names.length) :
    Column.cells ⟨name, valuesOfCells source.type (source.rows.map fun row =>
      (row[place]?.map fun field => Cell.integer (wholeValue field)).getD .missing)⟩ =
        source.rows.map fun row => .integer (wholeValue (row.getD place [])) := by
  have cells : source.rows.map (fun row =>
      (row[place]?.map fun field => Cell.integer (wholeValue field)).getD .missing) =
        source.rows.map fun row => .integer (wholeValue (row.getD place [])) := by
    refine List.map_congr_left fun row member => ?_
    have bound : place < row.length := by rwa [source.widths row member]
    simp [bound]
  rw [Column.cells, cells]
  refine valuesOfCells_cells (List.forall_mem_map.mpr fun row member => ?_)
  rw [type, if_neg (List.ne_nil_of_mem member)]
  exact .integer _ _

theorem isKept_of_repeatsApart (apart : RepeatsApart source.names)
    (columns : table.columns = uniformColumns source.type
      (fun field => .integer (wholeValue field)) (renameRepeated [] source.names) source.rows) :
    source.IsKept table := by
  have names : table.columnNames = renameRepeated [] source.names := by
    rw [columnNames, columns, uniformColumns_names]
  have count : table.columns.length = source.names.length := by
    rw [← List.length_map Column.name]
    exact (congrArg List.length names).trans renameRepeated_length
  refine ⟨count, names ▸ apart.renameRepeated_nodup, ?_, ?_, ?_⟩
  · intro place name there fresh
    rw [names, getElem?_renameRepeated_nil there, List.count_eq_zero.mpr fresh, occurrenceName]
  · intro place name renamed there known
    rw [names, getElem?_renameRepeated_nil there] at known
    rw [← Option.some.inj known]
    exact prefix_occurrenceName name _
  · intro place column there
    have within : place < source.names.length :=
      count ▸ (List.getElem?_eq_some_iff.mp there).1
    rw [columns, getElem?_uniformColumns] at there
    obtain ⟨name, -, rfl⟩ := Option.map_eq_some_iff.mp there
    exact source.uniformColumns_cells within

/-- Fewer columns are found than there are fields in the header where two of the new names are the
same. -/
theorem lineSchema_length_lt (repeats : ¬ RepeatsApart source.names) :
    (lineSchema {} source.lines).length < source.names.length := by
  have noComment := source.arePrinted.isComment_eq_false _ List.mem_cons_self
  have fewer := @schemaOf_length_lt {} (headerLine source.names) (source.rows.map fieldLine)
    (by rwa [source.headerNames_eq, renameRepeated_nodup_iff])
  rw [source.headerNames_eq, renameRepeated_length] at fewer
  rwa [lineSchema, source.arePrinted.symbolLines_eq.2, lines, splitHeader,
    List.dropWhile_cons_of_neg (by simp [noComment])]

theorem lineSchema_types : ∀ entry ∈ lineSchema {} source.lines, entry.2 = source.type := by
  have noComment := source.arePrinted.isComment_eq_false _ List.mem_cons_self
  intro entry member
  rw [lineSchema, source.arePrinted.symbolLines_eq.2, lines, splitHeader,
    List.dropWhile_cons_of_neg (by simp [noComment]), schemaOf] at member
  have pair := (mem_foldl_addToSchema member).resolve_left List.not_mem_nil
  rw [source.headerNames_eq, renameRepeated_length, source.inferTypes_eq] at pair
  exact List.eq_of_mem_replicate (List.of_mem_zip pair).2

/-- The records are read with the columns that were found. -/
theorem lineColumns_eq : lineColumns {} source.lines =
    columnsOfRows (lineSchema {} source.lines) <$>
      (source.rows.map fieldLine).mapM fun record =>
        readRecord .character 1 (lineSchema {} source.lines) (fields ',' record) := by
  have records : source.lines.filter (!Dialect.isComment {} ·) = source.lines :=
    List.filter_eq_self.mpr fun line member => by
      simp [source.arePrinted.isComment_eq_false line member]
  rw [Delimited.lineColumns_eq, source.arePrinted.symbolLines_eq.2, ite_self, records]
  rfl

/-- The first record has too many fields where two of the new names are the same. -/
theorem lineColumns_extraFields (repeats : ¬ RepeatsApart source.names)
    (present : source.rows ≠ []) : lineColumns {} source.lines = .error .extraFields := by
  obtain ⟨row, later, shape⟩ := List.exists_cons_of_ne_nil present
  have member : row ∈ source.rows := by simp [shape]
  have refused : readRecord .character 1 (lineSchema {} source.lines)
      (fields ',' (fieldLine row)) = .error .extraFields := by
    rw [fields_numberLine (source.areNumbers row member) (source.row_ne_nil row member)]
    apply readRecord_extraFields
    · rw [source.widths row member]
      exact source.lineSchema_length_lt repeats
    · intro entry entryMember field within
      rw [source.lineSchema_types entry entryMember]
      exact ⟨_, source.readCell_field row member field within⟩
  rw [source.lineColumns_eq, shape, List.map_cons, List.mapM_cons, refused]
  rfl

variable (shape : filledLines text = source.lines)

include shape

theorem ofText_eq : ofText {} text = withMetadata [] (lineColumns {} source.lines) :=
  source.arePrinted.ofText_eq (List.cons_ne_nil _ _) shape

theorem ofText_extraFields (repeats : ¬ RepeatsApart source.names) (present : source.rows ≠ []) :
    ofText {} text = .error (.malformed .extraFields) := by
  rw [source.ofText_eq shape, source.lineColumns_extraFields repeats present]
  rfl

theorem exists_fewer_columns (repeats : ¬ RepeatsApart source.names) (none : source.rows = []) :
    ∃ table, ofText {} text = .ok table ∧ table.columns.length < source.names.length := by
  rw [source.ofText_eq shape, source.lineColumns_eq, none]
  refine ⟨_, rfl, ?_⟩
  rw [columnsOfRows_length]
  exact source.lineSchema_length_lt repeats

/-- Names that fall together leave a field of the header without a column. -/
theorem not_isKept (repeats : ¬ RepeatsApart source.names) (success : ofText {} text = .ok table) :
    ¬ source.IsKept table := by
  intro kept
  by_cases none : source.rows = []
  · obtain ⟨other, same, short⟩ := source.exists_fewer_columns shape repeats none
    rw [success, Except.ok.injEq] at same
    rw [← same, kept.count] at short
    exact Nat.lt_irrefl _ short
  · rw [source.ofText_extraFields shape repeats none] at success
    exact absurd success (by simp)

end NumberTable

/-- Under a header in which names repeat the records load as one column for each field, with
distinct names, exactly if no repetition gets a name that the header holds as well. If one does then
the records have too many fields, and without records a column is missing. -/
theorem ofText_numberTable (source : NumberTable) {text : List Char}
    (shape : filledLines text = source.lines) :
    ((∃ table, ofText {} text = .ok table ∧ source.IsKept table) ↔ RepeatsApart source.names) ∧
    (¬ RepeatsApart source.names → source.rows ≠ [] →
      ofText {} text = .error (.malformed .extraFields)) ∧
    (¬ RepeatsApart source.names → source.rows = [] →
      ∃ table, ofText {} text = .ok table ∧ table.columns.length < source.names.length) := by
  refine ⟨⟨?_, fun apart => ?_⟩, source.ofText_extraFields shape, source.exists_fewer_columns shape⟩
  · rintro ⟨table, success, kept⟩
    by_contra repeats
    exact source.not_isKept shape repeats success kept
  · rw [source.ofText_eq shape, source.lineColumns_of_repeatsApart apart]
    exact ⟨_, rfl, source.isKept_of_repeatsApart apart rfl⟩

/-- The name `a` stands twice in front of three numbers of which one has leading zeros. -/
def repeatedHeader : NumberTable :=
  { names := ["a", "b", "a"]
    rows := [["1".toList, "-2".toList, "007".toList]]
    named := by decide
    filled := by decide
    words := by
      have letters : ∀ name ∈ ["a", "b", "a"], name.toList.all isWordSymbol = true := by decide
      exact fun name member => List.all_eq_true.mp (letters name member)
    widths := by decide
    numbers := by decide
    bounded := by decide }

theorem repeatedHeader_kept :
    filledLines "a,b,a\r\n1,-2,007".toList = repeatedHeader.lines ∧
      RepeatsApart repeatedHeader.names ∧
      ∃ table, ofText {} "a,b,a\r\n1,-2,007".toList = .ok table ∧ repeatedHeader.IsKept table := by
  have shape : filledLines "a,b,a\r\n1,-2,007".toList = repeatedHeader.lines := by decide
  have apart : RepeatsApart repeatedHeader.names := by decide
  exact ⟨shape, apart, (ofText_numberTable repeatedHeader shape).1.mpr apart⟩

/-- The third name is the one that the repetition of the first gets. -/
def collidingHeader : NumberTable :=
  { names := ["a", "a", "a_duplicated_0"]
    rows := [["1".toList, "2".toList, "3".toList]]
    named := by decide
    filled := by decide
    words := by
      have letters : ∀ name ∈ ["a", "a", "a_duplicated_0"],
          name.toList.all isWordSymbol = true := by decide
      exact fun name member => List.all_eq_true.mp (letters name member)
    widths := by decide
    numbers := by decide
    bounded := by decide }

theorem collidingHeader_refused :
    filledLines "a,a,a_duplicated_0\n1,2,3\n".toList = collidingHeader.lines ∧
      ¬ ∃ table, ofText {} "a,a,a_duplicated_0\n1,2,3\n".toList = .ok table ∧
        collidingHeader.IsKept table := by
  have shape : filledLines "a,a,a_duplicated_0\n1,2,3\n".toList = collidingHeader.lines := by
    decide
  refine ⟨shape, ?_⟩
  rintro ⟨table, success, kept⟩
  exact collidingHeader.not_isKept shape (by decide) success kept

end BenchmarkReport.Table
