/-
This file writes one table with two delimiters and compares what the texts load as. A record whose
cells are all missing holds nothing but delimiters. It is dropped as a blank line if these are blank,
and it is a row otherwise.
-/

import BenchmarkReport.Proofs.Delimited.DelimitedLines
import BenchmarkReport.Proofs.Delimited.Delimiters
import BenchmarkReport.Proofs.Delimited.IntegerLines
import BenchmarkReport.Proofs.Table.BlankLines
import BenchmarkReport.Proofs.Table.Records

namespace BenchmarkReport.Table

open Text Delimited

/-- Cells are written with ASCII letters, digits, low lines and points. -/
def isCellSymbol (symbol : Char) : Bool :=
  isWordSymbol symbol || symbol == '.'

/-- A record is missing as a whole if all of its cells are. -/
def isMissing (row : List (List Char)) : Bool :=
  row.all List.isEmpty

/-- Two or more columns of cells, of which some may be missing, under distinct names. -/
structure WordTable where
  names : List String
  rows : List (List (List Char))
  several : 2 ≤ names.length
  distinct : names.Nodup
  words : ∀ name ∈ names, ∀ symbol ∈ name.toList, isWordSymbol symbol = true
  widths : ∀ row ∈ rows, row.length = names.length
  cells : ∀ row ∈ rows, ∀ cell ∈ row, ∀ symbol ∈ cell, isCellSymbol symbol = true

namespace WordTable

/-- The names and the rows below them. -/
def records (source : WordTable) : List (List (List Char)) :=
  source.names.map String.toList :: source.rows

/-- One line for each record, with the delimiter that the dialect names. -/
def lines (source : WordTable) (dialect : Dialect) : List (List Char) :=
  source.records.map (delimitedLine dialect.separator)

/-- An ASCII delimiter that has no other meaning and stands in no name and in no cell. -/
structure IsDelimitedBy (source : WordTable) (dialect : Dialect) : Prop where
  ascii : dialect.delimiter < 128
  absent : ∀ row ∈ source.records, ∀ cell ∈ row, dialect.separator ∉ cell
  noQuote : dialect.separator ≠ '"'
  noMarker : dialect.marker? ≠ some dialect.separator
  noReturn : dialect.separator ≠ '\r'
  noLineFeed : dialect.separator ≠ '\n'

/-- The records that a reader with the given delimiter does not take for blank lines. -/
def shown (source : WordTable) (dialect : Dialect) : List (List (List Char)) :=
  source.records.filter fun row => !(isBlank dialect.separator && isMissing row)

section Records

variable (source : WordTable) {row : List (List Char)}

theorem record_length : ∀ row ∈ source.records, row.length = source.names.length :=
  List.forall_mem_cons.mpr ⟨List.length_map _, source.widths⟩

theorem record_several (member : row ∈ source.records) : 2 ≤ row.length :=
  source.record_length row member ▸ source.several

theorem record_symbol : ∀ row ∈ source.records, ∀ cell ∈ row, ∀ symbol ∈ cell,
    isCellSymbol symbol = true := by
  refine List.forall_mem_cons.mpr ⟨List.forall_mem_map.mpr fun name member symbol within => ?_,
    source.cells⟩
  simp [isCellSymbol, source.words name member symbol within]

theorem toNat_of_isCellSymbol {symbol : Char} (isCell : isCellSymbol symbol = true) :
    0x2E ≤ symbol.toNat ∧ symbol.toNat ≤ 0x7A := by
  rcases Bool.or_eq_true _ _ ▸ isCell with word | point
  · obtain ⟨above, below⟩ := toNat_of_isWordSymbol word
    omega
  · rw [beq_iff_eq.mp point]
    decide

/-- No cell holds a symbol that stands in front of the point. -/
theorem not_mem_cell {symbol : Char} (low : symbol.toNat < 0x2E) (member : row ∈ source.records) :
    ∀ cell ∈ row, symbol ∉ cell := by
  intro cell inRow within
  obtain ⟨above, -⟩ :=
    toNat_of_isCellSymbol (source.record_symbol row member cell inRow symbol within)
  omega

/-- A cell shows something unless it is missing. -/
theorem isBlankLine_cell (member : row ∈ source.records) {cell : List Char} (inRow : cell ∈ row) :
    isBlankLine cell = cell.isEmpty := by
  cases cell with
  | nil => rfl
  | cons symbol rest =>
      obtain ⟨above, below⟩ := toNat_of_isCellSymbol
        (source.record_symbol row member _ inRow symbol List.mem_cons_self)
      have visible : isBlank symbol = false := by
        rw [Bool.eq_false_iff, Ne, isBlank]
        simp only [Bool.or_eq_true, Bool.and_eq_true, decide_eq_true_eq, beq_iff_eq]
        omega
      simp [isBlankLine, visible]

/-- Distinct names are not all empty. -/
theorem isMissing_names : isMissing (source.names.map String.toList) = false := by
  rw [Bool.eq_false_iff]
  intro missing
  have empty : ∀ name ∈ source.names, name = "" := by
    simpa [isMissing] using missing
  have same := List.eq_replicate_of_mem empty
  have several := source.several
  have distinct := source.distinct
  rw [same, List.nodup_replicate] at distinct
  omega

end Records

section Lines

variable (source : WordTable) {dialect first second : Dialect} {row : List (List Char)}
  {text other : List Char} {table : Table}

theorem shown_eq_cons : source.shown dialect = source.names.map String.toList ::
    source.rows.filter fun row => !(isBlank dialect.separator && isMissing row) := by
  rw [shown, records, List.filter_cons_of_pos (by simp [source.isMissing_names])]

theorem mem_records_of_shown (member : row ∈ source.shown dialect) : row ∈ source.records :=
  List.mem_of_mem_filter member

/-- The lines that are not blank are those of the records that are shown. -/
theorem filledLines_eq (written : Text.lines text = source.lines dialect) :
    filledLines text = (source.shown dialect).map (delimitedLine dialect.separator) := by
  rw [filledLines, written, lines, List.filter_map, shown]
  congr 1
  refine List.filter_congr fun row member => ?_
  have missing : row.all isBlankLine = isMissing row := by
    rw [Bool.eq_iff_iff, isMissing, List.all_eq_true, List.all_eq_true]
    exact forall₂_congr fun cell inRow => by rw [source.isBlankLine_cell member inRow]
  rw [Function.comp_apply, isBlankLine_delimitedLine (source.record_several member), missing]

/-- Readers with the same marker and with the same blank lines see the same records. -/
theorem shown_congr (same : isBlank first.separator = isBlank second.separator ∨
    ∀ row ∈ source.rows, isMissing row = false) : source.shown first = source.shown second := by
  rw [shown_eq_cons, shown_eq_cons]
  congr 1
  refine List.filter_congr fun row member => ?_
  rcases same with blank | present
  · rw [blank]
  · simp [present row member]

theorem not_mem_line {symbol : Char} (low : symbol.toNat < 0x2E)
    (different : symbol ≠ dialect.separator) (member : row ∈ source.records) :
    symbol ∉ delimitedLine dialect.separator row :=
  not_mem_delimitedLine different (source.not_mem_cell low member)

theorem line_ne_nil (member : row ∈ source.records) :
    delimitedLine dialect.separator row ≠ [] :=
  List.ne_nil_of_mem (mem_delimitedLine.mpr (Or.inl ⟨rfl, source.record_several member⟩))

section Delimited

variable (delimited : source.IsDelimitedBy dialect)

include delimited

theorem fields_line (member : row ∈ source.records) :
    fields dialect.separator (delimitedLine dialect.separator row) = row := by
  have several := source.record_several member
  exact fields_delimitedLine (List.ne_nil_of_length_pos (by omega)) (delimited.absent row member)
    delimited.noQuote.symm (source.not_mem_cell (by decide) member)
    delimited.noLineFeed.symm (source.not_mem_cell (by decide) member)

theorem startsWith_line (member : row ∈ source.records) :
    startsWith dialect.marker? (delimitedLine dialect.separator row) =
      startsWith dialect.marker? (row.headD []) :=
  startsWith_delimitedLine (source.record_several member) delimited.noMarker

theorem separator_toNat_lt : dialect.separator.toNat < 128 := by
  rw [Dialect.separator, symbolOfByte_toNat]
  exact UInt8.lt_iff_toNat_lt.mp delimited.ascii

/-- A symbol of a line is ASCII and does not end it. -/
theorem line_symbol (member : row ∈ source.records) {symbol : Char}
    (within : symbol ∈ delimitedLine dialect.separator row) :
    symbol.toNat < 128 ∧ isLineEnding symbol = false := by
  rcases mem_delimitedLine.mp within with ⟨rfl, -⟩ | ⟨cell, inRow, inCell⟩
  · refine ⟨source.separator_toNat_lt delimited, ?_⟩
    simp [isLineEnding, delimited.noLineFeed, delimited.noReturn]
  · obtain ⟨above, below⟩ :=
      toNat_of_isCellSymbol (source.record_symbol row member cell inRow symbol inCell)
    refine ⟨by omega, ?_⟩
    rw [Bool.eq_false_iff]
    intro ending
    have either : symbol = '\n' ∨ symbol = '\r' := by simpa [isLineEnding] using ending
    rcases either with rfl | rfl <;> exact absurd above (by decide)

/-- The reader takes nothing off the front. -/
theorem symbolLines_eq :
    symbolLines dialect ((source.shown dialect).map (delimitedLine dialect.separator)) =
      (source.shown dialect).map (delimitedLine dialect.separator) ∧
    dropEndings ((source.shown dialect).map (delimitedLine dialect.separator)) =
      (source.shown dialect).map (delimitedLine dialect.separator) := by
  have member : source.names.map String.toList ∈ source.records := List.mem_cons_self
  obtain ⟨first, rest, shape⟩ := List.exists_cons_of_ne_nil (source.line_ne_nil member)
  obtain ⟨ascii, noEnding⟩ :=
    source.line_symbol delimited member (shape ▸ List.mem_cons_self)
  rw [shown_eq_cons, List.map_cons, shape]
  exact symbolLines_of_front delimited.ascii (by omega) noEnding rest _

/-- The loader reads the lines of the records that are shown. -/
theorem ofText_eq (written : Text.lines text = source.lines dialect) : ofText dialect text =
    if (source.shown dialect).all fun row => startsWith dialect.marker? (row.headD []) then
      .error .noHeader
    else withMetadata (metadataOf dialect text)
      (if isCompressed (unlines ((source.shown dialect).map (delimitedLine dialect.separator))) then
        .error .compressed
      else lineColumns dialect ((source.shown dialect).map (delimitedLine dialect.separator))) := by
  have shape := source.filledLines_eq written
  have unquoted : ∀ line ∈ filledLines text, '"' ∉ line := by
    rw [shape]
    exact List.forall_mem_map.mpr fun row member => source.not_mem_line (by decide)
      delimited.noQuote.symm (source.mem_records_of_shown member)
  have comments : (filledLines text).all (startsWith dialect.marker?) =
      (source.shown dialect).all fun row => startsWith dialect.marker? (row.headD []) := by
    rw [shape, List.all_map, Bool.eq_iff_iff, List.all_eq_true, List.all_eq_true]
    refine forall₂_congr fun row member => ?_
    rw [Function.comp_apply, source.startsWith_line delimited (source.mem_records_of_shown member)]
  obtain ⟨symbols, started⟩ := source.symbolLines_eq delimited
  have present : (source.shown dialect).map (delimitedLine dialect.separator) ≠ [] := by
    simp [shown_eq_cons]
  rw [ofText_unquotedLines unquoted, comments, shape, readLines, symbols, started,
    if_neg present]

/-- Only with a control character as the delimiter can the text start like compressed data. -/
theorem isCompressed_eq_false (plain : source.names.head? = some "x" → dialect.delimiter ≠ 1) :
    isCompressed (unlines ((source.shown dialect).map (delimitedLine dialect.separator))) =
      false := by
  have member : source.names.map String.toList ∈ source.records := List.mem_cons_self
  rw [shown_eq_cons, List.map_cons]
  refine isCompressed_of_line (source.line_ne_nil member)
    (fun symbol within => (source.line_symbol delimited member within).1) ?_ _
  intro second rest shape control
  have within : second ∈ delimitedLine dialect.separator (source.names.map String.toList) := by
    simp [shape]
  have noCell : ∀ cell ∈ source.names.map String.toList, second ∉ cell :=
    source.not_mem_cell (by omega) member
  have separates : second = dialect.separator := by
    rcases mem_delimitedLine.mp within with ⟨same, -⟩ | ⟨cell, inRow, inCell⟩
    · exact same
    · exact absurd inCell (noCell cell inRow)
  have noLetter : 'x' ≠ dialect.separator := by
    rintro same
    rw [separates, ← same] at control
    exact absurd control (by decide)
  have single := head?_of_delimitedLine (List.ne_nil_of_length_pos
    (Nat.zero_lt_of_lt (source.record_several member))) (delimited.absent _ member) noLetter
    (separates ▸ shape)
  rw [List.head?_map] at single
  obtain ⟨name, first, letters⟩ := Option.map_eq_some_iff.mp single
  refine plain ?_ ?_
  · rw [first, ← String.toList_inj.mp (letters.trans (by decide : ['x'] = "x".toList))]
  · rw [separates, Dialect.separator, symbolOfByte_toNat] at control
    exact UInt8.toNat_inj.mp control

/-- With the control character as the delimiter behind a first name of one letter it does. -/
theorem isCompressed_eq_true (control : dialect.delimiter = 1)
    (letter : source.names.head? = some "x") (filled : ∀ name ∈ source.names, name ≠ "") :
    isCompressed (unlines ((source.shown dialect).map (delimitedLine dialect.separator))) =
      true := by
  have separator : dialect.separator = '\x01' := by
    rw [Dialect.separator, control]
    decide
  rcases shape : source.names with _ | ⟨first, _ | ⟨second, later⟩⟩
  · simp [shape] at letter
  · exact absurd source.several (by simp [shape])
  · rw [shape, List.head?_cons, Option.some.injEq] at letter
    have member : source.names.map String.toList ∈ source.records := List.mem_cons_self
    have behind : (second :: later).map String.toList ≠ [] := by simp
    have line : delimitedLine dialect.separator (source.names.map String.toList) = 'x' :: '\x01' ::
        delimitedLine dialect.separator ((second :: later).map String.toList) := by
      rw [shape, letter, List.map_cons, delimitedLine_cons _ _ behind, separator]
      rfl
    have ascii : ∀ symbol ∈ delimitedLine dialect.separator (source.names.map String.toList),
        symbol.toNat < 128 := fun symbol within => (source.line_symbol delimited member within).1
    rw [line] at ascii
    obtain ⟨symbol, within⟩ := List.exists_mem_of_ne_nil second.toList
      (by simpa using filled second (by simp [shape]))
    rw [shown_eq_cons, List.map_cons, unlines_cons, line]
    refine isCompressed_of_pair ?_ (fun symbol member => ascii symbol
      (List.mem_cons_of_mem _ (List.mem_cons_of_mem _ member))) _
    exact List.ne_nil_of_mem (mem_delimitedLine.mpr (Or.inr ⟨_, List.mem_cons_self, within⟩))

/-- A header that is no comment and starts like compressed data makes the loader fail. -/
theorem ofText_compressed (written : Text.lines text = source.lines dialect)
    (control : dialect.delimiter = 1) (letter : source.names.head? = some "x")
    (filled : ∀ name ∈ source.names, name ≠ "") (noMarker : dialect.marker? ≠ some 'x') :
    ofText dialect text = .error (.malformed .compressed) := by
  have uncommented : startsWith dialect.marker? ((source.names.map String.toList).headD []) =
      false := by
    have front : (source.names.map String.toList).headD [] = ['x'] := by
      rw [List.headD_eq_head?_getD, List.head?_map, letter]
      decide
    rw [front, startsWith, List.head?_cons, beq_false_of_ne noMarker.symm, Bool.and_false]
  rw [source.ofText_eq delimited written, shown_eq_cons, List.all_cons, uncommented,
    Bool.false_and, if_neg Bool.false_ne_true, ← shown_eq_cons,
    source.isCompressed_eq_true delimited control letter filled]
  rfl

end Delimited

section Rows

/-- The loader looks at the records through their fields and the marker alone. -/
theorem areAlike (marker : first.comment = second.comment)
    (firstDelimited : source.IsDelimitedBy first) (secondDelimited : source.IsDelimitedBy second)
    (member : row ∈ source.records) :
    AreAlike first second (delimitedLine first.separator row)
      (delimitedLine second.separator row) where
  comment := by
    rw [Dialect.isComment_eq_startsWith firstDelimited.ascii,
      Dialect.isComment_eq_startsWith secondDelimited.ascii,
      source.startsWith_line firstDelimited member, source.startsWith_line secondDelimited member,
      Dialect.marker?, Dialect.marker?, marker]
  fields := by
    rw [source.fields_line firstDelimited member, source.fields_line secondDelimited member]
  noReturn := source.not_mem_line (by decide) firstDelimited.noReturn.symm member
  otherNoReturn := source.not_mem_line (by decide) secondDelimited.noReturn.symm member

/-- Readers that see the same records read the same columns or fail alike. -/
theorem columns_congr (marker : first.comment = second.comment)
    (firstDelimited : source.IsDelimitedBy first) (secondDelimited : source.IsDelimitedBy second)
    (written : Text.lines text = source.lines first)
    (otherWritten : Text.lines other = source.lines second)
    (plain : source.names.head? = some "x" → first.delimiter ≠ 1 ∧ second.delimiter ≠ 1)
    (same : source.shown first = source.shown second) :
    (ofText first text).map Table.columns = (ofText second other).map Table.columns := by
  have markers : first.marker? = second.marker? := by rw [Dialect.marker?, marker, Dialect.marker?]
  have columns : lineColumns first ((source.shown first).map (delimitedLine first.separator)) =
      lineColumns second ((source.shown first).map (delimitedLine second.separator)) := by
    refine lineColumns_alike ?_ (fun row member => source.areAlike marker firstDelimited
      secondDelimited (source.mem_records_of_shown member)) ?_ ?_
    · rw [Dialect.kind_eq_character firstDelimited.ascii,
        Dialect.kind_eq_character secondDelimited.ascii]
    · exact (source.symbolLines_eq firstDelimited).2
    · rw [same]
      exact (source.symbolLines_eq secondDelimited).2
  rw [source.ofText_eq firstDelimited written, source.ofText_eq secondDelimited otherWritten,
    source.isCompressed_eq_false firstDelimited fun letter => (plain letter).1,
    source.isCompressed_eq_false secondDelimited fun letter => (plain letter).2, ← same, markers,
    columns]
  split
  · rfl
  · cases lineColumns second ((source.shown first).map (delimitedLine second.separator)) <;> rfl

/-- The lines that are no comments are those of the records whose first cell does not start with the
marker. -/
theorem length_filter_uncommented (delimited : source.IsDelimitedBy dialect) :
    (((source.shown dialect).map (delimitedLine dialect.separator)).filter
      (!dialect.isComment ·)).length =
        (source.shown dialect).countP fun row => !startsWith dialect.marker? (row.headD []) := by
  rw [List.filter_map, List.length_map, List.countP_eq_length_filter]
  congr 1
  refine List.filter_congr fun row member => ?_
  rw [Function.comp_apply, Dialect.isComment_eq_startsWith delimited.ascii,
    source.startsWith_line delimited (source.mem_records_of_shown member)]

/-- A record counts as a row if it is neither a comment nor taken for a blank line. The first of them
is the header. -/
theorem rowCount_of_ofText (delimited : source.IsDelimitedBy dialect)
    (written : Text.lines text = source.lines dialect) (success : ofText dialect text = .ok table) :
    table.rowCount + 1 = (source.shown dialect).countP fun row =>
      !startsWith dialect.marker? (row.headD []) := by
  rw [source.ofText_eq delimited written] at success
  split at success
  · simp at success
  · rename_i uncommented
    have read := (withMetadata_eq_ok_iff.mp success).1
    split at read
    · simp at read
    · rw [lineColumns_eq, (source.symbolLines_eq delimited).2, ite_self] at read
      have hold := holdRecords_of_mapM read
      have present : 0 < (source.shown dialect).countP fun row =>
          !startsWith dialect.marker? (row.headD []) := by
        simpa [List.countP_pos_iff] using uncommented
      have named : table.columns ≠ [] := by
        intro none
        have schema := hold.schema
        rw [none] at schema
        exact schemaOf_ne_nil schema.symm
      obtain ⟨column, others, shape⟩ := List.exists_cons_of_ne_nil named
      have length := hold.lengths column (by simp [shape])
      rw [List.length_tail, source.length_filter_uncommented delimited] at length
      rw [rowCount, shape]
      dsimp only
      omega

/-- A record that is missing as a whole does not start with a marker. -/
theorem startsWith_of_isMissing (marker : Option Char) (missing : isMissing row = true) :
    startsWith marker (row.headD []) = false := by
  have empty : row.headD [] = [] := by
    cases row with
    | nil => rfl
    | cons cell others => simpa using (List.all_eq_true.mp missing) cell List.mem_cons_self
  rw [empty, startsWith_nil]

/-- Blank delimiters hide the records that are missing as a whole, and these are no comments. -/
theorem countP_shown (marker : Option Char) (blank : isBlank first.separator = true)
    (visible : isBlank second.separator = false) :
    (source.shown second).countP (fun row => !startsWith marker (row.headD [])) =
      (source.shown first).countP (fun row => !startsWith marker (row.headD [])) +
        source.rows.countP isMissing := by
  have all : source.shown second = source.records := by simp [shown, visible]
  have some : source.shown first = source.records.filter (!isMissing ·) := by simp [shown, blank]
  have hidden : (source.records.filter fun row => !!isMissing row).countP
      (fun row => !startsWith marker (row.headD [])) = source.rows.countP isMissing := by
    have spoken : ∀ row ∈ source.records,
        (!startsWith marker (row.headD []) && !!isMissing row) = true ↔ isMissing row = true := by
      intro row _
      cases missing : isMissing row with
      | false => simp
      | true =>
          rw [startsWith_of_isMissing marker missing]
          decide
    rw [List.countP_filter, List.countP_congr spoken, records,
      List.countP_cons_of_neg (by simp [source.isMissing_names])]
  rw [all, some, ← hidden]
  exact List.countP_eq_countP_filter_add _ _ _

end Rows

end Lines

end WordTable

/-- The choice of a delimiter does not matter for a table without records that are missing as a whole,
nor between two delimiters of which both or neither are blank, unless the text starts like compressed
data. With a blank delimiter each record that is missing as a whole is dropped. -/
theorem ofText_delimiters (source : WordTable) {first second : Dialect} {text other : List Char}
    (marker : first.comment = second.comment) (firstDelimited : source.IsDelimitedBy first)
    (secondDelimited : source.IsDelimitedBy second)
    (written : Text.lines text = source.lines first)
    (otherWritten : Text.lines other = source.lines second) :
    ((source.names.head? = some "x" → first.delimiter ≠ 1 ∧ second.delimiter ≠ 1) →
      (isBlank first.separator = isBlank second.separator ∨
        ∀ row ∈ source.rows, isMissing row = false) →
      (ofText first text).map Table.columns = (ofText second other).map Table.columns) ∧
    (isBlank first.separator = true → isBlank second.separator = false →
      ∀ table wider, ofText first text = .ok table → ofText second other = .ok wider →
        wider.rowCount = table.rowCount + source.rows.countP isMissing) ∧
    (first.delimiter = 1 → source.names.head? = some "x" → (∀ name ∈ source.names, name ≠ "") →
      first.marker? ≠ some 'x' → ofText first text = .error (.malformed .compressed)) := by
  refine ⟨fun plain same => ?_, fun blank visible table wider success widerSuccess => ?_, ?_⟩
  · exact source.columns_congr marker firstDelimited secondDelimited written otherWritten plain
      (source.shown_congr same)
  · have count := source.rowCount_of_ofText firstDelimited written success
    have widerCount := source.rowCount_of_ofText secondDelimited otherWritten widerSuccess
    have markers : first.marker? = second.marker? := by
      rw [Dialect.marker?, marker, Dialect.marker?]
    rw [← markers, source.countP_shown first.marker? blank visible, ← count] at widerCount
    omega
  · intro control letter filled noMarker
    exact source.ofText_compressed firstDelimited written control letter filled noMarker

/-- The first record is missing as a whole. -/
def gappedTable : WordTable :=
  { names := ["a", "b_1"]
    rows := [["".toList, "".toList], ["".toList, ".5".toList]]
    several := by decide
    distinct := by decide
    words := by
      have letters : ∀ name ∈ ["a", "b_1"], name.toList.all isWordSymbol = true := by decide
      exact fun name member => List.all_eq_true.mp (letters name member)
    widths := by decide
    cells := by
      have symbols : ∀ row ∈ [["".toList, "".toList], ["".toList, ".5".toList]],
          row.all (List.all · isCellSymbol) = true := by decide
      exact fun row member cell within =>
        List.all_eq_true.mp (List.all_eq_true.mp (symbols row member) cell within) }

/-- Semicolons and tabs are no part of the table. -/
theorem gappedTable_delimited (byte : UInt8) (listed : byte ∈ [9, 44, 59]) :
    gappedTable.IsDelimitedBy { delimiter := byte } := by
  simp only [List.mem_cons, List.not_mem_nil, or_false] at listed
  rcases listed with rfl | rfl | rfl <;>
    exact ⟨by decide, by decide, by decide, by decide, by decide, by decide⟩

theorem gappedTable_congr :
    gappedTable.IsDelimitedBy {} ∧ gappedTable.IsDelimitedBy { delimiter := 59 } ∧
      Text.lines "a,b_1\n,\n,.5\n".toList = gappedTable.lines {} ∧
      Text.lines "a;b_1\r\n;\r\n;.5".toList = gappedTable.lines { delimiter := 59 } ∧
      (ofText {} "a,b_1\n,\n,.5\n".toList).map Table.columns =
        (ofText { delimiter := 59 } "a;b_1\r\n;\r\n;.5".toList).map Table.columns := by
  have comma := gappedTable_delimited 44 (by decide)
  have semicolon := gappedTable_delimited 59 (by decide)
  have written : Text.lines "a,b_1\n,\n,.5\n".toList = gappedTable.lines {} := by decide
  have otherWritten : Text.lines "a;b_1\r\n;\r\n;.5".toList =
      gappedTable.lines { delimiter := 59 } := by decide
  have marker : Dialect.comment {} = Dialect.comment { delimiter := 59 } := rfl
  exact ⟨comma, semicolon, written, otherWritten,
    (ofText_delimiters gappedTable marker comma semicolon written otherWritten).1 (by decide)
      (Or.inl (by decide))⟩

theorem gappedTable_loses_row :
    gappedTable.IsDelimitedBy { delimiter := 9 } ∧ gappedTable.IsDelimitedBy {} ∧
      Text.lines "a\tb_1\n\t\n\t.5\n".toList = gappedTable.lines { delimiter := 9 } ∧
      Text.lines "a,b_1\n,\n,.5\n".toList = gappedTable.lines {} ∧
      (ofText { delimiter := 9 } "a\tb_1\n\t\n\t.5\n".toList).map Table.columns ≠
        (ofText {} "a,b_1\n,\n,.5\n".toList).map Table.columns := by
  refine ⟨gappedTable_delimited 9 (by decide), gappedTable_delimited 44 (by decide), by decide,
    by decide, ?_⟩
  have short : ∃ table, ofText { delimiter := 9 } "a\tb_1\n\t\n\t.5\n".toList = .ok table ∧
      table.rowCount = 1 := by
    rw [ofText_unquoted (by decide)]
    exact ⟨_, rfl, by decide⟩
  have whole : ∃ table, ofText {} "a,b_1\n,\n,.5\n".toList = .ok table ∧ table.rowCount = 2 := by
    rw [ofText_unquoted (by decide)]
    exact ⟨_, rfl, by decide⟩
  obtain ⟨table, success, count⟩ := short
  obtain ⟨wider, widerSuccess, widerCount⟩ := whole
  intro same
  rw [success, widerSuccess] at same
  have columns : table.columns = wider.columns := Except.ok.inj same
  rw [rowCount, columns] at count
  rw [rowCount, count] at widerCount
  exact absurd widerCount (by decide)

end BenchmarkReport.Table
