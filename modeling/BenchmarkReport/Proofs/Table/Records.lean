/-
This file shows that a table has one row for each data line of its text after the first, and that
no line with more fields than the first one is accepted.
-/

import BenchmarkReport.Proofs.Table.Loading

namespace BenchmarkReport.Table

open Text Delimited

/-- The lines that are neither blank nor comments. The first of them is the header. -/
def dataLines (dialect : Dialect) (text : List Char) : List (List Char) :=
  (filledLines text).filter (!startsWith dialect.marker? ·)

/-- No byte order mark stands alone in the first of some lines or hides a marker there. -/
def startsPlainly (dialect : Dialect) : List (List Char) → Bool
  | (symbol :: rest) :: _ =>
    symbol.toNat != 0xFEFF || !rest.isEmpty && !startsWith dialect.marker? rest
  | _ => true

/-- The text of a field. A field that the record does not have is empty. -/
def fieldAt (dialect : Dialect) (record : List Char) (place : Nat) : List Char :=
  (split dialect.separator record).getD place []

/-- The rows of a table are records, one for each. -/
structure HasRecords (dialect : Dialect) (header : List Char) (records : List (List Char))
    (table : Table) : Prop where
  rowCount : table.rowCount = records.length
  lengths : ∀ column ∈ table.columns, column.length = records.length
  header : table.columns.length ≤ (split dialect.separator header).length
  widths : ∀ record ∈ records, (split dialect.separator record).length ≤ table.columns.length
  cells : ∀ {row place : Nat} {record : List Char} {column : Column},
    records[row]? = some record → table.columns[place]? = some column →
      ∃ cell, column.cells[row]? = some cell ∧
        readCell .character column.type (fieldAt dialect record place) = .ok cell
  missing : ∀ {row place : Nat} {record : List Char} {column : Column},
    records[row]? = some record → table.columns[place]? = some column →
      fieldAt dialect record place = [] → column.cells[row]? = some .missing
  texts : ∀ {row place : Nat} {record : List Char} {column : Column},
    records[row]? = some record → table.columns[place]? = some column → column.type = .text →
      fieldAt dialect record place ≠ [] →
        column.cells[row]? = some (.text (.ofList (fieldAt dialect record place)))

section Lines

variable {dialect : Dialect} {lines : List (List Char)} {line : List Char}

theorem separator_toNat (dialect : Dialect) : dialect.separator.toNat < 256 := by
  rw [Dialect.separator, symbolOfByte_toNat]
  exact dialect.delimiter.toNat_lt

/-- A byte order mark does not change how many fields a line has. -/
theorem split_dropByteOrderMark_length :
    (split dialect.separator (dropByteOrderMark line)).length =
      (split dialect.separator line).length := by
  cases line with
  | nil => rfl
  | cons symbol rest =>
      rw [dropByteOrderMark]
      split
      · rename_i mark
        have different : symbol ≠ dialect.separator := by
          intro same
          have small := separator_toNat dialect
          rw [← same] at small
          omega
        rw [split_cons, if_neg different]
        cases pieces : split dialect.separator rest with
        | nil => exact absurd pieces (split_ne_nil dialect.separator rest)
        | cons first others => rfl
      · rfl

/-- Where lines start plainly the reader finds the same records in them. -/
theorem filter_dropMark {header : List Char} {records : List (List Char)}
    (plain : startsPlainly dialect lines = true)
    (data : lines.filter (!startsWith dialect.marker? ·) = header :: records) :
    ∃ first, (dropMark lines).filter (!startsWith dialect.marker? ·) = first :: records ∧
      (split dialect.separator first).length = (split dialect.separator header).length := by
  cases lines with
  | nil => simp at data
  | cons line later =>
      rw [dropMark]
      by_cases starts : startsWith dialect.marker? line = true
      · rw [dropByteOrderMark_of_startsWith starts]
        exact ⟨header, data, rfl⟩
      · rw [List.filter_cons_of_pos (by simp [starts])] at data
        obtain ⟨rfl, rfl⟩ := List.cons_eq_cons.mp data
        refine ⟨dropByteOrderMark line, ?_, split_dropByteOrderMark_length⟩
        have kept : startsWith dialect.marker? (dropByteOrderMark line) = false := by
          cases line with
          | nil => simpa [dropByteOrderMark] using starts
          | cons symbol rest =>
              rw [dropByteOrderMark]
              split
              · simp_all [startsPlainly]
              · simpa using starts
        rw [List.filter_cons_of_pos (by simp [kept])]

/-- Lines that start plainly and without line endings are read from their start. -/
theorem dropEndings_dropMark (plain : startsPlainly dialect lines = true)
    (filled : ∀ line ∈ lines, line ≠ []) (single : ∀ line ∈ lines, '\n' ∉ line)
    (noReturn : ∀ line ∈ lines, '\r' ∉ line) : dropEndings (dropMark lines) = dropMark lines := by
  cases lines with
  | nil => rfl
  | cons line later =>
      have notEmpty : dropByteOrderMark line ≠ [] := by
        cases line with
        | nil => exact absurd rfl (filled [] List.mem_cons_self)
        | cons symbol rest =>
            rw [dropByteOrderMark]
            split
            · simp_all [startsPlainly]
            · simp
      have noEnding : ∀ symbol ∈ dropByteOrderMark line, isLineEnding symbol = false := by
        intro symbol member
        have within := dropByteOrderMark_subset line member
        have noLineFeed : symbol ≠ '\n' := fun same =>
          single line List.mem_cons_self (same ▸ within)
        have noCarriage : symbol ≠ '\r' := fun same =>
          noReturn line List.mem_cons_self (same ▸ within)
        simp [isLineEnding, noLineFeed, noCarriage]
      have started : (dropByteOrderMark line).dropWhile isLineEnding = dropByteOrderMark line := by
        cases shape : dropByteOrderMark line with
        | nil => rfl
        | cons symbol rest =>
            exact List.dropWhile_cons_of_neg (by simp [noEnding symbol (by simp [shape])])
      exact dropEndings_cons notEmpty started later

/-- The columns of plain lines hold the data lines after the header. -/
theorem lineColumns_records {header : List Char} {records : List (List Char)}
    {columns : List Column} (ascii : dialect.delimiter < 128)
    (plain : startsPlainly dialect lines = true) (filled : ∀ line ∈ lines, line ≠ [])
    (single : ∀ line ∈ lines, '\n' ∉ line) (noReturn : ∀ line ∈ lines, '\r' ∉ line)
    (unquoted : ∀ line ∈ lines, '"' ∉ line)
    (data : lines.filter (!startsWith dialect.marker? ·) = header :: records)
    (success : lineColumns dialect (symbolLines dialect lines) = .ok columns) :
    ∃ schema, HoldRecords dialect schema records columns ∧ schema ≠ [] ∧
      schema.length ≤ (split dialect.separator header).length := by
  obtain ⟨first, found, sameLength⟩ := filter_dropMark plain data
  have comments : (fun line => !dialect.isComment line) =
      fun line => !startsWith dialect.marker? line :=
    funext fun line => by rw [Dialect.isComment_eq_startsWith ascii]
  have firstMember : first ∈ dropMark lines :=
    (List.mem_filter.mp (found ▸ List.mem_cons_self)).1
  obtain ⟨original, originalMember, within, -⟩ := mem_dropMark firstMember
  have firstReturn : '\r' ∉ first := fun member => noReturn original originalMember (within member)
  have firstQuote : '"' ∉ first := fun member => unquoted original originalMember (within member)
  have firstSingle : '\n' ∉ first := fun member => single original originalMember (within member)
  rw [symbolLines_of_ascii ascii] at success
  have schemaLength : (lineSchema dialect (dropMark lines)).length ≤
      (split dialect.separator header).length := by
    rw [lineSchema, dropEndings_dropMark plain filled single noReturn]
    refine Nat.le_trans schemaOf_length_le ?_
    rw [splitHeader_fst, comments, found, List.headD_cons, dropLineReturn_of_not_mem firstReturn,
      fields_of_unquoted firstQuote firstSingle]
    exact Nat.le_of_eq sameLength
  refine ⟨lineSchema dialect (dropMark lines), ?_, schemaOf_ne_nil, schemaLength⟩
  simp only [lineColumns, dropEndings_dropMark plain filled single noReturn, ite_self,
    dataColumns_splitHeader, comments, found, List.tail_cons] at success
  exact holdRecords_of_mapM success

end Lines

section Fields

variable {dialect : Dialect} {record field : List Char} {place : Nat}

theorem fieldAt_subset : fieldAt dialect record place ⊆ record := by
  rw [fieldAt, List.getD_eq_getElem?_getD]
  cases found : (split dialect.separator record)[place]? with
  | none => simp
  | some field => exact (mem_split (List.mem_of_getElem? found)).2

/-- A text without quotation marks is read as it stands. -/
theorem readCell_text_of_unquoted (filled : field ≠ []) (unquoted : '"' ∉ field) :
    readCell .character .text field = .ok (.text (.ofList field)) := by
  rw [readCell, if_neg (by simp [filled])]
  exact readText_plain (isQuoted_of_not_mem unquoted)

end Fields

section Outcome

variable {dialect : Dialect} {text : List Char} {table : Table}

/-- A table whose columns hold records has a row for each of them. -/
theorem records_of_holdRecords {schema : List (String × ElementType)} {header : List Char}
    {records : List (List Char)} (ascii : dialect.delimiter < 128) (named : schema ≠ [])
    (short : schema.length ≤ (split dialect.separator header).length)
    (single : ∀ record ∈ records, '\n' ∉ record) (noReturn : ∀ record ∈ records, '\r' ∉ record)
    (unquoted : ∀ record ∈ records, '"' ∉ record)
    (hold : HoldRecords dialect schema records table.columns) :
    HasRecords dialect header records table := by
  have width : table.columns.length = schema.length := by
    rw [← hold.schema, List.length_map]
  have plainFields : ∀ record ∈ records, fields dialect.separator record =
      split dialect.separator record :=
    fun record member => fields_of_unquoted (unquoted record member) (single record member)
  have cells : ∀ {row place : Nat} {record : List Char} {column : Column},
      records[row]? = some record → table.columns[place]? = some column →
        ∃ cell, column.cells[row]? = some cell ∧
          readCell .character column.type (fieldAt dialect record place) = .ok cell := by
    intro row place record column atRow atPlace
    have member : record ∈ records := List.mem_of_getElem? atRow
    obtain ⟨cell, here, read⟩ := hold.cells atRow atPlace
    have fieldReturn : '\r' ∉ fieldAt dialect record place := fun within =>
      noReturn record member (fieldAt_subset within)
    rw [Dialect.kind_eq_character ascii, plainFields record member, ← fieldAt,
      dropReturn_of_not_mem fieldReturn] at read
    exact ⟨cell, here, read⟩
  refine ⟨?_, hold.lengths, width ▸ short, ?_, cells, ?_, ?_⟩
  · rw [rowCount]
    cases shape : table.columns with
    | nil =>
        rw [shape, List.length_nil] at width
        exact absurd (List.length_eq_zero_iff.mp width.symm) named
    | cons first others => exact hold.lengths first (by simp [shape])
  · intro record member
    rw [← plainFields record member]
    exact hold.widths record member
  · intro row place record column atRow atPlace empty
    obtain ⟨cell, here, read⟩ := cells atRow atPlace
    rw [empty, readCell_empty] at read
    rw [here, Except.ok.inj read]
  · intro row place record column atRow atPlace isText filled
    obtain ⟨cell, here, read⟩ := cells atRow atPlace
    have unquotedField : '"' ∉ fieldAt dialect record place := fun within =>
      unquoted record (List.mem_of_getElem? atRow) (fieldAt_subset within)
    rw [isText, readCell_text_of_unquoted filled unquotedField] at read
    rw [here, Except.ok.inj read]

/-- The data lines of a text are lines of it, so they have none of the symbols it lacks. -/
theorem dataLines_absent {symbol : Char} {line : List Char} (member : line ∈ dataLines dialect text)
    (absent : symbol ∉ text) : symbol ∉ line :=
  filledLines_absent absent line (List.mem_of_mem_filter member)

theorem dataLines_eq_nil_iff :
    dataLines dialect text = [] ↔ (filledLines text).all (startsWith dialect.marker?) = true := by
  simp [dataLines, List.filter_eq_nil_iff]

/-- A table has one row for each data line of its text after the first. -/
theorem hasRecords_of_ofText (ascii : dialect.delimiter < 128) (unquoted : '"' ∉ text)
    (noReturn : '\r' ∉ text) (plain : startsPlainly dialect (filledLines text) = true)
    (success : ofText dialect text = .ok table) :
    ∃ header records, dataLines dialect text = header :: records ∧
      HasRecords dialect header records table := by
  obtain ⟨filled, read⟩ := lineColumns_of_ofText unquoted success
  cases data : dataLines dialect text with
  | nil => simp [dataLines_eq_nil_iff.mp data] at filled
  | cons header records =>
      obtain ⟨schema, hold, named, short⟩ := lineColumns_records ascii plain
        (fun line => filledLines_ne_nil) filledLines_single (filledLines_absent noReturn)
        (filledLines_absent unquoted) data read
      have member : ∀ record ∈ records, record ∈ dataLines dialect text := fun record within =>
        data ▸ List.mem_cons_of_mem header within
      refine ⟨header, records, rfl, records_of_holdRecords ascii named short ?_ ?_ ?_ hold⟩
      · exact fun record within =>
          filledLines_single record (List.mem_of_mem_filter (member record within))
      · exact fun record within => dataLines_absent (member record within) noReturn
      · exact fun record within => dataLines_absent (member record within) unquoted

/-- A table has one row for each data line of its text after the first, and a text with a line that
is wider than the first one has a fault. -/
theorem ofText_records (ascii : dialect.delimiter < 128) (unquoted : '"' ∉ text)
    (noReturn : '\r' ∉ text) (plain : startsPlainly dialect (filledLines text) = true) :
    (∀ table, ofText dialect text = .ok table →
      ∃ header records, dataLines dialect text = header :: records ∧
        HasRecords dialect header records table) ∧
    (∀ header records wide, dataLines dialect text = header :: records → wide ∈ records →
      (split dialect.separator header).length < (split dialect.separator wide).length →
        ∃ fault, ofText dialect text = .error (.malformed fault)) := by
  refine ⟨fun table success => hasRecords_of_ofText ascii unquoted noReturn plain success, ?_⟩
  intro header records wide data within wider
  have filled : (filledLines text).all (startsWith dialect.marker?) = false := by
    rw [Bool.eq_false_iff, Ne, ← dataLines_eq_nil_iff, data]
    simp
  rcases ofText_cases filled with ⟨table, success⟩ | fault
  · exfalso
    obtain ⟨sameHeader, sameRecords, again, hold⟩ :=
      hasRecords_of_ofText ascii unquoted noReturn plain success
    rw [data] at again
    obtain ⟨rfl, rfl⟩ := List.cons_eq_cons.mp again
    have fits := hold.widths wide within
    have columns := hold.header
    omega
  · exact fault

end Outcome

/-- Comments and blank lines stand between lines of different lengths. -/
def raggedText : List Char := "#c\na,b\n\n1,x\n#d\n2\n3,\n".toList

def raggedTable : Table :=
  { columns := [⟨"a", .integers .signed64 [some 1, some 2, some 3]⟩,
      ⟨"b", .texts [some "x", none, none]⟩] }

theorem raggedText_records :
    ofText {} raggedText = .ok raggedTable ∧
      ∃ header records, dataLines {} raggedText = header :: records ∧
        HasRecords {} header records raggedTable := by
  have loaded : ofText {} raggedText = .ok raggedTable := by
    rw [ofText_unquoted (by decide)]
    rfl
  exact ⟨loaded, (ofText_records (by decide) (by decide) (by decide) (by decide)).1 _ loaded⟩

/-- Behind a byte order mark that is not the first symbol of the text stands the marker. -/
def hiddenMarker : List Char := ['\n', '\uFEFF', '#', 'x', '\n', 'a', '\n']

/-- The reader takes the first line for a comment, and the second makes no row. -/
theorem hiddenMarker_loses_row :
    '"' ∉ hiddenMarker ∧ '\r' ∉ hiddenMarker ∧ hiddenMarker.head? ≠ some '\uFEFF' ∧
      ∃ table, ofText {} hiddenMarker = .ok table ∧
        table.rowCount + 1 ≠ (dataLines {} hiddenMarker).length := by
  have loaded : ofText {} hiddenMarker = .ok { columns := [⟨"a", .texts []⟩] } := by
    rw [ofText_unquoted (by decide)]
    rfl
  exact ⟨by decide, by decide, by decide, _, loaded, by decide⟩

end BenchmarkReport.Table
