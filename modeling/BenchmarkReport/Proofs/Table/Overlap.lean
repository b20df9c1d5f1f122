/-
This file says when the metadata of a table and its data come from different lines of a text. The
reader knows which lines stand within a quoted field, and the search for metadata does not.
-/

import BenchmarkReport.Proofs.Delimited.Consumption
import BenchmarkReport.Proofs.Table.Metadata
import BenchmarkReport.Proofs.Table.QuotedTable

namespace BenchmarkReport.Table

open Text Delimited

/-- The parts of a text as it is read with the default options. -/
def readingOfText (text : List Char) : Reading :=
  readingOf {} (dropByteOrderMark (unlines (filledLines text)))

/-- No line of a header or of a record says anything, and all metadata is what comments say. -/
structure IsSeparate (text : List Char) (metadata : List (String × String)) : Prop where
  silent : ∀ part ∈ (readingOfText text).consumed, ∀ line ∈ pieces part,
    Metadata.parseLine? '#' line = none
  spoken : metadata.Sublist (((readingOfText text).comments.flatMap (Metadata.parse '#')).map
    fun pair => (.ofList pair.1, .ofList pair.2))

section Parts

variable {text part : List Char} {table : Table}

theorem head?_of_mem_consumed (member : part ∈ (readingOfText text).consumed) :
    part.head? ≠ some '#' := by
  have noComment := not_isComment_of_mem_consumed member
  rw [Dialect.isComment_eq_startsWith (by decide)] at noComment
  intro marked
  have starts : startsWith (Dialect.marker? {}) part = true := by
    rw [startsWith, marked]
    rfl
  rw [noComment] at starts
  exact Bool.noConfusion starts

/-- The first line of a header or of a record says nothing, so that it depends on the others. -/
theorem parse_of_mem_consumed (member : part ∈ (readingOfText text).consumed) :
    Metadata.parse '#' part = (pieces part).tail.filterMap (Metadata.parseLine? '#') :=
  Metadata.parse_of_unmarked (head?_of_mem_consumed member)

theorem silent_iff_parse_eq_nil : (∀ line ∈ pieces part, Metadata.parseLine? '#' line = none) ↔
    Metadata.parse '#' part = [] := by
  rw [Metadata.parse_eq, List.filterMap_eq_nil_iff]

theorem parse_filledLines (marker : Char) (text : List Char) :
    Metadata.parse marker (unlines (filledLines text)) = Metadata.parse marker text := by
  rw [Metadata.parse_eq, pieces_unlines filledLines_single, List.filterMap_append,
    List.filterMap_cons_none (Metadata.parseLine?_nil marker), List.filterMap_nil, List.append_nil,
    filledLines_eq, filterMap_filled, Metadata.parse]

theorem parse_dropByteOrderMark_sublist (text : List Char) :
    (Metadata.parse '#' text).Sublist (Metadata.parse '#' (dropByteOrderMark text)) := by
  cases text with
  | nil => exact List.Sublist.refl _
  | cons symbol rest =>
      rw [dropByteOrderMark]
      split
      · rename_i mark
        have different : symbol ≠ '#' := by
          rintro rfl
          exact absurd mark (by decide)
        exact Metadata.parse_cons_sublist different rest
      · exact List.Sublist.refl _

/-- What a text says is said in the part of it that the reader looks at. -/
theorem parse_sublist_bodyOf (text : List Char) :
    (Metadata.parse '#' text).Sublist
      (Metadata.parse '#' (bodyOf {} (dropByteOrderMark (unlines (filledLines text))))) := by
  rw [← parse_filledLines]
  refine (parse_dropByteOrderMark_sublist _).trans ?_
  unfold bodyOf
  split
  · apply Metadata.parse_dropWhile_sublist
    rintro symbol ending rfl
    exact absurd ending (by decide)
  · exact List.Sublist.refl _

end Parts

section Separation

variable {text : List Char} {table : Table}

/-- The records that were read are the rows of the table, and the header names its columns. -/
theorem readingOfText_of_ofText (success : ofText {} text = .ok table) :
    (∀ name, name ∈ table.columnNames ↔ name ∈ headerNames {} (readingOfText text).header) ∧
    HoldRecords {} table.schema (readingOfText text).records table.columns := by
  rw [ofText_eq] at success
  split at success
  · simp at success
  · exact readingOf_of_readColumns (withMetadata_eq_ok_iff.mp success).1

/-- The metadata comes from comments alone just when no line behind the first of a header or of a
record says something. -/
theorem isSeparate_iff (success : ofText {} text = .ok table) :
    IsSeparate text table.metadata ↔ ∀ part ∈ (readingOfText text).consumed,
      ∀ line ∈ (pieces part).tail, Metadata.parseLine? '#' line = none := by
  constructor
  · intro separate part member line within
    exact separate.silent part member line (List.mem_of_mem_tail within)
  · intro quiet
    have silent : ∀ part ∈ (readingOfText text).consumed, Metadata.parse '#' part = [] := by
      intro part member
      rw [parse_of_mem_consumed member, List.filterMap_eq_nil_iff]
      exact quiet part member
    have comments : (readingOfText text).comments.flatMap (Metadata.parse '#') =
        Metadata.parse '#' (bodyOf {} (dropByteOrderMark (unlines (filledLines text)))) :=
      said_reading rfl (Metadata.parse_append '#') silent
    refine ⟨fun part member => silent_iff_parse_eq_nil.mpr (silent part member), ?_⟩
    rw [ofText_metadata success, comments]
    exact (parse_sublist_bodyOf text).map _

/-- Without quotation marks outside comments all headers and records are single lines. -/
theorem tail_pieces_of_mem_consumed
    (unquoted : ∀ line ∈ filledLines text, '"' ∉ line ∨ startsWith (some '#') line = true)
    {part : List Char} (member : part ∈ (readingOfText text).consumed) :
    (pieces part).tail = [] := by
  have plain : ∀ line ∈ dropMark (filledLines text), IsPlainLine {} line := by
    have ascii : Dialect.delimiter {} < 128 := by decide
    rw [← symbolLines_of_ascii ascii]
    exact plain_symbolLines filledLines_single unquoted
  have apart : ∀ symbol rest, Dialect.isComment {} (symbol :: rest) = true →
      isLineEnding symbol = false := by
    intro symbol rest comment
    rw [Dialect.isComment_eq_startsWith (by decide), Dialect.marker?] at comment
    have marked : symbol = '#' := beq_iff_eq.mp (startsWith_some '#' symbol rest ▸ comment)
    rw [marked]
    rfl
  rw [readingOfText, dropByteOrderMark_unlines] at member
  have single : '\n' ∉ part := single_of_mem_consumed apart plain member
  rw [pieces, split_of_not_mem single]
  rfl

/-- The lines of a table of quoted texts are read one by one. -/
theorem consumed_quotedTable (source : QuotedTable) : (readingOfText source.text).consumed =
    headerLine source.names :: source.filtered.lines := by
  obtain ⟨symbols, started⟩ := source.filtered.symbolLines_lines
  have ascii : Dialect.delimiter {} < 128 := by decide
  have read : readingOfText source.text = readingOf {} (unlines source.filtered.lines) := by
    rw [readingOfText, source.unlines_filledLines_text, QuotedTable.text, dropByteOrderMark_unlines,
      ← symbolLines_of_ascii ascii, symbols]
  have whole := source.filtered.areWhole_lines
  obtain ⟨body, either, header, passed, records⟩ := readingOf_unlines whole (started.symm ▸ whole)
  have bodyLines : body = source.filtered.lines := either.elim id fun same => same.trans started
  have uncommented : Dialect.isComment {} (headerLine source.names) = false := by
    rw [Dialect.isComment_eq_startsWith (by decide)]
    exact source.uncommented
  have cut : splitHeader {} source.filtered.lines =
      (headerLine source.names, source.filtered.rows.map quotedLine) := by
    rw [splitHeader, QuotedTable.lines, List.dropWhile_cons_of_neg]
    · rfl
    · exact (Bool.eq_false_iff.mp uncommented)
  have noComments : (source.filtered.rows.map quotedLine).filter (!Dialect.isComment {} ·) =
      source.filtered.rows.map quotedLine := by
    rw [List.filter_eq_self]
    refine List.forall_mem_map.mpr fun row member => ?_
    have noComment := isComment_quotedLine (source.filtered.rows_present row member) []
    rw [List.append_nil] at noComment
    rw [noComment]
    rfl
  rw [read, Reading.consumed, header, passed, records, started, bodyLines, cut, noComments]
  rfl

/-- In a text that loads the metadata and the data come from different lines just when no line
behind the first of a header or of a record is a key and a value behind the marker. So they do
where quotation marks stand in comments only. -/
theorem metadata_separate (success : ofText {} text = .ok table) :
    ((∀ name, name ∈ table.columnNames ↔ name ∈ headerNames {} (readingOfText text).header) ∧
      HoldRecords {} table.schema (readingOfText text).records table.columns) ∧
    (IsSeparate text table.metadata ↔ ∀ part ∈ (readingOfText text).consumed,
      ∀ line ∈ (pieces part).tail, Metadata.parseLine? '#' line = none) ∧
    ((∀ line ∈ filledLines text, '"' ∉ line ∨ startsWith (some '#') line = true) →
      IsSeparate text table.metadata) := by
  refine ⟨readingOfText_of_ofText success, isSeparate_iff success, fun unquoted => ?_⟩
  rw [isSeparate_iff success]
  intro part member line within
  rw [tail_pieces_of_mem_consumed unquoted member] at within
  simp at within

end Separation

/-- A table of one text. -/
def singleCell (cell : String) (worded : IsWorded cell.toList) : QuotedTable where
  names := ["note"]
  rows := [[cell]]
  named := by decide
  plain := by
    have letters : ∀ name ∈ ["note"], name.toList.all isNameSymbol = true := by decide
    exact fun name member => List.all_eq_true.mp (letters name member)
  visible := by decide
  uncommented := by decide
  distinct := by decide
  widths := List.forall_mem_singleton.mpr rfl
  worded := by
    intro place within
    obtain rfl : place = 0 := Nat.lt_one_iff.mp within
    have tried : [cell] ∈ [[cell]].take inferenceLength := List.mem_cons_self
    exact ⟨[cell], tried, cell, rfl, worded⟩

/-- One line of the cell starts with the marker, and another one has a colon. -/
def remarkedText : QuotedTable :=
  singleCell "x\n#y\nz: 1" (by decide)

theorem remarkedText_separate : ∃ table, ofText {} remarkedText.text = .ok table ∧
    IsSeparate remarkedText.text table.metadata := by
  refine ⟨_, remarkedText.ofText_text, (metadata_separate remarkedText.ofText_text).2.1.mpr ?_⟩
  rw [consumed_quotedTable]
  decide

/-- The second of the three lines of this cell is a key and a value behind the marker. -/
def hiddenPair : QuotedTable :=
  singleCell "x\n# k: v\ny" (by decide)

/-- The line is read as a part of its cell and as metadata. -/
theorem hiddenPair_overlaps : ∃ table, ofText {} hiddenPair.text = .ok table ∧
    table.columns = textColumns ["note"] [["x\n# k: v\ny"]] ∧ table.metadata = [("k", "v")] ∧
    ¬ IsSeparate hiddenPair.text table.metadata := by
  refine ⟨_, hiddenPair.ofText_text, rfl, by decide, ?_⟩
  intro separate
  have silent := separate.silent
  rw [consumed_quotedTable] at silent
  exact absurd silent (by decide)

end BenchmarkReport.Table
