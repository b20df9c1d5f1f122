/-
This file writes a table of texts with all cells in quotes and says what the text loads as: every
cell is still one cell, but only what the filter of lines leaves of it.
-/

import BenchmarkReport.Proofs.Delimited.QuotedLines
import BenchmarkReport.Proofs.Table.BlankLines
import BenchmarkReport.Proofs.Table.ColumnTypes

namespace BenchmarkReport.Table

open Text Delimited

/-- A plain symbol that neither ends nor quotes a field. -/
def isNameSymbol (symbol : Char) : Bool :=
  isPlainSymbol symbol && symbol != ',' && symbol != '"'

/-- Rows of texts of any kind under plain names that make a visible header. Every column has a text
among its first rows that has the form of neither a number nor a truth value. -/
structure QuotedTable where
  names : List String
  rows : List (List String)
  named : names ≠ []
  plain : ∀ name ∈ names, ∀ symbol ∈ name.toList, isNameSymbol symbol = true
  visible : isBlankLine (headerLine names) = false
  uncommented : startsWith (some '#') (headerLine names) = false
  distinct : names.Nodup
  widths : ∀ row ∈ rows, row.length = names.length
  worded : ∀ place < names.length, ∃ row ∈ rows.take inferenceLength, ∃ cell,
    row[place]? = some cell ∧ IsWorded cell.toList

namespace QuotedTable

/-- The header and one line for each row, in which line feeds can stand. -/
def lines (source : QuotedTable) : List (List Char) :=
  headerLine source.names :: source.rows.map quotedLine

def text (source : QuotedTable) : List Char :=
  unlines source.lines

/-- The table of what is left of the cells. -/
def filtered (source : QuotedTable) : QuotedTable :=
  { source with
    rows := source.rows.map (List.map settled)
    widths := by
      refine List.forall_mem_map.mpr fun row member => ?_
      rw [List.length_map, source.widths row member]
    worded := by
      intro place within
      obtain ⟨row, member, cell, atPlace, isWorded⟩ := source.worded place within
      refine ⟨row.map settled, ?_, settled cell, ?_, ?_⟩
      · rw [← List.map_take]
        exact List.mem_map_of_mem member
      · rw [List.getElem?_map, atPlace, Option.map_some]
      · rw [settled, String.toList_ofList]
        exact isWorded_settle isWorded }

section Lines

variable (source : QuotedTable)

theorem names_length_pos : 0 < source.names.length :=
  List.length_pos_iff.mpr source.named

theorem rows_present : ∀ row ∈ source.rows, row ≠ [] :=
  ne_nil_of_widths source.names_length_pos source.widths

theorem not_mem_header {symbol : Char} (strange : isNameSymbol symbol = false)
    (noSeparator : symbol ≠ ',') : symbol ∉ headerLine source.names :=
  not_mem_headerLine source.plain strange noSeparator

theorem header_bounds : ∀ symbol ∈ headerLine source.names,
    32 ≤ symbol.toNat ∧ symbol.toNat < 127 := by
  intro symbol member
  rcases mem_headerLine source.plain member with rfl | plain
  · decide
  · simp only [isNameSymbol, isPlainSymbol, Bool.and_eq_true, decide_eq_true_eq] at plain
    exact plain.1.1

theorem header_ne_nil : headerLine source.names ≠ [] := by
  intro empty
  have visible := source.visible
  rw [empty] at visible
  exact Bool.noConfusion visible

theorem symbolLines_lines :
    symbolLines {} source.lines = source.lines ∧ dropEndings source.lines = source.lines := by
  obtain ⟨first, rest, shape⟩ := List.exists_cons_of_ne_nil source.header_ne_nil
  obtain ⟨above, below⟩ := source.header_bounds first (shape ▸ List.mem_cons_self)
  rw [lines, shape]
  exact symbolLines_of_header (by decide) above below rest _

theorem isCompressed_text : isCompressed source.text = false := by
  apply isCompressed_of_header source.header_ne_nil
  intro symbol member
  obtain ⟨above, below⟩ := source.header_bounds symbol member
  omega

theorem areWhole_lines : AreWhole {} source.lines :=
  areWhole_quotedLines (source.not_mem_header (by decide) (by decide))
    (source.not_mem_header (by decide) (by decide)) source.rows_present

/-- The columns are read back from the lines, were they not filtered. -/
theorem readColumns_text :
    readColumns {} source.text = .ok (textColumns source.names source.rows) := by
  obtain ⟨symbols, started⟩ := source.symbolLines_lines
  have whole : AreWhole {} (symbolLines {} source.lines) := by
    rw [symbols]
    exact source.areWhole_lines
  have wholeBody : AreWhole {} (dropEndings (symbolLines {} source.lines)) := by
    rw [symbols, started]
    exact source.areWhole_lines
  have uncommented : Dialect.isComment {} (headerLine source.names) = false := by
    rw [Dialect.isComment_eq_startsWith (by decide)]
    exact source.uncommented
  have named : headerNames {} (headerLine source.names) = source.names :=
    headerNames_of_words source.plain (by decide) (by decide) (by decide) (by decide) source.named
      source.distinct
  have noCompression : ¬ isCompressed (unlines source.lines) = true := by
    simpa [text] using source.isCompressed_text
  rw [text, readColumns_unlines whole wholeBody, readLines, symbols, started,
    if_neg noCompression, if_neg (by simp [lines])]
  exact lineColumns_quotedLines source.names_length_pos source.widths source.worded source.distinct
    named uncommented started

end Lines

section Filtering

/-- The filter takes out of lines of fields what is not left of their cells. -/
theorem unlines_filledLines_quotedLines {rows : List (List String)}
    (present : ∀ row ∈ rows, row ≠ []) :
    unlines (filledLines (unlines (rows.map quotedLine))) =
      unlines ((rows.map (List.map settled)).map quotedLine) := by
  induction rows with
  | nil => rfl
  | cons row others inductionHypothesis =>
      have later := inductionHypothesis fun other member =>
        present other (List.mem_cons_of_mem row member)
      obtain ⟨middle, shape⟩ := exists_quotedLine (present row List.mem_cons_self)
      have front : unlines (filled ((pieces (quotedLine row)).map dropReturn)) =
          quotedLine (row.map settled) ++ ['\n'] := by
        rw [← settle_quotedLine, shape]
        exact unlines_filter_pieces isBlank_quote isBlank_quote middle
      rw [List.map_cons, unlines_cons, filledLines_append, unlines_append, front, later,
        List.map_cons, List.map_cons, unlines_cons, List.append_assoc, List.singleton_append]

variable (source : QuotedTable)

theorem filledLines_text : filledLines source.text =
    headerLine source.names :: filledLines (unlines (source.rows.map quotedLine)) := by
  have single : pieces (headerLine source.names) = [headerLine source.names] :=
    split_of_not_mem (source.not_mem_header (by decide) (by decide))
  have ended : dropReturn (headerLine source.names) = headerLine source.names :=
    dropReturn_of_not_mem (source.not_mem_header (by decide) (by decide))
  rw [text, lines, unlines_cons, filledLines_append, single, List.map_singleton, ended, filled,
    List.filter_cons_of_pos (by simp [source.visible])]
  rfl

/-- What passes the filter is the text of another table. -/
theorem unlines_filledLines_text : unlines (filledLines source.text) = source.filtered.text := by
  rw [source.filledLines_text, unlines_cons,
    unlines_filledLines_quotedLines source.rows_present]
  exact (unlines_cons (headerLine source.names) _).symm

/-- The cells that the filter leaves are read. -/
theorem ofText_text : ofText {} source.text = .ok
    { columns := textColumns source.names source.filtered.rows
      metadata := metadataOf {} source.text } := by
  have noHeader : (filledLines source.text).all (startsWith (Dialect.marker? {})) = false := by
    rw [source.filledLines_text, List.all_eq_false]
    refine ⟨_, List.mem_cons_self, ?_⟩
    rw [marker_default, source.uncommented]
    exact Bool.false_ne_true
  rw [ofText_eq, if_neg (by simp [noHeader]), source.unlines_filledLines_text,
    source.filtered.readColumns_text]
  rfl

end Filtering

end QuotedTable

section Columns

variable {names : List String} {first second rows : List (List String)}

theorem getElem?_textColumns (place : Nat) : (textColumns names rows)[place]? =
    names[place]?.map fun name => ⟨name, .texts (rows.map fun row => row[place]?)⟩ := by
  rw [textColumns, List.getElem?_map, List.getElem?_zipIdx]
  cases names[place]? <;> simp

/-- Rows come back from their columns. -/
theorem rows_eq_of_textColumns (named : names ≠ [])
    (firstWidths : ∀ row ∈ first, row.length = names.length)
    (secondWidths : ∀ row ∈ second, row.length = names.length)
    (same : textColumns names first = textColumns names second) : first = second := by
  have atPlace {place : Nat} (within : place < names.length) :
      first.map (·[place]?) = second.map (·[place]?) := by
    have column := congrArg (·[place]?) same
    simpa [getElem?_textColumns, List.getElem?_eq_getElem within] using column
  have count : first.length = second.length := by
    simpa using congrArg List.length (atPlace (List.length_pos_iff.mpr named))
  apply List.ext_getElem count
  intro index firstBound secondBound
  apply List.ext_getElem?
  intro place
  by_cases within : place < names.length
  · have cell := congrArg (·[index]?) (atPlace within)
    simpa [firstBound, secondBound] using cell
  · have firstWidth := firstWidths _ (List.getElem_mem firstBound)
    have secondWidth := secondWidths _ (List.getElem_mem secondBound)
    rw [List.getElem?_eq_none (by omega), List.getElem?_eq_none (by omega)]

theorem map_eq_self_iff {Item : Type} {change : Item → Item} {items : List Item} :
    items.map change = items ↔ ∀ item ∈ items, change item = item := by
  have identity := List.map_inj_left (f := change) (g := id) (l := items)
  rwa [List.map_id] at identity

/-- All cells stay what they are when each of them does. -/
theorem map_settled_eq_iff : rows.map (List.map settled) = rows ↔
    ∀ row ∈ rows, ∀ cell ∈ row, Survives cell.toList := by
  have each (row : List String) :
      row.map settled = row ↔ ∀ cell ∈ row, Survives cell.toList := by
    rw [map_eq_self_iff]
    simp only [settled_eq_iff]
  rw [map_eq_self_iff]
  simp only [each]

end Columns

/-- A table of texts loads from its text whatever stands in its cells. All of its columns are of
texts, and they hold its cells just when none of these has a blank line between its first line and
its last one, or a carriage return in front of a line feed. -/
theorem ofBytes_quotedTable (source : QuotedTable) :
    ∃ table, ofBytes {} (bytesOf source.text) = .ok table ∧
      table.columns = textColumns source.names (source.rows.map (List.map settled)) ∧
      (table.columns = textColumns source.names source.rows ↔
        ∀ row ∈ source.rows, ∀ cell ∈ row, Survives cell.toList) := by
  refine ⟨_, (ofBytes_bytesOf {} source.text).trans source.ofText_text, rfl, ?_⟩
  rw [← map_settled_eq_iff]
  constructor
  · exact rows_eq_of_textColumns source.named source.filtered.widths source.widths
  · intro same
    exact congrArg (textColumns source.names) same

/-- A separator, a quotation mark, line ends and the marker of comments stand in these cells. -/
def strangeTexts : QuotedTable :=
  { names := ["a", "b"]
    rows := [["1", "x, \"y\""], ["\n#z\n", "\r"], ["", "true"]]
    named := by decide
    plain := by
      have letters : ∀ name ∈ ["a", "b"], name.toList.all isNameSymbol = true := by decide
      exact fun name member => List.all_eq_true.mp (letters name member)
    visible := by decide
    uncommented := by decide
    distinct := by decide
    widths := by decide
    worded := by decide }

theorem strangeTexts_loaded : ∃ table, ofBytes {} (bytesOf strangeTexts.text) = .ok table ∧
    table.columns = textColumns strangeTexts.names strangeTexts.rows := by
  obtain ⟨table, loaded, -, kept⟩ := ofBytes_quotedTable strangeTexts
  exact ⟨table, loaded, kept.mpr (by decide)⟩

/-- The second of the three lines of this cell is empty. -/
def brokenText : QuotedTable :=
  { names := ["a"]
    rows := [["x\n\ny"]]
    named := by decide
    plain := by
      have letters : ∀ name ∈ ["a"], name.toList.all isNameSymbol = true := by decide
      exact fun name member => List.all_eq_true.mp (letters name member)
    visible := by decide
    uncommented := by decide
    distinct := by decide
    widths := by decide
    worded := by decide }

theorem brokenText_changed : ∃ table, ofBytes {} (bytesOf brokenText.text) = .ok table ∧
    table.columns = textColumns ["a"] [["x\ny"]] ∧
    table.columns ≠ textColumns brokenText.names brokenText.rows := by
  have columns :
      textColumns ["a"] [["x\ny"]] = textColumns brokenText.names brokenText.filtered.rows := rfl
  refine ⟨_, (ofBytes_bytesOf {} brokenText.text).trans brokenText.ofText_text, columns.symm, ?_⟩
  intro same
  have rows : [["x\ny"]] = [["x\n\ny"]] :=
    @rows_eq_of_textColumns ["a"] _ _ (by decide) (by decide) (by decide) (columns.trans same)
  exact absurd rows (by decide)

end BenchmarkReport.Table
