/-
This file shows that the order of the data lines of a text has no part in what the text loads as,
except that the rows stand in that order, and that the derivation of the throughput keeps it so.
-/

import BenchmarkReport.Proofs.Delimited.Reordering
import BenchmarkReport.Proofs.Table.Metadata
import BenchmarkReport.Proofs.Table.Records
import BenchmarkReport.Proofs.Table.Rowwise

namespace BenchmarkReport.Table

open Text Delimited

/-- The rows of a table at some places. -/
def rearrange (order : List Nat) (table : Table) : Table :=
  { table with columns := table.columns.map (Column.rearrange order) }

section Deriving

variable {order : List Nat} {table : Table}

theorem rearrange_schema (order : List Nat) (table : Table) :
    (table.rearrange order).schema = table.schema := by
  simp only [schema, rearrange, List.map_map]
  exact List.map_congr_left fun column _ =>
    congrArg (Prod.mk column.name) (Values.rearrange_type order column.values)

theorem rearrange_cells (order : List Nat) (table : Table) :
    (table.rearrange order).columns.map Column.cells =
      table.columns.map fun column => BenchmarkReport.rearrange order column.cells := by
  simp only [rearrange, List.map_map]
  exact List.map_congr_left fun column _ => Column.rearrange_cells order column

/-- Rows are put in another order column by column. -/
theorem isRowwise_rearrange (order : List Nat) :
    IsRowwise (Column.rearrange order) (BenchmarkReport.rearrange order) where
  name := fun _ => rfl
  type := fun column => Values.rearrange_type order column.values
  numbers := fun column => Values.rearrange_numbers? order column.values

theorem numbers_length (wellFormed : table.WellFormed) {name : String}
    {values : List (Option Float)} (read : table.numbers name = .ok values) :
    values.length = table.rowCount := by
  unfold numbers at read
  split at read
  · simp at read
  · rename_i column found
    split at read
    · simp at read
    · rename_i numbers numeric
      rw [← Except.ok.inj read, Values.numbers?_length numeric]
      exact wellFormed.lengths column (column?_mem found).1

/-- The throughput of rows in another order is the throughput in that order. -/
theorem addThroughput_rearrange (wellFormed : table.WellFormed) (order : List Nat) :
    (table.rearrange order).addThroughput = table.addThroughput.map (rearrange order) := by
  refine addThroughput_mapColumns (isRowwise_rearrange order) table
    fun events times eventsRead timesRead => ?_
  have lengths : events.length = times.length := by
    rw [numbers_length wellFormed eventsRead, numbers_length wellFormed timesRead]
  simp only [Column.rearrange, Values.rearrange, throughputs_eq_zipWith,
    rearrange_zipWith order _ lengths]

end Deriving

/-- A line that is neither blank nor a comment. -/
def isData (dialect : Dialect) (line : List Char) : Bool :=
  !isBlankLine line && !startsWith dialect.marker? line

/-- Of two texts with the same lines up to the header, the second has the data lines behind it in
another order. All other lines stay in their places. -/
structure Reordering (dialect : Dialect) (order : List Nat) (text changed : List Char) where
  front : List (List Char)
  header : List Char
  later : List (List Char)
  moved : List (List Char)
  original : lines text = front ++ header :: later
  rearranged : lines changed = front ++ header :: moved
  silent : ∀ line ∈ front, isData dialect line = false
  headed : isData dialect header = true
  places : List.Forall₂ (fun old new => old = new ∨
    isData dialect old = true ∧ isData dialect new = true) later moved
  perm : order.Perm (List.range (later.filter (isData dialect)).length)
  records : moved.filter (isData dialect) =
    BenchmarkReport.rearrange order (later.filter (isData dialect))

section Lines

variable {dialect : Dialect} {front later : List (List Char)} {header line : List Char}

theorem isData_eq_true_iff : isData dialect line = true ↔
    isBlankLine line = false ∧ startsWith dialect.marker? line = false := by
  simp [isData]

/-- A line that is no data is dropped or is a comment. -/
theorem startsWith_of_not_isData (silent : isData dialect line = false)
    (filling : isBlankLine line = false) : startsWith dialect.marker? line = true := by
  simpa [isData, filling] using silent

theorem filter_filled (dialect : Dialect) (lines : List (List Char)) :
    (filled lines).filter (!startsWith dialect.marker? ·) = lines.filter (isData dialect) := by
  rw [filled, List.filter_filter]
  refine List.filter_congr fun line _ => ?_
  rw [isData, Bool.and_comm]

/-- A byte order mark is dropped from the header if no comment stands in front of it. -/
def seenHeader (front : List (List Char)) (header : List Char) : List Char :=
  if front.isEmpty then dropByteOrderMark header else header

variable (comments : ∀ line ∈ front, startsWith dialect.marker? line = true)

include comments in
theorem dropMark_front (header : List Char) (later : List (List Char)) :
    dropMark (front ++ header :: later) = front ++ seenHeader front header :: later := by
  cases front with
  | nil => rfl
  | cons comment others =>
      have kept := dropByteOrderMark_of_startsWith (comments comment List.mem_cons_self)
      simp [dropMark, seenHeader, kept]

variable (ascii : dialect.delimiter < 128) (headed : startsWith dialect.marker? header = false)
  (plain : startsPlainly dialect (front ++ header :: later) = true)

include headed plain in
theorem seenHeader_unmarked : startsWith dialect.marker? (seenHeader front header) = false := by
  cases front with
  | cons comment others => exact headed
  | nil =>
      cases header with
      | nil => exact headed
      | cons symbol rest =>
          simp only [seenHeader, List.isEmpty_nil, if_true, dropByteOrderMark]
          split
          · simp_all [startsPlainly]
          · exact headed

include comments ascii headed plain in
/-- Columns of plain lines are read from the lines behind the header. -/
theorem readLines_front (filled : ∀ line ∈ front ++ header :: later, line ≠ [])
    (single : ∀ line ∈ front ++ header :: later, '\n' ∉ line)
    (noReturn : ∀ line ∈ front ++ header :: later, '\r' ∉ line) :
    readLines dialect (front ++ header :: later) =
      if isCompressed (unlines (front ++ header :: later)) then .error .compressed
      else dataColumns dialect (schemaOf dialect (seenHeader front header) later) later := by
  have symbols : symbolLines dialect (front ++ header :: later) =
      front ++ seenHeader front header :: later := by
    rw [symbolLines_of_ascii ascii, dropMark_front comments]
  have started : dropEndings (front ++ seenHeader front header :: later) =
      front ++ seenHeader front header :: later := by
    rw [← dropMark_front comments]
    exact dropEndings_dropMark plain filled single noReturn
  have noComment : dialect.isComment (seenHeader front header) = false := by
    rw [Dialect.isComment_eq_startsWith ascii]
    exact seenHeader_unmarked headed plain
  have found : (front ++ [seenHeader front header]).dropWhile dialect.isComment =
      [seenHeader front header] := by
    rw [List.dropWhile_append_of_pos]
    · simp [noComment]
    · intro line member
      rw [Dialect.isComment_eq_startsWith ascii]
      exact comments line member
  have cut : splitHeader dialect (front ++ seenHeader front header :: later) =
      (seenHeader front header, later) := by
    rw [List.append_cons, splitHeader_append found, List.nil_append]
  have startedLines : dropEndings (symbolLines dialect (front ++ header :: later)) =
      front ++ seenHeader front header :: later := by
    rw [symbols, started]
  exact readLines_of_splitHeader (by simp [startedLines]) (by rw [startedLines, cut])
    (by rw [symbols, cut])

end Lines

section Loading

variable {dialect : Dialect} {order : List Nat} {text changed : List Char}

/-- Lines that stand in their places are as many. -/
theorem filled_length_of_places {later moved : List (List Char)}
    (places : List.Forall₂ (fun old new => old = new ∨
      isData dialect old = true ∧ isData dialect new = true) later moved) :
    (filled moved).length = (filled later).length := by
  induction places with
  | nil => rfl
  | @cons old new later moved place others inductionHypothesis =>
      have sameBlank : isBlankLine new = isBlankLine old := by
        rcases place with rfl | ⟨oldData, newData⟩
        · rfl
        · rw [(isData_eq_true_iff.mp oldData).1, (isData_eq_true_iff.mp newData).1]
      unfold filled at inductionHypothesis ⊢
      rw [List.filter_cons, List.filter_cons, sameBlank]
      split <;> simp [inductionHypothesis]

/-- Comments stand in their places, and data lines say nothing. -/
theorem pairsOf_places {later moved : List (List Char)}
    (places : List.Forall₂ (fun old new => old = new ∨
      isData dialect old = true ∧ isData dialect new = true) later moved) :
    pairsOf dialect moved = pairsOf dialect later := by
  have quiet {line : List Char} (data : isData dialect line = true) :
      pairsOf dialect [line] = [] :=
    pairsOf_of_unmarked (by simpa using (isData_eq_true_iff.mp data).2)
  induction places with
  | nil => rfl
  | @cons old new later moved place others inductionHypothesis =>
      rw [← List.singleton_append, pairsOf_append, inductionHypothesis,
        ← List.singleton_append (l := later), pairsOf_append]
      rcases place with rfl | ⟨oldData, newData⟩
      · rfl
      · rw [quiet oldData, quiet newData]

theorem isCompressed_places {front later moved : List (List Char)} (header : List Char)
    (lengths : moved.length = later.length) :
    isCompressed (unlines (front ++ header :: moved)) =
      isCompressed (unlines (front ++ header :: later)) := by
  have same (behind : List (List Char)) : unlines (behind ++ moved) = [] ↔
      unlines (behind ++ later) = [] := by
    rw [unlines_eq_nil_iff, unlines_eq_nil_iff, ← List.length_eq_zero_iff,
      ← List.length_eq_zero_iff, List.length_append, List.length_append, lengths]
  cases front with
  | nil =>
      rw [List.nil_append, List.nil_append, unlines_cons, unlines_cons]
      exact isCompressed_append header (same [])
  | cons first others =>
      rw [List.cons_append, List.cons_append, unlines_cons, unlines_cons,
        List.append_cons others header moved, List.append_cons others header later]
      exact isCompressed_append first (same (others ++ [header]))

/-- A text without quotation marks is read from the lines behind its header. -/
theorem ofText_front (ascii : dialect.delimiter < 128) {front later : List (List Char)}
    {header : List Char} (shape : filledLines text = front ++ header :: later)
    (comments : ∀ line ∈ front, startsWith dialect.marker? line = true)
    (headed : startsWith dialect.marker? header = false)
    (unquoted : ∀ line ∈ filledLines text, '"' ∉ line)
    (noReturn : ∀ line ∈ filledLines text, '\r' ∉ line)
    (plain : startsPlainly dialect (filledLines text) = true) :
    ofText dialect text = withMetadata (pairsOf dialect (lines text))
      (if isCompressed (unlines (front ++ header :: later)) then .error .compressed
        else dataColumns dialect (schemaOf dialect (seenHeader front header) later) later) := by
  have data : (front ++ header :: later).all (startsWith dialect.marker?) = false := by
    simp [headed]
  rw [ofText_unquotedLines unquoted, shape, if_neg (by simp [data]), metadataOf_eq,
    readLines_front comments ascii headed (shape ▸ plain)]
  · exact shape ▸ fun line => filledLines_ne_nil
  · exact shape ▸ filledLines_single
  · exact shape ▸ noReturn

namespace Reordering

variable (reordering : Reordering dialect order text changed)

theorem filledLines_text : filledLines text =
    filled reordering.front ++ reordering.header :: filled reordering.later := by
  rw [filledLines_eq, reordering.original, filled_append]
  simp [filled, (isData_eq_true_iff.mp reordering.headed).1]

theorem filledLines_changed : filledLines changed =
    filled reordering.front ++ reordering.header :: filled reordering.moved := by
  rw [filledLines_eq, reordering.rearranged, filled_append]
  simp [filled, (isData_eq_true_iff.mp reordering.headed).1]

theorem comments : ∀ line ∈ filled reordering.front,
    startsWith dialect.marker? line = true := by
  intro line member
  obtain ⟨within, filling⟩ := List.mem_filter.mp member
  exact startsWith_of_not_isData (reordering.silent line within) (by simpa using filling)

/-- The records are rearranged. -/
theorem filter_moved (ascii : dialect.delimiter < 128) :
    (filled reordering.moved).filter (!dialect.isComment ·) =
      BenchmarkReport.rearrange order
        ((filled reordering.later).filter (!dialect.isComment ·)) := by
  simp only [Dialect.isComment_eq_startsWith ascii, filter_filled, reordering.records]

theorem perm_filter (ascii : dialect.delimiter < 128) :
    order.Perm
      (List.range ((filled reordering.later).filter (!dialect.isComment ·)).length) := by
  simp only [Dialect.isComment_eq_startsWith ascii, filter_filled]
  exact reordering.perm

include reordering in
/-- No line is new. -/
theorem subset : filledLines changed ⊆ filledLines text := by
  have movedSubset : reordering.moved ⊆ reordering.later := by
    intro line member
    obtain ⟨place, within, rfl⟩ := List.getElem_of_mem member
    obtain ⟨lengths, each⟩ := List.forall₂_iff_get.mp reordering.places
    rcases each place (lengths ▸ within) within with same | ⟨-, data⟩
    · exact List.mem_of_getElem same
    · have moved : reordering.moved[place] ∈ reordering.moved.filter (isData dialect) :=
        List.mem_filter.mpr ⟨member, data⟩
      rw [reordering.records] at moved
      exact List.mem_of_mem_filter ((perm_rearrange reordering.perm).subset moved)
  have filledSubset : filled reordering.moved ⊆ filled reordering.later := fun line member =>
    List.mem_filter.mpr
      ⟨movedSubset (List.mem_of_mem_filter member), (List.mem_filter.mp member).2⟩
  rw [reordering.filledLines_text, reordering.filledLines_changed]
  exact List.append_subset.mpr ⟨List.subset_append_left _ _, fun line member =>
    List.mem_append_right _ (List.cons_subset_cons _ filledSubset member)⟩

include reordering in
theorem startsPlainly_changed :
    startsPlainly dialect (filledLines changed) = startsPlainly dialect (filledLines text) := by
  rw [reordering.filledLines_text, reordering.filledLines_changed]
  cases filled reordering.front with
  | nil => cases reordering.header <;> rfl
  | cons first others => cases first <;> rfl

include reordering in
theorem pairsOf_changed :
    pairsOf dialect (lines changed) = pairsOf dialect (lines text) := by
  rw [reordering.original, reordering.rearranged, List.append_cons, List.append_cons _ _
    reordering.later, pairsOf_append, pairsOf_places reordering.places, ← pairsOf_append]

include reordering in
/-- Both texts are read from the lines behind the same header with the same types. -/
theorem ofText_both (ascii : dialect.delimiter < 128) (unquoted : '"' ∉ text)
    (noReturn : '\r' ∉ text) (plain : startsPlainly dialect (filledLines text) = true)
    (short : (filled reordering.later).length ≤ inferenceLength) :
    ∃ (schema : List (String × ElementType)) (compressed : Bool),
      ofText dialect text = withMetadata (pairsOf dialect (lines text))
        (if compressed then .error .compressed
          else dataColumns dialect schema (filled reordering.later)) ∧
      ofText dialect changed = withMetadata (pairsOf dialect (lines text))
        (if compressed then .error .compressed
          else dataColumns dialect schema (filled reordering.moved)) := by
  have headed := (isData_eq_true_iff.mp reordering.headed).2
  have count := filled_length_of_places reordering.places
  have unquotedLines := filledLines_absent unquoted
  have noReturnLines := filledLines_absent noReturn
  have perm : ((filled reordering.moved).filter (!dialect.isComment ·)).Perm
      ((filled reordering.later).filter (!dialect.isComment ·)) := by
    rw [reordering.filter_moved ascii]
    exact perm_rearrange (reordering.perm_filter ascii)
  have schema := schemaOf_perm (seenHeader (filled reordering.front) reordering.header)
    (count ▸ short) short perm
  have read := ofText_front ascii reordering.filledLines_text reordering.comments headed
    unquotedLines noReturnLines plain
  have readChanged := ofText_front ascii reordering.filledLines_changed reordering.comments headed
    (fun line member => unquotedLines line (reordering.subset member))
    (fun line member => noReturnLines line (reordering.subset member))
    (reordering.startsPlainly_changed.trans plain)
  rw [reordering.pairsOf_changed, isCompressed_places reordering.header count, schema]
    at readChanged
  exact ⟨_, _, read, readChanged⟩

end Reordering

/-- The order of data lines has no part in whether a text loads, as long as all lines behind the
header serve to find the types. The table of the rows in another order is the table in that order,
and so it is once the throughput is derived. -/
theorem ofText_reordered (ascii : dialect.delimiter < 128) (unquoted : '"' ∉ text)
    (noReturn : '\r' ∉ text) (plain : startsPlainly dialect (filledLines text) = true)
    (reordering : Reordering dialect order text changed)
    (short : (filled reordering.later).length ≤ inferenceLength) :
    (∀ table, ofText dialect text = .ok table →
      ofText dialect changed = .ok (table.rearrange order) ∧
        (table.rearrange order).schema = table.schema ∧
        (table.rearrange order).columns.map Column.cells =
          table.columns.map (fun column => BenchmarkReport.rearrange order column.cells) ∧
        (table.rearrange order).addThroughput = table.addThroughput.map (rearrange order)) ∧
    ((∃ moved, ofText dialect changed = .ok moved) → ∃ table, ofText dialect text = .ok table) := by
  have records := reordering.filter_moved ascii
  have perm := reordering.perm_filter ascii
  obtain ⟨schema, compressed, read, readChanged⟩ :=
    reordering.ofText_both ascii unquoted noReturn plain short
  cases compressed with
  | true =>
      rw [if_pos rfl, withMetadata] at read readChanged
      simp [read, readChanged]
  | false =>
      rw [if_neg Bool.false_ne_true] at read readChanged
      obtain ⟨arranged, loads⟩ := dataColumns_rearrange schema perm records
      constructor
      · intro table success
        obtain ⟨columns, metadata⟩ := withMetadata_eq_ok_iff.mp (read ▸ success)
        refine ⟨?_, rearrange_schema order table, rearrange_cells order table,
          addThroughput_rearrange (wellFormed_of_ofText success) order⟩
        rw [readChanged, arranged table.columns columns]
        exact withMetadata_eq_ok_iff.mpr ⟨rfl, metadata⟩
      · rintro ⟨moved, success⟩
        obtain ⟨columns, -⟩ := withMetadata_eq_ok_iff.mp (readChanged ▸ success)
        obtain ⟨originals, original⟩ := loads ⟨moved.columns, columns⟩
        exact ⟨_, by rw [read, original, withMetadata]⟩

end Loading

/-- A comment and a blank line stand between lines of different lengths. -/
def measuredText : List Char :=
  "# run: 1\nEventCount,ElapsedTime\n10,5\n# half: 2\n\n7\n,3\n".toList

def shuffledText : List Char :=
  "# run: 1\nEventCount,ElapsedTime\n,3\n# half: 2\n\n10,5\n7\n".toList

def measuredTable : Table :=
  { columns := [⟨eventCountName, .integers .signed64 [some 10, some 7, none]⟩,
      ⟨elapsedTimeName, .integers .signed64 [some 5, none, some 3]⟩]
    metadata := [("run", "1"), ("half", "2")] }

def shuffling : Reordering {} [2, 0, 1] measuredText shuffledText where
  front := ["# run: 1".toList]
  header := "EventCount,ElapsedTime".toList
  later := ["10,5".toList, "# half: 2".toList, [], "7".toList, ",3".toList]
  moved := [",3".toList, "# half: 2".toList, [], "10,5".toList, "7".toList]
  original := by decide
  rearranged := by decide
  silent := by decide
  headed := by decide
  places := .cons (by decide) (.cons (by decide) (.cons (by decide) (.cons (by decide)
    (.cons (by decide) .nil))))
  perm := by decide
  records := by decide

theorem measuredText_reordered :
    ('"' ∉ measuredText ∧ '\r' ∉ measuredText ∧
      startsPlainly {} (filledLines measuredText) = true ∧
      (filled shuffling.later).length ≤ inferenceLength) ∧
    ofText {} measuredText = .ok measuredTable ∧
    ofText {} shuffledText = .ok (measuredTable.rearrange [2, 0, 1]) ∧
    (measuredTable.rearrange [2, 0, 1]).schema = measuredTable.schema ∧
    (measuredTable.rearrange [2, 0, 1]).columns.map Column.cells =
      measuredTable.columns.map (fun column =>
        BenchmarkReport.rearrange [2, 0, 1] column.cells) ∧
    (measuredTable.rearrange [2, 0, 1]).addThroughput =
      measuredTable.addThroughput.map (rearrange [2, 0, 1]) := by
  have loaded : ofText {} measuredText = .ok measuredTable := by
    rw [ofText_unquoted (by decide)]
    rfl
  exact ⟨by decide, loaded, (ofText_reordered (by decide) (by decide) (by decide) (by decide)
    shuffling (by decide)).1 measuredTable loaded⟩

end BenchmarkReport.Table
