/-
This file tells which parts of a text its reader takes for headers, for records and for comments,
and shows that nothing is between them. A part can hold several lines.
-/

import BenchmarkReport.Proofs.Delimited.Widening

namespace BenchmarkReport.Delimited

open Text

/-- The parts of a text as they are read: what names the columns, what is passed over to find the
records, the records, and the comments. -/
structure Reading where
  header : List Char
  passed : List Char
  records : List (List Char)
  comments : List (List Char)

/-- The parts that are no comments. -/
def Reading.consumed (reading : Reading) : List (List Char) :=
  reading.header :: reading.passed :: reading.records

theorem Reading.mem_consumed_iff {reading : Reading} {part : List Char} :
    part ∈ reading.consumed ↔
      part = reading.header ∨ part = reading.passed ∨ part ∈ reading.records := by
  rw [consumed, List.mem_cons, List.mem_cons]

/-- The comments among the records of a block. -/
def blockComments (dialect : Dialect) (block : List Char) : List (List Char) :=
  (completeLines ((recordMachine dialect).cut block)).filter dialect.isComment

/-- The symbols in which the header is looked for a second time, to find the records behind it. -/
def bodyOf (dialect : Dialect) (symbols : List Char) : List Char :=
  if 1 < (readSchema dialect (symbols.dropWhile isLineEnding)).length then
    symbols.dropWhile isLineEnding
  else symbols

/-- The text of the records. -/
def recordText (dialect : Dialect) (symbols : List Char) : List Char :=
  dataText dialect (readSchema dialect (symbols.dropWhile isLineEnding)).length symbols

/-- The reader looks for the header twice, and it cuts what is behind it into blocks. -/
def readingOf (dialect : Dialect) (symbols : List Char) : Reading where
  header := (splitHeader dialect (logicalPieces dialect (symbols.dropWhile isLineEnding))).1
  passed := (splitHeader dialect (logicalPieces dialect (bodyOf dialect symbols))).1
  records := (blocks dialect.kind (recordText dialect symbols)).flatMap (records dialect)
  comments := (logicalPieces dialect (bodyOf dialect symbols)).takeWhile dialect.isComment ++
    (blocks dialect.kind (recordText dialect symbols)).flatMap (blockComments dialect)

section Saying

variable {Item : Type} {said : List Char → List Item}

/-- What says nothing can be left out. -/
theorem said_filter {parts : List (List Char)} {keep : List Char → Bool}
    (silent : ∀ part ∈ parts, keep part = false → said part = []) :
    (parts.filter keep).flatMap said = parts.flatMap said := by
  induction parts with
  | nil => rfl
  | cons part others inductionHypothesis =>
      obtain ⟨first, later⟩ := List.forall_mem_cons.mp silent
      rw [List.flatMap_cons, ← inductionHypothesis later]
      cases kept : keep part with
      | true => rw [List.filter_cons_of_pos kept, List.flatMap_cons]
      | false => rw [List.filter_cons_of_neg (by simp [kept]), first kept, List.nil_append]

variable (nothing : said [] = [])

include nothing

theorem said_completeLines (pieces : List (List Char)) :
    (completeLines pieces).flatMap said = pieces.flatMap said := by
  fun_induction completeLines pieces with
  | case1 => rfl
  | case2 last empty => simp [List.isEmpty_iff.mp empty, nothing]
  | case3 last filled => rfl
  | case4 piece rest several inductionHypothesis =>
      rw [List.flatMap_cons, List.flatMap_cons, inductionHypothesis]

variable (apart : ∀ first second, said (first ++ '\n' :: second) = said first ++ said second)

include apart

/-- What is said line by line is said piece by piece, however long the pieces are. -/
theorem said_joinPieces (pieces : List (List Char)) :
    said (joinPieces pieces) = pieces.flatMap said := by
  induction pieces with
  | nil => exact nothing
  | cons piece others inductionHypothesis =>
      rw [List.flatMap_cons, ← inductionHypothesis]
      cases others with
      | nil => simp [joinPieces, nothing]
      | cons next later => rw [joinPieces_cons piece (List.cons_ne_nil next later), apart]

/-- Blocks end between lines. -/
theorem said_blocksWithin (kind : SymbolKind) (limit : Nat) (text : List Char) :
    (blocksWithin kind limit text).flatMap said = said text := by
  fun_induction blocksWithin kind limit text with
  | case1 limit text empty => simp [List.isEmpty_iff.mp empty, nothing]
  | case2 limit text filled all => simp
  | case3 limit text filled part inductionHypothesis =>
      obtain ⟨front, taken, -⟩ := exists_take_reach (Nat.pos_of_ne_zero part)
      have block : text.take (blockLength kind limit text) = front ++ ['\n'] := taken
      have whole : text = front ++ '\n' :: text.drop (blockLength kind limit text) := by
        conv_lhs => rw [← List.take_append_drop (blockLength kind limit text) text, block]
        simp
      rw [List.flatMap_cons, inductionHypothesis, block]
      conv_rhs => rw [whole, apart]
      rw [apart, nothing, List.append_nil]

/-- Where records say nothing a block says what its comments say. -/
theorem said_block {dialect : Dialect} {block : List Char}
    (silent : ∀ record ∈ records dialect block, said record = []) :
    (blockComments dialect block).flatMap said = said block := by
  rw [blockComments, said_filter, said_completeLines nothing, ← said_joinPieces nothing apart,
    (recordMachine dialect).joinPieces_cut]
  intro part member noComment
  exact silent part (List.mem_filter.mpr ⟨member, by simp [noComment]⟩)

/-- The header parts comments in front from the text behind it. -/
theorem said_splitHeader {dialect : Dialect} {located : List (List Char)}
    (silent : said (splitHeader dialect located).1 = []) :
    (located.takeWhile dialect.isComment).flatMap said ++
      said (joinPieces (splitHeader dialect located).2) = located.flatMap said := by
  rw [said_joinPieces nothing apart]
  conv_rhs => rw [← List.takeWhile_append_dropWhile (p := dialect.isComment) (l := located)]
  rw [List.flatMap_append]
  congr 1
  unfold splitHeader at silent ⊢
  cases found : located.dropWhile dialect.isComment with
  | nil => rfl
  | cons header later =>
      rw [found] at silent
      rw [List.flatMap_cons, silent, List.nil_append]

/-- Where headers and records say nothing a text says what its comments say. -/
theorem said_reading {dialect : Dialect} {symbols : List Char}
    (silent : ∀ part ∈ (readingOf dialect symbols).consumed, said part = []) :
    (readingOf dialect symbols).comments.flatMap said = said (bodyOf dialect symbols) := by
  have silentPassed : said (readingOf dialect symbols).passed = [] :=
    silent _ (Reading.mem_consumed_iff.mpr (Or.inr (Or.inl rfl)))
  simp only [readingOf] at silentPassed
  have silentRecords : ∀ record ∈ (readingOf dialect symbols).records, said record = [] :=
    fun record member => silent record (Reading.mem_consumed_iff.mpr (Or.inr (Or.inr member)))
  have behind : ((blocks dialect.kind (recordText dialect symbols)).flatMap
      (blockComments dialect)).flatMap said = said (recordText dialect symbols) := by
    rw [List.flatMap_assoc, ← said_blocksWithin nothing apart dialect.kind blockLimit]
    refine List.flatMap_congr fun block member => said_block nothing apart fun record within => ?_
    exact silentRecords record (List.mem_flatMap.mpr ⟨block, member, within⟩)
  have body : recordText dialect symbols = joinPieces
      (splitHeader dialect (logicalPieces dialect (bodyOf dialect symbols))).2 := rfl
  have comments : (readingOf dialect symbols).comments =
      (logicalPieces dialect (bodyOf dialect symbols)).takeWhile dialect.isComment ++
        (blocks dialect.kind (recordText dialect symbols)).flatMap (blockComments dialect) := rfl
  rw [comments, List.flatMap_append, behind, body, said_splitHeader nothing apart silentPassed,
    ← said_joinPieces nothing apart, logicalPieces, (lineMachine dialect).joinPieces_cut]

end Saying

section Parts

variable {dialect : Dialect} {symbols part : List Char}

theorem isComment_splitHeader_fst (located : List (List Char)) :
    dialect.isComment (splitHeader dialect located).1 = false := by
  unfold splitHeader
  cases found : located.dropWhile dialect.isComment with
  | nil => exact Dialect.isComment_nil
  | cons header later =>
      have first := List.head_dropWhile_not dialect.isComment (l := located) (by simp [found])
      simpa [found] using first

/-- No comment is taken for a header or for a record. -/
theorem not_isComment_of_mem_consumed (member : part ∈ (readingOf dialect symbols).consumed) :
    dialect.isComment part = false := by
  rcases Reading.mem_consumed_iff.mp member with header | passed | record
  · simp only [header, readingOf, isComment_splitHeader_fst]
  · simp only [passed, readingOf, isComment_splitHeader_fst]
  · obtain ⟨block, -, within⟩ := List.mem_flatMap.mp record
    simpa using (List.mem_filter.mp within).2

end Parts

section Reading

variable {dialect : Dialect} {text : List Char} {columns : List Column}

theorem readSchema_eq (dialect : Dialect) (symbols : List Char) :
    readSchema dialect (symbols.dropWhile isLineEnding) =
      schemaOf dialect (readingOf dialect symbols).header (completeLines (splitHeader dialect
        (logicalPieces dialect (symbols.dropWhile isLineEnding))).2) := rfl

/-- Columns that are read have the names in the header, and they hold the records. -/
theorem readingOf_of_readColumns (success : readColumns dialect text = .ok columns) :
    (∀ name, name ∈ columns.map Column.name ↔ name ∈ headerNames dialect
      (readingOf dialect (dialect.kind.encode (dropByteOrderMark text))).header) ∧
    HoldRecords dialect (columns.map fun column => (column.name, column.type))
      (readingOf dialect (dialect.kind.encode (dropByteOrderMark text))).records columns := by
  obtain ⟨rows, read, rfl⟩ := exists_rows_of_readColumns success
  refine ⟨fun name => ?_, ?_⟩
  · rw [columnsOfRows_names, readSchema_eq, mem_names_schemaOf]
  · rw [columnsOfRows_schema]
    exact holdRecords_of_mapM (map_eq_ok_iff.mpr ⟨rows, read, rfl⟩)

end Reading

section Plain

variable {dialect : Dialect} {lines : List (List Char)} {part : List Char}

/-- Line endings in front of lines do not make a comment of one. -/
theorem plain_dropEndings_of_plain
    (apart : ∀ symbol rest, dialect.isComment (symbol :: rest) = true → isLineEnding symbol = false)
    (plain : ∀ line ∈ lines, IsPlainLine dialect line) :
    ∀ line ∈ dropEndings lines, IsPlainLine dialect line := by
  induction lines with
  | nil => simp [dropEndings]
  | cons first later inductionHypothesis =>
      obtain ⟨plainFirst, plainLater⟩ := List.forall_mem_cons.mp plain
      unfold dropEndings
      split
      · exact inductionHypothesis plainLater
      · rename_i symbol rest shape
        refine List.forall_mem_cons.mpr ⟨?_, plainLater⟩
        have within : symbol :: rest ⊆ first := shape ▸ (List.dropWhile_suffix isLineEnding).subset
        refine ⟨fun feed => plainFirst.single (within feed), ?_⟩
        rcases plainFirst.unquoted with unquoted | comment
        · exact Or.inl fun quote => unquoted (within quote)
        · cases first with
          | nil => simp at shape
          | cons start behind =>
              have kept := apart start behind comment
              rw [List.dropWhile_cons_of_neg (by simp [kept])] at shape
              exact Or.inr (shape ▸ comment)

theorem single_splitHeader_fst (single : ∀ line ∈ lines, '\n' ∉ line) :
    '\n' ∉ (splitHeader dialect lines).1 := by
  unfold splitHeader
  cases found : lines.dropWhile dialect.isComment with
  | nil => simp
  | cons header later =>
      apply single header
      exact (List.dropWhile_suffix dialect.isComment).subset (found ▸ List.mem_cons_self)

/-- A text of whole lines is read line by line. -/
theorem readingOf_unlines (whole : AreWhole dialect lines)
    (wholeBody : AreWhole dialect (dropEndings lines)) :
    ∃ body, (body = lines ∨ body = dropEndings lines) ∧
      (readingOf dialect (unlines lines)).header = (splitHeader dialect (dropEndings lines)).1 ∧
      (readingOf dialect (unlines lines)).passed = (splitHeader dialect body).1 ∧
      (readingOf dialect (unlines lines)).records =
        (splitHeader dialect body).2.filter (!dialect.isComment ·) := by
  obtain ⟨body, either, written⟩ : ∃ body, (body = lines ∨ body = dropEndings lines) ∧
      bodyOf dialect (unlines lines) = unlines body := by
    unfold bodyOf
    split
    · exact ⟨dropEndings lines, Or.inr rfl, dropWhile_unlines lines⟩
    · exact ⟨lines, Or.inl rfl, rfl⟩
  have wholeLines : AreWhole dialect body := by
    rcases either with rfl | rfl
    · exact whole
    · exact wholeBody
  have records : recordText dialect (unlines lines) = unlines (splitHeader dialect body).2 := by
    rw [← joinPieces_splitHeader, ← logicalPieces_unlines wholeLines, ← written]
    rfl
  refine ⟨body, either, ?_, ?_, ?_⟩
  · simp only [readingOf, dropWhile_unlines, logicalPieces_unlines wholeBody,
      splitHeader_append_nil_fst]
  · simp only [readingOf, written, logicalPieces_unlines wholeLines, splitHeader_append_nil_fst]
  · simp only [readingOf, records]
    exact flatMap_records_blocks _ (wholeLines.of_subset (splitHeader_subset dialect body))

/-- Each header and each record is one line where no quotation mark stands outside comments. -/
theorem single_of_mem_consumed
    (apart : ∀ symbol rest, dialect.isComment (symbol :: rest) = true → isLineEnding symbol = false)
    (plain : ∀ line ∈ lines, IsPlainLine dialect line)
    (member : part ∈ (readingOf dialect (unlines lines)).consumed) : '\n' ∉ part := by
  have plainBody := plain_dropEndings_of_plain apart plain
  obtain ⟨body, either, header, passed, records⟩ :=
    readingOf_unlines (areWhole_of_plain plain) (areWhole_of_plain plainBody)
  have single : ∀ line ∈ body, '\n' ∉ line := by
    rcases either with rfl | rfl
    · exact fun line within => (plain line within).single
    · exact fun line within => (plainBody line within).single
  rcases Reading.mem_consumed_iff.mp member with isHeader | isPassed | isRecord
  · rw [isHeader, header]
    exact single_splitHeader_fst fun line within => (plainBody line within).single
  · rw [isPassed, passed]
    exact single_splitHeader_fst single
  · rw [records] at isRecord
    exact single part (splitHeader_subset dialect body (List.mem_of_mem_filter isRecord))

end Plain

end BenchmarkReport.Delimited
