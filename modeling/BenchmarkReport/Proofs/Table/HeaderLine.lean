/-
This file says which texts have no header and which line of the others names their columns. The
search for a header line knows no byte order mark, and the reader drops one, so that the two
disagree about texts with a mark in front. All conditions are on the lines of a text, whatever ends
them.
-/

import Mathlib.Data.List.TakeWhile
import BenchmarkReport.Proofs.Delimited.HeaderPiece
import BenchmarkReport.Proofs.Table.Comments

namespace BenchmarkReport.Table

open Text Delimited

/-- Every line is blank or a comment. -/
def isHeaderless (dialect : Dialect) (text : List Char) : Bool :=
  (lines text).all fun line => isBlankLine line || startsWith dialect.marker? line

/-- The lines that the reader finds behind a byte order mark and line endings in front. -/
def foundLines (text : List Char) : List (List Char) :=
  dropEndings (dropMark (filledLines text))

/-- The first symbol of the first line that is not blank. -/
def firstSymbol? (text : List Char) : Option Char :=
  (unlines (filledLines text)).head?

/-- The first line that is not blank starts with no carriage return of its own, and with no byte
order mark if none stands in front of the text. One that does stands in front of something else than
white space. -/
structure StartsClearly (text : List Char) : Prop where
  noReturn : firstSymbol? (dropByteOrderMark text) ≠ some '\r'
  noMark : dropByteOrderMark text = text → firstSymbol? text ≠ some '\uFEFF'
  visible : dropByteOrderMark text = text ∨
    ∀ line, (lines (dropByteOrderMark text)).head? = some line →
      line.all isLineEnding = true ∨ isBlankLine line = false

section Marks

variable {dialect : Dialect} {text : List Char}

theorem dropByteOrderMark_cases (text : List Char) :
    dropByteOrderMark text = text ∨ text = '\uFEFF' :: dropByteOrderMark text := by
  cases text with
  | nil => exact Or.inl rfl
  | cons symbol rest =>
      rw [dropByteOrderMark]
      split
      · rename_i mark
        exact Or.inr (congrArg (· :: rest) (Char.toNat_inj.mp mark))
      · exact Or.inl rfl

/-- A byte order mark is no white space, so that its line is not blank. -/
theorem filledLines_mark (rest : List Char) : ∃ line later,
    filledLines ('\uFEFF' :: rest) = ('\uFEFF' :: line) :: later.filter (!isBlankLine ·) ∧
      (lines rest = line :: later ∨ line = [] ∧ later = [] ∧ lines rest = []) := by
  obtain ⟨line, later, marked, behind⟩ :=
    @lines_cons '\uFEFF' (by decide) (by decide) rest
  have visible : isBlankLine ('\uFEFF' :: line) = false := by
    have noBlank : isBlank '\uFEFF' = false := by decide
    rw [isBlankLine, List.all_cons, noBlank, Bool.false_and]
  exact ⟨line, later, by rw [filledLines, marked, List.filter_cons_of_pos (by simp [visible])],
    behind⟩

theorem ofText_eq_noHeader_iff : ofText dialect text = .error .noHeader ↔
    (filledLines text).all (startsWith dialect.marker?) = true := by
  rw [ofText_eq]
  split
  · simp_all
  · rename_i filled
    refine ⟨fun empty => ?_, fun all => absurd all filled⟩
    cases read : readColumns dialect (unlines (filledLines text)) <;>
      simp [read, withMetadata] at empty

/-- Without a byte order mark a text has no header just when every line is blank or a comment. With
one it always is taken to have a header. -/
theorem noHeader_iff : ofText dialect text = .error .noHeader ↔
    dropByteOrderMark text = text ∧ isHeaderless dialect (dropByteOrderMark text) = true := by
  have all : isHeaderless dialect text = (filledLines text).all (startsWith dialect.marker?) := by
    simp [isHeaderless, filledLines, List.all_filter]
  rw [ofText_eq_noHeader_iff]
  rcases dropByteOrderMark_cases text with same | marked
  · rw [same, all]
    exact ⟨fun commented => ⟨rfl, commented⟩, And.right⟩
  · have different : dropByteOrderMark text ≠ text := fun same =>
      List.cons_ne_self '\uFEFF' _ (marked.symm.trans same.symm)
    obtain ⟨line, later, shape, -⟩ := filledLines_mark (dropByteOrderMark text)
    have visible : startsWith dialect.marker? ('\uFEFF' :: line) = false := by
      rw [Bool.eq_false_iff]
      intro starts
      have kept := dropByteOrderMark_of_startsWith starts
      rw [dropByteOrderMark, if_pos (by decide)] at kept
      exact absurd (congrArg List.length kept) (by simp)
    rw [← marked] at shape
    rw [shape, List.all_cons, visible]
    simp [different]

end Marks

section Found

variable {dialect : Dialect} {text : List Char} {table : Table}

theorem dropEndings_ne_nil {written : List (List Char)}
    (filled : ∀ line ∈ written.tail, line ≠ []) : ∀ line ∈ dropEndings written, line ≠ [] := by
  induction written with
  | nil => simp [dropEndings]
  | cons first later inductionHypothesis =>
      unfold dropEndings
      split
      · exact inductionHypothesis fun line member => filled line (List.mem_of_mem_tail member)
      · exact List.forall_mem_cons.mpr ⟨List.cons_ne_nil _ _, filled⟩

/-- Every line that is found holds something and no line feed. -/
theorem foundLines_plain : ∀ line ∈ foundLines text, '\n' ∉ line ∧ line ≠ [] := by
  intro line member
  constructor
  · obtain ⟨bare, bareMember, within⟩ := mem_dropEndings member
    obtain ⟨original, originalMember, inOriginal, -⟩ := mem_dropMark bareMember
    exact fun feed => filledLines_single original originalMember (inOriginal (within feed))
  · refine dropEndings_ne_nil ?_ line member
    cases shape : filledLines text with
    | nil => simp [dropMark]
    | cons first later =>
        exact fun other within => filledLines_ne_nil (shape ▸ List.mem_cons_of_mem first within)

/-- The columns have the names in the first line that is found and is no comment. -/
theorem columnNames_of_ofText (success : ofText dialect text = .ok table)
    (pairs : (headerOf dialect (foundLines text)).count '"' % 2 = 0) :
    table.columnNames = (headerNames dialect
      (dialect.kind.encode (headerOf dialect (foundLines text)))).eraseDups := by
  rw [ofText_eq] at success
  split at success
  · simp at success
  · have names := names_of_readColumns (withMetadata_eq_ok_iff.mp success).1
    rw [dropByteOrderMark_unlines, dropWhile_encode, dropWhile_unlines] at names
    have header := splitHeader_logicalPieces (fun line member => (foundLines_plain line member).1)
      (fun line member => (foundLines_plain line member).2) pairs
    rw [foundLines] at header ⊢
    rw [columnNames, names, header]

/-- The reader takes line endings off a text just when a carriage return starts its first line. -/
theorem dropWhile_filledLines_iff (text : List Char) :
    (unlines (filledLines text)).dropWhile isLineEnding = unlines (filledLines text) ↔
      firstSymbol? text ≠ some '\r' := by
  rw [firstSymbol?]
  cases shape : filledLines text with
  | nil => simp [unlines]
  | cons first later =>
      have member : first ∈ filledLines text := shape ▸ List.mem_cons_self
      obtain ⟨symbol, rest, rfl⟩ := List.exists_cons_of_ne_nil (filledLines_ne_nil member)
      have noFeed : symbol ≠ '\n' := by
        rintro rfl
        exact filledLines_single _ member List.mem_cons_self
      rw [unlines_cons, List.cons_append, List.head?_cons, List.dropWhile_eq_self_iff]
      simp [isLineEnding, noFeed]

theorem unlines_foundLines (text : List Char) : unlines (foundLines text) =
    (dropByteOrderMark (unlines (filledLines text))).dropWhile isLineEnding := by
  rw [foundLines, dropByteOrderMark_unlines, dropWhile_unlines]

/-- Lines that are found are compared as texts. -/
theorem foundLines_eq_iff_unlines {part : List Char} :
    foundLines text = filledLines part ↔
      unlines (foundLines text) = unlines (filledLines part) := by
  refine ⟨congrArg unlines, fun same => ?_⟩
  have cut := congrArg pieces same
  rw [pieces_unlines fun line member => (foundLines_plain line member).1,
    pieces_unlines filledLines_single] at cut
  exact List.append_cancel_right cut

/-- Without a byte order mark in front of the text there has to be none in front of its first line
either. -/
theorem foundLines_eq_iff_of_unmarked : foundLines text = filledLines text ↔
    firstSymbol? text ≠ some '\r' ∧ firstSymbol? text ≠ some '\uFEFF' := by
  rw [foundLines_eq_iff_unlines, unlines_foundLines, ← dropWhile_filledLines_iff, firstSymbol?]
  generalize unlines (filledLines text) = written
  rcases dropByteOrderMark_cases written with same | marked
  · have unmarked : written.head? ≠ some '\uFEFF' := by
      rintro starts
      obtain ⟨rest, rfl⟩ := List.head?_eq_some_iff.mp starts
      have lengths := congrArg List.length same
      rw [dropByteOrderMark, if_pos (by decide), List.length_cons] at lengths
      omega
    simp [same, unmarked]
  · have shorter : (dropByteOrderMark written).dropWhile isLineEnding ≠ written := by
      intro whole
      have lengths :=
        (@List.dropWhile_suffix _ (dropByteOrderMark written) isLineEnding).length_le
      have marks := congrArg List.length marked
      rw [whole] at lengths
      rw [List.length_cons] at marks
      omega
    have starts : written.head? = some '\uFEFF' := by
      rw [marked, List.head?_cons]
    simp [shorter, starts]

/-- A line is dropped with its ending just when it holds nothing but line endings. -/
theorem dropWhile_line_iff (line rest : List Char) :
    (line ++ '\n' :: rest).dropWhile isLineEnding = rest ↔
      rest.dropWhile isLineEnding = rest ∧ line.all isLineEnding = true := by
  rw [List.dropWhile_append]
  by_cases endings : line.all isLineEnding = true
  · have nothing : line.dropWhile isLineEnding = [] :=
      List.dropWhile_eq_nil_iff.mpr (List.all_eq_true.mp endings)
    rw [nothing, List.isEmpty_nil, if_pos rfl, List.dropWhile_cons_of_pos rfl]
    simp only [endings, and_true]
  · have something : line.dropWhile isLineEnding ≠ [] := fun nothing =>
      endings (List.all_eq_true.mpr (List.dropWhile_eq_nil_iff.mp nothing))
    have longer : line.dropWhile isLineEnding ++ '\n' :: rest ≠ rest := by
      intro same
      have lengths := congrArg List.length same
      rw [List.length_append, List.length_cons] at lengths
      omega
    rw [if_neg (by simpa using something)]
    simp only [longer, endings, Bool.false_eq_true, and_false]

/-- A byte order mark in front of a text hides its first line from the search for blank lines. -/
theorem foundLines_eq_iff_of_marked (rest : List Char) :
    foundLines ('\uFEFF' :: rest) = filledLines rest ↔ firstSymbol? rest ≠ some '\r' ∧
      ∀ line, (lines rest).head? = some line →
        line.all isLineEnding = true ∨ isBlankLine line = false := by
  obtain ⟨line, later, shape, behind⟩ := filledLines_mark rest
  have found : unlines (foundLines ('\uFEFF' :: rest)) =
      (line ++ '\n' :: unlines (filled later)).dropWhile isLineEnding := by
    rw [unlines_foundLines, shape, unlines_cons]
    rfl
  rw [foundLines_eq_iff_unlines, found, ← dropWhile_filledLines_iff]
  rcases behind with cut | ⟨rfl, rfl, cut⟩
  · rw [filledLines_eq, cut, List.head?_cons]
    by_cases blank : isBlankLine line = true
    · have dropped : filled (line :: later) = filled later :=
        List.filter_cons_of_neg (by simp [blank])
      have visible : (∀ first, some line = some first →
          first.all isLineEnding = true ∨ isBlankLine first = false) ↔
            line.all isLineEnding = true := by
        simp [blank]
      rw [dropped, dropWhile_line_iff, visible]
    · have kept : filled (line :: later) = line :: filled later :=
        List.filter_cons_of_pos (by simp [blank])
      rw [kept, unlines_cons]
      simp [blank]
  · simp [filledLines, cut, unlines, filled, isLineEnding]

/-- In a text that starts clearly, and in no other one, the lines that are found are those that are
not blank. -/
theorem foundLines_eq_iff :
    foundLines text = filledLines (dropByteOrderMark text) ↔ StartsClearly text := by
  rcases dropByteOrderMark_cases text with same | marked
  · rw [same, foundLines_eq_iff_of_unmarked]
    constructor
    · rintro ⟨noReturn, noMark⟩
      exact ⟨same.symm ▸ noReturn, fun _ => noMark, Or.inl same⟩
    · intro clear
      exact ⟨same ▸ clear.noReturn, clear.noMark same⟩
  · have different : dropByteOrderMark text ≠ text := fun same =>
      List.cons_ne_self '\uFEFF' _ (marked.symm.trans same.symm)
    have read := foundLines_eq_iff_of_marked (dropByteOrderMark text)
    rw [← marked] at read
    rw [read]
    constructor
    · rintro ⟨noReturn, visible⟩
      exact ⟨noReturn, fun same => absurd same different, Or.inr visible⟩
    · intro clear
      exact ⟨clear.noReturn, clear.visible.resolve_left different⟩

end Found

/-- A text has no header just when every line is blank or a comment and no byte order mark stands in
front. A table has the names in the first line that is found and is no comment. Exactly in a text
that starts clearly the lines that are found are those of the text without its mark that are not
blank. The names in a line without quotation marks are its fields. -/
theorem ofText_header (dialect : Dialect) (text : List Char) :
    (ofText dialect text = .error .noHeader ↔ dropByteOrderMark text = text ∧
      isHeaderless dialect (dropByteOrderMark text) = true) ∧
    (∀ table, ofText dialect text = .ok table →
      (headerOf dialect (foundLines text)).count '"' % 2 = 0 →
        table.columnNames = (headerNames dialect
          (dialect.kind.encode (headerOf dialect (foundLines text)))).eraseDups) ∧
    (foundLines text = filledLines (dropByteOrderMark text) ↔ StartsClearly text) ∧
    (∀ header, dialect.delimiter < 128 → '"' ∉ header → '\n' ∉ header →
      header.getLast? ≠ some '\r' → (split dialect.separator header).Nodup →
        (headerNames dialect (dialect.kind.encode header)).eraseDups =
          (split dialect.separator header).map String.ofList) :=
  ⟨noHeader_iff, fun _ success => columnNames_of_ofText success, foundLines_eq_iff,
    fun _ ascii unquoted single noReturn => eraseDups_headerNames ascii unquoted single noReturn⟩

/-- A byte order mark, a comment and a blank line stand in front of the header, and the lines end
with a carriage return and a line feed. -/
def titledText : List Char := '\uFEFF' :: "#run: 1\r\n \r\na,b\r\n1,2\r\n".toList

theorem titledText_named : StartsClearly titledText ∧
    ∃ table, ofText {} titledText = .ok table ∧
      table.columnNames = (split ',' "a,b".toList).map String.ofList := by
  have front : (lines (dropByteOrderMark titledText)).head? = some "#run: 1".toList := by decide
  have visible : isBlankLine "#run: 1".toList = false := by decide
  have clear : StartsClearly titledText := by
    refine ⟨by decide, fun same => absurd same (by decide), Or.inr fun line first => Or.inr ?_⟩
    rw [← Option.some.inj (front.symm.trans first), visible]
  have loaded : ∃ table, ofText {} titledText = .ok table := by
    rw [ofText_unquoted (by decide)]
    exact ⟨_, rfl⟩
  obtain ⟨table, success⟩ := loaded
  obtain ⟨-, names, found, fields⟩ := ofText_header {} titledText
  have header : headerOf {} (foundLines titledText) = "a,b".toList := by
    rw [found.mpr clear]
    decide
  refine ⟨clear, table, success, ?_⟩
  rw [names table success (by rw [header]; decide), header]
  exact fields "a,b".toList (by decide) (by decide) (by decide) (by decide) (by decide)

/-- The only line is a comment behind a byte order mark. -/
def markedComment : List Char := ['\uFEFF', '#', '\n']

/-- The search for a header line takes the mark for one, and the table has one column without a
name. -/
theorem markedComment_loaded :
    isHeaderless {} (dropByteOrderMark markedComment) = true ∧
      ofText {} markedComment ≠ .error .noHeader ∧
      ∃ table, ofText {} markedComment = .ok table ∧ table.columnNames = [""] := by
  have loaded : ∃ table, ofText {} markedComment = .ok table ∧ table.columnNames = [""] := by
    rw [ofText_unquoted (by decide)]
    exact ⟨_, rfl, by decide⟩
  refine ⟨by decide, ?_, loaded⟩
  obtain ⟨table, success, -⟩ := loaded
  simp [success]

end BenchmarkReport.Table
