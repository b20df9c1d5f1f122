/-
This file reads columns from lines that are cut off whole. The reader of such a text looks at
nothing but the list of these lines.
-/

import BenchmarkReport.Delimited.Reader
import BenchmarkReport.Proofs.Delimited.Cutting

namespace BenchmarkReport.Delimited

open Text

/-- A byte order mark is no part of the first line. -/
def dropMark : List (List Char) → List (List Char)
  | [] => []
  | line :: later => dropByteOrderMark line :: later

/-- Line endings in front of the first other symbol are dropped, and so are the lines that hold
nothing else. -/
def dropEndings : List (List Char) → List (List Char)
  | [] => []
  | line :: later =>
    match line.dropWhile isLineEnding with
    | [] => dropEndings later
    | symbol :: rest => (symbol :: rest) :: later

/-- The lines as the reader looks at them. -/
def symbolLines (dialect : Dialect) (lines : List (List Char)) : List (List Char) :=
  (dropMark lines).map dialect.kind.encode

/-- The names in a header with the types of the lines after it. -/
def schemaOf (dialect : Dialect) (header : List Char) (later : List (List Char)) :
    List (String × ElementType) :=
  let names := headerNames dialect header
  (names.zip (inferTypes dialect names.length later)).foldl addToSchema []

/-- The columns of the lines after a header. -/
def dataColumns (dialect : Dialect) (schema : List (String × ElementType))
    (later : List (List Char)) : Except Fault (List Column) :=
  columnsOfRows schema <$> (later.filter (!dialect.isComment ·)).mapM fun record =>
    readRecord dialect.kind 1 schema (fields dialect.separator record)

/-- The names and types that lines speak for. -/
def lineSchema (dialect : Dialect) (lines : List (List Char)) : List (String × ElementType) :=
  schemaOf dialect (splitHeader dialect (dropEndings lines)).1
    (splitHeader dialect (dropEndings lines)).2

/-- The columns of lines. Only a text of several columns has its line endings dropped again. -/
def lineColumns (dialect : Dialect) (lines : List (List Char)) : Except Fault (List Column) :=
  let schema := lineSchema dialect lines
  let body := if 1 < schema.length then dropEndings lines else lines
  dataColumns dialect schema (splitHeader dialect body).2

/-- What the reader makes of lines. -/
def readLines (dialect : Dialect) (lines : List (List Char)) : Except Fault (List Column) :=
  if isCompressed (unlines lines) then .error .compressed
  else if dropEndings (symbolLines dialect lines) = [] then .error .noData
  else lineColumns dialect (symbolLines dialect lines)

theorem dropByteOrderMark_unlines (lines : List (List Char)) :
    dropByteOrderMark (unlines lines) = unlines (dropMark lines) := by
  cases lines with
  | nil => rfl
  | cons line later =>
      cases line with
      | nil => rfl
      | cons symbol rest =>
          rw [dropMark, unlines_cons, unlines_cons]
          simp only [List.cons_append, dropByteOrderMark]
          split <;> rfl

theorem dropWhile_unlines (lines : List (List Char)) :
    (unlines lines).dropWhile isLineEnding = unlines (dropEndings lines) := by
  induction lines with
  | nil => rfl
  | cons line later inductionHypothesis =>
      rw [unlines_cons, dropEndings, List.dropWhile_append]
      cases line.dropWhile isLineEnding with
      | nil =>
          have lineFeed : isLineEnding '\n' = true := rfl
          simp only [List.isEmpty_nil, if_true, List.dropWhile_cons, lineFeed]
          exact inductionHypothesis
      | cons symbol rest =>
          rw [unlines_cons]
          rfl

theorem dropEndings_append (first second : List (List Char)) :
    dropEndings (first ++ second) =
      if dropEndings first = [] then dropEndings second else dropEndings first ++ second := by
  induction first with
  | nil => simp [dropEndings]
  | cons line later inductionHypothesis =>
      rw [List.cons_append, dropEndings, dropEndings]
      cases line.dropWhile isLineEnding with
      | nil => exact inductionHypothesis
      | cons symbol rest => simp

/-- A line that holds something and starts with no line ending stays the first. -/
theorem dropEndings_cons {line : List Char} (filled : line ≠ [])
    (started : line.dropWhile isLineEnding = line) (later : List (List Char)) :
    dropEndings (line :: later) = line :: later := by
  rw [dropEndings, started]
  cases line with
  | nil => exact absurd rfl filled
  | cons symbol rest => rfl

theorem SymbolKind.encode_ending (kind : SymbolKind) {symbol : Char}
    (ending : isLineEnding symbol = true) : kind.encode [symbol] = [symbol] := by
  have either : symbol = '\n' ∨ symbol = '\r' := by simpa [isLineEnding] using ending
  rcases either with rfl | rfl <;> cases kind <;> rfl

/-- The symbols of a character that ends no line end no line. -/
theorem SymbolKind.encode_no_ending (kind : SymbolKind) {symbol code : Char}
    (other : isLineEnding symbol = false) (member : code ∈ kind.encode [symbol]) :
    isLineEnding code = false := by
  rw [Bool.eq_false_iff]
  intro ending
  have ascii : code.toNat < 128 := by
    have either : code = '\n' ∨ code = '\r' := by simpa [isLineEnding] using ending
    rcases either with rfl | rfl <;> decide
  have same : code = symbol := List.mem_singleton.mp (kind.mem_of_mem_encode ascii member)
  rw [same, other] at ending
  exact Bool.false_ne_true ending

theorem dropWhile_encode (kind : SymbolKind) (line : List Char) :
    (kind.encode line).dropWhile isLineEnding = kind.encode (line.dropWhile isLineEnding) := by
  induction line with
  | nil => cases kind <;> rfl
  | cons symbol rest inductionHypothesis =>
      rw [kind.encode_cons]
      by_cases ending : isLineEnding symbol = true
      · rw [kind.encode_ending ending, List.singleton_append, List.dropWhile_cons_of_pos ending,
          List.dropWhile_cons_of_pos ending, inductionHypothesis]
      · rw [List.dropWhile_cons_of_neg ending]
        rw [Bool.not_eq_true] at ending
        cases codes : kind.encode [symbol] with
        | nil => exact absurd codes (kind.encode_singleton_ne_nil symbol)
        | cons code others =>
            have other := kind.encode_no_ending ending (codes ▸ List.mem_cons_self)
            rw [List.cons_append, List.dropWhile_cons_of_neg (by simp [other]), kind.encode_cons,
              codes, List.cons_append]

/-- Line endings are the same among characters and among symbols. -/
theorem dropEndings_map_encode (kind : SymbolKind) (lines : List (List Char)) :
    dropEndings (lines.map kind.encode) = (dropEndings lines).map kind.encode := by
  induction lines with
  | nil => rfl
  | cons line later inductionHypothesis =>
      rw [List.map_cons, dropEndings, dropEndings, dropWhile_encode]
      cases line.dropWhile isLineEnding with
      | nil =>
          rw [kind.encode_eq_nil_iff.mpr rfl]
          exact inductionHypothesis
      | cons symbol rest =>
          cases codes : kind.encode (symbol :: rest) with
          | nil => exact absurd (kind.encode_eq_nil_iff.mp codes) (by simp)
          | cons code others => simp [codes]

section Header

variable (dialect : Dialect) (lines : List (List Char))

theorem dropWhile_isComment_append_nil :
    (lines ++ [[]]).dropWhile dialect.isComment = lines.dropWhile dialect.isComment ++ [[]] := by
  have last : [[]].dropWhile dialect.isComment = [[]] := by simp [Dialect.isComment_nil]
  rw [List.dropWhile_append, last]
  cases lines.dropWhile dialect.isComment <;> rfl

theorem splitHeader_append_nil_fst :
    (splitHeader dialect (lines ++ [[]])).1 = (splitHeader dialect lines).1 := by
  unfold splitHeader
  rw [dropWhile_isComment_append_nil]
  cases lines.dropWhile dialect.isComment <;> rfl

theorem completeLines_splitHeader :
    completeLines (splitHeader dialect (lines ++ [[]])).2 = (splitHeader dialect lines).2 := by
  unfold splitHeader
  rw [dropWhile_isComment_append_nil]
  cases lines.dropWhile dialect.isComment with
  | nil => rfl
  | cons header later => exact completeLines_append_nil later

theorem joinPieces_splitHeader :
    joinPieces (splitHeader dialect (lines ++ [[]])).2 =
      unlines (splitHeader dialect lines).2 := by
  unfold splitHeader
  rw [dropWhile_isComment_append_nil]
  cases lines.dropWhile dialect.isComment with
  | nil => rfl
  | cons header later => exact joinPieces_append_nil later

/-- What follows the header are lines of the text. -/
theorem splitHeader_subset : (splitHeader dialect lines).2 ⊆ lines := by
  unfold splitHeader
  have within := (List.dropWhile_suffix dialect.isComment (l := lines)).subset
  cases shape : lines.dropWhile dialect.isComment with
  | nil => simp
  | cons header later =>
      rw [shape] at within
      exact fun line member => within (List.mem_cons_of_mem header member)

end Header

section Columns

variable {dialect : Dialect} {lines : List (List Char)}

theorem readSchema_unlines (whole : AreWhole dialect lines) :
    readSchema dialect (unlines lines) =
      schemaOf dialect (splitHeader dialect lines).1 (splitHeader dialect lines).2 := by
  simp only [readSchema, logicalPieces_unlines whole, completeLines_splitHeader,
    splitHeader_append_nil_fst, schemaOf]

theorem readRows_unlines (schema : List (String × ElementType)) (whole : AreWhole dialect lines) :
    columnsOfRows schema <$> readRows dialect schema (unlines lines) =
      dataColumns dialect schema lines := by
  rw [readRows, flatMap_records_blocks dialect.kind whole, dataColumns]

/-- The data is what follows the header, with or without the line endings in front. -/
theorem columns_dataText (whole : AreWhole dialect lines)
    (wholeBody : AreWhole dialect (dropEndings lines)) (schema : List (String × ElementType))
    (count : Nat) :
    columnsOfRows schema <$> readRows dialect schema (dataText dialect count (unlines lines)) =
      dataColumns dialect schema
        (splitHeader dialect (if 1 < count then dropEndings lines else lines)).2 := by
  rw [dataText, dropWhile_unlines]
  split
  · rw [logicalPieces_unlines wholeBody, joinPieces_splitHeader, readRows_unlines]
    exact wholeBody.of_subset (splitHeader_subset dialect _)
  · rw [logicalPieces_unlines whole, joinPieces_splitHeader, readRows_unlines]
    exact whole.of_subset (splitHeader_subset dialect _)

/-- The reader of a text of whole lines reads the columns of the lines. -/
theorem readColumns_unlines (whole : AreWhole dialect (symbolLines dialect lines))
    (wholeBody : AreWhole dialect (dropEndings (symbolLines dialect lines))) :
    readColumns dialect (unlines lines) = readLines dialect lines := by
  have symbols : dialect.kind.encode (dropByteOrderMark (unlines lines)) =
      unlines (symbolLines dialect lines) := by
    rw [dropByteOrderMark_unlines, SymbolKind.encode_unlines, symbolLines]
  have body : (unlines (symbolLines dialect lines)).dropWhile isLineEnding =
      unlines (dropEndings (symbolLines dialect lines)) := dropWhile_unlines _
  have schema : readSchema dialect (unlines (dropEndings (symbolLines dialect lines))) =
      lineSchema dialect (symbolLines dialect lines) := readSchema_unlines wholeBody
  unfold readColumns readLines
  split
  · rfl
  · simp only [symbols, body, List.isEmpty_iff, unlines_eq_nil_iff, schema]
    split
    · rfl
    · exact columns_dataText whole wholeBody _ _

end Columns

section Unquoted

variable {dialect : Dialect} {line : List Char} {lines : List (List Char)}

theorem dropByteOrderMark_subset (line : List Char) : dropByteOrderMark line ⊆ line := by
  cases line with
  | nil => exact List.Subset.refl []
  | cons symbol rest =>
      rw [dropByteOrderMark]
      split
      · exact List.subset_cons_self symbol rest
      · exact List.Subset.refl _

/-- No byte order mark stands in front of a comment, since the marker is a byte. -/
theorem dropByteOrderMark_of_startsWith (starts : startsWith dialect.marker? line = true) :
    dropByteOrderMark line = line := by
  unfold startsWith Dialect.marker? at starts
  cases line with
  | nil => rfl
  | cons symbol rest =>
      cases marked : dialect.comment with
      | none => simp [marked] at starts
      | some byte =>
          have same : symbol = symbolOfByte byte := by simpa [marked] using starts
          have small : symbol.toNat < 256 := by
            rw [same, symbolOfByte_toNat]
            exact byte.toNat_lt
          rw [dropByteOrderMark, if_neg (by omega)]

/-- With an ASCII delimiter the symbols are the characters. -/
theorem symbolLines_of_ascii (ascii : dialect.delimiter < 128) (lines : List (List Char)) :
    symbolLines dialect lines = dropMark lines := by
  rw [symbolLines, Dialect.kind_eq_character ascii]
  exact List.map_id (dropMark lines)

theorem mem_dropMark (member : line ∈ dropMark lines) :
    ∃ original ∈ lines, line ⊆ original ∧
      (dropByteOrderMark original = original → line = original) := by
  cases lines with
  | nil => simp [dropMark] at member
  | cons first later =>
      rcases List.mem_cons.mp member with rfl | behind
      · exact ⟨first, List.mem_cons_self, dropByteOrderMark_subset first, id⟩
      · exact ⟨line, List.mem_cons_of_mem first behind, List.Subset.refl line, fun _ => rfl⟩

/-- A line of symbols holds no other ASCII symbols than its line, and a comment holds them all. -/
theorem mem_symbolLines (member : line ∈ symbolLines dialect lines) :
    ∃ original ∈ lines, (∀ symbol ∈ line, symbol.toNat < 128 → symbol ∈ original) ∧
      (startsWith dialect.marker? original = true → line = dialect.kind.encode original) := by
  obtain ⟨source, sourceMember, rfl⟩ := List.mem_map.mp member
  obtain ⟨original, originalMember, within, kept⟩ := mem_dropMark sourceMember
  refine ⟨original, originalMember, ?_, ?_⟩
  · exact fun symbol inSymbols ascii => within (dialect.kind.mem_of_mem_encode ascii inSymbols)
  · intro starts
    rw [kept (dropByteOrderMark_of_startsWith starts)]

theorem mem_dropEndings (member : line ∈ dropEndings lines) :
    ∃ original ∈ lines, line ⊆ original := by
  induction lines with
  | nil => simp [dropEndings] at member
  | cons first later inductionHypothesis =>
      unfold dropEndings at member
      split at member
      · obtain ⟨original, originalMember, within⟩ := inductionHypothesis member
        exact ⟨original, List.mem_cons_of_mem first originalMember, within⟩
      · rename_i symbol rest shape
        rcases List.mem_cons.mp member with front | behind
        · refine ⟨first, List.mem_cons_self, ?_⟩
          rw [front, ← shape]
          exact (List.dropWhile_suffix isLineEnding).subset
        · exact ⟨line, List.mem_cons_of_mem first behind, List.Subset.refl line⟩

/-- Lines whose quotation marks stand in comments have plain symbols. -/
theorem plain_symbolLines (single : ∀ line ∈ lines, '\n' ∉ line)
    (unquoted : ∀ line ∈ lines, '"' ∉ line ∨ startsWith dialect.marker? line = true) :
    ∀ line ∈ symbolLines dialect lines, IsPlainLine dialect line := by
  intro line member
  obtain ⟨original, originalMember, kept, comment⟩ := mem_symbolLines member
  refine ⟨fun lineFeed => ?_, ?_⟩
  · exact single original originalMember (kept '\n' lineFeed (by decide))
  · rcases unquoted original originalMember with without | starts
    · exact Or.inl fun quote => without (kept '"' quote (by decide))
    · rw [comment starts]
      exact Or.inr (Dialect.isComment_encode starts)

/-- Symbols stay plain without the line endings in front of them when there are no quotation
marks. -/
theorem plain_dropEndings (single : ∀ line ∈ lines, '\n' ∉ line)
    (unquoted : ∀ line ∈ lines, '"' ∉ line) :
    ∀ line ∈ dropEndings (symbolLines dialect lines), IsPlainLine dialect line := by
  intro line member
  obtain ⟨symbols, symbolsMember, within⟩ := mem_dropEndings member
  obtain ⟨original, originalMember, kept, -⟩ := mem_symbolLines symbolsMember
  refine ⟨fun lineFeed => ?_, Or.inl fun quote => ?_⟩
  · exact single original originalMember (kept '\n' (within lineFeed) (by decide))
  · exact unquoted original originalMember (kept '"' (within quote) (by decide))

/-- The reader of a text without quotation marks looks at nothing but its lines. -/
theorem readColumns_unquoted (single : ∀ line ∈ lines, '\n' ∉ line)
    (unquoted : ∀ line ∈ lines, '"' ∉ line) :
    readColumns dialect (unlines lines) = readLines dialect lines :=
  readColumns_unlines
    (areWhole_of_plain
      (plain_symbolLines single fun line member => Or.inl (unquoted line member)))
    (areWhole_of_plain (plain_dropEndings single unquoted))

end Unquoted

section Ascii

/-- An ASCII character is one byte. -/
theorem utf8EncodeChar_of_ascii {symbol : Char} (ascii : symbol.toNat < 128) :
    String.utf8EncodeChar symbol = [symbol.toNat.toUInt8] := by
  have small : symbol.val.toNat ≤ 0x7F := Nat.le_of_lt_succ ascii
  unfold String.utf8EncodeChar
  dsimp only
  rw [if_pos small]
  rfl

theorem toNat_of_ascii {symbol : Char} (ascii : symbol.toNat < 128) :
    symbol.toNat.toUInt8.toNat = symbol.toNat := by
  rw [Nat.toUInt8, UInt8.toNat_ofNat']
  omega

/-- Only one pair of ASCII characters starts compressed data. -/
theorem isCompressed_of_front {first second : Char} (firstAscii : first.toNat < 128)
    (secondAscii : second.toNat < 128) (noPair : first = 'x' → second.toNat ≠ 1)
    (rest : List Char) : isCompressed (first :: second :: rest) = false := by
  obtain ⟨behind, front⟩ : ∃ behind,
      (((first :: second :: rest).take 4).flatMap String.utf8EncodeChar).take 4 =
        first.toNat.toUInt8 :: second.toNat.toUInt8 :: behind := by
    refine ⟨((rest.take 2).flatMap String.utf8EncodeChar).take 2, ?_⟩
    simp [utf8EncodeChar_of_ascii firstAscii, utf8EncodeChar_of_ascii secondAscii]
  have strange : ∀ start ∈ compressedFrame :: compressedStarts,
      (start[1]?).any (fun byte => byte.toNat < 128) = true → start = [0x78, 1] := by decide
  have small : second.toNat.toUInt8.toNat < 128 := by rwa [toNat_of_ascii secondAscii]
  have noStart : [first.toNat.toUInt8, second.toNat.toUInt8] ∉ compressedStarts := by
    intro start
    have pair := strange _ (List.mem_cons_of_mem compressedFrame start)
      (decide_eq_true small)
    rw [List.cons.injEq, List.cons.injEq] at pair
    have firstNumber := toNat_of_ascii firstAscii
    have secondNumber := toNat_of_ascii secondAscii
    rw [pair.1] at firstNumber
    rw [pair.2.1] at secondNumber
    exact noPair (Char.toNat_inj.mp firstNumber.symm) secondNumber.symm
  have noFrame : first.toNat.toUInt8 :: second.toNat.toUInt8 :: behind ≠ compressedFrame := by
    intro same
    have pair := strange compressedFrame List.mem_cons_self
      (by rw [← same]; exact decide_eq_true small)
    exact absurd pair (by decide)
  unfold isCompressed
  rw [front]
  simp [noStart, noFrame]

/-- A line that starts with this pair and goes on is taken for compressed data. -/
theorem isCompressed_of_pair {line : List Char} (filled : line ≠ [])
    (ascii : ∀ symbol ∈ line, symbol.toNat < 128) (later : List Char) :
    isCompressed ('x' :: '\x01' :: (line ++ '\n' :: later)) = true := by
  have four {third fourth : Char} (thirdAscii : third.toNat < 128)
      (fourthAscii : fourth.toNat < 128) (rest : List Char) :
      isCompressed ('x' :: '\x01' :: third :: fourth :: rest) = true := by
    have front : (('x' :: '\x01' :: third :: fourth :: rest).take 4).flatMap
        String.utf8EncodeChar = [0x78, 1, third.toNat.toUInt8, fourth.toNat.toUInt8] := by
      simp [utf8EncodeChar_of_ascii thirdAscii, utf8EncodeChar_of_ascii fourthAscii,
        utf8EncodeChar_of_ascii (by decide : 'x'.toNat < 128),
        utf8EncodeChar_of_ascii (by decide : '\x01'.toNat < 128)]
    unfold isCompressed
    rw [front]
    rfl
  match line with
  | [] => exact absurd rfl filled
  | [third] => exact four (ascii third List.mem_cons_self) (by decide) later
  | third :: fourth :: rest =>
      exact four (ascii third List.mem_cons_self) (ascii fourth (by simp)) (rest ++ '\n' :: later)

/-- A text under a header of ASCII characters that do not start compressed data is not compressed. -/
theorem isCompressed_of_line {header : List Char} (filled : header ≠ [])
    (ascii : ∀ symbol ∈ header, symbol.toNat < 128)
    (noPair : ∀ second rest, header = 'x' :: second :: rest → second.toNat ≠ 1)
    (later : List (List Char)) : isCompressed (unlines (header :: later)) = false := by
  rw [unlines_cons]
  match header with
  | [] => exact absurd rfl filled
  | [only] =>
      exact isCompressed_of_front (ascii only List.mem_cons_self) (by decide) (fun _ => by decide) _
  | first :: second :: rest =>
      refine isCompressed_of_front (ascii first List.mem_cons_self) (ascii second (by simp)) ?_ _
      rintro rfl
      exact noPair second rest rfl

/-- A text under a header of ASCII characters, with no control character in second place, is not
compressed. -/
theorem isCompressed_of_header {header : List Char} (filled : header ≠ [])
    (plain : ∀ symbol ∈ header, symbol.toNat < 128 ∧ symbol.toNat ≠ 1) (later : List (List Char)) :
    isCompressed (unlines (header :: later)) = false :=
  isCompressed_of_line filled (fun symbol member => (plain symbol member).1)
    (fun second _ shape => (plain second (by simp [shape])).2) later

/-- The reader takes nothing off a line that starts neither with a byte order mark nor with a line
ending. -/
theorem symbolLines_of_front {dialect : Dialect} (ascii : dialect.delimiter < 128) {first : Char}
    (noMark : first.toNat ≠ 0xFEFF) (noEnding : isLineEnding first = false) (rest : List Char)
    (later : List (List Char)) :
    symbolLines dialect ((first :: rest) :: later) = (first :: rest) :: later ∧
      dropEndings ((first :: rest) :: later) = (first :: rest) :: later := by
  constructor
  · rw [symbolLines_of_ascii ascii, dropMark, dropByteOrderMark, if_neg noMark]
  · apply dropEndings_cons (List.cons_ne_nil first rest)
    rw [List.dropWhile_cons_of_neg (by simp [noEnding])]

/-- The reader takes nothing off a header that starts with a printable character. -/
theorem symbolLines_of_header {dialect : Dialect} (ascii : dialect.delimiter < 128) {first : Char}
    (above : 32 ≤ first.toNat) (below : first.toNat < 127) (rest : List Char)
    (later : List (List Char)) :
    symbolLines dialect ((first :: rest) :: later) = (first :: rest) :: later ∧
      dropEndings ((first :: rest) :: later) = (first :: rest) :: later := by
  have noEnding : isLineEnding first = false := by
    rw [Bool.eq_false_iff]
    intro ending
    have either : first = '\n' ∨ first = '\r' := by simpa [isLineEnding] using ending
    rcases either with rfl | rfl <;> exact absurd above (by decide)
  exact symbolLines_of_front ascii (by omega) noEnding rest later

end Ascii

end BenchmarkReport.Delimited
