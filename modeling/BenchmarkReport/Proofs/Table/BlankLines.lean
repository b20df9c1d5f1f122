/-
This file shows that blank lines and the endings of lines have no part in what a text loads as,
neither in its columns nor in its metadata.
-/

import Mathlib.Data.List.TakeWhile
import BenchmarkReport.Proofs.Table.Comments

namespace BenchmarkReport

/-- Nothing is left of a line just when all of it is white space. -/
theorem Text.trim_eq_nil_iff (line : List Char) :
    Text.trim line = [] ↔ Text.isBlankLine line = true := by
  induction line with
  | nil => simp [Text.trim, Text.trimStart, Text.trimEnd, Text.isBlankLine]
  | cons symbol rest inductionHypothesis =>
      rw [Text.isBlankLine, List.all_cons]
      cases blank : Text.isBlank symbol with
      | true =>
          have dropped : Text.trim (symbol :: rest) = Text.trim rest := by
            simp [Text.trim, Text.trimStart, blank]
          rw [dropped, inductionHypothesis, Text.isBlankLine, Bool.true_and]
      | false =>
          have kept : Text.trimEnd (symbol :: rest) ≠ [] := by
            intro none
            have dropped := List.dropWhile_eq_nil_iff.mp (List.reverse_eq_nil_iff.mp none)
            exact absurd (dropped symbol (by simp)) (by simp [blank])
          simp [Text.trim, Text.trimStart, blank, kept]

/-- A blank comment has no colon, so it says nothing. -/
theorem Metadata.parseLine?_of_blank {line : List Char} (blank : Text.isBlankLine line = true)
    (marker : Char) : Metadata.parseLine? marker line = none := by
  cases line with
  | nil => rfl
  | cons symbol comment =>
      have noColon : comment.dropWhile (· != ':') = [] := by
        apply List.dropWhile_eq_nil_iff.mpr
        intro later member
        have laterBlank : Text.isBlank later = true :=
          List.all_eq_true.mp blank later (List.mem_cons_of_mem symbol member)
        apply bne_iff_ne.mpr
        rintro rfl
        exact absurd laterBlank (by decide)
      rw [Metadata.parseLine?, Metadata.parseComment?, noColon]
      exact ite_self none

namespace Table

open Text Delimited

/-- The lines of a text of which something is left after trimming. -/
def spokenLines (text : List Char) : List (List Char) :=
  (lines text).filter fun line => !(trim line).isEmpty

theorem spokenLines_eq (text : List Char) : spokenLines text = filledLines text := by
  unfold spokenLines filledLines
  apply List.filter_congr
  intro line _
  rw [Bool.not_inj_iff, Bool.eq_iff_iff, List.isEmpty_iff]
  exact trim_eq_nil_iff line

section Filled

variable {dialect : Dialect} {first second text : List Char} {blanks : List (List Char)}

theorem filterMap_filled (marker : Char) (lines : List (List Char)) :
    (filled lines).filterMap (Metadata.parseLine? marker) =
      lines.filterMap (Metadata.parseLine? marker) := by
  rw [filled, List.filterMap_filter]
  apply List.filterMap_congr
  intro line _
  cases blank : isBlankLine line with
  | true => simp [Metadata.parseLine?_of_blank blank]
  | false => simp

theorem pairsOf_filled (dialect : Dialect) (lines : List (List Char)) :
    pairsOf dialect (filled lines) = pairsOf dialect lines := by
  unfold pairsOf
  cases dialect.marker? with
  | none => rfl
  | some marker => simp only [filterMap_filled]

/-- The columns are read from the lines that are not blank, and blank comments say nothing. -/
theorem ofText_congr (same : filledLines first = filledLines second) :
    ofText dialect first = ofText dialect second := by
  have metadata : metadataOf dialect first = metadataOf dialect second := by
    rw [metadataOf_eq, metadataOf_eq, ← pairsOf_filled, ← pairsOf_filled dialect (lines second),
      ← filledLines_eq, ← filledLines_eq, same]
  rw [ofText_eq, ofText_eq, same, metadata]

theorem filled_of_blank (blank : ∀ line ∈ blanks, isBlankLine line = true) :
    filled blanks = [] := by
  simpa [filled] using blank

theorem filled_cons (line : List Char) (rest : List (List Char)) :
    filled (line :: rest) = filled [line] ++ filled rest :=
  filled_append [line] rest

theorem filledLines_append (first second : List Char) :
    filledLines (first ++ '\n' :: second) =
      filled ((pieces first).map dropReturn) ++ filledLines second := by
  rw [filledLines_eq, lines_append, filled_append]
  rfl

/-- The last piece is blank when it is no line. -/
theorem filled_endedLines {pieces : List (List Char)} (plain : ∀ piece ∈ pieces, '\r' ∉ piece) :
    filled (endedLines pieces) = filled (pieces.map dropReturn) := by
  induction pieces with
  | nil => rfl
  | cons piece others inductionHypothesis =>
      have ended : dropReturn piece = piece :=
        dropReturn_of_not_mem (plain piece List.mem_cons_self)
      cases others with
      | nil =>
          rw [endedLines, List.map_singleton, ended]
          cases piece <;> rfl
      | cons next later =>
          have behind : filled (endedLines (next :: later)) =
              filled ((next :: later).map dropReturn) := by
            apply inductionHypothesis
            intro other member
            exact plain other (List.mem_cons_of_mem piece member)
          have front : endedLines (piece :: next :: later) =
              dropReturn piece :: endedLines (next :: later) :=
            @endedLines_append [piece] (next :: later) (List.cons_ne_nil next later)
          rw [front, filled_cons, behind]
          exact (filled_cons (dropReturn piece) ((next :: later).map dropReturn)).symm

/-- The end of the last line may be left out. -/
theorem filledLines_concat (plain : '\r' ∉ text) :
    filledLines (text ++ ['\n']) = filledLines text := by
  have plainPieces : ∀ piece ∈ pieces text, '\r' ∉ piece :=
    fun _ member within => plain ((mem_split member).2 within)
  rw [filledLines_append, filledLines_eq text, lines, filled_endedLines plainPieces]
  exact List.append_nil _

/-- Blank lines at the start of a text are dropped. -/
theorem filledLines_unlines_append (blank : ∀ line ∈ blanks, isBlankLine line = true)
    (text : List Char) : filledLines (unlines blanks ++ text) = filledLines text := by
  induction blanks with
  | nil => rfl
  | cons line others inductionHypothesis =>
      have blankPieces : ∀ piece ∈ (pieces line).map dropReturn, isBlankLine piece = true := by
        intro piece member
        obtain ⟨whole, wholeMember, rfl⟩ := List.mem_map.mp member
        apply List.all_eq_true.mpr
        intro symbol within
        exact List.all_eq_true.mp (blank line List.mem_cons_self) symbol
          ((mem_split wholeMember).2 (dropReturn_subset whole within))
      rw [unlines_cons, List.append_assoc, List.cons_append, filledLines_append,
        filled_of_blank blankPieces, List.nil_append]
      apply inductionHypothesis
      intro other member
      exact blank other (List.mem_cons_of_mem line member)

/-- Blank lines between two lines of a text are dropped. -/
theorem filledLines_blanks {front : List Char} (whole : front = [] ∨ front.getLast? = some '\n')
    (blank : ∀ line ∈ blanks, isBlankLine line = true) (back : List Char) :
    filledLines (front ++ unlines blanks ++ back) = filledLines (front ++ back) := by
  rcases whole with rfl | ended
  · rw [List.nil_append, List.nil_append]
    exact filledLines_unlines_append blank back
  · obtain ⟨start, rfl⟩ := List.getLast?_eq_some_iff.mp ended
    rw [List.append_assoc, List.append_assoc, List.append_assoc, List.singleton_append,
      List.singleton_append, filledLines_append, filledLines_append,
      filledLines_unlines_append blank]

end Filled

/-- Texts with the same lines, but for blank ones, load alike, whatever the marker is. So it is
with other endings of the lines, with or without the last one, and with blank lines between. -/
theorem blankLines_leave_no_trace (dialect : Dialect) :
    (∀ first second, spokenLines first = spokenLines second →
      ofBytes dialect (bytesOf first) = ofBytes dialect (bytesOf second)) ∧
    (∀ text, '\r' ∉ text →
      ofBytes dialect (bytesOf (withReturns text)) = ofBytes dialect (bytesOf text) ∧
      ofBytes dialect (bytesOf (text ++ ['\n'])) = ofBytes dialect (bytesOf text)) ∧
    (∀ front blanks back, (front = [] ∨ front.getLast? = some '\n') →
      (∀ line ∈ blanks, isBlankLine line = true) →
      ofBytes dialect (bytesOf (front ++ unlines blanks ++ back)) =
        ofBytes dialect (bytesOf (front ++ back))) := by
  simp only [ofBytes_bytesOf]
  refine ⟨?_, ?_, ?_⟩
  · intro first second same
    rw [spokenLines_eq, spokenLines_eq] at same
    exact ofText_congr same
  · intro text plain
    have sameLines : lines (withReturns text) = lines text :=
      lines_withReturns List.not_mem_nil List.not_mem_nil plain
    constructor
    · apply ofText_congr
      rw [filledLines, sameLines, filledLines]
    · exact ofText_congr (filledLines_concat plain)
  · intro front blanks back whole blank
    exact ofText_congr (filledLines_blanks whole blank back)

/-- Comments start with a tab here, and one of the two is blank. -/
def spacedText : List Char := "a,b\n\tk:v\n \n\t \u00A0\n1,2\n".toList

theorem spacedText_alike :
    (spokenLines "a,b\r\n\tk:v\r\n1,2".toList = spokenLines spacedText ∧
      ofBytes { comment := some 9 } (bytesOf "a,b\r\n\tk:v\r\n1,2".toList) =
        ofBytes { comment := some 9 } (bytesOf spacedText)) ∧
    ('\r' ∉ spacedText ∧
      ofBytes { comment := some 9 } (bytesOf (withReturns spacedText)) =
        ofBytes { comment := some 9 } (bytesOf spacedText)) ∧
    ofBytes { comment := some 9 } (bytesOf (spacedText ++ unlines ["\t".toList] ++ ['3'])) =
      ofBytes { comment := some 9 } (bytesOf (spacedText ++ ['3'])) := by
  obtain ⟨lines, endings, blanks⟩ := blankLines_leave_no_trace { comment := some 9 }
  refine ⟨⟨by decide, lines _ _ (by decide)⟩, ⟨by decide, ?_⟩, ?_⟩
  · exact (endings spacedText (by decide)).1
  · exact blanks spacedText ["\t".toList] ['3'] (Or.inr (by decide)) (by decide)

end Table

end BenchmarkReport
