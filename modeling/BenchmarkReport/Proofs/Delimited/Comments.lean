/-
This file shows what one more comment among the lines of a text does to its columns. It makes no
row, but it takes the place of a line that serves to find the types.
-/

import BenchmarkReport.Proofs.Delimited.Header
import BenchmarkReport.Proofs.Delimited.Rows

namespace BenchmarkReport.Delimited

open Text

/-- The names and types stay when a comment is put between lines. A comment close behind the header
leaves one line less to find the types. -/
def KeepsSchema (dialect : Dialect) (before after : List (List Char)) : Prop :=
  ∀ header between, before.dropWhile dialect.isComment = header :: between →
    between.length < inferenceLength →
      schemaOf dialect header ((between ++ after).take (inferenceLength - 1)) =
        schemaOf dialect header (between ++ after)

section Inference

variable {dialect : Dialect} {comment header : List Char} {before between after : List (List Char)}

/-- A comment makes no difference where comments are dropped. -/
theorem filter_comment (isComment : dialect.isComment comment = true) :
    (before ++ comment :: after).filter (!dialect.isComment ·) =
      (before ++ after).filter (!dialect.isComment ·) := by
  rw [List.filter_append, List.filter_append, List.filter_cons_of_neg (by simp [isComment])]

/-- A comment among the lines that serve to find the types stands for the last of them. -/
theorem schemaOf_comment_near (isComment : dialect.isComment comment = true)
    (near : between.length < inferenceLength) :
    schemaOf dialect header (between ++ comment :: after) =
      schemaOf dialect header ((between ++ after).take (inferenceLength - 1)) := by
  have position : inferenceLength - between.length = inferenceLength - 1 - between.length + 1 := by
    omega
  have within : between.length ≤ inferenceLength - 1 := by omega
  have window : (between ++ comment :: after).take inferenceLength =
      between ++ comment :: after.take (inferenceLength - 1 - between.length) := by
    rw [List.take_append, List.take_of_length_le (Nat.le_of_lt near), position,
      List.take_succ_cons]
  have others : ((between ++ after).take (inferenceLength - 1)).take inferenceLength =
      between ++ after.take (inferenceLength - 1 - between.length) := by
    rw [List.take_take, Nat.min_eq_right (Nat.sub_le inferenceLength 1), List.take_append,
      List.take_of_length_le within]
  have types (count : Nat) : inferTypes dialect count (between ++ comment :: after) =
      inferTypes dialect count ((between ++ after).take (inferenceLength - 1)) := by
    unfold inferTypes
    rw [window, others, filter_comment isComment]
  simp only [schemaOf, types]

/-- A comment behind the lines that serve to find the types does not matter. -/
theorem schemaOf_comment_far (far : inferenceLength ≤ between.length) :
    schemaOf dialect header (between ++ comment :: after) =
      schemaOf dialect header (between ++ after) := by
  have types (count : Nat) : inferTypes dialect count (between ++ comment :: after) =
      inferTypes dialect count (between ++ after) := by
    unfold inferTypes
    rw [List.take_append_of_le_length far, List.take_append_of_le_length far]
  simp only [schemaOf, types]

theorem splitHeader_append (found : before.dropWhile dialect.isComment = header :: between)
    (after : List (List Char)) :
    splitHeader dialect (before ++ after) = (header, between ++ after) := by
  unfold splitHeader
  rw [List.dropWhile_append, found]
  rfl

theorem splitHeader_comments (found : before.dropWhile dialect.isComment = [])
    (after : List (List Char)) :
    splitHeader dialect (before ++ after) = splitHeader dialect after := by
  unfold splitHeader
  rw [List.dropWhile_append, found]
  rfl

/-- The names and types after a comment was put between lines are those before just when the line
that it displaces was not needed to find them. -/
theorem keepsSchema_iff (isComment : dialect.isComment comment = true) :
    KeepsSchema dialect before after ↔
      schemaOf dialect (splitHeader dialect (before ++ comment :: after)).1
          (splitHeader dialect (before ++ comment :: after)).2 =
        schemaOf dialect (splitHeader dialect (before ++ after)).1
          (splitHeader dialect (before ++ after)).2 := by
  unfold KeepsSchema
  cases found : before.dropWhile dialect.isComment with
  | nil =>
      rw [splitHeader_comments found, splitHeader_comments found]
      have skipped : splitHeader dialect (comment :: after) = splitHeader dialect after := by
        unfold splitHeader
        rw [List.dropWhile_cons_of_pos isComment]
      simp [skipped]
  | cons header between =>
      rw [splitHeader_append found, splitHeader_append found]
      by_cases near : between.length < inferenceLength
      · rw [schemaOf_comment_near isComment near]
        constructor
        · intro kept
          exact kept header between rfl near
        · rintro same first others shape -
          obtain ⟨rfl, rfl⟩ := List.cons_eq_cons.mp shape
          exact same
      · rw [schemaOf_comment_far (Nat.le_of_not_lt near)]
        refine iff_of_true ?_ rfl
        rintro first others shape close
        obtain ⟨rfl, rfl⟩ := List.cons_eq_cons.mp shape
        exact absurd close near

/-- Among at most a hundred lines a comment displaces none that would serve to find the types. -/
theorem keepsSchema_of_short (short : before.length + after.length ≤ inferenceLength) :
    KeepsSchema dialect before after := by
  intro header between found _
  have shorter := (List.dropWhile_suffix dialect.isComment (l := before)).length_le
  rw [found, List.length_cons] at shorter
  have allLines : (between ++ after).length ≤ inferenceLength - 1 := by
    rw [List.length_append]
    omega
  rw [List.take_of_length_le allLines]

end Inference

section Columns

variable {dialect : Dialect} {comment : List Char} {before after front : List (List Char)}

/-- A comment that keeps the names and types keeps the columns, and no other comment does. -/
theorem lineColumns_comment (isComment : dialect.isComment comment = true)
    (startBefore : dropEndings (before ++ after) = front ++ after)
    (startAfter : dropEndings (before ++ comment :: after) = front ++ comment :: after) :
    (KeepsSchema dialect front after →
      lineColumns dialect (before ++ comment :: after) = lineColumns dialect (before ++ after)) ∧
    (∀ columns, lineColumns dialect (before ++ after) = .ok columns →
      lineColumns dialect (before ++ comment :: after) = .ok columns →
        KeepsSchema dialect front after) := by
  have kept : KeepsSchema dialect front after ↔
      lineSchema dialect (before ++ comment :: after) = lineSchema dialect (before ++ after) := by
    rw [keepsSchema_iff isComment, lineSchema, lineSchema, startBefore, startAfter]
  rw [kept]
  constructor
  · intro sameSchema
    rw [lineColumns_eq, lineColumns_eq, sameSchema, startBefore, startAfter]
    split
    · rw [filter_comment isComment]
    · rw [filter_comment isComment]
  · intro columns original changed
    rw [lineColumns_eq] at original changed
    have originalSchema := (holdRecords_of_mapM original).schema
    have changedSchema := (holdRecords_of_mapM changed).schema
    exact changedSchema.symm.trans originalSchema

end Columns

/-- The reader takes the same off the front of lines when a comment is put between them. -/
structure KeepsFront (dialect : Dialect) (comment : List Char) (before after : List (List Char)) :
    Prop where
  mark : before = [] → ∀ first ∈ after.head?, dropByteOrderMark first = first
  endings : dropEndings (dropMark before) ≠ [] ∨ (before ≠ [] → after ≠ []) ∧
    ∀ line ∈ comment :: after.take 1, line.dropWhile isLineEnding = line

/-- The symbols of the lines before a comment as the reader looks at them. -/
def frontSymbols (dialect : Dialect) (before : List (List Char)) : List (List Char) :=
  (dropEndings (dropMark before)).map dialect.kind.encode

/-- A comment between lines keeps what they are read as: they are taken for compressed data with
it just when they are without it, and it keeps the names and types. -/
structure KeepsColumns (dialect : Dialect) (comment : List Char) (before after : List (List Char)) :
    Prop where
  compression : isCompressed (unlines (before ++ comment :: after)) =
    isCompressed (unlines (before ++ after))
  schema : KeepsSchema dialect (frontSymbols dialect before) (after.map dialect.kind.encode)

section Front

variable {dialect : Dialect} {comment : List Char} {before after : List (List Char)}

theorem dropMark_append
    (mark : before = [] → ∀ first ∈ after.head?, dropByteOrderMark first = first) :
    dropMark (before ++ after) = dropMark before ++ after := by
  cases before with
  | nil =>
      cases after with
      | nil => rfl
      | cons first later =>
          have kept := mark rfl first rfl
          simp [dropMark, kept]
  | cons first later => rfl

theorem dropMark_comment (starts : startsWith dialect.marker? comment = true) :
    dropMark (before ++ comment :: after) = dropMark before ++ comment :: after := by
  apply dropMark_append
  rintro - first isFirst
  rw [List.head?_cons, Option.mem_def, Option.some.injEq] at isFirst
  rw [← isFirst, dropByteOrderMark_of_startsWith starts]

/-- Lines after the first that count are not changed. -/
theorem dropEndings_front {rest : List (List Char)} (filled : ∀ line ∈ rest, line ≠ [])
    (started : dropEndings (dropMark before) ≠ [] ∨
      ∀ line ∈ rest.take 1, line.dropWhile isLineEnding = line) :
    dropEndings (dropMark before ++ rest) = dropEndings (dropMark before) ++ rest := by
  rw [dropEndings_append]
  split
  · rename_i nothing
    rcases started with something | bare
    · exact absurd nothing something
    · rw [nothing, List.nil_append]
      cases rest with
      | nil => rfl
      | cons line later =>
          exact dropEndings_cons (filled line List.mem_cons_self)
            (bare line (by simp)) later
  · rfl

variable (front : KeepsFront dialect comment before after)
  (starts : startsWith dialect.marker? comment = true) (filled : ∀ line ∈ after, line ≠ [])

include front filled in
theorem dropEndings_symbolLines :
    dropEndings (symbolLines dialect (before ++ after)) =
      frontSymbols dialect before ++ after.map dialect.kind.encode := by
  have started : dropEndings (dropMark before) ≠ [] ∨
      ∀ line ∈ after.take 1, line.dropWhile isLineEnding = line :=
    front.endings.imp_right fun bare line member =>
      bare.2 line (List.mem_cons_of_mem comment member)
  rw [symbolLines, dropMark_append front.mark, dropEndings_map_encode,
    dropEndings_front filled started, List.map_append]
  rfl

include front starts filled in
theorem dropEndings_symbolLines_comment :
    dropEndings (symbolLines dialect (before ++ comment :: after)) =
      frontSymbols dialect before ++
        dialect.kind.encode comment :: after.map dialect.kind.encode := by
  have started : dropEndings (dropMark before) ≠ [] ∨
      ∀ line ∈ (comment :: after).take 1, line.dropWhile isLineEnding = line := by
    refine front.endings.imp_right fun bare line member => ?_
    rw [List.take_succ_cons, List.take_zero, List.mem_singleton] at member
    exact bare.2 line (member ▸ List.mem_cons_self)
  have bothFilled : ∀ line ∈ comment :: after, line ≠ [] := by
    rintro line member rfl
    rcases List.mem_cons.mp member with empty | later
    · simp [← empty, startsWith_nil] at starts
    · exact filled [] later rfl
  rw [symbolLines, dropMark_comment starts, dropEndings_map_encode,
    dropEndings_front bothFilled started, List.map_append]
  rfl

include front starts filled in
/-- A comment that keeps the columns is read over, and no other comment is. -/
theorem readLines_comment (present : before ++ after ≠ []) :
    (KeepsColumns dialect comment before after →
      readLines dialect (before ++ comment :: after) = readLines dialect (before ++ after)) ∧
    (∀ columns, readLines dialect (before ++ after) = .ok columns →
      readLines dialect (before ++ comment :: after) = .ok columns →
        KeepsColumns dialect comment before after) := by
  have startBefore := dropEndings_symbolLines front filled
  have startAfter := dropEndings_symbolLines_comment front starts filled
  have symbolsBefore : symbolLines dialect (before ++ after) =
      symbolLines dialect before ++ after.map dialect.kind.encode := by
    rw [symbolLines, dropMark_append front.mark, List.map_append, symbolLines]
  have symbolsAfter : symbolLines dialect (before ++ comment :: after) =
      symbolLines dialect before ++
        dialect.kind.encode comment :: after.map dialect.kind.encode := by
    rw [symbolLines, dropMark_comment starts, List.map_append, symbolLines, List.map_cons]
  have dataBefore : dropEndings (symbolLines dialect (before ++ after)) ≠ [] := by
    rw [startBefore]
    intro nothing
    obtain ⟨noFront, noAfter⟩ := List.append_eq_nil_iff.mp nothing
    rw [frontSymbols, List.map_eq_nil_iff] at noFront
    rw [List.map_eq_nil_iff] at noAfter
    rcases front.endings with something | ⟨needed, -⟩
    · exact something noFront
    · by_cases empty : before = []
      · exact present (by rw [empty, noAfter]; rfl)
      · exact needed empty noAfter
  have dataAfter : dropEndings (symbolLines dialect (before ++ comment :: after)) ≠ [] := by
    rw [startAfter]
    simp
  rw [symbolsBefore] at startBefore
  rw [symbolsAfter] at startAfter
  obtain ⟨keeps, changes⟩ :=
    lineColumns_comment (Dialect.isComment_encode starts) startBefore startAfter
  unfold readLines
  rw [if_neg dataBefore, if_neg dataAfter, symbolsBefore, symbolsAfter]
  constructor
  · intro kept
    rw [kept.compression, keeps kept.schema]
  · intro columns original changed
    split at original
    · simp at original
    · rename_i plainBefore
      split at changed
      · simp at changed
      · rename_i plainAfter
        refine ⟨?_, changes columns original changed⟩
        rw [Bool.eq_false_iff.mpr plainBefore, Bool.eq_false_iff.mpr plainAfter]

include front starts filled in
/-- The reader looks at nothing but the lines when the only quotation marks stand in the comment. -/
theorem readColumns_comment (single : ∀ line ∈ before ++ after, '\n' ∉ line)
    (unquoted : ∀ line ∈ before ++ after, '"' ∉ line) (commentSingle : '\n' ∉ comment) :
    readColumns dialect (unlines (before ++ comment :: after)) =
      readLines dialect (before ++ comment :: after) := by
  have plain : ∀ line ∈ symbolLines dialect (before ++ comment :: after),
      IsPlainLine dialect line := by
    obtain ⟨singleBefore, singleAfter⟩ := List.forall_mem_append.mp single
    obtain ⟨unquotedBefore, unquotedAfter⟩ := List.forall_mem_append.mp unquoted
    refine plain_symbolLines ?_ ?_
    · exact List.forall_mem_append.mpr
        ⟨singleBefore, List.forall_mem_cons.mpr ⟨commentSingle, singleAfter⟩⟩
    · exact List.forall_mem_append.mpr
        ⟨fun line member => Or.inl (unquotedBefore line member), List.forall_mem_cons.mpr
          ⟨Or.inr starts, fun line member => Or.inl (unquotedAfter line member)⟩⟩
  have plainBody : ∀ line ∈ dropEndings (symbolLines dialect (before ++ comment :: after)),
      IsPlainLine dialect line := by
    have plainOthers : ∀ line ∈ dropEndings (symbolLines dialect (before ++ after)),
        IsPlainLine dialect line := plain_dropEndings single unquoted
    have plainComment : IsPlainLine dialect (dialect.kind.encode comment) := by
      refine plain _ ?_
      rw [symbolLines, dropMark_comment starts]
      exact List.mem_map_of_mem (List.mem_append_right _ List.mem_cons_self)
    rw [dropEndings_symbolLines front filled] at plainOthers
    rw [dropEndings_symbolLines_comment front starts filled]
    obtain ⟨plainFront, plainAfter⟩ := List.forall_mem_append.mp plainOthers
    exact List.forall_mem_append.mpr
      ⟨plainFront, List.forall_mem_cons.mpr ⟨plainComment, plainAfter⟩⟩
  exact readColumns_unlines (areWhole_of_plain plain) (areWhole_of_plain plainBody)

end Front

end BenchmarkReport.Delimited
