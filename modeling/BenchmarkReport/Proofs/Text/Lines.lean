/-
This file relates texts to their pieces and lines: what was joined is split again, and no piece or
line holds more than its text does.
-/

import BenchmarkReport.Text.Lines

namespace BenchmarkReport.Text

section Splitting

variable {separator symbol : Char} {text first rest : List Char}

theorem split_of_not_mem (absent : separator ∉ text) : split separator text = [text] := by
  induction text with
  | nil => rfl
  | cons symbol rest inductionHypothesis =>
      have different : symbol ≠ separator := fun same => absent (by simp [same])
      have later : separator ∉ rest := fun member => absent (List.mem_cons_of_mem symbol member)
      rw [split_cons, if_neg different, inductionHypothesis later]
      rfl

theorem exists_last_piece (separator : Char) (text : List Char) :
    ∃ front last, split separator text = front ++ [last] :=
  ⟨_, _, (List.dropLast_concat_getLast (split_ne_nil separator text)).symm⟩

/-- The last piece of a text and the first piece of what follows it are one. -/
theorem split_append_eq {front later : List (List Char)} {last next : List Char}
    (pieces : split separator text = front ++ [last])
    (behind : split separator rest = next :: later) :
    split separator (text ++ rest) = front ++ (last ++ next) :: later := by
  induction text generalizing front last with
  | nil =>
      have shape : [] ++ [[]] = front ++ [last] := pieces
      obtain ⟨rfl, same⟩ := List.append_inj' shape rfl
      rw [← List.singleton_inj.mp same]
      exact behind
  | cons symbol others inductionHypothesis =>
      obtain ⟨otherFront, otherLast, shape⟩ := exists_last_piece separator others
      have joined := inductionHypothesis shape
      rw [split_cons, shape] at pieces
      rw [List.cons_append, split_cons, joined]
      split at pieces
      · rename_i separates
        rw [← List.cons_append] at pieces
        obtain ⟨rfl, same⟩ := List.append_inj' pieces rfl
        rw [if_pos separates, ← List.singleton_inj.mp same, List.cons_append]
      · rename_i different
        rw [if_neg different]
        cases otherFront with
        | nil =>
            have whole : [] ++ [symbol :: otherLast] = front ++ [last] := pieces
            obtain ⟨rfl, same⟩ := List.append_inj' whole rfl
            rw [← List.singleton_inj.mp same]
            rfl
        | cons piece between =>
            have whole : ((symbol :: piece) :: between) ++ [otherLast] = front ++ [last] := pieces
            obtain ⟨rfl, same⟩ := List.append_inj' whole rfl
            rw [← List.singleton_inj.mp same]
            rfl

/-- A separator keeps what is before it apart from what is behind it. -/
theorem split_append_cons (first rest : List Char) :
    split separator (first ++ separator :: rest) =
      split separator first ++ split separator rest := by
  obtain ⟨front, last, pieces⟩ := exists_last_piece separator first
  have behind : split separator (separator :: rest) = [] :: split separator rest := by
    rw [split_cons, if_pos rfl]
  rw [split_append_eq pieces behind, pieces, List.append_nil, List.append_assoc,
    List.singleton_append]

theorem split_append (absent : separator ∉ first) :
    split separator (first ++ separator :: rest) = first :: split separator rest := by
  rw [split_append_cons, split_of_not_mem absent, List.singleton_append]

/-- Pieces without the separator come back from the text that they were joined to. -/
theorem split_intercalate {pieces : List (List Char)} (filled : pieces ≠ [])
    (absent : ∀ piece ∈ pieces, separator ∉ piece) :
    split separator ([separator].intercalate pieces) = pieces := by
  induction pieces with
  | nil => exact absurd rfl filled
  | cons piece others inductionHypothesis =>
      have without : separator ∉ piece := absent piece List.mem_cons_self
      cases others with
      | nil =>
          rw [List.intercalate_singleton]
          exact split_of_not_mem without
      | cons next later =>
          rw [List.intercalate_cons_cons, List.append_assoc, List.singleton_append,
            split_append without, inductionHypothesis (by simp)]
          exact fun other member => absent other (List.mem_cons_of_mem piece member)

/-- A symbol behind a text that does not separate joins its last piece. -/
theorem split_concat (different : symbol ≠ separator) (text : List Char) :
    ∃ front last, split separator text = front ++ [last] ∧
      split separator (text ++ [symbol]) = front ++ [last ++ [symbol]] := by
  obtain ⟨front, last, pieces⟩ := exists_last_piece separator text
  have behind : split separator [symbol] = [[symbol]] :=
    split_of_not_mem (by simp [Ne.symm different])
  exact ⟨front, last, pieces, split_append_eq pieces behind⟩

/-- A symbol of a text separates or stands in a piece. -/
theorem exists_piece_of_mem (member : symbol ∈ text) :
    symbol = separator ∨ ∃ piece ∈ split separator text, symbol ∈ piece := by
  induction text with
  | nil => simp at member
  | cons first rest inductionHypothesis =>
      rw [split_cons]
      by_cases separates : first = separator
      · rw [if_pos separates]
        rcases List.mem_cons.mp member with rfl | later
        · exact Or.inl separates
        · refine (inductionHypothesis later).imp_right ?_
          rintro ⟨piece, pieceMember, within⟩
          exact ⟨piece, List.mem_cons_of_mem [] pieceMember, within⟩
      · rw [if_neg separates]
        cases pieces : split separator rest with
        | nil => exact absurd pieces (split_ne_nil separator rest)
        | cons front others =>
            rw [joinFirst]
            rcases List.mem_cons.mp member with rfl | later
            · exact Or.inr ⟨symbol :: front, List.mem_cons_self, List.mem_cons_self⟩
            · refine (inductionHypothesis later).imp_right ?_
              rw [pieces]
              rintro ⟨piece, pieceMember, within⟩
              rcases List.mem_cons.mp pieceMember with rfl | behind
              · exact ⟨first :: piece, List.mem_cons_self, List.mem_cons_of_mem first within⟩
              · exact ⟨piece, List.mem_cons_of_mem _ behind, within⟩

/-- A piece holds symbols of its text, and the separator is none of them. -/
theorem mem_split {piece : List Char} (member : piece ∈ split separator text) :
    separator ∉ piece ∧ piece ⊆ text := by
  induction text generalizing piece with
  | nil =>
      have empty : piece = [] := by simpa [split_nil] using member
      simp [empty]
  | cons symbol rest inductionHypothesis =>
      rw [split_cons] at member
      split at member
      · rcases List.mem_cons.mp member with rfl | later
        · simp
        · obtain ⟨absent, within⟩ := inductionHypothesis later
          exact ⟨absent, List.subset_cons_of_subset symbol within⟩
      · rename_i different
        cases pieces : split separator rest with
        | nil => exact absurd pieces (split_ne_nil separator rest)
        | cons first others =>
            rw [pieces, joinFirst] at member
            rcases List.mem_cons.mp member with rfl | later
            · obtain ⟨absent, within⟩ := @inductionHypothesis first (by simp [pieces])
              refine ⟨?_, List.cons_subset_cons symbol within⟩
              simp [absent, Ne.symm different]
            · obtain ⟨absent, within⟩ := @inductionHypothesis piece (by simp [pieces, later])
              exact ⟨absent, List.subset_cons_of_subset symbol within⟩

end Splitting

theorem dropReturn_subset (line : List Char) : dropReturn line ⊆ line := by
  unfold dropReturn
  split
  · exact List.dropLast_subset line
  · exact List.Subset.refl line

theorem dropReturn_eq_iff {line : List Char} :
    dropReturn line = line ↔ line.getLast? ≠ some '\r' := by
  unfold dropReturn
  split
  · rename_i last
    have filled : line ≠ [] := by
      rintro rfl
      simp at last
    have shorter : line.dropLast.length < line.length := by
      rw [List.length_dropLast]
      have positive := List.length_pos_iff.mpr filled
      omega
    simp only [last, ne_eq, not_true_eq_false, iff_false]
    intro same
    rw [same] at shorter
    exact Nat.lt_irrefl _ shorter
  · rename_i other
    simp [other]

theorem dropReturn_of_not_mem {line : List Char} (absent : '\r' ∉ line) :
    dropReturn line = line :=
  dropReturn_eq_iff.mpr fun last => absent (List.mem_of_getLast? last)

theorem dropReturn_concat (line : List Char) : dropReturn (line ++ ['\r']) = line := by
  simp [dropReturn]

theorem endedLines_append {first second : List (List Char)} (filled : second ≠ []) :
    endedLines (first ++ second) = first.map dropReturn ++ endedLines second := by
  induction first with
  | nil => rfl
  | cons piece others inductionHypothesis =>
      rw [List.cons_append, endedLines, inductionHypothesis, List.map_cons, List.cons_append]
      intro last
      exact filled (List.append_eq_nil_iff.mp last).2

/-- The lines in front of a line feed were all ended. -/
theorem lines_append (first second : List Char) :
    lines (first ++ '\n' :: second) = (pieces first).map dropReturn ++ lines second := by
  rw [lines, pieces, split_append_cons]
  exact endedLines_append (pieces_ne_nil second)

/-- A symbol in front of a text that ends no line stands in front of its first line. -/
theorem lines_cons {symbol : Char} (noFeed : symbol ≠ '\n') (noReturn : symbol ≠ '\r')
    (rest : List Char) : ∃ line later, lines (symbol :: rest) = (symbol :: line) :: later ∧
      (lines rest = line :: later ∨ line = [] ∧ later = [] ∧ lines rest = []) := by
  rw [lines, lines, pieces_cons, if_neg noFeed]
  cases cut : pieces rest with
  | nil => exact absurd cut (pieces_ne_nil rest)
  | cons first others =>
      cases others with
      | nil =>
          refine ⟨first, [], rfl, ?_⟩
          cases first with
          | nil => exact Or.inr ⟨rfl, rfl, rfl⟩
          | cons next behind => exact Or.inl rfl
      | cons next later =>
          refine ⟨dropReturn first, endedLines (next :: later), ?_, Or.inl rfl⟩
          have kept : dropReturn (symbol :: first) = symbol :: dropReturn first := by
            cases first with
            | nil => simp [dropReturn, noReturn]
            | cons second behind =>
                unfold dropReturn
                rw [List.getLast?_cons_cons]
                split <;> rfl
          rw [joinFirst, endedLines, kept]
          simp

/-- The text with a carriage return in front of each line feed. -/
def withReturns (text : List Char) : List Char :=
  text.flatMap fun symbol => if symbol = '\n' then ['\r', '\n'] else [symbol]

/-- The endings of lines belong to no line. -/
theorem lines_withReturns {line text : List Char} (single : '\n' ∉ line) (plain : '\r' ∉ line)
    (plainText : '\r' ∉ text) : lines (line ++ withReturns text) = lines (line ++ text) := by
  induction text generalizing line with
  | nil => rfl
  | cons symbol rest inductionHypothesis =>
      have plainRest : '\r' ∉ rest := fun member => plainText (List.mem_cons_of_mem symbol member)
      by_cases ending : symbol = '\n'
      · subst ending
        have ended : dropReturn line = line := dropReturn_of_not_mem plain
        have later : lines (withReturns rest) = lines rest :=
          inductionHypothesis List.not_mem_nil List.not_mem_nil plainRest
        have front : line ++ withReturns ('\n' :: rest) =
            (line ++ ['\r']) ++ '\n' :: withReturns rest := by
          simp [withReturns]
        rw [front, lines_append, lines_append, pieces, split_of_not_mem (by simp [single]), pieces,
          split_of_not_mem single, List.map_singleton, List.map_singleton, dropReturn_concat, ended,
          later]
      · have different : symbol ≠ '\r' := fun same => plainText (by simp [same])
        have front : line ++ withReturns (symbol :: rest) =
            (line ++ [symbol]) ++ withReturns rest := by
          simp [withReturns, ending]
        rw [front, inductionHypothesis _ _ plainRest, List.append_assoc, List.singleton_append]
        · simp [single, Ne.symm ending]
        · simp [plain, Ne.symm different]

/-- A line holds symbols of its text, and no line feed is among them. -/
theorem mem_lines {text line : List Char} (member : line ∈ lines text) :
    '\n' ∉ line ∧ line ⊆ text := by
  have fromPiece (pieces : List (List Char)) (member : line ∈ endedLines pieces) :
      ∃ piece ∈ pieces, line ⊆ piece := by
    induction pieces with
    | nil => simp [endedLines] at member
    | cons piece others inductionHypothesis =>
        cases others with
        | nil =>
            refine ⟨piece, List.mem_cons_self, ?_⟩
            unfold endedLines at member
            split at member
            · simp at member
            · rw [List.mem_singleton.mp member]
              exact List.Subset.refl piece
        | cons next later =>
            rw [endedLines] at member
            · rcases List.mem_cons.mp member with rfl | rest
              · exact ⟨piece, List.mem_cons_self, dropReturn_subset piece⟩
              · obtain ⟨other, otherMember, within⟩ := inductionHypothesis rest
                exact ⟨other, List.mem_cons_of_mem piece otherMember, within⟩
            · simp
  obtain ⟨piece, pieceMember, within⟩ := fromPiece (pieces text) member
  obtain ⟨absent, inside⟩ := mem_split pieceMember
  exact ⟨fun lineFeed => absent (within lineFeed), List.Subset.trans within inside⟩

section Writing

variable {written : List (List Char)}

theorem unlines_eq_nil_iff : unlines written = [] ↔ written = [] := by
  cases written <;> simp [unlines]

theorem unlines_append (first second : List (List Char)) :
    unlines (first ++ second) = unlines first ++ unlines second :=
  List.flatMap_append

theorem pieces_unlines (single : ∀ line ∈ written, '\n' ∉ line) :
    pieces (unlines written) = written ++ [[]] := by
  induction written with
  | nil => rfl
  | cons line others inductionHypothesis =>
      rw [unlines_cons, pieces, split_append (single line List.mem_cons_self)]
      have later := inductionHypothesis fun other member =>
        single other (List.mem_cons_of_mem line member)
      rw [pieces] at later
      rw [later]
      rfl

/-- Lines without line ends of their own come back from the text that they were written to. -/
theorem lines_unlines (single : ∀ line ∈ written, '\n' ∉ line)
    (plain : ∀ line ∈ written, '\r' ∉ line) : lines (unlines written) = written := by
  have ended (written : List (List Char)) (plain : ∀ line ∈ written, '\r' ∉ line) :
      endedLines (written ++ [[]]) = written := by
    induction written with
    | nil => rfl
    | cons line others inductionHypothesis =>
        rw [List.cons_append, endedLines]
        · rw [dropReturn_of_not_mem (plain line List.mem_cons_self), inductionHypothesis]
          exact fun other member => plain other (List.mem_cons_of_mem line member)
        · simp
  rw [lines, pieces_unlines single, ended written plain]

/-- A part of written lines is written of the first of them when it ends with a line feed that is
not within a line. What is in front of a line feed says whether it is: the one behind a line is
not. -/
theorem exists_of_unlines_eq_append {ends : List Char → Prop}
    (within : ∀ line ∈ written, ∀ front back, line = front ++ '\n' :: back → ¬ ends front)
    (later : ∀ line ∈ written, ∀ front, ends (line ++ '\n' :: front) → ends front)
    {front back : List Char} (same : unlines written = front ++ '\n' :: back) (last : ends front) :
    ∃ first second, written = first ++ second ∧ front ++ ['\n'] = unlines first ∧
      back = unlines second := by
  induction written generalizing front with
  | nil => simp [unlines] at same
  | cons line others inductionHypothesis =>
      rw [unlines_cons] at same
      rcases List.append_eq_append_iff.mp same with
        ⟨extra, frontEq, restEq⟩ | ⟨extra, lineEq, restEq⟩
      · cases extra with
        | nil =>
            refine ⟨[line], others, rfl, by simp [frontEq, unlines], ?_⟩
            simpa using restEq.symm
        | cons symbol extra =>
            obtain ⟨rfl, behind⟩ := List.cons_eq_cons.mp restEq
            have lastExtra : ends extra := later line List.mem_cons_self extra (frontEq ▸ last)
            obtain ⟨first, second, split, frontSame, backSame⟩ := inductionHypothesis
              (fun other member => within other (List.mem_cons_of_mem line member))
              (fun other member => later other (List.mem_cons_of_mem line member)) behind lastExtra
            refine ⟨line :: first, second, by rw [split, List.cons_append], ?_, backSame⟩
            rw [unlines_cons, ← frontSame, frontEq]
            simp
      · cases extra with
        | nil =>
            refine ⟨[line], others, rfl, by simp [lineEq, unlines], ?_⟩
            simpa using restEq
        | cons symbol extra =>
            obtain ⟨rfl, -⟩ := List.cons_eq_cons.mp restEq
            exact absurd last (within line List.mem_cons_self front extra lineEq)

end Writing

section Joining

variable {written : List (List Char)}

theorem joinPieces_cons (piece : List Char) (filled : written ≠ []) :
    joinPieces (piece :: written) = piece ++ '\n' :: joinPieces written := by
  cases written with
  | nil => exact absurd rfl filled
  | cons next later => rfl

theorem joinPieces_append_cons (front : List (List Char)) (last next : List Char)
    (later : List (List Char)) :
    joinPieces (front ++ (last ++ next) :: later) =
      joinPieces (front ++ [last]) ++ joinPieces (next :: later) := by
  induction front with
  | nil => cases later <;> simp [joinPieces]
  | cons piece others inductionHypothesis =>
      rw [List.cons_append, List.cons_append, joinPieces_cons piece (by simp),
        joinPieces_cons piece (by simp), inductionHypothesis, List.append_assoc, List.cons_append]

theorem joinPieces_eq_intercalate (written : List (List Char)) :
    joinPieces written = ['\n'].intercalate written := by
  induction written with
  | nil => rfl
  | cons piece others inductionHypothesis =>
      cases others with
      | nil => simp [joinPieces]
      | cons next later =>
          rw [joinPieces_cons piece (by simp), inductionHypothesis, List.intercalate_cons_cons,
            List.append_assoc, List.singleton_append]

theorem pieces_joinPieces (filled : written ≠ []) (single : ∀ piece ∈ written, '\n' ∉ piece) :
    pieces (joinPieces written) = written := by
  rw [joinPieces_eq_intercalate]
  exact split_intercalate filled single

/-- A piece that is cut again gives more pieces, and never fewer. -/
theorem length_le_pieces_joinPieces (written : List (List Char)) :
    written.length ≤ (pieces (joinPieces written)).length := by
  induction written with
  | nil => exact Nat.zero_le _
  | cons piece others inductionHypothesis =>
      have first : 0 < (pieces piece).length := List.length_pos_iff.mpr (pieces_ne_nil piece)
      cases others with
      | nil => exact first
      | cons next later =>
          rw [joinPieces_cons piece (by simp), pieces, split_append_cons, List.length_append,
            List.length_cons, Nat.add_comm]
          exact Nat.add_le_add first inductionHypothesis

theorem unlines_eq_joinPieces (filled : written ≠ []) :
    unlines written = joinPieces written ++ ['\n'] := by
  induction written with
  | nil => exact absurd rfl filled
  | cons line others inductionHypothesis =>
      rw [unlines_cons]
      cases others with
      | nil => rfl
      | cons next later =>
          rw [inductionHypothesis (by simp), joinPieces_cons line (by simp), List.append_assoc,
            List.cons_append]

end Joining

end BenchmarkReport.Text
