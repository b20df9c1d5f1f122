/-
This file says what is left of the text of a cell when the lines of a file are filtered before the
cell is known to be one: its first line and its last line stay, blank lines between them are lost,
and so is the carriage return in front of each line feed.
-/

import BenchmarkReport.Delimited.Record
import BenchmarkReport.Proofs.Text.Lines
import BenchmarkReport.Text.Blank

namespace BenchmarkReport.Delimited

open Text

/-- What is left of a line that is not the last. -/
def kept (line : List Char) : List (List Char) :=
  if isBlankLine line then [] else [dropReturn line]

/-- What is left of the lines behind the first. -/
def settledLater : List (List Char) → List (List Char)
  | [] => []
  | [last] => [last]
  | line :: rest => kept line ++ settledLater rest

/-- What is left of the lines of a cell. -/
def settledPieces : List (List Char) → List (List Char)
  | [] => []
  | [only] => [only]
  | first :: rest => dropReturn first :: settledLater rest

/-- What is left of a cell. -/
def settle (cell : List Char) : List Char :=
  joinPieces (settledPieces (pieces cell))

/-- Nothing of such a cell is lost. -/
structure Survives (cell : List Char) : Prop where
  returns : ∀ line ∈ (pieces cell).dropLast, line.getLast? ≠ some '\r'
  blanks : ∀ line ∈ (pieces cell).tail.dropLast, isBlankLine line = false

section Returns

variable {line : List Char}

theorem dropReturn_append_cons {symbol : Char} (filled : isBlank symbol = false)
    (front back : List Char) :
    dropReturn (front ++ symbol :: back) = front ++ symbol :: dropReturn back := by
  have different : symbol ≠ '\r' := by
    rintro rfl
    exact absurd filled (by decide)
  cases back with
  | nil =>
      apply dropReturn_eq_iff.mpr
      simpa using different
  | cons next later =>
      have last : (front ++ symbol :: next :: later).getLast? = (next :: later).getLast? := by
        simp [List.getLast?_cons]
      unfold dropReturn
      rw [last]
      split <;> simp

theorem isBlankLine_dropReturn (line : List Char) :
    isBlankLine (dropReturn line) = isBlankLine line := by
  unfold dropReturn
  split
  · rename_i last
    obtain ⟨front, rfl⟩ := List.getLast?_eq_some_iff.mp last
    rw [List.dropLast_concat, isBlankLine_append]
    exact (Bool.and_true _).symm
  · rfl

theorem not_isBlankLine_append_cons {symbol : Char} (filled : isBlank symbol = false)
    (front back : List Char) : isBlankLine (front ++ symbol :: back) = false := by
  simp [isBlankLine, filled]

end Returns

section Pieces

variable {lines : List (List Char)}

theorem settledLater_cons (line : List Char) (filled : lines ≠ []) :
    settledLater (line :: lines) = kept line ++ settledLater lines := by
  cases lines with
  | nil => exact absurd rfl filled
  | cons next later => rfl

theorem settledPieces_cons (first : List Char) (filled : lines ≠ []) :
    settledPieces (first :: lines) = dropReturn first :: settledLater lines := by
  cases lines with
  | nil => exact absurd rfl filled
  | cons next later => rfl

theorem settledLater_append (front : List (List Char)) (filled : lines ≠ []) :
    settledLater (front ++ lines) = front.flatMap kept ++ settledLater lines := by
  induction front with
  | nil => rfl
  | cons line others inductionHypothesis =>
      rw [List.cons_append, settledLater_cons line (by simp [filled]), inductionHypothesis,
        List.flatMap_cons, List.append_assoc]

theorem kept_filled {line : List Char} (filled : isBlankLine line = false) :
    kept line = [dropReturn line] := by
  rw [kept, filled]
  rfl

/-- A symbol that is not blank keeps what is left in front of it apart from what is left behind
it. -/
theorem exists_settledPieces {symbol : Char} (filled : isBlank symbol = false)
    (front : List (List Char)) (last next : List Char) (later : List (List Char)) :
    ∃ settledFront settledNext settledRest,
      settledPieces (front ++ [last]) = settledFront ++ [last] ∧
      settledPieces (next :: later) = settledNext :: settledRest ∧
      settledPieces (front ++ (last ++ symbol :: next) :: later) =
        settledFront ++ (last ++ symbol :: settledNext) :: settledRest := by
  have joined : kept (last ++ symbol :: next) = [last ++ symbol :: dropReturn next] := by
    rw [kept_filled (not_isBlankLine_append_cons filled last next),
      dropReturn_append_cons filled last next]
  cases front with
  | nil =>
      cases later with
      | nil => exact ⟨[], next, [], rfl, rfl, rfl⟩
      | cons line others =>
          refine ⟨[], dropReturn next, settledLater (line :: others), rfl, rfl, ?_⟩
          rw [List.nil_append, settledPieces_cons _ (by simp),
            dropReturn_append_cons filled last next]
          rfl
  | cons first between =>
      have start : settledPieces (first :: between ++ [last]) =
          (dropReturn first :: between.flatMap kept) ++ [last] := by
        rw [List.cons_append, settledPieces_cons first (by simp),
          settledLater_append between (by simp)]
        rfl
      cases later with
      | nil =>
          refine ⟨_, next, [], start, rfl, ?_⟩
          rw [List.cons_append, settledPieces_cons first (by simp),
            settledLater_append between (by simp)]
          rfl
      | cons line others =>
          refine ⟨_, dropReturn next, settledLater (line :: others), start, rfl, ?_⟩
          rw [List.cons_append, settledPieces_cons first (by simp),
            settledLater_append between (by simp), settledLater_cons _ (by simp), joined]
          rfl

end Pieces

section Cells

variable {cell : List Char}

theorem joinPieces_pieces (text : List Char) : joinPieces (pieces text) = text := by
  induction text with
  | nil => rfl
  | cons symbol rest inductionHypothesis =>
      rw [pieces_cons]
      split
      · rename_i ending
        rw [joinPieces_cons [] (pieces_ne_nil rest), inductionHypothesis, ending, List.nil_append]
      · rw [joinPieces_joinFirst, inductionHypothesis]

/-- Nothing between two symbols that are not blank is lost because of what stands outside. -/
theorem settle_append_cons {symbol : Char} (filled : isBlank symbol = false)
    (first second : List Char) :
    settle (first ++ symbol :: second) = settle first ++ symbol :: settle second := by
  have different : symbol ≠ '\n' := by
    rintro rfl
    exact absurd filled (by decide)
  obtain ⟨front, last, firstPieces⟩ := exists_last_piece '\n' first
  cases secondPieces : split '\n' second with
  | nil => exact absurd secondPieces (split_ne_nil '\n' second)
  | cons next later =>
      have behind : split '\n' (symbol :: second) = (symbol :: next) :: later := by
        rw [split_cons, if_neg different, secondPieces]
        rfl
      have whole : pieces (first ++ symbol :: second) =
          front ++ (last ++ symbol :: next) :: later :=
        split_append_eq firstPieces behind
      obtain ⟨settledFront, settledNext, settledRest, settledFirst, settledSecond, settledWhole⟩ :=
        exists_settledPieces filled front last next later
      have started : joinPieces ((symbol :: settledNext) :: settledRest) =
          symbol :: joinPieces (settledNext :: settledRest) :=
        joinPieces_joinFirst symbol (settledNext :: settledRest)
      rw [settle, settle, settle, whole, pieces, firstPieces, pieces, secondPieces, settledFirst,
        settledSecond, settledWhole, joinPieces_append_cons, started]

theorem settle_cons {symbol : Char} (filled : isBlank symbol = false) (rest : List Char) :
    settle (symbol :: rest) = symbol :: settle rest :=
  settle_append_cons filled [] rest

theorem settle_concat {symbol : Char} (filled : isBlank symbol = false) (front : List Char) :
    settle (front ++ [symbol]) = settle front ++ [symbol] :=
  settle_append_cons filled front []

theorem settle_of_single (single : '\n' ∉ cell) : settle cell = cell := by
  rw [settle, pieces, split_of_not_mem single]
  rfl

theorem settledPieces_ne_nil {lines : List (List Char)} (filled : lines ≠ []) :
    settledPieces lines ≠ [] := by
  match lines with
  | [] => exact absurd rfl filled
  | [only] => exact List.cons_ne_nil only []
  | first :: next :: later => exact List.cons_ne_nil _ _

theorem mem_settledLater {lines : List (List Char)} {line : List Char}
    (member : line ∈ settledLater lines) : ∃ original ∈ lines, line ⊆ original := by
  fun_induction settledLater lines with
  | case1 => simp at member
  | case2 last => exact ⟨last, List.mem_cons_self, by rw [List.mem_singleton.mp member]; simp⟩
  | case3 first rest several inductionHypothesis =>
      rcases List.mem_append.mp member with front | behind
      · refine ⟨first, List.mem_cons_self, ?_⟩
        unfold kept at front
        split at front
        · simp at front
        · rw [List.mem_singleton.mp front]
          exact dropReturn_subset first
      · obtain ⟨original, originalMember, within⟩ := inductionHypothesis behind
        exact ⟨original, List.mem_cons_of_mem first originalMember, within⟩

/-- What is left of a line was there. -/
theorem mem_settledPieces {lines : List (List Char)} {line : List Char}
    (member : line ∈ settledPieces lines) : ∃ original ∈ lines, line ⊆ original := by
  match lines with
  | [] => simp [settledPieces] at member
  | [only] => exact ⟨only, List.mem_cons_self, by rw [List.mem_singleton.mp member]; simp⟩
  | first :: next :: later =>
      rcases List.mem_cons.mp member with rfl | behind
      · exact ⟨first, List.mem_cons_self, dropReturn_subset first⟩
      · obtain ⟨original, originalMember, within⟩ := mem_settledLater behind
        exact ⟨original, List.mem_cons_of_mem first originalMember, within⟩

theorem single_settledPieces (cell : List Char) :
    ∀ line ∈ settledPieces (pieces cell), '\n' ∉ line := by
  intro line member lineFeed
  obtain ⟨original, originalMember, within⟩ := mem_settledPieces member
  exact (mem_split originalMember).1 (within lineFeed)

theorem pieces_settle (cell : List Char) : pieces (settle cell) = settledPieces (pieces cell) :=
  pieces_joinPieces (settledPieces_ne_nil (pieces_ne_nil cell)) (single_settledPieces cell)

theorem not_mem_settle {symbol : Char} (absent : symbol ∉ cell) (noFeed : symbol ≠ '\n') :
    symbol ∉ settle cell := by
  intro member
  rcases @exists_piece_of_mem '\n' _ _ member with feed | ⟨line, lineMember, inLine⟩
  · exact noFeed feed
  · have settled : line ∈ settledPieces (pieces cell) := pieces_settle cell ▸ lineMember
    obtain ⟨original, originalMember, within⟩ := mem_settledPieces settled
    exact absent ((mem_split originalMember).2 (within inLine))

theorem settledLater_ne_nil {lines : List (List Char)} (filled : lines ≠ []) :
    settledLater lines ≠ [] := by
  fun_induction settledLater lines with
  | case1 => exact absurd rfl filled
  | case2 last => exact List.cons_ne_nil last []
  | case3 line rest several inductionHypothesis =>
      intro none
      exact inductionHypothesis several (List.append_eq_nil_iff.mp none).2

/-- Where there were several lines there are several lines left. -/
theorem lineFeed_mem_settle (several : '\n' ∈ cell) : '\n' ∈ settle cell := by
  apply Decidable.byContradiction
  intro single
  have one : settledPieces (pieces cell) = [settle cell] := by
    rw [← pieces_settle, pieces, split_of_not_mem single]
  cases lines : pieces cell with
  | nil => exact pieces_ne_nil cell lines
  | cons first others =>
      cases others with
      | nil =>
          have whole : cell = first := by rw [← joinPieces_pieces cell, lines]; rfl
          have member : first ∈ pieces cell := lines ▸ List.mem_cons_self
          exact (mem_split member).1 (whole ▸ several)
      | cons next later =>
          rw [lines, settledPieces_cons first (by simp)] at one
          exact settledLater_ne_nil (List.cons_ne_nil next later) (List.cons_eq_cons.mp one).2

end Cells

section Survival

variable {lines : List (List Char)}

theorem settledLater_length_le (lines : List (List Char)) :
    (settledLater lines).length ≤ lines.length := by
  fun_induction settledLater lines with
  | case1 => simp
  | case2 last => simp
  | case3 line rest several inductionHypothesis =>
      have one : (kept line).length ≤ 1 := by
        unfold kept
        split <;> simp
      rw [List.length_append, List.length_cons]
      omega

/-- A blank line leaves fewer lines behind. -/
theorem settledLater_eq_iff : settledLater lines = lines ↔
    ∀ line ∈ lines.dropLast, isBlankLine line = false ∧ line.getLast? ≠ some '\r' := by
  induction lines with
  | nil => simp [settledLater]
  | cons line others inductionHypothesis =>
      cases others with
      | nil => simp [settledLater]
      | cons next later =>
          rw [settledLater_cons line (by simp), List.dropLast_cons_of_ne_nil (by simp),
            List.forall_mem_cons, ← inductionHypothesis]
          cases blank : isBlankLine line with
          | true =>
              have fewer := settledLater_length_le (next :: later)
              have nothing : kept line = [] := by rw [kept, blank]; rfl
              rw [nothing, List.nil_append]
              simp only [Bool.true_eq_false, false_and, iff_false]
              intro same
              rw [same, List.length_cons] at fewer
              omega
          | false =>
              rw [kept_filled blank, List.singleton_append, List.cons_eq_cons, dropReturn_eq_iff]
              simp

theorem settledPieces_eq_iff : settledPieces lines = lines ↔
    (∀ line ∈ lines.dropLast, line.getLast? ≠ some '\r') ∧
      ∀ line ∈ lines.tail.dropLast, isBlankLine line = false := by
  match lines with
  | [] => simp [settledPieces]
  | [only] => simp [settledPieces]
  | first :: next :: later =>
      have front : (first :: next :: later).dropLast = first :: (next :: later).dropLast := rfl
      rw [settledPieces_cons first (by simp), List.cons_eq_cons, dropReturn_eq_iff,
        settledLater_eq_iff, front, List.forall_mem_cons, List.tail_cons]
      constructor
      · rintro ⟨start, rest⟩
        exact ⟨⟨start, fun line member => (rest line member).2⟩,
          fun line member => (rest line member).1⟩
      · rintro ⟨⟨start, returns⟩, blanks⟩
        exact ⟨start, fun line member => ⟨blanks line member, returns line member⟩⟩

/-- A cell stays what it is just when all of its lines do. -/
theorem settle_eq_iff (cell : List Char) : settle cell = cell ↔ Survives cell := by
  have samePieces : settle cell = cell ↔ settledPieces (pieces cell) = pieces cell := by
    constructor
    · intro same
      rw [← pieces_settle, same]
    · intro same
      rw [settle, same, joinPieces_pieces]
  rw [samePieces, settledPieces_eq_iff]
  exact ⟨fun kept => ⟨kept.1, kept.2⟩, fun survives => ⟨survives.returns, survives.blanks⟩⟩

instance : DecidablePred Survives := fun cell => decidable_of_iff _ (settle_eq_iff cell)

end Survival

section Records

/-- Where no line is lost at either end, the lines that are not blank are those that are left. -/
theorem settledPieces_eq_filter {front : List (List Char)} {last : List Char}
    (starts : ∀ first, front.head? = some first → isBlankLine first = false)
    (ends : isBlankLine last = false) (noReturn : dropReturn last = last) :
    settledPieces (front ++ [last]) =
      ((front ++ [last]).map dropReturn).filter (!isBlankLine ·) := by
  have between (lines : List (List Char)) :
      (lines.map dropReturn).filter (!isBlankLine ·) = lines.flatMap kept := by
    induction lines with
    | nil => rfl
    | cons line others inductionHypothesis =>
        rw [List.map_cons, List.filter_cons, inductionHypothesis, List.flatMap_cons, kept,
          isBlankLine_dropReturn]
        cases isBlankLine line <;> rfl
  have whole : ((front ++ [last]).map dropReturn).filter (!isBlankLine ·) =
      front.flatMap kept ++ [last] := by
    rw [between, List.flatMap_append, List.flatMap_singleton, kept_filled ends, noReturn]
  rw [whole]
  cases front with
  | nil => rfl
  | cons first others =>
      rw [List.cons_append, settledPieces_cons first (by simp),
        settledLater_append others (by simp), List.flatMap_cons, kept_filled (starts first rfl)]
      rfl

/-- Of a record between two symbols that are not blank the same is left as of a cell. -/
theorem unlines_filter_pieces {first last : Char} (starts : isBlank first = false)
    (ends : isBlank last = false) (middle : List Char) :
    unlines (((pieces (first :: middle ++ [last])).map dropReturn).filter (!isBlankLine ·)) =
      settle (first :: middle ++ [last]) ++ ['\n'] := by
  have firstFeed : first ≠ '\n' := by
    rintro rfl
    exact absurd starts (by decide)
  have lastFeed : last ≠ '\n' := by
    rintro rfl
    exact absurd ends (by decide)
  have started : ∀ line, (pieces (first :: middle ++ [last])).head? = some line →
      isBlankLine line = false := by
    intro line head
    rw [List.cons_append, pieces_cons, if_neg firstFeed] at head
    cases rest : pieces (middle ++ [last]) with
    | nil => exact absurd rest (pieces_ne_nil _)
    | cons next later =>
        rw [rest] at head
        rw [← Option.some.inj head]
        exact not_isBlankLine_append_cons starts [] next
  obtain ⟨front, piece, -, shape⟩ := split_concat lastFeed (first :: middle)
  have whole : pieces (first :: middle ++ [last]) = front ++ [piece ++ [last]] := shape
  have settled : settledPieces (front ++ [piece ++ [last]]) =
      ((front ++ [piece ++ [last]]).map dropReturn).filter (!isBlankLine ·) :=
    settledPieces_eq_filter
      (fun line head => started line (by rw [whole, List.head?_append, head]; rfl))
      (not_isBlankLine_append_cons ends piece []) (dropReturn_append_cons ends piece [])
  rw [settle, whole, ← settled, unlines_eq_joinPieces (settledPieces_ne_nil (by simp))]

end Records

end BenchmarkReport.Delimited
