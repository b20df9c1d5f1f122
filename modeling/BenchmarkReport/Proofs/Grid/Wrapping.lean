/-
This file shows that a word that is wider than its column takes several lines.
-/

import Mathlib.Algebra.Order.Ring.Nat
import Mathlib.Algebra.BigOperators.Group.List.Basic
import BenchmarkReport.Grid.Printer
import BenchmarkReport.Proofs.Text.Width

namespace BenchmarkReport.Grid

open Text

theorem words_of_not_mem {line : List Char} (absent : ' ' ∉ line) : words line = [line] := by
  induction line with
  | nil => rfl
  | cons symbol rest inductionHypothesis =>
      have later : ' ' ∉ rest := fun member => absent (List.mem_cons_of_mem symbol member)
      have different : symbol ≠ ' ' := fun same => absent (by simp [same])
      rw [words, if_neg different, inductionHypothesis later]

section Words

variable {width : Nat} {word line : List Char}

theorem takeFitting_width (width : Nat) (clusters : List (List Char)) :
    ((takeFitting width clusters).1.map displayWidth).sum ≤ width := by
  induction clusters generalizing width with
  | nil => exact Nat.zero_le width
  | cons cluster rest inductionHypothesis =>
      rw [takeFitting]
      split
      · have taken := inductionHypothesis (width - displayWidth cluster)
        simp only [List.map_cons, List.sum_cons]
        omega
      · exact Nat.zero_le width

/-- What is taken of a word of single places has no more symbols than there are places. -/
theorem length_splitWord_le (narrow : ∀ symbol ∈ word, isNarrow symbol = true) :
    (splitWord width word).1.length ≤ width := by
  have within : ∀ cluster ∈ (takeFitting width (clusters word)).1,
      displayWidth cluster = cluster.length := by
    intro cluster member
    have inWord : cluster ∈ clusters word := by
      rw [← takeFitting_append width (clusters word)]
      exact List.mem_append_left _ member
    refine displayWidth_narrow fun symbol inCluster => narrow symbol ?_
    rw [← clusters_flatten word]
    exact List.mem_flatten_of_mem inWord inCluster
  calc (splitWord width word).1.length
      = ((takeFitting width (clusters word)).1.map List.length).sum := List.length_flatten
    _ = ((takeFitting width (clusters word)).1.map displayWidth).sum := by
        rw [List.map_congr_left within]
    _ ≤ width := takeFitting_width width (clusters word)

/-- A part of a wide word is left for the next line. -/
theorem splitOverlong_left (narrow : ∀ symbol ∈ word, isNarrow symbol = true)
    (several : 1 < word.length) (wide : width < word.length) :
    (splitOverlong width word).2 ≠ [] := by
  have taken : (splitWord width word).1.length ≤ width := length_splitWord_le narrow
  have whole := congrArg List.length (splitWord_append width word)
  rw [List.length_append] at whole
  unfold splitOverlong
  dsimp only
  split
  · rename_i nothing
    rw [List.isEmpty_iff.mp nothing, List.length_nil] at whole
    intro empty
    have dropped := congrArg List.length empty
    rw [List.length_drop, List.length_nil] at dropped
    omega
  · intro empty
    have left : (splitWord width word).2.length = 0 := congrArg List.length empty
    omega

/-- A line that has been started is not lost. -/
theorem wrapWords_started (width : Nat) (started : line ≠ []) (rest : List (List Char)) :
    wrapWords width line rest ≠ [] := by
  induction rest generalizing line with
  | nil => simp [wrapWords, started]
  | cons word later inductionHypothesis =>
      have joined := @inductionHypothesis (line ++ ' ' :: word) (by simp)
      rw [wrapWords, if_neg (by simpa using started)]
      dsimp only
      split
      · split
        · exact List.cons_ne_nil _ _
        · exact joined
      · -- The word does not fit any more, so the line is written now.
        repeat' split
        all_goals exact List.cons_ne_nil _ _

theorem wrapWords_filled (width : Nat) (filled : word ≠ []) (later : List (List Char)) :
    wrapWords width [] (word :: later) ≠ [] := by
  rw [wrapWords, if_pos List.isEmpty_nil]
  split
  · split
    · exact List.cons_ne_nil _ _
    · exact wrapWords_started width filled later
  · rw [if_neg (by simpa using filled)]
    exact List.cons_ne_nil _ _

/-- A word of single places that is wider than its line takes at least two lines. -/
theorem two_le_wrapLine (narrow : ∀ symbol ∈ word, isNarrow symbol = true) (unbroken : ' ' ∉ word)
    (several : 1 < word.length) (wide : width < word.length) :
    2 ≤ (wrapLine width word).length := by
  have tooWide : ¬ displayWidth word ≤ width := by
    rw [displayWidth_narrow narrow]
    omega
  have filled : word.isEmpty = false := by
    cases word with
    | nil => exact absurd several (by simp)
    | cons symbol rest => rfl
  have left := wrapWords_filled width (splitOverlong_left narrow several wide) []
  have cut : wrapWords width [] [word] =
      (splitOverlong width word).1 :: wrapWords width [] [(splitOverlong width word).2] := by
    rw [wrapWords]
    simp [tooWide, filled]
  rw [wrapLine, if_neg tooWide, words_of_not_mem unbroken, cut, List.length_cons]
  exact Nat.succ_le_succ (List.length_pos_iff.mpr left)

end Words

/-- A row has at least as many lines as each of its cells. -/
theorem length_le_rowLines {widths : List Nat} {cells : List TextCell} {cell : TextCell}
    (alignment : Alignment) (strokes : Strokes)
    (member : cell ∈ List.zipWith TextCell.wrap widths cells) :
    cell.lines.length ≤ (rowLines alignment strokes widths cells).length := by
  unfold rowLines
  dsimp only
  rw [List.length_map, List.length_range]
  exact (foldl_max_bounds (fun cell : TextCell => cell.lines.length) _ 0).2 cell member

end BenchmarkReport.Grid
