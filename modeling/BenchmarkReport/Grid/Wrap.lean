/-
This file breaks a line of text into lines of a given width.
-/

import BenchmarkReport.Text.Cluster
import BenchmarkReport.Text.Width

namespace BenchmarkReport.Grid

open Text

/-- The pieces of a text between its blanks. -/
def words : List Char → List (List Char)
  | [] => [[]]
  | symbol :: rest =>
    if symbol = ' ' then [] :: words rest
    else match words rest with
      | [] => [[symbol]]
      | first :: others => (symbol :: first) :: others

/-- The leading clusters that fit into a width, and the others. -/
def takeFitting (width : Nat) : List (List Char) → List (List Char) × List (List Char)
  | [] => ([], [])
  | cluster :: rest =>
    if displayWidth cluster ≤ width then
      let (taken, left) := takeFitting (width - displayWidth cluster) rest
      (cluster :: taken, left)
    else ([], cluster :: rest)

/-- As much of a word as fits into a width, and the rest of it. -/
def splitWord (width : Nat) (word : List Char) : List Char × List Char :=
  let (taken, left) := takeFitting width (clusters word)
  (taken.flatten, left.flatten)

/-- An empty line takes at least one character, whatever its width. -/
def splitOverlong (width : Nat) (word : List Char) : List Char × List Char :=
  let (taken, left) := splitWord width word
  if taken.isEmpty then (left.take 1, left.drop 1) else (taken, left)

theorem takeFitting_append (width : Nat) (clusters : List (List Char)) :
    (takeFitting width clusters).1 ++ (takeFitting width clusters).2 = clusters := by
  induction clusters generalizing width with
  | nil => rfl
  | cons cluster rest inductionHypothesis =>
      rw [takeFitting]
      split
      · simpa using inductionHypothesis (width - displayWidth cluster)
      · rfl

theorem splitWord_append (width : Nat) (word : List Char) :
    (splitWord width word).1 ++ (splitWord width word).2 = word := by
  have whole := congrArg List.flatten (takeFitting_append width (clusters word))
  rwa [List.flatten_append, clusters_flatten] at whole

theorem splitOverlong_append (width : Nat) (word : List Char) :
    (splitOverlong width word).1 ++ (splitOverlong width word).2 = word := by
  have whole := splitWord_append width word
  unfold splitOverlong
  split
  rename_i taken left parts
  rw [parts] at whole
  split
  · rename_i empty
    rw [List.isEmpty_iff.mp empty] at whole
    rw [List.take_append_drop]
    simpa using whole
  · exact whole

theorem splitWord_length_le (width : Nat) (word : List Char) :
    (splitWord width word).2.length ≤ word.length := by
  have lengths := congrArg List.length (splitWord_append width word)
  rw [List.length_append] at lengths
  omega

theorem splitOverlong_length_lt (width : Nat) {word : List Char} (filled : word ≠ []) :
    (splitOverlong width word).2.length < word.length := by
  have lengths := congrArg List.length (splitOverlong_append width word)
  have taken : (splitOverlong width word).1 ≠ [] := by
    have whole := splitWord_append width word
    unfold splitOverlong
    split
    rename_i taken left parts
    rw [parts] at whole
    split
    · rename_i empty
      cases left with
      | nil => simp_all
      | cons symbol rest => simp
    · simp_all
  have positive : 0 < (splitOverlong width word).1.length := List.length_pos_iff.mpr taken
  rw [List.length_append] at lengths
  omega

/-- A line with so few free places is full. -/
def spareWidth : Nat := 2

def isFull (width : Nat) (line : List Char) : Bool :=
  width - spareWidth < displayWidth line

/-- The number of characters of some words with a blank after each. -/
def blankedLength : List (List Char) → Nat
  | [] => 0
  | word :: rest => word.length + 1 + blankedLength rest

/-- A line is filled with words as long as they fit. A word that is wider than a line is cut. -/
def wrapWords (width : Nat) (line : List Char) (rest : List (List Char)) : List (List Char) :=
  match rest with
  | [] => if line.isEmpty then [] else [line]
  | word :: later =>
    if line.isEmpty then
      if displayWidth word ≤ width then
        if isFull width word then word :: wrapWords width [] later
        else wrapWords width word later
      else if word.isEmpty then wrapWords width [] later
      else
        (splitOverlong width word).1 ::
          wrapWords width [] ((splitOverlong width word).2 :: later)
    else
      let room := width - displayWidth line - 1
      if displayWidth line + 1 + displayWidth word ≤ width then
        let joined := line ++ ' ' :: word
        if isFull width joined then joined :: wrapWords width [] later
        else wrapWords width joined later
      else if room ≤ spareWidth then line :: wrapWords width [] (word :: later)
      else if width < displayWidth word then
        (line ++ ' ' :: (splitWord room word).1) ::
          wrapWords width [] ((splitWord room word).2 :: later)
      else if isFull width word then line :: word :: wrapWords width [] later
      else line :: wrapWords width word later
termination_by 2 * blankedLength rest + if line.isEmpty then 0 else 1
decreasing_by
  all_goals simp only [blankedLength, List.isEmpty_nil, if_true]
  · omega
  · split <;> omega
  · omega
  · rename_i filled
    have shorter := @splitOverlong_length_lt width word (by simpa using filled)
    omega
  · omega
  · split <;> omega
  · rw [if_neg ‹_›]
    omega
  · have notLonger := splitWord_length_le (width - displayWidth line - 1) word
    rw [if_neg ‹_›]
    omega
  · omega
  · split <;> omega

/-- A line that is wide enough for its text stays as it is. -/
def wrapLine (width : Nat) (line : List Char) : List (List Char) :=
  if displayWidth line ≤ width then [line] else wrapWords width [] (words line)

theorem wrapLine_of_fits {width : Nat} {line : List Char} (fits : displayWidth line ≤ width) :
    wrapLine width line = [line] := by
  simp [wrapLine, fits]

end BenchmarkReport.Grid
