/-
This file shows how a row is written whose texts fit into their columns: on one line, each text at
the end of its column and between blanks.
-/

import Mathlib.Algebra.Order.Ring.Nat
import Mathlib.Data.List.Forall2
import BenchmarkReport.Grid.Printer
import BenchmarkReport.Proofs.Text.Lines
import BenchmarkReport.Proofs.Text.Width

namespace BenchmarkReport.Grid

open Text

/-- Each text stands at the right of its room, with a blank behind it. -/
def alignedLine : List Nat → List (List Char) → List Char
  | room :: rooms, entry :: entries => align .right room entry ++ ' ' :: alignedLine rooms entries
  | _, _ => []

/-- The place where a room ends. One more place lies behind each room. -/
def roomEnd (rooms : List Nat) (index : Nat) : Nat :=
  ((rooms.take index).map (· + 1)).sum + rooms.getD index 0

section Lines

variable {rooms : List Nat} {entries : List (List Char)}

theorem displayWidth_align {room : Nat} {entry : List Char} (fits : displayWidth entry ≤ room) :
    displayWidth (align .right room entry) = room := by
  rw [align, displayWidth_blanks]
  omega

theorem displayWidth_alignedLine
    (fits : List.Forall₂ (fun room entry => displayWidth entry < room) rooms entries) :
    displayWidth (alignedLine rooms entries) = (rooms.map (· + 1)).sum := by
  induction fits with
  | nil => rfl
  | cons first others inductionHypothesis =>
      rw [alignedLine, displayWidth_append_blank, displayWidth_align (Nat.le_of_lt first),
        inductionHypothesis, List.map_cons, List.sum_cons]

/-- A blank is left in a room that is wider than its text. -/
theorem blank_before_align {room : Nat} {entry : List Char} (fits : displayWidth entry < room) :
    (' ' :: entry) <:+ align .right room entry := by
  obtain ⟨blanks, enough⟩ : ∃ blanks, room - displayWidth entry = blanks + 1 :=
    ⟨room - displayWidth entry - 1, by omega⟩
  refine ⟨List.replicate blanks ' ', ?_⟩
  rw [align, enough, List.replicate_succ', List.append_assoc, List.singleton_append]

/-- A text stands whole between two blanks, and the second of them is behind its room. -/
theorem alignedLine_ends
    (fits : List.Forall₂ (fun room entry => displayWidth entry < room) rooms entries) {index : Nat}
    (inside : index < rooms.length) : ∃ front back,
      alignedLine rooms entries = front ++ ' ' :: back ∧
      (' ' :: entries.getD index []) <:+ front ∧ displayWidth front = roomEnd rooms index := by
  induction fits generalizing index with
  | nil => exact absurd inside (Nat.not_lt_zero index)
  | @cons room entry rooms entries first others inductionHypothesis =>
      cases index with
      | zero =>
          refine ⟨align .right room entry, alignedLine rooms entries, rfl,
            blank_before_align first, ?_⟩
          rw [displayWidth_align (Nat.le_of_lt first)]
          simp [roomEnd]
      | succ index =>
          obtain ⟨front, back, line, text, width⟩ :=
            inductionHypothesis (Nat.lt_of_succ_lt_succ inside)
          refine ⟨align .right room entry ++ ' ' :: front, back, ?_, ?_, ?_⟩
          · rw [alignedLine, line, List.append_assoc, List.cons_append]
          · exact text.trans ((List.suffix_cons ' ' front).trans (List.suffix_append _ _))
          · rw [displayWidth_append_blank, displayWidth_align (Nat.le_of_lt first), width]
            simp only [roomEnd, List.take_succ_cons, List.map_cons, List.sum_cons,
              List.getD_cons_succ]
            omega

/-- A line holds blanks and its texts. -/
theorem mem_alignedLine {symbol : Char} (member : symbol ∈ alignedLine rooms entries) :
    symbol = ' ' ∨ ∃ entry ∈ entries, symbol ∈ entry := by
  induction rooms generalizing entries with
  | nil => simp [alignedLine] at member
  | cons room rooms inductionHypothesis =>
      cases entries with
      | nil => simp [alignedLine] at member
      | cons entry entries =>
          rw [alignedLine, List.mem_append, List.mem_cons] at member
          rcases member with front | rfl | later
          · rcases List.mem_append.mp front with blank | inEntry
            · exact Or.inl (List.eq_of_mem_replicate blank)
            · exact Or.inr ⟨entry, List.mem_cons_self, inEntry⟩
          · exact Or.inl rfl
          · refine (inductionHypothesis later).imp_right ?_
            rintro ⟨other, otherMember, inOther⟩
            exact ⟨other, List.mem_cons_of_mem entry otherMember, inOther⟩

end Lines

section Rows

variable {widths : List Nat} {entries : List (List Char)}

theorem ofText_of_single {entry : List Char} (single : '\n' ∉ entry) :
    TextCell.ofText entry = ⟨[entry]⟩ := by
  rw [TextCell.ofText, pieces, split_of_not_mem single]

theorem zipWith_wrap
    (fits : List.Forall₂ (fun width entry => displayWidth entry ≤ width) widths entries)
    (single : ∀ entry ∈ entries, '\n' ∉ entry) :
    List.zipWith TextCell.wrap widths (entries.map TextCell.ofText) =
      entries.map fun entry => ⟨[entry]⟩ := by
  induction fits with
  | nil => rfl
  | @cons width entry widths entries first others inductionHypothesis =>
      have wrapped : (TextCell.ofText entry).wrap width = ⟨[entry]⟩ := by
        rw [ofText_of_single (single entry List.mem_cons_self), TextCell.wrap,
          List.flatMap_singleton, wrapLine_of_fits first]
      rw [List.map_cons, List.zipWith_cons_cons, wrapped, List.map_cons, inductionHypothesis
        fun other member => single other (List.mem_cons_of_mem entry member)]

theorem foldl_height (entries : List (List Char)) :
    (entries.map fun entry => TextCell.mk [entry]).foldl
      (fun height cell => max height cell.lines.length) 1 = 1 := by
  induction entries with
  | nil => rfl
  | cons entry entries inductionHypothesis => exact inductionHypothesis

/-- The padding of a cell is a blank in its room and the blank behind it. -/
theorem zipWith_pad
    (fits : List.Forall₂ (fun width entry => displayWidth entry ≤ width) widths entries) :
    (List.zipWith (fun width entry => pad (align .right width entry)) widths entries).flatten =
      alignedLine (widths.map (· + 1)) entries := by
  induction fits with
  | nil => rfl
  | @cons width entry widths entries first others inductionHypothesis =>
      have padded : ' ' :: align .right width entry = align .right (width + 1) entry := by
        rw [align, align, Nat.sub_add_comm first, List.replicate_succ, List.cons_append]
      rw [List.zipWith_cons_cons, List.flatten_cons, inductionHypothesis, pad, padded,
        List.map_cons, alignedLine, List.append_assoc, List.singleton_append]

theorem frame_noStrokes (cells : List (List Char)) : noStrokes.frame cells = cells.flatten := by
  have joined : List.intercalate [] cells = cells.flatten := by
    induction cells with
    | nil => rfl
    | cons cell others inductionHypothesis =>
        cases others with
        | nil => rfl
        | cons next later =>
            rw [List.intercalate_cons_cons, inductionHypothesis, List.append_nil]
            rfl
  rw [Strokes.frame, noStrokes, joined, List.nil_append, List.append_nil]

/-- A row of texts that fit takes one line. -/
theorem rowLines_of_fits (filled : entries ≠ [])
    (fits : List.Forall₂ (fun width entry => displayWidth entry ≤ width) widths entries)
    (single : ∀ entry ∈ entries, '\n' ∉ entry) :
    rowLines .right noStrokes widths (entries.map TextCell.ofText) =
      [alignedLine (widths.map (· + 1)) entries] := by
  have height : (entries.map fun entry => TextCell.mk [entry]).foldl
      (fun height cell => max height cell.lines.length) 0 = 1 := by
    cases entries with
    | nil => exact absurd rfl filled
    | cons entry others => exact foldl_height others
  rw [rowLines, zipWith_wrap fits single]
  rw [height, List.range_one, List.map_singleton, List.zipWith_map_right, ← zipWith_pad fits,
    frame_noStrokes]
  rfl

end Rows

end BenchmarkReport.Grid
