/-
This file says what trimming leaves of a text: to trim it again changes nothing, and white space at
its ends never mattered.
-/

import BenchmarkReport.Text.Blank
import BenchmarkReport.Proofs.Text.Lines
import Mathlib.Data.List.DropRight

namespace BenchmarkReport.Text

section Trimming

variable {symbol : Char} {text : List Char}

theorem trimStart_subset (text : List Char) : trimStart text ⊆ text :=
  (List.dropWhile_suffix isBlank).subset

theorem isPrefix_trimEnd (text : List Char) : trimEnd text <+: text := by
  have dropped : text.reverse.dropWhile isBlank <:+ text.reverse := List.dropWhile_suffix isBlank
  simpa [trimEnd] using List.reverse_prefix.mpr dropped

theorem trim_subset (text : List Char) : trim text ⊆ text :=
  List.Subset.trans (isPrefix_trimEnd (trimStart text)).subset (trimStart_subset text)

theorem trimEnd_trimEnd (text : List Char) : trimEnd (trimEnd text) = trimEnd text := by
  simp [trimEnd, List.dropWhile_idempotent]

/-- A text that starts with no white space does not start with any when its end is trimmed. -/
theorem trimStart_trimEnd (started : trimStart text = text) :
    trimStart (trimEnd text) = trimEnd text := by
  obtain ⟨blanks, whole⟩ := isPrefix_trimEnd text
  cases shape : trimEnd text with
  | nil => rfl
  | cons first rest =>
      rw [shape] at whole
      cases blank : isBlank first with
      | false => simp [trimStart, blank]
      | true =>
          have shorter := (List.dropWhile_suffix isBlank (l := rest ++ blanks)).length_le
          have lengths := congrArg List.length started
          simp only [← whole, trimStart, List.cons_append, List.dropWhile_cons_of_pos blank,
            List.length_cons] at lengths
          omega

theorem trim_trim (text : List Char) : trim (trim text) = trim text := by
  have started : trimStart (trimStart text) = trimStart text := List.dropWhile_idempotent _ _
  rw [trim, trim, trimStart_trimEnd started, trimEnd_trimEnd]

theorem trim_cons_blank (blank : isBlank symbol = true) (text : List Char) :
    trim (symbol :: text) = trim text := by
  simp [trim, trimStart, blank]

theorem trim_concat_blank (blank : isBlank symbol = true) (text : List Char) :
    trim (text ++ [symbol]) = trim text := by
  unfold trim trimStart
  rw [List.dropWhile_append]
  cases text.dropWhile isBlank with
  | nil => simp [blank]
  | cons first rest => simp [trimEnd, blank]

theorem dropReturn_append {first second : List Char} (filled : second ≠ []) :
    dropReturn (first ++ second) = first ++ dropReturn second := by
  unfold dropReturn
  rw [List.getLast?_append_of_ne_nil first filled]
  split
  · exact List.dropLast_append_of_ne_nil filled
  · rfl

theorem trim_dropReturn (text : List Char) : trim (dropReturn text) = trim text := by
  unfold dropReturn
  split
  · rename_i last
    obtain ⟨front, rfl⟩ := List.getLast?_eq_some_iff.mp last
    rw [List.dropLast_concat, trim_concat_blank isBlank_carriageReturn]
  · rfl

/-- A trimmed text ends with no white space. -/
theorem dropReturn_of_trimmed (trimmed : trim text = text) : dropReturn text = text := by
  unfold dropReturn
  split
  · rename_i last
    obtain ⟨front, rfl⟩ := List.getLast?_eq_some_iff.mp last
    rw [trim_concat_blank isBlank_carriageReturn] at trimmed
    have first := (List.dropWhile_suffix isBlank (l := front)).length_le
    have second := (isPrefix_trimEnd (trimStart front)).length_le
    have whole := congrArg List.length trimmed
    simp only [trim, trimStart, List.length_append, List.length_singleton] at first second whole
    omega
  · rfl

end Trimming

end BenchmarkReport.Text
