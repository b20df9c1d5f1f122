/-
This file reads the entities of a document back to the symbols that they stand for. Every text comes
back from its escaped form.
-/

import BenchmarkReport.Proofs.Plot.Markup

namespace BenchmarkReport.Plot.Markup

/-- What may follow an ampersand. -/
def entityNames : List (List Char) :=
  ["lt;".toList, "gt;".toList, "amp;".toList, "quot;".toList, "apos;".toList]

/-- The text whose entities are written out. A bracket or an ampersand that is no part of an entity
has no place in it. -/
def resolve? : List Char → Option (List Char)
  | [] => some []
  | '&' :: 'l' :: 't' :: ';' :: later => (resolve? later).map ('<' :: ·)
  | '&' :: 'g' :: 't' :: ';' :: later => (resolve? later).map ('>' :: ·)
  | '&' :: 'a' :: 'm' :: 'p' :: ';' :: later => (resolve? later).map ('&' :: ·)
  | '&' :: 'q' :: 'u' :: 'o' :: 't' :: ';' :: later => (resolve? later).map ('"' :: ·)
  | '&' :: 'a' :: 'p' :: 'o' :: 's' :: ';' :: later => (resolve? later).map ('\'' :: ·)
  | symbol :: later =>
    if symbol = '<' ∨ symbol = '>' ∨ symbol = '&' then none
    else (resolve? later).map (symbol :: ·)

/-- The content of an element is a text in a form without brackets. Its ampersands belong to
entities, and the text comes back from it. -/
structure IsContentOf (text content : List Char) : Prop where
  bare : IsBare content
  ampersands : ∀ before after, content = before ++ '&' :: after →
    ∃ name ∈ entityNames, name <+: after
  resolved : resolve? content = some text

section Symbols

variable {symbol : Char}

/-- A symbol is escaped to an entity, or it stays as it is and is none of the special ones. -/
theorem escapeSymbol_cases (symbol : Char) :
    (∃ name ∈ entityNames, escapeSymbol symbol = '&' :: name ∧
      ∀ later, resolve? ('&' :: name ++ later) = (resolve? later).map (symbol :: ·)) ∨
    escapeSymbol symbol = [symbol] ∧ symbol ≠ '<' ∧ symbol ≠ '>' ∧ symbol ≠ '&' := by
  unfold escapeSymbol
  split
  · exact .inl ⟨"lt;".toList, by decide, rfl, fun _ => rfl⟩
  · exact .inl ⟨"gt;".toList, by decide, rfl, fun _ => rfl⟩
  · exact .inl ⟨"amp;".toList, by decide, rfl, fun _ => rfl⟩
  · exact .inl ⟨"quot;".toList, by decide, rfl, fun _ => rfl⟩
  · exact .inl ⟨"apos;".toList, by decide, rfl, fun _ => rfl⟩
  · rename_i noOpening noClosing noAmpersand _ _
    exact .inr ⟨rfl, noOpening, noClosing, noAmpersand⟩

theorem resolve?_plain (noOpening : symbol ≠ '<') (noClosing : symbol ≠ '>')
    (noAmpersand : symbol ≠ '&') (later : List Char) :
    resolve? (symbol :: later) = (resolve? later).map (symbol :: ·) := by
  rw [resolve?] <;> simp [noOpening, noClosing, noAmpersand]

theorem ampersand_not_mem_entityName {name : List Char} (known : name ∈ entityNames) :
    '&' ∉ name := by
  have plain : ∀ name ∈ entityNames, '&' ∉ name := by decide
  exact plain name known

end Symbols

/-- Every text comes back from its escaped form. -/
theorem resolve?_escape (text : List Char) : resolve? (escape text) = some text := by
  induction text with
  | nil => rfl
  | cons symbol later inductionHypothesis =>
      have parts : escape (symbol :: later) = escapeSymbol symbol ++ escape later :=
        List.flatMap_cons
      rw [parts]
      rcases escapeSymbol_cases symbol with
        ⟨name, -, written, read⟩ | ⟨written, noOpening, noClosing, noAmpersand⟩
      · rw [written, read, inductionHypothesis]
        rfl
      · rw [written, List.singleton_append, resolve?_plain noOpening noClosing noAmpersand,
          inductionHypothesis]
        rfl

/-- An ampersand in the form of one symbol is its first character. -/
theorem ampersand_escapeSymbol {symbol : Char} {before after : List Char}
    (written : escapeSymbol symbol = before ++ '&' :: after) : after ∈ entityNames := by
  rcases escapeSymbol_cases symbol with ⟨name, known, entity, -⟩ | ⟨plain, -, -, noAmpersand⟩
  · rw [entity] at written
    cases before with
    | nil => rwa [← (List.cons.inj written).2]
    | cons first others =>
        have member : '&' ∈ name := by
          rw [(List.cons.inj written).2]
          simp
        exact absurd member (ampersand_not_mem_entityName known)
  · have member : '&' ∈ escapeSymbol symbol := by
      rw [written]
      simp
    rw [plain] at member
    exact absurd (List.mem_singleton.mp member).symm noAmpersand

/-- The ampersands of an escaped text belong to entities. -/
theorem ampersand_escape {text before after : List Char}
    (written : escape text = before ++ '&' :: after) : ∃ name ∈ entityNames, name <+: after := by
  induction text generalizing before with
  | nil => simp [escape] at written
  | cons symbol later inductionHypothesis =>
      have parts : escapeSymbol symbol ++ escape later = before ++ '&' :: after :=
        List.flatMap_cons.symm.trans written
      rcases List.append_eq_append_iff.mp parts with
        ⟨between, rfl, rest⟩ | ⟨between, front, rest⟩
      · exact inductionHypothesis rest
      · cases between with
        | nil =>
            have front : escape later = [] ++ '&' :: after := rest.symm
            exact inductionHypothesis front
        | cons first others =>
            obtain ⟨rfl, rfl⟩ := List.cons.inj rest
            exact ⟨others, ampersand_escapeSymbol front, List.prefix_append _ _⟩

theorem isContentOf_escape (text : List Char) : IsContentOf text (escape text) where
  bare := isBare_escape text
  ampersands _ _ := ampersand_escape
  resolved := resolve?_escape text

/-- An entity in the text itself is kept as well. -/
example : escape "a<b &lt;".toList = "a&lt;b &amp;lt;".toList := by decide

end BenchmarkReport.Plot.Markup
