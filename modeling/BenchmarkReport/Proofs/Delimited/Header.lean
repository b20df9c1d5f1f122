/-
This file says which fields a line without quotation marks holds, and how many columns a header
makes of them.
-/

import BenchmarkReport.Proofs.Delimited.Reading

namespace BenchmarkReport.Delimited

open Text

section Fields

variable {separator : Char} {record : List Char}

theorem fieldsFrom_of_unquoted {state : FieldState} (calm : state = .start ∨ state = .plain)
    (unquoted : '"' ∉ record) (single : '\n' ∉ record) :
    fieldsFrom separator state record = split separator record := by
  induction record generalizing state with
  | nil => rfl
  | cons symbol rest inductionHypothesis =>
      have noQuote : symbol ≠ '"' := fun same => unquoted (by simp [same])
      have noLineFeed : symbol ≠ '\n' := fun same => single (by simp [same])
      have next : state.next separator symbol = if symbol = separator then .start else .plain := by
        rcases calm with rfl | rfl <;> simp [FieldState.next, noQuote]
      have later (state : FieldState) (calm : state = .start ∨ state = .plain) :=
        inductionHypothesis calm (fun member => unquoted (List.mem_cons_of_mem symbol member))
          (fun member => single (List.mem_cons_of_mem symbol member))
      rw [fieldsFrom, split_cons, if_neg (by simp [noLineFeed]), next]
      by_cases separates : symbol = separator
      · rw [if_pos separates, if_pos separates, if_pos rfl, later .start (Or.inl rfl)]
      · rw [if_neg separates, if_neg separates, if_neg (by simp), later .plain (Or.inr rfl)]

/-- The fields of a line without quotation marks stand between its separators. -/
theorem fields_of_unquoted (unquoted : '"' ∉ record) (single : '\n' ∉ record) :
    fields separator record = split separator record :=
  fieldsFrom_of_unquoted (Or.inl rfl) unquoted single

theorem isQuoted_of_not_mem (unquoted : '"' ∉ record) : isQuoted record = false := by
  cases record with
  | nil => rfl
  | cons symbol rest =>
      have different : symbol ≠ '"' := fun same => unquoted (by simp [same])
      simp [isQuoted, different]

end Fields

section Names

variable {names seen : List String} {name : String}

theorem renameRepeated_length : (renameRepeated seen names).length = names.length := by
  induction names generalizing seen with
  | nil => rfl
  | cons name rest inductionHypothesis => simp [renameRepeated, inductionHypothesis]

/-- Names that do not repeat are kept. -/
theorem renameRepeated_of_nodup (distinct : names.Nodup)
    (fresh : ∀ name ∈ names, name ∉ seen) : renameRepeated seen names = names := by
  induction names generalizing seen with
  | nil => rfl
  | cons name rest inductionHypothesis =>
      obtain ⟨absent, restDistinct⟩ := List.nodup_cons.mp distinct
      have unseen : seen.count name = 0 :=
        List.count_eq_zero.mpr (fresh name List.mem_cons_self)
      have restFresh : ∀ other ∈ rest, other ∉ name :: seen := by
        intro other member again
        rcases List.mem_cons.mp again with rfl | old
        · exact absent member
        · exact fresh other (List.mem_cons_of_mem name member) old
      rw [renameRepeated, unseen, inductionHypothesis restDistinct restFresh]

end Names

section Schema

variable (schema : List (String × ElementType)) (entry : String × ElementType)
  {entries : List (String × ElementType)}

theorem addToSchema_length_le : (addToSchema schema entry).length ≤ schema.length + 1 := by
  unfold addToSchema
  split <;> simp

theorem addToSchema_ne_nil : addToSchema schema entry ≠ [] := by
  unfold addToSchema
  split
  · rename_i present
    obtain ⟨first, member, -⟩ := List.any_eq_true.mp present
    simp [List.ne_nil_of_mem member]
  · simp

variable {schema}

/-- Each entry makes at most one column. -/
theorem foldl_addToSchema_length_le :
    (entries.foldl addToSchema schema).length ≤ schema.length + entries.length := by
  induction entries generalizing schema with
  | nil => simp
  | cons entry later inductionHypothesis =>
      have first := addToSchema_length_le schema entry
      have others := @inductionHypothesis (addToSchema schema entry)
      simp only [List.foldl_cons, List.length_cons]
      omega

theorem foldl_addToSchema_ne_nil (filled : schema ≠ [] ∨ entries ≠ []) :
    entries.foldl addToSchema schema ≠ [] := by
  induction entries generalizing schema with
  | nil => simpa using filled
  | cons entry later inductionHypothesis =>
      exact inductionHypothesis (Or.inl (addToSchema_ne_nil schema entry))

/-- An entry adds its name only where it is new. -/
theorem addToSchema_names : (addToSchema schema entry).map Prod.fst =
    if entry.1 ∈ schema.map Prod.fst then schema.map Prod.fst
    else schema.map Prod.fst ++ [entry.1] := by
  have present : schema.any (·.1 == entry.1) = true ↔ entry.1 ∈ schema.map Prod.fst := by
    simp [List.mem_map, List.any_eq_true]
  simp only [addToSchema, present]
  split
  · rw [List.map_map]
    apply List.map_congr_left
    intro old _
    by_cases same : old.1 = entry.1 <;> simp [same]
  · simp

/-- No two columns share a name, whatever the names in the header are. -/
theorem foldl_addToSchema_nodup (distinct : (schema.map Prod.fst).Nodup) :
    ((entries.foldl addToSchema schema).map Prod.fst).Nodup := by
  induction entries generalizing schema with
  | nil => exact distinct
  | cons entry later inductionHypothesis =>
      apply inductionHypothesis
      rw [addToSchema_names]
      split
      · exact distinct
      · rename_i absent
        refine List.nodup_append.mpr ⟨distinct, by simp, ?_⟩
        intro old member name added same
        rw [List.mem_singleton.mp added] at same
        exact absent (same ▸ member)

/-- Entries with names that do not repeat all become columns. -/
theorem foldl_addToSchema_of_nodup (distinct : ((schema ++ entries).map Prod.fst).Nodup) :
    entries.foldl addToSchema schema = schema ++ entries := by
  induction entries generalizing schema with
  | nil => simp
  | cons entry later inductionHypothesis =>
      have absent : schema.any (·.1 == entry.1) = false := by
        rw [List.any_eq_false]
        intro present member
        rw [List.map_append, List.nodup_append] at distinct
        have different := distinct.2.2 present.1 (List.mem_map_of_mem member) entry.1 (by simp)
        simpa using different
      have added : addToSchema schema entry = schema ++ [entry] := by
        rw [addToSchema, if_neg (by simp [absent])]
      rw [List.foldl_cons, added, inductionHypothesis (by simpa using distinct)]
      simp

end Schema

section Headers

variable {dialect : Dialect} {header : List Char} {later lines : List (List Char)}

theorem headerNames_length : (headerNames dialect header).length =
    (fields dialect.separator (dropLineReturn header)).length := by
  rw [headerNames, renameRepeated_length, List.length_map]

/-- A header makes at most one column for each of its fields. -/
theorem schemaOf_length_le : (schemaOf dialect header later).length ≤
    (fields dialect.separator (dropLineReturn header)).length := by
  unfold schemaOf
  refine Nat.le_trans foldl_addToSchema_length_le ?_
  rw [List.length_zip, inferTypes_length, headerNames_length]
  simp

theorem dropLineReturn_of_getLast? {line : List Char} (last : line.getLast? ≠ some '\r') :
    dropLineReturn line = line := by
  rw [dropLineReturn, dropReturn_eq_iff.mpr last, ite_self]

theorem dropLineReturn_of_not_mem {line : List Char} (absent : '\r' ∉ line) :
    dropLineReturn line = line :=
  dropLineReturn_of_getLast? fun last => absent (List.mem_of_getLast? last)

/-- A header makes at least one column. -/
theorem schemaOf_ne_nil : schemaOf dialect header later ≠ [] := by
  unfold schemaOf
  refine foldl_addToSchema_ne_nil (Or.inr ?_)
  have named : 0 < (headerNames dialect header).length := by
    rw [headerNames_length]
    exact List.length_pos_iff.mpr (fields_ne_nil dialect.separator (dropLineReturn header))
  rw [← List.length_pos_iff, List.length_zip, inferTypes_length, Nat.min_self]
  exact named

/-- The records are the lines that are no comments, from the second of them on. -/
theorem splitHeader_filter : (splitHeader dialect lines).2.filter (!dialect.isComment ·) =
    (lines.filter (!dialect.isComment ·)).tail := by
  unfold splitHeader
  induction lines with
  | nil => rfl
  | cons line others inductionHypothesis =>
      by_cases comment : dialect.isComment line = true
      · simpa [comment] using inductionHypothesis
      · simp [comment]

theorem splitHeader_fst : (splitHeader dialect lines).1 =
    (lines.filter (!dialect.isComment ·)).headD [] := by
  unfold splitHeader
  induction lines with
  | nil => rfl
  | cons line others inductionHypothesis =>
      by_cases comment : dialect.isComment line = true
      · simpa [comment] using inductionHypothesis
      · simp [comment]

/-- Columns are read from the records alone. -/
theorem dataColumns_splitHeader (schema : List (String × ElementType)) :
    dataColumns dialect schema (splitHeader dialect lines).2 =
      columnsOfRows schema <$> (lines.filter (!dialect.isComment ·)).tail.mapM fun record =>
        readRecord dialect.kind 1 schema (fields dialect.separator record) := by
  rw [dataColumns, splitHeader_filter]

theorem lineColumns_eq (dialect : Dialect) (lines : List (List Char)) :
    lineColumns dialect lines =
      columnsOfRows (lineSchema dialect lines) <$>
        ((if 1 < (lineSchema dialect lines).length then dropEndings lines else lines).filter
          (!dialect.isComment ·)).tail.mapM fun record =>
            readRecord dialect.kind 1 (lineSchema dialect lines)
              (fields dialect.separator record) := by
  rw [lineColumns, dataColumns_splitHeader]

/-- It does not matter whether the line endings in front are dropped a second time where the same
lines stand behind the header either way. -/
theorem readLines_of_splitHeader (filled : dropEndings (symbolLines dialect lines) ≠ [])
    (started : splitHeader dialect (dropEndings (symbolLines dialect lines)) = (header, later))
    (located : (splitHeader dialect (symbolLines dialect lines)).2 = later) :
    readLines dialect lines =
      if isCompressed (unlines lines) then .error .compressed
      else dataColumns dialect (schemaOf dialect header later) later := by
  have schema : lineSchema dialect (symbolLines dialect lines) =
      schemaOf dialect header later := by
    rw [lineSchema, started]
  rw [readLines, if_neg filled, lineColumns, schema]
  split
  · rfl
  · split
    · rw [started]
    · rw [located]

end Headers

end BenchmarkReport.Delimited
