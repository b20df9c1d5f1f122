/-
This file compares what two readers with different delimiters make of the same rows. They read the
same columns if each row has the same fields for both and is a comment for both or for neither.
-/

import BenchmarkReport.Proofs.Delimited.Header
import BenchmarkReport.Proofs.Delimited.Rows

namespace BenchmarkReport.Delimited

open Text

/-- Two lines have the same fields, each for its own reader. -/
structure AreAlike (first second : Dialect) (line other : List Char) : Prop where
  comment : first.isComment line = second.isComment other
  fields : fields first.separator line = fields second.separator other
  noReturn : '\r' ∉ line
  otherNoReturn : '\r' ∉ other

section Readers

variable {Row : Type} {first second : Dialect} {write other : Row → List Char} {rows : List Row}
  {row : Row}

theorem headerNames_alike (kinds : first.kind = second.kind)
    (alike : AreAlike first second (write row) (other row)) :
    headerNames first (write row) = headerNames second (other row) := by
  rw [headerNames, headerNames, dropLineReturn_of_not_mem alike.noReturn,
    dropLineReturn_of_not_mem alike.otherNoReturn, alike.fields, kinds]

theorem lineTypes_alike (kinds : first.kind = second.kind)
    (alike : AreAlike first second (write row) (other row)) (count : Nat) :
    lineTypes first count (write row) = lineTypes second count (other row) := by
  rw [lineTypes, lineTypes, dropLineReturn_of_not_mem alike.noReturn,
    dropLineReturn_of_not_mem alike.otherNoReturn, alike.fields, kinds]

variable (kinds : first.kind = second.kind)
  (alike : ∀ row ∈ rows, AreAlike first second (write row) (other row))

include alike

/-- The same rows are no comments. -/
theorem filter_alike : ∃ kept ⊆ rows,
    (rows.map write).filter (!first.isComment ·) = kept.map write ∧
      (rows.map other).filter (!second.isComment ·) = kept.map other := by
  refine ⟨rows.filter fun row => !first.isComment (write row),
    fun row member => List.mem_of_mem_filter member, ?_, ?_⟩
  · rw [List.filter_map]
    rfl
  · rw [List.filter_map]
    congr 1
    refine List.filter_congr fun row member => ?_
    rw [Function.comp_apply, (alike row member).comment]

include kinds

theorem inferTypes_alike (count : Nat) :
    inferTypes first count (rows.map write) = inferTypes second count (rows.map other) := by
  have early : ∀ row ∈ rows.take inferenceLength, AreAlike first second (write row) (other row) :=
    fun row member => alike row (List.mem_of_mem_take member)
  obtain ⟨kept, within, firstKept, secondKept⟩ := filter_alike early
  have spoken : (kept.map write).map (lineTypes first count) =
      (kept.map other).map (lineTypes second count) := by
    rw [List.map_map, List.map_map]
    exact List.map_congr_left fun row member => lineTypes_alike kinds (early row (within member)) count
  rw [inferTypes, inferTypes, ← List.map_take, ← List.map_take, firstKept, secondKept, spoken]

theorem dataColumns_alike (schema : List (String × ElementType)) :
    dataColumns first schema (rows.map write) = dataColumns second schema (rows.map other) := by
  obtain ⟨kept, within, firstKept, secondKept⟩ := filter_alike alike
  rw [dataColumns, dataColumns, firstKept, secondKept, List.mapM_map, List.mapM_map]
  congr 1
  refine mapM_congr fun row member => ?_
  rw [Function.comp_apply, Function.comp_apply, (alike row (within member)).fields, kinds]

/-- The header is the same row for both readers, and so are the rows behind it. -/
theorem splitHeader_alike : ∃ later ⊆ rows,
    (splitHeader first (rows.map write)).2 = later.map write ∧
    (splitHeader second (rows.map other)).2 = later.map other ∧
    headerNames first (splitHeader first (rows.map write)).1 =
      headerNames second (splitHeader second (rows.map other)).1 := by
  unfold splitHeader
  induction rows with
  | nil =>
      refine ⟨[], List.Subset.refl [], rfl, rfl, ?_⟩
      rw [headerNames, headerNames, kinds]
      rfl
  | cons row others inductionHypothesis =>
      have here := alike row List.mem_cons_self
      rw [List.map_cons, List.map_cons]
      by_cases comment : first.isComment (write row) = true
      · rw [List.dropWhile_cons_of_pos comment,
          List.dropWhile_cons_of_pos (here.comment ▸ comment)]
        obtain ⟨later, within, same⟩ := inductionHypothesis fun row member =>
          alike row (List.mem_cons_of_mem _ member)
        exact ⟨later, fun _ member => List.mem_cons_of_mem row (within member), same⟩
      · rw [List.dropWhile_cons_of_neg comment,
          List.dropWhile_cons_of_neg (here.comment ▸ comment)]
        exact ⟨others, List.subset_cons_self row others, rfl, rfl, headerNames_alike kinds here⟩

/-- The same columns are read where neither reader takes anything off the front. -/
theorem lineColumns_alike (started : dropEndings (rows.map write) = rows.map write)
    (otherStarted : dropEndings (rows.map other) = rows.map other) :
    lineColumns first (rows.map write) = lineColumns second (rows.map other) := by
  obtain ⟨later, within, firstLater, secondLater, names⟩ := splitHeader_alike kinds alike
  have behind : ∀ row ∈ later, AreAlike first second (write row) (other row) :=
    fun row member => alike row (within member)
  have schema : lineSchema first (rows.map write) = lineSchema second (rows.map other) := by
    rw [lineSchema, lineSchema, started, otherStarted, schemaOf, schemaOf, firstLater,
      secondLater, names, inferTypes_alike kinds behind]
  rw [lineColumns, lineColumns, schema, started, otherStarted, ite_self, ite_self, firstLater,
    secondLater, dataColumns_alike kinds behind]

end Readers

end BenchmarkReport.Delimited
