/-
This file shows which table a text makes after a comment was put between two of its lines, at its
start or at its end.
-/

import BenchmarkReport.Proofs.Delimited.Comments
import BenchmarkReport.Proofs.Table.Loading

namespace BenchmarkReport.Table

open Text Delimited

/-- The lines that are not blank. -/
def filled (lines : List (List Char)) : List (List Char) :=
  lines.filter (!isBlankLine ·)

/-- The pairs that comments among lines hold. -/
def pairsOf (dialect : Dialect) (lines : List (List Char)) : List (String × String) :=
  match dialect.marker? with
  | none => []
  | some marker => (lines.filterMap (Metadata.parseLine? marker)).map fun pair =>
      (.ofList pair.1, .ofList pair.2)

/-- The two texts make tables that differ in nothing but the metadata, or have the same fault. -/
def LoadAlike (dialect : Dialect) (text changed : List Char) : Prop :=
  ofText dialect changed = (ofText dialect text).map fun table =>
    { table with metadata := metadataOf dialect changed }

/-- A comment is read over among lines. A blank one is dropped before the lines are read. -/
def IsReadOver (dialect : Dialect) (comment : List Char) (before after : List (List Char)) : Prop :=
  isBlankLine comment = false → KeepsColumns dialect comment (filled before) (filled after)

section Metadata

variable {dialect : Dialect} {text changed comment : List Char} {before after : List (List Char)}

theorem metadataOf_eq (dialect : Dialect) (text : List Char) :
    metadataOf dialect text = pairsOf dialect (lines text) := by
  unfold metadataOf pairsOf
  cases dialect.marker? <;> rfl

theorem pairsOf_append (dialect : Dialect) (first second : List (List Char)) :
    pairsOf dialect (first ++ second) = pairsOf dialect first ++ pairsOf dialect second := by
  unfold pairsOf
  cases dialect.marker? <;> simp

theorem pairsOf_singleton_length_le (dialect : Dialect) (line : List Char) :
    (pairsOf dialect [line]).length ≤ 1 := by
  unfold pairsOf
  cases dialect.marker? with
  | none => simp
  | some marker => cases parsed : Metadata.parseLine? marker line <;> simp [parsed]

end Metadata

section Loading

variable {dialect : Dialect} {text changed comment : List Char} {before after : List (List Char)}

theorem filledLines_eq (text : List Char) : filledLines text = filled (lines text) := rfl

theorem filled_append (first second : List (List Char)) :
    filled (first ++ second) = filled first ++ filled second :=
  List.filter_append first second

theorem withMetadata_map (first second : List (String × String))
    (result : Except Fault (List Column)) :
    (withMetadata first result).map (fun table => { table with metadata := second }) =
      withMetadata second result := by
  cases result <;> rfl

/-- A blank comment is dropped like every blank line. -/
theorem loadAlike_of_blank (original : lines text = before ++ after)
    (inserted : lines changed = before ++ comment :: after)
    (blank : isBlankLine comment = true) : LoadAlike dialect text changed := by
  have same : filledLines changed = filledLines text := by
    rw [filledLines_eq, filledLines_eq, original, inserted, filled_append, filled_append]
    simp [filled, blank]
  unfold LoadAlike
  rw [ofText_eq, ofText_eq, same]
  split
  · rfl
  · exact (withMetadata_map _ _ _).symm

/-- A comment that is read over keeps the table, and no other comment does. -/
theorem loadAlike_comment (unquoted : '"' ∉ text) (original : lines text = before ++ after)
    (inserted : lines changed = before ++ comment :: after)
    (starts : startsWith dialect.marker? comment = true) (filling : isBlankLine comment = false)
    (front : KeepsFront dialect comment (filled before) (filled after)) :
    (IsReadOver dialect comment before after → LoadAlike dialect text changed) ∧
    (∀ table, ofText dialect text = .ok table → LoadAlike dialect text changed →
      IsReadOver dialect comment before after) := by
  have texts : filledLines text = filled before ++ filled after := by
    rw [filledLines_eq, original, filled_append]
  have changedTexts : filledLines changed = filled before ++ comment :: filled after := by
    rw [filledLines_eq, inserted, filled_append]
    simp [filled, filling]
  have filledAfter : ∀ line ∈ filled after, line ≠ [] := fun line member =>
    filledLines_ne_nil (texts ▸ List.mem_append_right (filled before) member)
  have sameComments : (filledLines changed).all (startsWith dialect.marker?) =
      (filledLines text).all (startsWith dialect.marker?) := by
    rw [texts, changedTexts]
    simp [starts]
  have read : readColumns dialect (unlines (filledLines changed)) =
      readLines dialect (filled before ++ comment :: filled after) := by
    rw [changedTexts]
    exact readColumns_comment front starts filledAfter (texts ▸ filledLines_single)
      (texts ▸ filledLines_absent unquoted)
      (mem_lines (inserted ▸ List.mem_append_right before List.mem_cons_self)).1
  unfold LoadAlike IsReadOver
  rw [ofText_unquoted unquoted, ofText_eq dialect changed, sameComments, read, texts]
  split
  · exact ⟨fun _ => rfl, fun _ success => absurd success (by simp)⟩
  · rename_i data
    have present : filled before ++ filled after ≠ [] := fun none => data (by rw [none]; rfl)
    obtain ⟨keeps, changes⟩ := readLines_comment front starts filledAfter present
    rw [withMetadata_map]
    constructor
    · intro kept
      rw [keeps (kept filling)]
    · intro table success alike _
      have columns := (withMetadata_eq_ok_iff.mp success).1
      rw [columns] at alike
      exact changes table.columns columns (withMetadata_eq_ok_iff.mp alike).1

/-- A comment adds at most its own pair to the metadata, and it keeps all else of a table just when
it is read over. -/
theorem ofText_comment (unquoted : '"' ∉ text) (original : lines text = before ++ after)
    (inserted : lines changed = before ++ comment :: after)
    (starts : startsWith dialect.marker? comment = true)
    (front : isBlankLine comment = false →
      KeepsFront dialect comment (filled before) (filled after)) :
    (metadataOf dialect text = pairsOf dialect before ++ pairsOf dialect after ∧
      metadataOf dialect changed =
        pairsOf dialect before ++ (pairsOf dialect [comment] ++ pairsOf dialect after) ∧
      (pairsOf dialect [comment]).length ≤ 1) ∧
    (IsReadOver dialect comment before after → LoadAlike dialect text changed) ∧
    (∀ table, ofText dialect text = .ok table → LoadAlike dialect text changed →
      IsReadOver dialect comment before after) := by
  refine ⟨⟨?_, ?_, pairsOf_singleton_length_le dialect comment⟩, ?_⟩
  · rw [metadataOf_eq, original, pairsOf_append]
  · rw [metadataOf_eq, inserted, pairsOf_append, ← List.singleton_append, pairsOf_append]
  · cases blank : isBlankLine comment with
    | true =>
        refine ⟨fun _ => loadAlike_of_blank original inserted blank, ?_⟩
        intro table _ _ filling
        exact absurd blank (by simp [filling])
    | false => exact loadAlike_comment unquoted original inserted starts blank (front blank)

end Loading

def commentedText : List Char := "a,b\n1,2\n#k:v\n3,4\n".toList

theorem commentedText_alike :
    LoadAlike {} "a,b\n1,2\n3,4\n".toList commentedText := by
  have front : KeepsFront {} "#k:v".toList (filled ["a,b".toList, "1,2".toList])
      (filled ["3,4".toList]) :=
    ⟨by decide, Or.inl (by decide)⟩
  have kept : IsReadOver {} "#k:v".toList ["a,b".toList, "1,2".toList] ["3,4".toList] :=
    fun _ => ⟨by decide, keepsSchema_of_short (by decide)⟩
  exact (ofText_comment (by decide) (by decide) (by decide) (by decide) fun _ => front).2.1 kept

/-- The last of a hundred rows is the only one that is no whole number. -/
def lateReal : List (List Char) := List.replicate 99 ['1'] ++ ["0.5".toList]

theorem lateReal_changes :
    ∃ table, ofText {} (unlines (['a'] :: lateReal)) = .ok table ∧
      ¬ LoadAlike {} (unlines (['a'] :: lateReal)) (unlines (['a'] :: ['#'] :: lateReal)) := by
  have unquoted : '"' ∉ unlines (['a'] :: lateReal) := by decide
  have front : KeepsFront {} ['#'] (filled [['a']]) (filled lateReal) :=
    ⟨by decide, Or.inl (by decide)⟩
  have loaded : ∃ table, ofText {} (unlines (['a'] :: lateReal)) = .ok table := by
    rw [ofText_unquoted unquoted]
    exact ⟨_, rfl⟩
  obtain ⟨table, success⟩ := loaded
  refine ⟨table, success, fun alike => ?_⟩
  have kept := (loadAlike_comment unquoted (lines_unlines (by decide) (by decide))
    (lines_unlines (by decide) (by decide)) (by decide) (by decide) front).2 table success alike
  have same := (kept (by decide)).schema ['a'] [] rfl (by decide)
  revert same
  decide

end BenchmarkReport.Table
