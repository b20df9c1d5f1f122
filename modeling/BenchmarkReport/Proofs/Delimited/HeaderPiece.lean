/-
This file says which line of a text names its columns, and that the columns have the names in it in
their order, each of them once.
-/

import BenchmarkReport.Proofs.Delimited.Reading
import BenchmarkReport.Proofs.Delimited.Rows
import BenchmarkReport.Proofs.Delimited.Header
import Mathlib.Data.List.Induction

namespace BenchmarkReport.Delimited

open Text

/-- The first of some lines that is no comment. -/
def headerOf (dialect : Dialect) (lines : List (List Char)) : List Char :=
  (lines.filter (!startsWith dialect.marker? ·)).headD []

section Pieces

variable {dialect : Dialect} {line rest : List Char}

theorem LineMachine.exists_pass? {State : Type} (machine : LineMachine State) (state : State)
    (single : '\n' ∉ line) : ∃ final, machine.pass? state line = some final := by
  induction line generalizing state with
  | nil => exact ⟨state, rfl⟩
  | cons symbol rest inductionHypothesis =>
      rw [machine.pass?_cons fun same => single (by simp [same])]
      exact inductionHypothesis _ fun member => single (List.mem_cons_of_mem symbol member)

/-- A line that is no comment is cut off whole when its quotation marks come in pairs. -/
theorem lineMachine_cut_of_pairs (single : '\n' ∉ line) (pairs : line.count '"' % 2 = 0)
    (uncommented : dialect.isComment (line ++ '\n' :: rest) = false) :
    (lineMachine dialect).cut (line ++ '\n' :: rest) = line :: (lineMachine dialect).cut rest := by
  have start : (lineMachine dialect).start (line ++ '\n' :: rest) = .outside := by
    simp [lineMachine, uncommented]
  obtain ⟨final, passed⟩ := (lineMachine dialect).exists_pass? .outside single
  have outside := eq_iterate_of_pass? passed
  rw [iterate_next_outside, if_pos pairs] at outside
  rw [LineMachine.cut, start]
  exact (lineMachine dialect).cutFrom_of_pass? passed (by rw [outside]; rfl) rest

end Pieces

section Symbols

variable (kind : SymbolKind)

theorem SymbolKind.count_quote_encode (line : List Char) :
    (kind.encode line).count '"' = line.count '"' := by
  induction line with
  | nil => cases kind <;> rfl
  | cons symbol rest inductionHypothesis =>
      rw [kind.encode_cons, List.count_append, inductionHypothesis]
      by_cases quote : symbol = '"'
      · have one : (kind.encode ['"']).count '"' = 1 := by cases kind <;> rfl
        rw [quote, one, List.count_cons_self, Nat.add_comm]
      · have none : (kind.encode [symbol]).count '"' = 0 := by
          rw [List.count_eq_zero]
          intro member
          exact quote (List.mem_singleton.mp (kind.mem_of_mem_encode (by decide) member)).symm
        rw [none, List.count_cons_of_ne quote, Nat.zero_add]

theorem SymbolKind.single_encode {line : List Char} (single : '\n' ∉ line) :
    '\n' ∉ kind.encode line :=
  fun member => single (kind.mem_of_mem_encode (by decide) member)

end Symbols

section Location

variable {dialect : Dialect} {lines : List (List Char)}

/-- Whether the symbols of a line and of what follows it are a comment depends on the line. -/
theorem isComment_encode_append {line : List Char} (filled : line ≠ []) (rest : List Char) :
    dialect.isComment (dialect.kind.encode line ++ '\n' :: dialect.kind.encode rest) =
      startsWith dialect.marker? line := by
  have whole : dialect.kind.encode line ++ '\n' :: dialect.kind.encode rest =
      dialect.kind.encode (line ++ '\n' :: rest) := by
    rw [SymbolKind.encode_append, SymbolKind.encode_cons, SymbolKind.encode_lineFeed]
    rfl
  rw [whole, Dialect.isComment_encode_eq]
  cases line with
  | nil => exact absurd rfl filled
  | cons symbol others => rfl

/-- The header is the first line that is no comment, if its quotation marks come in pairs. -/
theorem splitHeader_logicalPieces (single : ∀ line ∈ lines, '\n' ∉ line)
    (filled : ∀ line ∈ lines, line ≠ []) (pairs : (headerOf dialect lines).count '"' % 2 = 0) :
    (splitHeader dialect (logicalPieces dialect (dialect.kind.encode (unlines lines)))).1 =
      dialect.kind.encode (headerOf dialect lines) := by
  induction lines with
  | nil =>
      have none : dialect.kind.encode (unlines []) = [] := dialect.kind.encode_eq_nil_iff.mpr rfl
      have uncommented : dialect.isComment [] = false := Dialect.isComment_nil
      rw [none, splitHeader, logicalPieces, LineMachine.cut, LineMachine.cutFrom,
        List.dropWhile_cons_of_neg (by simp [uncommented])]
      exact (dialect.kind.encode_eq_nil_iff.mpr rfl).symm
  | cons line later inductionHypothesis =>
      obtain ⟨lineSingle, laterSingle⟩ := List.forall_mem_cons.mp single
      obtain ⟨lineFilled, laterFilled⟩ := List.forall_mem_cons.mp filled
      have text : dialect.kind.encode (unlines (line :: later)) =
          dialect.kind.encode line ++ '\n' :: dialect.kind.encode (unlines later) := by
        rw [unlines_cons, SymbolKind.encode_append, SymbolKind.encode_cons,
          SymbolKind.encode_lineFeed]
        rfl
      have front := @isComment_encode_append dialect line lineFilled (unlines later)
      have lineComment := @Dialect.isComment_encode_eq dialect line
      unfold logicalPieces splitHeader at inductionHypothesis ⊢
      rw [text]
      cases comment : startsWith dialect.marker? line with
      | true =>
          have plain : IsPlainLine dialect (dialect.kind.encode line) :=
            ⟨dialect.kind.single_encode lineSingle, Or.inr (lineComment.trans comment)⟩
          have next : headerOf dialect (line :: later) = headerOf dialect later := by
            rw [headerOf, List.filter_cons_of_neg (by simp [comment]), headerOf]
          rw [plain.lineMachine_cut, List.dropWhile_cons_of_pos (lineComment.trans comment), next]
          exact inductionHypothesis laterSingle laterFilled (next ▸ pairs)
      | false =>
          have found : headerOf dialect (line :: later) = line := by
            rw [headerOf, List.filter_cons_of_pos (by simp [comment]), List.headD_cons]
          rw [found] at pairs ⊢
          rw [lineMachine_cut_of_pairs (dialect.kind.single_encode lineSingle)
            (by rw [SymbolKind.count_quote_encode, pairs]) (front.trans comment),
            List.dropWhile_cons_of_neg (by rw [lineComment, comment]; exact Bool.false_ne_true)]

end Location

section Names

/-- Columns of one name fall together at the place of the first. -/
theorem foldl_addToSchema_names (entries : List (String × ElementType)) :
    (entries.foldl addToSchema []).map Prod.fst = (entries.map Prod.fst).eraseDups := by
  induction entries using List.reverseRecOn with
  | nil => rfl
  | append_singleton early last inductionHypothesis =>
      rw [List.foldl_append, List.foldl_cons, List.foldl_nil, addToSchema_names,
        inductionHypothesis, List.map_append, List.eraseDups_append, List.map_singleton]
      by_cases known : last.1 ∈ early.map Prod.fst
      · rw [if_pos (List.mem_eraseDups.mpr known)]
        simp [List.removeAll, known]
      · rw [if_neg (fun member => known (List.mem_eraseDups.mp member))]
        simp [List.removeAll, known, List.eraseDups_cons]

variable {dialect : Dialect} {text : List Char} {columns : List Column}

theorem schemaOf_names {header : List Char} {later : List (List Char)} :
    (schemaOf dialect header later).map Prod.fst = (headerNames dialect header).eraseDups := by
  rw [schemaOf, foldl_addToSchema_names, List.map_fst_zip (Nat.le_of_eq
    (inferTypes_length dialect _ later).symm)]

/-- Columns that are read have the names in the header of the text that is left without line endings
in front. -/
theorem names_of_readColumns (success : readColumns dialect text = .ok columns) :
    columns.map Column.name = (headerNames dialect (splitHeader dialect (logicalPieces dialect
      ((dialect.kind.encode (dropByteOrderMark text)).dropWhile isLineEnding))).1).eraseDups := by
  obtain ⟨rows, -, rfl⟩ := exists_rows_of_readColumns success
  rw [columnsOfRows_names, ← schemaOf_names]
  rfl

theorem eraseDups_of_nodup {names : List String} (distinct : names.Nodup) :
    names.eraseDups = names := by
  induction names with
  | nil => rfl
  | cons name others inductionHypothesis =>
      obtain ⟨absent, later⟩ := List.nodup_cons.mp distinct
      have kept : others.filter (fun other => !other == name) = others := by
        rw [List.filter_eq_self]
        intro other member
        have different : other ≠ name := fun same => absent (same ▸ member)
        simp [different]
      rw [List.eraseDups_cons, kept, inductionHypothesis later]

/-- The names in a header without quotation marks and line endings stand between its separators. -/
theorem eraseDups_headerNames {header : List Char} (ascii : dialect.delimiter < 128)
    (unquoted : '"' ∉ header) (single : '\n' ∉ header) (noReturn : header.getLast? ≠ some '\r')
    (distinct : (split dialect.separator header).Nodup) :
    (headerNames dialect (dialect.kind.encode header)).eraseDups =
      (split dialect.separator header).map String.ofList := by
  have named : ∀ field ∈ split dialect.separator header,
      headerName .character field = String.ofList field := by
    intro field member
    have plain : isQuoted field = false :=
      isQuoted_of_not_mem fun quote => unquoted ((mem_split member).2 quote)
    simp [headerName, plain, SymbolKind.decode]
  have names : ((split dialect.separator header).map String.ofList).Nodup :=
    List.Pairwise.map String.ofList
      (fun _ _ different same => different (String.ofList_inj.mp same)) distinct
  rw [headerNames, Dialect.kind_eq_character ascii, SymbolKind.encode,
    dropLineReturn_of_getLast? noReturn, fields_of_unquoted unquoted single,
    List.map_congr_left named, renameRepeated_of_nodup names fun _ _ => List.not_mem_nil,
    eraseDups_of_nodup names]

end Names

end BenchmarkReport.Delimited
