/-
This file shows that the pairs in the comments of a text are read back from the comments that they
are written to, whatever other lines stand between these.
-/

import BenchmarkReport.Proofs.Table.BlankLines
import BenchmarkReport.Proofs.Text.Trimming

namespace BenchmarkReport

namespace Metadata

open Text

/-- A key and a value that a comment can hold. The key ends before the first colon. -/
structure IsPair (pair : List Char × List Char) : Prop where
  keyFilled : pair.1 ≠ []
  keyTrimmed : trim pair.1 = pair.1
  keyPlain : ':' ∉ pair.1
  keySingle : '\n' ∉ pair.1
  valueTrimmed : trim pair.2 = pair.2
  valueSingle : '\n' ∉ pair.2

instance (pair : List Char × List Char) : Decidable (IsPair pair) :=
  decidable_of_iff (pair.1 ≠ [] ∧ trim pair.1 = pair.1 ∧ ':' ∉ pair.1 ∧ '\n' ∉ pair.1 ∧
      trim pair.2 = pair.2 ∧ '\n' ∉ pair.2)
    ⟨fun ⟨filled, key, plain, keySingle, value, valueSingle⟩ =>
        ⟨filled, key, plain, keySingle, value, valueSingle⟩,
      fun isPair => ⟨isPair.keyFilled, isPair.keyTrimmed, isPair.keyPlain, isPair.keySingle,
        isPair.valueTrimmed, isPair.valueSingle⟩⟩

/-- Lines hold some pairs in order, each in a comment of its own. The other lines are no comments,
or comments without a colon. A carriage return at the end of a line belongs to its ending. -/
inductive Hold (marker : Char) : List (List Char × List Char) → List (List Char) → Prop
  | nil : Hold marker [] []
  | pair {pair pairs line lines} (written : dropReturn line = renderPair marker pair)
      (later : Hold marker pairs lines) : Hold marker (pair :: pairs) (line :: lines)
  | data {pairs line lines} (unmarked : line.head? ≠ some marker)
      (later : Hold marker pairs lines) : Hold marker pairs (line :: lines)
  | remark {pairs comment lines} (mute : ':' ∉ comment)
      (later : Hold marker pairs lines) : Hold marker pairs ((marker :: comment) :: lines)

section Comments

variable {key value comment : List Char}

theorem parseComment?_of_not_mem (mute : ':' ∉ comment) : parseComment? comment = none := by
  have nothing : comment.dropWhile (· != ':') = [] := by
    apply List.dropWhile_eq_nil_iff.mpr
    intro symbol member
    exact bne_iff_ne.mpr fun same => mute (same ▸ member)
  rw [parseComment?, nothing]

/-- The first colon ends the key. -/
theorem parseComment?_append (plain : ':' ∉ key) (value : List Char) :
    parseComment? (key ++ ':' :: value) =
      if (trim key).isEmpty then none else some (trim key, trim value) := by
  have inKey : ∀ symbol ∈ key, (symbol != ':') = true := fun symbol member =>
    bne_iff_ne.mpr fun same => plain (same ▸ member)
  have front : (key ++ ':' :: value).takeWhile (· != ':') = key := by
    rw [List.takeWhile_append_of_pos inKey]
    simp
  have back : (key ++ ':' :: value).dropWhile (· != ':') = ':' :: value := by
    rw [List.dropWhile_append_of_pos inKey]
    simp
  simp only [parseComment?, front, back]

/-- A comment without a colon says nothing, and any other is a key, a colon and a value. -/
theorem parseComment?_cases (comment : List Char) :
    (':' ∉ comment) ∨ ∃ key value, ':' ∉ key ∧ comment = key ++ ':' :: value := by
  by_cases colon : ':' ∈ comment
  · obtain ⟨key, value, same, plain⟩ := List.eq_append_cons_of_mem colon
    exact Or.inr ⟨key, value, plain, same⟩
  · exact Or.inl colon

/-- A carriage return at the end of a comment is trimmed off its value. -/
theorem parseComment?_dropReturn (comment : List Char) :
    parseComment? (dropReturn comment) = parseComment? comment := by
  rcases parseComment?_cases comment with mute | ⟨key, value, plain, rfl⟩
  · rw [parseComment?_of_not_mem mute,
      parseComment?_of_not_mem fun colon => mute (dropReturn_subset comment colon)]
  · have behind : dropReturn (key ++ ':' :: value) = key ++ ':' :: dropReturn value := by
      cases value with
      | nil => simp [dropReturn]
      | cons first rest =>
          rw [List.append_cons, dropReturn_append (List.cons_ne_nil first rest)]
          exact (List.append_cons key ':' _).symm
    rw [behind, parseComment?_append plain, parseComment?_append plain, trim_dropReturn]

/-- What a comment says is a pair. -/
theorem isPair_of_parseComment? {pair : List Char × List Char} (single : '\n' ∉ comment)
    (spoken : parseComment? comment = some pair) : IsPair pair := by
  rcases parseComment?_cases comment with mute | ⟨key, value, plain, rfl⟩
  · rw [parseComment?_of_not_mem mute] at spoken
    simp at spoken
  · obtain ⟨keySingle, rest⟩ := not_or.mp (mt List.mem_append.mpr single)
    have valueSingle : '\n' ∉ value := fun member => rest (List.mem_cons_of_mem ':' member)
    rw [parseComment?_append plain] at spoken
    split at spoken
    · simp at spoken
    · rename_i filled
      rw [← Option.some.inj spoken]
      exact
        { keyFilled := by simpa using filled
          keyTrimmed := trim_trim key
          keyPlain := fun member => plain (trim_subset key member)
          keySingle := fun member => keySingle (trim_subset key member)
          valueTrimmed := trim_trim value
          valueSingle := fun member => valueSingle (trim_subset value member) }

end Comments

section Lines

variable {marker : Char} {pair : List Char × List Char} {line : List Char}

theorem parseLine?_cons (marker : Char) (comment : List Char) :
    parseLine? marker (marker :: comment) = parseComment? comment := by
  simp [parseLine?]

theorem parseLine?_of_unmarked (unmarked : line.head? ≠ some marker) :
    parseLine? marker line = none := by
  cases line with
  | nil => rfl
  | cons symbol rest => exact parseLine?_of_ne (fun same => unmarked (by simp [same])) rest

/-- The ending of a line says nothing, even where the marker is a carriage return. -/
theorem parseLine?_dropReturn (marker : Char) (line : List Char) :
    parseLine? marker (dropReturn line) = parseLine? marker line := by
  match line with
  | [] => rfl
  | [symbol] =>
      unfold dropReturn
      split <;> simp [parseLine?, parseComment?]
  | symbol :: next :: rest =>
      have behind : dropReturn (symbol :: next :: rest) = symbol :: dropReturn (next :: rest) :=
        @dropReturn_append [symbol] (next :: rest) (List.cons_ne_nil next rest)
      rw [behind, parseLine?, parseLine?, parseComment?_dropReturn]

/-- A pair is read back from its comment. -/
theorem parseLine?_renderPair (isPair : IsPair pair) :
    parseLine? marker (renderPair marker pair) = some pair := by
  have plain : ':' ∉ ' ' :: pair.1 := by simp [isPair.keyPlain]
  have key : trim (' ' :: pair.1) = pair.1 := by
    rw [trim_cons_blank (by decide), isPair.keyTrimmed]
  have value : trim (' ' :: pair.2) = pair.2 := by
    rw [trim_cons_blank (by decide), isPair.valueTrimmed]
  have comment : renderPair marker pair = marker :: ((' ' :: pair.1) ++ ':' :: ' ' :: pair.2) := rfl
  rw [comment, parseLine?_cons, parseComment?_append plain, key, value,
    if_neg (by simp [isPair.keyFilled])]

/-- A carriage return does not end the comment of a pair. -/
theorem dropReturn_renderPair (isPair : IsPair pair) :
    dropReturn (renderPair marker pair) = renderPair marker pair := by
  have comment : renderPair marker pair =
      (marker :: ' ' :: pair.1 ++ [':', ' ']) ++ pair.2 := by simp [renderPair]
  rw [comment]
  by_cases filled : pair.2 = []
  · rw [filled, List.append_nil, dropReturn_append (List.cons_ne_nil ':' [' '])]
    rfl
  · rw [dropReturn_append filled, dropReturn_of_trimmed isPair.valueTrimmed]

theorem single_renderPair (ending : marker ≠ '\n') (isPair : IsPair pair) :
    '\n' ∉ renderPair marker pair := by
  simp [renderPair, Ne.symm ending, isPair.keySingle, isPair.valueSingle]

/-- Pairs are read line by line, wherever a text is cut at its line feeds. -/
theorem parse_eq (marker : Char) (text : List Char) :
    parse marker text = (pieces text).filterMap (parseLine? marker) := by
  have ended (pieces : List (List Char)) :
      (endedLines pieces).filterMap (parseLine? marker) =
        pieces.filterMap (parseLine? marker) := by
    induction pieces with
    | nil => rfl
    | cons piece others inductionHypothesis =>
        cases others with
        | nil => cases piece <;> rfl
        | cons next later =>
            rw [endedLines, List.filterMap_cons, List.filterMap_cons, inductionHypothesis,
              parseLine?_dropReturn]
            simp
  exact ended (pieces text)

/-- A line feed keeps what stands before it apart from what stands behind it. -/
theorem parse_append (marker : Char) (first second : List Char) :
    parse marker (first ++ '\n' :: second) = parse marker first ++ parse marker second := by
  rw [parse_eq, parse_eq, parse_eq, pieces, split_append_cons, List.filterMap_append]
  rfl

/-- What does not start with the marker says nothing in its first line. -/
theorem parse_of_unmarked {text : List Char} (unmarked : text.head? ≠ some marker) :
    parse marker text = (pieces text).tail.filterMap (parseLine? marker) := by
  rw [parse_eq]
  cases text with
  | nil => rfl
  | cons symbol rest =>
      have different : symbol ≠ marker := fun same => unmarked (by simp [same])
      rw [pieces_cons]
      split
      · rfl
      · cases pieces rest with
        | nil => exact List.filterMap_cons_none (parseLine?_of_ne different [])
        | cons first others =>
            exact List.filterMap_cons_none (parseLine?_of_ne different first)

/-- A symbol in front of a text can keep its first line from saying something. -/
theorem parse_cons_sublist {symbol : Char} (different : symbol ≠ marker) (rest : List Char) :
    (parse marker (symbol :: rest)).Sublist (parse marker rest) := by
  have unmarked : (symbol :: rest).head? ≠ some marker := by simp [different]
  rw [parse_of_unmarked unmarked, parse_eq, pieces_cons]
  split
  · exact List.Sublist.refl _
  · cases pieces rest with
    | nil => exact List.Sublist.refl _
    | cons first others => exact (List.sublist_cons_self first others).filterMap _

theorem parse_dropWhile_sublist {drops : Char → Bool}
    (apart : ∀ symbol, drops symbol = true → symbol ≠ marker) (text : List Char) :
    (parse marker text).Sublist (parse marker (text.dropWhile drops)) := by
  induction text with
  | nil => exact List.Sublist.refl _
  | cons symbol rest inductionHypothesis =>
      rw [List.dropWhile_cons]
      split
      · rename_i dropped
        exact (parse_cons_sublist (apart symbol dropped) rest).trans inductionHypothesis
      · exact List.Sublist.refl _

theorem isPair_of_mem_parse {text : List Char} (member : pair ∈ parse marker text) :
    IsPair pair := by
  rw [parse_eq] at member
  obtain ⟨line, lineMember, spoken⟩ := List.mem_filterMap.mp member
  have single : '\n' ∉ line := (mem_split lineMember).1
  cases line with
  | nil => simp [parseLine?] at spoken
  | cons symbol comment =>
      rw [parseLine?] at spoken
      split at spoken
      · have commentSingle : '\n' ∉ comment := fun member =>
          single (List.mem_cons_of_mem symbol member)
        exact isPair_of_parseComment? commentSingle spoken
      · simp at spoken

end Lines

section Texts

variable {marker : Char} {pairs : List (List Char × List Char)} {lines : List (List Char)}
  {text : List Char}

/-- Only the comments of the pairs say something. -/
theorem Hold.filterMap_parseLine? (hold : Hold marker pairs lines)
    (arePairs : ∀ pair ∈ pairs, IsPair pair) : lines.filterMap (parseLine? marker) = pairs := by
  induction hold with
  | nil => rfl
  | @pair first rest line lines written later inductionHypothesis =>
      have spoken : parseLine? marker line = some first := by
        rw [← parseLine?_dropReturn, written,
          parseLine?_renderPair (arePairs first List.mem_cons_self)]
      rw [List.filterMap_cons_some spoken, inductionHypothesis]
      exact fun other member => arePairs other (List.mem_cons_of_mem first member)
  | data unmarked later inductionHypothesis =>
      rw [List.filterMap_cons_none (parseLine?_of_unmarked unmarked), inductionHypothesis arePairs]
  | @remark rest comment lines mute later inductionHypothesis =>
      have spoken : parseLine? marker (marker :: comment) = none := by
        rw [parseLine?_cons, parseComment?_of_not_mem mute]
      rw [List.filterMap_cons_none spoken, inductionHypothesis arePairs]

/-- The pairs of a text are those that its lines hold. -/
theorem parse_of_hold (hold : Hold marker pairs (pieces text))
    (arePairs : ∀ pair ∈ pairs, IsPair pair) : parse marker text = pairs := by
  rw [parse_eq, hold.filterMap_parseLine? arePairs]

/-- The lines that pairs are written to hold them. -/
theorem hold_render (ending : marker ≠ '\n') (arePairs : ∀ pair ∈ pairs, IsPair pair) :
    Hold marker pairs (pieces (render marker pairs)) := by
  have single : ∀ line ∈ pairs.map (renderPair marker), '\n' ∉ line :=
    List.forall_mem_map.mpr fun pair member => single_renderPair ending (arePairs pair member)
  rw [render, pieces_unlines single]
  induction pairs with
  | nil => exact .data (by simp) .nil
  | cons pair others inductionHypothesis =>
      obtain ⟨isPair, otherPairs⟩ := List.forall_mem_cons.mp arePairs
      rw [List.map_cons] at single
      exact .pair (dropReturn_renderPair isPair)
        (inductionHypothesis otherPairs (List.forall_mem_cons.mp single).2)

end Texts

end Metadata

namespace Table

open Text Delimited Metadata

/-- Lines that are no comments say nothing. -/
theorem pairsOf_of_unmarked {dialect : Dialect} {lines : List (List Char)}
    (unmarked : ∀ line ∈ lines, startsWith dialect.marker? line = false) :
    pairsOf dialect lines = [] := by
  unfold pairsOf
  cases marked : dialect.marker? with
  | none => rfl
  | some marker =>
      have mute : lines.filterMap (parseLine? marker) = [] := by
        rw [List.filterMap_eq_nil_iff]
        intro line member
        apply parseLine?_of_unmarked
        simpa [startsWith, marked] using unmarked line member
      simp [mute]

/-- A text without comments is read without metadata. -/
theorem ofText_eq_of_unmarked {dialect : Dialect} {text first : List Char}
    {later : List (List Char)} (shape : filledLines text = first :: later)
    (unmarked : ∀ line ∈ filledLines text, startsWith dialect.marker? line = false)
    (unquoted : ∀ line ∈ filledLines text, '"' ∉ line) :
    ofText dialect text = withMetadata [] (readLines dialect (filledLines text)) := by
  have data : (filledLines text).all (startsWith dialect.marker?) = false := by
    rw [List.all_eq_false]
    exact ⟨first, by simp [shape], by simp [unmarked first (by simp [shape])]⟩
  have quiet : metadataOf dialect text = [] := by
    rw [metadataOf_eq, ← pairsOf_filled]
    exact pairsOf_of_unmarked unmarked
  rw [ofText_unquotedLines unquoted, data, if_neg Bool.false_ne_true, quiet]

/-- What a text says is written to comments and read back, text by text. Pairs that stand in
comments among any other lines are the metadata of the table that is read. -/
theorem metadata_survives (marker : Char) (ending : marker ≠ '\n') :
    (∀ text, (∀ pair ∈ parse marker text, IsPair pair) ∧
      parse marker (render marker (parse marker text)) = parse marker text) ∧
    (∀ first second,
      parse marker (first ++ '\n' :: second) = parse marker first ++ parse marker second) ∧
    (∀ pairs text, (∀ pair ∈ pairs, IsPair pair) → Hold marker pairs (pieces text) →
      parse marker text = pairs ∧
      ∀ (dialect : Dialect) table, dialect.marker? = some marker →
        ofBytes dialect (bytesOf text) = .ok table →
          table.metadata = pairs.map fun pair => (.ofList pair.1, .ofList pair.2)) := by
  refine ⟨fun text => ?_, parse_append marker, fun pairs text arePairs hold => ?_⟩
  · have arePairs : ∀ pair ∈ parse marker text, IsPair pair := fun _ => isPair_of_mem_parse
    exact ⟨arePairs, parse_of_hold (hold_render ending arePairs) arePairs⟩
  · have read : parse marker text = pairs := parse_of_hold hold arePairs
    refine ⟨read, fun dialect table marked success => ?_⟩
    rw [ofBytes_bytesOf] at success
    rw [ofText_metadata success, metadataOf, marked]
    simp only [read]

/-- Comments with one key and with a remark stand among the lines of a table. -/
def driverText : List Char := "# run: a:b\r\nx,y\n#done\n1,2\n# run: \n".toList

def driverPairs : List (List Char × List Char) :=
  [("run".toList, "a:b".toList), ("run".toList, [])]

theorem driverText_survives :
    ('#' ≠ '\n' ∧ (∀ pair ∈ driverPairs, IsPair pair) ∧
      Hold '#' driverPairs (pieces driverText)) ∧
    parse '#' driverText = driverPairs ∧
      ∃ table, ofBytes {} (bytesOf driverText) = .ok table ∧
        table.metadata = [("run", "a:b"), ("run", "")] := by
  have hold : Hold '#' driverPairs (pieces driverText) :=
    .pair rfl (.data (by decide) (.remark (by decide) (.data (by decide) (.pair rfl
      (.data (by decide) .nil)))))
  have arePairs : ∀ pair ∈ driverPairs, IsPair pair := by decide
  obtain ⟨read, survives⟩ :=
    (metadata_survives '#' (by decide)).2.2 driverPairs driverText arePairs hold
  have loaded : ∃ table, ofBytes {} (bytesOf driverText) = .ok table := by
    rw [ofBytes_bytesOf, ofText_unquoted (by decide)]
    exact ⟨_, rfl⟩
  obtain ⟨table, success⟩ := loaded
  exact ⟨⟨by decide, arePairs, hold⟩, read, table, success, survives {} table rfl success⟩

end Table

end BenchmarkReport
