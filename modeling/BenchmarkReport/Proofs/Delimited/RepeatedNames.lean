/-
This file says which names the repetitions of a name get, and when the renamed names are distinct. A
repetition can take a name that the header holds as well, and this is the only way in which two names
fall together.
-/

import BenchmarkReport.Proofs.Delimited.UniformLines
import BenchmarkReport.Proofs.Number.Integers
import Mathlib.Data.List.Nodup

namespace BenchmarkReport.Delimited

open Text

/-- The name of a repetition. The number counts the repetitions before it. -/
def repeatedName (name : String) (number : Nat) : String :=
  name ++ "_duplicated_" ++ toString number

/-- The name at a place where it stood so many times before. -/
def occurrenceName (name : String) : Nat → String
  | 0 => name
  | number + 1 => repeatedName name number

/-- No repetition of a name gets a name that the header holds as well. -/
def RepeatsApart (names : List String) : Prop :=
  ∀ name ∈ names, ∀ number, number + 2 ≤ names.count name → repeatedName name number ∉ names

section RepeatedNames

variable {name other : String} {number count : Nat}

theorem repeatedName_toList : (repeatedName name number).toList =
    (name.toList ++ "_duplicated".toList) ++ '_' :: Nat.toDigits 10 number := by
  have mark : "_duplicated_".toList = "_duplicated".toList ++ ['_'] := by decide
  rw [repeatedName, String.toList_append, String.toList_append, mark,
    show (toString number).toList = Nat.toDigits 10 number from Nat.toList_repr]
  simp

theorem repeatedName_ne (name : String) (number : Nat) : repeatedName name number ≠ name := by
  intro same
  have lengths := congrArg (List.length ∘ String.toList) same
  simp only [Function.comp_apply, repeatedName_toList, List.length_append, List.length_cons]
    at lengths
  omega

/-- What stands behind the last mark is determined, and so is what stands in front of it. -/
theorem append_cons_inj_of_not_mem {mark : Char} {first second front back : List Char}
    (absent : mark ∉ first) (alsoAbsent : mark ∉ second)
    (same : front ++ mark :: first = back ++ mark :: second) : front = back ∧ first = second := by
  rcases List.append_eq_append_iff.mp same with ⟨between, longer, shape⟩ | ⟨between, longer, shape⟩
  · cases between with
    | nil => simp_all
    | cons symbol rest => exact absurd (by simp_all) absent
  · cases between with
    | nil => simp_all
    | cons symbol rest => exact absurd (by simp_all) alsoAbsent

theorem repeatedName_inj (same : repeatedName name number = repeatedName other count) :
    name = other ∧ number = count := by
  have noMark (value : Nat) : '_' ∉ Nat.toDigits 10 value := by
    intro member
    exact absurd (Nat.isDigit_of_mem_toDigits (by decide) (by decide) member) (by decide)
  have texts := congrArg String.toList same
  rw [repeatedName_toList, repeatedName_toList] at texts
  obtain ⟨fronts, digits⟩ := append_cons_inj_of_not_mem (noMark number) (noMark count) texts
  refine ⟨String.toList_inj.mp (List.append_cancel_right fronts), ?_⟩
  rw [← Number.ofDigitChars_digits number, ← Number.ofDigitChars_digits count]
  exact congrArg (Nat.ofDigitChars 10 · 0) digits

/-- An occurrence starts with its name. -/
theorem prefix_occurrenceName (name : String) (count : Nat) :
    name.toList <+: (occurrenceName name count).toList := by
  cases count with
  | zero => exact List.prefix_refl _
  | succ number =>
      rw [occurrenceName, repeatedName_toList, List.append_assoc]
      exact List.prefix_append _ _

end RepeatedNames

section Places

variable {names seen : List String} {name : String}

theorem renameRepeated_cons (seen names : List String) (name : String) :
    renameRepeated seen (name :: names) =
      occurrenceName name (seen.count name) :: renameRepeated (name :: seen) names := by
  rw [renameRepeated]
  cases seen.count name <;> rfl

/-- The new name at a place depends on how often the name stands in front of it. -/
theorem getElem?_renameRepeated {place : Nat} : (renameRepeated seen names)[place]? =
    names[place]?.map fun name =>
      occurrenceName name (seen.count name + (names.take place).count name) := by
  induction names generalizing seen place with
  | nil => rfl
  | cons first others inductionHypothesis =>
      rw [renameRepeated_cons]
      cases place with
      | zero => simp
      | succ place =>
          rw [List.getElem?_cons_succ, List.getElem?_cons_succ, inductionHypothesis]
          congr 1
          funext name
          rw [List.take_succ_cons, List.count_cons, List.count_cons]
          congr 1
          omega

/-- Every occurrence of a name has a place. -/
theorem exists_place_of_lt_count {number : Nat} (within : number < names.count name) :
    ∃ place : Nat, names[place]? = some name ∧ (names.take place).count name = number := by
  induction names generalizing number with
  | nil => simp at within
  | cons first others inductionHypothesis =>
      by_cases same : first = name
      · cases number with
        | zero => exact ⟨0, by simp [same], rfl⟩
        | succ number =>
            obtain ⟨place, atPlace, before⟩ :=
              @inductionHypothesis number (by simpa [List.count_cons, same] using within)
            exact ⟨place + 1, by simpa using atPlace, by simp [same, before]⟩
      · obtain ⟨place, atPlace, before⟩ :=
          @inductionHypothesis number (by simpa [List.count_cons, same] using within)
        exact ⟨place + 1, by simpa using atPlace, by simp [same, before]⟩

theorem count_take_lt {first second : Nat} (before : first < second)
    (atFirst : names[first]? = some name) :
    (names.take first).count name < (names.take second).count name := by
  have reached : (names.take (first + 1)).count name = (names.take first).count name + 1 := by
    rw [List.take_add_one, atFirst]
    simp
  have further : (names.take (first + 1)).count name ≤ (names.take second).count name :=
    (List.take_prefix_take_left before).count_le name
  omega

theorem count_take_lt_count {place : Nat} (atPlace : names[place]? = some name) :
    (names.take place).count name < names.count name := by
  have bound := count_take_lt (Nat.lt_of_lt_of_le (Nat.lt_add_one place)
    (Nat.le_max_left (place + 1) names.length)) atPlace
  rwa [List.take_of_length_le (Nat.le_max_right _ _)] at bound

theorem getElem?_renameRepeated_nil {place : Nat} (atPlace : names[place]? = some name) :
    (renameRepeated [] names)[place]? =
      some (occurrenceName name ((names.take place).count name)) := by
  simp [getElem?_renameRepeated, atPlace]

/-- Occurrences that get one name are the same occurrence. -/
theorem RepeatsApart.occurrenceName_inj {other : String} {number otherNumber : Nat}
    (apart : RepeatsApart names) (within : number < names.count name)
    (otherWithin : otherNumber < names.count other)
    (same : occurrenceName name number = occurrenceName other otherNumber) :
    name = other ∧ number = otherNumber := by
  have member : name ∈ names := List.count_pos_iff.mp (Nat.zero_lt_of_lt within)
  have otherMember : other ∈ names := List.count_pos_iff.mp (Nat.zero_lt_of_lt otherWithin)
  cases number with
  | zero =>
      cases otherNumber with
      | zero => exact ⟨same, rfl⟩
      | succ repetition =>
          have collides : name = repeatedName other repetition := same
          exact absurd (collides ▸ member) (apart other otherMember repetition otherWithin)
  | succ repetition =>
      cases otherNumber with
      | zero =>
          have collides : repeatedName name repetition = other := same
          exact absurd (collides ▸ otherMember) (apart name member repetition within)
      | succ otherRepetition =>
          obtain ⟨sameName, sameNumber⟩ := repeatedName_inj same
          exact ⟨sameName, congrArg Nat.succ sameNumber⟩

theorem RepeatsApart.renameRepeated_nodup (apart : RepeatsApart names) :
    (renameRepeated [] names).Nodup := by
  rw [List.nodup_iff_getElem?_ne_getElem?]
  intro first second before within same
  rw [renameRepeated_length] at within
  have atFirst := List.getElem?_eq_getElem (Nat.lt_trans before within)
  have atSecond := List.getElem?_eq_getElem within
  rw [getElem?_renameRepeated_nil atFirst, getElem?_renameRepeated_nil atSecond] at same
  obtain ⟨sameName, sameNumber⟩ := apart.occurrenceName_inj (count_take_lt_count atFirst)
    (count_take_lt_count atSecond) (Option.some.inj same)
  have increasing := count_take_lt before atFirst
  rw [sameName] at increasing sameNumber
  omega

theorem repeatsApart_of_nodup (distinct : (renameRepeated [] names).Nodup) :
    RepeatsApart names := by
  intro name _ number enough member
  obtain ⟨place, atPlace, before⟩ := @exists_place_of_lt_count _ name (number + 1) enough
  obtain ⟨other, atOther, fresh⟩ := exists_place_of_lt_count (List.count_pos_iff.mpr member)
  have renamed : (renameRepeated [] names)[place]? = some (repeatedName name number) := by
    rw [getElem?_renameRepeated_nil atPlace, before, occurrenceName]
  have kept : (renameRepeated [] names)[other]? = some (repeatedName name number) := by
    rw [getElem?_renameRepeated_nil atOther, fresh, occurrenceName]
  obtain ⟨within, -⟩ := List.getElem?_eq_some_iff.mp renamed
  have samePlace : place = other :=
    (List.getElem?_inj within distinct).mp (renamed.trans kept.symm)
  rw [samePlace, atOther] at atPlace
  exact repeatedName_ne name number (Option.some.inj atPlace)

/-- The names that the reader makes are distinct exactly if no repetition gets a name of the
header. -/
theorem renameRepeated_nodup_iff : (renameRepeated [] names).Nodup ↔ RepeatsApart names :=
  ⟨repeatsApart_of_nodup, RepeatsApart.renameRepeated_nodup⟩

instance : DecidablePred RepeatsApart :=
  fun _ => decidable_of_iff _ renameRepeated_nodup_iff

end Places

section Schema

variable {schema entries : List (String × ElementType)} {entry : String × ElementType}

theorem mem_foldl_addToSchema (member : entry ∈ entries.foldl addToSchema schema) :
    entry ∈ schema ∨ entry ∈ entries := by
  induction entries generalizing schema with
  | nil => exact Or.inl member
  | cons first later inductionHypothesis =>
      rcases inductionHypothesis member with early | late
      · unfold addToSchema at early
        split at early
        · obtain ⟨present, presentMember, same⟩ := List.mem_map.mp early
          split at same
          · exact Or.inr (same ▸ List.mem_cons_self)
          · exact Or.inl (same ▸ presentMember)
        · rcases List.mem_append.mp early with old | new
          · exact Or.inl old
          · exact Or.inr (List.mem_singleton.mp new ▸ List.mem_cons_self)
      · exact Or.inr (List.mem_cons_of_mem first late)

/-- The columns stand in the order of their names in the header. -/
theorem foldl_addToSchema_sublist : ((entries.foldl addToSchema schema).map Prod.fst).Sublist
    (schema.map Prod.fst ++ entries.map Prod.fst) := by
  induction entries generalizing schema with
  | nil => simp
  | cons entry later inductionHypothesis =>
      refine inductionHypothesis.trans ?_
      rw [addToSchema_names, List.map_cons]
      split
      · exact (List.sublist_cons_self _ _).append_left _
      · simp

/-- Names that fall together make fewer columns than there are fields in the header. -/
theorem foldl_addToSchema_length_lt (repeats : ¬ (entries.map Prod.fst).Nodup) :
    (entries.foldl addToSchema []).length < entries.length := by
  have distinct : ((entries.foldl addToSchema []).map Prod.fst).Nodup :=
    foldl_addToSchema_nodup (by simp)
  have within : ((entries.foldl addToSchema []).map Prod.fst).Sublist (entries.map Prod.fst) :=
    foldl_addToSchema_sublist
  rw [← List.length_map Prod.fst, ← @List.length_map _ _ entries Prod.fst]
  refine Nat.lt_of_le_of_ne within.length_le fun same => repeats ?_
  rw [← within.eq_of_length same]
  exact distinct

variable {dialect : Dialect} {header : List Char} {later : List (List Char)}

theorem schemaOf_length_lt (repeats : ¬ (headerNames dialect header).Nodup) :
    (schemaOf dialect header later).length < (headerNames dialect header).length := by
  have pairs : ((headerNames dialect header).zip
      (inferTypes dialect (headerNames dialect header).length later)).map Prod.fst =
        headerNames dialect header := List.map_fst_zip (by rw [inferTypes_length])
  have fewer := foldl_addToSchema_length_lt (pairs.symm ▸ repeats)
  rwa [← List.length_map Prod.fst, ← List.length_map Prod.fst, pairs, List.length_map] at fewer

end Schema

section Rows

variable {kind : SymbolKind} {schema : List (String × ElementType)} {record : List (List Char)}

/-- A record of readable fields that is longer than its table is refused. -/
theorem readRecord_extraFields {number : Nat} (longer : schema.length < record.length)
    (readable : ∀ entry ∈ schema, ∀ field ∈ record,
      ∃ cell, readCell kind entry.2 (dropReturn field) = .ok cell) :
    readRecord kind number schema record = .error .extraFields := by
  induction schema generalizing record number with
  | nil =>
      cases record with
      | nil => simp at longer
      | cons field later => rfl
  | cons entry others inductionHypothesis =>
      cases record with
      | nil => simp at longer
      | cons field later =>
          obtain ⟨name, type⟩ := entry
          obtain ⟨cell, read⟩ := readable (name, type) List.mem_cons_self field List.mem_cons_self
          have rest := @inductionHypothesis later (number + 1) (Nat.lt_of_succ_lt_succ longer)
            fun entry member field within => readable entry (List.mem_cons_of_mem _ member) field
              (List.mem_cons_of_mem _ within)
          simp only [readRecord, read, rest]
          rfl

end Rows

end BenchmarkReport.Delimited
