/-
This file finds the component that a path ends with. Slashes at the end, and slashes before a single
dot, lead nowhere. What stands in front of the component and behind it says nothing about its name.
-/

import BenchmarkReport.Files.Path
import BenchmarkReport.Proofs.Text.Lines

namespace BenchmarkReport.Path

open Text

/-- Slashes, each of which a single dot may follow. -/
inductive IsTrailer : List Char → Prop
  | nothing : IsTrailer []
  | slash {rest : List Char} : IsTrailer rest → IsTrailer ('/' :: rest)
  | dot {rest : List Char} : IsTrailer rest → IsTrailer ('/' :: '.' :: rest)

/-- Directories may stand in front of a component, with a slash behind them. -/
def IsFront (front : List Char) : Prop :=
  front = [] ∨ front.getLast? = some '/'

instance (front : List Char) : Decidable (IsFront front) :=
  inferInstanceAs (Decidable (_ ∨ _))

/-- A path that ends with a component. A single dot is one only where the path starts with it. -/
structure Ending where
  front : List Char
  name : List Char
  trailer : List Char
  isFront : IsFront front
  filled : name ≠ []
  undivided : '/' ∉ name
  leading : name = ['.'] → front = []
  isTrailer : IsTrailer trailer

namespace Ending

def path (ending : Ending) : List Char :=
  ending.front ++ ending.name ++ ending.trailer

end Ending

/-- These names have no extension. -/
def IsPlain (name : List Char) : Prop :=
  name = ['.'] ∨ name = ['.', '.'] ∨ '.' ∉ name.tail

instance (name : List Char) : Decidable (IsPlain name) :=
  inferInstanceAs (Decidable (_ ∨ _ ∨ _))

section Trailers

variable {trailer rest : List Char}

theorem IsTrailer.append (first : IsTrailer trailer) (second : IsTrailer rest) :
    IsTrailer (trailer ++ rest) := by
  induction first with
  | nothing => exact second
  | slash _ inductionHypothesis => exact .slash inductionHypothesis
  | dot _ inductionHypothesis => exact .dot inductionHypothesis

theorem isTrailer_replicate (count : Nat) : IsTrailer (List.replicate count '/') := by
  induction count with
  | zero => exact .nothing
  | succ count inductionHypothesis => exact .slash inductionHypothesis

end Trailers

section Components

theorem components_append_slash (first rest : List Char) :
    components (first ++ '/' :: rest) = components first ++ components rest := by
  rw [components, split_append_cons, List.filter_append]
  rfl

theorem components_front {front : List Char} (isFront : IsFront front) (rest : List Char) :
    components (front ++ rest) = components front ++ components rest := by
  rcases isFront with rfl | slash
  · rfl
  · obtain ⟨directories, rfl⟩ := List.getLast?_eq_some_iff.mp slash
    rw [List.append_assoc, List.singleton_append, components_append_slash,
      components_append_slash]
    simp [components, split_nil]

/-- A trailer has no components and adds none. -/
theorem components_append_trailer {trailer : List Char} (isTrailer : IsTrailer trailer)
    (path : List Char) : components (path ++ trailer) = components path := by
  induction isTrailer generalizing path with
  | nothing => rw [List.append_nil]
  | @slash rest _ inductionHypothesis =>
      have behind : components rest = [] := inductionHypothesis []
      rw [components_append_slash, behind, List.append_nil]
  | @dot rest _ inductionHypothesis =>
      have behind : components ('.' :: rest) = [] := inductionHypothesis ['.']
      rw [components_append_slash, behind, List.append_nil]

theorem components_of_undivided {name : List Char} (filled : name ≠ []) (undivided : '/' ∉ name) :
    components name = if name = ['.'] then [] else [name] := by
  rw [components, split_of_not_mem undivided]
  by_cases dot : name = ['.']
  · simp [dot]
  · simp [dot, filled]

theorem fileName?_of_trailer {path : List Char} (isTrailer : IsTrailer path) :
    fileName? path = none := by
  have none : components ([] ++ path) = components [] := components_append_trailer isTrailer []
  rw [fileName?, ← List.nil_append path, none]
  rfl

/-- The name of a path is the component that it ends with, unless this leads to a directory. -/
theorem fileName?_ending (ending : Ending) :
    fileName? ending.path =
      if ending.name = ['.'] ∨ ending.name = ['.', '.'] then none else some ending.name := by
  have shape : components ending.path =
      components ending.front ++ if ending.name = ['.'] then [] else [ending.name] := by
    rw [Ending.path, components_append_trailer ending.isTrailer,
      components_front ending.isFront,
      components_of_undivided ending.filled ending.undivided]
  rw [fileName?, shape]
  by_cases dot : ending.name = ['.']
  · rw [ending.leading dot]
    simp [dot, components, split_nil]
  · simp [dot]

end Components

section Cutting

variable {symbol : Char}

/-- A text is cut behind the last of some symbols. -/
theorem exists_cut (symbol : Char) (text : List Char) : ∃ front last, text = front ++ last ∧
    symbol ∉ last ∧ (front = [] ∨ front.getLast? = some symbol) := by
  induction text with
  | nil => exact ⟨[], [], rfl, by simp, Or.inl rfl⟩
  | cons first rest inductionHypothesis =>
      obtain ⟨front, last, rfl, absent, cut⟩ := inductionHypothesis
      rcases cut with rfl | cut
      · by_cases here : first = symbol
        · exact ⟨[first], last, rfl, absent, Or.inr (by simp [here])⟩
        · exact ⟨[], first :: last, rfl, by simp [absent, Ne.symm here], Or.inl rfl⟩
      · refine ⟨first :: front, last, rfl, absent, Or.inr ?_⟩
        rw [List.getLast?_cons, cut]
        rfl

/-- A text with a symbol in it is cut at the last one. -/
theorem exists_cut_of_mem {text : List Char} (member : symbol ∈ text) :
    ∃ before behind, text = before ++ symbol :: behind ∧ symbol ∉ behind := by
  obtain ⟨front, last, rfl, absent, rfl | cut⟩ := exists_cut symbol text
  · exact absurd member absent
  · obtain ⟨before, rfl⟩ := List.getLast?_eq_some_iff.mp cut
    exact ⟨before, last, by simp, absent⟩

end Cutting

section Endings

/-- Every path is a trailer or ends with a component. The trailer is taken off from behind until
neither a slash nor a slash before a dot is left. -/
theorem exists_ending (path : List Char) :
    IsTrailer path ∨ ∃ ending : Ending, ending.path = path := by
  have extend {front trailer : List Char} (isTrailer : IsTrailer trailer)
      (shorter : IsTrailer front ∨ ∃ ending : Ending, ending.path = front) :
      IsTrailer (front ++ trailer) ∨ ∃ ending : Ending, ending.path = front ++ trailer := by
    rcases shorter with isTrailerFront | ⟨ending, rfl⟩
    · exact Or.inl (isTrailerFront.append isTrailer)
    · refine Or.inr ⟨{ ending with
        trailer := ending.trailer ++ trailer
        isTrailer := ending.isTrailer.append isTrailer }, ?_⟩
      simp [Ending.path]
  obtain ⟨front, name, rfl, undivided, isFront⟩ := exists_cut '/' path
  by_cases empty : name = []
  · rcases isFront with rfl | slash
    · rw [empty]
      exact Or.inl .nothing
    · obtain ⟨directories, rfl⟩ := List.getLast?_eq_some_iff.mp slash
      rw [empty, List.append_nil]
      exact extend (.slash .nothing) (exists_ending directories)
  · by_cases dot : name = ['.']
    · rcases isFront with rfl | slash
      · exact Or.inr ⟨⟨[], name, [], Or.inl rfl, empty, undivided, fun _ => rfl, .nothing⟩,
          by simp [Ending.path]⟩
      · obtain ⟨directories, rfl⟩ := List.getLast?_eq_some_iff.mp slash
        rw [dot, List.append_assoc]
        exact extend (.dot .nothing) (exists_ending directories)
    · exact Or.inr ⟨⟨front, name, [], isFront, empty, undivided, fun same => absurd same dot,
        .nothing⟩, by simp [Ending.path]⟩
termination_by path.length

end Endings

section Extensions

theorem nameExtension?_of_cut {stem extension : List Char} (filled : stem ≠ [])
    (absent : '.' ∉ extension) : nameExtension? (stem ++ '.' :: extension) = some extension := by
  obtain ⟨first, rest, rfl⟩ := List.exists_cons_of_ne_nil filled
  rw [List.cons_append, nameExtension?, split_append_cons, split_of_not_mem absent]
  simp

theorem nameExtension?_of_not_mem {name : List Char} (absent : '.' ∉ name.tail) :
    nameExtension? name = none := by
  cases name with
  | nil => rfl
  | cons first rest => exact (nameExtension?_eq_none_iff first rest).mpr absent

/-- A plain name has no extension. -/
theorem extension?_ending_of_plain {ending : Ending} (plain : IsPlain ending.name) :
    extension? ending.path = none := by
  rw [extension?, fileName?_ending]
  by_cases leads : ending.name = ['.'] ∨ ending.name = ['.', '.']
  · rw [if_pos leads]
    rfl
  · rw [if_neg leads, Option.bind_some]
    rcases plain with dot | dots | absent
    · exact absurd (Or.inl dot) leads
    · exact absurd (Or.inr dots) leads
    · exact nameExtension?_of_not_mem absent

/-- Any other name has a part behind its last dot, and this is the extension. -/
theorem exists_extension {ending : Ending} (named : ¬ IsPlain ending.name) :
    ∃ stem extension, ending.name = stem ++ '.' :: extension ∧ '.' ∉ extension := by
  have inner : '.' ∈ ending.name.tail :=
    Decidable.byContradiction fun absent => named (Or.inr (Or.inr absent))
  exact exists_cut_of_mem (List.mem_of_mem_tail inner)

theorem extension?_ending {ending : Ending} (named : ¬ IsPlain ending.name)
    {stem extension : List Char} (cut : ending.name = stem ++ '.' :: extension)
    (absent : '.' ∉ extension) : extension? ending.path = some extension := by
  have filled : stem ≠ [] := by
    rintro rfl
    exact named (Or.inr (Or.inr (by simpa [cut] using absent)))
  have leads : ¬ (ending.name = ['.'] ∨ ending.name = ['.', '.']) :=
    fun either => named (either.imp_right Or.inl)
  rw [extension?, fileName?_ending, if_neg leads, Option.bind_some, cut]
  exact nameExtension?_of_cut filled absent

theorem isPlain_of_extension? {ending : Ending} (absent : extension? ending.path = none) :
    IsPlain ending.name := by
  refine Decidable.byContradiction fun named => ?_
  obtain ⟨stem, extension, cut, last⟩ := exists_extension named
  rw [extension?_ending named cut last] at absent
  cases absent

theorem extension?_of_trailer {path : List Char} (isTrailer : IsTrailer path) :
    extension? path = none := by
  rw [extension?, fileName?_of_trailer isTrailer]
  rfl

/-- The extension comes from the name alone. -/
theorem extension?_eq_of_name {first second : Ending} (same : first.name = second.name) :
    extension? first.path = extension? second.path := by
  rw [extension?, extension?, fileName?_ending, fileName?_ending, same]

end Extensions

section Lowering

theorem toNat_toLower (symbol : Char) : symbol.toLower.toNat =
    if 65 ≤ symbol.toNat ∧ symbol.toNat ≤ 90 then symbol.toNat + 32 else symbol.toNat := by
  have upper : (symbol.val ≥ 'A'.val ∧ symbol.val ≤ 'Z'.val) ↔
      65 ≤ symbol.toNat ∧ symbol.toNat ≤ 90 := Iff.rfl
  unfold Char.toLower
  by_cases capital : symbol.val ≥ 'A'.val ∧ symbol.val ≤ 'Z'.val
  · rw [dif_pos capital, if_pos (upper.mp capital)]
    have step : ('a'.val - 'A'.val).toNat = 32 := rfl
    show (symbol.val + ('a'.val - 'A'.val)).toNat = symbol.val.toNat + 32
    have bounds := upper.mp capital
    rw [UInt32.toNat_add, step]
    exact Nat.mod_eq_of_lt (by unfold Char.toNat at bounds; omega)
  · rw [dif_neg capital, if_neg (mt upper.mpr capital)]

/-- Only letters are changed. -/
theorem toLower_eq_iff {mark : Char} (early : mark.toNat < 65) (symbol : Char) :
    symbol.toLower = mark ↔ symbol = mark := by
  rw [← Char.toNat_inj, ← Char.toNat_inj, toNat_toLower]
  split <;> omega

variable {separator : Char}

theorem split_map_toLower (early : separator.toNat < 65) (text : List Char) :
    split separator (text.map Char.toLower) = (split separator text).map (List.map Char.toLower) := by
  induction text with
  | nil => rfl
  | cons symbol rest inductionHypothesis =>
      rw [List.map_cons, split_cons, split_cons, inductionHypothesis]
      simp only [toLower_eq_iff early]
      split
      · rfl
      · cases pieces : split separator rest with
        | nil => exact absurd pieces (split_ne_nil separator rest)
        | cons first others => rfl

theorem map_toLower_eq_iff {name marks : List Char} (early : ∀ mark ∈ marks, mark.toNat < 65) :
    name.map Char.toLower = marks ↔ name = marks := by
  induction name generalizing marks with
  | nil => rfl
  | cons symbol rest inductionHypothesis =>
      cases marks with
      | nil => simp
      | cons mark others =>
          rw [List.map_cons, List.cons.injEq, List.cons.injEq,
            toLower_eq_iff (early mark List.mem_cons_self),
            inductionHypothesis fun other member => early other (List.mem_cons_of_mem mark member)]

theorem components_map_toLower (path : List Char) :
    components (path.map Char.toLower) = (components path).map (List.map Char.toLower) := by
  rw [components, components, split_map_toLower (by decide), List.filter_map]
  congr 1
  refine List.filter_congr fun part _ => ?_
  have dot : (part.map Char.toLower == ['.']) = (part == ['.']) := by
    rw [Bool.eq_iff_iff, beq_iff_eq, beq_iff_eq]
    exact map_toLower_eq_iff (List.forall_mem_singleton.mpr (by decide))
  rw [Function.comp_apply, List.isEmpty_map, bne, bne, dot]

theorem fileName?_map_toLower (path : List Char) :
    fileName? (path.map Char.toLower) = (fileName? path).map (List.map Char.toLower) := by
  rw [fileName?, fileName?, components_map_toLower, List.getLast?_map]
  cases (components path).getLast? with
  | none => rfl
  | some name =>
      have dots : name.map Char.toLower = ['.', '.'] ↔ name = ['.', '.'] :=
        map_toLower_eq_iff
          (List.forall_mem_cons.mpr ⟨by decide, List.forall_mem_singleton.mpr (by decide)⟩)
      simp only [Option.map_some, dots]
      split <;> rfl

theorem nameExtension?_map_toLower (name : List Char) :
    nameExtension? (name.map Char.toLower) = (nameExtension? name).map (List.map Char.toLower) := by
  cases name with
  | nil => rfl
  | cons first rest =>
      have dot : '.' ∈ rest.map Char.toLower ↔ '.' ∈ rest := by
        simp only [List.mem_map, toLower_eq_iff (by decide : '.'.toNat < 65), exists_eq_right]
      simp only [List.map_cons, nameExtension?, List.contains_eq_mem, decide_eq_true_eq, dot,
        split_map_toLower (by decide : '.'.toNat < 65), List.getLast?_map]
      split <;> rfl

/-- The case of the letters of a path is that of its extension. -/
theorem extension?_map_toLower (path : List Char) :
    extension? (path.map Char.toLower) = (extension? path).map (List.map Char.toLower) := by
  rw [extension?, extension?, fileName?_map_toLower]
  cases fileName? path with
  | none => rfl
  | some name => exact nameExtension?_map_toLower name

end Lowering

end BenchmarkReport.Path
