/-
This file gives the grammar by which the path of a picture names its format. Only the component that
the path ends with counts, and of this the part behind its last dot.
-/

import BenchmarkReport.Plot.Format
import BenchmarkReport.Proofs.Files.Ending

namespace BenchmarkReport.Plot.PlotFormat

open BenchmarkReport.Path

/-- What an extension in small letters stands for. -/
inductive Means (extension : String) : Except PlotError PlotFormat → Prop
  | png (spelled : extension = "png") : Means extension (.ok .png)
  | jpeg (spelled : extension = "jpg" ∨ extension = "jpeg") : Means extension (.ok .jpeg)
  | bmp (spelled : extension = "bmp") : Means extension (.ok .bmp)
  | svg (spelled : extension = "svg") : Means extension (.ok .svg)
  | unknown (unlisted : extension ∉ ["png", "jpg", "jpeg", "bmp", "svg"]) :
      Means extension (.error (.unsupportedFormat extension))

/-- What a path stands for. It has no extension when it ends with no component or with a plain
one. -/
inductive Denotes (path : String) : Except PlotError PlotFormat → Prop
  | missing (plain : ∀ ending : Ending, ending.path = path.toList → IsPlain ending.name) :
      Denotes path (.error (.missingExtension path))
  | named {ending : Ending} {stem extension : List Char} {outcome : Except PlotError PlotFormat}
      (ends : ending.path = path.toList) (named : ¬ IsPlain ending.name)
      (cut : ending.name = stem ++ '.' :: extension) (last : '.' ∉ extension)
      (means : Means (String.ofList (extension.map Char.toLower)) outcome) : Denotes path outcome

/-- Two outcomes are of one kind, whatever text they show. -/
inductive SameKind : Except PlotError PlotFormat → Except PlotError PlotFormat → Prop
  | format (format : PlotFormat) : SameKind (.ok format) (.ok format)
  | missing (first second : String) :
      SameKind (.error (.missingExtension first)) (.error (.missingExtension second))
  | unsupported (first second : String) :
      SameKind (.error (.unsupportedFormat first)) (.error (.unsupportedFormat second))

section Outcomes

variable {path first second : String}

theorem Means.unique {extension : String} {outcome other : Except PlotError PlotFormat}
    (means : Means extension outcome) (otherMeans : Means extension other) : outcome = other := by
  cases means <;> cases otherMeans <;> simp_all

theorem ofPath_of_none (absent : extension? path.toList = none) :
    ofPath path = .error (.missingExtension path) := by
  rw [ofPath, absent]

theorem means_of_some {extension : String} {format : PlotFormat}
    (known : ofExtension? extension = some format) : Means extension (.ok format) := by
  unfold ofExtension? at known
  split at known
  · cases known
    exact .png rfl
  · cases known
    exact .jpeg (Or.inl rfl)
  · cases known
    exact .jpeg (Or.inr rfl)
  · cases known
    exact .bmp rfl
  · cases known
    exact .svg rfl
  · cases known

theorem means_of_none {extension : String} (unknown : ofExtension? extension = none) :
    Means extension (.error (.unsupportedFormat extension)) := by
  refine .unknown fun listed => ?_
  simp only [List.mem_cons, List.not_mem_nil, or_false] at listed
  rcases listed with rfl | rfl | rfl | rfl | rfl <;> cases unknown

theorem means_ofPath {extension : List Char} (found : extension? path.toList = some extension) :
    Means (String.ofList (extension.map Char.toLower)) (ofPath path) := by
  rw [ofPath, found]
  dsimp only
  cases known : ofExtension? (String.ofList (extension.map Char.toLower)) with
  | none => exact means_of_none known
  | some format => exact means_of_some known

/-- Two paths whose extensions differ in the case of letters only are of one kind. -/
theorem sameKind_of_extension (same : (extension? first.toList).map (List.map Char.toLower) =
    (extension? second.toList).map (List.map Char.toLower)) :
    SameKind (ofPath first) (ofPath second) := by
  cases found : extension? first.toList with
  | none =>
      rw [found, Option.map_none, eq_comm, Option.map_eq_none_iff] at same
      rw [ofPath_of_none found, ofPath_of_none same]
      exact .missing first second
  | some extension =>
      rw [found, Option.map_some, eq_comm] at same
      obtain ⟨other, otherFound, lowered⟩ := Option.map_eq_some_iff.mp same
      have means := means_ofPath found
      have otherMeans := means_ofPath otherFound
      rw [lowered] at otherMeans
      rw [means.unique otherMeans]
      generalize ofPath second = outcome at otherMeans
      cases otherMeans with
      | png | jpeg | bmp | svg => exact .format _
      | unknown => exact .unsupported _ _

theorem ofPath_eq_iff (path : String) (outcome : Except PlotError PlotFormat) :
    ofPath path = outcome ↔ Denotes path outcome := by
  constructor
  · rintro rfl
    cases found : extension? path.toList with
    | none =>
        rw [ofPath_of_none found]
        exact .missing fun ending ends => isPlain_of_extension? (ends ▸ found)
    | some extension =>
        rcases exists_ending path.toList with isTrailer | ⟨ending, ends⟩
        · rw [extension?_of_trailer isTrailer] at found
          cases found
        · have named : ¬ IsPlain ending.name := fun plain => by
            rw [← ends, extension?_ending_of_plain plain] at found
            cases found
          obtain ⟨stem, part, cut, last⟩ := exists_extension named
          have means := means_ofPath (ends ▸ extension?_ending named cut last)
          exact .named ends named cut last means
  · intro denotes
    cases denotes with
    | missing plain =>
        apply ofPath_of_none
        rcases exists_ending path.toList with isTrailer | ⟨ending, ends⟩
        · exact extension?_of_trailer isTrailer
        · rw [← ends]
          exact extension?_ending_of_plain (plain ending ends)
    | named ends named cut last means =>
        exact (means_ofPath (ends ▸ extension?_ending named cut last)).unique means

end Outcomes

section Neighbours

variable (ending : Ending) (directories : List Char)

/-- The path of an ending with directories put in front of its component. -/
def longerPath : String :=
  String.ofList (ending.front ++ directories ++ ending.name ++ ending.trailer)

variable {ending directories}

/-- Directories in front of a component say nothing about it. -/
theorem extension?_longerPath (isFront : IsFront directories) (named : ending.name ≠ ['.']) :
    extension? (longerPath ending directories).toList = extension? ending.path := by
  have front : IsFront (ending.front ++ directories) := by
    rcases isFront with rfl | slash
    · rw [List.append_nil]
      exact ending.isFront
    · exact Or.inr (by rw [List.getLast?_append, slash]; rfl)
  let longer : Ending := { ending with
    front := ending.front ++ directories
    isFront := front
    leading := fun dot => absurd dot named }
  have path : (longerPath ending directories).toList = longer.path := String.toList_ofList
  rw [path]
  exact extension?_eq_of_name rfl

/-- A single dot behind directories leads to these. -/
theorem extension?_longerPath_of_dot (isFront : IsFront directories) (dot : ending.name = ['.']) :
    extension? (longerPath ending directories).toList = extension? directories := by
  have front : ending.front = [] := ending.leading dot
  have same : components (longerPath ending directories).toList = components directories := by
    rw [longerPath, String.toList_ofList, components_append_trailer ending.isTrailer, front,
      List.nil_append, components_front isFront,
      components_of_undivided ending.filled ending.undivided, if_pos dot, List.append_nil]
  rw [extension?, extension?, fileName?, fileName?, same]

theorem extension?_slashes (path : List Char) (count : Nat) :
    extension? (path ++ List.replicate count '/') = extension? path := by
  have same := components_append_trailer (isTrailer_replicate count) path
  rw [extension?, extension?, fileName?, fileName?, same]

end Neighbours

/-- A path denotes an outcome by its last component alone. So the kind of the outcome is the same
whatever the case of letters is, however many slashes stand at the end, and whatever directories
stand in front of the component, unless this is a single dot: then it is that of the directories. -/
theorem ofPath_grammar (path : String) :
    (∀ outcome, ofPath path = outcome ↔ Denotes path outcome) ∧
    (∀ other : String, other.toList.map Char.toLower = path.toList.map Char.toLower →
      SameKind (ofPath other) (ofPath path)) ∧
    (∀ count : Nat, SameKind
      (ofPath (String.ofList (path.toList ++ List.replicate count '/'))) (ofPath path)) ∧
    (∀ (ending : Ending) (directories : List Char), ending.path = path.toList →
      IsFront directories →
      (ending.name ≠ ['.'] → SameKind (ofPath (longerPath ending directories)) (ofPath path)) ∧
      (ending.name = ['.'] → SameKind (ofPath (longerPath ending directories))
        (ofPath (String.ofList directories)))) := by
  refine ⟨ofPath_eq_iff path, ?_, ?_, ?_⟩
  · intro other same
    apply sameKind_of_extension
    rw [← extension?_map_toLower, ← extension?_map_toLower, same]
  · intro count
    apply sameKind_of_extension
    rw [String.toList_ofList, extension?_slashes]
  · intro ending directories ends isFront
    constructor
    · intro named
      apply sameKind_of_extension
      rw [extension?_longerPath isFront named, ends]
    · intro dot
      apply sameKind_of_extension
      rw [extension?_longerPath_of_dot isFront dot, String.toList_ofList]

/-- A name with two dots in a directory with one, and a trailer. -/
def dottedEnding : Ending where
  front := "d.x/".toList
  name := ".a.PnG".toList
  trailer := "/.//".toList
  isFront := by decide
  filled := by decide
  undivided := by decide
  leading := by decide
  isTrailer := .dot (.slash (.slash .nothing))

theorem dottedEnding_png :
    Denotes "d.x/.a.PnG/.//" (.ok .png) ∧
    SameKind (ofPath "D.x/.A.pNg/.//") (ofPath "d.x/.a.PnG/.//") ∧
    SameKind (ofPath (longerPath dottedEnding "../e.bmp/".toList)) (ofPath "d.x/.a.PnG/.//") :=
  have grammar := ofPath_grammar "d.x/.a.PnG/.//"
  ⟨(grammar.1 _).mp rfl, grammar.2.1 "D.x/.A.pNg/.//" (by decide),
    (grammar.2.2.2 dottedEnding "../e.bmp/".toList (by decide) (by decide)).1 (by decide)⟩

/-- A single dot that is no directory of its own. -/
def lonelyDot : Ending where
  front := []
  name := ['.']
  trailer := []
  isFront := Or.inl rfl
  filled := by decide
  undivided := by decide
  leading := fun _ => rfl
  isTrailer := .nothing

theorem lonelyDot_displaced :
    ofPath (String.ofList lonelyDot.path) = .error (.missingExtension ".") ∧
    ofPath (longerPath lonelyDot "x.png/".toList) = .ok .png ∧
    ¬ SameKind (ofPath (longerPath lonelyDot "x.png/".toList))
      (ofPath (String.ofList lonelyDot.path)) := by
  have alone : ofPath (String.ofList lonelyDot.path) = .error (.missingExtension ".") := rfl
  have behind : ofPath (longerPath lonelyDot "x.png/".toList) = .ok .png := rfl
  refine ⟨alone, behind, ?_⟩
  rw [alone, behind]
  exact nofun

end BenchmarkReport.Plot.PlotFormat
