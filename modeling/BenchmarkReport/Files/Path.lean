/-
This file takes the text of a path apart.
-/

import BenchmarkReport.Text.Split

namespace BenchmarkReport.Path

open Text

/-- The parts between the slashes of a path. An empty part and a single dot lead nowhere. -/
def components (path : List Char) : List (List Char) :=
  (split '/' path).filter fun part => !part.isEmpty && part != ['.']

/-- The last component names a file, unless it leads to the parent directory. -/
def fileName? (path : List Char) : Option (List Char) :=
  match (components path).getLast? with
  | some name => if name = ['.', '.'] then none else some name
  | none => none

/-- The part of a name after its last dot. A dot in front belongs to the name. -/
def nameExtension? : List Char → Option (List Char)
  | [] => none
  | _ :: rest => if rest.contains '.' then (split '.' rest).getLast? else none

def extension? (path : List Char) : Option (List Char) :=
  (fileName? path).bind nameExtension?

theorem nameExtension?_eq_none_iff (first : Char) (rest : List Char) :
    nameExtension? (first :: rest) = none ↔ '.' ∉ rest := by
  have last : (split '.' rest).getLast? ≠ none := by
    simp [List.getLast?_eq_none_iff, split_ne_nil]
  simp only [nameExtension?]
  split
  · rename_i found
    simp_all
  · rename_i absent
    simp_all

end BenchmarkReport.Path
