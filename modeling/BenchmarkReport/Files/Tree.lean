/-
This file follows paths through a tree of directories and files.
-/

import BenchmarkReport.Files.Opened
import BenchmarkReport.Text.Split

namespace BenchmarkReport.Files

open Text

/-- The names that lead to a place in a tree, the outermost first. -/
abbrev Place := List (List Char)

/-- A tree lists its files and directories. The directories around a listed place need not be
listed. -/
structure Tree where
  files : List (Place × ByteArray)
  directories : List Place

/-- A path may lead out of a tree, where it finds directories above it and nothing else. -/
inductive Location
  | within (place : Place)
  | outside
  deriving DecidableEq

/-- The names in a path. An empty name leads nowhere. -/
def names (path : String) : List (List Char) :=
  split '/' path.toList

/-- A name has a limited number of bytes. -/
def nameLimit : Nat := 255

def pathLimit : Nat := 4095

def isTooLong (name : List Char) : Bool :=
  nameLimit < (String.ofList name).utf8ByteSize

namespace Tree

/-- The directories that a place lies in, and the place itself. -/
def surroundings (place : Place) : List Place :=
  (List.range place.length).map fun index => place.take (index + 1)

def allDirectories (tree : Tree) : List Place :=
  let listed := tree.directories ++ tree.files.map fun file => file.1.dropLast
  (listed.flatMap surroundings).eraseDups

/-- What stands at a place. The first place is the tree itself. -/
def entry? (tree : Tree) (place : Place) : Option Opened :=
  match tree.files.find? (·.1 == place) with
  | some file => some (.file file.2)
  | none =>
    if place.isEmpty || tree.allDirectories.contains place then some .directory else none

/-- One step along a path. Only a directory has anything below it. -/
def enter (tree : Tree) (location : Location) (name : List Char) : Except OpenFault Location :=
  let stays := name.isEmpty || name == ['.']
  let leaves := name == ['.', '.']
  match location with
  | .outside =>
    if stays || leaves then .ok .outside
    else .error (if isTooLong name then .nameTooLong else .notFound)
  | .within place =>
    match tree.entry? place with
    | some .directory =>
      if stays then .ok location
      else if leaves then .ok (if place.isEmpty then .outside else .within place.dropLast)
      else if isTooLong name then .error .nameTooLong
      else if (tree.entry? (place ++ [name])).isSome then .ok (.within (place ++ [name]))
      else .error .notFound
    | _ => .error .notDirectory

/-- A path starts in the tree, or above it when a slash is in front. -/
def startOf (path : String) : Location :=
  if path.toList.head? = some '/' then .outside else .within []

/-- What the opening of a path gives. -/
def opened (tree : Tree) (path : String) : Opened :=
  if path.toList.contains (Char.ofNat 0) then .refused .zeroCharacter
  else if path.isEmpty then .refused .notFound
  else if pathLimit < path.utf8ByteSize then .refused .nameTooLong
  else
    match (names path).foldlM tree.enter (startOf path) with
    | .error fault => .refused fault
    | .ok .outside => .directory
    | .ok (.within place) => (tree.entry? place).getD (.refused .notFound)

end Tree

end BenchmarkReport.Files
