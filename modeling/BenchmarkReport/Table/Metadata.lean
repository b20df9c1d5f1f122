/-
This file reads and writes the key and value pairs in the comments of a text.
-/

import BenchmarkReport.Text.Blank
import BenchmarkReport.Text.Lines

namespace BenchmarkReport.Metadata

open Text

/-- The key ends at the first colon of a comment. A comment without a colon or without a key says
nothing. -/
def parseComment? (comment : List Char) : Option (List Char × List Char) :=
  match comment.dropWhile (· != ':') with
  | [] => none
  | _ :: value =>
    let key := trim (comment.takeWhile (· != ':'))
    if key.isEmpty then none else some (key, trim value)

def parseLine? (marker : Char) : List Char → Option (List Char × List Char)
  | [] => none
  | symbol :: comment => if symbol = marker then parseComment? comment else none

/-- The pairs that the comments of a text hold, in their order. -/
def parse (marker : Char) (text : List Char) : List (List Char × List Char) :=
  (lines text).filterMap (parseLine? marker)

/-- The comment that holds a pair. -/
def renderPair (marker : Char) (pair : List Char × List Char) : List Char :=
  marker :: ' ' :: pair.1 ++ ':' :: ' ' :: pair.2

/-- One comment line for each pair. -/
def render (marker : Char) (pairs : List (List Char × List Char)) : List Char :=
  unlines (pairs.map (renderPair marker))

theorem parseLine?_nil (marker : Char) : parseLine? marker [] = none := rfl

theorem parseLine?_of_ne {marker symbol : Char} (different : symbol ≠ marker) (rest : List Char) :
    parseLine? marker (symbol :: rest) = none := by
  simp [parseLine?, different]

end BenchmarkReport.Metadata
