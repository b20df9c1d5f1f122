/-
This file makes tables from text.
-/

import BenchmarkReport.Table
import BenchmarkReport.Table.Metadata
import BenchmarkReport.Delimited.Reader
import BenchmarkReport.Files.Opened

namespace BenchmarkReport.Table

open Text Delimited Files

/-- Lines that are not blank. -/
def filledLines (text : List Char) : List (List Char) :=
  (lines text).filter (!isBlankLine ·)

/-- The pairs in the comments of a text. Without a marker there are no comments. -/
def metadataOf (dialect : Dialect) (text : List Char) : List (String × String) :=
  match dialect.marker? with
  | none => []
  | some marker =>
    (Metadata.parse marker text).map fun pair => (.ofList pair.1, .ofList pair.2)

/-- A table is read from the lines of a text that are not blank. -/
def ofText (dialect : Dialect) (text : List Char) : Except TableError Table :=
  let data := filledLines text
  if data.all (startsWith dialect.marker?) then .error .noHeader
  else match readColumns dialect (unlines data) with
    | .error fault => .error (.malformed fault)
    | .ok columns => .ok { columns, metadata := metadataOf dialect text }

/-- The bytes of a source have to be text. -/
def ofBytes (dialect : Dialect) (bytes : ByteArray) : Except TableError Table :=
  match String.fromUTF8? bytes with
  | none => .error (.unread "stream did not contain valid UTF-8")
  | some text => ofText dialect text.toList

/-- A path is opened first, and a directory can be opened but not read. -/
def load (dialect : Dialect) (path : String) (opened : Opened) : Except TableError Table :=
  match opened with
  | .refused fault => .error (.unopened path fault.message)
  | .directory => .error (.unread "Is a directory (os error 21)")
  | .file bytes => ofBytes dialect bytes

theorem ofText_metadata {dialect : Dialect} {text : List Char} {table : Table}
    (success : ofText dialect text = .ok table) : table.metadata = metadataOf dialect text := by
  simp only [ofText] at success
  split at success
  · simp at success
  · split at success
    · simp at success
    · simp only [Except.ok.injEq] at success
      rw [← success]

end BenchmarkReport.Table
