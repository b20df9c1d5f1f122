/-
This file lists the faults of delimited text and says how they are reported.
-/

import BenchmarkReport.Column
import BenchmarkReport.Text.Utf8

namespace BenchmarkReport.Delimited

open Text

/-- A field may fail to be a value of its column. -/
inductive FieldFault
  | unescaped (field : String)
  | notBoolean (text : String)
  | leftover
  | undecodable
  | undecodableQuoted (fault : DecodingFault)
  deriving DecidableEq

def FieldFault.message : FieldFault → String
  | .unescaped field => "invalid csv file\n\nField `" ++ field ++ "` is not properly escaped."
  | .notBoolean text => "error while parsing value " ++ text ++ " as boolean"
  | .leftover => "remaining bytes non-empty"
  | .undecodable => "invalid utf-8 sequence"
  | .undecodableQuoted fault => fault.message

/-- The place of a field and its column's type. The number counts from one. -/
structure FieldPlace where
  field : String
  type : ElementType
  column : String
  number : Nat

/-- These faults stop the reading of a text. -/
inductive Fault
  | compressed
  | noData
  | extraFields
  | badField (place : FieldPlace) (fault : FieldFault)

/-- A place in the text is not told by its number. -/
def hiddenOffset : String := "N"

def FieldPlace.message (place : FieldPlace) (fault : FieldFault) : String :=
  "could not parse `" ++ place.field ++ "` as dtype `" ++ place.type.name ++ "` at column '" ++
    place.column ++ "' (column number " ++ toString place.number ++ ")\n\n" ++
    "The current offset in the file is " ++ hiddenOffset ++ " bytes.\n\n" ++
    "You might want to try:\n" ++
    "- increasing `infer_schema_length` (e.g. `infer_schema_length=10000`),\n" ++
    "- specifying correct dtype with the `schema_overrides` argument\n" ++
    "- setting `ignore_errors` to `True`,\n" ++
    "- adding `" ++ place.field ++ "` to the `null_values` list.\n\n" ++
    "Original error: ```" ++ fault.message ++ "```"

def Fault.message : Fault → String
  | .compressed => "cannot read compressed CSV file; compile with feature 'decompress'"
  | .noData => "no data: empty CSV"
  | .extraFields =>
    "found more fields than defined in 'Schema'\n\n" ++
      "Consider setting 'truncate_ragged_lines=true'."
  | .badField place fault => place.message fault

end BenchmarkReport.Delimited
