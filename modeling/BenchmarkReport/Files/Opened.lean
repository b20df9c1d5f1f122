/-
This file says what the opening of a path may give.
-/

namespace BenchmarkReport.Files

/-- Why a path cannot be opened. -/
inductive OpenFault
  | notFound
  | notDirectory
  | nameTooLong
  | zeroCharacter
  | other (reason : String)
  deriving DecidableEq, Repr

def OpenFault.message : OpenFault → String
  | .notFound => "No such file or directory (os error 2)"
  | .notDirectory => "Not a directory (os error 20)"
  | .nameTooLong => "File name too long (os error 36)"
  | .zeroCharacter => "file name contained an unexpected NUL byte"
  | .other reason => reason

/-- A path that can be opened leads to a directory or to a file. -/
inductive Opened
  | refused (fault : OpenFault)
  | directory
  | file (bytes : ByteArray)

end BenchmarkReport.Files
