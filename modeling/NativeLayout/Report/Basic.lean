/-
# Reports

The outcome of a run: a verdict for each entry of the matrix, the size checks,
and the gaps of the catalog. A report begins as one that passes, and whatever is
added to it and fails clears that mark.
-/

import NativeLayout.Catalog.Gap
import NativeLayout.Diagnostics
import NativeLayout.Duration
import NativeLayout.Matrix
import NativeLayout.Text.Blank

namespace NativeLayout

/-- Why an entry was not compared. -/
inductive SkipReason
  /-- The structure is recorded as unsupported. -/
  | structureUnsupported
  /-- Nothing is recorded of the structure, and such structures are skipped. -/
  | structureUnknown
  /-- A header cannot be included. -/
  | headersUnsupported
deriving DecidableEq, Repr

namespace SkipReason

/-- The word for a reason in reports. -/
def word : SkipReason → String
  | structureUnsupported => "structure-unsupported"
  | structureUnknown => "structure-unknown"
  | headersUnsupported => "headers-unsupported"

/-- A reason as a reader sees it. -/
def display : SkipReason → String
  | structureUnsupported => "structure not supported on this platform"
  | structureUnknown => "structure support unknown"
  | headersUnsupported => "headers not available"

end SkipReason

/-- The outcome of one entry. -/
inductive Verdict
  | pass
  | skip (reason : SkipReason)
  /-- The compiler refused the assertions; there are no mismatches if it did so for
  another reason than a failed assertion. -/
  | fail (mismatches : List Mismatch) (diagnostics : String)
deriving DecidableEq, Repr

namespace Verdict

/-- Whether the assertions hold. -/
def isPass : Verdict → Bool
  | pass => true
  | _ => false

/-- Whether the entry was not compared. -/
def isSkip : Verdict → Bool
  | skip _ => true
  | _ => false

/-- Whether the compiler refused the assertions. -/
def isFail : Verdict → Bool
  | fail _ _ => true
  | _ => false

/-- The verdict of output with which a compiler refused the assertions. -/
def ofDiagnostics (diagnostics : String) : Verdict :=
  fail (Diagnostics.mismatches diagnostics) diagnostics

/-- One line about a failure: its mismatches, else the first line of the output that
speaks of an error. -/
def summary? : Verdict → Option String
  | fail [] diagnostics =>
    let line := (Text.lines diagnostics).find? (Text.contains · "error")
    some (Text.trim (line.getD "compilation failed"))
  | fail mismatches _ => some (String.intercalate "; " (mismatches.map Mismatch.display))
  | _ => none

/-- There is a summary exactly if the entry failed. -/
theorem summary?_isSome (v : Verdict) : v.summary?.isSome = v.isFail := by
  cases v with
  | fail mismatches diagnostics => cases mismatches <;> rfl
  | _ => rfl

end Verdict

/-- The outcome of one entry of the matrix, and the time it took. -/
structure Entry where
  name : String
  headers : HeaderSet
  verdict : Verdict
  duration : Duration := .zero
deriving DecidableEq

/-- The outcome of a run. -/
structure Report where
  catalog : String
  compiler : Option String := none
  target : Option String := none
  entries : List Entry := []
  sizeChecks : List SizeCheck := []
  gaps : List Gap := []
  totalDuration : Duration := .zero
  passed : Bool := true
deriving DecidableEq

namespace Report

/-- A report with one more entry. -/
def addEntry (r : Report) (entry : Entry) : Report :=
  { r with
    entries := r.entries ++ [entry]
    passed := if entry.verdict.isFail then false else r.passed }

/-- A report with one more size check. -/
def addSizeCheck (r : Report) (check : SizeCheck) : Report :=
  { r with
    sizeChecks := r.sizeChecks ++ [check]
    passed := if check.passed then r.passed else false }

/-- A report with one more gap. -/
def addGap (r : Report) (gap : Gap) : Report :=
  { r with gaps := r.gaps ++ [gap], passed := false }

/-- A report with more gaps. -/
def addGaps (r : Report) (gaps : List Gap) : Report := gaps.foldl addGap r

/-- The entries that failed. -/
def failedEntries (r : Report) : List Entry := r.entries.filter (·.verdict.isFail)

/-- The size checks that failed. -/
def failedSizeChecks (r : Report) : List SizeCheck := r.sizeChecks.filter (!·.passed)

/-- How many entries passed. -/
def passedCount (r : Report) : Nat := (r.entries.filter (·.verdict.isPass)).length

/-- How many entries failed. -/
def failedCount (r : Report) : Nat := r.failedEntries.length

/-- How many entries were not compared. -/
def skippedCount (r : Report) : Nat := (r.entries.filter (·.verdict.isSkip)).length

/-- The numbers of entries by outcome, as a reader sees them. -/
def countsText (r : Report) : String :=
  s!"({r.passedCount} passed, {r.failedCount} failed, {r.skippedCount} skipped)"

end Report

end NativeLayout
