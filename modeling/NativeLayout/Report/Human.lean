/-
# Reports for a reader at a terminal

One line for each entry, the mismatches and the compiler's words below those that
failed, then the failed size checks, the gaps and the result.
-/

import NativeLayout.Report.Basic

namespace NativeLayout.Report

/-- The lines of an entry. The compiler's output is shown if it was asked for or if no
mismatch could be read from it. -/
def entryLines (verbose : Bool) (entry : Entry) : List String :=
  match entry.verdict with
  | .pass => ["  [OK]   " ++ entry.name ++ " (" ++ entry.duration.display ++ ")"]
  | .skip reason => ["  [SKIP] " ++ entry.name ++ " (" ++ reason.display ++ ")"]
  | .fail mismatches diagnostics =>
    ("  [FAIL] " ++ entry.name ++ " [" ++ entry.headers.display ++ "]") ::
      mismatches.map (fun m => "      " ++ m.display) ++
      (if verbose || mismatches.isEmpty then
        (Text.lines diagnostics).map fun line => "      | " ++ line
      else [])

/-- A blank line, a title and a line for each failure; no failures give no lines. -/
def failureLines (title : String) (failures : List String) : List String :=
  if failures.isEmpty then []
  else "" :: title :: failures.map ("  [FAIL] " ++ ·)

/-- The lines of a report. -/
def humanLines (r : Report) (verbose : Bool) : List String :=
  let compiler := match r.compiler with
    | none => ""
    | some path => " (" ++ path ++ ")"
  ["Conformance: " ++ r.catalog ++ compiler, String.ofList (List.replicate 50 '='), ""] ++
    r.entries.flatMap (entryLines verbose) ++
    failureLines "Declared sizes:" (r.failedSizeChecks.filterMap SizeCheck.message?) ++
    failureLines "Catalog gaps:" (r.gaps.map Gap.display) ++
    ["",
     "Result: " ++ (if r.passed then "PASSED" else "FAILED") ++ " " ++ r.countsText,
     "Total time: " ++ r.totalDuration.display]

/-- A report for a reader, with the compiler's output for every failure if asked for. -/
def human (r : Report) (verbose : Bool) : String := Text.ofLines (r.humanLines verbose)

end NativeLayout.Report
