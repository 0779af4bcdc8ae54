/-
# Reports as workflow annotations

A workflow runner takes a line that begins with two colons as a command. The
report opens with one error annotation for each failure and goes on with a
summary in Markdown inside a folded group. A message is escaped so that it stays
within its line.
-/

import NativeLayout.Report.Basic

namespace NativeLayout.Report

/-- One character of a message in an annotation: line feeds and per cent signs are
written as codes, carriage returns are dropped. -/
def annotationChar (c : Char) : List Char :=
  if c = '%' then ['%', '2', '5']
  else if c = '\r' then []
  else if c = '\n' then ['%', '0', 'A']
  else [c]

/-- A message as it stands in an annotation. -/
def escapeMessage (message : String) : String :=
  String.ofList (message.toList.flatMap annotationChar)

/-- An error annotation. -/
def errorLine (title message : String) : String :=
  "::error title=" ++ title ++ "::" ++ escapeMessage message

/-- The annotation of an entry, if it failed. -/
def entryAnnotation? (entry : Entry) : Option String :=
  entry.verdict.summary?.map (errorLine ("ABI mismatch in " ++ entry.name))

/-- The annotation of a size check, if it failed. -/
def sizeAnnotation? (check : SizeCheck) : Option String :=
  check.message?.map (errorLine ("Declared size of " ++ check.name))

/-- The annotations of a report: entries, then size checks, then gaps. -/
def annotations (r : Report) : List String :=
  r.entries.filterMap entryAnnotation? ++
    r.failedSizeChecks.filterMap sizeAnnotation? ++
    r.gaps.map fun gap => errorLine "Catalog gap" gap.display

/-- The sign for an outcome in the table. -/
def statusSign : Verdict → String
  | .pass => ":white_check_mark:"
  | .skip _ => ":fast_forward:"
  | .fail _ _ => ":x:"

/-- A bold label and a value, if there is a value. -/
def labelLine (label : String) : Option String → List String
  | none => []
  | some value => ["**" ++ label ++ ":** " ++ value]

/-- The row of an entry in the table. -/
def tableRow (entry : Entry) : String :=
  "| " ++ entry.name ++ " | " ++ entry.headers.display ++ " | " ++
    statusSign entry.verdict ++ " |"

/-- The folded output of a failed entry. -/
def detailLines (entry : Entry) : List String :=
  match entry.verdict with
  | .fail _ diagnostics =>
    ["", "<details>", "<summary>" ++ entry.name ++ "</summary>", "", "```",
     Text.trimEnd diagnostics, "```", "", "</details>"]
  | _ => []

/-- The details of all failed entries under a heading; no failures give no lines. -/
def failedDetails (r : Report) : List String :=
  if r.failedEntries.isEmpty then []
  else ["", "### Failed Checks"] ++ r.failedEntries.flatMap detailLines

/-- The summary in Markdown. -/
def summaryLines (r : Report) : List String :=
  ["## " ++ r.catalog, ""] ++ labelLine "Compiler" r.compiler ++
    labelLine "Target Triple" r.target ++
    ["", "| Structure | Headers | Status |", "|-----------|---------|--------|"] ++
    r.entries.map tableRow ++
    ["",
     "**Result:** " ++ (if r.passed then ":heavy_check_mark: PASSED" else ":x: FAILED") ++ " " ++
       r.countsText,
     "**Total time:** " ++ r.totalDuration.display] ++
    r.failedDetails

/-- The lines of a report; the output of a failed entry counts as one of them. -/
def workflowLines (r : Report) : List String :=
  r.annotations ++ ["::group::Conformance Summary", ""] ++ r.summaryLines ++ ["::endgroup::"]

/-- A report as workflow annotations. -/
def workflow (r : Report) : String := Text.ofLines r.workflowLines

end NativeLayout.Report
