/-
# Reports as JSON

The whole of a report as one JSON value. Times are whole milliseconds, and what a
report does not know is left out.
-/

import NativeLayout.Json
import NativeLayout.Report.Basic

namespace NativeLayout.Report

/-- A mismatch as JSON. -/
def mismatchRecord (m : Mismatch) : Json :=
  .object [("structure", .string m.owner), ("field", .string m.field),
    ("kind", .string m.kind.word)]

/-- A verdict as JSON. -/
def verdictRecord : Verdict → Json
  | .pass => .object [("status", .string "pass")]
  | .skip reason => .object [("status", .string "skip"), ("reason", .string reason.word)]
  | .fail mismatches diagnostics =>
    .object [("status", .string "fail"), ("mismatches", .array (mismatches.map mismatchRecord)),
      ("diagnostics", .string diagnostics)]

/-- An entry as JSON. -/
def entryRecord (entry : Entry) : Json :=
  .object [("structure", .string entry.name),
    ("headers", .array (entry.headers.toList.map .string)),
    ("verdict", verdictRecord entry.verdict),
    ("duration", .number entry.duration.milliseconds)]

/-- A size check as JSON. -/
def sizeRecord (check : SizeCheck) : Json :=
  .object [("structure", .string check.name), ("measured", .number check.measured),
    ("declared", match check.declared with
      | none => .null
      | some size => .number size)]

/-- A gap as JSON. -/
def gapRecord (gap : Gap) : Json :=
  let about : List (String × Json) :=
    [("kind", .string gap.word), ("structure", .string gap.name)]
  match gap with
  | .staleSkip _ field => .object (about ++ [("field", .string field)])
  | .invalidDefinition _ error => .object (about ++ [("error", .string error)])
  | _ => .object about

/-- A member that is left out if there is no value. -/
def optionalMember (name : String) : Option String → List (String × Json)
  | none => []
  | some value => [(name, .string value)]

/-- A report as JSON. -/
def record (r : Report) : Json :=
  .object ([("catalog", .string r.catalog)] ++ optionalMember "compiler" r.compiler ++
    optionalMember "target_triple" r.target ++
    [("entries", .array (r.entries.map entryRecord)),
     ("size_checks", .array (r.sizeChecks.map sizeRecord)),
     ("catalog_gaps", .array (r.gaps.map gapRecord)),
     ("total_duration", .number r.totalDuration.milliseconds),
     ("passed", .bool r.passed)])

end NativeLayout.Report
