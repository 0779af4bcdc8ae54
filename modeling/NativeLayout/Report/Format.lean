/-
# Report formats

The three forms in which a report can be written, and the words that name them.
-/

import NativeLayout.Report.Annotations
import NativeLayout.Report.Human
import NativeLayout.Report.Record

namespace NativeLayout

/-- The form in which a report is written. -/
inductive ReportFormat
  | human
  | json
  | github
deriving DecidableEq, Repr

namespace ReportFormat

/-- The word that names a format. -/
def word : ReportFormat → String
  | human => "human"
  | json => "json"
  | github => "github"

/-- The format that a word names, capitals and small letters being alike. -/
def parse? (s : String) : Option ReportFormat :=
  match Text.lowered s with
  | "human" => some human
  | "json" => some json
  | "github" | "github-actions" | "gha" => some github
  | _ => none

/-- What to answer to a word that names no format. -/
def invalidMessage (s : String) : String :=
  s!"invalid output format '{s}', valid values: human, json, github"

end ReportFormat

/-- The text of a report in a format. Only the form for a reader can be verbose. -/
def Report.write (r : Report) (format : ReportFormat) (verbose : Bool) : String :=
  match format with
  | .human => r.human verbose
  | .json => r.record.text
  | .github => r.workflow

end NativeLayout
