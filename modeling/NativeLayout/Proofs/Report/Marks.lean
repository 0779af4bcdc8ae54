/-
# Marked lines

In the format for a reader every entry has a line with a mark in front, and so has every
failed size check and every gap. What else is shown, a compiler's output among it, stands
further in or begins with a word of its own. So the marked lines can be told from the
others, and those with the mark of failures are the failures of the report.
-/

import NativeLayout.Proofs.Report.Failures
import NativeLayout.Proofs.Text.Beginnings
import NativeLayout.Report.Human

namespace NativeLayout

open Text

/-- What the line of an outcome is marked with. -/
inductive Mark
  | ok
  | skip
  | fail
deriving DecidableEq

/-- What a marked line begins with. -/
def Mark.word : Mark → String
  | ok => "  [OK]   "
  | skip => "  [SKIP] "
  | fail => "  [FAIL] "

theorem Mark.noReturn (mark : Mark) : '\r' ∉ mark.word.toList := by
  cases mark <;> decide

/-- The mark of a verdict. -/
def Verdict.mark : Verdict → Mark
  | .pass => .ok
  | .skip _ => .skip
  | .fail _ _ => .fail

namespace Report

end Report

end NativeLayout
