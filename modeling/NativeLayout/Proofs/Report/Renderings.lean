/-
# Two renderings of one report

A report is shown to a reader at a terminal and to a workflow runner. Each format finds the
failures by itself: one goes by the verdict and the other by whether there is a summary, and
both print what a compiler said, which may be anything. Still they show the same failures,
in the same order, and say the same about the whole.

Names that go into a line must not break it. Which of the compiler's words are shown is not
said, and neither is anything about the format for other programs.
-/

import NativeLayout.Proofs.Report.Lines
import NativeLayout.Proofs.Report.Marks

namespace NativeLayout.Report

open Text

variable {r : Report}

theorem begins_errorLine (title message : String) :
    begins "::error title=" (errorLine title message) = true := by
  rw [errorLine_eq]
  exact begins_append _ _

theorem not_begins_labelLine {word label : String}
    (apart : (begins word ("**" ++ label ++ ":** ") ||
      begins ("**" ++ label ++ ":** ") word) = false) (value : Option String) :
    ∀ line ∈ labelLine label value, begins word line = false := by
  cases value with
  | none => nofun
  | some text =>
      rw [labelLine, List.forall_mem_singleton]
      exact begins_append_of_apart apart text

/-- What the lines of the group before the result begin with, unless they are empty. -/
def summaryFronts : List String :=
  ["## ", "**" ++ "Compiler" ++ ":** ", "**" ++ "Target Triple" ++ ":** ",
   "| Structure | Headers | Status |", "|-----------|---------|--------|", "| "]

/-- The lines of the group before the result do not begin with a word that is apart from what
they begin with. -/
theorem not_begins_summaryBody {word : String} (filled : begins word "" = false)
    (apart : ∀ front ∈ summaryFronts, (begins word front || begins front word) = false)
    (r : Report) : ∀ line ∈ r.summaryBody, begins word line = false := by
  simp only [summaryFronts, List.forall_mem_cons] at apart
  obtain ⟨title, compiler, target, heads, rule, row, _⟩ := apart
  simp only [summaryBody, List.forall_mem_append, List.forall_mem_cons,
    List.forall_mem_map]
  refine ⟨⟨⟨⟨⟨⟨filled, ?_, filled, List.forall_mem_nil _⟩, ?_⟩, ?_⟩, filled, ?_, ?_,
    List.forall_mem_nil _⟩, fun entry _ => ?_⟩, filled, List.forall_mem_nil _⟩
  · exact begins_append_of_apart title r.catalog
  · exact not_begins_labelLine compiler r.compiler
  · exact not_begins_labelLine target r.target
  · exact (Bool.or_eq_false_iff.mp heads).1
  · exact (Bool.or_eq_false_iff.mp rule).1
  · simp only [tableRow, String.append_assoc]
    exact begins_append_of_apart row _

namespace OneLine

variable (oneLine : r.OneLine)
include oneLine

end OneLine

end NativeLayout.Report
