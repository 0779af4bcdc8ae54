/-
# The lines of a report

If no name in a report has a line feed in it, then what is written for a line of the format
for a reader is a line, whatever a compiler said. The format for a workflow runner shows the
output of a compiler as it is, so there this is said of the lines before that output.
-/

import NativeLayout.Proofs.Report.Failures
import NativeLayout.Proofs.Text.Beginnings
import NativeLayout.Report.Human

namespace NativeLayout

open Text

/-- Neither the structure of an entry nor one of its headers has a line feed in its name; what
was found and what the compiler said may have some. -/
structure Entry.Labelled (entry : Entry) : Prop where
  name : '\n' ∉ entry.name.toList
  headers : ∀ header ∈ entry.headers.toList, '\n' ∉ header.toList

/-- Nothing that a report is about has a line feed in its name; what was found may have some. -/
structure Report.Labelled (r : Report) : Prop where
  catalog : '\n' ∉ r.catalog.toList
  compiler : ∀ path, r.compiler = some path → '\n' ∉ path.toList
  target : ∀ triple, r.target = some triple → '\n' ∉ triple.toList
  entries : ∀ entry ∈ r.entries, entry.Labelled
  sizeChecks : ∀ check ∈ r.sizeChecks, '\n' ∉ check.name.toList

/-- No name of an entry has a line feed in it; the output of the compiler may have some. -/
structure Entry.OneLine (entry : Entry) : Prop where
  name : '\n' ∉ entry.name.toList
  headers : ∀ header ∈ entry.headers.toList, '\n' ∉ header.toList
  mismatches : ∀ mismatches diagnostics, entry.verdict = .fail mismatches diagnostics →
    ∀ mismatch ∈ mismatches, '\n' ∉ mismatch.owner.toList ∧ '\n' ∉ mismatch.field.toList

/-- No name in a report has a line feed in it, and neither has the text of a gap. -/
structure Report.OneLine (r : Report) : Prop where
  catalog : '\n' ∉ r.catalog.toList
  compiler : ∀ path, r.compiler = some path → '\n' ∉ path.toList
  target : ∀ triple, r.target = some triple → '\n' ∉ triple.toList
  entries : ∀ entry ∈ r.entries, entry.OneLine
  sizeChecks : ∀ check ∈ r.sizeChecks, '\n' ∉ check.name.toList
  gaps : ∀ gap ∈ r.gaps, '\n' ∉ gap.display.toList

theorem Entry.OneLine.labelled {entry : Entry} (oneLine : entry.OneLine) : entry.Labelled :=
  ⟨oneLine.name, oneLine.headers⟩

theorem Report.OneLine.labelled {r : Report} (oneLine : r.OneLine) : r.Labelled where
  catalog := oneLine.catalog
  compiler := oneLine.compiler
  target := oneLine.target
  entries entry among := (oneLine.entries entry among).labelled
  sizeChecks := oneLine.sizeChecks

theorem not_mem_digits (n : Nat) : '\n' ∉ (toString n).toList := not_mem_toString (by decide) n

theorem Duration.not_mem_display (d : Duration) : '\n' ∉ d.display.toList := by
  have sign : '\n' ∉ d.unit.2.toList := by
    rw [unit]
    split
    · decide
    · split
      · decide
      · split <;> decide
  have decimals (n : Nat) : '\n' ∉ (hundredths n).toList := by
    have padding : '\n' ∉ (if n % 100 < 10 then "0" else "").toList := by split <;> decide
    rw [hundredths]
    exact not_mem_append (not_mem_append (not_mem_append (not_mem_digits _) (by decide)) padding)
      (not_mem_digits _)
  exact not_mem_append (decimals _) sign

theorem Mismatch.not_mem_display {mismatch : Mismatch} (owner : '\n' ∉ mismatch.owner.toList)
    (field : '\n' ∉ mismatch.field.toList) : '\n' ∉ mismatch.display.toList := by
  have word : '\n' ∉ mismatch.kind.word.toList := by cases mismatch.kind <;> decide
  have dotted : '\n' ∉ (mismatch.owner ++ "." ++ mismatch.field ++ ": " ++ mismatch.kind.word ++
      " differs").toList :=
    not_mem_append (not_mem_append (not_mem_append (not_mem_append (not_mem_append owner
      (by decide)) field) (by decide)) word) (by decide)
  rw [display]
  split
  · exact not_mem_append owner (by decide)
  · exact dotted

theorem SkipReason.not_mem_display (reason : SkipReason) : '\n' ∉ reason.display.toList := by
  cases reason <;> decide

namespace Entry.Labelled

variable {entry : Entry} (labelled : entry.Labelled)
include labelled

theorem not_mem_display : '\n' ∉ entry.headers.display.toList :=
  not_mem_intercalate (by decide) labelled.headers

theorem not_mem_tableRow : '\n' ∉ (Report.tableRow entry).toList := by
  have sign : '\n' ∉ (Report.statusSign entry.verdict).toList := by
    unfold Report.statusSign
    split <;> decide
  exact not_mem_append (not_mem_append (not_mem_append (not_mem_append (not_mem_append
    (not_mem_append (by decide) labelled.name) (by decide)) labelled.not_mem_display) (by decide))
    sign) (by decide)

end Entry.Labelled

namespace Report

theorem not_mem_countsText (r : Report) : '\n' ∉ r.countsText.toList :=
  not_mem_append (not_mem_append (not_mem_append (not_mem_append (not_mem_append (not_mem_append
    (by decide) (not_mem_digits _)) (by decide)) (not_mem_digits _)) (by decide))
    (not_mem_digits _)) (by decide)

theorem not_mem_labelLine {label : String} (whole : '\n' ∉ label.toList) {value : Option String}
    (told : ∀ text, value = some text → '\n' ∉ text.toList) :
    ∀ line ∈ labelLine label value, '\n' ∉ line.toList := by
  cases value with
  | none => nofun
  | some text =>
      rw [labelLine, List.forall_mem_singleton]
      exact not_mem_append (not_mem_append (not_mem_append (by decide) whole) (by decide))
        (told text rfl)

theorem not_mem_annotationChar {c : Char} (ending : c = '\n' ∨ c = '\r') (d : Char) :
    c ∉ annotationChar d := by
  by_cases special : d = '%' ∨ d = '\r' ∨ d = '\n'
  · rcases special with rfl | rfl | rfl <;> rcases ending with rfl | rfl <;> decide
  · simp only [not_or] at special
    obtain ⟨percent, back, feed⟩ := special
    rw [annotationChar, if_neg percent, if_neg back, if_neg feed, List.mem_singleton]
    rintro rfl
    exact ending.elim feed back

/-- A message has nothing in it that ends a line. -/
theorem not_mem_escaped {c : Char} (ending : c = '\n' ∨ c = '\r') (message : String) :
    c ∉ (escapeMessage message).toList := by
  rw [escapeMessage, String.toList_ofList, List.mem_flatMap]
  rintro ⟨d, _, written⟩
  exact not_mem_annotationChar ending d written

/-- An annotation and what stands behind each of its parts. -/
theorem errorLine_eq (title message : String) : errorLine title message =
    "::error title=" ++ (title ++ ("::" ++ escapeMessage message)) := by
  show "::error title=" ++ title ++ "::" ++ escapeMessage message = _
  rw [String.append_assoc, String.append_assoc]

/-- An annotation is a line of its own. -/
theorem unbroken_errorLine {title : String} (feedless : '\n' ∉ title.toList) (message : String) :
    Unbroken (errorLine title message).toList := by
  have behind {c : Char} (ending : c = '\n' ∨ c = '\r') :
      c ∉ ("::" ++ escapeMessage message).toList := by
    apply not_mem_append _ (not_mem_escaped ending message)
    rcases ending with rfl | rfl <;> decide
  have unbroken : Unbroken ("::" ++ escapeMessage message).toList :=
    ⟨behind (.inl rfl), fun last => behind (.inr rfl) (List.mem_of_getLast? last)⟩
  rw [errorLine_eq, ← String.append_assoc]
  refine Unbroken.append (not_mem_append (by decide) feedless) unbroken ?_
  rw [String.toList_append]
  exact List.append_ne_nil_of_left_ne_nil (by decide) _

/-- What the format for a workflow runner shows in the group before the result. -/
def summaryBody (r : Report) : List String :=
  ["", "## " ++ r.catalog, ""] ++ labelLine "Compiler" r.compiler ++
    labelLine "Target Triple" r.target ++
    ["", "| Structure | Headers | Status |", "|-----------|---------|--------|"] ++
    r.entries.map tableRow ++ [""]

/-- The line of a result: a label, the word for it, and the numbers of entries by outcome. -/
def resultLine (r : Report) (label passed failed : String) : String :=
  label ++ (if r.passed then passed else failed) ++ " " ++ r.countsText

/-- The result in the format for a workflow runner. -/
def summaryResult (r : Report) : String :=
  r.resultLine "**Result:** " ":heavy_check_mark: PASSED" ":x: FAILED"

theorem workflowLines_eq (r : Report) :
    r.workflowLines = r.annotations ++ "::group::Conformance Summary" :: (r.summaryBody ++
      r.summaryResult :: ("**Total time:** " ++ r.totalDuration.display) ::
        (r.failedDetails ++ ["::endgroup::"])) := by
  simp only [workflowLines, summaryLines, summaryBody, summaryResult, resultLine,
    List.append_assoc, List.cons_append, List.nil_append]

theorem not_mem_resultLine (r : Report) {label passed failed : String}
    (front : '\n' ∉ label.toList) (good : '\n' ∉ passed.toList) (bad : '\n' ∉ failed.toList) :
    '\n' ∉ (r.resultLine label passed failed).toList := by
  have status : '\n' ∉ (if r.passed then passed else failed).toList := by
    split
    · exact good
    · exact bad
  exact not_mem_append (not_mem_append (not_mem_append front status) (by decide))
    r.not_mem_countsText

namespace Labelled

variable {r : Report} (labelled : r.Labelled)
include labelled

theorem not_mem_summaryBody : ∀ line ∈ r.summaryBody, '\n' ∉ line.toList := by
  simp only [summaryBody, List.forall_mem_append, List.forall_mem_cons,
    List.forall_mem_map]
  refine ⟨⟨⟨⟨⟨⟨by decide, ?_, by decide⟩, ?_⟩, ?_⟩, by decide, by decide, by decide⟩, ?_⟩, by decide⟩
  · exact not_mem_append (by decide) labelled.catalog
  · exact not_mem_labelLine (by decide) labelled.compiler
  · exact not_mem_labelLine (by decide) labelled.target
  · exact fun entry among => (labelled.entries entry among).not_mem_tableRow

/-- The annotations of a report are lines of their own. -/
theorem unbroken_annotations : ∀ line ∈ r.annotations, Unbroken line.toList := by
  have titled : ∀ failure ∈ r.failures, '\n' ∉ failure.title.toList := by
    simp only [failures, List.forall_mem_append, List.forall_mem_map]
    refine ⟨⟨?_, ?_⟩, fun _ _ => (by decide : '\n' ∉ "Catalog gap".toList)⟩
    · intro failure among
      obtain ⟨entry, found, told⟩ := List.mem_filterMap.mp among
      obtain ⟨summary, _, rfl⟩ := Option.map_eq_some_iff.mp told
      exact not_mem_append (by decide) (labelled.entries entry found).name
    · intro failure among
      obtain ⟨check, found, told⟩ := List.mem_filterMap.mp among
      obtain ⟨message, _, rfl⟩ := Option.map_eq_some_iff.mp told
      exact not_mem_append (by decide) (labelled.sizeChecks check (List.mem_filter.mp found).1)
  rw [annotations_eq, List.forall_mem_map]
  exact fun failure among => unbroken_errorLine (titled failure among) failure.message

end Labelled

namespace OneLine

variable {r : Report} (oneLine : r.OneLine)
include oneLine

end OneLine

end Report

end NativeLayout
