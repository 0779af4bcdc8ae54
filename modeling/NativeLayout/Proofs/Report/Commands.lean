/-
# Commands for a workflow runner

A workflow runner takes every line that begins with two colons for a command. The report gives
it one command for each failure and two for the group around the summary. Whatever is found,
the messages of the failures stay within their lines. The output of a compiler is shown in the
group as it is, fenced for a reader but not for the runner: a line of it that begins with two
colons is one more command, and if there is none in any output, there are no other commands.

What the runner does with a command is not spoken of.
-/

import Mathlib.Data.List.Basic
import NativeLayout.Proofs.Report.Renderings
import NativeLayout.Proofs.Text.Endings

namespace NativeLayout

open Text

/-- The lines of what a compiler said of an entry that a workflow runner takes for commands. -/
def Entry.injected (entry : Entry) : List String :=
  match entry.verdict with
  | .fail _ diagnostics => (lines (trimEnd diagnostics)).filter (begins "::")
  | _ => []

/-- Nothing that a compiler said of an entry has a line that begins with two colons. -/
def Entry.Quiet (entry : Entry) : Prop :=
  ∀ mismatches diagnostics, entry.verdict = .fail mismatches diagnostics →
    ∀ line ∈ lines diagnostics, begins "::" line = false

/-- A line that begins with two colons is not blank, so it is there whether or not blanks are cut
off the end. -/
theorem exists_command_trimEnd_iff (s : String) :
    (∃ line ∈ lines (trimEnd s), begins "::" line = true) ↔
      ∃ line ∈ lines s, begins "::" line = true := by
  have found (t : String) : (∃ line ∈ lines t, begins "::" line = true) ↔
      [':', ':'] <+: t.toList ∨ ['\n', ':', ':'] <:+: t.toList := by
    rw [← exists_line_iff (by decide) (by decide) (by decide)]
    simp only [lines, List.mem_map, exists_exists_and_eq_and, begins, String.toList_ofList,
      List.isPrefixOf_iff_prefix]
    rfl
  obtain ⟨blanks, whole, blank⟩ := exists_blanks s.toList
  have absent : ':' ∉ blanks := fun among => absurd (blank ':' among) (by decide)
  have starts := prefix_append_blanks [':'] (dropTrailingBlanks s.toList) absent
  have stands := infix_append_blanks ['\n', ':'] (dropTrailingBlanks s.toList) absent
  rw [← whole] at starts stands
  rw [found, found, trimEnd, String.toList_ofList]
  exact or_congr starts.symm stands.symm

theorem Entry.injected_eq_nil_iff {entry : Entry} : entry.injected = [] ↔ entry.Quiet := by
  rw [injected, Quiet]
  cases entry.verdict with
  | fail mismatches diagnostics =>
      have heard := exists_command_trimEnd_iff diagnostics
      simp only [List.filter_eq_nil_iff, Verdict.fail.injEq, ← Bool.not_eq_true]
      constructor
      · rintro none _ _ ⟨rfl, rfl⟩ line among starts
        obtain ⟨other, inside, own⟩ := heard.mpr ⟨line, among, starts⟩
        exact none other inside own
      · intro none line among starts
        obtain ⟨other, inside, own⟩ := heard.mp ⟨line, among, starts⟩
        exact none mismatches diagnostics ⟨rfl, rfl⟩ other inside own
  | pass => exact iff_of_true rfl nofun
  | skip _ => exact iff_of_true rfl nofun

namespace Report

/-- The lines of some texts, written one below the other, that begin with two colons. -/
def commands (texts : List String) : List String := (lines (ofLines texts)).filter (begins "::")

theorem commands_append (first second : List String) :
    commands (first ++ second) = commands first ++ commands second := by
  rw [commands, lines_ofLines_append_lines, List.filter_append]
  rfl

theorem commands_of_quiet {texts : List String} (feedless : ∀ text ∈ texts, '\n' ∉ text.toList)
    (quiet : ∀ text ∈ texts, begins "::" text = false) : commands texts = [] := by
  have none : texts.filter (begins "::") = [] := by
    rw [List.filter_eq_nil_iff]
    exact fun text among => Bool.eq_false_iff.mp (quiet text among)
  rw [commands, filter_begins_lines feedless (by decide), none, List.map_nil]

theorem commands_of_unbroken {texts : List String} (unbroken : ∀ text ∈ texts, Unbroken text.toList)
    (loud : ∀ text ∈ texts, begins "::" text = true) : commands texts = texts := by
  rw [commands, lines_ofLines unbroken, List.filter_eq_self]
  exact loud

/-- The output of a compiler is written without blanks at its end, so it has the lines that it has
by itself. -/
theorem commands_trimEnd (diagnostics : String) :
    commands [trimEnd diagnostics] = (lines (trimEnd diagnostics)).filter (begins "::") := by
  rw [commands, lines, toList_ofLines_cons, lines]
  by_cases filled : (trimEnd diagnostics).toList = []
  · rw [filled]
    rfl
  · have ended := splitLines_ended filled fun c last => by
      rw [trimEnd, String.toList_ofList] at last
      have visible := isBlank_of_getLast? last
      constructor <;> rintro rfl <;> cases visible
    exact congrArg (fun split => (split.map String.ofList).filter (begins "::")) ended

theorem commands_detailLines {entry : Entry} (labelled : entry.Labelled) :
    commands (detailLines entry) = entry.injected := by
  rw [detailLines, Entry.injected]
  cases entry.verdict with
  | fail mismatches diagnostics =>
      have summary : '\n' ∉ ("<summary>" ++ entry.name ++ "</summary>").toList :=
        not_mem_append (not_mem_append (by decide) labelled.name) (by decide)
      have folded : begins "::" ("<summary>" ++ entry.name ++ "</summary>") = false := by
        rw [String.append_assoc]
        exact begins_append_of_apart (by decide) _
      have before : commands ["", "<details>", "<summary>" ++ entry.name ++ "</summary>", "",
          "```"] = [] := by
        apply commands_of_quiet <;> simp only [List.forall_mem_cons]
        · exact ⟨by decide, by decide, summary, by decide, by decide, List.forall_mem_nil _⟩
        · exact ⟨by decide, by decide, folded, by decide, by decide, List.forall_mem_nil _⟩
      have behind : commands ["```", "", "</details>"] = [] := by decide +kernel
      calc commands (["", "<details>", "<summary>" ++ entry.name ++ "</summary>", "", "```"] ++
              ([trimEnd diagnostics] ++ ["```", "", "</details>"]))
          = commands [trimEnd diagnostics] := by
            rw [commands_append, commands_append, before, behind, List.nil_append, List.append_nil]
        _ = _ := commands_trimEnd diagnostics
  | pass => rfl
  | skip _ => rfl

theorem commands_flatMap (entries : List Entry) (write : Entry → List String) :
    commands (entries.flatMap write) = entries.flatMap fun entry => commands (write entry) := by
  induction entries with
  | nil => rfl
  | cons entry rest ih => rw [List.flatMap_cons, List.flatMap_cons, commands_append, ih]

/-- Entries that did not fail have no details. -/
theorem flatMap_detailLines_filter (entries : List Entry) :
    (entries.filter (·.verdict.isFail)).flatMap detailLines = entries.flatMap detailLines := by
  induction entries with
  | nil => rfl
  | cons entry rest ih =>
      rw [List.flatMap_cons, ← ih]
      cases failed : entry.verdict.isFail with
      | true => rw [List.filter_cons_of_pos (by rw [failed]), List.flatMap_cons]
      | false =>
          have silent : detailLines entry = [] := by
            rw [detailLines]
            cases told : entry.verdict with
            | fail _ _ =>
                rw [told] at failed
                cases failed
            | pass => rfl
            | skip _ => rfl
          rw [List.filter_cons_of_neg (by rw [failed]; exact Bool.false_ne_true), silent,
            List.nil_append]

/-- The commands among the details are those in what was said of the entries, in their order. -/
theorem commands_failedDetails {r : Report} (labelled : r.Labelled) :
    commands r.failedDetails = r.entries.flatMap Entry.injected := by
  have shown : commands (r.failedEntries.flatMap detailLines) =
      r.entries.flatMap Entry.injected := by
    rw [failedEntries, flatMap_detailLines_filter, commands_flatMap]
    exact List.flatMap_congr fun entry among => commands_detailLines (labelled.entries entry among)
  rw [← shown, failedDetails]
  split
  · next none => rw [List.isEmpty_iff.mp none]; rfl
  · rw [commands_append]
    rfl

/-- The commands in the text for a workflow runner: the annotations, the opening of the group,
what was said of the entries, and the end of the group. -/
theorem filter_workflow {r : Report} (labelled : r.Labelled) :
    (lines r.workflow).filter (begins "::") = r.annotations ++ "::group::Conformance Summary" ::
      (r.entries.flatMap Entry.injected ++ ["::endgroup::"]) := by
  have annotated : commands r.annotations = r.annotations := by
    apply commands_of_unbroken labelled.unbroken_annotations
    rw [annotations_eq, List.forall_mem_map]
    exact fun failure _ => begins_of_begins (by decide)
      (begins_errorLine failure.title failure.message)
  have opened : commands ["::group::Conformance Summary"] = ["::group::Conformance Summary"] :=
    commands_of_unbroken (by decide) (by decide)
  have closed : commands ["::endgroup::"] = ["::endgroup::"] :=
    commands_of_unbroken (by decide) (by decide)
  have body : commands r.summaryBody = [] :=
    commands_of_quiet labelled.not_mem_summaryBody
      (not_begins_summaryBody (by decide) (by decide) r)
  have result : commands [r.summaryResult, "**Total time:** " ++ r.totalDuration.display] = [] := by
    apply commands_of_quiet <;> rw [List.forall_mem_cons, List.forall_mem_singleton]
    · exact ⟨r.not_mem_resultLine (by decide) (by decide) (by decide),
        not_mem_append (by decide) r.totalDuration.not_mem_display⟩
    · refine ⟨?_, begins_append_of_apart (by decide) _⟩
      rw [summaryResult, resultLine, String.append_assoc, String.append_assoc]
      exact begins_append_of_apart (by decide) _
  have whole : r.workflowLines = r.annotations ++ (["::group::Conformance Summary"] ++
      (r.summaryBody ++ ([r.summaryResult, "**Total time:** " ++ r.totalDuration.display] ++
        (r.failedDetails ++ ["::endgroup::"])))) := r.workflowLines_eq
  change commands r.workflowLines = _
  rw [whole, commands_append, commands_append, commands_append, commands_append, commands_append,
    annotated, opened, body, result, commands_failedDetails labelled, closed, List.nil_append,
    List.nil_append, List.singleton_append]

theorem getLast?_workflow (r : Report) : (lines r.workflow).getLast? = some "::endgroup::" := by
  have closed : lines (ofLines ["::endgroup::"]) = ["::endgroup::"] := lines_ofLines (by decide)
  rw [workflow, workflowLines, lines_ofLines_append_lines, closed, List.getLast?_concat]

/-- The commands in the text for a workflow runner are those that the report gives exactly if no
compiler gave one. Take a report in which no name of what it is about has a line feed in it,
while mismatches, gaps and the output of a compiler may be anything. The report gives one
annotation for each failed entry, failed size check and gap; the group around the summary is
opened behind them and closed in the last line. Within the group stand the lines of the output
that begin with two colons, in the order of the entries, and nothing else that does. -/
theorem commands_own_iff {r : Report} (labelled : r.Labelled) :
    let posted := lines r.workflow
    let own := r.failures.map fun failure => errorLine failure.title failure.message
    own.length = r.failedCount + r.failedSizeChecks.length + r.gaps.length ∧
    (∀ line ∈ own, begins "::error title=" line = true) ∧
    posted.getLast? = some "::endgroup::" ∧
    posted.filter (begins "::") = own ++ "::group::Conformance Summary" ::
      (r.entries.flatMap Entry.injected ++ ["::endgroup::"]) ∧
    (posted.filter (begins "::") = own ++ ["::group::Conformance Summary", "::endgroup::"] ↔
      ∀ entry ∈ r.entries, entry.Quiet) := by
  intro posted own
  have all : posted.filter (begins "::") = own ++ "::group::Conformance Summary" ::
      (r.entries.flatMap Entry.injected ++ ["::endgroup::"]) := by
    rw [filter_workflow labelled, annotations_eq]
  refine ⟨?_, ?_, r.getLast?_workflow, all, ?_⟩
  · rw [List.length_map, length_failures]
  · rw [List.forall_mem_map]
    exact fun failure _ => begins_errorLine failure.title failure.message
  · have none : r.entries.flatMap Entry.injected = [] ↔ ∀ entry ∈ r.entries, entry.Quiet := by
      rw [List.flatMap_eq_nil_iff]
      exact forall₂_congr fun entry _ => Entry.injected_eq_nil_iff
    rw [all, ← none, List.append_cancel_left_eq, List.cons.injEq, List.append_left_eq_self]
    exact ⟨And.right, fun empty => ⟨rfl, empty⟩⟩

/-- A report with one failed entry, in which a mismatch has a name of two lines. -/
def complaining (diagnostics : String) : Report :=
  addEntry { catalog := "clocks" }
    { name := "timespec"
      headers := .singleton "time.h"
      verdict := .fail [⟨"timespec", "tv\n::sec", .offset⟩] diagnostics }

theorem labelled_complaining (diagnostics : String) : (complaining diagnostics).Labelled where
  catalog := (by decide : '\n' ∉ "clocks".toList)
  compiler := nofun
  target := nofun
  entries := by
    intro entry among
    obtain rfl := List.mem_singleton.mp among
    exact ⟨(by decide : '\n' ∉ "timespec".toList),
      (by decide : ∀ header ∈ (HeaderSet.singleton "time.h").toList, '\n' ∉ header.toList)⟩
  sizeChecks := nofun

/-- Two colons within a line of the output are no command. -/
theorem commands_own_muttering :
    let report := complaining "unit.c:1: error: no std::timespec\n ::debug::\n"
    report.Labelled ∧ (lines report.workflow).filter (begins "::") =
      ["::error title=ABI mismatch in timespec::timespec.tv%0A::sec: offset differs",
       "::group::Conformance Summary", "::endgroup::"] := by
  intro report
  have labelled : report.Labelled := labelled_complaining _
  obtain ⟨_, _, _, _, only⟩ := commands_own_iff labelled
  refine ⟨labelled, (only.mpr ?_).trans (by decide +kernel)⟩
  intro entry among mismatches diagnostics told line inside
  obtain rfl := List.mem_singleton.mp among
  cases told
  revert line inside
  decide +kernel

/-- A line of the output that begins with two colons is one. -/
theorem not_commands_own_injected :
    let report := complaining "unit.c:1: error\n::stop-commands::all is well\n"
    report.Labelled ∧ (lines report.workflow).filter (begins "::") ≠
      report.failures.map (fun failure => errorLine failure.title failure.message) ++
        ["::group::Conformance Summary", "::endgroup::"] := by
  intro report
  have labelled : report.Labelled := labelled_complaining _
  refine ⟨labelled, ?_⟩
  rw [filter_workflow labelled]
  decide +kernel

end Report

end NativeLayout
