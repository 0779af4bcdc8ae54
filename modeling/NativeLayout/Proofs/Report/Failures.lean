/-
# The failures in a report

Everything that makes a report fail, in the order in which every format shows it: entries,
then size checks, then gaps. A report that was put together by additions, in whatever order
they were made, has its mark exactly if there are none.

A report whose fields were set otherwise may have a mark that says something else.
-/

import NativeLayout.Proofs.Report.Passing
import NativeLayout.Report.Annotations

namespace NativeLayout

/-- Reports that are put together by additions, in any order. -/
inductive Report.Assembled : Report → Prop
  | new (catalog : String) (compiler target : Option String) (totalDuration : Duration) :
    Assembled { catalog, compiler, target, totalDuration }
  | entry {r : Report} (entry : Entry) (assembled : Assembled r) : Assembled (r.addEntry entry)
  | sizeCheck {r : Report} (check : SizeCheck) (assembled : Assembled r) :
    Assembled (r.addSizeCheck check)
  | gaps {r : Report} (gaps : List Gap) (assembled : Assembled r) : Assembled (r.addGaps gaps)

/-- A failure as the formats show it: its text for a reader, and the title and the message for
an annotation. -/
structure Failure where
  text : String
  title : String
  message : String

/-- The failure of an entry, if it failed. -/
def Entry.failure? (entry : Entry) : Option Failure :=
  entry.verdict.summary?.map fun summary =>
    { text := entry.name ++ " [" ++ entry.headers.display ++ "]"
      title := "ABI mismatch in " ++ entry.name
      message := summary }

/-- The failure of a size check, if it failed. -/
def SizeCheck.failure? (check : SizeCheck) : Option Failure :=
  check.message?.map fun message =>
    { text := message, title := "Declared size of " ++ check.name, message }

/-- A gap is a failure. -/
def Gap.failure (gap : Gap) : Failure :=
  { text := gap.display, title := "Catalog gap", message := gap.display }

namespace Report

/-- The failures in a report: entries, then size checks, then gaps. -/
def failures (r : Report) : List Failure :=
  r.entries.filterMap Entry.failure? ++ r.failedSizeChecks.filterMap SizeCheck.failure? ++
    r.gaps.map Gap.failure

variable {r : Report}

/-- Each entry, size check and gap that fails is one failure. -/
theorem length_failures (r : Report) :
    r.failures.length = r.failedCount + r.failedSizeChecks.length + r.gaps.length := by
  have entries : (r.entries.filterMap Entry.failure?).length = r.failedCount := by
    rw [failedCount, failedEntries, List.length_filterMap_eq_countP, ← List.countP_eq_length_filter]
    apply List.countP_congr
    intro entry _
    rw [Entry.failure?, Option.isSome_map, Verdict.summary?_isSome]
  have sizes : (r.failedSizeChecks.filterMap SizeCheck.failure?).length =
      r.failedSizeChecks.length := by
    rw [List.length_filterMap_eq_countP, List.countP_eq_length]
    intro check among
    rw [SizeCheck.failure?, Option.isSome_map, SizeCheck.message?_isSome]
    exact (List.mem_filter.mp among).2
  rw [failures, List.length_append, List.length_append, entries, sizes, List.length_map]

/-- The annotations are those of the failures. -/
theorem annotations_eq (r : Report) :
    r.annotations = r.failures.map fun failure => errorLine failure.title failure.message := by
  rw [annotations, failures, List.map_append, List.map_append, List.map_filterMap,
    List.map_filterMap, List.map_map]
  congr 2
  · congr 1
    funext entry
    rw [Entry.failure?, Option.map_map]
    rfl
  · congr 1
    funext check
    rw [SizeCheck.failure?, Option.map_map]
    rfl

theorem failures_eq_nil_iff :
    r.failures = [] ↔ r.gaps = [] ∧ (∀ check ∈ r.sizeChecks, check.passed = true) ∧
      ∀ entry ∈ r.entries, entry.verdict.isFail = false := by
  rw [← List.length_eq_zero_iff, length_failures, Nat.add_eq_zero_iff, Nat.add_eq_zero_iff,
    failedCount, failedEntries, failedSizeChecks, List.length_eq_zero_iff,
    List.length_eq_zero_iff, List.length_eq_zero_iff, List.filter_eq_nil_iff,
    List.filter_eq_nil_iff]
  simp only [Bool.not_eq_true, Bool.not_eq_false']
  exact ⟨fun ⟨⟨clean, sized⟩, complete⟩ => ⟨complete, sized, clean⟩,
    fun ⟨complete, sized, clean⟩ => ⟨⟨clean, sized⟩, complete⟩⟩

/-- A report that was put together by additions passes exactly if it has no failures. -/
theorem Assembled.passed_iff (assembled : r.Assembled) : r.passed = true ↔ r.failures = [] := by
  rw [failures_eq_nil_iff]
  induction assembled with
  | new catalog compiler target totalDuration => simp
  | @entry r entry _ ih =>
      have whole : r.addEntry entry = _ := foldl_addEntry r [entry]
      rw [whole, Bool.and_eq_true, ih]
      simp only [List.forall_mem_append, List.forall_mem_singleton, List.all_cons, List.all_nil,
        Bool.and_true, Bool.not_eq_true', and_assoc]
  | @sizeCheck r check _ ih =>
      have whole : r.addSizeCheck check = _ := foldl_addSizeCheck r [check]
      rw [whole, Bool.and_eq_true, ih]
      simp only [List.forall_mem_append, List.forall_mem_singleton, List.all_cons, List.all_nil,
        Bool.and_true, and_assoc]
      exact and_congr_right fun _ => and_congr_right fun _ => and_comm
  | @gaps r gaps _ ih =>
      rw [addGaps_eq, Bool.and_eq_true, ih, List.append_eq_nil_iff, List.isEmpty_iff]
      simp only [and_assoc]
      exact and_congr_right fun _ => ⟨fun ⟨sized, clean, empty⟩ => ⟨empty, sized, clean⟩,
        fun ⟨empty, sized, clean⟩ => ⟨sized, clean, empty⟩⟩

end Report

end NativeLayout
