/-
# When a report passes

A report begins as one that passes. Whatever is added to it says whether the mark stays:
entries and size checks that fail clear it and so does any gap, and nothing sets it
again. So after some additions of one kind the mark says of them all that none failed,
and of what was there before what it said then.
-/

import NativeLayout.Report.Basic

namespace NativeLayout.Report

theorem foldl_addEntry (r : Report) (added : List Entry) :
    added.foldl addEntry r =
      { r with
        entries := r.entries ++ added
        passed := r.passed && added.all (!·.verdict.isFail) } := by
  induction added generalizing r with
  | nil => simp
  | cons entry rest ih =>
      rw [List.foldl_cons, ih, addEntry, List.all_cons]
      cases entry.verdict.isFail <;> simp

theorem foldl_addSizeCheck (r : Report) (added : List SizeCheck) :
    added.foldl addSizeCheck r =
      { r with
        sizeChecks := r.sizeChecks ++ added
        passed := r.passed && added.all SizeCheck.passed } := by
  induction added generalizing r with
  | nil => simp
  | cons check rest ih =>
      rw [List.foldl_cons, ih, addSizeCheck, List.all_cons]
      cases check.passed <;> simp

theorem addGaps_eq (r : Report) (added : List Gap) :
    r.addGaps added =
      { r with
        gaps := r.gaps ++ added
        passed := r.passed && added.isEmpty } := by
  rw [addGaps]
  induction added generalizing r with
  | nil => simp
  | cons gap rest ih =>
      rw [List.foldl_cons, ih, addGap]
      simp

end NativeLayout.Report
