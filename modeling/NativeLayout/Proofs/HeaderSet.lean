/-
# The first headers of a set

A header set is walked from its front, each header after those before it. Because
no header stands twice in a set, pushing the headers one after the other passes
through its initial segments and through nothing else, each longer than the last.
-/

import NativeLayout.HeaderSet

namespace NativeLayout.HeaderSet

theorem toList_empty : (∅ : HeaderSet).toList = [] := rfl

/-- A header that a set has not goes to its end. -/
theorem toList_push_of_not_mem {s : HeaderSet} {header : String} (h : header ∉ s.toList) :
    (s.push header).toList = s.toList ++ [header] := by
  rw [push, dif_neg h]

/-- The set of the first headers of a set. -/
def take (s : HeaderSet) (n : Nat) : HeaderSet :=
  ⟨s.toList.take n, s.nodup.sublist (List.take_sublist n s.toList)⟩

@[simp]
theorem toList_take (s : HeaderSet) (n : Nat) : (s.take n).toList = s.toList.take n := rfl

/-- What stands before a header of a set does not have it. -/
theorem not_mem_of_nodup_append {before rest : List String} {header : String}
    (distinct : (before ++ header :: rest).Nodup) : header ∉ before := by
  intro present
  have apart := (List.nodup_append.mp distinct).2.2 header present header List.mem_cons_self
  exact apart rfl

/-- Pushing the next header of a set onto its first ones gives one more of them. -/
theorem push_eq_take {s before : HeaderSet} {header : String} {rest : List String}
    (split : before.toList ++ header :: rest = s.toList) :
    before.push header = s.take (before.toList.length + 1) := by
  have distinct : (before.toList ++ header :: rest).Nodup := split ▸ s.nodup
  have fresh : header ∉ before.toList := not_mem_of_nodup_append distinct
  apply HeaderSet.ext
  rw [toList_push_of_not_mem fresh, toList_take, ← split, List.take_append, List.take_of_length_le
    (Nat.le_succ _), Nat.add_sub_cancel_left]
  rfl

end NativeLayout.HeaderSet
