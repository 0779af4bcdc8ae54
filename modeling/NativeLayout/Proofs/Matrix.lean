/-
# Selecting structures

The entries that some names select are those that have one of the names, in the order of
the matrix, and all entries if there are no names. A selection is refused exactly if some
name has no entry.
-/

import NativeLayout.Matrix

namespace NativeLayout.Matrix

variable {m selected : Matrix} {names : List String}

/-- The entries with one of some names, and all of them if there are no names. -/
def selection (m : Matrix) (names : List String) : List MatrixEntry :=
  m.entries.filter fun entry => names = [] ∨ entry.name ∈ names

/-- Every name has an entry. -/
def Covers (m : Matrix) (names : List String) : Prop :=
  ∀ name ∈ names, ∃ entry ∈ m.entries, entry.name = name

theorem mem_selection {entry : MatrixEntry} :
    entry ∈ m.selection names ↔ entry ∈ m.entries ∧ (names = [] ∨ entry.name ∈ names) := by
  rw [selection, List.mem_filter, decide_eq_true_iff]

@[simp]
theorem selection_nil (m : Matrix) : m.selection [] = m.entries := by
  simp [selection]

/-- A selection is made of the entries with the names, and it is made exactly if every name has
one. -/
theorem select_eq_ok_iff :
    m.select names = .ok selected ↔ m.Covers names ∧ selected = ⟨m.selection names⟩ := by
  cases names with
  | nil =>
      rw [select, if_pos List.isEmpty_nil, Except.ok.injEq, selection_nil]
      exact ⟨fun same => ⟨nofun, same.symm⟩, fun ⟨_, same⟩ => same.symm⟩
  | cons first others =>
      have absent : ((first :: others).find? fun name => !m.entries.any (·.name = name)) = none ↔
          m.Covers (first :: others) := by
        rw [List.find?_eq_none, Covers]
        simp
      have kept : (m.entries.filter fun entry => (first :: others).contains entry.name) =
          m.selection (first :: others) := by
        rw [selection]
        apply List.filter_congr
        intro entry _
        simp
      rw [select, if_neg (by simp), kept]
      cases found : (first :: others).find? fun name => !m.entries.any (·.name = name) with
      | none => simp [absent.mp found, eq_comm]
      | some missing =>
          have uncovered : ¬ m.Covers (first :: others) := by
            rw [← absent, found]
            exact Option.some_ne_none missing
          simp [uncovered]

/-- A selection that is refused is refused for the first of its names that has no entry. -/
theorem select_of_not_covers (uncovered : ¬ m.Covers names) :
    ∃ earlier missing later, names = earlier ++ missing :: later ∧ m.Covers earlier ∧
      (∀ entry ∈ m.entries, entry.name ≠ missing) ∧ m.select names = .error missing := by
  have filled : ¬ names.isEmpty := by
    intro none
    rw [List.isEmpty_iff.mp none] at uncovered
    exact uncovered nofun
  cases found : names.find? fun name => !m.entries.any (·.name = name) with
  | none =>
      refine absurd (fun name among => ?_) uncovered
      simpa using List.find?_eq_none.mp found name among
  | some missing =>
      obtain ⟨absent, earlier, later, split, present⟩ := List.find?_eq_some_iff_append.mp found
      refine ⟨earlier, missing, later, split, ?_, ?_, ?_⟩
      · intro name among
        simpa using present name among
      · simpa using absent
      · rw [select, if_neg filled, found]

/-- Neither the order of the names nor their repetition matters. -/
theorem selection_congr {others : List String} (same : ∀ name, name ∈ others ↔ name ∈ names) :
    m.selection others = m.selection names := by
  have empty : others = [] ↔ names = [] := by
    rw [List.eq_nil_iff_forall_not_mem, List.eq_nil_iff_forall_not_mem]
    exact forall_congr' fun name => not_congr (same name)
  rw [selection, selection]
  apply List.filter_congr
  intro entry _
  rw [decide_eq_decide, empty, same entry.name]

theorem covers_congr {others : List String} (same : ∀ name, name ∈ others ↔ name ∈ names) :
    m.Covers others ↔ m.Covers names :=
  forall_congr' fun name => imp_congr_left (same name)

/-- The size checks of a selection are those of the matrix with the names. -/
theorem sizeChecks_selection (some : names ≠ []) :
    sizeChecks ⟨m.selection names⟩ = m.sizeChecks.filter (·.name ∈ names) := by
  rw [sizeChecks, sizeChecks, List.filter_map, selection]
  congr 1
  apply List.filter_congr
  intro entry _
  simp [some]

end NativeLayout.Matrix
