/-
# What a listing shows

A listing has a row for every check of a catalog, the matrix an entry for every check whose
structure gives a descriptor. So the rows are those of the matrix, and rows of checks that
can not be carried out. These look like all others, but a check refuses their names and no
assertions can be written for them. The listing is the matrix exactly if there are none.

A name that has no row is refused as one that is not in the matrix. Names may repeat, in
rows as in checks.
-/

import Mathlib.Algebra.Order.BigOperators.Group.List
import Mathlib.Algebra.Order.Ring.Nat
import NativeLayout.Proofs.Catalog.Publicity
import NativeLayout.Proofs.CommandLine.Check
import NativeLayout.Proofs.Run.Selection
import NativeLayout.Proofs.Text.Lines

namespace NativeLayout

namespace CommandLine

variable {fewer rows : List ListRow} {n : Nat}

/-- The listing that some rows would make. -/
def listingOf (c : Catalog) (rows : List ListRow) : String :=
  Text.ofLines (rows.map (ListRow.line (nameWidth rows)) ++ uncheckedLines c)

theorem nameWidth_le_iff : nameWidth rows ≤ n ↔ ∀ row ∈ rows, row.name.utf8ByteSize ≤ n := by
  have from_start (start : Nat) :
      rows.foldl (fun width row => max width row.name.utf8ByteSize) start ≤ n ↔
        start ≤ n ∧ ∀ row ∈ rows, row.name.utf8ByteSize ≤ n := by
    induction rows generalizing start with
    | nil => simp
    | cons row rest ih => rw [List.foldl_cons, ih, Nat.max_le, List.forall_mem_cons, and_assoc]
  rw [nameWidth, from_start, and_iff_right (Nat.zero_le n)]

theorem nameWidth_le_of_sublist (part : fewer.Sublist rows) : nameWidth fewer ≤ nameWidth rows :=
  nameWidth_le_iff.mpr fun row among =>
    nameWidth_le_iff.mp (Nat.le_refl _) row (part.subset among)

theorem length_line (width : Nat) (row : ListRow) :
    (row.line width).length = max width row.name.length + 2 + row.headers.display.length := by
  have two : "  ".length = 2 := rfl
  rw [ListRow.line, padEnd, String.length_append, String.length_append, String.length_append,
    String.length_ofList, List.length_replicate, two]
  omega

theorem length_ofLines (lines : List String) :
    (Text.ofLines lines).length = (lines.map fun line => line.length + 1).sum := by
  induction lines with
  | nil => rfl
  | cons line rest ih =>
      rw [← String.length_toList, Text.toList_ofLines_cons, List.length_append, List.length_cons,
        String.length_toList, String.length_toList, ih, List.map_cons, List.sum_cons]
      omega

theorem sum_map_lt_of_sublist {α : Type} {f : α → Nat} (positive : ∀ a, 0 < f a)
    {short long : List α} (part : short.Sublist long) (lost : short ≠ long) :
    (short.map f).sum < (long.map f).sum := by
  induction part with
  | slnil => exact absurd rfl lost
  | cons a part _ =>
      have kept := (part.map f).sum_le_sum fun _ _ => Nat.zero_le _
      have more := positive a
      rw [List.map_cons, List.sum_cons]
      omega
  | cons_cons a _ ih =>
      have less := ih fun same => lost (congrArg (a :: ·) same)
      rw [List.map_cons, List.map_cons, List.sum_cons, List.sum_cons]
      omega

/-- A listing with a row less is shorter. -/
theorem length_listingOf_lt (c : Catalog) (part : fewer.Sublist rows) (lost : fewer ≠ rows) :
    (listingOf c fewer).length < (listingOf c rows).length := by
  let size (width : Nat) (row : ListRow) : Nat := (row.line width).length + 1
  have narrower : (fewer.map (size (nameWidth fewer))).sum ≤
      (fewer.map (size (nameWidth rows))).sum := by
    apply List.sum_le_sum
    intro row _
    have width := nameWidth_le_of_sublist part
    simp only [size, length_line]
    omega
  have shorter : (fewer.map (size (nameWidth rows))).sum < (rows.map (size (nameWidth rows))).sum :=
    sum_map_lt_of_sublist (fun row => Nat.succ_pos _) part lost
  simp only [listingOf, length_ofLines, List.map_append, List.map_map, List.sum_append]
  exact Nat.add_lt_add_right (Nat.lt_of_le_of_lt narrower shorter) _

end CommandLine

open CommandLine

namespace Catalog

/-- The rows of a listing that has the entries of the matrix and no others. -/
def matrixRows (c : Catalog) : List ListRow :=
  (Matrix.ofCatalog c).entries.map fun entry => ⟨entry.name, entry.headers⟩

/-- A name has a row in the listing of a catalog. -/
def Shows (c : Catalog) (name : String) : Prop := ∃ row ∈ listRows c, row.name = name

variable {c : Catalog} {name : String}

theorem shows_iff : c.Shows name ↔ c.Checks name := by
  simp only [Shows, listRows, List.mem_map, exists_exists_and_eq_and, Checks]

/-- The rows of the matrix are the rows of the listing but for those that a gap tells of. -/
theorem matrixRows_eq_filter (c : Catalog) :
    c.matrixRows = (listRows c).filter fun row => !c.reports row.name := by
  have rows := congrArg (List.map fun (name, headers) => (⟨name, headers⟩ : ListRow))
    (map_entries_ofCatalog c)
  rw [List.map_map, List.map_map] at rows
  rw [listRows, List.filter_map]
  exact rows

/-- The listing is the matrix exactly if every name in it gives a descriptor. -/
theorem matrixRows_eq_listRows_iff :
    c.matrixRows = listRows c ↔ ∀ name, c.Shows name → c.Describes name := by
  rw [matrixRows_eq_filter, List.filter_eq_self]
  have unreported {row : ListRow} (among : row ∈ listRows c) :
      (!c.reports row.name) = true ↔ c.Describes row.name := by
    have checked : c.Checks row.name := shows_iff.mp ⟨row, among, rfl⟩
    rw [Bool.not_eq_true', ← Bool.not_eq_true, reports_iff_not_describes checked, not_not]
  constructor
  · rintro kept _ ⟨row, among, rfl⟩
    exact (unreported among).mp (kept row among)
  · intro described row among
    exact (unreported among).mpr (described row.name ⟨row, among, rfl⟩)

/-- The text of a listing tells whether it has all rows of the matrix and no others. -/
theorem listing_eq_listingOf_iff :
    listing c = listingOf c c.matrixRows ↔ c.matrixRows = listRows c := by
  have part : c.matrixRows.Sublist (listRows c) := by
    rw [matrixRows_eq_filter]
    exact List.filter_sublist
  constructor
  · intro same
    by_contra lost
    have shorter := length_listingOf_lt c part lost
    rw [← same] at shorter
    exact Nat.lt_irrefl _ shorter
  · intro same
    rw [same]
    rfl

/-! ## Selecting and writing -/

/-- Every name of a selection has an entry exactly if it has a row and gives a descriptor. -/
theorem covers_ofCatalog_iff {names : List String} :
    (Matrix.ofCatalog c).Covers names ↔ ∀ name ∈ names, c.Shows name ∧ c.Describes name := by
  apply forall₂_congr
  intro name _
  rw [shows_iff]
  exact enters_iff

theorem select_singleton_of_not (missing : ¬ (c.Shows name ∧ c.Describes name)) :
    (Matrix.ofCatalog c).select [name] = .error name := by
  have uncovered : ¬ (Matrix.ofCatalog c).Covers [name] := by
    rw [covers_ofCatalog_iff, List.forall_mem_singleton]
    exact missing
  obtain ⟨earlier, first, later, split, _, _, refused⟩ := Matrix.select_of_not_covers uncovered
  obtain ⟨_, only⟩ | ⟨_, none⟩ := List.append_eq_singleton_iff.mp split.symm
  · obtain ⟨rfl, _⟩ := List.cons_eq_cons.mp only
    exact refused
  · cases none

theorem any_entryOf?_iff {check : Check} :
    (Matrix.entryOf? c check).any (·.name = name) = true ↔
      check.name = name ∧ c.Describes name := by
  rw [Option.any_eq_true]
  constructor
  · rintro ⟨entry, entered, own⟩
    have built := (entryOf?_eq_some_iff.mp entered).1
    obtain rfl : entry.name = name := of_decide_eq_true own
    have named : entry.name = check.name := name_of_descriptor built
    exact ⟨named.symm, entry.descriptor, named ▸ built⟩
  · rintro ⟨rfl, d, built⟩
    refine ⟨⟨check.headers, d⟩, entryOf?_eq_some_iff.mpr ⟨built, rfl⟩, ?_⟩
    exact decide_eq_true (name_of_descriptor built)

/-- The entry that is found under a name is that of the first check of the name. -/
theorem entryNamed?_ofCatalog (c : Catalog) (name : String) :
    (Matrix.ofCatalog c).entryNamed? name = (c.check? name).bind (Matrix.entryOf? c) := by
  rw [Matrix.entryNamed?, Matrix.ofCatalog, List.find?_filterMap, check?]
  by_cases described : c.Describes name
  · congr 2
    funext check
    rw [Bool.eq_iff_iff, any_entryOf?_iff, and_iff_left described, decide_eq_true_iff]
  · have unfound : c.checks.find? (fun check => (Matrix.entryOf? c check).any (·.name = name)) =
        none := by
      rw [List.find?_eq_none]
      exact fun check _ found => described (any_entryOf?_iff.mp found).2
    rw [unfound, Option.bind_none, eq_comm, Option.bind_eq_none_iff]
    intro check found
    obtain rfl : check.name = name := of_decide_eq_true (List.find?_some found :)
    rw [entryOf?_eq_none_iff ⟨check, List.mem_of_find?_eq_some found, rfl⟩,
      reports_iff_not_describes ⟨check, List.mem_of_find?_eq_some found, rfl⟩]
    exact described

end Catalog

namespace CommandLine

open Catalog

variable {c : Catalog} {name : String}

/-- The assertions of a name that is checked are those of its first check, if the name gives a
descriptor. -/
theorem assertionsOf_of_check {check : Check} (found : c.check? name = some check) :
    assertionsOf c name = match c.descriptor name with
      | .error defect => .error defect.message
      | .ok d => .ok (Source.assertions d check.headers c.skipList) := by
  have own : check.name = name := of_decide_eq_true (List.find?_some found :)
  rw [assertionsOf, entryNamed?_ofCatalog, found, Option.bind_some, Matrix.entryOf?, own]
  cases c.descriptor name <;> rfl

theorem assertionsOf_of_unchecked (absent : c.check? name = none) :
    assertionsOf c name = .error (RunError.notInMatrix name).message := by
  rw [assertionsOf, entryNamed?_ofCatalog, absent]
  rfl

theorem find?_listRows (c : Catalog) (name : String) :
    (listRows c).find? (·.name = name) =
      (c.check? name).map fun check => ⟨check.name, check.headers⟩ := by
  rw [listRows, List.find?_map]
  rfl

theorem exists_check_of_shows (shown : c.Shows name) : ∃ check, c.check? name = some check := by
  obtain ⟨check, among, named⟩ := shows_iff.mp shown
  exact Option.isSome_iff_exists.mp (List.find?_isSome.mpr ⟨check, among, decide_eq_true named⟩)

theorem check?_of_not_shows (hidden : ¬ c.Shows name) : c.check? name = none := by
  rw [shows_iff] at hidden
  rw [check?, List.find?_eq_none]
  exact fun check among named => hidden ⟨check, among, of_decide_eq_true named⟩

/-- A name that is not shown is refused as one that is not in the matrix. -/
theorem refused_of_not_shows (hidden : ¬ c.Shows name) :
    (Matrix.ofCatalog c).select [name] = .error name ∧
      assertionsOf c name = .error (RunError.notInMatrix name).message := by
  refine ⟨select_singleton_of_not fun both => hidden both.1, ?_⟩
  exact assertionsOf_of_unchecked (check?_of_not_shows hidden)

/-- The assertions of a name that is shown are those of its first row, if the name gives a
descriptor. -/
theorem assertionsOf_of_row {row : ListRow}
    (first : (listRows c).find? (·.name = name) = some row) :
    assertionsOf c name = match c.descriptor name with
      | .error defect => .error defect.message
      | .ok d => .ok (Source.assertions d row.headers c.skipList) := by
  rw [find?_listRows] at first
  obtain ⟨check, found, rfl⟩ := Option.map_eq_some_iff.mp first
  exact assertionsOf_of_check found

/-! ## The commands -/

/-- The listing of a catalog is a listing of what can be asked for. -/
structure ListsMatrix (c : Catalog) : Prop where
  rows : listRows c = c.matrixRows
  selected : ∀ name, c.Shows name → ∃ selected, (Matrix.ofCatalog c).select [name] = .ok selected
  written : ∀ name, c.Shows name → ∃ text, assertionsOf c name = .ok text
  refused : ∀ name, ¬ c.Shows name → (Matrix.ofCatalog c).select [name] = .error name ∧
    assertionsOf c name = .error (RunError.notInMatrix name).message

theorem listsMatrix_iff : ListsMatrix c ↔ ∀ name, c.Shows name → c.Describes name := by
  constructor
  · intro lists
    exact matrixRows_eq_listRows_iff.mp lists.rows.symm
  · intro described
    exact {
      rows := (matrixRows_eq_listRows_iff.mpr described).symm
      selected := by
        intro name shown
        refine ⟨_, Matrix.select_eq_ok_iff.mpr ⟨covers_ofCatalog_iff.mpr ?_, rfl⟩⟩
        rw [List.forall_mem_singleton]
        exact ⟨shown, described name shown⟩
      written := by
        intro name shown
        obtain ⟨check, found⟩ := exists_check_of_shows shown
        obtain ⟨d, built⟩ := described name shown
        exact ⟨_, by rw [assertionsOf_of_check found, built]⟩
      refused := fun name => refused_of_not_shows }

variable {host : Host} {path : Option String}

theorem execute_list (loaded : catalogOf host path = .ok c) (verbose : Bool) :
    execute host verbose (.list path) = .success (listing c) := by
  rw [execute, list, loaded]
  rfl

theorem execute_source (loaded : catalogOf host path = .ok c) (verbose : Bool) (name : String) :
    execute host verbose (.source name path) = .ofResult ((assertionsOf c name).map .success) := by
  rw [execute, source, loaded]
  rfl

/-- A check is refused for the first of its names that is not shown or gives no descriptor. -/
theorem execute_check_of_missing {names : List String} {format : String} {target : Option String}
    {configuration : Configuration} {pipeline : Pipeline}
    (prepared : Prepared host path format target configuration c pipeline)
    (missing : ¬ ∀ name ∈ names, c.Shows name ∧ c.Describes name)
    (verbose : Bool) (jobs : Option Nat) (strict : Bool) :
    ∃ earlier first later, names = earlier ++ first :: later ∧
      (∀ name ∈ earlier, c.Shows name ∧ c.Describes name) ∧
      ¬ (c.Shows first ∧ c.Describes first) ∧
      execute host verbose (.check names path format jobs strict target) =
        .failure "" (RunError.notInMatrix first).message := by
  rw [← covers_ofCatalog_iff] at missing
  obtain ⟨earlier, first, later, split, covered, absent, refused⟩ :=
    Run.conform_of_not_covers missing (compilerOn host pipeline)
      ⟨overridesOf configuration strict, ∅⟩ ()
  refine ⟨earlier, first, later, split, covers_ofCatalog_iff.mp covered, ?_, ?_⟩
  · rw [shows_iff]
    intro both
    obtain ⟨entry, among, named⟩ := enters_iff.mpr both
    exact absent entry among named
  · obtain ⟨chosen, same⟩ := check_of_prepared prepared names strict verbose
    rw [execute, same, refused]
    rfl

/-- What a listing shows. It is a listing of what can be asked for, that is of the entries of the
matrix, all of whose names can be selected and written and all other names of which are refused,
exactly if every name that it shows gives a descriptor; and this can be told from its text. In
any case the matrix has those rows of which no gap tells, some names can be selected exactly if
each is shown and gives a descriptor, the assertions of a name are those of its first row, and
a name is refused for the defect of its definition if it is shown, and else because it is not in
the matrix. The commands do no more than this: they write the listing or the assertions, and a
check is refused for the first of its names that can not be selected. -/
theorem listsMatrix_iff_describes (c : Catalog) :
    (ListsMatrix c ↔ ∀ name, c.Shows name → c.Describes name) ∧
    (listing c = listingOf c c.matrixRows ↔ ∀ name, c.Shows name → c.Describes name) ∧
    c.matrixRows = (listRows c).filter (fun row => !c.reports row.name) ∧
    (∀ names, (∃ selected, (Matrix.ofCatalog c).select names = .ok selected) ↔
      ∀ name ∈ names, c.Shows name ∧ c.Describes name) ∧
    (∀ name row, (listRows c).find? (·.name = name) = some row →
      assertionsOf c name = match c.descriptor name with
        | .error defect => .error defect.message
        | .ok d => .ok (Source.assertions d row.headers c.skipList)) ∧
    (∀ name, ¬ c.Shows name → assertionsOf c name = .error (RunError.notInMatrix name).message) ∧
    ∀ host path, catalogOf host path = .ok c → ∀ verbose,
      execute host verbose (.list path) = .success (listing c) ∧
      (∀ name, execute host verbose (.source name path) =
        .ofResult ((assertionsOf c name).map .success)) ∧
      ∀ names format jobs strict target configuration pipeline,
        Prepared host path format target configuration c pipeline →
        (¬ ∀ name ∈ names, c.Shows name ∧ c.Describes name) →
        ∃ earlier first later, names = earlier ++ first :: later ∧
          (∀ name ∈ earlier, c.Shows name ∧ c.Describes name) ∧
          ¬ (c.Shows first ∧ c.Describes first) ∧
          execute host verbose (.check names path format jobs strict target) =
            .failure "" (RunError.notInMatrix first).message := by
  refine ⟨listsMatrix_iff, ?_, matrixRows_eq_filter c, fun names => ?_,
    fun name row first => assertionsOf_of_row first,
    fun name hidden => (refused_of_not_shows hidden).2, fun host path loaded verbose => ?_⟩
  · exact listing_eq_listingOf_iff.trans matrixRows_eq_listRows_iff
  · rw [← covers_ofCatalog_iff]
    simp only [Matrix.select_eq_ok_iff, exists_and_left, exists_eq, and_true]
  · refine ⟨execute_list loaded verbose, execute_source loaded verbose, ?_⟩
    intro names format jobs strict target configuration pipeline prepared missing
    exact execute_check_of_missing prepared missing verbose jobs strict

theorem listsMatrix_iff_describes_lingering : ListsMatrix Run.lingering := by
  apply (listsMatrix_iff_describes Run.lingering).1.mpr
  rintro _ ⟨row, among, rfl⟩
  obtain rfl : row = ⟨"linger", .singleton "sys/socket.h"⟩ := List.mem_singleton.mp among
  have built : (Run.lingering.descriptor "linger").isOk = true := by decide +kernel
  cases given : Run.lingering.descriptor "linger" with
  | error failure => rw [given] at built; cases built
  | ok d => exact ⟨d, given⟩

/-- Two structures that are checked, of which the second has a field without elements. -/
def unmeasured : Catalog where
  name := "sockets"
  definitions :=
    [{ name := "linger"
       fields := [{ name := "_l_onoff", offset := 0, element := ⟨"c_int", 4⟩ }]
       size := 8 },
     { name := "sockad"
       fields := [{ name := "_sa_data", offset := 0, element := ⟨"c_char", 1⟩, count := 0 }]
       size := 0 }]
  checks :=
    [⟨"linger", .singleton "sys/socket.h"⟩, ⟨"sockad", .singleton "sys/socket.h"⟩]

/-- Both are listed, but only the first has an entry. The second is refused by a check, and its
assertions can not be written. -/
theorem not_listsMatrix_unmeasured :
    ¬ ListsMatrix unmeasured ∧
    listing unmeasured = "linger  sys/socket.h\nsockad  sys/socket.h\n" ∧
    (Matrix.ofCatalog unmeasured).entries.map MatrixEntry.name = ["linger"] ∧
    (Matrix.ofCatalog unmeasured).select ["sockad"] = .error "sockad" ∧
    assertionsOf unmeasured "sockad" =
      .error "`sockad._sa_data` has an element count of zero" := by
  have rows : (listRows unmeasured).map ListRow.name = ["linger", "sockad"] := by decide +kernel
  have entries : (Matrix.ofCatalog unmeasured).entries.map MatrixEntry.name = ["linger"] := by
    decide +kernel
  refine ⟨fun lists => ?_, by decide +kernel, entries, by decide +kernel, by decide +kernel⟩
  rw [lists.rows, matrixRows, List.map_map] at rows
  exact absurd (entries.symm.trans rows) (by decide)

end CommandLine

end NativeLayout
