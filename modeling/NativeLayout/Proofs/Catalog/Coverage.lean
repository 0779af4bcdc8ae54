/-
# Nothing is dropped unseen

The matrix leaves out the checks that give no descriptor, and the gaps are found by
other passes over the same catalog. The two agree: the checks that are left out are
those that a gap names, and the rest stay in order with their own headers. A catalog
without gaps is one whose parts agree in every respect, which is spelt out below.

Checks may repeat a name, definitions too; nothing here asks for distinct names.
-/

import Mathlib.Tactic.ByContra
import NativeLayout.Matrix
import NativeLayout.Proofs.Catalog.Gaps

namespace NativeLayout

/-- Whether a gap tells of a check of the name that can not be carried out. -/
def Gap.drops (gap : Gap) (name : String) : Bool :=
  match gap with
  | .unknownCheck other | .invalidDefinition other _ => other = name
  | _ => false

theorem Gap.drops_iff {name : String} {gap : Gap} : gap.drops name = true ↔
    gap = .unknownCheck name ∨ ∃ error, gap = .invalidDefinition name error := by
  cases gap <;> simp [drops]

namespace Catalog

/-- The parts of a catalog agree. -/
structure Complete (c : Catalog) : Prop where
  defined : ∀ name, c.Checks name ∨ name ∈ c.unchecked ∨ name ∈ c.declaredSizes.keys →
    c.Defines name
  listedOnce : ∀ name, c.Publishes name →
    (c.Checks name ∨ name ∈ c.unchecked) ∧ ¬ (c.Checks name ∧ name ∈ c.unchecked)
  described : ∀ name, c.Checks name → c.Describes name
  compared : ∀ name field, (name, field) ∈ c.skipList → c.Compares name field

/-- Whether the gaps of a catalog tell of a check that can not be carried out. -/
def reports (c : Catalog) (name : String) : Bool := c.gaps.toList.any (·.drops name)

variable {c : Catalog} {name : String}

theorem reports_iff : c.reports name = true ↔
    .unknownCheck name ∈ c.gaps ∨ ∃ error, .invalidDefinition name error ∈ c.gaps := by
  simp only [reports, List.any_eq_true, Gap.drops_iff, OrderedSet.mem_toList]
  constructor
  · rintro ⟨gap, found, rfl | ⟨error, rfl⟩⟩
    · exact .inl found
    · exact .inr ⟨error, found⟩
  · rintro (found | ⟨error, found⟩)
    · exact ⟨_, found, .inl rfl⟩
    · exact ⟨_, found, .inr ⟨error, rfl⟩⟩

/-- A name gives no descriptor for one of two reasons. -/
theorem not_describes_iff : ¬ c.Describes name ↔
    ¬ c.Defines name ∨ ∃ defect, c.descriptor name = .error (.descriptor defect) := by
  rw [Describes]
  cases told : c.descriptor name with
  | ok d =>
      have defined : c.Defines name := defines_of_descriptor_ne (by simp [told])
      simp [defined]
  | error failure =>
      cases failure with
      | unknownStructure other => simp [(descriptor_unknown_iff.mp told).2]
      | descriptor defect => simp

/-- The gaps tell of a check exactly if its structure gives no descriptor. -/
theorem reports_iff_not_describes (checked : c.Checks name) :
    c.reports name = true ↔ ¬ c.Describes name := by
  rw [reports_iff, not_describes_iff, mem_gaps_iff]
  simp only [mem_gaps_iff, Suffers, checked, true_and]
  apply or_congr_right
  constructor
  · rintro ⟨_, defect, told, _⟩
    exact ⟨defect, told⟩
  · rintro ⟨defect, told⟩
    exact ⟨defect.message, defect, told, rfl⟩

/-- A descriptor is made of the first definition of its name and of the declared size. -/
theorem descriptor_eq_ok_iff {d : Descriptor} : c.descriptor name = .ok d ↔
    ∃ definition, c.definition? name = some definition ∧
      Descriptor.ofFields name definition.fields definition.size c.typedefs =
        .ok { d with declaredSize := none } ∧
      d.declaredSize = c.declaredSizes.get? name := by
  rw [descriptor]
  cases c.definition? name with
  | none => simp
  | some definition =>
      obtain ⟨label, style, fields, size, declared⟩ := d
      simp only [Option.some.injEq, exists_eq_left']
      cases made : Descriptor.ofFields name definition.fields definition.size c.typedefs with
      | error failure => simp
      | ok built =>
          obtain ⟨_, rfl⟩ := Descriptor.ofFields_eq_ok_iff.mp made
          simp only [Except.ok.injEq, Descriptor.mk.injEq, and_true, and_assoc,
            eq_comm (a := declared)]

theorem name_of_descriptor {d : Descriptor} (built : c.descriptor name = .ok d) :
    d.name = name := by
  obtain ⟨_, _, made, _⟩ := descriptor_eq_ok_iff.mp built
  have parts := (Descriptor.ofFields_eq_ok_iff.mp made).2
  exact (congrArg Descriptor.name parts).symm

theorem gaps_of_perm {checks : List Check} (reordered : checks.Perm c.checks) :
    ({ c with checks } : Catalog).gaps = c.gaps := by
  ext gap
  rw [mem_gaps_iff, mem_gaps_iff]
  have same (name : String) : ({ c with checks } : Catalog).Checks name ↔ c.Checks name := by
    simp only [Checks, reordered.mem_iff]
  cases gap <;> simp only [Suffers, same] <;> rfl

/-- A check has an entry exactly if its structure gives a descriptor, and the entry is then
made of that descriptor and the headers of the check. -/
theorem entryOf?_eq_some_iff {check : Check} {entry : MatrixEntry} :
    Matrix.entryOf? c check = some entry ↔
      c.descriptor check.name = .ok entry.descriptor ∧ entry.headers = check.headers := by
  rw [Matrix.entryOf?]
  obtain ⟨headers, descriptor⟩ := entry
  cases c.descriptor check.name with
  | error failure => simp
  | ok d => simp [eq_comm, and_comm]

/-- A check of the catalog has no entry exactly if the gaps tell of it. -/
theorem entryOf?_eq_none_iff {check : Check} (checked : c.Checks check.name) :
    Matrix.entryOf? c check = none ↔ c.reports check.name = true := by
  rw [reports_iff_not_describes checked, Describes, Matrix.entryOf?]
  cases c.descriptor check.name <;> simp

private theorem map_filterMap_entryOf? {checks : List Check}
    (inside : ∀ check ∈ checks, c.Checks check.name) :
    (checks.filterMap (Matrix.entryOf? c)).map (fun entry => (entry.name, entry.headers)) =
      (checks.filter fun check => !c.reports check.name).map
        fun check => (check.name, check.headers) := by
  induction checks with
  | nil => rfl
  | cons check rest ih =>
      have onward := ih fun other among => inside other (List.mem_cons_of_mem check among)
      have dropped := entryOf?_eq_none_iff (inside check List.mem_cons_self)
      cases entered : Matrix.entryOf? c check with
      | none =>
          have told : c.reports check.name = true := dropped.mp entered
          rw [List.filterMap_cons_none entered, List.filter_cons_of_neg (by simp [told]), onward]
      | some entry =>
          have untold : c.reports check.name = false := by
            rw [← Bool.not_eq_true, ← dropped, entered]
            exact nofun
          obtain ⟨built, own⟩ := entryOf?_eq_some_iff.mp entered
          have named : entry.name = check.name := name_of_descriptor built
          rw [List.filterMap_cons_some entered, List.filter_cons_of_pos (by simp [untold]),
            List.map_cons, List.map_cons, onward, named, own]

/-- What is left of the checks in the matrix: those that no gap tells of, in order and with
their own headers. -/
theorem map_entries_ofCatalog (c : Catalog) :
    (Matrix.ofCatalog c).entries.map (fun entry => (entry.name, entry.headers)) =
      (c.checks.filter fun check => !c.reports check.name).map
        fun check => (check.name, check.headers) :=
  map_filterMap_entryOf? fun check among => ⟨check, among, rfl⟩

/-- The matrix has an entry with the name and the headers of a check exactly if no gap tells
of the check. -/
theorem exists_entry_iff {check : Check} (among : check ∈ c.checks) :
    (∃ entry ∈ (Matrix.ofCatalog c).entries,
      entry.name = check.name ∧ entry.headers = check.headers) ↔
    c.reports check.name = false := by
  have checked : c.Checks check.name := ⟨check, among, rfl⟩
  constructor
  · rintro ⟨entry, entered, named, _⟩
    obtain ⟨other, _, made⟩ := List.mem_filterMap.mp entered
    have built := (entryOf?_eq_some_iff.mp made).1
    have same : other.name = check.name := (name_of_descriptor built).symm.trans named
    rw [← Bool.not_eq_true, reports_iff_not_describes checked, not_not]
    exact ⟨entry.descriptor, same ▸ built⟩
  · intro untold
    cases entered : Matrix.entryOf? c check with
    | none =>
        rw [(entryOf?_eq_none_iff checked).mp entered] at untold
        cases untold
    | some entry =>
        obtain ⟨built, own⟩ := entryOf?_eq_some_iff.mp entered
        have listed : entry ∈ (Matrix.ofCatalog c).entries :=
          List.mem_filterMap.mpr ⟨check, among, entered⟩
        exact ⟨entry, listed, name_of_descriptor built, own⟩

/-- An entry of the matrix has the descriptor of its structure. -/
theorem descriptor_of_mem_entries {entry : MatrixEntry}
    (among : entry ∈ (Matrix.ofCatalog c).entries) :
    c.descriptor entry.name = .ok entry.descriptor := by
  obtain ⟨check, _, entered⟩ := List.mem_filterMap.mp among
  have built := (entryOf?_eq_some_iff.mp entered).1
  rw [MatrixEntry.name, name_of_descriptor built, built]

/-- There is no gap exactly if the parts of the catalog agree. -/
theorem gaps_eq_empty_iff : c.gaps = ∅ ↔ c.Complete := by
  have none_iff : c.gaps = ∅ ↔ ∀ gap, ¬ c.Suffers gap := by
    constructor
    · intro none gap
      rw [← mem_gaps_iff, none]
      exact OrderedSet.not_mem_empty gap
    · intro none
      ext gap
      rw [mem_gaps_iff]
      exact iff_of_false (none gap) (OrderedSet.not_mem_empty gap)
  rw [none_iff]
  constructor
  · intro none
    exact {
      defined := by
        intro name mentioned
        by_contra absent
        rcases mentioned with checked | left | sized
        · exact none (.unknownCheck name) ⟨checked, absent⟩
        · exact none (.unknownUnchecked name) ⟨left, absent⟩
        · exact none (.orphanSize name) ⟨sized, absent⟩
      listedOnce := by
        intro name published
        refine ⟨?_, fun ⟨checked, left⟩ => none (.doublyListed name) ⟨published, checked, left⟩⟩
        by_contra missing
        rw [not_or] at missing
        exact none (.uncatalogued name) ⟨published, missing⟩
      described := by
        intro name checked
        by_contra missing
        rcases not_describes_iff.mp missing with absent | ⟨defect, told⟩
        · exact none (.unknownCheck name) ⟨checked, absent⟩
        · exact none (.invalidDefinition name defect.message) ⟨checked, defect, told, rfl⟩
      compared := by
        intro name field skipped
        by_contra missing
        exact none (.staleSkip name field) ⟨skipped, missing⟩ }
  · intro complete gap suffers
    cases gap with
    | uncatalogued name =>
        obtain ⟨published, unlisted⟩ := suffers
        exact not_or.mpr unlisted (complete.listedOnce name published).1
    | doublyListed name =>
        obtain ⟨published, both⟩ := suffers
        exact (complete.listedOnce name published).2 both
    | unknownCheck name => exact suffers.2 (complete.defined name (.inl suffers.1))
    | unknownUnchecked name => exact suffers.2 (complete.defined name (.inr (.inl suffers.1)))
    | orphanSize name => exact suffers.2 (complete.defined name (.inr (.inr suffers.1)))
    | staleSkip name field => exact suffers.2 (complete.compared name field suffers.1)
    | invalidDefinition name error =>
        obtain ⟨checked, defect, told, _⟩ := suffers
        obtain ⟨d, built⟩ := complete.described name checked
        rw [told] at built
        cases built

/-- Nothing is dropped unseen. The gaps are listed in strictly increasing order, whatever the
order of the checks; a check is missing from the matrix exactly if a gap says that its
structure is not defined or can not be described; the matrix holds the other checks in order,
each with its own headers and the descriptor of its structure; and there are no gaps exactly
if the parts of the catalog agree. -/
theorem gaps_cover_matrix (c : Catalog) :
    c.gaps.toList.Pairwise Gap.Before ∧
    (∀ checks : List Check, checks.Perm c.checks →
      ({ c with checks } : Catalog).gaps = c.gaps) ∧
    (∀ check ∈ c.checks,
      (¬ ∃ entry ∈ (Matrix.ofCatalog c).entries,
        entry.name = check.name ∧ entry.headers = check.headers) ↔
      .unknownCheck check.name ∈ c.gaps ∨ ∃ error, .invalidDefinition check.name error ∈ c.gaps) ∧
    (Matrix.ofCatalog c).entries.map (fun entry => (entry.name, entry.headers)) =
      (c.checks.filter fun check => !c.reports check.name).map
        (fun check => (check.name, check.headers)) ∧
    (∀ entry ∈ (Matrix.ofCatalog c).entries, c.descriptor entry.name = .ok entry.descriptor) ∧
    (c.gaps = ∅ ↔ c.Complete) := by
  refine ⟨?_, fun _ => gaps_of_perm, ?_, map_entries_ofCatalog c, ?_, gaps_eq_empty_iff⟩
  · exact c.gaps.increasing.imp Gap.compare_eq_lt.mp
  · intro check among
    rw [← reports_iff, exists_entry_iff among, Bool.not_eq_false]
  · intro entry among
    exact descriptor_of_mem_entries among

end Catalog

end NativeLayout
