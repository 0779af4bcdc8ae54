/-
# What the gaps of a catalog say

Each kind of gap stands for one statement about the parts of a catalog. The
statement is given here without the passes that look for gaps, and the gaps found
are those whose statement is true, no more and no fewer.

Gaps are a set, listed in one order that is made explicit below. What the catalog
says does not change when its checks are put in another order, so the list of gaps
does not either.
-/

import Mathlib.Tactic.Simproc.ExistsAndEq
import NativeLayout.Catalog.Gap
import NativeLayout.Proofs.Descriptor

namespace NativeLayout

/-- One gap stands before another: its kind does, or with the same kind its structure, or
with the same structure the rest. -/
def Gap.Before (a b : Gap) : Prop :=
  a.rank < b.rank ∨
    a.rank = b.rank ∧ (a.name < b.name ∨ a.name = b.name ∧ a.detail < b.detail)

private theorem compare_names_eq_lt {a b : String} : compare a b = .lt ↔ a < b :=
  compareOfLessAndEq_eq_lt

theorem Gap.compare_eq_lt {a b : Gap} : Gap.compare a b = .lt ↔ a.Before b := by
  rw [Gap.compare, Before, compareLex, Ordering.then_eq_lt, compareLex, Ordering.then_eq_lt]
  simp only [compareOn, Nat.compare_eq_lt, Std.compare_eq_iff_eq,
    compare_names_eq_lt]

namespace Catalog

variable (c : Catalog)

/-- The catalog defines a name. -/
def Defines (name : String) : Prop := ∃ d ∈ c.definitions, d.name = name

/-- A public definition of the catalog has a name. -/
def Publishes (name : String) : Prop := ∃ d ∈ c.definitions, d.isPublic = true ∧ d.name = name

/-- The catalog checks a name. -/
def Checks (name : String) : Prop := ∃ check ∈ c.checks, check.name = name

/-- A name gives a descriptor. -/
def Describes (name : String) : Prop := ∃ d, c.descriptor name = .ok d

/-- A name gives a descriptor in which a field is compared. -/
def Compares (name field : String) : Prop :=
  ∃ d, c.descriptor name = .ok d ∧ ∃ raw, (field, raw) ∈ d.checkedFields

/-- What a gap says of a catalog. -/
def Suffers : Gap → Prop
  | .uncatalogued name => c.Publishes name ∧ ¬ c.Checks name ∧ name ∉ c.unchecked
  | .doublyListed name => c.Publishes name ∧ c.Checks name ∧ name ∈ c.unchecked
  | .unknownCheck name => c.Checks name ∧ ¬ c.Defines name
  | .unknownUnchecked name => name ∈ c.unchecked ∧ ¬ c.Defines name
  | .orphanSize name => name ∈ c.declaredSizes.keys ∧ ¬ c.Defines name
  | .staleSkip name field => (name, field) ∈ c.skipList ∧ ¬ c.Compares name field
  | .invalidDefinition name error =>
    c.Checks name ∧ ∃ defect, c.descriptor name = .error (.descriptor defect) ∧
      error = defect.message

variable {c}

theorem defines_iff {name : String} : c.defines name = true ↔ c.Defines name := by
  simp only [defines, Defines, List.any_eq_true, decide_eq_true_eq]

theorem hasCheck_iff {name : String} : c.hasCheck name = true ↔ c.Checks name := by
  simp only [hasCheck, Checks, List.any_eq_true, decide_eq_true_eq]

theorem hasCheckedField_iff {name field : String} :
    c.hasCheckedField name field = true ↔ c.Compares name field := by
  rw [hasCheckedField, Compares]
  cases c.descriptor name with
  | error failure => simp
  | ok d => simp [Descriptor.checkedField?_isSome]

theorem definition?_eq_none_iff {name : String} :
    c.definition? name = none ↔ ¬ c.Defines name := by
  simp only [definition?, List.find?_eq_none, decide_eq_true_eq, Defines, not_exists, not_and]

/-- A name that is not defined gives no descriptor, and no other name does so for this reason. -/
theorem descriptor_unknown_iff {name other : String} :
    c.descriptor name = .error (.unknownStructure other) ↔ other = name ∧ ¬ c.Defines name := by
  rw [← definition?_eq_none_iff, descriptor]
  cases c.definition? name with
  | none =>
      constructor
      · intro same
        cases same
        exact ⟨rfl, rfl⟩
      · rintro ⟨rfl, _⟩
        rfl
  | some d =>
      dsimp only
      cases Descriptor.ofFields name d.fields d.size c.typedefs <;> simp

theorem listingGap?_eq_some_iff {name : String} {gap : Gap} :
    c.listingGap? name = some gap ↔
      gap = .uncatalogued name ∧ ¬ c.Checks name ∧ name ∉ c.unchecked ∨
      gap = .doublyListed name ∧ c.Checks name ∧ name ∈ c.unchecked := by
  rw [listingGap?, ← hasCheck_iff]
  cases c.hasCheck name <;> by_cases listed : name ∈ c.unchecked <;> simp [listed, eq_comm]

theorem defines_of_descriptor_ne {name : String}
    (known : c.descriptor name ≠ .error (.unknownStructure name)) : c.Defines name :=
  Classical.byContradiction fun absent => known (descriptor_unknown_iff.mpr ⟨rfl, absent⟩)

theorem checkGap?_eq_some_iff {name : String} {gap : Gap} :
    c.checkGap? name = some gap ↔
      gap = .unknownCheck name ∧ ¬ c.Defines name ∨
      ∃ defect, c.descriptor name = .error (.descriptor defect) ∧
        gap = .invalidDefinition name defect.message := by
  rw [checkGap?]
  cases told : c.descriptor name with
  | ok d =>
      have defined : c.Defines name := defines_of_descriptor_ne (by simp [told])
      simp [defined]
  | error failure =>
      cases failure with
      | unknownStructure other =>
          have absent : ¬ c.Defines name := (descriptor_unknown_iff.mp told).2
          simp [absent, eq_comm]
      | descriptor defect =>
          have defined : c.Defines name := defines_of_descriptor_ne (by simp [told])
          constructor
          · intro found
            exact .inr ⟨defect, rfl, (Option.some.inj found).symm⟩
          · rintro (⟨_, absent⟩ | ⟨_, same, rfl⟩)
            · exact absurd defined absent
            · cases same
              rfl

theorem mem_listingGaps {gap : Gap} :
    gap ∈ (c.definitions.filter (·.isPublic)).filterMap (fun d => c.listingGap? d.name) ↔
      ∃ name, c.Publishes name ∧ c.listingGap? name = some gap := by
  simp only [List.mem_filterMap, List.mem_filter]
  constructor
  · rintro ⟨d, ⟨among, isPublic⟩, found⟩
    exact ⟨d.name, ⟨d, among, isPublic, rfl⟩, found⟩
  · rintro ⟨_, ⟨d, among, isPublic, rfl⟩, found⟩
    exact ⟨d, ⟨among, isPublic⟩, found⟩

theorem mem_checkGaps {gap : Gap} :
    gap ∈ c.checks.filterMap (fun check => c.checkGap? check.name) ↔
      ∃ name, c.Checks name ∧ c.checkGap? name = some gap := by
  simp only [List.mem_filterMap]
  constructor
  · rintro ⟨check, among, found⟩
    exact ⟨check.name, ⟨check, among, rfl⟩, found⟩
  · rintro ⟨_, ⟨check, among, rfl⟩, found⟩
    exact ⟨check, among, found⟩

/-- The gaps found are those that the catalog suffers from. -/
theorem mem_gaps_iff {gap : Gap} : gap ∈ c.gaps ↔ c.Suffers gap := by
  rw [gaps, OrderedSet.mem_ofList, findGaps]
  simp only [List.mem_append, mem_listingGaps, mem_checkGaps, listingGap?_eq_some_iff,
    checkGap?_eq_some_iff, List.mem_map, List.mem_filter, Bool.not_eq_true', ← Bool.not_eq_true,
    defines_iff, hasCheckedField_iff]
  -- Each kind of gap is looked for in one part only, so that one disjunct of five is left.
  cases gap <;> simp [Suffers]

end Catalog

end NativeLayout
