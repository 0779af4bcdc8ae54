/-
# Public names and listed names

A catalog lists a name if the matrix has an entry for it or the unchecked list has it.
Without gaps each public name is listed once, and no name is listed that is not defined.
But a definition that is not public may be listed too, since a listed name has only to be
defined. So the listed names are the public ones exactly if nothing else is listed.

Whether a name that is not public may stand in both parts is left open here.
-/

import NativeLayout.Proofs.Catalog.Coverage

namespace NativeLayout.Catalog

/-- The matrix of a catalog has an entry of a name. -/
def Enters (c : Catalog) (name : String) : Prop :=
  ∃ entry ∈ (Matrix.ofCatalog c).entries, entry.name = name

/-- A catalog lists a name: in its matrix or among what is left unchecked. -/
def Lists (c : Catalog) (name : String) : Prop := c.Enters name ∨ name ∈ c.unchecked

variable {c : Catalog} {name : String}

/-- The names in the matrix are those that are checked and give a descriptor. -/
theorem enters_iff : c.Enters name ↔ c.Checks name ∧ c.Describes name := by
  constructor
  · rintro ⟨entry, among, rfl⟩
    obtain ⟨check, listed, entered⟩ := List.mem_filterMap.mp among
    have named := name_of_descriptor (entryOf?_eq_some_iff.mp entered).1
    exact ⟨⟨check, listed, named.symm⟩, entry.descriptor, descriptor_of_mem_entries among⟩
  · rintro ⟨⟨check, listed, rfl⟩, descriptor, built⟩
    have entered : Matrix.entryOf? c check = some ⟨check.headers, descriptor⟩ :=
      entryOf?_eq_some_iff.mpr ⟨built, rfl⟩
    exact ⟨_, List.mem_filterMap.mpr ⟨check, listed, entered⟩, name_of_descriptor built⟩

theorem Complete.enters_iff (complete : c.Complete) : c.Enters name ↔ c.Checks name := by
  rw [Catalog.enters_iff]
  exact ⟨And.left, fun checked => ⟨checked, complete.described name checked⟩⟩

/-- Listed names are defined, publicly or not. -/
theorem Complete.defines_of_lists (complete : c.Complete) (listed : c.Lists name) :
    c.Defines name := by
  apply complete.defined
  rcases listed with entered | left
  · exact .inl (complete.enters_iff.mp entered)
  · exact .inr (.inl left)

/-- A public name is listed, and not in both parts. -/
theorem Complete.lists_once (complete : c.Complete) (published : c.Publishes name) :
    c.Lists name ∧ ¬ (c.Enters name ∧ name ∈ c.unchecked) := by
  rw [Lists, complete.enters_iff]
  exact complete.listedOnce name published

/-- Which names a catalog without gaps lists. Every public name is listed, either in the matrix
or among what is left unchecked and not in both, and every listed name is defined. The listed
names are just the public ones, and the two parts have no name in common, exactly if no name is
listed that is not public. -/
theorem lists_iff_publishes_iff (faultless : c.gaps = ∅) :
    (∀ name, c.Publishes name → c.Lists name ∧ ¬ (c.Enters name ∧ name ∈ c.unchecked)) ∧
    (∀ name, c.Lists name → c.Defines name) ∧
    (((∀ name, c.Lists name ↔ c.Publishes name) ∧
        ∀ name, ¬ (c.Enters name ∧ name ∈ c.unchecked)) ↔
      ∀ name, c.Lists name → c.Publishes name) := by
  have complete : c.Complete := gaps_eq_empty_iff.mp faultless
  refine ⟨fun name => complete.lists_once, fun name => complete.defines_of_lists, ?_⟩
  constructor
  · rintro ⟨same, _⟩ name listed
    exact (same name).mp listed
  · intro closed
    constructor
    · intro name
      exact ⟨closed name, fun published => (complete.lists_once published).1⟩
    · rintro name ⟨entered, left⟩
      have published : c.Publishes name := closed name (.inl entered)
      exact (complete.lists_once published).2 ⟨entered, left⟩

/-- Two public structures, one of them checked and the other left unchecked, and one that is not
public and stands nowhere. -/
def parted : Catalog where
  name := "aio"
  definitions :=
    [{ name := "iovec", size := 16 }, { name := "iocb", size := 64 },
     { name := "helper", isPublic := false, size := 8 }]
  checks := [⟨"iovec", .singleton "sys/uio.h"⟩]
  unchecked := .ofList ["iocb"]

theorem lists_iff_publishes_parted :
    parted.gaps = ∅ ∧ ¬ parted.Publishes "helper" ∧
      ∀ name, parted.Lists name ↔ parted.Publishes name := by
  have faultless : parted.gaps = ∅ := by decide +kernel
  obtain ⟨_, _, exactly⟩ := lists_iff_publishes_iff faultless
  have entered : (Matrix.ofCatalog parted).entries.map MatrixEntry.name = ["iovec"] := by
    decide +kernel
  have left : parted.unchecked.toList = ["iocb"] := by decide +kernel
  refine ⟨faultless, ?_, (exactly.mpr ?_).1⟩
  · rintro ⟨definition, among, isPublic, named⟩
    revert definition
    decide
  · rintro name (among | among)
    · obtain rfl := List.mem_singleton.mp (entered ▸ List.mem_map.mpr among)
      exact ⟨_, List.mem_cons_self, rfl, rfl⟩
    · obtain rfl := List.mem_singleton.mp (left ▸ OrderedSet.mem_toList.mpr among)
      exact ⟨_, List.mem_cons_of_mem _ List.mem_cons_self, rfl, rfl⟩

/-- A structure that is not public and is checked. -/
def internal : Catalog where
  name := "aio"
  definitions := [{ name := "aio_ring", isPublic := false, size := 32 }]
  checks := [⟨"aio_ring", .singleton "linux/aio_abi.h"⟩]

/-- There are no gaps, and yet the matrix has a name that is not public. -/
theorem not_lists_iff_publishes_internal :
    internal.gaps = ∅ ∧ ¬ ∀ name, internal.Lists name ↔ internal.Publishes name := by
  refine ⟨by decide +kernel, fun same => ?_⟩
  have entered : internal.Enters "aio_ring" := by
    have names : (Matrix.ofCatalog internal).entries.map MatrixEntry.name = ["aio_ring"] := by
      decide +kernel
    exact List.mem_map.mp (names ▸ List.mem_cons_self)
  obtain ⟨definition, among, isPublic, _⟩ := (same "aio_ring").mp (.inl entered)
  obtain rfl := List.mem_singleton.mp among
  cases isPublic

end NativeLayout.Catalog
