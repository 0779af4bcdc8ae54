/-
# Catalogs that come from a file

In a catalog file a structure, its declared size and the headers it is checked against stand
in one entry. So the catalog of a file can not check a structure, or declare a size, that it
does not define. What is left to be found wrong is how its names are listed, and definitions
that give no descriptor; these alone are missing from the matrix.

Entries may share a name. Which of their layouts is then compared is the matter of the module
on shadowing.
-/

import NativeLayout.Proofs.Catalog.Shadowing
import NativeLayout.Proofs.Dictionary

namespace NativeLayout

namespace Catalog

/-- Whether a gap says that the definition of a name gives no descriptor. -/
def invalid (c : Catalog) (name : String) : Bool :=
  c.gaps.toList.any fun
    | .invalidDefinition other _ => other = name
    | _ => false

variable {c : Catalog} {name : String}

theorem invalid_iff : c.invalid name = true ↔ ∃ error, .invalidDefinition name error ∈ c.gaps := by
  rw [invalid, List.any_eq_true]
  constructor
  · rintro ⟨gap, found, told⟩
    cases gap with
    | invalidDefinition other error =>
        obtain rfl := of_decide_eq_true told
        exact ⟨error, found⟩
    | _ => cases told
  · rintro ⟨error, found⟩
    exact ⟨_, found, decide_eq_true rfl⟩

/-- If every check has a definition, a check is only ever dropped for that definition. -/
theorem reports_eq_invalid (defined : .unknownCheck name ∉ c.gaps) :
    c.reports name = c.invalid name := by
  rw [Bool.eq_iff_iff, reports_iff, invalid_iff]
  exact or_iff_right defined

end Catalog

namespace CatalogDocument

variable {document : CatalogDocument} {name : String}

theorem defines_catalog_iff :
    document.catalog.Defines name ↔ ∃ entry ∈ document.structs, entry.name = name := by
  show (∃ d ∈ document.structs.map StructEntry.definition, d.name = name) ↔ _
  simp only [List.mem_map, exists_exists_and_eq_and, StructEntry.definition]

theorem publishes_catalog_iff : document.catalog.Publishes name ↔
    ∃ entry ∈ document.structs, entry.isPublic = true ∧ entry.name = name := by
  show (∃ d ∈ document.structs.map StructEntry.definition, d.isPublic = true ∧ d.name = name) ↔ _
  simp only [List.mem_map, exists_exists_and_eq_and, StructEntry.definition]

theorem checks_catalog_iff : document.catalog.Checks name ↔
    ∃ entry ∈ document.structs, entry.name = name ∧ entry.headers ≠ none := by
  show (∃ check ∈ document.structs.filterMap StructEntry.check?, check.name = name) ↔ _
  constructor
  · rintro ⟨check, among, rfl⟩
    obtain ⟨entry, listed, made⟩ := List.mem_filterMap.mp among
    obtain ⟨headers, has, rfl⟩ := Option.map_eq_some_iff.mp made
    exact ⟨entry, listed, rfl, by rw [has]; exact Option.some_ne_none headers⟩
  · rintro ⟨entry, listed, rfl, has⟩
    obtain ⟨headers, has⟩ := Option.ne_none_iff_exists'.mp has
    refine ⟨⟨entry.name, headers⟩, List.mem_filterMap.mpr ⟨entry, listed, ?_⟩, rfl⟩
    rw [StructEntry.check?, has, Option.map_some]

theorem mem_unchecked_catalog_iff :
    name ∈ document.catalog.unchecked ↔ name ∈ document.unchecked :=
  OrderedSet.mem_ofList

/-- The declared size of a name is the one that the last entry of the name with a declared size
gives. -/
theorem get?_declaredSizes_catalog (document : CatalogDocument) (name : String) :
    document.catalog.declaredSizes.get? name =
      lastSaid StructEntry.declaredSize (document.structs.filter (·.name = name)) := by
  show (Dictionary.ofList (document.structs.filterMap StructEntry.declared?)).get? name = _
  rw [Dictionary.get?_ofList, lastWritten, lastSaid, lastSaid, List.filterMap_filterMap,
    List.filterMap_filter]
  congr 2
  funext entry
  rw [StructEntry.declared?, Option.bind_map]
  by_cases own : entry.name = name
  · cases entry.declaredSize <;> simp [writtenTo, own]
  · cases entry.declaredSize <;> simp [writtenTo, own]

theorem defines_of_checks (checked : document.catalog.Checks name) :
    document.catalog.Defines name := by
  obtain ⟨entry, listed, named, _⟩ := checks_catalog_iff.mp checked
  exact defines_catalog_iff.mpr ⟨entry, listed, named⟩

theorem defines_of_mem_keys (declared : name ∈ document.catalog.declaredSizes.keys) :
    document.catalog.Defines name := by
  rw [Dictionary.mem_keys_iff, get?_declaredSizes_catalog] at declared
  obtain ⟨size, given⟩ := Option.isSome_iff_exists.mp declared
  obtain ⟨entry, among, _⟩ := List.mem_filterMap.mp (List.mem_of_getLast? given)
  obtain ⟨listed, named⟩ := List.mem_filter.mp among
  exact defines_catalog_iff.mpr ⟨entry, listed, of_decide_eq_true named⟩

theorem unknownCheck_not_mem_gaps : .unknownCheck name ∉ document.catalog.gaps := by
  rw [Catalog.mem_gaps_iff]
  rintro ⟨checked, undefined⟩
  exact undefined (defines_of_checks checked)

theorem orphanSize_not_mem_gaps : .orphanSize name ∉ document.catalog.gaps := by
  rw [Catalog.mem_gaps_iff]
  rintro ⟨declared, undefined⟩
  exact undefined (defines_of_mem_keys declared)

/-- The checks of a file are its entries with headers, in order. -/
theorem map_checks_catalog (document : CatalogDocument) :
    document.catalog.checks.map (fun check => (check.name, some check.headers)) =
      document.checked.map fun entry => (entry.name, entry.headers) := by
  show (document.structs.filterMap StructEntry.check?).map _ =
    (document.structs.filter (·.headers.isSome)).map _
  rw [List.map_filterMap, ← List.filterMap_eq_map, List.filterMap_filter]
  congr 1
  funext entry
  cases has : entry.headers <;> simp [StructEntry.check?, has]

/-- The matrix of a file has those of its entries with headers that give a descriptor. -/
theorem map_entries_catalog (document : CatalogDocument) :
    (Matrix.ofCatalog document.catalog).entries.map
        (fun entry => (entry.name, some entry.headers)) =
      (document.checked.filter fun entry => !document.catalog.invalid entry.name).map
        fun entry => (entry.name, entry.headers) := by
  have dropped (name : String) : document.catalog.reports name = document.catalog.invalid name :=
    Catalog.reports_eq_invalid unknownCheck_not_mem_gaps
  have kept := congrArg (List.map (Prod.map id some))
    (Catalog.map_entries_ofCatalog document.catalog)
  have listed := congrArg (List.filter fun row => !document.catalog.invalid row.1)
    (map_checks_catalog document)
  simp only [List.map_map, dropped] at kept
  rw [List.filter_map, List.filter_map] at listed
  exact kept.trans listed

/-- What is in the catalog of a file. Its definitions are the entries in order, its checks are
the entries with headers, and the declared size of a name is the one given last. It never checks
a name or declares the size of a name that it does not define. A name stands nowhere exactly if
some entry of the name is public, none has headers, and the unchecked list has it not either.
The matrix has an entry, in order and with the same headers, for each entry with headers whose
name is not found to be invalid. -/
theorem catalog_self_contained (document : CatalogDocument) :
    let c := document.catalog
    c.definitions = document.structs.map StructEntry.definition ∧
    c.checks.map (fun check => (check.name, some check.headers)) =
      document.checked.map (fun entry => (entry.name, entry.headers)) ∧
    (∀ name, c.declaredSizes.get? name =
      lastSaid StructEntry.declaredSize (document.structs.filter (·.name = name))) ∧
    (∀ name, .unknownCheck name ∉ c.gaps ∧ .orphanSize name ∉ c.gaps) ∧
    (∀ name, .uncatalogued name ∈ c.gaps ↔
      (∃ entry ∈ document.structs, entry.isPublic = true ∧ entry.name = name) ∧
      (¬ ∃ entry ∈ document.structs, entry.name = name ∧ entry.headers ≠ none) ∧
      name ∉ document.unchecked) ∧
    (∀ name, c.invalid name = true ↔ ∃ error, .invalidDefinition name error ∈ c.gaps) ∧
    (Matrix.ofCatalog c).entries.map (fun entry => (entry.name, some entry.headers)) =
      (document.checked.filter fun entry => !c.invalid entry.name).map
        (fun entry => (entry.name, entry.headers)) ∧
    (Matrix.ofCatalog c).entries.length =
      (document.checked.filter fun entry => !c.invalid entry.name).length := by
  intro c
  refine ⟨rfl, map_checks_catalog document, get?_declaredSizes_catalog document,
    fun name => ⟨unknownCheck_not_mem_gaps, orphanSize_not_mem_gaps⟩, fun name => ?_,
    fun name => Catalog.invalid_iff, map_entries_catalog document, ?_⟩
  · rw [Catalog.mem_gaps_iff, Catalog.Suffers, publishes_catalog_iff, checks_catalog_iff,
      mem_unchecked_catalog_iff]
  · simpa using congrArg List.length (map_entries_catalog document)

end CatalogDocument

end NativeLayout
