/-
# Structures of a catalog file that share a name

The checks of a catalog file are its structures with headers, in order. A catalog
without gaps has an entry of the matrix for each of them. The entry has the headers
of the structure, but its layout is looked up by name, and the look-up ends at the
first structure of that name. So a later structure of the same name is not compared
at all: what is compared in its place is the layout of the first.

The gaps of a catalog are about names, and a repeated name makes no gap.
-/

import Mathlib.Data.List.Forall2
import Mathlib.Data.List.Nodup
import NativeLayout.Catalog.Document
import NativeLayout.Proofs.Catalog.Coverage

namespace NativeLayout

/-- Keeping some elements and answering for just these goes pairwise. -/
theorem forall₂_filter_filterMap {α β : Type} {keep : α → Bool} {answer : α → Option β}
    {related : α → β → Prop} {list : List α}
    (kept : ∀ a ∈ list, keep a = true → ∃ b, answer a = some b ∧ related a b)
    (dropped : ∀ a ∈ list, keep a = false → answer a = none) :
    List.Forall₂ related (list.filter keep) (list.filterMap answer) := by
  induction list with
  | nil => exact .nil
  | cons a rest ih =>
      have onward := ih (fun b among => kept b (List.mem_cons_of_mem a among))
        (fun b among => dropped b (List.mem_cons_of_mem a among))
      cases wanted : keep a with
      | true =>
          obtain ⟨b, answered, fits⟩ := kept a List.mem_cons_self wanted
          rw [List.filter_cons_of_pos wanted, List.filterMap_cons_some answered]
          exact .cons fits onward
      | false =>
          have silent := dropped a List.mem_cons_self wanted
          rw [List.filter_cons_of_neg (by simp [wanted]), List.filterMap_cons_none silent]
          exact onward

/-- If related elements decide alike, a pairing under one relation is one under the other exactly
if the condition holds of all. -/
theorem forall₂_iff_of_forall₂ {α β : Type} {related wanted : α → β → Prop} {met : α → Prop}
    {first : List α} {second : List β} (paired : List.Forall₂ related first second)
    (decided : ∀ a b, related a b → (wanted a b ↔ met a)) :
    List.Forall₂ wanted first second ↔ ∀ a ∈ first, met a := by
  induction paired with
  | nil => simp
  | cons fits _ ih => rw [List.forall₂_cons, List.forall_mem_cons, ih, decided _ _ fits]

namespace CatalogDocument

/-- The structures of a file that are to be checked. -/
def checked (document : CatalogDocument) : List StructEntry :=
  document.structs.filter (·.headers.isSome)

/-- The first structure of a file that has a name. -/
def first? (document : CatalogDocument) (name : String) : Option StructEntry :=
  document.structs.find? (·.name = name)

/-- An entry of the matrix has the layout of a structure of the file, made from the fields of
that structure. -/
structure Describes (document : CatalogDocument) (declared : StructEntry) (entry : MatrixEntry) :
    Prop where
  size : entry.descriptor.size = declared.size
  fields : Descriptor.ofFields declared.name declared.fields declared.size
    document.catalog.typedefs = .ok { entry.descriptor with declaredSize := none }

variable {document : CatalogDocument}

theorem definition?_catalog (document : CatalogDocument) (name : String) :
    document.catalog.definition? name = (document.first? name).map StructEntry.definition := by
  show (document.structs.map StructEntry.definition).find? _ = _
  rw [List.find?_map]
  rfl

theorem name_of_first? {name : String} {first : StructEntry}
    (found : document.first? name = some first) : first.name = name := by
  rw [first?] at found
  exact of_decide_eq_true (List.find?_some found :)

/-- A descriptor is that of the first structure of its name. -/
theorem describes_first {name : String} {entry : MatrixEntry}
    (built : document.catalog.descriptor name = .ok entry.descriptor) :
    ∃ first, document.first? name = some first ∧ document.Describes first entry := by
  obtain ⟨definition, looked, made, _⟩ := Catalog.descriptor_eq_ok_iff.mp built
  rw [definition?_catalog] at looked
  obtain ⟨first, found, rfl⟩ := Option.map_eq_some_iff.mp looked
  have parts := (Descriptor.ofFields_eq_ok_iff.mp made).2
  refine ⟨first, found, (congrArg Descriptor.size parts).symm, ?_⟩
  rw [name_of_first? found]
  exact made

/-- Two structures of one name describe the same entry exactly if they have the same fields and
the same size. -/
theorem Describes.iff_same {first declared : StructEntry} {entry : MatrixEntry}
    (describes : document.Describes first entry) (named : first.name = declared.name) :
    document.Describes declared entry ↔
      first.fields = declared.fields ∧ first.size = declared.size := by
  have own := (Descriptor.ofFields_eq_ok_iff.mp describes.fields).2
  constructor
  · intro other
    have its := (Descriptor.ofFields_eq_ok_iff.mp other.fields).2
    exact ⟨congrArg Descriptor.fields (own.trans its.symm),
      congrArg Descriptor.size (own.trans its.symm)⟩
  · rintro ⟨fields, size⟩
    refine ⟨describes.size.trans size, ?_⟩
    rw [← named, ← fields, ← size]
    exact describes.fields

/-- Without gaps the structures to be checked go pairwise with the entries of the matrix. Each
entry has the headers of its structure and the layout of the first structure of that name. -/
theorem forall₂_checked_entries (faultless : document.catalog.gaps = ∅) :
    List.Forall₂ (fun declared entry => declared.headers = some entry.headers ∧
        ∃ first, document.first? declared.name = some first ∧ document.Describes first entry)
      document.checked (Matrix.ofCatalog document.catalog).entries := by
  have complete := Catalog.gaps_eq_empty_iff.mp faultless
  have entries : (Matrix.ofCatalog document.catalog).entries = document.structs.filterMap
      fun declared => declared.check?.bind (Matrix.entryOf? document.catalog) :=
    List.filterMap_filterMap ..
  rw [entries]
  apply forall₂_filter_filterMap
  · intro declared among wanted
    obtain ⟨headers, has⟩ := Option.isSome_iff_exists.mp wanted
    have listed : declared.check? = some ⟨declared.name, headers⟩ := by
      rw [StructEntry.check?, has]
      rfl
    have checked : document.catalog.Checks declared.name :=
      ⟨_, List.mem_filterMap.mpr ⟨declared, among, listed⟩, rfl⟩
    obtain ⟨descriptor, built⟩ := complete.described declared.name checked
    refine ⟨⟨headers, descriptor⟩, ?_, has, describes_first built⟩
    rw [listed, Option.bind_some, Catalog.entryOf?_eq_some_iff]
    exact ⟨built, rfl⟩
  · intro declared _ unwanted
    have none : declared.headers = none := by simpa using unwanted
    rw [StructEntry.check?, none]
    rfl

theorem first?_of_nodup (distinct : (document.structs.map StructEntry.name).Nodup)
    {declared : StructEntry} (among : declared ∈ document.structs) :
    document.first? declared.name = some declared := by
  have present : (document.first? declared.name).isSome = true :=
    List.find?_isSome.mpr ⟨declared, among, decide_eq_true rfl⟩
  obtain ⟨first, found⟩ := Option.isSome_iff_exists.mp present
  have inside : first ∈ document.structs := List.mem_of_find?_eq_some found
  rw [found, List.inj_on_of_nodup_map distinct inside among (name_of_first? found)]

/-- An entry of the matrix has the headers and the layout of a structure of the file. -/
structure Carries (document : CatalogDocument) (declared : StructEntry) (entry : MatrixEntry) :
    Prop extends document.Describes declared entry where
  headers : declared.headers = some entry.headers

/-- Which layouts of a catalog file are compared. In a catalog without gaps the structures that
are to be checked go pairwise, in order, with the entries of the matrix; each entry has the
headers of its structure and the layout of the first structure of that name. It is the layout
of the structure itself, for all of them, exactly if each has the fields and the size of the
first structure of its name. This is so if no two structures of the file share a name. -/
theorem entries_carry_iff (document : CatalogDocument)
    (faultless : document.catalog.gaps = ∅) :
    let entries := (Matrix.ofCatalog document.catalog).entries
    List.Forall₂ (fun declared entry => declared.headers = some entry.headers ∧
        ∃ first, document.first? declared.name = some first ∧ document.Describes first entry)
      document.checked entries ∧
    (List.Forall₂ document.Carries document.checked entries ↔
      ∀ declared ∈ document.checked, ∃ first, document.first? declared.name = some first ∧
        first.fields = declared.fields ∧ first.size = declared.size) ∧
    ((document.structs.map StructEntry.name).Nodup →
      List.Forall₂ document.Carries document.checked entries) := by
  intro entries
  have paired := forall₂_checked_entries faultless
  have carried : List.Forall₂ document.Carries document.checked entries ↔
      ∀ declared ∈ document.checked, ∃ first, document.first? declared.name = some first ∧
        first.fields = declared.fields ∧ first.size = declared.size := by
    apply forall₂_iff_of_forall₂ paired
    rintro declared entry ⟨own, first, found, describes⟩
    have same := describes.iff_same (name_of_first? found)
    constructor
    · intro carries
      exact ⟨first, found, same.mp carries.toDescribes⟩
    · rintro ⟨other, again, equal⟩
      obtain rfl : first = other := Option.some.inj (found.symm.trans again)
      exact ⟨same.mpr equal, own⟩
  refine ⟨paired, carried, fun distinct => carried.mpr ?_⟩
  intro declared among
  exact ⟨declared, first?_of_nodup distinct (List.mem_of_mem_filter among), rfl, rfl⟩

/-- Two structures of different names, one of them to be checked. -/
def separate : CatalogDocument where
  unchecked := ["pair"]
  structs :=
    [{ name := "pair", size := 4 },
     { name := "couple", size := 8, headers := some (.singleton "pair.h")
       fields := [{ name := "_first", offset := 0, element := ⟨"int", 4⟩ }] }]

theorem entries_carry_separate :
    separate.catalog.gaps = ∅ ∧ List.Forall₂ separate.Carries separate.checked
      (Matrix.ofCatalog separate.catalog).entries := by
  have faultless : separate.catalog.gaps = ∅ := by decide +kernel
  obtain ⟨_, _, carried⟩ := entries_carry_iff separate faultless
  exact ⟨faultless, carried (by decide +kernel)⟩

/-- The same structures under one name. The one to be checked comes second. -/
def shadowed : CatalogDocument where
  structs :=
    [{ name := "pair", size := 4 },
     { name := "pair", size := 8, headers := some (.singleton "pair.h")
       fields := [{ name := "_first", offset := 0, element := ⟨"int", 4⟩ }] }]

/-- There are no gaps, and yet the structure to be checked is not the one compared. -/
theorem not_entries_carry_shadowed :
    shadowed.catalog.gaps = ∅ ∧ ¬ List.Forall₂ shadowed.Carries shadowed.checked
      (Matrix.ofCatalog shadowed.catalog).entries := by
  have faultless : shadowed.catalog.gaps = ∅ := by decide +kernel
  refine ⟨faultless, ?_⟩
  have sizes : (Matrix.ofCatalog shadowed.catalog).entries.map (·.descriptor.size) = [4] := by
    decide +kernel
  intro carried
  obtain ⟨entry, rest, carries, _, same⟩ := List.forall₂_cons_left_iff.mp carried
  rw [same, List.map_cons, List.cons_eq_cons] at sizes
  have measured : (8 : Nat) = 4 := carries.size.symm.trans sizes.1
  cases measured

end CatalogDocument

end NativeLayout
