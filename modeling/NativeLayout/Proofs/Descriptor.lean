/-
# Descriptors and the lists of fields they stand for

Looking up a compared field by its header name, and what it means that a list of fields made a
descriptor: the fields are all there in their order, and no two of those that are compared have
one header name. A list that makes no descriptor has a defective field, and is told of the first.
-/

import NativeLayout.Proofs.Descriptor.Defects

namespace NativeLayout.Descriptor

/-- A list of fields makes a descriptor exactly if it has no defect. -/
theorem ofFields_eq_ok_iff {name : String} {fields : List RawField} {size : Nat}
    {typedefs : NameSet} {d : Descriptor} :
    ofFields name fields size typedefs = .ok d ↔
      defect? name [] fields = none ∧
        { name, style := .ofName name typedefs, fields, size } = d := by
  rw [ofFields]
  cases defect? name [] fields with
  | some error => simp
  | none => simp

/-- A look-up finds a field exactly if a compared field has the name. -/
theorem checkedField?_isSome {d : Descriptor} {name : String} :
    (d.checkedField? name).isSome = true ↔ ∃ raw, (name, raw) ∈ d.checkedFields := by
  simp only [checkedField?, Option.isSome_map, List.find?_isSome, decide_eq_true_eq]
  constructor
  · rintro ⟨⟨_, raw⟩, among, rfl⟩
    exact ⟨raw, among⟩
  · rintro ⟨raw, among⟩
    exact ⟨(name, raw), among, rfl⟩

theorem map_fst_checkedFields (d : Descriptor) :
    d.checkedFields.map Prod.fst = d.fields.filterMap RawField.checkedName? := by
  rw [checkedFields, List.map_filterMap]
  congr 1
  funext field
  cases field.checkedName? <;> rfl

theorem mem_checkedFields_iff {d : Descriptor} {name : String} {field : RawField} :
    (name, field) ∈ d.checkedFields ↔ field ∈ d.fields ∧ field.checkedName? = some name := by
  rw [checkedFields, List.mem_filterMap]
  constructor
  · rintro ⟨_, among, paired⟩
    obtain ⟨_, named, ⟨⟩⟩ := Option.map_eq_some_iff.mp paired
    exact ⟨among, named⟩
  · rintro ⟨among, named⟩
    exact ⟨field, among, by rw [named]; rfl⟩

theorem mem_checkedFields_of_checkedField? {d : Descriptor} {name : String} {field : RawField}
    (found : d.checkedField? name = some field) : (name, field) ∈ d.checkedFields := by
  obtain ⟨⟨known, _⟩, search, rfl⟩ := Option.map_eq_some_iff.mp found
  obtain rfl : known = name := of_decide_eq_true (List.find?_some search :)
  exact List.mem_of_find?_eq_some search

theorem checkedField?_eq_some_iff {d : Descriptor} {name : String} {field : RawField}
    (distinct : (d.checkedFields.map Prod.fst).Nodup) :
    d.checkedField? name = some field ↔ (name, field) ∈ d.checkedFields := by
  constructor
  · exact mem_checkedFields_of_checkedField?
  · intro among
    obtain ⟨other, found⟩ := Option.isSome_iff_exists.mp (checkedField?_isSome.mpr ⟨field, among⟩)
    have inside := mem_checkedFields_of_checkedField? found
    obtain ⟨⟩ := List.inj_on_of_nodup_map distinct inside among rfl
    exact found

/-- No two compared fields of a descriptor that a list of fields made have one name. -/
theorem nodup_checkedFields {name : String} {fields : List RawField} {size : Nat}
    {typedefs : NameSet} {d : Descriptor} (built : ofFields name fields size typedefs = .ok d) :
    (d.checkedFields.map Prod.fst).Nodup := by
  obtain ⟨faultless, rfl⟩ := ofFields_eq_ok_iff.mp built
  rw [map_fst_checkedFields]
  exact nodup_of_not_defective (defect?_eq_none_iff.mp faultless)

/-- A descriptor stands for a list of fields: it has them in order, compares those that stand for
header fields, and knows each of these by its one header name. -/
structure Represents (d : Descriptor) (fields : List RawField) : Prop where
  kept : d.fields = fields
  filled : ∀ field ∈ d.fields, 1 ≤ field.count
  names : d.checkedFields.map Prod.fst = fields.filterMap RawField.checkedName?
  compared : d.checkedFields.map Prod.snd = fields.filter (·.checkedName?.isSome)
  distinct : (d.checkedFields.map Prod.fst).Nodup
  found : ∀ name field,
    d.checkedField? name = some field ↔ field ∈ fields ∧ field.checkedName? = some name
  missed : ∀ name, d.checkedField? name = none ↔ ∀ field ∈ fields, field.checkedName? ≠ some name

theorem map_snd_checkedFields (d : Descriptor) :
    d.checkedFields.map Prod.snd = d.fields.filter (·.checkedName?.isSome) := by
  rw [checkedFields, List.map_filterMap, ← List.filterMap_eq_filter]
  congr 1
  funext field
  rw [Option.map_map, Option.guard]
  cases field.checkedName? <;> rfl

theorem represents_of_ofFields {name : String} {fields : List RawField} {size : Nat}
    {typedefs : NameSet} {d : Descriptor} (built : ofFields name fields size typedefs = .ok d) :
    d.Represents fields := by
  have distinct := nodup_checkedFields built
  obtain ⟨faultless, rfl⟩ := ofFields_eq_ok_iff.mp built
  have sound := defect?_eq_none_iff.mp faultless
  exact {
    kept := rfl
    filled := by
      intro field among
      obtain ⟨i, inside, rfl⟩ := List.getElem_of_mem among
      exact Nat.one_le_iff_ne_zero.mpr fun empty => sound ⟨i, inside⟩ (.inl empty)
    names := map_fst_checkedFields _
    compared := map_snd_checkedFields _
    distinct := distinct
    found := fun _ _ => (checkedField?_eq_some_iff distinct).trans mem_checkedFields_iff
    missed := by
      intro known
      rw [← Option.not_isSome_iff_eq_none, checkedField?_isSome, not_exists]
      simp only [mem_checkedFields_iff, not_and] }

/-- A list of fields makes a descriptor, or it is told why not. It makes none exactly if one of
its fields is defective, and then the error blames the first one that is. Otherwise the
descriptor has the name and the size that were asked for, and it stands for the list. -/
theorem ofFields_blames_first (name : String) (fields : List RawField) (size : Nat)
    (typedefs : NameSet) :
    let outcome := ofFields name fields size typedefs
    ((∃ error, outcome = .error error) ↔ ∃ i, Defective fields i) ∧
      (∀ error, outcome = .error error ↔
        ∃ i, Defective fields i ∧ (∀ j < i, ¬ Defective fields j) ∧ Blames name fields i error) ∧
      ∀ d, outcome = .ok d →
        d.name = name ∧ d.style = .ofName name typedefs ∧ d.size = size ∧
          d.declaredSize = none ∧ d.Represents fields := by
  intro outcome
  have told (error : DescriptorError) :
      outcome = .error error ↔ defect? name [] fields = some error := by
    show ofFields name fields size typedefs = _ ↔ _
    rw [ofFields]
    cases defect? name [] fields <;> simp
  refine ⟨?_, ?_, ?_⟩
  · have fails : (∃ error, outcome = .error error) ↔ ¬ defect? name [] fields = none := by
      simp only [told, Option.ne_none_iff_exists']
    rw [fails, defect?_eq_none_iff, not_forall_not]
  · intro error
    rw [told, defect?_eq_some_iff_blames]
  · intro d made
    have stands := represents_of_ofFields made
    obtain ⟨_, rfl⟩ := ofFields_eq_ok_iff.mp made
    exact ⟨rfl, rfl, rfl, rfl, stands⟩

/-- Three fields, of which the last stands for the same header field as the first and has so many
elements. -/
def repeating (count : Nat) : List RawField :=
  [{ name := "_first", offset := 0, element := ⟨"c_int", 4⟩ },
   { name := "__pad", offset := 4, element := ⟨"u8", 1⟩, count := 4 },
   { name := "<first>k__BackingField", offset := 8, element := ⟨"c_int", 4⟩, count }]

/-- The last field is blamed for its name, or for having no elements if it has none; without it
the others make a descriptor. -/
theorem ofFields_blames_first_repeating :
    (∃ i, Defective (repeating 1) i ∧ (∀ j < i, ¬ Defective (repeating 1) j) ∧
      Blames "pair" (repeating 1) i
        (.duplicateField "pair" "_first" "<first>k__BackingField" "first")) ∧
    (∃ i, Defective (repeating 0) i ∧ (∀ j < i, ¬ Defective (repeating 0) j) ∧
      Blames "pair" (repeating 0) i (.zeroCount "pair" "<first>k__BackingField")) ∧
    ∃ d, ofFields "pair" ((repeating 1).take 2) 8 ∅ = .ok d ∧
      d.Represents ((repeating 1).take 2) := by
  have twice : ofFields "pair" (repeating 1) 16 ∅ =
      .error (.duplicateField "pair" "_first" "<first>k__BackingField" "first") := by
    decide +kernel
  have empty : ofFields "pair" (repeating 0) 16 ∅ =
      .error (.zeroCount "pair" "<first>k__BackingField") := by
    decide +kernel
  obtain ⟨_, twiceTold, _⟩ := ofFields_blames_first "pair" (repeating 1) 16 ∅
  obtain ⟨_, emptyTold, _⟩ := ofFields_blames_first "pair" (repeating 0) 16 ∅
  obtain ⟨_, _, made⟩ := ofFields_blames_first "pair" ((repeating 1).take 2) 8 ∅
  have built : ofFields "pair" ((repeating 1).take 2) 8 ∅ =
      .ok ⟨"pair", .tag, (repeating 1).take 2, 8, .none⟩ := by
    rfl
  exact ⟨(twiceTold _).mp twice, (emptyTold _).mp empty, _, built, (made _ built).2.2.2.2⟩

end NativeLayout.Descriptor
