/-
# Encoded names of one header field

A header name is encoded in two forms. There is one name of the first form, with an underscore
in front, and there are as many of the second as there are texts behind the closing bracket. So
two encoded names that stand for one header name are not a rarity: every header name that can be
bracketed has them, and one of the two is always a bracketed one.

Two fields of a structure must not collide in this way. Fields that stand for nothing never do,
whatever their names are.
-/

import NativeLayout.Proofs.Descriptor
import NativeLayout.Proofs.FieldName

namespace NativeLayout

namespace FieldName

/-- The two forms of encoded names. What stands behind a closing bracket does not matter. -/
inductive Encodes (name : String) : String → Prop
  | underscored (single : name.toList.head? ≠ some '_') : Encodes name ("_" ++ name)
  | bracketed (unclosed : '>' ∉ name.toList) (rest : String) :
      Encodes name ("<" ++ name ++ ">" ++ rest)

variable {name raw other : String}

theorem toList_underscored (name : String) : ("_" ++ name).toList = '_' :: name.toList := by
  rw [String.toList_append]
  rfl

theorem toList_bracketed (name rest : String) :
    ("<" ++ name ++ ">" ++ rest).toList = '<' :: (name.toList ++ '>' :: rest.toList) := by
  simp only [String.toList_append, List.append_assoc]
  rfl

/-- An encoded name stands for a header name exactly if it is one of its two forms. -/
theorem resolve?_eq_some_iff_encodes :
    resolve? raw = some name ↔ name ≠ "" ∧ Encodes name raw := by
  have filled : name.toList ≠ [] ↔ name ≠ "" := not_congr String.toList_eq_nil_iff
  rw [resolve?_eq_some_iff, decode_eq_some_iff, filled]
  apply and_congr_right
  intro _
  constructor
  · rintro (⟨same, single⟩ | ⟨unclosed, rest, same⟩)
    · rw [← toList_underscored] at same
      exact String.toList_inj.mp same ▸ .underscored single
    · rw [← String.toList_ofList (l := rest), ← toList_bracketed] at same
      exact String.toList_inj.mp same ▸ .bracketed unclosed (String.ofList rest)
  · rintro (single | ⟨unclosed, rest⟩)
    · exact .inl ⟨toList_underscored name, single⟩
    · exact .inr ⟨unclosed, rest.toList, toList_bracketed name rest⟩

/-- Of two different encoded names of one header name, one is in brackets. -/
theorem Encodes.unclosed_of_ne (one : Encodes name raw) (another : Encodes name other)
    (apart : raw ≠ other) : '>' ∉ name.toList := by
  cases one with
  | bracketed unclosed _ => exact unclosed
  | underscored _ =>
      cases another with
      | bracketed unclosed _ => exact unclosed
      | underscored _ => exact absurd rfl apart

/-- A header name without a closing bracket has as many encoded names as there are texts. -/
theorem bracketed_injective (name : String) :
    Function.Injective fun rest => "<" ++ name ++ ">" ++ rest := fun _ _ same =>
  String.append_right_inj _ |>.mp same

/-- Which encoded names stand for a header name, and when two of them do. Names of the two forms
stand for the header name in them if it is not empty, and no others do. So two different names
stand for the same header name exactly if both have one of the forms with it. There are two such
names exactly if the header name has no closing bracket in it. A name that begins with two
underscores stands for nothing. -/
theorem resolve?_collides_iff :
    (∀ raw name, resolve? raw = some name ↔ name ≠ "" ∧ Encodes name raw) ∧
    (∀ name, name ≠ "" → ∀ raw other, raw ≠ other →
      (resolve? raw = some name ∧ resolve? other = some name ↔
        Encodes name raw ∧ Encodes name other)) ∧
    (∀ name, name ≠ "" →
      ((∃ raw other, raw ≠ other ∧ resolve? raw = some name ∧ resolve? other = some name) ↔
        '>' ∉ name.toList)) ∧
    ∀ rest, resolve? ("__" ++ rest) = none := by
  refine ⟨fun _ _ => resolve?_eq_some_iff_encodes, ?_, ?_, ?_⟩
  · intro name filled raw other _
    simp only [resolve?_eq_some_iff_encodes, and_iff_right filled]
  · intro name filled
    simp only [resolve?_eq_some_iff_encodes, and_iff_right filled]
    constructor
    · rintro ⟨raw, other, apart, one, another⟩
      exact one.unclosed_of_ne another apart
    · intro unclosed
      have apart : ("" : String) ≠ "k__BackingField" := by decide
      exact ⟨_, _, (bracketed_injective name).ne apart, .bracketed unclosed _,
        .bracketed unclosed _⟩
  · intro rest
    rw [resolve?, String.toList_append]
    rfl

end FieldName

namespace Descriptor

/-- Fields make a descriptor exactly if each has elements and no two encode one header name. -/
theorem exists_ofFields_eq_ok_iff {name : String} {fields : List RawField} {size : Nat}
    {typedefs : NameSet} :
    (∃ d, ofFields name fields size typedefs = .ok d) ↔
      (∀ field ∈ fields, field.count ≠ 0) ∧
        fields.Pairwise fun one another => ∀ known, known ≠ "" →
          ¬ (FieldName.Encodes known one.name ∧ FieldName.Encodes known another.name) := by
  simp only [ofFields_eq_ok_iff, defect?_eq_none_iff, exists_and_left, exists_eq', and_true]
  constructor
  · intro sound
    refine ⟨fun field among empty => ?_, ?_⟩
    · obtain ⟨i, inside, rfl⟩ := List.getElem_of_mem among
      exact sound ⟨i, inside⟩ (.inl empty)
    · rw [List.pairwise_iff_getElem]
      rintro j i outside inside before known named ⟨one, another⟩
      have first : fields[j].checkedName? = some known :=
        FieldName.resolve?_eq_some_iff_encodes.mpr ⟨named, one⟩
      have second : fields[i].checkedName? = some known :=
        FieldName.resolve?_eq_some_iff_encodes.mpr ⟨named, another⟩
      exact sound ⟨i, inside⟩ (.inr ⟨⟨j, outside⟩, before, known, first, second⟩)
  · rintro ⟨filled, apart⟩ i (empty | ⟨j, before, known, first, second⟩)
    · exact filled fields[i] (List.getElem_mem i.isLt) empty
    · obtain ⟨named, one⟩ := FieldName.resolve?_eq_some_iff_encodes.mp first
      obtain ⟨_, another⟩ := FieldName.resolve?_eq_some_iff_encodes.mp second
      exact List.pairwise_iff_getElem.mp apart j i j.isLt i.isLt before known named
        ⟨one, another⟩

end Descriptor

end NativeLayout
