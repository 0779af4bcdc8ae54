/-
# The first defect of a list of fields

Fields are looked at one after the other, and the first that is defective ends it. A field is
defective by itself, if it has no elements, or next to an earlier field that stands for the same
header field. Which of the two is told, and of which earlier field, depends only on what is in
front of the field, and there nothing is defective: so the earlier field is the only one that
the error can name.
-/

import Mathlib.Data.Fin.Tuple.Basic
import Mathlib.Data.List.Nodup
import Mathlib.Order.WellFounded
import NativeLayout.Descriptor

namespace NativeLayout.Descriptor

/-- What is wrong with a field that stands behind some others, if anything. -/
def fault? (owner : String) (earlier : List RawField) (field : RawField) :
    Option DescriptorError :=
  if field.count = 0 then some (.zeroCount owner field.name)
  else field.checkedName?.bind fun resolved =>
    (earlier.find? (·.checkedName? = some resolved)).map fun first =>
      .duplicateField owner first.name field.name resolved

theorem defect?_cons (owner : String) (earlier rest : List RawField) (field : RawField) :
    defect? owner earlier (field :: rest) =
      (fault? owner earlier field).or (defect? owner (earlier ++ [field]) rest) := by
  rw [defect?, fault?]
  split
  · rfl
  · cases field.checkedName? with
    | none => rfl
    | some resolved =>
        dsimp only [Option.bind_some]
        cases earlier.find? (·.checkedName? = some resolved) <;> rfl

/-- Looking for a place from the front: it is the front place, or that one is passed. -/
theorem exists_first_succ {n : Nat} {here passed : Fin (n + 1) → Prop} :
    (∃ i, here i ∧ ∀ j < i, passed j) ↔
      here 0 ∨ passed 0 ∧ ∃ i : Fin n, here i.succ ∧ ∀ j < i, passed j.succ := by
  have none : ∀ j < (0 : Fin (n + 1)), passed j := fun j below => (Fin.not_lt_zero j below).elim
  rw [Fin.exists_fin_succ, and_iff_left none, ← exists_and_left]
  apply or_congr_right
  apply exists_congr
  intro i
  rw [Fin.forall_fin_succ, and_left_comm]
  simp only [Fin.succ_pos, Fin.succ_lt_succ_iff, true_imp_iff]

/-- The defect of a list is what is wrong with the first of its fields with which anything is
wrong. -/
theorem defect?_eq_some_iff {owner : String} {earlier rest : List RawField}
    {error : DescriptorError} :
    defect? owner earlier rest = some error ↔ ∃ i : Fin rest.length,
      fault? owner (earlier ++ rest.take i) rest[i] = some error ∧
        ∀ j < i, fault? owner (earlier ++ rest.take j) rest[j] = none := by
  induction rest generalizing earlier with
  | nil => exact ⟨nofun, fun ⟨i, _⟩ => i.elim0⟩
  | cons field rest ih =>
      have front : earlier ++ (field :: rest).take 0 = earlier := List.append_nil earlier
      have onward (i : Fin rest.length) :
          earlier ++ (field :: rest).take (i + 1) = earlier ++ [field] ++ rest.take i :=
        List.append_cons earlier field (rest.take i)
      refine Iff.trans ?_ exists_first_succ.symm
      rw [defect?_cons, Option.or_eq_some_iff, ih]
      simp only [Fin.val_zero, Fin.val_succ, front, onward]
      rfl

/-- A field has no elements, or stands for the same header field as one before it. -/
def Defective (fields : List RawField) (i : Fin fields.length) : Prop :=
  fields[i].count = 0 ∨ ∃ j < i, ∃ resolved,
    fields[j].checkedName? = some resolved ∧ fields[i].checkedName? = some resolved

/-- An error tells what is wrong with a field. That it has no elements goes first. Else the
error names the one field before it that stands for the same header field. -/
inductive Blames (owner : String) (fields : List RawField) (i : Fin fields.length) :
    DescriptorError → Prop
  | zeroCount (empty : fields[i].count = 0) :
      Blames owner fields i (.zeroCount owner fields[i].name)
  | duplicateField {j : Fin fields.length} {resolved : String} (filled : fields[i].count ≠ 0)
      (before : j < i) (first : fields[j].checkedName? = some resolved)
      (second : fields[i].checkedName? = some resolved)
      (only : ∀ k < i, fields[k].checkedName? = some resolved → k = j) :
      Blames owner fields i (.duplicateField owner fields[j].name fields[i].name resolved)

variable {owner : String} {fields : List RawField} {i : Fin fields.length}

theorem mem_take_iff {field : RawField} : field ∈ fields.take i ↔ ∃ j < i, fields[j] = field := by
  rw [List.mem_take_iff_getElem]
  constructor
  · rintro ⟨j, inside, rfl⟩
    exact ⟨⟨j, (Nat.lt_min.mp inside).2⟩, (Nat.lt_min.mp inside).1, rfl⟩
  · rintro ⟨j, before, rfl⟩
    exact ⟨j, Nat.lt_min.mpr ⟨before, j.isLt⟩, rfl⟩

theorem fault?_eq_none_iff :
    fault? owner (fields.take i) fields[i] = none ↔ ¬ Defective fields i := by
  rw [fault?, Defective]
  by_cases empty : fields[i].count = 0
  · rw [if_pos empty]
    exact iff_of_false nofun (not_not_intro (.inl empty))
  · rw [if_neg empty, or_iff_right empty]
    cases named : fields[i].checkedName? with
    | none => exact iff_of_true rfl (by rintro ⟨_, _, _, _, ⟨⟩⟩)
    | some resolved =>
        rw [Option.bind_some, Option.map_eq_none_iff, List.find?_eq_none]
        simp only [mem_take_iff, decide_eq_true_eq]
        constructor
        · rintro new ⟨j, before, _, same, ⟨⟩⟩
          exact new fields[j] ⟨j, before, rfl⟩ same
        · rintro apart _ ⟨j, before, rfl⟩ same
          exact apart ⟨j, before, resolved, same, rfl⟩

/-- With the first defective field it is wrong what the error tells. -/
theorem fault?_eq_some_iff {error : DescriptorError} (first : ∀ j < i, ¬ Defective fields j) :
    fault? owner (fields.take i) fields[i] = some error ↔ Blames owner fields i error := by
  -- Of two fields before it with one name, the later one would be defective.
  have only {j k : Fin fields.length} {resolved : String} (before : j < i) (below : k < i)
      (named : fields[j].checkedName? = some resolved)
      (same : fields[k].checkedName? = some resolved) : k = j := by
    rcases lt_trichotomy k j with less | equal | more
    · exact absurd (.inr ⟨k, less, resolved, same, named⟩) (first j before)
    · exact equal
    · exact absurd (.inr ⟨j, more, resolved, named, same⟩) (first k below)
  constructor
  · intro told
    rw [fault?] at told
    split at told
    · next empty =>
        cases told
        exact .zeroCount empty
    · next filled =>
        obtain ⟨resolved, named, found⟩ := Option.bind_eq_some_iff.mp told
        obtain ⟨twin, search, rfl⟩ := Option.map_eq_some_iff.mp found
        obtain ⟨j, before, rfl⟩ := mem_take_iff.mp (List.mem_of_find?_eq_some search)
        have same := of_decide_eq_true (List.find?_some search :)
        exact .duplicateField filled before same named fun k below shared =>
          only before below same shared
  · rintro (empty | @⟨j, resolved, filled, before, same, named, _⟩)
    · rw [fault?, if_pos empty]
    · have found : (fields.take i).find? (·.checkedName? = some resolved) = some fields[j] := by
        cases search : (fields.take i).find? (·.checkedName? = some resolved) with
        | none =>
            have inside : fields[j] ∈ fields.take i := mem_take_iff.mpr ⟨j, before, rfl⟩
            exact absurd (decide_eq_true same) (List.find?_eq_none.mp search fields[j] inside)
        | some twin =>
            obtain ⟨k, below, rfl⟩ := mem_take_iff.mp (List.mem_of_find?_eq_some search)
            rw [only before below same (of_decide_eq_true (List.find?_some search :))]
      rw [fault?, if_neg filled, named, Option.bind_some, found, Option.map_some]

/-- A list with a defective field has a first one. -/
theorem exists_first_defective (defective : Defective fields i) :
    ∃ j, Defective fields j ∧ ∀ k < j, ¬ Defective fields k := by
  obtain ⟨j, faulty, least⟩ := wellFounded_lt.has_min {j | Defective fields j} ⟨i, defective⟩
  exact ⟨j, faulty, fun k below worse => least k worse below⟩

/-- The defect of a list of fields is that of the first defective field. -/
theorem defect?_eq_some_iff_blames {error : DescriptorError} :
    defect? owner [] fields = some error ↔ ∃ i, Defective fields i ∧
      (∀ j < i, ¬ Defective fields j) ∧ Blames owner fields i error := by
  rw [defect?_eq_some_iff]
  apply exists_congr
  intro i
  simp only [List.nil_append, fault?_eq_none_iff]
  constructor
  · rintro ⟨told, first⟩
    have faulty : Defective fields i := by
      by_contra sound
      rw [fault?_eq_none_iff.mpr sound] at told
      cases told
    exact ⟨faulty, first, (fault?_eq_some_iff first).mp told⟩
  · rintro ⟨_, first, blames⟩
    exact ⟨(fault?_eq_some_iff first).mpr blames, first⟩

theorem defect?_eq_none_iff : defect? owner [] fields = none ↔ ∀ i, ¬ Defective fields i := by
  constructor
  · intro faultless i defective
    obtain ⟨j, faulty, first⟩ := exists_first_defective defective
    cases told : fault? owner (fields.take j) fields[j] with
    | none => exact fault?_eq_none_iff.mp told faulty
    | some error =>
        have blames := (fault?_eq_some_iff first).mp told
        rw [defect?_eq_some_iff_blames.mpr ⟨j, faulty, first, blames⟩] at faultless
        cases faultless
  · intro sound
    rw [Option.eq_none_iff_forall_ne_some]
    intro error told
    obtain ⟨i, defective, _⟩ := defect?_eq_some_iff_blames.mp told
    exact sound i defective

/-- Without a defective field, no two names of fields are equal. -/
theorem nodup_of_not_defective (sound : ∀ i, ¬ Defective fields i) :
    (fields.filterMap RawField.checkedName?).Nodup := by
  rw [List.Nodup, List.pairwise_filterMap, List.pairwise_iff_getElem]
  rintro j i outside inside before resolved named _ same rfl
  exact sound ⟨i, inside⟩ (.inr ⟨⟨j, outside⟩, before, resolved, named, same⟩)

end NativeLayout.Descriptor
