/-
# What is demanded of a layout

The demands of a descriptor, read one by one. They are met together by the layouts that
conform to the descriptor, and those that a layout does not meet are where it differs,
each place once. A declared width is a product that is cut to a 64-bit word; below
`2 ^ 64` the word is the product itself.
-/

import Mathlib.Data.List.Basic
import NativeLayout.Assertion
import NativeLayout.Proofs.Diagnostics.Names

namespace NativeLayout

open Text Diagnostics

/-- The names in a demand are identifiers. -/
def Demand.Spellable : Demand → Prop
  | offset field _ | size field _ => isIdentifier field.toList = true
  | totalSize _ => True

/-- The name of a structure and the names of its compared fields are identifiers. -/
structure Descriptor.Spellable (d : Descriptor) : Prop where
  name : isIdentifier d.name.toList = true
  field : ∀ field raw, (field, raw) ∈ d.checkedFields → isIdentifier field.toList = true

instance (d : Descriptor) : Decidable d.Spellable :=
  decidable_of_iff (isIdentifier d.name.toList = true ∧
      ∀ pair ∈ d.checkedFields, isIdentifier pair.1.toList = true)
    ⟨fun ⟨name, fields⟩ => ⟨name, fun field raw among => fields (field, raw) among⟩,
      fun spellable => ⟨spellable.name, fun _ among => spellable.field _ _ among⟩⟩

namespace Descriptor

variable {d : Descriptor} {skip : SkipList} {layout : Layout}

theorem mem_fieldDemands_iff {owner field : String} {raw : RawField} {demand : Demand} :
    demand ∈ fieldDemands owner skip field raw ↔ demand = .offset field raw.offset ∨
      (owner, field) ∉ skip ∧ demand = .size field raw.width := by
  rw [fieldDemands, SkipList.skips]
  by_cases skipped : (owner, field) ∈ skip <;> simp [skipped]

/-- The demands of a descriptor, one by one. -/
theorem mem_demands_iff {demand : Demand} : demand ∈ d.demands skip ↔
      (∃ field raw, (field, raw) ∈ d.checkedFields ∧ (demand = .offset field raw.offset ∨
        (d.name, field) ∉ skip ∧ demand = .size field raw.width)) ∨
      demand = .totalSize d.size := by
  rw [demands, List.mem_append, List.mem_flatMap, List.mem_singleton, Prod.exists]
  simp only [mem_fieldDemands_iff]

theorem Spellable.demand (spellable : d.Spellable) {demand : Demand}
    (among : demand ∈ d.demands skip) : demand.Spellable := by
  rcases mem_demands_iff.mp among with ⟨field, raw, compared, rfl | ⟨_, rfl⟩⟩ | rfl
  · exact spellable.field field raw compared
  · exact spellable.field field raw compared
  · trivial

/-- A native layout is the declared one as far as it is compared. What is compared of a width is
the word that its product is cut to. -/
structure Conforms (d : Descriptor) (skip : SkipList) (layout : Layout) : Prop where
  offsets : ∀ field raw, (field, raw) ∈ d.checkedFields → raw.offset = layout.offset field
  sizes : ∀ field raw, (field, raw) ∈ d.checkedFields → (d.name, field) ∉ skip →
    raw.element.size * raw.count % UInt64.size = layout.size field
  total : d.size = layout.total

/-- Where a native layout differs from the declared one, in the order of the declaration. -/
def differences (d : Descriptor) (skip : SkipList) (layout : Layout) : List Mismatch :=
  d.checkedFields.flatMap (fun (field, raw) =>
    (if raw.offset = layout.offset field then [] else [⟨d.name, field, .offset⟩]) ++
    (if (d.name, field) ∈ skip ∨
        raw.element.size * raw.count % UInt64.size = layout.size field then []
      else [⟨d.name, field, .size⟩])) ++
  (if d.size = layout.total then [] else [.totalSize d.name])

/-- Every demand is met exactly by the layouts that conform. -/
theorem demands_hold_iff :
    (∀ demand ∈ d.demands skip, demand.holds layout = true) ↔ d.Conforms skip layout := by
  constructor
  · intro all
    exact {
      offsets := by
        intro field raw compared
        have met := all (.offset field raw.offset)
          (mem_demands_iff.mpr (.inl ⟨field, raw, compared, .inl rfl⟩))
        exact (eq_of_beq met).symm
      sizes := by
        intro field raw compared unskipped
        have met := all (.size field raw.width)
          (mem_demands_iff.mpr (.inl ⟨field, raw, compared, .inr ⟨unskipped, rfl⟩⟩))
        exact (eq_of_beq met).symm
      total := by
        have met := all (.totalSize d.size) (mem_demands_iff.mpr (.inr rfl))
        exact (eq_of_beq met).symm }
  · intro conforms demand among
    rcases mem_demands_iff.mp among with ⟨field, raw, compared, rfl | ⟨unskipped, rfl⟩⟩ | rfl
    · exact beq_iff_eq.mpr (conforms.offsets field raw compared).symm
    · exact beq_iff_eq.mpr (conforms.sizes field raw compared unskipped).symm
    · exact beq_iff_eq.mpr conforms.total.symm

/-- One demand that is not met gives one mismatch, and one that is met none. -/
theorem map_mismatch_unmet_singleton (layout : Layout) (owner : String) (demand : Demand)
    {met : Prop} [Decidable met] (means : demand.holds layout = true ↔ met) :
    (([demand].filter (!·.holds layout)).map (Demand.mismatch owner)) =
      if met then [] else [demand.mismatch owner] := by
  by_cases holds : met
  · rw [if_pos holds, List.filter_cons_of_neg (by rw [means.mpr holds]; decide)]
    rfl
  · have fails : demand.holds layout = false := by rw [← Bool.not_eq_true, means]; exact holds
    rw [if_neg holds, List.filter_cons_of_pos (by rw [fails]; rfl)]
    rfl

theorem map_mismatch_unmet_field {field : String} {raw : RawField} :
    ((fieldDemands d.name skip field raw).filter (!·.holds layout)).map
        (Demand.mismatch d.name) =
      (if raw.offset = layout.offset field then [] else [⟨d.name, field, .offset⟩]) ++
      (if (d.name, field) ∈ skip ∨
          raw.element.size * raw.count % UInt64.size = layout.size field then []
        else [⟨d.name, field, .size⟩]) := by
  have placed := map_mismatch_unmet_singleton layout d.name (.offset field raw.offset)
    (beq_iff_eq.trans eq_comm)
  have sized := map_mismatch_unmet_singleton layout d.name (.size field raw.width)
    (beq_iff_eq.trans eq_comm)
  rw [fieldDemands, SkipList.skips]
  by_cases skipped : (d.name, field) ∈ skip
  · rw [if_pos (decide_eq_true skipped)]
    simp only [skipped, true_or, if_true, List.append_nil]
    exact placed
  · rw [decide_eq_false skipped, if_neg Bool.false_ne_true, ← List.singleton_append,
      List.filter_append, List.map_append, placed, sized]
    simp only [skipped, false_or]
    rfl

/-- The demands that a layout does not meet are where it differs. -/
theorem map_mismatch_unmet :
    ((d.demands skip).filter (!·.holds layout)).map (Demand.mismatch d.name) =
      d.differences skip layout := by
  rw [demands, differences, List.filter_append, List.map_append, List.filter_flatMap,
    List.map_flatMap]
  congr 1
  · apply List.flatMap_congr
    rintro ⟨field, raw⟩ _
    exact map_mismatch_unmet_field
  · exact map_mismatch_unmet_singleton layout d.name (.totalSize d.size)
      (beq_iff_eq.trans eq_comm)

/-- No two demands have one mismatch if no two compared fields have one name. -/
theorem pairwise_mismatch_ne (distinct : (d.checkedFields.map Prod.fst).Nodup) :
    (d.demands skip).Pairwise fun a b => a.mismatch d.name ≠ b.mismatch d.name := by
  have named {field : String} {raw : RawField} {demand : Demand}
      (among : demand ∈ fieldDemands d.name skip field raw) :
      (demand.mismatch d.name).field = field ∧ (demand.mismatch d.name).kind ≠ .totalSize := by
    rcases mem_fieldDemands_iff.mp among with rfl | ⟨_, rfl⟩
    · exact ⟨rfl, by rintro ⟨⟩⟩
    · exact ⟨rfl, by rintro ⟨⟩⟩
  rw [demands, List.pairwise_append, List.pairwise_flatMap]
  refine ⟨⟨?_, ?_⟩, List.pairwise_singleton _ _, ?_⟩
  · rintro ⟨field, raw⟩ _
    dsimp only
    rw [fieldDemands]
    split
    · exact List.pairwise_singleton _ _
    · apply List.pairwise_pair.mpr
      intro same
      cases same
  · apply (List.pairwise_map.mp distinct).imp
    intro first second differs demand among other later same
    apply differs
    rw [← (named among).1, ← (named later).1, same]
  · intro demand among total last same
    obtain ⟨first, _, among⟩ := List.mem_flatMap.mp among
    obtain rfl := List.mem_singleton.mp last
    exact (named among).2 (congrArg Mismatch.kind same)

end Descriptor

end NativeLayout
