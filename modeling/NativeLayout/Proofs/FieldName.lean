/-
# Encoded field names

An encoded name stands for a header name in two ways only, and for nothing in all others.
A binding encodes the name of a public field by one underscore before it and leaves the
name of a private field as it is. Decoding gives back what was meant as long as the name
itself does not begin with underscores: an underscore of its own in front makes a public
name one that stands for nothing, and a private name one that stands for the rest of it.

Which characters an identifier may have is left open, but for the two that marks are made of.
-/

import NativeLayout.Name

namespace NativeLayout.FieldName

theorem nonEmpty?_eq_some_iff {s name : List Char} :
    nonEmpty? s = some name ↔ name ≠ [] ∧ s = name := by
  cases s with
  | nil =>
      constructor
      · exact nofun
      · rintro ⟨filled, rfl⟩
        exact absurd rfl filled
  | cons c s =>
      rw [nonEmpty?, Option.some.injEq]
      exact ⟨fun same => ⟨same ▸ List.cons_ne_nil c s, same⟩, And.right⟩

/-- A text with a closing bracket is what stands before the first one, and some rest. -/
theorem beforeClose?_eq_some_iff {s name : List Char} :
    beforeClose? s = some name ↔ '>' ∉ name ∧ ∃ rest, s = name ++ '>' :: rest := by
  induction s generalizing name with
  | nil => simp [beforeClose?]
  | cons c s ih =>
      rw [beforeClose?]
      by_cases closes : c = '>'
      · rw [if_pos closes, closes]
        constructor
        · rintro ⟨⟩
          exact ⟨List.not_mem_nil, s, rfl⟩
        · rintro ⟨without, rest, same⟩
          cases name with
          | nil => rfl
          | cons d name =>
              obtain ⟨rfl, _⟩ := List.cons_eq_cons.mp same
              exact absurd List.mem_cons_self without
      · rw [if_neg closes, Option.map_eq_some_iff]
        constructor
        · rintro ⟨tail, found, rfl⟩
          obtain ⟨without, rest, rfl⟩ := ih.mp found
          refine ⟨fun among => ?_, rest, rfl⟩
          exact (List.mem_cons.mp among).elim (closes ·.symm) without
        · rintro ⟨without, rest, same⟩
          cases name with
          | nil => exact absurd (List.cons_eq_cons.mp same).1 closes
          | cons d name =>
              obtain ⟨rfl, rfl⟩ := List.cons_eq_cons.mp same
              have inside : '>' ∉ name := fun among => without (List.mem_cons_of_mem c among)
              exact ⟨name, ih.mpr ⟨inside, rest, rfl⟩, rfl⟩

/-- The two ways in which an encoded name stands for a header name. -/
theorem decode_eq_some_iff {raw name : List Char} :
    decode raw = some name ↔ name ≠ [] ∧
      (raw = '_' :: name ∧ name.head? ≠ some '_' ∨
        '>' ∉ name ∧ ∃ rest, raw = '<' :: (name ++ '>' :: rest)) := by
  rw [decode.eq_def]
  split
  · next s =>
      -- a name in brackets
      rw [Option.bind_eq_some_iff]
      simp only [beforeClose?_eq_some_iff, nonEmpty?_eq_some_iff]
      constructor
      · rintro ⟨_, ⟨without, rest, rfl⟩, filled, rfl⟩
        exact ⟨filled, .inr ⟨without, rest, rfl⟩⟩
      · rintro ⟨filled, ⟨same, _⟩ | ⟨without, rest, same⟩⟩
        · exact absurd (List.cons_eq_cons.mp same).1 (by decide)
        · exact ⟨name, ⟨without, rest, (List.cons_eq_cons.mp same).2⟩, filled, rfl⟩
  · next s =>
      -- a name after two underscores
      refine iff_of_false nofun ?_
      rintro ⟨_, ⟨same, single⟩ | ⟨_, rest, same⟩⟩
      · exact single (by rw [← (List.cons_eq_cons.mp same).2]; rfl)
      · exact absurd (List.cons_eq_cons.mp same).1 (by decide)
  · next s single =>
      -- a name after one underscore
      rw [nonEmpty?_eq_some_iff]
      apply and_congr_right
      intro _
      constructor
      · rintro rfl
        refine .inl ⟨rfl, fun more => ?_⟩
        obtain ⟨tail, same⟩ := List.head?_eq_some_iff.mp more
        exact single tail same
      · rintro (⟨same, _⟩ | ⟨_, rest, same⟩)
        · exact (List.cons_eq_cons.mp same).2
        · exact absurd (List.cons_eq_cons.mp same).1 (by decide)
  · next bracketed _ underscored =>
      refine iff_of_false nofun ?_
      rintro ⟨_, ⟨same, _⟩ | ⟨_, rest, same⟩⟩
      · exact underscored name same
      · exact bracketed _ same

theorem resolve?_eq_some_iff {raw name : String} :
    resolve? raw = some name ↔ decode raw.toList = some name.toList := by
  rw [resolve?, Option.map_eq_some_iff]
  constructor
  · rintro ⟨_, told, rfl⟩
    rw [told, String.toList_ofList]
  · intro told
    exact ⟨name.toList, told, String.ofList_toList⟩

/-! ## Names of fields -/

/-- A name that a field can have: it is neither empty nor a lone underscore, and has none of the
characters that the marks for brackets and for keywords are made of. -/
structure IsFieldName (name : String) : Prop where
  filled : name.toList ≠ []
  worded : name.toList ≠ ['_']
  unbracketed : '<' ∉ name.toList
  unmarked : '#' ∉ name.toList

/-- A name can be spelt as it is, or with the mark that lets it be spelt like a keyword. -/
inductive Spells (name : String) : String → Prop
  | bare : Spells name name
  | marked : Spells name ("r#" ++ name)

/-- How many underscores a name begins with. -/
def underscores (name : String) : Nat := (name.toList.takeWhile (· = '_')).length

variable {name spelling : String}

theorem underscores_eq_zero_iff : underscores name = 0 ↔ name.toList.head? ≠ some '_' := by
  rw [underscores]
  cases name.toList with
  | nil => simp
  | cons c rest => by_cases underscored : c = '_' <;> simp [underscored]

theorem underscores_eq_one_iff : underscores name = 1 ↔
    ∃ rest : String, name = "_" ++ rest ∧ underscores rest = 0 := by
  constructor
  · intro one
    rw [underscores] at one
    cases spelt : name.toList with
    | nil => simp [spelt] at one
    | cons c rest =>
        by_cases underscored : c = '_'
        · refine ⟨String.ofList rest, ?_, ?_⟩
          · rw [String.ext_iff, String.toList_append, spelt, underscored]
            simp
          · simpa [underscores, spelt, underscored] using one
        · simp [spelt, underscored] at one
  · rintro ⟨rest, rfl, none⟩
    rw [underscores] at none ⊢
    simp [none]

theorem plain_of_spells (valid : IsFieldName name) (spells : Spells name spelling) :
    plain spelling.toList = name.toList := by
  cases spells with
  | bare =>
      rw [plain.eq_def]
      split
      · next rest spelt =>
          have among : '#' ∈ name.toList := by
            rw [spelt]
            exact List.mem_cons_of_mem _ List.mem_cons_self
          exact absurd among valid.unmarked
      · rfl
  | marked => rw [String.toList_append]; rfl

/-- A public name stands for itself, or for nothing. -/
theorem resolve?_encode_public (valid : IsFieldName name) (spells : Spells name spelling)
    {found : String} :
    resolve? (encode spelling true) = some found ↔ found = name ∧ underscores name = 0 := by
  rw [resolve?_eq_some_iff, encode, plain_of_spells valid spells, if_pos rfl,
    String.toList_ofList, decode_eq_some_iff, underscores_eq_zero_iff]
  constructor
  · rintro ⟨_, ⟨same, single⟩ | ⟨_, _, bracketed⟩⟩
    · have own := String.toList_injective (List.cons_eq_cons.mp same).2
      exact ⟨own.symm, own ▸ single⟩
    · exact absurd (List.cons_eq_cons.mp bracketed).1 (by decide)
  · rintro ⟨rfl, single⟩
    exact ⟨valid.filled, .inl ⟨rfl, single⟩⟩

/-- A private name stands for what follows its underscore if it has just one, or for nothing. -/
theorem resolve?_encode_private (valid : IsFieldName name) (spells : Spells name spelling)
    {found : String} :
    resolve? (encode spelling false) = some found ↔
      name = "_" ++ found ∧ underscores found = 0 := by
  rw [resolve?_eq_some_iff, encode, plain_of_spells valid spells, if_neg Bool.false_ne_true,
    String.toList_ofList, decode_eq_some_iff, underscores_eq_zero_iff, String.ext_iff,
    String.toList_append]
  constructor
  · rintro ⟨_, single | ⟨_, rest, bracketed⟩⟩
    · exact single
    · have among : '<' ∈ name.toList := bracketed ▸ List.mem_cons_self
      exact absurd among valid.unbracketed
  · rintro ⟨same, single⟩
    refine ⟨fun empty => valid.worded ?_, .inl ⟨same, single⟩⟩
    rw [same, empty]
    rfl

/-- When decoding a field of a binding gives back what was meant. A public field is compared
under its own name exactly if the name does not begin with an underscore, and else not at all.
A private field is not compared exactly if its name does not begin with one single underscore,
and else is compared under the rest of its name. How the name is spelt makes no difference. -/
theorem resolve?_encode_iff (valid : IsFieldName name) (spells : Spells name spelling) :
    (resolve? (encode spelling true) = some name ↔ underscores name = 0) ∧
    (resolve? (encode spelling true) = none ↔ underscores name ≠ 0) ∧
    (resolve? (encode spelling false) = none ↔ underscores name ≠ 1) ∧
    ∀ rest, resolve? (encode spelling false) = some rest ↔
      name = "_" ++ rest ∧ underscores rest = 0 := by
  have meant := @resolve?_encode_public name spelling valid spells
  have leaked := @resolve?_encode_private name spelling valid spells
  refine ⟨by rw [meant, and_iff_right rfl], ?_, ?_, fun _ => leaked⟩
  · simp only [Option.eq_none_iff_forall_ne_some, ne_eq, meant, not_and, forall_eq]
  · simp only [Option.eq_none_iff_forall_ne_some, ne_eq, leaked, underscores_eq_one_iff,
      not_exists]

theorem resolve?_encode_keyword :
    resolve? (encode "r#type" true) = some "type" ∧ resolve? (encode "r#type" false) = none := by
  have valid : IsFieldName "type" := ⟨by decide, by decide, by decide, by decide⟩
  obtain ⟨own, _, unseen, _⟩ := resolve?_encode_iff valid .marked
  exact ⟨own.mpr (by decide), unseen.mpr (by decide)⟩

/-- A public field whose name begins with an underscore is not compared, and a private one is
compared under another name. -/
theorem not_resolve?_encode_underscored :
    IsFieldName "_pad" ∧ resolve? (encode "_pad" true) = none ∧
      resolve? (encode "_pad" false) = some "pad" :=
  ⟨⟨by decide, by decide, by decide, by decide⟩, by decide +kernel, by decide +kernel⟩

end NativeLayout.FieldName
