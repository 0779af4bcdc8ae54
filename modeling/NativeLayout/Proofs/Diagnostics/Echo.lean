/-
# Echoed messages

A compiler that tells of a failed assertion repeats the message, between texts of its
own. If those have neither of the two phrases that messages are made with, and what
stands in front can not run together with the first name, then the line is read as the
mismatch of the message. A line without any of the three wordings is read as nothing.
-/

import NativeLayout.Assertion
import NativeLayout.Proofs.Diagnostics.Phrases

namespace NativeLayout.Diagnostics

open NativeLayout.Text

/-- A line has a message in it, between texts that are plain. The first of them ends in no
name. -/
def Echoes (message line : List Char) : Prop :=
  ∃ before after, line = before ++ message ++ after ∧ Closed before ∧ Plain before ∧ Plain after

/-- A line has none of the three wordings of a message. -/
structure Quiet (line : List Char) : Prop where
  offset : ¬ " is not at expected offset".toList <:+: line
  size : ¬ " is not of expected size".toList <:+: line
  total : ¬ " does not have expected size".toList <:+: line

variable {owner field wording after line : List Char}

theorem identifier?_struct :
    identifier? ("struct ".toList ++ after) = some ("struct".toList, ' ' :: after) := by
  have read : identifier? ("struct".toList ++ ' ' :: after) =
      some ("struct".toList, ' ' :: after) := identifier?_append rfl rfl
  exact read

theorem opening_of_dot (valid : isIdentifier owner = true) : Opening (owner ++ '.' :: after) := by
  refine ⟨owner, '.' :: after, identifier?_append valid rfl, ?_, .inr ?_⟩
  · rintro ⟨_, ⟨⟩⟩
  · rintro c ⟨_, ⟨⟩⟩

theorem ofLine?_of_field (validOwner : isIdentifier owner = true)
    (validField : isIdentifier field = true) {kind : MismatchKind}
    (told : ∀ after, fieldKind? (' ' :: wording ++ after) = some kind)
    (echoes : Echoes (owner ++ '.' :: (field ++ ' ' :: wording)) line) :
    ofLine? line = some ⟨String.ofList owner, String.ofList field, kind⟩ := by
  obtain ⟨before, after, rfl, closed, plain, _⟩ := echoes
  have shape : before ++ (owner ++ '.' :: (field ++ ' ' :: wording)) ++ after =
      before ++ (owner ++ '.' :: (field ++ ' ' :: (wording ++ after))) := by simp
  have here : fieldMessage? (owner ++ '.' :: (field ++ ' ' :: (wording ++ after))) =
      some ⟨String.ofList owner, String.ofList field, kind⟩ :=
    fieldMessage?_eq_some_iff.mpr ⟨owner, _, field, _, kind, identifier?_append validOwner rfl,
      identifier?_append validField rfl, told after, rfl⟩
  have found := leftmost_append (fun s suffix filled => .inl
    (fieldMessage?_of_closed (closed.suffix suffix) filled (plain.suffix suffix)
      (opening_of_dot validOwner))) (leftmost_of_pattern here)
  rw [shape, ofLine?, found]
  rfl

theorem opening_of_phrase (valid : isIdentifier owner = true) :
    Opening (owner ++ (" does not have expected size".toList ++ after)) := by
  refine ⟨owner, _, identifier?_append valid rfl, ?_, .inr ?_⟩
  · rintro ⟨_, split⟩
    cases split
  · rintro c ⟨_, split⟩
    cases split
    rfl

theorem plainTotalMessage?_of_phrase (valid : isIdentifier owner = true) :
    plainTotalMessage? (owner ++ (" does not have expected size".toList ++ after)) =
      some (.totalSize (String.ofList owner)) :=
  plainTotalMessage?_eq_some_iff.mpr
    ⟨owner, _, identifier?_append valid rfl, List.prefix_append _ after, rfl⟩

/-- Even if a structure has the name `struct`, what follows the name is no message. -/
theorem totalMessage?_of_phrase (valid : isIdentifier owner = true) :
    totalMessage? (owner ++ (" does not have expected size".toList ++ after)) =
      some (.totalSize (String.ofList owner)) := by
  rw [totalMessage?, plainTotalMessage?_of_phrase valid]
  cases found : after? "struct ".toList
      (owner ++ (" does not have expected size".toList ++ after)) with
  | none => rfl
  | some rest =>
      have whole := congrArg identifier? (after?_eq_some_iff.mp found)
      have read : identifier? (owner ++ (" does not have expected size".toList ++ after)) =
          some (owner, _) := identifier?_append valid rfl
      have same := read.symm.trans (whole.trans identifier?_struct)
      obtain ⟨rfl, follows⟩ := Prod.mk.inj (Option.some.inj same)
      have next : "does".toList ++ ' ' :: ("not have expected size".toList ++ after) = rest :=
        (List.cons_eq_cons.mp follows).2
      have nothing : plainTotalMessage? rest = none := by
        rw [← next, plainTotalMessage?, identifier?_append rfl rfl]
        rfl
      rw [Option.bind_some, nothing, Option.none_or]

theorem plainTotalMessage?_of_tag (valid : isIdentifier owner = true) :
    plainTotalMessage?
      ("struct ".toList ++ (owner ++ (" does not have expected size".toList ++ after))) =
        none := by
  rw [plainTotalMessage?, identifier?_struct]
  apply if_neg
  rw [isSome_after?_iff]
  intro wording
  have words : "does".toList ++ ' ' :: 'n' :: "ot have expected size".toList <+:
      owner ++ (" does not have expected size".toList ++ after) :=
    (List.prefix_append_right_inj [' ']).mp wording
  exact (opening_of_phrase valid).no_phrase (by decide) (by decide) (by decide) words

theorem opening_of_tag (valid : isIdentifier owner = true) :
    Opening ("struct ".toList ++ (owner ++ (" does not have expected size".toList ++ after))) := by
  refine ⟨"struct".toList, _, identifier?_struct, ?_, .inl rfl⟩
  intro phrase
  have words : "is".toList ++ ' ' :: 'n' :: "ot ".toList <+:
      owner ++ (" does not have expected size".toList ++ after) :=
    (List.prefix_append_right_inj [' ']).mp phrase
  exact (opening_of_phrase valid).no_phrase (by decide) (by decide) (by decide) words

theorem totalMessage?_of_tag (valid : isIdentifier owner = true) :
    totalMessage?
      ("struct ".toList ++ (owner ++ (" does not have expected size".toList ++ after))) =
        some (.totalSize (String.ofList owner)) := by
  rw [totalMessage?, after?_append, Option.bind_some, plainTotalMessage?_of_phrase valid]
  rfl

/-- No message of a field is read in a line that repeats a message without dots. -/
theorem leftmost_fieldMessage?_of_no_dot {before message : List Char} (closed : Closed before)
    (plain : Plain before) (opening : Opening (message ++ after)) (dotless : '.' ∉ message)
    (rest : Plain after) : leftmost fieldMessage? (before ++ (message ++ after)) = none := by
  apply leftmost_eq_none_iff.mpr
  intro s suffix
  rcases suffix_append_cases suffix with ⟨front, within, filled, rfl⟩ | suffix
  · exact fieldMessage?_of_closed (closed.suffix within) filled (plain.suffix within) opening
  · rcases suffix_append_cases suffix with ⟨front, within, _, rfl⟩ | suffix
    · exact fieldMessage?_of_no_dot (fun among => dotless (within.subset among)) rest.field
    · exact fieldMessage?_of_no_dot (s := []) List.not_mem_nil (rest.suffix suffix).field

/-- A line that repeats a message without dots is read as the total size that it tells of. -/
theorem ofLine?_of_no_dot {before message : List Char} {m : Mismatch} (closed : Closed before)
    (plain : Plain before) (rest : Plain after) (dotless : '.' ∉ message)
    (opening : Opening (message ++ after)) (told : totalMessage? (message ++ after) = some m)
    (inner : plainTotalMessage? (message ++ after) = none ∨
      plainTotalMessage? (message ++ after) = some m) :
    ofLine? (before ++ message ++ after) = some m := by
  have found : leftmost totalMessage? (before ++ (message ++ after)) = some m := by
    apply leftmost_append _ (leftmost_of_pattern told)
    intro s suffix filled
    rcases totalMessage?_of_closed (closed.suffix suffix) filled (plain.suffix suffix) opening with
      none | same
    · exact .inl none
    · rw [same]
      exact inner
  rw [List.append_assoc, ofLine?,
    leftmost_fieldMessage?_of_no_dot closed plain opening dotless rest, found]
  rfl

/-- A line that repeats a message about a total size is read as its mismatch, whether the name
stands alone or after the word for structures. -/
theorem ofLine?_of_total {owner : String} (valid : isIdentifier owner.toList = true)
    (style : NameStyle)
    (echoes : Echoes ((style.spell owner).toList ++ " does not have expected size".toList) line) :
    ofLine? line = some (.totalSize owner) := by
  obtain ⟨before, after, rfl, closed, plain, rest⟩ := echoes
  have dotless : '.' ∉ owner.toList := not_mem_of_isIdentifier valid rfl
  have name : String.ofList owner.toList = owner := String.ofList_toList
  cases style with
  | typedef =>
      have shape : (NameStyle.typedef.spell owner).toList ++
          " does not have expected size".toList ++ after =
            owner.toList ++ (" does not have expected size".toList ++ after) :=
        List.append_assoc ..
      apply ofLine?_of_no_dot closed plain rest
      · rw [List.mem_append, not_or]
        exact ⟨dotless, by decide⟩
      · rw [shape]
        exact opening_of_phrase valid
      · rw [shape, totalMessage?_of_phrase valid, name]
      · rw [shape, plainTotalMessage?_of_phrase valid, name]
        exact .inr rfl
  | tag =>
      have spelt : (NameStyle.tag.spell owner).toList = "struct ".toList ++ owner.toList :=
        String.toList_append
      have shape : (NameStyle.tag.spell owner).toList ++
          " does not have expected size".toList ++ after = "struct ".toList ++
            (owner.toList ++ (" does not have expected size".toList ++ after)) := by
        rw [spelt, List.append_assoc, List.append_assoc]
      apply ofLine?_of_no_dot closed plain rest
      · rw [spelt, List.mem_append, List.mem_append, not_or, not_or]
        exact ⟨⟨by decide, dotless⟩, by decide⟩
      · rw [shape]
        exact opening_of_tag valid
      · rw [shape, totalMessage?_of_tag valid, name]
      · rw [shape]
        exact .inl (plainTotalMessage?_of_tag valid)

theorem suffix_of_identifier? {s name rest : List Char}
    (found : identifier? s = some (name, rest)) : rest <:+ s :=
  ⟨name, (identifier?_eq_some_iff.mp found).2.2.symm⟩

theorem plainTotalMessage?_of_quiet {s : List Char} (quiet : Quiet line) (suffix : s <:+ line) :
    plainTotalMessage? s = none := by
  by_contra found
  obtain ⟨m, found⟩ := Option.ne_none_iff_exists'.mp found
  obtain ⟨_, rest, first, wording, _⟩ := plainTotalMessage?_eq_some_iff.mp found
  have inside : rest <:+ line := (suffix_of_identifier? first).trans suffix
  exact quiet.total (wording.isInfix.trans inside.isInfix)

/-- A line with none of the wordings is read as nothing. -/
theorem ofLine?_of_quiet (quiet : Quiet line) : ofLine? line = none := by
  have fields : leftmost fieldMessage? line = none := by
    apply leftmost_eq_none_iff.mpr
    intro s suffix
    by_contra found
    obtain ⟨m, found⟩ := Option.ne_none_iff_exists'.mp found
    obtain ⟨_, rest, _, tail, _, first, second, told, _⟩ := fieldMessage?_eq_some_iff.mp found
    have inside : tail <:+ line := (suffix_of_identifier? second).trans
      ((List.suffix_cons '.' rest).trans ((suffix_of_identifier? first).trans suffix))
    rcases prefix_of_fieldKind? told with offset | size
    · exact quiet.offset (offset.isInfix.trans inside.isInfix)
    · exact quiet.size (size.isInfix.trans inside.isInfix)
  have totals : leftmost totalMessage? line = none := by
    apply leftmost_eq_none_iff.mpr
    intro s suffix
    rw [totalMessage?, plainTotalMessage?_of_quiet quiet suffix, Option.or_none]
    cases found : after? "struct ".toList s with
    | none => rfl
    | some rest =>
        have inside : rest <:+ s := ⟨_, (after?_eq_some_iff.mp found).symm⟩
        exact plainTotalMessage?_of_quiet quiet (inside.trans suffix)
  rw [ofLine?, fields, totals]
  rfl

end NativeLayout.Diagnostics
