/-
# The phrases of messages

Messages are made of names and of two phrases, one for fields and one for total sizes. A
text that has neither phrase may still end in words that one of them begins with, and the
message behind it may begin with names that are such words. Here every way in which the
two could make a phrase together is excluded, so that reading a message can not begin in
the text in front of it.

The one exception is the word for structures, which belongs to the message behind it
wherever it comes from.
-/

import Mathlib.Data.List.Infix
import Mathlib.Tactic.ByContra
import NativeLayout.Proofs.Diagnostics.Names
import NativeLayout.Proofs.Text.Search

namespace NativeLayout.Diagnostics

open NativeLayout.Text

/-- Neither of the phrases that messages are made with occurs in a text. -/
structure Plain (s : List Char) : Prop where
  field : ¬ " is not ".toList <:+: s
  total : ¬ " does not have ".toList <:+: s

instance (s : List Char) : Decidable (Plain s) :=
  decidable_of_iff (¬ " is not ".toList <:+: s ∧ ¬ " does not have ".toList <:+: s)
    ⟨fun ⟨field, total⟩ => ⟨field, total⟩, fun plain => ⟨plain.field, plain.total⟩⟩

theorem Plain.suffix {s t : List Char} (plain : Plain t) (suffix : s <:+ t) : Plain s where
  field within := plain.field (within.trans suffix.isInfix)
  total within := plain.total (within.trans suffix.isInfix)

/-- A text begins as messages do: with a name that the phrase of fields does not follow, and that
no word follows but one with the first letter of the other phrase. Any word may follow the word
for structures. -/
def Opening (t : List Char) : Prop :=
  ∃ name rest, identifier? t = some (name, rest) ∧ ¬ " is not ".toList <+: rest ∧
    (name = "struct".toList ∨ ∀ c, [' ', c] <+: rest → c = 'd')

theorem Opening.no_phrase {t word tail : List Char} (opening : Opening t)
    (valid : isIdentifier word = true) (other : word ≠ "struct".toList) {c : Char}
    (differs : c ≠ 'd') : ¬ word ++ ' ' :: c :: tail <+: t := by
  rintro ⟨more, rfl⟩
  obtain ⟨name, rest, found, _, follows⟩ := opening
  rw [List.append_assoc, List.cons_append, identifier?_append valid rfl] at found
  cases found
  rcases follows with same | follows
  · exact other same
  · exact differs (follows c ⟨tail ++ more, rfl⟩)

/-- A phrase that begins in a plain text and goes on beyond it begins with all of the text. -/
theorem prefix_of_absent {phrase s t : List Char} (begins : phrase <+: s ++ t)
    (absent : ¬ phrase <:+: s) : s <+: phrase := by
  rcases List.prefix_or_prefix_of_prefix begins (List.prefix_append s t) with within | across
  · exact absurd within.isInfix absent
  · exact across

/-- What a phrase has beyond a text in front is where the rest begins. -/
theorem prefix_beyond {phrase s more t : List Char} (begins : phrase <+: s ++ t)
    (parts : phrase = s ++ more) : more <+: t := by
  rw [parts] at begins
  exact (List.prefix_append_right_inj s).mp begins

theorem isNot_cases {s : List Char} (begins : s <+: " is not ".toList) (filled : s ≠ [])
    (closed : Closed s) : s = " ".toList ∨ s = " is ".toList ∨ s = " is not ".toList := by
  have all : ∀ s ∈ " is not ".toList.inits, s ≠ [] → Closed s →
      s = " ".toList ∨ s = " is ".toList ∨ s = " is not ".toList := by decide
  exact all s ((List.mem_inits _ _).mpr begins) filled closed

theorem doesNotHave_cases {s : List Char} (begins : s <+: " does not have ".toList)
    (filled : s ≠ []) (closed : Closed s) :
    s = " ".toList ∨ s = " does ".toList ∨ s = " does not ".toList ∨
      s = " does not have ".toList := by
  have all : ∀ s ∈ " does not have ".toList.inits, s ≠ [] → Closed s →
      s = " ".toList ∨ s = " does ".toList ∨ s = " does not ".toList ∨
        s = " does not have ".toList := by decide
  exact all s ((List.mem_inits _ _).mpr begins) filled closed

theorem struct_cases {s : List Char} (begins : s <+: "struct ".toList) (filled : s ≠ [])
    (closed : Closed s) : s = "struct ".toList := by
  have all : ∀ s ∈ "struct ".toList.inits, s ≠ [] → Closed s → s = "struct ".toList := by decide
  exact all s ((List.mem_inits _ _).mpr begins) filled closed

/-! ## Reading the phrase of fields -/

/-- The two wordings about a field differ, so the kind is told by the one that is there. -/
theorem fieldKind?_eq_some_iff {s : List Char} {kind : MismatchKind} :
    fieldKind? s = some kind ↔
      kind = .offset ∧ " is not at expected offset".toList <+: s ∨
        kind = .size ∧ " is not of expected size".toList <+: s := by
  rw [fieldKind?]
  by_cases offset : " is not at expected offset".toList <+: s
  · rw [if_pos (isSome_after?_iff.mpr offset)]
    refine ⟨fun told => .inl ⟨(Option.some.inj told).symm, offset⟩, ?_⟩
    rintro (⟨rfl, _⟩ | ⟨_, size⟩)
    · rfl
    · rcases List.prefix_or_prefix_of_prefix offset size with within | within
      · exact absurd within (by decide)
      · exact absurd within (by decide)
  · rw [if_neg (mt isSome_after?_iff.mp offset)]
    by_cases size : " is not of expected size".toList <+: s
    · rw [if_pos (isSome_after?_iff.mpr size)]
      refine ⟨fun told => .inr ⟨(Option.some.inj told).symm, size⟩, ?_⟩
      rintro (⟨_, other⟩ | ⟨rfl, _⟩)
      · exact absurd other offset
      · rfl
    · rw [if_neg (mt isSome_after?_iff.mp size)]
      refine ⟨nofun, ?_⟩
      rintro (⟨_, other⟩ | ⟨_, other⟩)
      · exact absurd other offset
      · exact absurd other size

theorem fieldKind?_offset (after : List Char) :
    fieldKind? (' ' :: "is not at expected offset".toList ++ after) = some .offset :=
  fieldKind?_eq_some_iff.mpr (.inl ⟨rfl, after, rfl⟩)

theorem fieldKind?_size (after : List Char) :
    fieldKind? (' ' :: "is not of expected size".toList ++ after) = some .size :=
  fieldKind?_eq_some_iff.mpr (.inr ⟨rfl, after, rfl⟩)

theorem prefix_of_fieldKind? {s : List Char} {kind : MismatchKind}
    (found : fieldKind? s = some kind) :
    " is not at expected offset".toList <+: s ∨ " is not of expected size".toList <+: s :=
  (fieldKind?_eq_some_iff.mp found).imp And.right And.right

theorem isNot_prefix_of_fieldKind? {s : List Char} {kind : MismatchKind}
    (found : fieldKind? s = some kind) : " is not ".toList <+: s := by
  rcases prefix_of_fieldKind? found with offset | size
  · exact List.IsPrefix.trans ⟨"at expected offset".toList, rfl⟩ offset
  · exact List.IsPrefix.trans ⟨"of expected size".toList, rfl⟩ size

theorem fieldMessage?_eq_some_iff {s : List Char} {m : Mismatch} :
    fieldMessage? s = some m ↔ ∃ owner rest field tail kind,
      identifier? s = some (owner, '.' :: rest) ∧ identifier? rest = some (field, tail) ∧
      fieldKind? tail = some kind ∧ ⟨String.ofList owner, String.ofList field, kind⟩ = m := by
  constructor
  · intro found
    rw [fieldMessage?] at found
    split at found
    · cases found
    · next owner rest first =>
        split at found
        · next rest =>
            split at found
            · cases found
            · next field tail second =>
                obtain ⟨kind, told, same⟩ := Option.map_eq_some_iff.mp found
                exact ⟨owner, rest, field, tail, kind, first, second, told, same⟩
        · cases found
  · rintro ⟨owner, rest, field, tail, kind, first, second, told, same⟩
    simp only [fieldMessage?, first, second, told, Option.map_some, same]

/-- The phrase of fields is not made by a plain text and the beginning of a message. -/
theorem fieldKind?_of_closed {s t : List Char} (closed : Closed s) (filled : s ≠ [])
    (plain : Plain s) (opening : Opening t) : fieldKind? (s ++ t) = none := by
  by_contra found
  obtain ⟨kind, found⟩ := Option.ne_none_iff_exists'.mp found
  have phrase := isNot_prefix_of_fieldKind? found
  rcases isNot_cases (prefix_of_absent phrase plain.field) filled closed with rfl | rfl | rfl
  · have words : "is".toList ++ ' ' :: 'n' :: "ot ".toList <+: t := prefix_beyond phrase rfl
    exact opening.no_phrase (by decide) (by decide) (by decide) words
  · rcases prefix_of_fieldKind? found with offset | size
    · have words : "not".toList ++ ' ' :: 'a' :: "t expected offset".toList <+: t :=
        prefix_beyond offset rfl
      exact opening.no_phrase (by decide) (by decide) (by decide) words
    · have words : "not".toList ++ ' ' :: 'o' :: "f expected size".toList <+: t :=
        prefix_beyond size rfl
      exact opening.no_phrase (by decide) (by decide) (by decide) words
  · exact plain.field (List.infix_refl _)

/-- No message of a field begins in a plain text in front of a message. -/
theorem fieldMessage?_of_closed {s t : List Char} (closed : Closed s) (filled : s ≠ [])
    (plain : Plain s) (opening : Opening t) : fieldMessage? (s ++ t) = none := by
  by_contra found
  obtain ⟨m, found⟩ := Option.ne_none_iff_exists'.mp found
  obtain ⟨owner, rest, field, tail, kind, first, second, told, _⟩ :=
    fieldMessage?_eq_some_iff.mp found
  obtain ⟨after, _, rfl, split⟩ := identifier?_of_closed closed filled first
  cases after with
  | nil => contradiction
  | cons dot after =>
      obtain ⟨rfl, rfl⟩ := List.cons_eq_cons.mp split
      have inside : after <:+ owner ++ '.' :: after := ⟨owner ++ ['.'], by simp⟩
      by_cases empty : after = []
      · -- The owner is the last word in front, and the first name of the message its field.
        subst empty
        obtain ⟨name, rest, begins, unphrased, _⟩ := opening
        change identifier? t = _ at second
        rw [begins] at second
        cases second
        exact unphrased (isNot_prefix_of_fieldKind? told)
      · obtain ⟨more, nonempty, rfl, rfl⟩ :=
          identifier?_of_closed (closed.suffix inside) empty second
        have deeper : more <:+ owner ++ '.' :: (field ++ more) :=
          (List.suffix_append field more).trans inside
        rw [fieldKind?_of_closed (closed.suffix deeper) nonempty (plain.suffix deeper) opening]
          at told
        cases told

/-- No message of a field begins in a text without dots in front of one without the phrase. -/
theorem fieldMessage?_of_no_dot {s t : List Char} (dotless : '.' ∉ s)
    (absent : ¬ " is not ".toList <:+: t) : fieldMessage? (s ++ t) = none := by
  by_contra found
  obtain ⟨m, found⟩ := Option.ne_none_iff_exists'.mp found
  obtain ⟨owner, rest, field, tail, kind, first, second, told, _⟩ :=
    fieldMessage?_eq_some_iff.mp found
  obtain ⟨_, _, whole⟩ := identifier?_eq_some_iff.mp first
  obtain ⟨_, _, rfl⟩ := identifier?_eq_some_iff.mp second
  have phrase : " is not ".toList <:+: field ++ tail :=
    (isNot_prefix_of_fieldKind? told).isInfix.trans (List.suffix_append field tail).isInfix
  rcases List.append_eq_append_iff.mp whole with ⟨more, _, rfl⟩ | ⟨more, rfl, split⟩
  · have inside : field ++ tail <:+: more ++ '.' :: (field ++ tail) :=
      ⟨more ++ ['.'], [], by simp⟩
    exact absent (phrase.trans inside)
  · cases more with
    | nil =>
        rw [List.nil_append] at split
        rw [← split] at absent
        exact absent (phrase.trans (List.suffix_cons '.' _).isInfix)
    | cons dot more =>
        obtain ⟨rfl, _⟩ := List.cons_eq_cons.mp split
        exact dotless (List.mem_append_right owner List.mem_cons_self)

/-! ## Reading the phrase of total sizes -/

theorem plainTotalMessage?_eq_some_iff {s : List Char} {m : Mismatch} :
    plainTotalMessage? s = some m ↔ ∃ owner rest, identifier? s = some (owner, rest) ∧
      " does not have expected size".toList <+: rest ∧ .totalSize (String.ofList owner) = m := by
  constructor
  · intro found
    rw [plainTotalMessage?] at found
    split at found
    · cases found
    · next owner rest first =>
        split at found
        · next wording =>
            exact ⟨owner, rest, first, isSome_after?_iff.mp wording, Option.some.inj found⟩
        · cases found
  · rintro ⟨owner, rest, first, wording, same⟩
    simp only [plainTotalMessage?, first, isSome_after?_iff.mpr wording, if_true, same]

/-- No message of a total size begins in a plain text in front of a message, unless the text
is a word for structures. -/
theorem plainTotalMessage?_of_closed {s t : List Char} (closed : Closed s) (filled : s ≠ [])
    (plain : Plain s) (opening : Opening t) : plainTotalMessage? (s ++ t) = none := by
  by_contra found
  obtain ⟨m, found⟩ := Option.ne_none_iff_exists'.mp found
  obtain ⟨owner, rest, first, wording, _⟩ := plainTotalMessage?_eq_some_iff.mp found
  obtain ⟨after, nonempty, rfl, rfl⟩ := identifier?_of_closed closed filled first
  have inside : after <:+ owner ++ after := List.suffix_append owner after
  have phrase : " does not have ".toList <+: after ++ t :=
    List.IsPrefix.trans ⟨"expected size".toList, rfl⟩ wording
  have begins := prefix_of_absent phrase (plain.suffix inside).total
  rcases doesNotHave_cases begins nonempty (closed.suffix inside) with rfl | rfl | rfl | rfl
  · have words : "does".toList ++ ' ' :: 'n' :: "ot have ".toList <+: t :=
      prefix_beyond phrase rfl
    exact opening.no_phrase (by decide) (by decide) (by decide) words
  · have words : "not".toList ++ ' ' :: 'h' :: "ave ".toList <+: t := prefix_beyond phrase rfl
    exact opening.no_phrase (by decide) (by decide) (by decide) words
  · have words : "have".toList ++ ' ' :: 'e' :: "xpected size".toList <+: t :=
      prefix_beyond wording rfl
    exact opening.no_phrase (by decide) (by decide) (by decide) words
  · exact plain.total inside.isInfix

/-- A message of a total size that begins in a plain text in front of a message begins with
the word for structures and goes on with that message. -/
theorem totalMessage?_of_closed {s t : List Char} (closed : Closed s) (filled : s ≠ [])
    (plain : Plain s) (opening : Opening t) :
    totalMessage? (s ++ t) = none ∨ totalMessage? (s ++ t) = plainTotalMessage? t := by
  rw [totalMessage?, plainTotalMessage?_of_closed closed filled plain opening, Option.or_none]
  cases found : after? "struct ".toList (s ++ t) with
  | none => exact .inl rfl
  | some rest =>
      rw [Option.bind_some]
      rcases List.append_eq_append_iff.mp (after?_eq_some_iff.mp found) with
        ⟨more, word, rfl⟩ | ⟨more, rfl, rfl⟩
      · have same := struct_cases ⟨more, word.symm⟩ filled closed
        subst same
        cases List.append_cancel_left (word.symm.trans (List.append_nil _).symm)
        exact .inr rfl
      · by_cases empty : more = []
        · subst empty
          exact .inr rfl
        · have inside : more <:+ "struct ".toList ++ more := List.suffix_append _ more
          exact .inl (plainTotalMessage?_of_closed (closed.suffix inside) empty
            (plain.suffix inside) opening)

end NativeLayout.Diagnostics
