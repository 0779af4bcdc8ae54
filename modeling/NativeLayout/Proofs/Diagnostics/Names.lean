/-
# Names at the beginning of a text

A name is read as far as it goes. A text that is closed, so that its last character
can not belong to a name, keeps the names that begin in it to itself, whatever
follows. This is why what a compiler writes in front of a message can not run
together with the first name of the message.
-/

import NativeLayout.Diagnostics

namespace NativeLayout.Diagnostics

open NativeLayout.Text

/-- No name goes on beyond the end of a text: it is empty, or its last character is none that
names have. -/
def Closed (s : List Char) : Prop := ∀ c ∈ s.getLast?, isNamePart c = false

-- The instance is named, since a search for one may come upon trying out all characters.
instance (s : List Char) : Decidable (Closed s) :=
  (Option.decidableForallMem _ : Decidable (∀ c ∈ s.getLast?, isNamePart c = false))

/-- No name goes on at the beginning of a text. -/
def Fresh (s : List Char) : Prop := ∀ c ∈ s.head?, isNamePart c = false

theorem Closed.suffix {s t : List Char} (closed : Closed t) (suffix : s <:+ t) : Closed s := by
  intro c last
  apply closed
  obtain ⟨front, rfl⟩ := suffix
  rw [List.getLast?_append, Option.mem_def.mp last]
  rfl

theorem isNamePart_of_isNameStart {c : Char} (start : isNameStart c = true) :
    isNamePart c = true := by
  rw [isNamePart, start, Bool.true_or]

theorem isNamePart_of_mem {name : List Char} (valid : isIdentifier name = true) {c : Char}
    (among : c ∈ name) : isNamePart c = true := by
  cases name with
  | nil => cases among
  | cons first others =>
      rw [isIdentifier, Bool.and_eq_true, List.all_eq_true] at valid
      rcases List.mem_cons.mp among with rfl | among
      · exact isNamePart_of_isNameStart valid.1
      · exact valid.2 c among

theorem not_mem_of_isIdentifier {name : List Char} (valid : isIdentifier name = true) {c : Char}
    (outside : isNamePart c = false) : c ∉ name := by
  intro among
  rw [isNamePart_of_mem valid among] at outside
  cases outside

/-- A name is read off a text exactly if the text consists of it and a rest in which no name
goes on. -/
theorem identifier?_eq_some_iff {s name rest : List Char} :
    identifier? s = some (name, rest) ↔
      isIdentifier name = true ∧ Fresh rest ∧ s = name ++ rest := by
  constructor
  · intro found
    cases s with
    | nil => cases found
    | cons c cs =>
        rw [identifier?] at found
        by_cases start : isNameStart c = true
        · rw [if_pos start] at found
          cases found
          refine ⟨?_, ?_, ?_⟩
          · rw [isIdentifier, start, Bool.true_and, List.all_takeWhile]
          · intro d first
            have stopped := List.head?_dropWhile_not isNamePart cs
            rw [Option.mem_def.mp first] at stopped
            exact stopped
          · rw [List.cons_append, List.takeWhile_append_dropWhile]
        · rw [if_neg start] at found
          cases found
  · rintro ⟨valid, fresh, rfl⟩
    cases name with
    | nil => cases valid
    | cons c cs =>
        rw [isIdentifier, Bool.and_eq_true, List.all_eq_true] at valid
        rw [List.cons_append, identifier?, if_pos valid.1,
          List.takeWhile_append_of_pos valid.2, List.dropWhile_append_of_pos valid.2]
        cases rest with
        | nil => rw [List.takeWhile_nil, List.append_nil, List.dropWhile_nil]
        | cons d ds =>
            have stops : ¬ isNamePart d = true := by
              rw [fresh d rfl]
              exact Bool.false_ne_true
            rw [List.takeWhile_cons_of_neg stops, List.append_nil,
              List.dropWhile_cons_of_neg stops]

theorem identifier?_append {name rest : List Char} (valid : isIdentifier name = true) {c : Char}
    (stops : isNamePart c = false) :
    identifier? (name ++ c :: rest) = some (name, c :: rest) := by
  apply identifier?_eq_some_iff.mpr
  refine ⟨valid, ?_, rfl⟩
  rintro _ ⟨⟩
  exact stops

/-- A name that begins in a closed text ends in it. -/
theorem identifier?_of_closed {s t name rest : List Char} (closed : Closed s) (filled : s ≠ [])
    (found : identifier? (s ++ t) = some (name, rest)) :
    ∃ tail, tail ≠ [] ∧ s = name ++ tail ∧ rest = tail ++ t := by
  obtain ⟨valid, _, whole⟩ := identifier?_eq_some_iff.mp found
  have outside : ¬ s <:+: name := by
    intro within
    have last := List.getLast?_eq_some_getLast filled
    have part := isNamePart_of_mem valid (within.subset (List.getLast_mem filled))
    rw [closed _ last] at part
    cases part
  rcases List.append_eq_append_iff.mp whole with ⟨more, rfl, _⟩ | ⟨tail, rfl, rfl⟩
  · exact absurd (List.prefix_append s more).isInfix outside
  · refine ⟨tail, ?_, rfl, rfl⟩
    rintro rfl
    rw [List.append_nil] at outside
    exact outside (List.infix_refl name)

end NativeLayout.Diagnostics
