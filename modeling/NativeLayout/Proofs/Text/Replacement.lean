/-
# Words replaced in a text

Every place of a word in a text is replaced by another text. Places are looked for from the
left, and the next one only behind the last: none lies within one that was replaced, nor in what
was written for it. If a text is written as codes one after another, and replacing a word goes
code by code, whatever stands behind a code, then it is the text of other codes.

The word is not empty.
-/

import Mathlib.Data.List.Basic

namespace NativeLayout.Text

variable {word new : List Char} {c : Char} {s : List Char}

/-- A text with its word replaced from here on, after so many characters that belong to a place
where the word was. -/
def replaceFrom (word new : List Char) : Nat → List Char → List Char
  | _, [] => []
  | taken + 1, _ :: s => replaceFrom word new taken s
  | 0, c :: s =>
    if word <+: c :: s then new ++ replaceFrom word new (word.length - 1) s
    else c :: replaceFrom word new 0 s

/-- A text with another text in every place of a word. -/
def replaceAll (word new s : List Char) : List Char := replaceFrom word new 0 s

theorem replaceFrom_append (taken s : List Char) :
    replaceFrom word new taken.length (taken ++ s) = replaceAll word new s := by
  induction taken with
  | nil => rfl
  | cons c taken ih => exact ih

theorem replaceAll_cons_of_apart (other : ¬ word <+: c :: s) :
    replaceAll word new (c :: s) = c :: replaceAll word new s := by
  rw [replaceAll, replaceFrom, if_neg other]
  rfl

/-- A place of the word is replaced, and then the text behind it is searched. -/
theorem replaceAll_append (filled : word ≠ []) (s : List Char) :
    replaceAll word new (word ++ s) = new ++ replaceAll word new s := by
  cases word with
  | nil => exact absurd rfl filled
  | cons w ws =>
      have begins : w :: ws <+: w :: (ws ++ s) := List.prefix_append (w :: ws) s
      rw [List.cons_append, replaceAll, replaceFrom, if_pos begins, List.length_cons,
        Nat.add_sub_cancel, replaceFrom_append]

example : replaceAll ['a', 'a'] ['b', 'a'] ['a', 'a', 'a', 'c'] = ['b', 'a', 'a', 'c'] := by decide

/-- A text without the first character of the word stays as it is. -/
theorem replaceAll_append_of_not_mem {w : Char} {ws front : List Char} (absent : w ∉ front)
    (s : List Char) :
    replaceAll (w :: ws) new (front ++ s) = front ++ replaceAll (w :: ws) new s := by
  induction front with
  | nil => rfl
  | cons c front ih =>
      rw [List.mem_cons, not_or] at absent
      have other : ¬ w :: ws <+: c :: (front ++ s) := fun begins =>
        absent.1 (List.cons_prefix_cons.mp begins).1
      rw [List.cons_append, replaceAll_cons_of_apart other, ih absent.2]
      rfl

/-- Codes in which a word is replaced one by one. -/
theorem replaceAll_flatMap {f g : Char → List Char}
    (each : ∀ c s, replaceAll word new (f c ++ s) = g c ++ replaceAll word new s) (s : List Char) :
    replaceAll word new (s.flatMap f) = s.flatMap g := by
  induction s with
  | nil => rfl
  | cons c s ih => rw [List.flatMap_cons, List.flatMap_cons, each, ih]

/-- A word of one character is replaced character by character. -/
theorem replaceAll_singleton (w : Char) (new s : List Char) :
    replaceAll [w] new s = s.flatMap fun c => if c = w then new else [c] := by
  have each (c : Char) (s : List Char) : replaceAll [w] new ([c] ++ s) =
      (if c = w then new else [c]) ++ replaceAll [w] new s := by
    by_cases same : c = w
    · rw [if_pos same, same]
      exact replaceAll_append (List.cons_ne_nil w []) s
    · rw [if_neg same]
      exact replaceAll_append_of_not_mem (mt List.mem_singleton.mp (Ne.symm same)) s
  rw [← replaceAll_flatMap each, List.flatMap_singleton']

end NativeLayout.Text
