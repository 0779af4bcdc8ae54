/-
# Lines written and read again

A text made of lines has those lines again when it is split, as long as no line has a
line feed in it or ends in a carriage return.
-/

import NativeLayout.Text.Lines

namespace NativeLayout.Text

/-- A line that its ending can be told from. -/
structure Unbroken (line : List Char) : Prop where
  feedless : '\n' ∉ line
  noReturn : line.getLast? ≠ some '\r'

instance (line : List Char) : Decidable (Unbroken line) :=
  decidable_of_iff ('\n' ∉ line ∧ line.getLast? ≠ some '\r')
    ⟨fun ⟨feedless, noReturn⟩ => ⟨feedless, noReturn⟩, fun h => ⟨h.feedless, h.noReturn⟩⟩

theorem not_mem_append {c : Char} {front back : String} (first : c ∉ front.toList)
    (second : c ∉ back.toList) : c ∉ (front ++ back).toList := by
  rw [String.toList_append, List.mem_append, not_or]
  exact ⟨first, second⟩

theorem not_mem_toString {c : Char} (other : c.isDigit = false) (value : Nat) :
    c ∉ (toString value).toList := by
  have shown : (toString value).toList = Nat.toDigits 10 value := Nat.toList_repr
  rw [shown]
  intro among
  have digit := Nat.isDigit_of_mem_toDigits (by decide) (by decide) among
  rw [other] at digit
  cases digit

theorem not_mem_intercalate {c : Char} {separator : String} {texts : List String}
    (between : c ∉ separator.toList) (inside : ∀ text ∈ texts, c ∉ text.toList) :
    c ∉ (separator.intercalate texts).toList := by
  induction texts with
  | nil => exact List.not_mem_nil
  | cons first rest ih =>
      have own := inside first List.mem_cons_self
      cases rest with
      | nil => exact own
      | cons second others =>
          rw [String.intercalate_cons_cons]
          exact not_mem_append (not_mem_append own between)
            (ih fun text among => inside text (List.mem_cons_of_mem first among))

/-- The end of a line says whether it ends in a carriage return. -/
theorem Unbroken.append {front back : String} (feedless : '\n' ∉ front.toList)
    (ending : Unbroken back.toList) (filled : back.toList ≠ []) :
    Unbroken (front ++ back).toList where
  feedless := not_mem_append feedless ending.feedless
  noReturn := by
    rw [String.toList_append, List.getLast?_append, List.getLast?_eq_some_getLast filled,
      Option.some_or, ← List.getLast?_eq_some_getLast filled]
    exact ending.noReturn

theorem splitLines_cons_of_ne {c : Char} {cs line : List Char} {others : List (List Char)}
    (split : splitLines cs = line :: others) (feed : c ≠ '\n')
    (ending : ¬ (c = '\r' ∧ cs.head? = some '\n')) :
    splitLines (c :: cs) = (c :: line) :: others := by
  rw [splitLines, split]
  · exact feed
  · rintro rest rfl rfl
    exact ending ⟨rfl, rfl⟩

/-- A line that is followed by its ending, of which it has no part. -/
theorem splitLines_append {line tail : List Char} {others : List (List Char)}
    (feedless : '\n' ∉ line) (ends : splitLines tail = [] :: others)
    (apart : line.getLast? = some '\r' → tail.head? ≠ some '\n') :
    splitLines (line ++ tail) = line :: others := by
  induction line with
  | nil => exact ends
  | cons c cs ih =>
      have feed : c ≠ '\n' := fun same => feedless (same ▸ List.mem_cons_self)
      have shorter : '\n' ∉ cs := fun among => feedless (List.mem_cons_of_mem c among)
      have still : cs.getLast? = some '\r' → tail.head? ≠ some '\n' := by
        intro last
        apply apart
        rw [List.getLast?_cons, last]
        rfl
      apply splitLines_cons_of_ne (ih shorter still) feed
      rintro ⟨rfl, next⟩
      cases cs with
      | nil => exact apart rfl next
      | cons d ds =>
          cases next
          exact shorter List.mem_cons_self

theorem splitLines_append_feed {line rest : List Char} (unbroken : Unbroken line) :
    splitLines (line ++ '\n' :: rest) = line :: splitLines rest :=
  splitLines_append unbroken.feedless (by rw [splitLines])
    fun last => absurd last unbroken.noReturn

theorem toList_ofLines_cons (l : String) (rest : List String) :
    (ofLines (l :: rest)).toList = l.toList ++ '\n' :: (ofLines rest).toList := by
  rw [ofLines, List.map_cons, String.join_cons, String.toList_append, String.toList_append,
    List.append_assoc]
  rfl

theorem toList_ofLines_append (first second : List String) :
    (ofLines (first ++ second)).toList = (ofLines first).toList ++ (ofLines second).toList := by
  induction first with
  | nil => rfl
  | cons l rest ih =>
      rw [List.cons_append, toList_ofLines_cons, toList_ofLines_cons, ih, List.append_assoc,
        List.cons_append]

/-- The lines of a text made of lines are those lines. -/
theorem splitLines_ofLines {ls : List String} (unbroken : ∀ l ∈ ls, Unbroken l.toList) :
    splitLines (ofLines ls).toList = ls.map String.toList := by
  induction ls with
  | nil => rfl
  | cons l rest ih =>
      have onward := ih fun other among => unbroken other (List.mem_cons_of_mem l among)
      rw [toList_ofLines_cons, splitLines_append_feed (unbroken l List.mem_cons_self), onward,
        List.map_cons]

theorem lines_ofLines {ls : List String} (unbroken : ∀ l ∈ ls, Unbroken l.toList) :
    lines (ofLines ls) = ls := by
  rw [lines, splitLines_ofLines unbroken, List.map_map]
  calc ls.map (String.ofList ∘ String.toList)
      = ls.map id := List.map_congr_left fun _ _ => String.ofList_toList
    _ = ls := List.map_id ls

end NativeLayout.Text
