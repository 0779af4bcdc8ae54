/-
# Where a search stops

A leftmost search looks at the suffixes of a text from the longest to the shortest.
It finds nothing exactly if the pattern has an answer at none of them, and what
stands in front of an answer matters only by the answers that it has itself.
-/

import NativeLayout.Text.Search

namespace NativeLayout.Text

variable {α : Type} {pattern : List Char → Option α}

theorem leftmost_eq_none_iff {s : List Char} :
    leftmost pattern s = none ↔ ∀ rest, rest <:+ s → pattern rest = none := by
  induction s with
  | nil => simp [leftmost]
  | cons c cs ih =>
      rw [leftmost]
      cases here : pattern (c :: cs) with
      | some found =>
          refine iff_of_false nofun fun none => ?_
          rw [none _ (List.suffix_refl _)] at here
          cases here
      | none =>
          rw [ih]
          constructor
          · intro none rest suffix
            rcases List.suffix_cons_iff.mp suffix with rfl | later
            · exact here
            · exact none rest later
          · intro none rest suffix
            exact none rest (suffix.trans (List.suffix_cons c cs))

/-- A search finds the answer behind the shortest text that has an answer behind it. -/
theorem leftmost_eq_some_iff {s : List Char} {found : α} :
    leftmost pattern s = some found ↔
      ∃ before rest, before ++ rest = s ∧ pattern rest = some found ∧
        ∀ other more, other ++ more = s → pattern more ≠ none →
          before.length ≤ other.length := by
  induction s with
  | nil =>
      constructor
      · intro here
        exact ⟨[], [], rfl, here, fun other _ _ _ => Nat.zero_le other.length⟩
      · rintro ⟨before, rest, whole, here, _⟩
        obtain ⟨rfl, rfl⟩ := List.append_eq_nil_iff.mp whole
        exact here
  | cons c cs ih =>
      rw [leftmost]
      cases here : pattern (c :: cs) with
      | some first =>
          constructor
          · rintro ⟨⟩
            exact ⟨[], c :: cs, rfl, here, fun other _ _ _ => Nat.zero_le other.length⟩
          · rintro ⟨before, rest, whole, answer, shortest⟩
            have empty := shortest [] (c :: cs) rfl (here ▸ Option.some_ne_none first)
            obtain rfl := List.eq_nil_of_length_eq_zero (Nat.le_zero.mp empty)
            obtain rfl : rest = c :: cs := whole
            exact here.symm.trans answer
      | none =>
          rw [ih]
          constructor
          · rintro ⟨before, rest, rfl, answer, shortest⟩
            refine ⟨c :: before, rest, rfl, answer, fun other more whole answered => ?_⟩
            cases other with
            | nil =>
                obtain rfl : more = c :: (before ++ rest) := whole
                exact absurd here answered
            | cons d others =>
                have inside := shortest others more (List.cons_eq_cons.mp whole).2 answered
                exact Nat.succ_le_succ inside
          · rintro ⟨before, rest, whole, answer, shortest⟩
            cases before with
            | nil =>
                obtain rfl : rest = c :: cs := whole
                rw [here] at answer
                cases answer
            | cons d before =>
                refine ⟨before, rest, (List.cons_eq_cons.mp whole).2, answer,
                  fun other more inside answered => ?_⟩
                have longer := shortest (c :: other) more (congrArg (c :: ·) inside) answered
                exact Nat.le_of_succ_le_succ longer

/-- A search does not see the end of a text if the pattern does not. -/
theorem leftmost_concat {s : List Char} {c : Char}
    (unseen : ∀ t, pattern (t ++ [c]) = pattern t) :
    leftmost pattern (s ++ [c]) = leftmost pattern s := by
  induction s with
  | nil =>
      have same : pattern [c] = pattern [] := unseen []
      rw [List.nil_append, leftmost, leftmost, same]
      cases empty : pattern [] with
      | some found => rfl
      | none => exact empty
  | cons d ds ih =>
      rw [List.cons_append, leftmost, leftmost, ← List.cons_append, unseen, ih]

/-- A search gives the answer that the pattern has at some place if it has no other answer
at any place before. -/
theorem leftmost_append {before rest : List Char} {found : α}
    (earlier : ∀ s, s <:+ before → s ≠ [] →
      pattern (s ++ rest) = none ∨ pattern (s ++ rest) = some found)
    (here : leftmost pattern rest = some found) :
    leftmost pattern (before ++ rest) = some found := by
  induction before with
  | nil => exact here
  | cons c cs ih =>
      have onward := ih fun s suffix => earlier s (suffix.trans (List.suffix_cons c cs))
      rw [List.cons_append, leftmost]
      rcases earlier (c :: cs) (List.suffix_refl _) (List.cons_ne_nil c cs) with none | some
      · rw [List.cons_append] at none
        rw [none]
        exact onward
      · rw [List.cons_append] at some
        rw [some]

theorem leftmost_of_pattern {s : List Char} {found : α} (here : pattern s = some found) :
    leftmost pattern s = some found := by
  cases s with
  | nil => exact here
  | cons c cs => rw [leftmost, here]

/-- A suffix of two texts begins in the first or lies in the second. -/
theorem suffix_append_cases {s before rest : List Char} (suffix : s <:+ before ++ rest) :
    (∃ front, front <:+ before ∧ front ≠ [] ∧ s = front ++ rest) ∨ s <:+ rest := by
  obtain ⟨skipped, whole⟩ := suffix
  rcases List.append_eq_append_iff.mp whole with ⟨front, rfl, rfl⟩ | ⟨more, rfl, rfl⟩
  · by_cases empty : front = []
    · subst empty
      exact .inr (List.suffix_refl _)
    · exact .inl ⟨front, List.suffix_append skipped front, empty, rfl⟩
  · exact .inr (List.suffix_append more s)

theorem isSome_after?_iff {word s : List Char} : (after? word s).isSome = true ↔ word <+: s := by
  rw [Option.isSome_iff_exists]
  constructor
  · rintro ⟨rest, found⟩
    exact ⟨rest, (after?_eq_some_iff.mp found).symm⟩
  · rintro ⟨rest, rfl⟩
    exact ⟨rest, after?_eq_some_iff.mpr rfl⟩

@[simp]
theorem after?_append (word rest : List Char) : after? word (word ++ rest) = some rest :=
  after?_eq_some_iff.mpr rfl

theorem after?_eq_none_iff {word s : List Char} : after? word s = none ↔ ¬ word <+: s := by
  rw [← isSome_after?_iff, Option.not_isSome_iff_eq_none]

end NativeLayout.Text
