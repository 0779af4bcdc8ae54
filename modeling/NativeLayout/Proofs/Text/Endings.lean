/-
# Where the lines of a text end

A text can be cut behind any line feed, and then its lines are those of the two parts. So the
lines of a text that is made of texts are the lines of these, whatever is in them, and a line
that begins with some word can be found in the text itself: it stands at the beginning or
behind a line feed. Blanks at the end of a text do not matter to that.
-/

import Mathlib.Data.List.TakeWhile
import NativeLayout.Proofs.Text.Beginnings
import NativeLayout.Text.Blank

namespace NativeLayout.Text

theorem splitLines_eq_nil_iff {s : List Char} : splitLines s = [] ↔ s = [] := by
  constructor
  · intro none
    fun_cases splitLines s with
    | case1 => rfl
    | case2 cs =>
        rw [splitLines] at none
        cases none
    | case3 cs =>
        rw [splitLines] at none
        cases none
    | case4 c cs feed ending empty =>
        rw [splitLines, empty] at none
        · cases none
        · exact feed
        · exact ending
    | case5 c cs feed ending l ls split =>
        rw [splitLines, split] at none
        · cases none
        · exact feed
        · exact ending
  · rintro rfl
    rfl

/-- A carriage return before a line feed makes no difference to the lines behind it. -/
theorem splitLines_return (cs : List Char) :
    splitLines ('\r' :: '\n' :: cs) = splitLines ('\n' :: cs) := by
  rw [splitLines, splitLines]

/-- A text can be cut behind a line feed. -/
theorem splitLines_append_ended (s rest : List Char) :
    splitLines (s ++ '\n' :: rest) = splitLines (s ++ ['\n']) ++ splitLines rest := by
  induction s with
  | nil =>
      rw [List.nil_append, List.nil_append, splitLines, splitLines]
      rfl
  | cons c cs ih =>
      rw [List.cons_append, List.cons_append]
      by_cases feed : c = '\n'
      · rw [feed, splitLines, splitLines, ih, List.cons_append]
      · by_cases ending : c = '\r' ∧ (cs ++ ['\n']).head? = some '\n'
        · obtain ⟨rfl, next⟩ := ending
          cases cs with
          | nil =>
              rw [List.nil_append, List.nil_append, splitLines_return, splitLines_return]
              exact ih
          | cons d ds =>
              cases next
              rw [List.cons_append, List.cons_append, splitLines_return, splitLines_return]
              exact ih
        · have apart : ¬ (c = '\r' ∧ (cs ++ '\n' :: rest).head? = some '\n') := by
            cases cs <;> exact ending
          cases split : splitLines (cs ++ ['\n']) with
          | nil => simp [splitLines_eq_nil_iff] at split
          | cons l ls =>
              rw [split, List.cons_append] at ih
              rw [splitLines_cons_of_ne split feed ending, splitLines_cons_of_ne ih feed apart,
                List.cons_append]

/-- The lines of a text that is made of two lists of texts. -/
theorem lines_ofLines_append_lines (first second : List String) :
    lines (ofLines (first ++ second)) = lines (ofLines first) ++ lines (ofLines second) := by
  rw [lines, lines, lines, ← List.map_append]
  congr 1
  induction first with
  | nil => rfl
  | cons l rest ih =>
      rw [List.cons_append, toList_ofLines_cons, toList_ofLines_cons, splitLines_append_ended, ih,
        ← List.append_assoc, ← splitLines_append_ended]

/-- A text is its first line and nothing more, or its first line with an ending and the text of
the other lines. -/
theorem splitLines_eq_cons {s l : List Char} {ls : List (List Char)}
    (split : splitLines s = l :: ls) : '\n' ∉ l ∧ (s = l ∧ ls = [] ∨
      ∃ back rest, (back = [] ∨ back = ['\r']) ∧ s = l ++ back ++ '\n' :: rest ∧
        ls = splitLines rest) := by
  refine ⟨not_mem_of_mem_splitLines (split ▸ List.mem_cons_self), ?_⟩
  induction s using splitLines.induct generalizing l ls with
  | case1 => cases split
  | case2 cs _ =>
      rw [splitLines] at split
      cases split
      exact .inr ⟨[], cs, .inl rfl, rfl, rfl⟩
  | case3 cs _ =>
      rw [splitLines] at split
      cases split
      exact .inr ⟨['\r'], cs, .inr rfl, rfl, rfl⟩
  | case4 c cs feed ending none _ =>
      rw [splitLines, none] at split
      · cases split
        obtain rfl := splitLines_eq_nil_iff.mp none
        exact .inl ⟨rfl, rfl⟩
      · exact feed
      · exact ending
  | case5 c cs feed ending first others found ih =>
      rw [splitLines, found] at split
      · cases split
        rcases ih found with ⟨rfl, rfl⟩ | ⟨back, rest, shape, rfl, rfl⟩
        · exact .inl ⟨rfl, rfl⟩
        · exact .inr ⟨back, rest, shape, rfl, rfl⟩
      · exact feed
      · exact ending

/-- A text that does not end like a line has the same lines if it is ended. -/
theorem splitLines_ended {s : List Char} (filled : s ≠ [])
    (unended : ∀ c, s.getLast? = some c → c ≠ '\n' ∧ c ≠ '\r') :
    splitLines (s ++ ['\n']) = splitLines s := by
  generalize split : splitLines s = ls
  induction ls generalizing s with
  | nil => exact absurd (splitLines_eq_nil_iff.mp split) filled
  | cons l ls ih =>
      obtain ⟨feedless, ⟨rfl, rfl⟩ | ⟨back, rest, _, rfl, rfl⟩⟩ := splitLines_eq_cons split
      · exact splitLines_append_feed ⟨feedless, fun last => (unended '\r' last).2 rfl⟩
      · have more : rest ≠ [] := by
          rintro rfl
          exact (unended '\n' (by simp)).1 rfl
        have ended := ih more (fun c last => unended c (by simp [List.getLast?_cons, last])) rfl
        rw [List.append_assoc, List.cons_append, splitLines_append_ended, ended,
          ← splitLines_append_ended, split]

theorem infix_append_of_not_mem {c : Char} {front word rest : List Char} (absent : c ∉ front) :
    c :: word <:+: front ++ rest ↔ c :: word <:+: rest := by
  induction front with
  | nil => rfl
  | cons d ds ih =>
      rw [List.mem_cons, not_or] at absent
      rw [List.cons_append, List.infix_cons_iff, ih absent.2, List.cons_prefix_cons]
      simp [absent.1]

theorem prefix_append_cons_of_not_mem {c : Char} {word line rest : List Char} (absent : c ∉ word) :
    word <+: line ++ c :: rest ↔ word <+: line := by
  constructor
  · intro starts
    rcases List.prefix_or_prefix_of_prefix starts (List.prefix_append line (c :: rest)) with
      inside | ⟨more, rfl⟩
    · exact inside
    · cases more with
      | nil => simp
      | cons d ds =>
          rw [List.prefix_append_right_inj, List.cons_prefix_cons] at starts
          exact absurd (starts.1 ▸ List.mem_append_right line List.mem_cons_self) absent
  · exact fun starts => starts.trans (List.prefix_append _ _)

/-- A line of a text begins with a word exactly if the text does, or if the word stands behind a
line feed. -/
theorem exists_line_iff {word : List Char} (filled : word ≠ []) (noFeed : '\n' ∉ word)
    (noReturn : '\r' ∉ word) (s : List Char) :
    (∃ line ∈ splitLines s, word <+: line) ↔ word <+: s ∨ '\n' :: word <:+: s := by
  generalize split : splitLines s = ls
  induction ls generalizing s with
  | nil =>
      obtain rfl := splitLines_eq_nil_iff.mp split
      simp [filled]
  | cons l ls ih =>
      obtain ⟨feedless, ⟨rfl, rfl⟩ | ⟨back, rest, shape, rfl, rfl⟩⟩ := splitLines_eq_cons split
      · have nowhere : ¬ '\n' :: word <:+: s := fun inside =>
          feedless (inside.subset List.mem_cons_self)
        simp [nowhere]
      · have absent : '\n' ∉ l ++ back := by
          rcases shape with rfl | rfl <;> simp [feedless]
        have starts : word <+: l ++ back ++ '\n' :: rest ↔ word <+: l := by
          rw [prefix_append_cons_of_not_mem noFeed]
          rcases shape with rfl | rfl
          · rw [List.append_nil]
          · exact prefix_append_cons_of_not_mem noReturn
        simp only [List.mem_cons, exists_eq_or_imp, ih rest rfl, starts,
          infix_append_of_not_mem absent, List.infix_cons_iff, List.cons_prefix_cons, true_and]

/-- A character that is no blank cannot stand in the blanks at the end. -/
theorem prefix_append_blanks (front text : List Char) {blanks : List Char} {c : Char}
    (absent : c ∉ blanks) :
    front ++ [c] <+: text ++ blanks ↔ front ++ [c] <+: text := by
  constructor
  · intro starts
    rcases List.prefix_or_prefix_of_prefix starts (List.prefix_append text blanks) with
      inside | ⟨more, whole⟩
    · exact inside
    · rcases List.eq_nil_or_concat more with rfl | ⟨others, last, rfl⟩
      · rw [List.append_nil] at whole
        exact whole ▸ List.prefix_rfl
      · rw [List.concat_eq_append, ← List.append_assoc] at whole
        obtain ⟨rfl, same⟩ := List.append_inj' whole rfl
        rw [List.append_assoc, List.prefix_append_right_inj] at starts
        cases List.singleton_inj.mp same
        exact absurd (starts.subset (by simp)) absent
  · exact fun starts => starts.trans (List.prefix_append text blanks)

theorem infix_append_blanks (front text : List Char) {blanks : List Char} {c : Char}
    (absent : c ∉ blanks) :
    front ++ [c] <:+: text ++ blanks ↔ front ++ [c] <:+: text := by
  have behind (s : List Char) : front ++ [c] <:+: s ↔ ∃ before, before ++ front ++ [c] <+: s := by
    constructor
    · rintro ⟨before, after, whole⟩
      exact ⟨before, after, by simp only [← whole, List.append_assoc]⟩
    · rintro ⟨before, after, whole⟩
      exact ⟨before, after, by simp only [← whole, List.append_assoc]⟩
  rw [behind, behind]
  exact exists_congr fun before => prefix_append_blanks (before ++ front) text absent

/-- What is cut off the end of a text is blank, and what is left does not end in a blank. -/
theorem exists_blanks (s : List Char) :
    ∃ blanks, s = dropTrailingBlanks s ++ blanks ∧ ∀ c ∈ blanks, isBlank c = true := by
  refine ⟨(s.reverse.takeWhile isBlank).reverse, ?_, fun c among => ?_⟩
  · rw [dropTrailingBlanks, dropBlanks, ← List.reverse_append, List.takeWhile_append_dropWhile,
      List.reverse_reverse]
  · exact List.mem_takeWhile_imp (List.mem_reverse.mp among)

theorem isBlank_of_getLast? {s : List Char} {c : Char}
    (last : (dropTrailingBlanks s).getLast? = some c) : isBlank c = false := by
  rw [dropTrailingBlanks, dropBlanks, List.getLast?_reverse] at last
  have first := List.head?_dropWhile_not isBlank s.reverse
  rw [last] at first
  exact first

end NativeLayout.Text
