/-
# How the lines of a text begin

Lines that have no line feed in them are the lines of the text that they make, each but for
a carriage return at its end. How they begin is not changed by that, and so those that begin
with some word can be told from the text.

Of the text that follows nothing is assumed.
-/

import NativeLayout.Proofs.Text.Lines

namespace NativeLayout.Text

/-- A line without the carriage return that a reader takes for a part of its ending. -/
def chomp (line : String) : String :=
  if line.toList.getLast? = some '\r' then String.ofList line.toList.dropLast else line

/-- Whether a line begins with a word. -/
def begins (word line : String) : Bool := word.toList.isPrefixOf line.toList

/-- A line is read up to its ending. -/
theorem splitLines_append_line {line : String} (feedless : '\n' ∉ line.toList)
    (rest : List Char) :
    splitLines (line.toList ++ '\n' :: rest) = (chomp line).toList :: splitLines rest := by
  by_cases ending : line.toList.getLast? = some '\r'
  · obtain ⟨front, split⟩ := List.getLast?_eq_some_iff.mp ending
    rw [split, List.mem_append, not_or] at feedless
    rw [chomp, if_pos ending, String.toList_ofList, split, List.dropLast_concat,
      List.append_assoc]
    exact splitLines_append feedless.1 (by rw [List.singleton_append, splitLines])
      fun _ => by simp
  · rw [chomp, if_neg ending]
    exact splitLines_append_feed ⟨feedless, ending⟩

theorem lines_ofLines_append {first : List String} (feedless : ∀ l ∈ first, '\n' ∉ l.toList)
    (rest : List String) :
    lines (ofLines (first ++ rest)) = first.map chomp ++ lines (ofLines rest) := by
  induction first with
  | nil => rfl
  | cons l others ih =>
      have onward := ih fun other among => feedless other (List.mem_cons_of_mem l among)
      rw [lines, List.cons_append, toList_ofLines_cons,
        splitLines_append_line (feedless l List.mem_cons_self), List.map_cons,
        String.ofList_toList, List.map_cons, List.cons_append, ← onward]
      rfl

/-- No line of a text has a line feed in it. -/
theorem not_mem_of_mem_splitLines {text line : List Char} (among : line ∈ splitLines text) :
    '\n' ∉ line := by
  induction text using splitLines.induct generalizing line with
  | case1 => cases among
  | case2 cs ih =>
      rw [splitLines] at among
      rcases List.mem_cons.mp among with rfl | later
      · exact List.not_mem_nil
      · exact ih later
  | case3 cs ih =>
      rw [splitLines] at among
      rcases List.mem_cons.mp among with rfl | later
      · exact List.not_mem_nil
      · exact ih later
  | case4 c cs feed ending none =>
      rw [splitLines, none] at among
      · obtain rfl := List.mem_singleton.mp among
        simpa [eq_comm] using feed
      · exact feed
      · exact ending
  | case5 c cs feed ending l ls split ih =>
      rw [splitLines, split] at among
      · rcases List.mem_cons.mp among with rfl | later
        · have shorter : '\n' ∉ l := ih (split ▸ List.mem_cons_self)
          simp only [List.mem_cons, not_or]
          exact ⟨fun same => feed same.symm, shorter⟩
        · exact ih (split ▸ List.mem_cons_of_mem l later)
      · exact feed
      · exact ending

theorem begins_append (word back : String) : begins word (word ++ back) = true := by
  rw [begins, String.toList_append, List.isPrefixOf_iff_prefix]
  exact List.prefix_append word.toList back.toList

theorem begins_of_begins {short long line : String} (inside : begins short long = true)
    (starts : begins long line = true) : begins short line = true := by
  rw [begins, List.isPrefixOf_iff_prefix] at *
  exact inside.trans starts

/-- If neither of two texts begins with the other, it can be told at once which of them a line
begins with. -/
theorem begins_append_of_apart {word front : String}
    (apart : (begins word front || begins front word) = false) (back : String) :
    begins word (front ++ back) = false := by
  rw [Bool.or_eq_false_iff] at apart
  rw [← Bool.not_eq_true]
  intro starts
  rw [begins, String.toList_append, List.isPrefixOf_iff_prefix] at starts
  rcases List.prefix_or_prefix_of_prefix starts (List.prefix_append front.toList back.toList) with
    inside | inside
  · rw [begins, List.isPrefixOf_iff_prefix.mpr inside] at apart
    cases apart.1
  · rw [begins, begins, List.isPrefixOf_iff_prefix.mpr inside] at apart
    cases apart.2

/-- A carriage return at its end makes no difference to how a line begins. -/
theorem begins_chomp {word : String} (noReturn : '\r' ∉ word.toList) (line : String) :
    begins word (chomp line) = begins word line := by
  by_cases ending : line.toList.getLast? = some '\r'
  · obtain ⟨front, split⟩ := List.getLast?_eq_some_iff.mp ending
    rw [chomp, if_pos ending, begins, begins, String.toList_ofList, split, List.dropLast_concat,
      Bool.eq_iff_iff, List.isPrefixOf_iff_prefix, List.isPrefixOf_iff_prefix,
      List.prefix_concat_iff]
    constructor
    · exact .inr
    · rintro (same | shorter)
      · rw [same] at noReturn
        exact absurd (List.mem_append_right front List.mem_cons_self) noReturn
      · exact shorter
  · rw [chomp, if_neg ending]

/-- The lines of a text that begin with some word are those of the lines that make it. -/
theorem filter_begins_lines {ls : List String} (feedless : ∀ l ∈ ls, '\n' ∉ l.toList)
    {word : String} (noReturn : '\r' ∉ word.toList) :
    (lines (ofLines ls)).filter (begins word) = (ls.filter (begins word)).map chomp := by
  have whole : lines (ofLines ls) = ls.map chomp := by
    have same := lines_ofLines_append feedless []
    rw [List.append_nil] at same
    exact same.trans (List.append_nil _)
  have alike : begins word ∘ chomp = begins word := funext (begins_chomp noReturn)
  rw [whole, List.filter_map, alike]

end NativeLayout.Text
