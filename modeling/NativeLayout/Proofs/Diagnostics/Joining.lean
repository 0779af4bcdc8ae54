/-
# Outputs put together

An output is read line by line, and so what two outputs tell with a line feed between them
is what the first tells and then what only the second tells. A compiler may therefore repeat
a message as often as it likes, in notes and in echoes of the source.

No message has a carriage return in it. It makes no difference whether one at the end of a
line is taken for a part of its ending, as it is before a line feed, or for a part of the
line, as it is at the end of an output.
-/

import NativeLayout.Proofs.Diagnostics.Names
import NativeLayout.Proofs.Lists
import NativeLayout.Proofs.Text.Endings
import NativeLayout.Proofs.Text.Search

namespace NativeLayout.Diagnostics

open NativeLayout.Text

/-! ## A carriage return at the end of a line -/

theorem after?_concat {word s : List Char} {c : Char} (absent : c ∉ word) :
    after? word (s ++ [c]) = (after? word s).map (· ++ [c]) := by
  cases found : after? word s with
  | none =>
      have differs := after?_eq_none_iff.mp found
      exact after?_eq_none_iff.mpr (mt (prefix_append_cons_of_not_mem absent).mp differs)
  | some rest =>
      obtain rfl := after?_eq_some_iff.mp found
      rw [List.append_assoc]
      exact after?_append word (rest ++ [c])

/-- A character that names have not does not change which name a text begins with. -/
theorem identifier?_concat {s : List Char} {c : Char} (outside : isNamePart c = false) :
    identifier? (s ++ [c]) = (identifier? s).map fun (name, rest) => (name, rest ++ [c]) := by
  cases found : identifier? s with
  | none =>
      have unstarted : ∀ d, isNameStart d = false → ∀ ds, identifier? (d :: ds) = none := by
        intro d other ds
        rw [identifier?, if_neg (ne_true_of_eq_false other)]
      cases s with
      | nil =>
          apply unstarted
          rw [isNamePart, Bool.or_eq_false_iff] at outside
          exact outside.1
      | cons d ds =>
          apply unstarted
          rw [identifier?] at found
          by_cases start : isNameStart d = true
          · rw [if_pos start] at found
            cases found
          · exact eq_false_of_ne_true start
  | some read =>
      obtain ⟨name, rest⟩ := read
      obtain ⟨valid, fresh, rfl⟩ := identifier?_eq_some_iff.mp found
      refine identifier?_eq_some_iff.mpr ⟨valid, ?_, List.append_assoc name rest [c]⟩
      cases rest with
      | nil =>
          rintro _ ⟨⟩
          exact outside
      | cons d ds => exact fresh

theorem fieldKind?_return (s : List Char) : fieldKind? (s ++ ['\r']) = fieldKind? s := by
  rw [fieldKind?, fieldKind?, after?_concat (by decide), after?_concat (by decide),
    Option.isSome_map, Option.isSome_map]

theorem fieldMessage?_return (s : List Char) : fieldMessage? (s ++ ['\r']) = fieldMessage? s := by
  rw [fieldMessage?, fieldMessage?, identifier?_concat rfl]
  cases identifier? s with
  | none => rfl
  | some read =>
      obtain ⟨owner, rest⟩ := read
      rw [Option.map_some]
      cases rest with
      | nil => rfl
      | cons d ds =>
          by_cases dot : d = '.'
          · subst dot
            simp only [List.cons_append, identifier?_concat (show isNamePart '\r' = false by rfl)]
            cases identifier? ds with
            | none => rfl
            | some read =>
                obtain ⟨field, tail⟩ := read
                simp only [Option.map_some, fieldKind?_return]
          · simp [dot]

theorem plainTotalMessage?_return (s : List Char) :
    plainTotalMessage? (s ++ ['\r']) = plainTotalMessage? s := by
  rw [plainTotalMessage?, plainTotalMessage?, identifier?_concat rfl]
  cases identifier? s with
  | none => rfl
  | some read =>
      obtain ⟨owner, rest⟩ := read
      rw [Option.map_some]
      simp only [after?_concat (show '\r' ∉ " does not have expected size".toList by decide),
        Option.isSome_map]

theorem totalMessage?_return (s : List Char) : totalMessage? (s ++ ['\r']) = totalMessage? s := by
  rw [totalMessage?, totalMessage?, after?_concat (by decide), plainTotalMessage?_return]
  cases after? "struct ".toList s with
  | none => rfl
  | some rest =>
      rw [Option.map_some, Option.bind_some, Option.bind_some, plainTotalMessage?_return]

/-- A carriage return at its end does not change what a line tells. -/
theorem ofLine?_return (line : List Char) : ofLine? (line ++ ['\r']) = ofLine? line := by
  rw [ofLine?, ofLine?, leftmost_concat fieldMessage?_return, leftmost_concat totalMessage?_return]

theorem ofLine?_chomp (line : String) : ofLine? (chomp line).toList = ofLine? line.toList := by
  by_cases ending : line.toList.getLast? = some '\r'
  · obtain ⟨front, split⟩ := List.getLast?_eq_some_iff.mp ending
    rw [chomp, if_pos ending, String.toList_ofList, split, List.dropLast_concat, ofLine?_return]
  · rw [chomp, if_neg ending]

/-! ## What lines tell, with repetitions -/

/-- What the lines of a text tell, one after the other. -/
def told (text : List Char) : List Mismatch := (splitLines text).filterMap ofLine?

theorem mismatchesIn_eq_told (text : List Char) :
    mismatchesIn text = (told text).foldl addNew [] := rfl

theorem told_line {line : List Char} (feedless : '\n' ∉ line) :
    told line = (ofLine? line).toList := by
  cases split : splitLines line with
  | nil =>
      obtain rfl := splitLines_eq_nil_iff.mp split
      rfl
  | cons l ls =>
      obtain ⟨_, ⟨rfl, rfl⟩ | ⟨back, rest, _, rfl, _⟩⟩ := splitLines_eq_cons split
      · rw [told, split, List.filterMap_cons, List.filterMap_nil]
        cases ofLine? line <;> rfl
      · exact absurd (List.mem_append_right _ List.mem_cons_self) feedless

theorem told_append_ended (s rest : List Char) :
    told (s ++ '\n' :: rest) = told (s ++ ['\n']) ++ told rest := by
  rw [told, splitLines_append_ended, List.filterMap_append]
  rfl

/-- The end of a text tells nothing, even if it makes a line of its own. -/
theorem told_ended (s : List Char) : told (s ++ ['\n']) = told s := by
  generalize split : splitLines s = ls
  induction ls generalizing s with
  | nil =>
      obtain rfl := splitLines_eq_nil_iff.mp split
      rfl
  | cons l ls ih =>
      obtain ⟨feedless, ⟨rfl, _⟩ | ⟨back, rest, _, rfl, rfl⟩⟩ := splitLines_eq_cons split
      · have spelt : (String.ofList s).toList = s := String.toList_ofList
        have ended : splitLines (s ++ ['\n']) = [(chomp (String.ofList s)).toList] := by
          have line := splitLines_append_line (spelt.symm ▸ feedless) []
          rw [spelt] at line
          exact line
        rw [told_line feedless, told, ended, List.filterMap_cons, ofLine?_chomp, spelt]
        cases ofLine? s <;> rfl
      · rw [List.append_assoc, List.cons_append, told_append_ended, ih rest rfl,
          ← told_append_ended]

/-- What is told by a text can be said of its parts before and behind a line feed. -/
theorem told_join (s rest : List Char) : told (s ++ '\n' :: rest) = told s ++ told rest := by
  rw [told_append_ended, told_ended]

/-! ## Line feeds with carriage returns -/

/-- A text with a carriage return put before each line feed. -/
def withReturns (s : List Char) : List Char :=
  s.flatMap fun c => if c = '\n' then ['\r', '\n'] else [c]

theorem withReturns_append (s t : List Char) :
    withReturns (s ++ t) = withReturns s ++ withReturns t := List.flatMap_append

theorem withReturns_of_feedless {s : List Char} (feedless : '\n' ∉ s) : withReturns s = s := by
  induction s with
  | nil => rfl
  | cons c cs ih =>
      rw [List.mem_cons, not_or] at feedless
      rw [withReturns, List.flatMap_cons, if_neg (Ne.symm feedless.1)]
      exact congrArg (c :: ·) (ih feedless.2)

theorem told_withReturns (s : List Char) : told (withReturns s) = told s := by
  generalize split : splitLines s = ls
  induction ls generalizing s with
  | nil =>
      obtain rfl := splitLines_eq_nil_iff.mp split
      rfl
  | cons l ls ih =>
      obtain ⟨feedless, ⟨rfl, _⟩ | ⟨back, rest, shape, rfl, rfl⟩⟩ := splitLines_eq_cons split
      · rw [withReturns_of_feedless feedless]
      · have front : '\n' ∉ l ++ back := by
          rcases shape with rfl | rfl <;> simp [feedless]
        have returned : withReturns (l ++ back ++ '\n' :: rest) =
            (l ++ back ++ ['\r']) ++ '\n' :: withReturns rest := by
          rw [withReturns_append, withReturns_of_feedless front, List.append_assoc _ ['\r']]
          rfl
        have longer : '\n' ∉ l ++ back ++ ['\r'] := by
          rw [List.mem_append, not_or]
          exact ⟨front, by decide⟩
        rw [returned, told_join, told_join, ih rest rfl, told_line front, told_line longer,
          ofLine?_return]

/-! ## Outputs -/

theorem toList_append_feed (first second : String) :
    (first ++ "\n" ++ second).toList = first.toList ++ '\n' :: second.toList := by
  rw [String.toList_append, String.toList_append, List.append_assoc]
  rfl

/-- What is read from an output of one line is what is read from the line. -/
theorem mismatches_line {line : String} (feedless : '\n' ∉ line.toList) :
    mismatches line = (ofLine? line.toList).toList := by
  rw [mismatches, mismatchesIn_eq_told, told_line feedless]
  cases ofLine? line.toList <;> rfl

/-- Of two outputs with a line feed between them the second adds what only it tells. -/
theorem mismatches_append_feed (first second : String) :
    mismatches (first ++ "\n" ++ second) =
      mismatches first ++ (mismatches second).filter fun m => decide (m ∉ mismatches first) := by
  simp only [mismatches, mismatchesIn_eq_told, toList_append_feed, told_join, List.foldl_append]
  exact foldl_addNew_eq_append _ _

/-- Reading turns texts behind each other into unions. Nothing is read twice from an output, and
of two outputs with a line feed between them the second adds, in order, what the first does not
tell. So a second output that tells nothing new changes nothing, whatever comes after it. Nor
does it change anything if a carriage return is put before each line feed. -/
theorem mismatches_join (first second : String) :
    (mismatches first).Nodup ∧
    mismatches (first ++ "\n" ++ second) =
      mismatches first ++ (mismatches second).filter (fun m => decide (m ∉ mismatches first)) ∧
    ((∀ m ∈ mismatches second, m ∈ mismatches first) →
      mismatches (first ++ "\n" ++ second) = mismatches first ∧
      ∀ rest, mismatches (first ++ "\n" ++ second ++ "\n" ++ rest) =
        mismatches (first ++ "\n" ++ rest)) ∧
    mismatches (String.ofList (withReturns first.toList)) = mismatches first := by
  refine ⟨nodup_foldl_addNew .nil, mismatches_append_feed first second, fun repeated => ?_, ?_⟩
  · have unchanged : mismatches (first ++ "\n" ++ second) = mismatches first := by
      have nothing : (mismatches second).filter (fun m => decide (m ∉ mismatches first)) = [] :=
        List.filter_eq_nil_iff.mpr fun m among => by simpa using repeated m among
      rw [mismatches_append_feed, nothing, List.append_nil]
    refine ⟨unchanged, fun rest => ?_⟩
    rw [mismatches_append_feed, unchanged, ← mismatches_append_feed]
  · rw [mismatches, String.toList_ofList, mismatchesIn_eq_told, told_withReturns]
    rfl

/-- A note repeats a message behind an empty line, with another ending than before. -/
theorem mismatches_join_noted :
    (∀ m ∈ mismatches "note: pair.b is not of expected size",
      m ∈ mismatches "pair.b is not of expected size\r\n") ∧
    mismatches ("pair.b is not of expected size\r\n" ++ "\n" ++
      "note: pair.b is not of expected size") = [⟨"pair", "b", .size⟩] := by
  have repeated : ∀ m ∈ mismatches "note: pair.b is not of expected size",
      m ∈ mismatches "pair.b is not of expected size\r\n" := by decide +kernel
  refine ⟨repeated, ((mismatches_join _ _).2.2.1 repeated).1.trans ?_⟩
  decide +kernel

end NativeLayout.Diagnostics
