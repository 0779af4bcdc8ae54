/-
# Messages read back from annotations

A message is escaped by three replacements one after the other: per cent signs first, then
carriage returns, then line feeds. Since signs come first, those that the codes begin with are
not escaped again, and a message that has the text of a code in it is not taken for one. Read
back, the codes are replaced in the other order, and all of the message is there again but its
carriage returns.
-/

import Mathlib.Data.Set.Function
import NativeLayout.Proofs.Lists
import NativeLayout.Proofs.Report.Lines
import NativeLayout.Proofs.Text.Replacement
import NativeLayout.Report.Annotations

namespace NativeLayout.Report

open Text

/-- One character of a message in which line feeds were read back and per cent signs were not. -/
def signChar (c : Char) : List Char :=
  if c = '%' then ['%', '2', '5'] else if c = '\r' then [] else [c]

/-- The text that a message amounts to: carriage returns do not count. -/
def returnless (message : String) : List Char := message.toList.filter (· ≠ '\r')

theorem toList_escaped (message : String) :
    (escapeMessage message).toList = message.toList.flatMap annotationChar :=
  String.toList_ofList

/-- A code is a sign and two more characters, or it has no sign in it. -/
theorem annotationChar_cases (c : Char) :
    annotationChar c = ['%', '2', '5'] ∨ annotationChar c = ['%', '0', 'A'] ∨
      '%' ∉ annotationChar c := by
  by_cases sign : c = '%'
  · exact .inl (if_pos sign)
  · by_cases back : c = '\r'
    · rw [back]
      exact .inr (.inr (by decide))
    · by_cases feed : c = '\n'
      · rw [feed]
        exact .inr (.inl (by decide))
      · rw [annotationChar, if_neg sign, if_neg back, if_neg feed, List.mem_singleton]
        exact .inr (.inr (Ne.symm sign))

/-- Escaping is three replacements in this order. -/
theorem toList_escaped_eq_replaceAll (message : String) :
    (escapeMessage message).toList =
      replaceAll ['\n'] ['%', '0', 'A']
        (replaceAll ['\r'] [] (replaceAll ['%'] ['%', '2', '5'] message.toList)) := by
  simp only [toList_escaped, replaceAll_singleton, List.flatMap_assoc]
  congr 1
  funext c
  by_cases sign : c = '%'
  · rw [sign]
    decide
  · by_cases back : c = '\r'
    · rw [back]
      decide
    · simp only [annotationChar, if_neg sign, if_neg back, List.flatMap_singleton]

/-- What stands behind a sign of an escaped message makes it a code. -/
theorem code_of_sign {s before after : List Char}
    (whole : s.flatMap annotationChar = before ++ '%' :: after) :
    ['2', '5'] <+: after ∨ ['0', 'A'] <+: after := by
  induction s generalizing before with
  | nil =>
      rw [List.flatMap_nil] at whole
      cases before <;> cases whole
  | cons c s ih =>
      rw [List.flatMap_cons] at whole
      -- The first sign of a code has the rest of it behind it, any other is in what follows.
      have behind {code : List Char} (signless : '%' ∉ code)
          (written : annotationChar c = '%' :: code) : code <+: after ∨
            ∃ inside, s.flatMap annotationChar = inside ++ '%' :: after := by
        rw [written, List.cons_append] at whole
        cases before with
        | nil => exact .inl ⟨_, (List.cons_eq_cons.mp whole).2⟩
        | cons d before =>
            exact .inr (exists_of_append_eq_append_cons signless (List.cons_eq_cons.mp whole).2)
      rcases annotationChar_cases c with written | written | signless
      · rcases behind (by decide) written with code | ⟨inside, later⟩
        · exact .inl code
        · exact ih later
      · rcases behind (by decide) written with code | ⟨inside, later⟩
        · exact .inr code
        · exact ih later
      · obtain ⟨inside, later⟩ := exists_of_append_eq_append_cons signless whole
        exact ih later

/-- Line feeds are read back first: the code of a sign does not begin like theirs. -/
theorem replaceAll_feeds (s : List Char) :
    replaceAll ['%', '0', 'A'] ['\n'] (s.flatMap annotationChar) = s.flatMap signChar := by
  refine replaceAll_flatMap (fun c s => ?_) s
  by_cases sign : c = '%'
  · have other : ¬ ['%', '0', 'A'] <+: '%' :: (['2', '5'] ++ s) := by
      simp [List.cons_prefix_cons]
    rw [annotationChar, if_pos sign, signChar, if_pos sign]
    exact (replaceAll_cons_of_apart other).trans
      (congrArg ('%' :: ·) (replaceAll_append_of_not_mem (by decide) s))
  · by_cases back : c = '\r'
    · rw [back]
      rfl
    · rw [signChar, if_neg sign, if_neg back]
      by_cases feed : c = '\n'
      · rw [feed]
        exact replaceAll_append (List.cons_ne_nil _ _) s
      · rw [annotationChar, if_neg sign, if_neg back, if_neg feed]
        exact replaceAll_append_of_not_mem (mt List.mem_singleton.mp (Ne.symm sign)) s

/-- Signs are read back once there are no other codes. -/
theorem replaceAll_signs (s : List Char) :
    replaceAll ['%', '2', '5'] ['%'] (s.flatMap signChar) = s.filter (· ≠ '\r') := by
  rw [← List.flatMap_singleton' (s.filter _), flatMap_filter]
  refine replaceAll_flatMap (fun c s => ?_) s
  by_cases sign : c = '%'
  · rw [sign]
    exact replaceAll_append (List.cons_ne_nil _ _) s
  · rw [signChar, if_neg sign]
    by_cases back : c = '\r'
    · rw [back]
      rfl
    · rw [if_neg back, if_pos (decide_eq_true back)]
      exact replaceAll_append_of_not_mem (mt List.mem_singleton.mp (Ne.symm sign)) s

theorem replaceAll_escaped (message : String) :
    replaceAll ['%', '2', '5'] ['%']
      (replaceAll ['%', '0', 'A'] ['\n'] (escapeMessage message).toList) =
        returnless message := by
  rw [toList_escaped, replaceAll_feeds, replaceAll_signs, returnless]

/-- Carriage returns leave no trace in an annotation. -/
theorem flatMap_returnless (message : String) :
    (returnless message).flatMap annotationChar = (escapeMessage message).toList := by
  rw [returnless, flatMap_filter, toList_escaped]
  congr 1
  funext c
  by_cases back : c = '\r'
  · rw [back]
    rfl
  · rw [if_pos (decide_eq_true back)]

theorem escapeMessage_eq_iff {message other : String} :
    escapeMessage message = escapeMessage other ↔ returnless message = returnless other := by
  constructor
  · intro same
    rw [← replaceAll_escaped, same, replaceAll_escaped]
  · intro same
    apply String.toList_inj.mp
    rw [← flatMap_returnless, same, flatMap_returnless]

theorem returnless_eq_toList {message : String} (clean : '\r' ∉ message.toList) :
    returnless message = message.toList :=
  List.filter_eq_self.mpr fun _ among => decide_eq_true fun back => clean (back ▸ among)

/-- A message can be read back from its annotation. It is written by three replacements one after
the other. It has no characters in it that end a line, and each sign in it begins one of the two
codes. Replacing the codes in the other order gives the message without its carriage returns. So
two messages are written in the same way exactly if they differ in these only, and no two messages
are if they have none. -/
theorem escaped_reads_back :
    (∀ message : String,
      let escaped := (escapeMessage message).toList
      escaped = replaceAll ['\n'] ['%', '0', 'A']
        (replaceAll ['\r'] [] (replaceAll ['%'] ['%', '2', '5'] message.toList)) ∧
      '\n' ∉ escaped ∧ '\r' ∉ escaped ∧
      (∀ before after, escaped = before ++ '%' :: after →
        ['2', '5'] <+: after ∨ ['0', 'A'] <+: after) ∧
      replaceAll ['%', '2', '5'] ['%'] (replaceAll ['%', '0', 'A'] ['\n'] escaped) =
        returnless message) ∧
    (∀ message other : String, escapeMessage message = escapeMessage other ↔
      returnless message = returnless other) ∧
    Set.InjOn escapeMessage { message | '\r' ∉ message.toList } := by
  refine ⟨fun message => ?_, fun message other => escapeMessage_eq_iff, ?_⟩
  · refine ⟨toList_escaped_eq_replaceAll message, not_mem_escaped (.inl rfl) message,
      not_mem_escaped (.inr rfl) message, fun before after whole => ?_,
      replaceAll_escaped message⟩
    rw [toList_escaped] at whole
    exact code_of_sign whole
  · intro message clean other alsoClean same
    have texts := escapeMessage_eq_iff.mp same
    rw [returnless_eq_toList clean, returnless_eq_toList alsoClean] at texts
    exact String.toList_inj.mp texts

end NativeLayout.Report
