/-
# Which message of a line is read

The search of a line goes by places and reads names as far as they go. What it finds is
said here of the ways to split the line: into a text in front, a message in which all names
are identifiers, and a text behind. The message with the shortest text in front is read,
and one about a total size only if there is none about a field. There is never a choice
left, so a line is read in one way.

A total size may be told of a name or of a name after the word for structures. The word
itself is a name too, and so the two can be mixed up only by their places.
-/

import NativeLayout.Proofs.Diagnostics.Echo
import NativeLayout.Proofs.Diagnostics.Joining

namespace NativeLayout.Diagnostics

open NativeLayout.Text

/-- A text of ASCII letters, digits and underscores that has a first character, which is no
digit. -/
structure Identifier (name : String) : Prop where
  filled : name ≠ ""
  worded : ∀ c ∈ name.toList, c.isAlphanum = true ∨ c = '_'
  opened : ∀ c ∈ name.toList.head?, c.isDigit = false

/-- The wordings about a field, each with what it says. -/
inductive FieldPhrase : MismatchKind → String → Prop
  | offset : FieldPhrase .offset " is not at expected offset"
  | size : FieldPhrase .size " is not of expected size"

/-- A line is split at the message that tells of a field. -/
def SplitsAtField (line before : String) (m : Mismatch) : Prop :=
  ∃ phrase after, FieldPhrase m.kind phrase ∧ Identifier m.owner ∧ Identifier m.field ∧
    line = before ++ m.owner ++ "." ++ m.field ++ phrase ++ after

/-- A line is split at the message that tells of a total size. -/
def SplitsAtTotal (line before : String) (m : Mismatch) : Prop :=
  ∃ word after, (word = "" ∨ word = "struct ") ∧ Identifier m.owner ∧ m = .totalSize m.owner ∧
    line = before ++ word ++ m.owner ++ " does not have expected size" ++ after

/-- A mismatch is told at the shortest text in front that any split has. -/
def AtShortest (splits : String → Mismatch → Prop) (m : Mismatch) : Prop :=
  ∃ before, splits before m ∧ ∀ other n, splits other n → before.length ≤ other.length

/-- A line is read as the first message about a field, or as the first one about a total size
if it has none about a field. -/
inductive Reads (line : String) : Mismatch → Prop
  | field {m : Mismatch} (first : AtShortest (SplitsAtField line) m) : Reads line m
  | total {m : Mismatch} (fieldless : ∀ before n, ¬ SplitsAtField line before n)
      (first : AtShortest (SplitsAtTotal line) m) : Reads line m

/-- The splits of a line are at the places where a pattern has an answer. -/
def Places (line : String) (splits : String → Mismatch → Prop)
    (pattern : List Char → Option Mismatch) : Prop :=
  ∀ before m, splits before m ↔
    ∃ rest, before.toList ++ rest = line.toList ∧ pattern rest = some m

variable {line before : String} {m : Mismatch}

/-! ## Names -/

theorem isNamePart_iff {c : Char} : isNamePart c = true ↔ c.isAlphanum = true ∨ c = '_' := by
  simp only [isNamePart, isNameStart, Char.isAlphanum, Bool.or_eq_true, beq_iff_eq]
  exact or_right_comm

/-- A name begins with what it can go on with, digits apart. -/
theorem isNameStart_iff {c : Char} :
    isNameStart c = true ↔ isNamePart c = true ∧ c.isDigit = false := by
  have apart : isNameStart c = true → c.isDigit = false := by
    rw [← Bool.not_eq_true]
    intro start digit
    have letter : (c.isUpper || c.isLower || c == '_') = true := start
    have low : c.val ≤ '9'.val := of_decide_eq_true (Bool.and_eq_true_iff.mp digit).2
    rw [Bool.or_eq_true, Bool.or_eq_true, beq_iff_eq] at letter
    rcases letter with (upper | lower) | rfl
    · have high : 'A'.val ≤ c.val := (of_decide_eq_true upper).1
      exact absurd (UInt32.le_trans high low) (by decide)
    · have high : 'a'.val ≤ c.val := of_decide_eq_true (Bool.and_eq_true_iff.mp lower).1
      exact absurd (UInt32.le_trans high low) (by decide)
    · exact absurd low (by decide)
  refine ⟨fun start => ⟨isNamePart_of_isNameStart start, apart start⟩, ?_⟩
  rintro ⟨part, other⟩
  rw [isNamePart, other, Bool.or_false] at part
  exact part

theorem identifier_iff {name : String} :
    Identifier name ↔ isIdentifier name.toList = true := by
  have filled : name ≠ "" ↔ name.toList ≠ [] := not_congr String.toList_eq_nil_iff.symm
  have fields : Identifier name ↔ name.toList ≠ [] ∧
      (∀ c ∈ name.toList, isNamePart c = true) ∧
        ∀ c ∈ name.toList.head?, c.isDigit = false := by
    simp only [isNamePart_iff, ← filled]
    exact ⟨fun valid => ⟨valid.filled, valid.worded, valid.opened⟩,
      fun valid => ⟨valid.1, valid.2.1, valid.2.2⟩⟩
  rw [fields]
  cases name.toList with
  | nil => exact iff_of_false (fun valid => valid.1 rfl) Bool.false_ne_true
  | cons c cs =>
      rw [isIdentifier, Bool.and_eq_true, List.all_eq_true, isNameStart_iff,
        List.forall_mem_cons]
      constructor
      · rintro ⟨_, ⟨first, others⟩, opened⟩
        exact ⟨⟨first, opened c rfl⟩, others⟩
      · rintro ⟨⟨first, opened⟩, others⟩
        refine ⟨List.cons_ne_nil c cs, ⟨first, others⟩, ?_⟩
        rintro _ ⟨⟩
        exact opened

/-! ## Splits and places -/

theorem fieldKind?_iff_phrase {tail : List Char} {kind : MismatchKind} :
    fieldKind? tail = some kind ↔ ∃ phrase, FieldPhrase kind phrase ∧ phrase.toList <+: tail := by
  rw [fieldKind?_eq_some_iff]
  constructor
  · rintro (⟨rfl, offset⟩ | ⟨rfl, size⟩)
    · exact ⟨_, .offset, offset⟩
    · exact ⟨_, .size, size⟩
  · rintro ⟨_, ⟨⟩ | ⟨⟩, begins⟩
    · exact .inl ⟨rfl, begins⟩
    · exact .inr ⟨rfl, begins⟩

theorem exists_blank_of_phrase {kind : MismatchKind} {phrase : String}
    (worded : FieldPhrase kind phrase) : ∃ rest, phrase.toList = ' ' :: rest := by
  cases worded with
  | offset => exact ⟨_, rfl⟩
  | size => exact ⟨_, rfl⟩

theorem split_field_iff {owner field phrase after : String} :
    line = before ++ owner ++ "." ++ field ++ phrase ++ after ↔
      before.toList ++ (owner.toList ++ '.' :: (field.toList ++ (phrase.toList ++ after.toList))) =
        line.toList := by
  rw [eq_comm, ← String.toList_inj]
  simp only [String.toList_append, List.append_assoc]
  rfl

theorem split_total_iff {word owner phrase after : String} :
    line = before ++ word ++ owner ++ phrase ++ after ↔
      before.toList ++ (word.toList ++ (owner.toList ++ (phrase.toList ++ after.toList))) =
        line.toList := by
  rw [eq_comm, ← String.toList_inj]
  simp only [String.toList_append, List.append_assoc]

/-- A line is split at a message about a field exactly where one can be read. -/
theorem places_field (line : String) : Places line (SplitsAtField line) fieldMessage? := by
  intro before m
  constructor
  · rintro ⟨phrase, after, worded, named, told, split⟩
    obtain ⟨spaced, shape⟩ := exists_blank_of_phrase worded
    have second : identifier? (m.field.toList ++ (phrase.toList ++ after.toList)) =
        some (m.field.toList, phrase.toList ++ after.toList) := by
      rw [shape, List.cons_append]
      exact identifier?_append (identifier_iff.mp told) rfl
    refine ⟨_, split_field_iff.mp split, fieldMessage?_eq_some_iff.mpr
      ⟨m.owner.toList, _, m.field.toList, _, m.kind,
        identifier?_append (identifier_iff.mp named) rfl, second,
        fieldKind?_iff_phrase.mpr ⟨phrase, worded, List.prefix_append _ _⟩, ?_⟩⟩
    rw [String.ofList_toList, String.ofList_toList]
  · rintro ⟨rest, whole, found⟩
    obtain ⟨owner, more, field, tail, kind, first, second, kinded, rfl⟩ :=
      fieldMessage?_eq_some_iff.mp found
    obtain ⟨named, _, rfl⟩ := identifier?_eq_some_iff.mp first
    obtain ⟨told, _, rfl⟩ := identifier?_eq_some_iff.mp second
    obtain ⟨phrase, worded, after, rfl⟩ := fieldKind?_iff_phrase.mp kinded
    refine ⟨phrase, String.ofList after, worded, identifier_iff.mpr ?_, identifier_iff.mpr ?_,
      split_field_iff.mpr ?_⟩
    · rw [String.toList_ofList]
      exact named
    · rw [String.toList_ofList]
      exact told
    · rw [String.toList_ofList, String.toList_ofList, String.toList_ofList]
      exact whole

/-- A line is split at a message about a total size exactly where one can be read. -/
theorem places_total (line : String) : Places line (SplitsAtTotal line) totalMessage? := by
  intro before m
  constructor
  · rintro ⟨word, after, tagged, named, total, split⟩
    refine ⟨_, split_total_iff.mp split, ?_⟩
    rcases tagged with rfl | rfl
    · rw [String.toList_empty, List.nil_append, totalMessage?_of_phrase (identifier_iff.mp named),
        String.ofList_toList, ← total]
    · rw [totalMessage?_of_tag (identifier_iff.mp named), String.ofList_toList, ← total]
  · rintro ⟨rest, whole, found⟩
    have plain {word : String} {tail : List Char} (tagged : word = "" ∨ word = "struct ")
        (front : before.toList ++ (word.toList ++ tail) = line.toList)
        (read : plainTotalMessage? tail = some m) : SplitsAtTotal line before m := by
      obtain ⟨owner, more, first, ⟨after, rfl⟩, rfl⟩ := plainTotalMessage?_eq_some_iff.mp read
      obtain ⟨named, _, rfl⟩ := identifier?_eq_some_iff.mp first
      have spelt : (String.ofList owner).toList = owner := String.toList_ofList
      have behind : (String.ofList after).toList = after := String.toList_ofList
      refine ⟨word, String.ofList after, tagged, identifier_iff.mpr ?_, rfl,
        split_total_iff.mpr ?_⟩
      · rw [Mismatch.totalSize, spelt]
        exact named
      · rw [Mismatch.totalSize, spelt, behind]
        exact front
    rw [totalMessage?, Option.or_eq_some_iff, Option.bind_eq_some_iff] at found
    rcases found with ⟨tail, follows, read⟩ | ⟨_, read⟩
    · obtain rfl := after?_eq_some_iff.mp follows
      exact plain (.inr rfl) whole read
    · exact plain (.inl rfl) whole read

namespace Places

variable {splits : String → Mismatch → Prop} {pattern : List Char → Option Mismatch}

/-- Wherever the pattern has an answer the line is split. -/
theorem split_at (places : Places line splits pattern) {front rest : List Char}
    (whole : front ++ rest = line.toList) (answer : pattern rest = some m) :
    splits (String.ofList front) m :=
  (places (String.ofList front) m).mpr ⟨rest, by rw [String.toList_ofList, whole], answer⟩

/-- A search finds what is told at the shortest text in front. -/
theorem leftmost_eq_some_iff (places : Places line splits pattern) :
    leftmost pattern line.toList = some m ↔ AtShortest splits m := by
  rw [Text.leftmost_eq_some_iff]
  constructor
  · rintro ⟨before, rest, whole, answer, shortest⟩
    refine ⟨String.ofList before, places.split_at whole answer, fun other n split => ?_⟩
    obtain ⟨more, inside, told⟩ := (places other n).mp split
    have least := shortest other.toList more inside (told ▸ Option.some_ne_none n)
    rw [String.length_ofList, ← String.length_toList]
    exact least
  · rintro ⟨before, split, shortest⟩
    obtain ⟨rest, whole, answer⟩ := (places before m).mp split
    refine ⟨before.toList, rest, whole, answer, fun other more inside answered => ?_⟩
    obtain ⟨n, told⟩ := Option.ne_none_iff_exists'.mp answered
    have least := shortest (String.ofList other) n (places.split_at inside told)
    rw [String.length_ofList, ← String.length_toList] at least
    exact least

/-- A search finds nothing exactly if there is no split. -/
theorem leftmost_eq_none_iff (places : Places line splits pattern) :
    leftmost pattern line.toList = none ↔ ∀ before n, ¬ splits before n := by
  rw [Text.leftmost_eq_none_iff]
  constructor
  · intro nowhere before n split
    obtain ⟨rest, whole, told⟩ := (places before n).mp split
    rw [nowhere rest ⟨before.toList, whole⟩] at told
    cases told
  · rintro unsplit rest ⟨before, whole⟩
    by_contra answered
    obtain ⟨n, told⟩ := Option.ne_none_iff_exists'.mp answered
    exact unsplit (String.ofList before) n (places.split_at whole told)

end Places

/-! ## Lines -/

/-- A line is read as the message that stands first. -/
theorem ofLine?_eq_some_iff_reads : ofLine? line.toList = some m ↔ Reads line m := by
  rw [ofLine?, Option.or_eq_some_iff, (places_field line).leftmost_eq_some_iff,
    (places_field line).leftmost_eq_none_iff, (places_total line).leftmost_eq_some_iff]
  constructor
  · rintro (first | ⟨fieldless, first⟩)
    · exact .field first
    · exact .total fieldless first
  · rintro (first | ⟨fieldless, first⟩)
    · exact .inl first
    · exact .inr ⟨fieldless, first⟩

/-- A line without a message is read as nothing. -/
theorem ofLine?_eq_none_iff_unsplit : ofLine? line.toList = none ↔
    ∀ before m, ¬ SplitsAtField line before m ∧ ¬ SplitsAtTotal line before m := by
  rw [ofLine?, Option.or_eq_none_iff, (places_field line).leftmost_eq_none_iff,
    (places_total line).leftmost_eq_none_iff]
  exact ⟨fun none before m => ⟨none.1 before m, none.2 before m⟩,
    fun unsplit => ⟨fun before m => (unsplit before m).1, fun before m => (unsplit before m).2⟩⟩

theorem Reads.named (read : Reads line m) :
    Identifier m.owner ∧ (Identifier m.field ∨ m = .totalSize m.owner) := by
  cases read with
  | field first =>
      obtain ⟨_, ⟨_, _, _, named, told, _⟩, _⟩ := first
      exact ⟨named, .inl told⟩
  | total _ first =>
      obtain ⟨_, ⟨_, _, _, named, total, _⟩, _⟩ := first
      exact ⟨named, .inr total⟩

/-- Every line is read as its splits say, in one way only: as the message about a field with the
shortest text in front, else as the message about a total size with the shortest text in front,
else as nothing. All names that are read are identifiers. An output of a single line tells what
the line is read as. -/
theorem line_read_first (line : String) :
    (∀ m, ofLine? line.toList = some m ↔ Reads line m) ∧
    (ofLine? line.toList = none ↔
      ∀ before m, ¬ SplitsAtField line before m ∧ ¬ SplitsAtTotal line before m) ∧
    (∀ m n, Reads line m → Reads line n → m = n) ∧
    (∀ m, Reads line m → Identifier m.owner ∧ (Identifier m.field ∨ m = .totalSize m.owner)) ∧
    ('\n' ∉ line.toList → mismatches line = (ofLine? line.toList).toList) := by
  refine ⟨fun m => ofLine?_eq_some_iff_reads, ofLine?_eq_none_iff_unsplit,
    fun m n first second => ?_, fun m read => read.named, mismatches_line⟩
  have found := ofLine?_eq_some_iff_reads.mpr first
  rw [ofLine?_eq_some_iff_reads.mpr second] at found
  exact (Option.some.inj found).symm

/-- In a chain of names the ones right before the wording are read, from the first character on
that a name can begin with. -/
theorem line_read_first_dotted :
    Reads "a.b.1c.d is not at expected offset" ⟨"c", "d", .offset⟩ ∧
    '\n' ∉ "a.b.1c.d is not at expected offset".toList ∧
    mismatches "a.b.1c.d is not at expected offset" = [⟨"c", "d", .offset⟩] := by
  have found : ofLine? "a.b.1c.d is not at expected offset".toList =
      some ⟨"c", "d", .offset⟩ := by decide +kernel
  have feedless : '\n' ∉ "a.b.1c.d is not at expected offset".toList := by decide
  obtain ⟨reads, _, _, _, alone⟩ := line_read_first "a.b.1c.d is not at expected offset"
  exact ⟨(reads _).mp found, feedless, (alone feedless).trans (congrArg Option.toList found)⟩

example : ofLine? "struct struct does not have expected size".toList =
    some (.totalSize "struct") := by decide +kernel

end NativeLayout.Diagnostics
