/-
# What failed assertions are attributed to

The messages of a descriptor name its structure and its fields as they are given, and
nothing makes these names identifiers. Here an output has only such messages, one in a
line. A message about identifiers is read as what it was written for. Any other message is
read as something else exactly if a message about identifiers stands somewhere in it, as
one does behind the first dot of a nested designator.

Nothing is said of outputs with other lines.
-/

import NativeLayout.Proofs.Assertion.Reading
import NativeLayout.Proofs.Diagnostics.Output
import NativeLayout.Proofs.Diagnostics.Silence

namespace NativeLayout

open Text Diagnostics

namespace Diagnostics

/-- What is read from an output is what is read from its lines. -/
theorem mem_mismatches_iff {output : String} {m : Mismatch} :
    m ∈ mismatches output ↔ ∃ line ∈ lines output, ofLine? line.toList = some m := by
  rw [mismatches, mismatchesIn, mem_foldl_addNew, List.mem_filterMap]
  constructor
  · rintro (⟨⟨⟩⟩ | ⟨line, among, read⟩)
    refine ⟨String.ofList line, List.mem_map_of_mem among, ?_⟩
    rw [String.toList_ofList]
    exact read
  · rintro ⟨_, listed, read⟩
    obtain ⟨line, among, rfl⟩ := List.mem_map.mp listed
    rw [String.toList_ofList] at read
    exact .inr ⟨line, among, read⟩

/-- A text without blanks adds nothing that begins with a blank to the text behind it. -/
theorem infix_of_infix_append {s t wording : List Char} (blankless : ' ' ∉ s)
    (spaced : wording.head? = some ' ') (within : wording <:+: s ++ t) : wording <:+: t := by
  obtain ⟨rest, begins, suffix⟩ := List.infix_iff_prefix_suffix.mp within
  rcases suffix_append_cases suffix with ⟨front, inside, filled, rfl⟩ | later
  · obtain ⟨c, cs, rfl⟩ := List.exists_cons_of_ne_nil filled
    obtain ⟨more, rfl⟩ := List.head?_eq_some_iff.mp spaced
    obtain ⟨rfl, _⟩ := List.cons_prefix_cons.mp begins
    exact absurd (inside.subset List.mem_cons_self) blankless
  · exact begins.isInfix.trans later.isInfix

/-- A field message that stands in a message with one dot and no blank in front of its phrase is
about the same field. -/
theorem field_eq_of_infix {owner field wording other name phrase : List Char}
    (before : '.' ∉ owner) (behind : '.' ∉ field ++ wording) (blankless : ' ' ∉ field)
    (named : ' ' ∉ name) (ending : wording.head? = some ' ') (close : phrase.head? = some ' ')
    (within : other ++ '.' :: (name ++ phrase) <:+: owner ++ '.' :: (field ++ wording)) :
    name = field := by
  obtain ⟨front, back, whole⟩ := within
  have shape : owner ++ '.' :: (field ++ wording) =
      (front ++ other) ++ '.' :: (name ++ (phrase ++ back)) := by simp [← whole]
  have same := ((List.append_cons_inj_of_notMem before behind).mp shape).2.2
  have follows : (phrase ++ back).head? = some ' ' := by
    rw [List.head?_append, close, Option.some_or]
  -- Both names end at the first blank.
  have first := StaticAssertion.upTo_append blankless ending
  have second := StaticAssertion.upTo_append named follows
  rw [same, second] at first
  exact congrArg Prod.fst first

/-- If a structure has an identifier for its name, then a message about a field with another name
tells of nothing unless that name has a dot or a blank. -/
theorem not_tells_of_field {owner field phrase : String}
    (valid : isIdentifier owner.toList = true) (unreadable : ¬ isIdentifier field.toList = true)
    (dotless : '.' ∉ field.toList) (blankless : ' ' ∉ field.toList)
    (plain : '.' ∉ phrase.toList) (spaced : phrase.toList.head? = some ' ')
    (other : ¬ " does not have expected size".toList <:+: phrase.toList) :
    ¬ Tells (owner ++ "." ++ field ++ phrase).toList := by
  rw [toList_fieldMessage]
  rintro ⟨subject, demand, ⟨_, spellable⟩, within⟩
  have before : '.' ∉ owner.toList := not_mem_of_isIdentifier valid rfl
  have behind : '.' ∉ field.toList ++ phrase.toList := by
    rw [List.mem_append, not_or]
    exact ⟨dotless, plain⟩
  have absent {name ending : String} (named : isIdentifier name.toList = true)
      (close : ending.toList.head? = some ' ')
      (inside : (subject ++ "." ++ name ++ ending).toList <:+:
        owner.toList ++ '.' :: (field.toList ++ phrase.toList)) : False := by
    rw [toList_fieldMessage] at inside
    have clear : ' ' ∉ name.toList := not_mem_of_isIdentifier named rfl
    apply unreadable
    rw [← field_eq_of_infix before behind blankless clear spaced close inside]
    exact named
  cases demand with
  | offset name value => exact absent spellable (by decide) within
  | size name value => exact absent spellable (by decide) within
  | totalSize value =>
      rw [Demand.message, Mismatch.totalSizeMessage, String.toList_append] at within
      have phrased := (List.suffix_append subject.toList _).isInfix.trans within
      have clear : ' ' ∉ owner.toList ++ '.' :: field.toList := by
        rw [List.mem_append, List.mem_cons, not_or, not_or]
        exact ⟨not_mem_of_isIdentifier valid rfl, by decide, blankless⟩
      apply other
      apply infix_of_infix_append clear rfl
      rw [List.append_assoc]
      exact phrased

end Diagnostics

namespace Descriptor

variable {d : Descriptor} {skip : SkipList} {demand : Demand}

/-- A mismatch names the structure of a descriptor, and one of its compared fields or its total
size. -/
def Compares (d : Descriptor) (m : Mismatch) : Prop :=
  m.owner = d.name ∧ ((∃ raw, (m.field, raw) ∈ d.checkedFields) ∨ m = .totalSize d.name)

theorem compares_of_mem_demands (among : demand ∈ d.demands skip) :
    d.Compares (demand.mismatch d.name) := by
  rcases mem_demands_iff.mp among with ⟨field, raw, compared, rfl | ⟨_, rfl⟩⟩ | rfl
  · exact ⟨rfl, .inl ⟨raw, compared⟩⟩
  · exact ⟨rfl, .inl ⟨raw, compared⟩⟩
  · exact ⟨rfl, .inr rfl⟩

/-- A message about names without line feeds is a line. -/
theorem unbroken_message (clear : '\n' ∉ d.name.toList)
    (clearFields : ∀ field raw, (field, raw) ∈ d.checkedFields → '\n' ∉ field.toList)
    (among : demand ∈ d.demands skip) : Unbroken (demand.message d.name d.nativeName).toList := by
  have labelled (phrase : String) (ending : Unbroken phrase.toList) (filled : phrase.toList ≠ [])
      {field : String} {raw : RawField} (compared : (field, raw) ∈ d.checkedFields) :
      Unbroken (d.name ++ "." ++ field ++ phrase).toList :=
    Unbroken.append (not_mem_append (not_mem_append clear (by decide))
      (clearFields field raw compared)) ending filled
  rcases mem_demands_iff.mp among with ⟨field, raw, compared, rfl | ⟨_, rfl⟩⟩ | rfl
  · exact labelled " is not at expected offset" (by decide) (by decide) compared
  · exact labelled " is not of expected size" (by decide) (by decide) compared
  · have spelt : '\n' ∉ d.nativeName.toList := by
      rw [nativeName]
      cases d.style with
      | typedef => exact clear
      | tag => exact not_mem_append (by decide) clear
    exact Unbroken.append spelt (by decide) (by decide)

/-- If the name of a structure is an identifier and the names of its fields have no dots and no
blanks, then a message about other names tells of nothing. -/
theorem not_tells_of_simple (valid : isIdentifier d.name.toList = true)
    (simple : ∀ field raw, (field, raw) ∈ d.checkedFields → '.' ∉ field.toList ∧ ' ' ∉ field.toList)
    (among : demand ∈ d.demands skip) (unreadable : ¬ demand.Readable d.name) :
    ¬ Tells (demand.message d.name d.nativeName).toList := by
  rcases mem_demands_iff.mp among with ⟨field, raw, compared, rfl | ⟨_, rfl⟩⟩ | rfl
  · obtain ⟨dotless, blankless⟩ := simple field raw compared
    rw [Demand.message, Mismatch.offsetMessage]
    exact not_tells_of_field valid (fun named => unreadable ⟨valid, named⟩) dotless blankless
      (by decide) (by decide) (by decide)
  · obtain ⟨dotless, blankless⟩ := simple field raw compared
    rw [Demand.message, Mismatch.sizeMessage]
    exact not_tells_of_field valid (fun named => unreadable ⟨valid, named⟩) dotless blankless
      (by decide) (by decide) (by decide)
  · exact absurd ⟨valid, trivial⟩ unreadable

/-- If only a message about identifiers tells of something, then a message is read exactly as the
mismatch of its demand, and only if it is about identifiers. -/
theorem ofLine?_message_iff {m : Mismatch}
    (silent : ¬ demand.Readable d.name → ¬ Tells (demand.message d.name d.nativeName).toList) :
    ofLine? (demand.message d.name d.nativeName).toList = some m ↔
      demand.Readable d.name ∧ demand.mismatch d.name = m := by
  by_cases readable : demand.Readable d.name
  · have own := Demand.ofLine?_message d.style readable.1 readable.2
    rw [nativeName, own, Option.some.injEq, eq_true readable, true_and]
  · rw [ofLine?_eq_none_iff.mpr (silent readable), eq_false readable, false_and]
    exact iff_of_false nofun id

/-- A message that tells of something is read as something if it is all that there is to read. -/
theorem exists_mismatch_of_tells {message : String} (whole : Unbroken message.toList)
    (tells : Tells message.toList) : ∃ m, m ∈ mismatches (ofLines [message]) := by
  have read : ofLine? message.toList ≠ none := fun none => ofLine?_eq_none_iff.mp none tells
  obtain ⟨m, read⟩ := Option.ne_none_iff_exists'.mp read
  refine ⟨m, mem_mismatches_iff.mpr ⟨message, ?_, read⟩⟩
  rw [lines_ofLines (List.forall_mem_singleton.mpr whole)]
  exact List.mem_singleton_self message

/-- What the messages of assertions are attributed to. Take a descriptor without line feeds in
its names, and outputs whose lines are messages of its assertions, in any order. Everything that
is read from such outputs names the structure and something that was compared, and was written
for it in a message about identifiers, exactly if the other messages of the descriptor have no
message about identifiers in them. This is so if the name of the structure is an identifier and
no name of a field has a dot or a blank. -/
theorem attributed_iff (d : Descriptor) (skip : SkipList) (clear : '\n' ∉ d.name.toList)
    (clearFields : ∀ field raw, (field, raw) ∈ d.checkedFields → '\n' ∉ field.toList) :
    let Silent := ∀ demand ∈ d.demands skip, ¬ demand.Readable d.name →
      ¬ Tells (demand.message d.name d.nativeName).toList
    ((∀ told output, told ⊆ d.demands skip →
        lines output = told.map (Demand.message d.name d.nativeName) →
        ∀ m ∈ mismatches output, d.Compares m ∧
          ∃ demand ∈ told, demand.Readable d.name ∧ demand.mismatch d.name = m) ↔ Silent) ∧
    (isIdentifier d.name.toList = true → (∀ field raw, (field, raw) ∈ d.checkedFields →
      '.' ∉ field.toList ∧ ' ' ∉ field.toList) → Silent) := by
  intro Silent
  refine ⟨⟨?_, ?_⟩, fun valid simple demand among => not_tells_of_simple valid simple among⟩
  · intro attributed demand among unreadable tells
    have whole := unbroken_message clear clearFields among
    obtain ⟨m, found⟩ := exists_mismatch_of_tells whole tells
    have alone := lines_ofLines (List.forall_mem_singleton.mpr whole)
    obtain ⟨_, other, told, readable, _⟩ :=
      attributed [demand] _ (List.cons_subset.mpr ⟨among, List.nil_subset _⟩) alone m found
    obtain rfl := List.mem_singleton.mp told
    exact unreadable readable
  · intro silent told output inside written m found
    obtain ⟨line, among, read⟩ := mem_mismatches_iff.mp found
    rw [written] at among
    obtain ⟨demand, repeated, rfl⟩ := List.mem_map.mp among
    obtain ⟨readable, rfl⟩ := (ofLine?_message_iff (silent demand (inside repeated))).mp read
    exact ⟨compares_of_mem_demands (inside repeated), demand, repeated, readable, rfl⟩

/-- A structure with a field whose name is no identifier. -/
def foreign : Descriptor where
  name := "packet"
  style := .tag
  fields := [{ name := "_größe", offset := 0, element := ⟨"c_int", 4⟩ }]
  size := 4

theorem attributed_iff_foreign :
    ofFields "packet" foreign.fields 4 ∅ = .ok foreign ∧ '\n' ∉ foreign.name.toList ∧
      (∀ field raw, (field, raw) ∈ foreign.checkedFields → '\n' ∉ field.toList) ∧
      ∀ output, lines output = (foreign.demands ∅).map
          (Demand.message foreign.name foreign.nativeName) →
        ∀ m ∈ mismatches output, foreign.Compares m := by
  have clear : '\n' ∉ foreign.name.toList := by decide
  have plain : ∀ pair ∈ foreign.checkedFields, '\n' ∉ pair.1.toList ∧
      '.' ∉ pair.1.toList ∧ ' ' ∉ pair.1.toList := by decide +kernel
  have clearFields : ∀ field raw, (field, raw) ∈ foreign.checkedFields → '\n' ∉ field.toList :=
    fun field raw compared => (plain (field, raw) compared).1
  obtain ⟨attributed, simple⟩ := attributed_iff foreign ∅ clear clearFields
  have silent := simple (by decide) fun field raw compared => (plain (field, raw) compared).2
  refine ⟨rfl, clear, clearFields, fun output written m found => ?_⟩
  exact (attributed.mpr silent _ output (List.Subset.refl _) written m found).1

/-- A structure with a field that is a member of a member. -/
def nested : Descriptor where
  name := "pkt"
  style := .tag
  fields := [{ name := "_in.addr", offset := 4, element := ⟨"c_int", 4⟩ }]
  size := 8

/-- The message about the nested member is read as one about another structure. -/
theorem not_compares_nested :
    ofFields "pkt" nested.fields 8 ∅ = .ok nested ∧
      lines "pkt.in.addr is not at expected offset\n" =
        [Demand.message nested.name nested.nativeName (.offset "in.addr" 4)] ∧
      .offset "in.addr" 4 ∈ nested.demands ∅ ∧
      ∃ m ∈ mismatches "pkt.in.addr is not at expected offset\n", ¬ nested.Compares m := by
  refine ⟨rfl, by decide +kernel, by decide +kernel, ⟨"in", "addr", .offset⟩, ?_, ?_⟩
  · decide +kernel
  · rintro ⟨owner, _⟩
    exact absurd owner (by decide)

end Descriptor

end NativeLayout
