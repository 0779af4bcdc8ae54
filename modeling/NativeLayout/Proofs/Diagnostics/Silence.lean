/-
# Lines that tell of nothing

A line is read as nothing exactly if no message about identifiers stands anywhere in it.
This says of the reading of lines, which searches by places and reads names as far as they
go, what it finds in terms of messages alone. It does not say which of several messages in
one line is read.
-/

import NativeLayout.Proofs.Assertion.Demands
import NativeLayout.Proofs.Diagnostics.Echo

namespace NativeLayout

open Diagnostics Text

/-- All names in the message of a demand are identifiers. -/
def Demand.Readable (owner : String) (demand : Demand) : Prop :=
  isIdentifier owner.toList = true ∧ demand.Spellable

namespace Diagnostics

/-- Somewhere in a line stands a message in which all names are identifiers. -/
def Tells (line : List Char) : Prop :=
  ∃ (owner : String) (demand : Demand), demand.Readable owner ∧
    (demand.message owner owner).toList <:+: line

variable {line s : List Char}

theorem toList_fieldMessage (owner field phrase : String) :
    (owner ++ "." ++ field ++ phrase).toList =
      owner.toList ++ '.' :: (field.toList ++ phrase.toList) := by
  simp only [String.toList_append, List.append_assoc]
  rfl

/-- A field message can be read wherever one about identifiers begins. -/
theorem fieldMessage?_of_begins {owner field wording : List Char}
    (validOwner : isIdentifier owner = true) (validField : isIdentifier field = true)
    {kind : MismatchKind} (told : ∀ after, fieldKind? (' ' :: wording ++ after) = some kind)
    (begins : owner ++ '.' :: (field ++ ' ' :: wording) <+: s) :
    fieldMessage? s = some ⟨String.ofList owner, String.ofList field, kind⟩ := by
  obtain ⟨after, rfl⟩ := begins
  have shape : owner ++ '.' :: (field ++ ' ' :: wording) ++ after =
      owner ++ '.' :: (field ++ ' ' :: (wording ++ after)) := by simp
  rw [shape]
  exact fieldMessage?_eq_some_iff.mpr ⟨owner, _, field, _, kind, identifier?_append validOwner rfl,
    identifier?_append validField rfl, told after, rfl⟩

/-- Where a field message can be read, one about identifiers begins. -/
theorem exists_demand_of_fieldMessage? {m : Mismatch} (found : fieldMessage? s = some m) :
    ∃ (owner : String) (demand : Demand), demand.Readable owner ∧
      (demand.message owner owner).toList <+: s := by
  obtain ⟨owner, rest, field, tail, kind, first, second, told, _⟩ :=
    fieldMessage?_eq_some_iff.mp found
  obtain ⟨validOwner, _, rfl⟩ := identifier?_eq_some_iff.mp first
  obtain ⟨validField, _, rfl⟩ := identifier?_eq_some_iff.mp second
  have begins {phrase : String} (wording : phrase.toList <+: tail) :
      (String.ofList owner ++ "." ++ String.ofList field ++ phrase).toList <+:
        owner ++ '.' :: (field ++ tail) := by
    rw [toList_fieldMessage, String.toList_ofList, String.toList_ofList]
    apply (List.prefix_append_right_inj owner).mpr
    apply List.cons_prefix_cons.mpr
    exact ⟨rfl, (List.prefix_append_right_inj field).mpr wording⟩
  rcases prefix_of_fieldKind? told with offset | size
  · refine ⟨String.ofList owner, .offset (String.ofList field) 0, ⟨?_, ?_⟩, begins offset⟩
    · rw [String.toList_ofList]
      exact validOwner
    · rw [Demand.Spellable, String.toList_ofList]
      exact validField
  · refine ⟨String.ofList owner, .size (String.ofList field) 0, ⟨?_, ?_⟩, begins size⟩
    · rw [String.toList_ofList]
      exact validOwner
    · rw [Demand.Spellable, String.toList_ofList]
      exact validField

/-- Where a message about a total size can be read, one about an identifier begins. -/
theorem exists_demand_of_plainTotalMessage? {m : Mismatch} (found : plainTotalMessage? s = some m) :
    ∃ (owner : String) (demand : Demand), demand.Readable owner ∧
      (demand.message owner owner).toList <+: s := by
  obtain ⟨owner, rest, first, wording, _⟩ := plainTotalMessage?_eq_some_iff.mp found
  obtain ⟨valid, _, rfl⟩ := identifier?_eq_some_iff.mp first
  refine ⟨String.ofList owner, .totalSize 0, ⟨?_, trivial⟩, ?_⟩
  · rw [String.toList_ofList]
    exact valid
  · rw [Demand.message, Mismatch.totalSizeMessage, String.toList_append, String.toList_ofList]
    exact (List.prefix_append_right_inj owner).mpr wording

/-- Where the message of a demand about identifiers begins, a message can be read. -/
theorem message?_of_begins {owner : String} {demand : Demand} (readable : demand.Readable owner)
    (begins : (demand.message owner owner).toList <+: s) :
    fieldMessage? s ≠ none ∨ totalMessage? s ≠ none := by
  obtain ⟨valid, spellable⟩ := readable
  cases demand with
  | offset field value =>
      rw [Demand.message, Mismatch.offsetMessage, toList_fieldMessage] at begins
      left
      rw [fieldMessage?_of_begins valid spellable fieldKind?_offset begins]
      exact Option.some_ne_none _
  | size field value =>
      rw [Demand.message, Mismatch.sizeMessage, toList_fieldMessage] at begins
      left
      rw [fieldMessage?_of_begins valid spellable fieldKind?_size begins]
      exact Option.some_ne_none _
  | totalSize value =>
      obtain ⟨after, rfl⟩ := begins
      right
      rw [Demand.message, Mismatch.totalSizeMessage, String.toList_append, List.append_assoc,
        totalMessage?_of_phrase valid]
      exact Option.some_ne_none _

/-- A line is read as nothing exactly if no message about identifiers stands in it. -/
theorem ofLine?_eq_none_iff : ofLine? line = none ↔ ¬ Tells line := by
  rw [ofLine?, Option.or_eq_none_iff, leftmost_eq_none_iff, leftmost_eq_none_iff]
  constructor
  · rintro ⟨fields, totals⟩ ⟨owner, demand, readable, within⟩
    obtain ⟨rest, begins, suffix⟩ := List.infix_iff_prefix_suffix.mp within
    rcases message?_of_begins readable begins with field | total
    · exact field (fields rest suffix)
    · exact total (totals rest suffix)
  · intro silent
    have unread {rest : List Char} (suffix : rest <:+ line) : plainTotalMessage? rest = none := by
      by_contra found
      obtain ⟨m, found⟩ := Option.ne_none_iff_exists'.mp found
      obtain ⟨owner, demand, readable, begins⟩ := exists_demand_of_plainTotalMessage? found
      exact silent ⟨owner, demand, readable, begins.isInfix.trans suffix.isInfix⟩
    constructor
    · intro rest suffix
      by_contra found
      obtain ⟨m, found⟩ := Option.ne_none_iff_exists'.mp found
      obtain ⟨owner, demand, readable, begins⟩ := exists_demand_of_fieldMessage? found
      exact silent ⟨owner, demand, readable, begins.isInfix.trans suffix.isInfix⟩
    · intro rest suffix
      rw [totalMessage?, unread suffix, Option.or_none]
      cases found : after? "struct ".toList rest with
      | none => rfl
      | some more =>
          have inside : more <:+ rest := ⟨_, (after?_eq_some_iff.mp found).symm⟩
          exact unread (inside.trans suffix)

end Diagnostics

end NativeLayout
