/-
# What a compiler's output is read as

A compiler that tells of failed assertions may tell of each on several lines, and have
lines of its own between them. If the lines repeat the messages of some demands, then
the output is read as the mismatches of those demands, each once and in order.
-/

import NativeLayout.Proofs.Assertion.Demands
import NativeLayout.Proofs.Diagnostics.Echo
import NativeLayout.Proofs.Lists

namespace NativeLayout

open Diagnostics

namespace Demand

variable {owner : String} {style : NameStyle} {demand : Demand}

private theorem toList_append_field (a b c d : String) :
    (a ++ b ++ c ++ d).toList = a.toList ++ (b.toList ++ (c.toList ++ d.toList)) := by
  simp only [String.toList_append, List.append_assoc]

private theorem ofLine?_of_fieldMessage {field phrase : String} {wording line : List Char}
    {kind : MismatchKind} (validOwner : isIdentifier owner.toList = true)
    (validField : isIdentifier field.toList = true) (spaced : phrase.toList = ' ' :: wording)
    (told : ∀ after, fieldKind? (' ' :: wording ++ after) = some kind)
    (echoes : Echoes (owner ++ "." ++ field ++ phrase).toList line) :
    Diagnostics.ofLine? line = some ⟨owner, field, kind⟩ := by
  have shape : (owner ++ "." ++ field ++ phrase).toList =
      owner.toList ++ '.' :: (field.toList ++ ' ' :: wording) := by
    rw [← spaced]
    exact toList_append_field ..
  rw [shape] at echoes
  rw [ofLine?_of_field validOwner validField told echoes, String.ofList_toList,
    String.ofList_toList]

/-- A line that repeats the message of a demand is read as the mismatch of the demand. -/
theorem ofLine?_of_echoes (valid : isIdentifier owner.toList = true) (spellable : demand.Spellable)
    {line : List Char} (echoes : Echoes (demand.message owner (style.spell owner)).toList line) :
    Diagnostics.ofLine? line = some (demand.mismatch owner) := by
  cases demand with
  | offset field value =>
      exact ofLine?_of_fieldMessage valid spellable rfl fieldKind?_offset echoes
  | size field value =>
      exact ofLine?_of_fieldMessage valid spellable rfl fieldKind?_size echoes
  | totalSize value =>
      have shape : (message owner (style.spell owner) (.totalSize value)).toList =
          (style.spell owner).toList ++ " does not have expected size".toList :=
        String.toList_append
      rw [shape] at echoes
      exact ofLine?_of_total valid style echoes

theorem echoes_self (message : List Char) : Echoes message message :=
  ⟨[], [], by simp, by decide, by decide, by decide⟩

/-- A message is read as the mismatch of its demand. -/
theorem ofLine?_message (style : NameStyle) (valid : isIdentifier owner.toList = true)
    (spellable : demand.Spellable) :
    Diagnostics.ofLine? (demand.message owner (style.spell owner)).toList =
      some (demand.mismatch owner) :=
  ofLine?_of_echoes valid spellable (echoes_self _)

/-- Demands with one mismatch have one message. -/
theorem message_eq_of_mismatch_eq {type : String} {other : Demand}
    (same : demand.mismatch owner = other.mismatch owner) :
    demand.message owner type = other.message owner type := by
  cases demand <;> cases other <;> cases same <;> rfl

end Demand

namespace Diagnostics

/-- A line with what it tells: it repeats a message, or it has none of the wordings. -/
def Account : List Char × Option String → Prop
  | (line, some message) => Echoes message.toList line
  | (line, none) => Quiet line

/-- The lines of an output repeat some messages, each at least once and first in this order.
The other lines have none of the wordings. -/
def Repeats (messages : List String) (output : String) : Prop :=
  ∃ told : List (List Char × Option String), told.map Prod.fst = Text.splitLines output.toList ∧
    (∀ line ∈ told, Account line) ∧ (told.filterMap Prod.snd).eraseDups = messages

/-- An output that repeats the messages of some demands is read as their mismatches. -/
theorem mismatches_of_repeats {owner : String} {style : NameStyle} {demands : List Demand}
    (valid : isIdentifier owner.toList = true) (spellable : ∀ demand ∈ demands, demand.Spellable)
    {output : String}
    (repeated : Repeats (demands.map (Demand.message owner (style.spell owner))) output) :
    mismatches output = demands.map (Demand.mismatch owner) := by
  obtain ⟨told, lines, accounts, once⟩ := repeated
  -- What is read from a message itself stands for what is read from the lines that repeat it.
  let reading (message : String) : Mismatch := (ofLine? message.toList).getD (.totalSize owner)
  have read : ∀ demand ∈ demands,
      reading (demand.message owner (style.spell owner)) = demand.mismatch owner := by
    intro demand among
    have found := Demand.ofLine?_message style valid (spellable demand among)
    exact congrArg (Option.getD · (.totalSize owner)) found
  have demanded : ∀ message ∈ told.filterMap Prod.snd,
      ∃ demand ∈ demands, demand.message owner (style.spell owner) = message := by
    intro message among
    rw [← List.mem_eraseDups, once] at among
    exact List.mem_map.mp among
  have same : (told.map Prod.fst).filterMap ofLine? =
      (told.filterMap Prod.snd).map reading := by
    rw [List.filterMap_map, List.map_filterMap]
    apply List.filterMap_congr
    rintro ⟨line, told | message⟩ among
    · exact ofLine?_of_quiet (accounts _ among)
    · obtain ⟨demand, inside, rfl⟩ := demanded message (List.mem_filterMap.mpr ⟨_, among, rfl⟩)
      rw [Option.map_some, read demand inside]
      exact Demand.ofLine?_of_echoes valid (spellable demand inside) (accounts _ among)
  have apart : ∀ first ∈ told.filterMap Prod.snd, ∀ second ∈ [] ++ told.filterMap Prod.snd,
      reading first = reading second → first = second := by
    intro first among second later equal
    obtain ⟨demand, inside, rfl⟩ := demanded first among
    obtain ⟨other, within, rfl⟩ := demanded second later
    rw [read demand inside, read other within] at equal
    exact Demand.message_eq_of_mismatch_eq equal
  calc mismatches output
      = ((told.filterMap Prod.snd).map reading).foldl addNew [] := by
        rw [mismatches, mismatchesIn, ← lines, same]
    _ = ((told.filterMap Prod.snd).foldl addNew []).map reading := foldl_addNew_map apart
    _ = (demands.map (Demand.message owner (style.spell owner))).map reading := by
        rw [foldl_addNew, ← once]
        rfl
    _ = demands.map (Demand.mismatch owner) := by
        rw [List.map_map]
        exact List.map_congr_left read

end Diagnostics

end NativeLayout
