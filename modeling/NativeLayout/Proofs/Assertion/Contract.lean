/-
# What the unit of a descriptor depends on

A descriptor says more than its unit does: fields that are not compared, encodings of field
names, names of element types, how a width is made up of elements, and a size declared next to
the layout. The contract of a descriptor is what is left of its fields without these. The unit
says the contract, the native name, the total size and the headers, all of them and in order,
and is the same wherever they are the same.

A width in a contract is the product of an element size and a count, and the unit has room for
a 64-bit word. Where no width exceeds a word the unit says the contract as it is. Else it says
what is left of the widths, and two contracts may look alike. Whether two units with different
contracts are met by the same native layouts is not asked.
-/

import NativeLayout.Proofs.Assertion.Exactness

namespace NativeLayout

open Text Diagnostics

/-- What is demanded of one member of a native structure: where it begins and, if that is
compared, how wide it is. -/
structure Clause where
  field : String
  offset : Nat
  width : Option Nat
deriving DecidableEq, Repr

/-- The clauses of a descriptor: one for each compared field in order, without a width if the
skip list has the field. -/
def Descriptor.contract (d : Descriptor) (skip : SkipList) : List Clause :=
  d.checkedFields.map fun (field, raw) =>
    ⟨field, raw.offset,
      if (d.name, field) ∈ skip then none else some (raw.element.size * raw.count)⟩

namespace Clause

/-- What a unit says of a clause: of its width the 64-bit word. -/
def written (clause : Clause) : Clause :=
  { clause with width := clause.width.map (· % UInt64.size) }

/-- The width of a clause, if it has one, is a 64-bit word as it is. -/
def Fits (clause : Clause) : Prop := ∀ width ∈ clause.width, width < UInt64.size

instance (clause : Clause) : Decidable clause.Fits :=
  inferInstanceAs (Decidable (∀ width ∈ clause.width, width < UInt64.size))

theorem written_of_fits {clause : Clause} (fits : clause.Fits) : clause.written = clause := by
  obtain ⟨field, offset, width⟩ := clause
  cases width with
  | none => rfl
  | some width => rw [written, Option.map_some, Nat.mod_eq_of_lt (fits width rfl)]

theorem map_written_of_fits {contract : List Clause} (fits : ∀ clause ∈ contract, clause.Fits) :
    contract.map written = contract := by
  rw [List.map_congr_left fun clause among => written_of_fits (fits clause among), List.map_id']

/-- The demands that a clause stands for. -/
def demands (clause : Clause) : List Demand :=
  .offset clause.field clause.offset :: (clause.width.map (.size clause.field)).toList

/-- A list of demands does not go on with a width. -/
def Parted (demands : List Demand) : Prop :=
  ∀ field width, demands.head? ≠ some (.size field width)

theorem parted_flatMap (contract : List Clause) (size : Nat) :
    Parted (contract.flatMap demands ++ [.totalSize size]) := by
  cases contract with
  | nil => exact nofun
  | cons clause rest =>
      rw [List.flatMap_cons, demands]
      exact nofun

/-- Where a clause ends can be told from the demands behind it, since no clause begins with a
width. -/
theorem demands_append_inj {clause other : Clause} {rest others : List Demand}
    (parted : Parted rest) (apart : Parted others)
    (same : clause.demands ++ rest = other.demands ++ others) : clause = other ∧ rest = others := by
  obtain ⟨field, offset, width⟩ := clause
  obtain ⟨otherField, otherOffset, otherWidth⟩ := other
  obtain ⟨begun, following⟩ := List.cons.inj same
  cases begun
  cases width with
  | none =>
      cases otherWidth with
      | none => exact ⟨rfl, following⟩
      | some wide =>
          obtain rfl : rest = .size field wide :: others := following
          exact absurd rfl (parted field wide)
  | some wide =>
      cases otherWidth with
      | none =>
          obtain rfl : .size field wide :: rest = others := following
          exact absurd rfl (apart field wide)
      | some _ =>
          cases following
          exact ⟨rfl, rfl⟩

theorem flatMap_demands_inj {contract other : List Clause} {size total : Nat}
    (same : contract.flatMap demands ++ [.totalSize size] =
      other.flatMap demands ++ [.totalSize total]) : contract = other ∧ size = total := by
  induction contract generalizing other with
  | nil =>
      cases other with
      | nil =>
          cases same
          exact ⟨rfl, rfl⟩
      | cons clause rest => cases same
  | cons clause rest ih =>
      cases other with
      | nil => cases same
      | cons clause' rest' =>
          rw [List.flatMap_cons, List.flatMap_cons, List.append_assoc, List.append_assoc] at same
          obtain ⟨rfl, following⟩ :=
            demands_append_inj (parted_flatMap rest size) (parted_flatMap rest' total) same
          obtain ⟨rfl, rfl⟩ := ih following
          exact ⟨rfl, rfl⟩

end Clause

/-- The native name of a structure tells its name, since no name has the blank behind the word
for structures. -/
theorem NameStyle.spell_inj {style other : NameStyle} {name called : String}
    (valid : isIdentifier name.toList = true) (proper : isIdentifier called.toList = true)
    (same : style.spell name = other.spell called) : name = called := by
  have blank (text : String) : ' ' ∈ ("struct " ++ text).toList := by
    rw [String.toList_append, List.mem_append]
    exact .inl (by decide)
  cases style with
  | typedef =>
      cases other with
      | typedef => exact same
      | tag =>
          obtain rfl : name = "struct " ++ called := same
          exact absurd (blank called) (not_mem_of_isIdentifier valid (by decide))
  | tag =>
      cases other with
      | typedef =>
          obtain rfl : "struct " ++ name = called := same
          exact absurd (blank name) (not_mem_of_isIdentifier proper (by decide))
      | tag => exact (String.append_right_inj "struct ").mp same

namespace Source

theorem includeLine_injective : Function.Injective includeLine := by
  intro header other same
  exact (String.append_right_inj "#include <").mp ((String.append_left_inj ">").mp same)

/-- The headers stand above the first empty line. -/
theorem takeWhile_assertionLines (d : Descriptor) (headers : HeaderSet) (skip : SkipList) :
    (assertionLines d headers skip).takeWhile (· ≠ "") =
      includeLines headers ++ [includeLine "stddef.h"] := by
  have filled : ∀ line ∈ includeLines headers ++ [includeLine "stddef.h"],
      decide (line ≠ "") = true := by
    have worded (header : String) : includeLine header ≠ "" := by
      intro empty
      rw [← String.toList_inj, includeLine, String.toList_append, String.toList_append] at empty
      cases empty
    intro line among
    apply decide_eq_true
    rcases List.mem_append.mp among with among | among
    · rcases List.mem_cons.mp among with rfl | among
      · decide
      · obtain ⟨header, _, rfl⟩ := List.mem_map.mp among
        exact worded header
    · obtain rfl := List.mem_singleton.mp among
      exact worded "stddef.h"
  have whole : assertionLines d headers skip = (includeLines headers ++ [includeLine "stddef.h"]) ++
      "" :: (preambleLines.drop 2 ++
        (d.demands skip).map (Demand.assertion d.name d.nativeName)) := by
    rw [assertionLines, List.append_assoc, List.append_assoc]
    rfl
  rw [whole, List.takeWhile_append_of_pos filled, List.takeWhile_cons_of_neg (by decide),
    List.append_nil]

/-- Units that are one text include the same headers. -/
theorem headers_of_assertions_eq {d e : Descriptor} {headers others : HeaderSet}
    {skip spare : SkipList} (spellable : d.Spellable) (proper : e.Spellable)
    (unbroken : ∀ header ∈ headers.toList, '\n' ∉ header.toList)
    (whole : ∀ header ∈ others.toList, '\n' ∉ header.toList)
    (same : assertions d headers skip = assertions e others spare) :
    headers.toList = others.toList := by
  have lined : assertionLines d headers skip = assertionLines e others spare := by
    rw [← lines_ofLines fun _ => unbroken_of_mem_assertionLines spellable unbroken,
      ← lines_ofLines fun _ => unbroken_of_mem_assertionLines proper whole]
    exact congrArg lines same
  have front := congrArg (List.takeWhile (· ≠ "")) lined
  rw [takeWhile_assertionLines, takeWhile_assertionLines, List.append_cancel_right_eq] at front
  exact includeLine_injective.list_map (List.cons.inj front).2

end Source

namespace Descriptor

variable {d : Descriptor} {skip : SkipList}

/-- The assertions of a unit tell the native name and the demands. -/
theorem map_ofDemand_inj {e : Descriptor} {spare : SkipList}
    (same : (d.demands skip).map (StaticAssertion.ofDemand d) =
      (e.demands spare).map (StaticAssertion.ofDemand e)) :
    d.nativeName = e.nativeName ∧ d.demands skip = e.demands spare := by
  constructor
  · have last := congrArg List.getLast? same
    rw [demands, demands, List.map_append, List.map_append, List.map_singleton,
      List.map_singleton, List.getLast?_concat, List.getLast?_concat] at last
    exact congrArg StaticAssertion.type (Option.some.inj last)
  · have read := congrArg (List.map StaticAssertion.demand) same
    rw [List.map_map, List.map_map] at read
    exact (List.map_id _).symm.trans (read.trans (List.map_id _))

theorem demands_eq_contract :
    d.demands skip =
      ((d.contract skip).map Clause.written).flatMap Clause.demands ++ [.totalSize d.size] := by
  rw [demands, contract, List.map_map, List.flatMap_map]
  congr 1
  apply List.flatMap_congr
  rintro ⟨field, raw⟩ _
  change fieldDemands d.name skip field raw = Clause.demands (Clause.written ⟨field, raw.offset, _⟩)
  rw [fieldDemands, SkipList.skips, Clause.written, Clause.demands]
  by_cases skipped : (d.name, field) ∈ skip
  · rw [if_pos (decide_eq_true skipped), if_pos skipped]
    rfl
  · rw [decide_eq_false skipped, if_neg Bool.false_ne_true, if_neg skipped]
    rfl

/-- A unit is made of the name, the native name, what is written of the contract, and the total
size. -/
theorem assertionLines_congr {e : Descriptor} {headers : HeaderSet} {spare : SkipList}
    (name : d.name = e.name) (native : d.nativeName = e.nativeName) (size : d.size = e.size)
    (written : (d.contract skip).map Clause.written = (e.contract spare).map Clause.written) :
    Source.assertionLines d headers skip = Source.assertionLines e headers spare := by
  rw [Source.assertionLines, Source.assertionLines, demands_eq_contract, demands_eq_contract, name,
    native, size, written]

/-- Two units are one text exactly if what is written of the contracts is the same, and the
headers, the native names and the total sizes are. -/
theorem assertions_eq_iff_written {e : Descriptor} (spellable : d.Spellable)
    (proper : e.Spellable) {headers others : HeaderSet}
    (unbroken : ∀ header ∈ headers.toList, '\n' ∉ header.toList)
    (whole : ∀ header ∈ others.toList, '\n' ∉ header.toList) {spare : SkipList} :
    Source.assertions d headers skip = Source.assertions e others spare ↔
      headers.toList = others.toList ∧ d.nativeName = e.nativeName ∧ d.size = e.size ∧
        (d.contract skip).map Clause.written = (e.contract spare).map Clause.written := by
  constructor
  · intro same
    have included := Source.headers_of_assertions_eq spellable proper unbroken whole same
    have asserted : (d.demands skip).map (StaticAssertion.ofDemand d) =
        (e.demands spare).map (StaticAssertion.ofDemand e) := by
      apply Option.some.inj
      rw [← StaticAssertion.ofSource?_assertions spellable unbroken,
        ← StaticAssertion.ofSource?_assertions proper whole, same]
    obtain ⟨native, demanded⟩ := map_ofDemand_inj asserted
    rw [demands_eq_contract, demands_eq_contract] at demanded
    obtain ⟨written, size⟩ := Clause.flatMap_demands_inj demanded
    exact ⟨included, native, size, written⟩
  · rintro ⟨included, native, size, written⟩
    have name : d.name = e.name := NameStyle.spell_inj spellable.name proper.name native
    rw [HeaderSet.ext included, Source.assertions, Source.assertions,
      assertionLines_congr name native size written]

/-- The unit of a descriptor says its contract and nothing else about it. Take two descriptors
with identifiers for the names of the structures and of the compared fields, headers without
line feeds, and any skip lists. Their units are one text exactly if the headers are the same
sequence, the native names and the total sizes are equal, and the compared fields, in order,
have equal names and offsets, and widths that are left out in both or are the same 64-bit word.
If no width exceeds a word, the units are one text exactly if all this holds and the widths
themselves, each an element size times a count, are left out in both or equal. -/
theorem assertions_eq_iff {e : Descriptor} (spellable : d.Spellable) (proper : e.Spellable)
    {headers others : HeaderSet} (unbroken : ∀ header ∈ headers.toList, '\n' ∉ header.toList)
    (whole : ∀ header ∈ others.toList, '\n' ∉ header.toList) (skip spare : SkipList) :
    (Source.assertions d headers skip = Source.assertions e others spare ↔
      headers.toList = others.toList ∧ d.nativeName = e.nativeName ∧ d.size = e.size ∧
        (d.contract skip).map Clause.written = (e.contract spare).map Clause.written) ∧
    ((∀ clause ∈ d.contract skip, clause.Fits) → (∀ clause ∈ e.contract spare, clause.Fits) →
      (Source.assertions d headers skip = Source.assertions e others spare ↔
        headers.toList = others.toList ∧ d.nativeName = e.nativeName ∧ d.size = e.size ∧
          d.contract skip = e.contract spare)) := by
  refine ⟨assertions_eq_iff_written spellable proper unbroken whole, ?_⟩
  intro fits fitting
  rw [assertions_eq_iff_written spellable proper unbroken whole,
    Clause.map_written_of_fits fits, Clause.map_written_of_fits fitting]

/-- The structure of two fields again, with its fields in other encodings and made of other
elements, next to two that are not compared, and with a size declared on the side. -/
def lingerRestated : Descriptor where
  name := "linger"
  style := .tag
  fields :=
    [{ name := "l_inner", offset := 0, element := ⟨"c_char", 1⟩ },
     { name := "<l_onoff>k__BackingField", offset := 0, element := ⟨"u16", 2⟩, count := 2 },
     { name := "<l_linger>k__BackingField", offset := 4, element := ⟨"u8", 1⟩, count := 4 },
     { name := "__pad", offset := 8, element := ⟨"u64", 8⟩ }]
  size := 8
  declaredSize := some 16

/-- A structure of one field that is made of so many elements of a size. -/
def lingerOf (size count : Nat) : Descriptor where
  name := "linger"
  style := .tag
  fields := [{ name := "_l_linger", offset := 0, element := ⟨"c_int", size⟩, count }]
  size := 8

/-- The two descriptions have one unit, also if sizes of other fields are skipped, and no longer
if a size of theirs is. A width of `2 ^ 64` is written like one of nothing. -/
theorem assertions_linger_restated :
    let headers := HeaderSet.singleton "sys/socket.h"
    let spare := ((∅ : SkipList).add "linger" "__pad").add "iovec" "l_onoff"
    Source.assertions linger headers ∅ = Source.assertions lingerRestated headers spare ∧
      Source.assertions linger headers ∅ ≠
        Source.assertions lingerRestated headers (spare.add "linger" "l_onoff") ∧
      Source.assertions (lingerOf (UInt64.size / 4) 4) headers ∅ =
        Source.assertions (lingerOf 0 1) headers ∅ := by
  intro headers spare
  have spellable : linger.Spellable := by decide +kernel
  have proper : lingerRestated.Spellable := by decide +kernel
  have unbroken : ∀ header ∈ headers.toList, '\n' ∉ header.toList := by decide +kernel
  refine ⟨?_, ?_, ?_⟩
  · apply ((assertions_eq_iff spellable proper unbroken unbroken _ _).2 _ _).mpr
    all_goals decide +kernel
  · rw [ne_eq, (assertions_eq_iff spellable proper unbroken unbroken _ _).1]
    decide +kernel
  · apply (assertions_eq_iff _ _ unbroken unbroken _ _).1.mpr
    all_goals decide +kernel

end Descriptor

end NativeLayout
