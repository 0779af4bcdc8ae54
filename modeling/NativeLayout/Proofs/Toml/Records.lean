/-
# What a record says of its members

A record is read as a list of writes, one for each member that it gives, whether its members
are named or stand in order. A part of the record that only one member writes has in the end
what was last written to that member, and is as it was at the start if the member is left out.

It is not asked that a name is given only once, and members that the shape does not know may
be given too.
-/

import NativeLayout.Proofs.Dictionary
import NativeLayout.Proofs.Lists
import NativeLayout.Toml.Decode

namespace NativeLayout.Toml.Decoder

variable {α β σ : Type}

theorem Member.read_defaulted_iff {name : String} {item : Decoder α} {set : σ → α → σ} {v : Value}
    {record next : σ} : (defaulted name item set).read v record = .ok next ↔
      ∃ a, item v = .ok a ∧ set record a = next := by
  show (item v).map (set record) = .ok next ↔ _
  cases item v with
  | error failure => simp [Except.map]
  | ok a => simp [Except.map]

/-- Reading a member leaves a part of the record alone. -/
def Member.Keeps (member : Member σ) (view : σ → β) : Prop :=
  ∀ v record next, member.read v record = .ok next → view next = view record

theorem Member.keeps_defaulted {name : String} {item : Decoder α} {set : σ → α → σ} {view : σ → β}
    (same : ∀ record a, view (set record a) = view record) :
    (defaulted name item set).Keeps view := by
  intro v record next told
  obtain ⟨a, _, rfl⟩ := read_defaulted_iff.mp told
  exact same record a

namespace RecordShape

variable {shape : RecordShape σ} {v : Value} {record next : σ} {name : String}

/-- The members that a value gives, under their names. Those in order have the names that the
shape gives them. -/
def given (shape : RecordShape σ) (v : Value) : List (String × Value) :=
  v.members?.getD (shape.names.zip (v.items?.getD []))

/-- What a value gives for a member. -/
def given? (shape : RecordShape σ) (v : Value) (name : String) : Option Value :=
  lastWritten (shape.given v) name

/-- A record with some named members read into it. -/
def readAll (shape : RecordShape σ) (members : List (String × Value)) (record : σ) :
    Except DataError σ :=
  members.foldlM (fun record (name, v) => shape.readNamed record name v) record

theorem readAll_cons_eq_ok_iff {members : List (String × Value)} {last : σ} :
    shape.readAll ((name, v) :: members) record = .ok last ↔
      ∃ next, shape.readNamed record name v = .ok next ∧ shape.readAll members next = .ok last := by
  rw [readAll, List.foldlM_cons]
  exact bind_eq_ok_iff

theorem readAll_of_ofTable {members : Table} (read : shape.ofTable members = .ok record) :
    shape.readAll members shape.start = .ok record := by
  rw [ofTable] at read
  show members.foldlM _ shape.start = _
  cases all : members.foldlM (fun record (name, v) => shape.readNamed record name v)
      shape.start with
  | error failure =>
      rw [all] at read
      cases read
  | ok last =>
      rw [all] at read
      simp only [bind, Except.bind] at read
      split at read
      · cases read
      · exact read

/-- The member that is read under its own name is that member. -/
theorem readNamed_of_mem (distinct : shape.names.Nodup) {member : Member σ}
    (among : member ∈ shape.members) (record : σ) (v : Value) :
    shape.readNamed record member.name v = member.read v record := by
  have known : (shape.members.find? (·.name = member.name)).isSome = true :=
    List.find?_isSome.mpr ⟨member, among, decide_eq_true rfl⟩
  obtain ⟨first, found⟩ := Option.isSome_iff_exists.mp known
  have named : first.name = member.name := of_decide_eq_true (List.find?_some found :)
  rw [readNamed, found,
    List.inj_on_of_nodup_map distinct (List.mem_of_find?_eq_some found) among named]

theorem readAll_of_ofItems (distinct : shape.names.Nodup) {members : List (Member σ)}
    (known : ∀ member ∈ members, member ∈ shape.members) {items : List Value} {index : Nat}
    (read : shape.ofItems index members items record = .ok next) :
    shape.readAll ((members.map Member.name).zip items) record = .ok next := by
  induction members generalizing index items record with
  | nil =>
      rw [ofItems] at read
      exact read
  | cons member rest ih =>
      have onward := fun other among => known other (List.mem_cons_of_mem member among)
      cases items with
      | nil =>
          rw [ofItems] at read
          split at read
          · have unread := ih onward read
            rw [List.zip_nil_right] at unread ⊢
            exact unread
          · cases read
      | cons v items =>
          rw [ofItems] at read
          rw [List.map_cons, List.zip_cons_cons, readAll_cons_eq_ok_iff]
          rw [readNamed_of_mem distinct (known member List.mem_cons_self)]
          cases first : member.read v record with
          | error failure =>
              rw [first] at read
              cases read
          | ok middle =>
              rw [first] at read
              exact ⟨middle, rfl, ih onward read⟩

/-- A record in either form is read by reading the members that it gives. -/
theorem readAll_of_decode (distinct : shape.names.Nodup) (read : shape.decode v = .ok record) :
    shape.readAll (shape.given v) shape.start = .ok record := by
  rw [decode] at read
  rw [given]
  cases named : v.members? with
  | some members =>
      rw [named] at read
      exact readAll_of_ofTable read
  | none =>
      rw [named] at read
      cases ordered : v.items? with
      | none =>
          rw [ordered] at read
          cases read
      | some items =>
          rw [ordered] at read
          exact readAll_of_ofItems distinct (fun _ among => among) read

/-! ## Parts of a record -/

/-- A part of a record is what one member is read as, and reading any other leaves it alone. -/
structure Part (shape : RecordShape σ) (name : String) (item : Decoder β) (view : σ → β) :
    Prop where
  own : ∀ {record next v}, shape.readNamed record name v = .ok next → item v = .ok (view next)
  others : ∀ {record next other v}, other ≠ name → shape.readNamed record other v = .ok next →
    view next = view record

variable {item : Decoder β} {view : σ → β}

/-- A part of a record is what was last given for its member, if anything was. -/
theorem Part.of_readAll (part : shape.Part name item view) {members : List (String × Value)}
    (read : shape.readAll members record = .ok next) :
    (lastWritten members name).elim (.ok (view record)) item = .ok (view next) := by
  induction members generalizing record with
  | nil =>
      cases read
      rfl
  | cons member rest ih =>
      obtain ⟨other, v⟩ := member
      obtain ⟨middle, first, later⟩ := readAll_cons_eq_ok_iff.mp read
      have onward := ih later
      rw [lastWritten, lastSaid_cons, ← lastWritten, writtenTo]
      cases written : lastWritten rest name with
      | some w =>
          rw [written] at onward
          exact onward
      | none =>
          rw [written] at onward
          have same : view middle = view next := Except.ok.inj onward
          by_cases own : other = name
          · subst own
            rw [if_pos rfl, ← same]
            exact part.own first
          · rw [if_neg own, ← same]
            exact congrArg Except.ok (part.others own first).symm

theorem Part.of_ofTable (part : shape.Part name item view) {members : Table}
    (read : shape.ofTable members = .ok record) :
    (lastWritten members name).elim (.ok (view shape.start)) item = .ok (view record) :=
  part.of_readAll (readAll_of_ofTable read)

theorem Part.of_decode (part : shape.Part name item view) (distinct : shape.names.Nodup)
    (read : shape.decode v = .ok record) :
    (shape.given? v name).elim (.ok (view shape.start)) item = .ok (view record) :=
  part.of_readAll (readAll_of_decode distinct read)

/-- A part is one that its member writes and no other member does. -/
theorem part_of_defaulted (distinct : shape.names.Nodup) {read : Decoder α} {set : σ → α → σ}
    (among : .defaulted name read set ∈ shape.members)
    (own : ∀ v a record, read v = .ok a → item v = .ok (view (set record a)))
    (others : ∀ other ∈ shape.members, other.name = name ∨ other.Keeps view) :
    shape.Part name item view where
  own := by
    intro record next v told
    obtain ⟨a, given, rfl⟩ :=
      Member.read_defaulted_iff.mp ((readNamed_of_mem distinct among record v).symm.trans told)
    exact own v a record given
  others := by
    intro record next other v differs told
    rw [readNamed] at told
    split at told
    · next member found =>
        have named : member.name = other := of_decide_eq_true (List.find?_some found :)
        rcases others member (List.mem_of_find?_eq_some found) with same | kept
        · exact absurd (named.symm.trans same) differs
        · exact kept v record next told
    · split at told
      · cases told
      · cases told
        rfl

end RecordShape

end NativeLayout.Toml.Decoder
