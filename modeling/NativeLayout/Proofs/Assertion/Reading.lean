/-
# Reading assertions back

The source of a unit is only text. Here its static assertions are read out of that text
by a reader that knows the form of a line and nothing of descriptors: which type an
assertion is about, what it demands of the type, and what a compiler says if it fails.
For identifiers nothing is lost: reading the source of a descriptor gives back its
demands in order.
-/

import NativeLayout.Proofs.Assertion.Demands
import NativeLayout.Proofs.Lists
import NativeLayout.Proofs.Text.Lines
import NativeLayout.Proofs.Text.Search

namespace NativeLayout

open Text Diagnostics

/-- A static assertion of native source. -/
structure StaticAssertion where
  type : String
  demand : Demand
  message : String
deriving DecidableEq, Repr

namespace StaticAssertion

/-- Whether an assertion holds if the types have the given layouts. -/
def holds (native : String → Layout) (a : StaticAssertion) : Bool := a.demand.holds (native a.type)

/-- What stands before the first place of a character, and what begins there. -/
def upTo (stop : Char) (s : List Char) : List Char × List Char :=
  (s.takeWhile (· ≠ stop), s.dropWhile (· ≠ stop))

/-- What a term is compared with, and the message behind it. -/
def comparison? (s : List Char) : Option (Nat × String) := do
  let s ← after? ") == ".toList s
  let (digits, s) := upTo ',' s
  let s ← after? ", \"".toList s
  let (message, s) := upTo '"' s
  if !digits.isEmpty && digits.all Char.isDigit && s == "\");".toList then
    some (Nat.ofDigitChars 10 digits 0, String.ofList message)
  else none

/-- An assertion about a member, under the word for what is asked of the member. -/
def ofMember? (word : String) (demand : String → Nat → Demand) (s : List Char) :
    Option StaticAssertion := do
  let s ← after? word.toList s
  let (type, s) := upTo ',' s
  let s ← after? ", ".toList s
  let (field, s) := upTo ')' s
  let (value, message) ← comparison? s
  some ⟨String.ofList type, demand (String.ofList field) value, message⟩

/-- An assertion about a whole type. -/
def ofType? (s : List Char) : Option StaticAssertion := do
  let s ← after? "sizeof(".toList s
  let (type, s) := upTo ')' s
  let (value, message) ← comparison? s
  some ⟨String.ofList type, .totalSize value, message⟩

/-- The assertion of a line. -/
def ofLine? (line : List Char) : Option StaticAssertion := do
  let s ← after? "_Static_assert(".toList line
  ((ofMember? "offsetof(" .offset s).or (ofMember? "member_size(" .size s)).or (ofType? s)

/-- The assertions of a source, if every line that begins like one is one. -/
def ofSource? (source : String) : Option (List StaticAssertion) :=
  ((splitLines source.toList).filter ("_Static_assert".toList.isPrefixOf ·)).mapM ofLine?

theorem upTo_append {stop : Char} {front rest : List Char} (absent : stop ∉ front)
    (begins : rest.head? = some stop) : upTo stop (front ++ rest) = (front, rest) := by
  have before : ∀ c ∈ front, decide (c ≠ stop) = true := by
    intro c among
    apply decide_eq_true
    rintro rfl
    exact absent among
  cases rest with
  | nil => cases begins
  | cons c cs =>
      cases begins
      rw [upTo, List.takeWhile_append_of_pos before, List.dropWhile_append_of_pos before,
        List.takeWhile_cons_of_neg (by simp), List.dropWhile_cons_of_neg (by simp),
        List.append_nil]

theorem comparison?_append {value : Nat} {message : String} (plain : '"' ∉ message.toList) :
    comparison? (") == ".toList ++ ((toString value).toList ++ (", \"".toList ++
      (message.toList ++ "\");".toList)))) = some (value, message) := by
  have shown : (toString value).toList = Nat.toDigits 10 value := Nat.toList_repr
  have digits : ∀ c ∈ Nat.toDigits 10 value, c.isDigit = true := fun c among =>
    Nat.isDigit_of_mem_toDigits (by decide) (by decide) among
  have clear : ',' ∉ Nat.toDigits 10 value := by
    rw [← shown]
    exact not_mem_toString rfl value
  have number : upTo ',' (Nat.toDigits 10 value ++ (", \"".toList ++
      (message.toList ++ "\");".toList))) = (Nat.toDigits 10 value, _) := upTo_append clear rfl
  have quoted : upTo '"' (message.toList ++ "\");".toList) = (message.toList, _) :=
    upTo_append plain rfl
  have accepted : (!(Nat.toDigits 10 value).isEmpty && (Nat.toDigits 10 value).all Char.isDigit &&
      "\");".toList == "\");".toList) = true := by
    rw [List.all_eq_true.mpr digits, List.isEmpty_eq_false_iff.mpr Nat.toDigits_ne_nil,
      beq_self_eq_true]
    rfl
  rw [shown, comparison?, after?_append]
  simp only [Option.bind_eq_bind, Option.bind_some, number, after?_append, quoted]
  rw [if_pos accepted, Nat.ofDigitChars_ten_toDigits, String.ofList_toList]

theorem ofMember?_append (word : String) (demand : String → Nat → Demand) (value : Nat)
    {type field message : String} (comma : ',' ∉ type.toList) (close : ')' ∉ field.toList)
    (plain : '"' ∉ message.toList) :
    ofMember? word demand (word.toList ++ (type.toList ++ (", ".toList ++ (field.toList ++
      (") == ".toList ++ ((toString value).toList ++ (", \"".toList ++
        (message.toList ++ "\");".toList)))))))) = some ⟨type, demand field value, message⟩ := by
  rw [ofMember?, after?_append]
  have named : ∀ tail, upTo ',' (type.toList ++ (", ".toList ++ tail)) = (type.toList, _) :=
    fun tail => upTo_append comma rfl
  have picked : ∀ tail, upTo ')' (field.toList ++ (") == ".toList ++ tail)) = (field.toList, _) :=
    fun tail => upTo_append close rfl
  simp only [Option.bind_eq_bind, Option.bind_some, named, after?_append, picked,
    comparison?_append plain, String.ofList_toList]

theorem ofType?_append (value : Nat) {type message : String} (close : ')' ∉ type.toList)
    (plain : '"' ∉ message.toList) :
    ofType? ("sizeof(".toList ++ (type.toList ++ (") == ".toList ++ ((toString value).toList ++
      (", \"".toList ++ (message.toList ++ "\");".toList)))))) =
        some ⟨type, .totalSize value, message⟩ := by
  have named : ∀ tail, upTo ')' (type.toList ++ (") == ".toList ++ tail)) = (type.toList, _) :=
    fun tail => upTo_append close rfl
  rw [ofType?, after?_append]
  simp only [Option.bind_eq_bind, Option.bind_some, named, comparison?_append plain,
    String.ofList_toList]

theorem ofMember?_eq_none {word : String} {demand : String → Nat → Demand} {s : List Char}
    (other : ¬ word.toList <+: s) : ofMember? word demand s = none := by
  rw [ofMember?, after?_eq_none_iff.mpr other]
  rfl

end StaticAssertion

/-- A text of names with blanks and dots between them. -/
def Worded (s : List Char) : Prop := ∀ c ∈ s, isNamePart c = true ∨ c = ' ' ∨ c = '.'

instance (s : List Char) : Decidable (Worded s) :=
  List.decidableBAll (fun c => isNamePart c = true ∨ c = ' ' ∨ c = '.') s

theorem worded_of_isIdentifier {name : List Char} (valid : isIdentifier name = true) :
    Worded name := fun _ among => .inl (isNamePart_of_mem valid among)

theorem Worded.append {s t : List Char} (first : Worded s) (second : Worded t) :
    Worded (s ++ t) := by
  intro c among
  rcases List.mem_append.mp among with among | among
  · exact first c among
  · exact second c among

theorem Worded.not_mem {s : List Char} (worded : Worded s) {c : Char}
    (other : ¬ (isNamePart c = true ∨ c = ' ' ∨ c = '.')) : c ∉ s :=
  fun among => other (worded c among)

theorem worded_spell {name : String} (valid : isIdentifier name.toList = true)
    (style : NameStyle) : Worded (style.spell name).toList := by
  cases style with
  | typedef => exact worded_of_isIdentifier valid
  | tag =>
      rw [NameStyle.spell, String.toList_append]
      exact Worded.append (by decide) (worded_of_isIdentifier valid)

namespace Demand

variable {owner type : String} {demand : Demand}

private theorem worded_fieldMessage {field phrase : String}
    (validOwner : isIdentifier owner.toList = true) (validField : isIdentifier field.toList = true)
    (words : Worded phrase.toList) : Worded (owner ++ "." ++ field ++ phrase).toList := by
  rw [String.toList_append, String.toList_append, String.toList_append]
  exact (((worded_of_isIdentifier validOwner).append (by decide)).append
    (worded_of_isIdentifier validField)).append words

theorem worded_message (valid : isIdentifier owner.toList = true) (spelt : Worded type.toList)
    (spellable : demand.Spellable) : Worded (demand.message owner type).toList := by
  cases demand with
  | offset field _ => exact worded_fieldMessage valid spellable (by decide)
  | size field _ => exact worded_fieldMessage valid spellable (by decide)
  | totalSize _ =>
      rw [message, Mismatch.totalSizeMessage, String.toList_append]
      exact spelt.append (by decide)

private theorem toList_append_member (a b c d e f g h i j : String) :
    (a ++ (b ++ c ++ d ++ e ++ f ++ g) ++ h ++ i ++ j).toList =
      a.toList ++ (b.toList ++ (c.toList ++ (d.toList ++ (e.toList ++ (f.toList ++ (g.toList ++
        (h.toList ++ (i.toList ++ j.toList)))))))) := by
  simp only [String.toList_append, List.append_assoc]

private theorem toList_append_type (a b c d e f g h : String) :
    (a ++ (b ++ c ++ d ++ e) ++ f ++ g ++ h).toList =
      a.toList ++ (b.toList ++ (c.toList ++ (d.toList ++ (e.toList ++
        (f.toList ++ (g.toList ++ h.toList)))))) := by
  simp only [String.toList_append, List.append_assoc]

private theorem prefix_append_five (a b c d e : String) :
    a.toList <+: (a ++ b ++ c ++ d ++ e).toList := by
  simp only [String.toList_append, List.append_assoc]
  exact List.prefix_append _ _

theorem prefix_assertion (owner type : String) (demand : Demand) :
    "_Static_assert".toList <+: (demand.assertion owner type).toList :=
  List.IsPrefix.trans ⟨['('], rfl⟩ (prefix_append_five "_Static_assert(" _ _ _ _)

end Demand

namespace StaticAssertion

variable {owner type : String} {demand : Demand}

/-- Reading the assertion of a demand gives back the demand, its type and its message. -/
theorem ofLine?_assertion (valid : isIdentifier owner.toList = true) (spelt : Worded type.toList)
    (spellable : demand.Spellable) :
    ofLine? (demand.assertion owner type).toList =
      some ⟨type, demand, demand.message owner type⟩ := by
  have plain : '"' ∉ (demand.message owner type).toList :=
    (Demand.worded_message valid spelt spellable).not_mem (by decide)
  cases demand with
  | offset field value =>
      have close : ')' ∉ field.toList := (worded_of_isIdentifier spellable).not_mem (by decide)
      have read := ofMember?_append "offsetof(" .offset value
        (spelt.not_mem (by decide)) close plain
      refine (congrArg ofLine? (Demand.toList_append_member ..)).trans ?_
      simp only [ofLine?, after?_append, Option.bind_eq_bind, Option.bind_some, read,
        Option.some_or]
  | size field value =>
      have close : ')' ∉ field.toList := (worded_of_isIdentifier spellable).not_mem (by decide)
      have read := ofMember?_append "member_size(" .size value
        (spelt.not_mem (by decide)) close plain
      have other (rest : List Char) :
          ofMember? "offsetof(" .offset ("member_size(".toList ++ rest) = none :=
        ofMember?_eq_none (by rintro ⟨_, ⟨⟩⟩)
      refine (congrArg ofLine? (Demand.toList_append_member ..)).trans ?_
      simp only [ofLine?, after?_append, Option.bind_eq_bind, Option.bind_some, other, read,
        Option.none_or, Option.some_or]
  | totalSize value =>
      have read := ofType?_append value (spelt.not_mem (by decide)) plain
      have other (rest : List Char) :
          ofMember? "offsetof(" .offset ("sizeof(".toList ++ rest) = none :=
        ofMember?_eq_none (by rintro ⟨_, ⟨⟩⟩)
      have another (rest : List Char) :
          ofMember? "member_size(" .size ("sizeof(".toList ++ rest) = none :=
        ofMember?_eq_none (by rintro ⟨_, ⟨⟩⟩)
      refine (congrArg ofLine? (Demand.toList_append_type ..)).trans ?_
      simp only [ofLine?, after?_append, Option.bind_eq_bind, Option.bind_some, other, another,
        read, Option.none_or]

end StaticAssertion

namespace Source

private theorem feedless_member {word type field : String} (clear : '\n' ∉ word.toList)
    (typed : '\n' ∉ type.toList) (named : '\n' ∉ field.toList) (value : Nat) :
    '\n' ∉ (word ++ type ++ ", " ++ field ++ ") == " ++ toString value).toList :=
  not_mem_append (not_mem_append (not_mem_append (not_mem_append
    (not_mem_append clear typed) (by decide)) named) (by decide)) (not_mem_toString rfl value)

theorem feedless_condition {type : String} {demand : Demand} (spelt : Worded type.toList)
    (spellable : demand.Spellable) : '\n' ∉ (demand.condition type).toList := by
  have typed : '\n' ∉ type.toList := spelt.not_mem (by decide)
  cases demand with
  | offset field value =>
      have named : '\n' ∉ field.toList := (worded_of_isIdentifier spellable).not_mem (by decide)
      exact feedless_member (by decide) typed named value
  | size field value =>
      have named : '\n' ∉ field.toList := (worded_of_isIdentifier spellable).not_mem (by decide)
      exact feedless_member (by decide) typed named value
  | totalSize value =>
      exact not_mem_append (not_mem_append (not_mem_append (by decide) typed) (by decide))
        (not_mem_toString rfl value)

theorem unbroken_assertion {owner type : String} {demand : Demand}
    (valid : isIdentifier owner.toList = true) (spelt : Worded type.toList)
    (spellable : demand.Spellable) : Unbroken (demand.assertion owner type).toList := by
  have told : '\n' ∉ (demand.message owner type).toList :=
    (Demand.worded_message valid spelt spellable).not_mem (by decide)
  have asked := feedless_condition spelt spellable
  exact Unbroken.append (not_mem_append (not_mem_append (not_mem_append (by decide) asked)
    (by decide)) told) (by decide) (by decide)

theorem unbroken_includeLine {header : String} (unbroken : '\n' ∉ header.toList) :
    Unbroken (includeLine header).toList :=
  Unbroken.append (not_mem_append (by decide) unbroken) (by decide) (by decide)

theorem unbroken_of_mem_assertionLines {d : Descriptor} {headers : HeaderSet} {skip : SkipList}
    (spellable : d.Spellable) (unbroken : ∀ header ∈ headers.toList, '\n' ∉ header.toList)
    {line : String} (among : line ∈ assertionLines d headers skip) : Unbroken line.toList := by
  rw [assertionLines, List.mem_append, List.mem_append] at among
  rcases among with (among | among) | among
  · rcases List.mem_cons.mp among with rfl | among
    · decide
    · obtain ⟨header, included, rfl⟩ := List.mem_map.mp among
      exact unbroken_includeLine (unbroken header included)
  · have preamble : ∀ line ∈ preambleLines, Unbroken line.toList := by decide
    exact preamble line among
  · obtain ⟨demand, demanded, rfl⟩ := List.mem_map.mp among
    exact unbroken_assertion spellable.name (worded_spell spellable.name d.style)
      (spellable.demand demanded)

end Source

namespace StaticAssertion

/-- The assertion that a demand becomes in the unit of a descriptor. -/
def ofDemand (d : Descriptor) (demand : Demand) : StaticAssertion :=
  ⟨d.nativeName, demand, demand.message d.name d.nativeName⟩

/-- Reading the unit of a descriptor gives back its demands in order. -/
theorem ofSource?_assertions {d : Descriptor} {headers : HeaderSet} {skip : SkipList}
    (spellable : d.Spellable) (unbroken : ∀ header ∈ headers.toList, '\n' ∉ header.toList) :
    ofSource? (Source.assertions d headers skip) = some ((d.demands skip).map (ofDemand d)) := by
  have included : ((Source.includeLines headers).map String.toList).filter
      ("_Static_assert".toList.isPrefixOf ·) = [] := by
    rw [List.filter_eq_nil_iff]
    intro line among
    obtain ⟨text, listed, rfl⟩ := List.mem_map.mp among
    rcases List.mem_cons.mp listed with rfl | listed
    · decide
    · obtain ⟨header, _, rfl⟩ := List.mem_map.mp listed
      rw [Source.includeLine, String.toList_append, String.toList_append]
      exact Bool.false_ne_true
  have preamble : (Source.preambleLines.map String.toList).filter
      ("_Static_assert".toList.isPrefixOf ·) = [] := by decide
  have asserted : (((d.demands skip).map (Demand.assertion d.name d.nativeName)).map
      String.toList).filter ("_Static_assert".toList.isPrefixOf ·) =
        ((d.demands skip).map (Demand.assertion d.name d.nativeName)).map String.toList := by
    rw [List.filter_eq_self]
    intro line among
    obtain ⟨text, listed, rfl⟩ := List.mem_map.mp among
    obtain ⟨demand, _, rfl⟩ := List.mem_map.mp listed
    exact List.isPrefixOf_iff_prefix.mpr (Demand.prefix_assertion d.name d.nativeName demand)
  rw [ofSource?, Source.assertions, splitLines_ofLines fun line among =>
    Source.unbroken_of_mem_assertionLines spellable unbroken among, Source.assertionLines,
    List.map_append, List.map_append, List.filter_append, List.filter_append, included, preamble,
    asserted, mapM_eq_some_iff]
  simp only [List.nil_append, List.map_map]
  apply List.map_congr_left
  intro demand demanded
  exact ofLine?_assertion spellable.name (worded_spell spellable.name d.style)
    (spellable.demand demanded)

end StaticAssertion

end NativeLayout
