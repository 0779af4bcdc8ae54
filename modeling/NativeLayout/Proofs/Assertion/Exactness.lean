/-
# Assertions and diagnostics are exact

The unit of a descriptor and the reading of what a compiler says about it, taken
together. All assertions of the unit hold exactly for the layouts that the descriptor
declares. For any other layout, a compiler that repeats the messages of the failed
assertions is understood: what is read from its output is where the layouts differ,
each difference once and in the order of the declaration.

Nothing is assumed of a compiler but what its output looks like, and nothing of the numbers
in a descriptor: a width that does not fit is compared as the word that is left of it.
-/

import NativeLayout.Proofs.Assertion.Reading
import NativeLayout.Proofs.Descriptor
import NativeLayout.Proofs.Diagnostics.Output

namespace NativeLayout

open Diagnostics

namespace Descriptor

variable {d : Descriptor} {skip : SkipList} {layout : Layout}

/-- The messages of the assertions of a descriptor differ from each other. -/
theorem nodup_messages (distinct : (d.checkedFields.map Prod.fst).Nodup)
    (spellable : d.Spellable) :
    ((d.demands skip).map (Demand.message d.name d.nativeName)).Nodup := by
  apply List.pairwise_map.mpr
  apply List.Pairwise.imp_of_mem _ (pairwise_mismatch_ne distinct)
  intro demand other among later differs same
  apply differs
  have first := Demand.ofLine?_message d.style spellable.name (spellable.demand among)
  have second := Demand.ofLine?_message d.style spellable.name (spellable.demand later)
  have equal := congrArg (fun message : String => Diagnostics.ofLine? message.toList) same
  exact Option.some.inj (first.symm.trans (equal.trans second))

/-- Generating assertions and reading diagnostics are exact together. Take a descriptor that a
list of fields made, with identifiers for names, headers without line feeds, any skip list and
any native layouts. The unit of the descriptor reads as assertions with distinct messages. They
all hold exactly if the layout of the native type conforms to the descriptor. From any output
that repeats the messages of the failed assertions, and of no others, exactly the differences
are read. -/
theorem assertions_exact {name : String} {fields : List RawField} {size : Nat}
    {typedefs : NameSet} (built : ofFields name fields size typedefs = .ok d)
    (spellable : d.Spellable) {headers : HeaderSet}
    (unbroken : ∀ header ∈ headers.toList, '\n' ∉ header.toList) (skip : SkipList)
    (native : String → Layout) :
    ∃ asserted, StaticAssertion.ofSource? (Source.assertions d headers skip) = some asserted ∧
      (asserted.map StaticAssertion.message).Nodup ∧
      ((∀ a ∈ asserted, a.holds native = true) ↔ d.Conforms skip (native d.nativeName)) ∧
      ∀ output, Repeats ((asserted.filter (!·.holds native)).map StaticAssertion.message) output →
        mismatches output = d.differences skip (native d.nativeName) := by
  refine ⟨_, StaticAssertion.ofSource?_assertions spellable unbroken, ?_, ?_, ?_⟩
  · rw [List.map_map]
    exact nodup_messages (nodup_checkedFields built) spellable
  · rw [List.forall_mem_map]
    change (∀ demand ∈ d.demands skip, demand.holds (native d.nativeName) = true) ↔ _
    exact demands_hold_iff
  · intro output repeated
    rw [List.filter_map, List.map_map] at repeated
    rw [← map_mismatch_unmet]
    apply mismatches_of_repeats spellable.name _ repeated
    intro demand among
    exact spellable.demand (List.mem_of_mem_filter among)

/-- A structure of two fields of four bytes each, one after the other. -/
def linger : Descriptor where
  name := "linger"
  style := .tag
  fields :=
    [{ name := "_l_onoff", offset := 0, element := ⟨"c_int", 4⟩ },
     { name := "_l_linger", offset := 4, element := ⟨"c_int", 4⟩ }]
  size := 8

/-- A layout in which the second field stands behind a gap. -/
def gapped : Layout where
  offset field := if field = "l_linger" then 8 else 0
  size _ := 4
  total := 16

/-- What a compiler has to say about that layout. -/
def complaint : String := Text.ofLines
  ["check.c:9: error: linger.l_linger is not at expected offset",
   "9 | \"linger.l_linger is not at expected offset\"",
   "check.c:11: error: struct linger does not have expected size",
   "2 errors generated."]

private theorem repeats_complaint :
    Repeats ["linger.l_linger is not at expected offset",
      "struct linger does not have expected size"] complaint := by
  refine ⟨[("check.c:9: error: linger.l_linger is not at expected offset".toList,
      some "linger.l_linger is not at expected offset"),
    ("9 | \"linger.l_linger is not at expected offset\"".toList,
      some "linger.l_linger is not at expected offset"),
    ("check.c:11: error: struct linger does not have expected size".toList,
      some "struct linger does not have expected size"),
    ("2 errors generated.".toList, none)], ?_, ?_, ?_⟩
  · rw [complaint, Text.splitLines_ofLines (by decide)]
    rfl
  · intro line among
    rcases List.mem_cons.mp among with rfl | among
    · exact ⟨"check.c:9: error: ".toList, [], by decide, by decide, by decide, by decide⟩
    rcases List.mem_cons.mp among with rfl | among
    · exact ⟨"9 | \"".toList, "\"".toList, by decide, by decide, by decide, by decide⟩
    rcases List.mem_cons.mp among with rfl | among
    · exact ⟨"check.c:11: error: ".toList, [], by decide, by decide, by decide, by decide⟩
    · obtain rfl := List.mem_singleton.mp among
      exact ⟨by decide, by decide, by decide⟩
  · decide

theorem assertions_exact_linger :
    ofFields "linger" linger.fields 8 ∅ = .ok linger ∧ linger.Spellable ∧
      (∀ header ∈ (HeaderSet.singleton "sys/socket.h").toList, '\n' ∉ header.toList) ∧
      mismatches complaint = [⟨"linger", "l_linger", .offset⟩, .totalSize "linger"] := by
  have built : ofFields "linger" linger.fields 8 ∅ = .ok linger := rfl
  have named : ∀ pair ∈ linger.checkedFields, isIdentifier pair.1.toList = true := by
    decide +kernel
  have spellable : linger.Spellable :=
    ⟨by decide, fun field raw among => named (field, raw) among⟩
  have unbroken : ∀ header ∈ (HeaderSet.singleton "sys/socket.h").toList,
      '\n' ∉ header.toList := by decide +kernel
  obtain ⟨asserted, read, _, _, understood⟩ :=
    assertions_exact built spellable unbroken ∅ fun _ => gapped
  refine ⟨built, spellable, unbroken, ?_⟩
  have all := read.symm.trans (StaticAssertion.ofSource?_assertions spellable unbroken)
  obtain rfl := Option.some.inj all
  exact understood complaint repeats_complaint

end Descriptor

end NativeLayout
