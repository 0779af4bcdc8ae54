/-
# Skip lists in order

A skip list has the pairs that were given since it was last made anew, each once, and lists
them by their structures and then by their fields. Names stand in the order of their code
points, which is that of their bytes too. There is only one such list, so a skip list does not
show in which order its pairs were given, nor how often.

Whether the pairs are those of a catalog is not asked here, nor whether a name is empty.
-/

import Mathlib.Data.Finset.Card
import NativeLayout.SkipList
import NativeLayout.Proofs.Text.Order

namespace NativeLayout

namespace OrderedSet

variable {α : Type} {cmp : α → α → Ordering} [Std.TransCmp cmp] [Std.LawfulEqCmp cmp]
  {s : OrderedSet α cmp}

omit [Std.TransCmp cmp] in
theorem nodup_toList (s : OrderedSet α cmp) : s.toList.Nodup := by
  refine s.increasing.imp fun {a b} before equal => ?_
  have self : cmp b b = .eq := Std.ReflCmp.compare_self
  rw [equal, self] at before
  cases before

/-- The list of a set is the only increasing one with its members. -/
theorem toList_eq_iff {listed : List α} :
    s.toList = listed ↔ (∀ a, a ∈ listed ↔ a ∈ s) ∧ listed.Pairwise (cmp · · = .lt) := by
  constructor
  · rintro rfl
    exact ⟨fun _ => Iff.rfl, s.increasing⟩
  · rintro ⟨same, increasing⟩
    have equal : s = ⟨listed, increasing⟩ := OrderedSet.ext fun a => (same a).symm
    rw [equal]

/-- The members of a set are counted by the list that it was made of, without repetitions. -/
theorem size_ofList [DecidableEq α] (given : List α) :
    (ofList given : OrderedSet α cmp).size = given.toFinset.card := by
  have same : (ofList given : OrderedSet α cmp).toList.toFinset = given.toFinset := by
    ext a
    rw [List.mem_toFinset, List.mem_toFinset, mem_toList, mem_ofList]
  rw [size, ← List.toFinset_card_of_nodup (nodup_toList _), same]

theorem ofList_append_singleton (given : List α) (a : α) :
    (ofList (given ++ [a]) : OrderedSet α cmp) = (ofList given).insert a :=
  List.foldl_append

end OrderedSet

namespace SkipList

/-- One pair stands before another, by some spelling of names: its structure does, or with the
same structure its field. -/
def Before {β : Type} [LT β] (spell : String → List β) (p q : String × String) : Prop :=
  spell p.1 < spell q.1 ∨ p.1 = q.1 ∧ spell p.2 < spell q.2

/-- Pairs are kept in this order, by any spelling that keeps the order of names. -/
theorem comparePairs_eq_lt_iff {β : Type} [LT β] {spell : String → List β}
    (keeps : ∀ {a b}, spell a < spell b ↔ a < b) {p q : String × String} :
    comparePairs p q = .lt ↔ Before spell p q := by
  rw [comparePairs, compareLex, Ordering.then_eq_lt, Before, keeps, keeps]
  simp only [compareOn, compare_lt_iff_lt, Std.compare_eq_iff_eq]

/-- A list has some pairs and no others, in the order of their code points. -/
structure Listing (given listed : List (String × String)) : Prop where
  same : ∀ pair, pair ∈ listed ↔ pair ∈ given
  ordered : listed.Pairwise (Before Text.codePoints)

theorem toList_ofList_eq_iff {given listed : List (String × String)} :
    (OrderedSet.ofList given : SkipList).toList = listed ↔ Listing given listed := by
  have order : (fun p q => comparePairs p q = .lt) = Before Text.codePoints := by
    ext p q
    exact comparePairs_eq_lt_iff Text.codePoints_lt_iff
  rw [OrderedSet.toList_eq_iff, order]
  simp only [OrderedSet.mem_ofList]
  constructor
  · rintro ⟨same, ordered⟩
    exact ⟨same, ordered⟩
  · rintro ⟨same, ordered⟩
    exact ⟨same, ordered⟩

/-- What can be done to make a skip list, or to change one. -/
inductive Step
  | ofList (pairs : List (String × String))
  | add (owner field : String)

/-- What a step makes of a skip list. -/
def perform (skip : SkipList) : Step → SkipList
  | .ofList pairs => .ofList pairs
  | .add owner field => skip.add owner field

/-- The pairs that a skip list is made of after a step, if it was made of some pairs before. -/
def Step.given (pairs : List (String × String)) : Step → List (String × String)
  | .ofList others => others
  | .add owner field => pairs ++ [(owner, field)]

theorem perform_ofList (pairs : List (String × String)) (step : Step) :
    perform (.ofList pairs) step = .ofList (step.given pairs) := by
  cases step with
  | ofList others => rfl
  | add owner field => exact (OrderedSet.ofList_append_singleton pairs (owner, field)).symm

/-- The skip list that some steps lead to. -/
def after (steps : List Step) : SkipList := steps.foldl perform ∅

/-- The pairs that were given in some steps, since the skip list was last made anew. -/
def given (steps : List Step) : List (String × String) := steps.foldl Step.given []

/-- A skip list is at any time that of the pairs it was made of. -/
theorem after_eq_ofList (steps : List Step) : after steps = .ofList (given steps) := by
  show steps.foldl perform (.ofList []) = _
  exact List.foldl_hom _ perform_ofList

theorem mem_after_iff {steps : List Step} {pair : String × String} :
    pair ∈ after steps ↔ pair ∈ given steps := by
  rw [after_eq_ofList, OrderedSet.mem_ofList]

theorem skips_after_iff {steps : List Step} {owner field : String} :
    (after steps).skips owner field = true ↔ (owner, field) ∈ given steps := by
  rw [skips, decide_eq_true_iff, mem_after_iff]

/-- Only the pairs that were given count, not the order in which they were, nor how often. -/
theorem after_eq_after_iff {first second : List Step} :
    after first = after second ↔ ∀ pair, pair ∈ given first ↔ pair ∈ given second := by
  constructor
  · intro equal pair
    rw [← mem_after_iff, equal, mem_after_iff]
  · intro same
    ext pair
    rw [mem_after_iff, mem_after_iff, same]

/-- Skip lists are sets in one order. Whatever was done to make one, its pairs strictly increase,
by the code points of the structure and then of the field, and by their bytes as well. It skips
exactly the pairs that were given since it was last made anew, counts each of them once, and has
the only list of them in that order. Two skip lists are equal exactly if the same pairs were
given for both, in any order and any number of times. -/
theorem lists_in_order :
    (∀ steps : List Step,
      (after steps).toList.Pairwise (Before Text.codePoints) ∧
      (after steps).toList.Pairwise (Before Text.bytes) ∧
      (∀ owner field, (after steps).skips owner field = true ↔ (owner, field) ∈ given steps) ∧
      (after steps).size = (given steps).toFinset.card ∧
      ∀ listed, (after steps).toList = listed ↔ Listing (given steps) listed) ∧
    ∀ first second : List Step,
      after first = after second ↔ ∀ pair, pair ∈ given first ↔ pair ∈ given second := by
  refine ⟨fun steps => ⟨?_, ?_, fun _ _ => skips_after_iff, ?_, fun _ => ?_⟩,
    fun _ _ => after_eq_after_iff⟩
  · exact (after steps).increasing.imp (comparePairs_eq_lt_iff Text.codePoints_lt_iff).mp
  · exact (after steps).increasing.imp (comparePairs_eq_lt_iff Text.bytes_lt_iff).mp
  · rw [after_eq_ofList, OrderedSet.size_ofList]
  · rw [after_eq_ofList, toList_ofList_eq_iff]

example :
    (after [.ofList [("b", "x"), ("ab", "y")], .add "a" "é", .add "b" "x", .add "a" "z"]).toList =
      [("a", "z"), ("a", "é"), ("ab", "y"), ("b", "x")] := by
  decide +kernel

end SkipList

end NativeLayout
