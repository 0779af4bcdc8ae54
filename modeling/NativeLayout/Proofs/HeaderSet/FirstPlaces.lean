/-
# First places

A header set lists the headers that it was made of, each at its first place. This holds
however the set was made: from a list, from one header, by pushing one header after the
other, or by reading a list that was written down, be it that of another set. So a set is
known by its list, and a list that is read and written again loses its repetitions and
nothing else.

How a set is walked, and what is remembered of its first headers, is not the matter here.
-/

import NativeLayout.Catalog.Document
import NativeLayout.Proofs.HeaderSet
import NativeLayout.Proofs.Lists

namespace NativeLayout

namespace Diagnostics

variable {α : Type} [DecidableEq α]

/-- Elements that are added where they are new stand in the order of their first places. -/
theorem pairwise_idxOf_foldl_addNew (list : List α) :
    (list.foldl addNew []).Pairwise fun a b => list.idxOf a < list.idxOf b := by
  induction list using List.reverseRecOn with
  | nil => exact .nil
  | append_singleton rest a ih =>
      have among {b : α} (found : b ∈ rest.foldl addNew []) : b ∈ rest := by
        simpa using mem_foldl_addNew.mp found
      -- what stood before keeps its first place
      have kept : (rest.foldl addNew []).Pairwise
          fun b c => (rest ++ [a]).idxOf b < (rest ++ [a]).idxOf c := by
        refine ih.imp_of_mem fun first second before => ?_
        rw [List.idxOf_append_of_mem (among first), List.idxOf_append_of_mem (among second)]
        exact before
      rw [List.foldl_append, List.foldl_cons, List.foldl_nil, addNew]
      by_cases known : a ∈ rest.foldl addNew []
      · rw [if_pos known]
        exact kept
      · rw [if_neg known]
        have new : a ∉ rest := fun old => known (mem_foldl_addNew.mpr (.inr old))
        have last : ∀ b ∈ rest.foldl addNew [],
            (rest ++ [a]).idxOf b < (rest ++ [a]).idxOf a := by
          intro b found
          rw [List.idxOf_append_of_mem (among found), List.idxOf_append_of_notMem new]
          exact Nat.lt_add_right _ (List.idxOf_lt_length_of_mem (among found))
        refine List.pairwise_append.mpr ⟨kept, List.pairwise_singleton _ _, ?_⟩
        intro b found c only
        rw [List.mem_singleton.mp only]
        exact last b found

end Diagnostics

namespace HeaderSet

open Diagnostics

/-- One list has the headers of another one, each once and in the order of their first places. -/
structure FirstPlaces (given listed : List String) : Prop where
  same : ∀ header, header ∈ listed ↔ header ∈ given
  ordered : listed.Pairwise fun first second => given.idxOf first < given.idxOf second

variable {s : HeaderSet} {header : String} {given listed : List String}

theorem FirstPlaces.nodup (places : FirstPlaces given listed) : listed.Nodup := by
  refine places.ordered.imp fun {first second} before equal => ?_
  rw [equal] at before
  exact Nat.lt_irrefl _ before

/-- There is only one such list. -/
theorem FirstPlaces.unique {other : List String} (places : FirstPlaces given listed)
    (others : FirstPlaces given other) : listed = other := by
  have perm : listed.Perm other := by
    rw [List.perm_ext_iff_of_nodup places.nodup others.nodup]
    exact fun header => (places.same header).trans (others.same header).symm
  apply perm.eq_of_pairwise _ places.ordered others.ordered
  intro first second _ _ before after
  exact absurd before (Nat.lt_asymm after)

/-- A list without repetitions is its own. -/
theorem firstPlaces_self (distinct : given.Nodup) : FirstPlaces given given where
  same := fun _ => Iff.rfl
  ordered := by
    rw [List.pairwise_iff_getElem]
    intro i j first second before
    rw [distinct.idxOf_getElem i first, distinct.idxOf_getElem j second]
    exact before

theorem toList_push (s : HeaderSet) (header : String) :
    (s.push header).toList = addNew s.toList header := by
  rw [push, addNew]
  split <;> rfl

theorem toList_pushMany (s : HeaderSet) (headers : List String) :
    (s.pushMany headers).toList = headers.foldl addNew s.toList := by
  induction headers generalizing s with
  | nil => rfl
  | cons header rest ih =>
      calc
        (s.pushMany (header :: rest)).toList = rest.foldl addNew (s.push header).toList :=
          ih (s.push header)
        _ = rest.foldl addNew (addNew s.toList header) := by rw [toList_push]

theorem toList_ofList (headers : List String) : (ofList headers).toList = headers.eraseDups := by
  rw [ofList, toList_pushMany]
  exact foldl_addNew headers []

/-- A set lists first places, and nothing else does. -/
theorem toList_ofList_eq_iff : (ofList given).toList = listed ↔ FirstPlaces given listed := by
  have places : FirstPlaces given (ofList given).toList := by
    rw [ofList, toList_pushMany]
    exact ⟨fun header => mem_foldl_addNew.trans (or_iff_right List.not_mem_nil),
      pairwise_idxOf_foldl_addNew given⟩
  constructor
  · rintro rfl
    exact places
  · exact places.unique

/-- Pushing a header changes nothing exactly if a set has it. -/
theorem push_eq_self_iff : s.push header = s ↔ header ∈ s.toList := by
  rw [HeaderSet.ext_iff, toList_push, addNew]
  by_cases known : header ∈ s.toList <;> simp [known]

theorem ofList_append (first second : List String) :
    ofList (first ++ second) = second.foldl push (ofList first) :=
  List.foldl_append

/-- A set is made again of its own list. -/
theorem ofList_toList (s : HeaderSet) : ofList s.toList = s :=
  HeaderSet.ext (toList_ofList_eq_iff.mpr (firstPlaces_self s.nodup))

/-- The value that a list of headers is written down as. -/
def written (headers : List String) : Toml.Value := .array (headers.map .string)

/-- The set that a value is read as where the headers of a structure stand in a catalog file. -/
def read? (value : Toml.Value) : Option HeaderSet :=
  (CatalogDocument.structEntry.readNamed {} "headers" value).toOption.bind StructEntry.headers

/-- A value is read as the set of the list that it is, if it is a list of texts. -/
theorem read?_eq (value : Toml.Value) :
    read? value = (Toml.Decoder.list Toml.Decoder.string value).toOption.map ofList := by
  have member : CatalogDocument.structEntry.readNamed {} "headers" value =
      (Toml.Decoder.list Toml.Decoder.string value).map fun headers =>
        { headers := some (ofList headers) } := rfl
  rw [read?, member]
  cases Toml.Decoder.list Toml.Decoder.string value <;> rfl

theorem list_written (headers : List String) :
    Toml.Decoder.list Toml.Decoder.string (written headers) = .ok headers := by
  show (headers.map Toml.Value.string).mapM Toml.Decoder.string = .ok headers
  rw [mapM_eq_ok_iff, List.forall₂_map_left_iff]
  exact List.forall₂_same.mpr fun _ _ => rfl

theorem read?_written (headers : List String) :
    read? (written headers) = some (ofList headers) := by
  rw [read?_eq, list_written]
  rfl

/-- What can be done to make a set, or to change one. -/
inductive Step
  | ofList (headers : List String)
  | singleton (header : String)
  | push (header : String)
  /-- A value is read; one that is no list of texts leaves the set as it is. -/
  | read (value : Toml.Value)
  /-- The set is written down as its list, and read again. -/
  | reread

/-- What a step makes of a set. -/
def perform (s : HeaderSet) : Step → HeaderSet
  | .ofList headers => .ofList headers
  | .singleton header => .singleton header
  | .push header => s.push header
  | .read value => (read? value).getD s
  | .reread => (read? (written s.toList)).getD s

/-- The headers that a set is made of after a step, if it was made of some headers before. -/
def Step.sources (headers : List String) : Step → List String
  | .ofList others => others
  | .singleton header => [header]
  | .push header => headers ++ [header]
  | .read value => (Toml.Decoder.list Toml.Decoder.string value).toOption.getD headers
  | .reread => headers

theorem perform_ofList (headers : List String) (step : Step) :
    (ofList headers).perform step = ofList (step.sources headers) := by
  cases step with
  | ofList others => rfl
  | singleton header => rfl
  | push header => exact (ofList_append headers [header]).symm
  | read value =>
      rw [perform, read?_eq, Step.sources]
      cases (Toml.Decoder.list Toml.Decoder.string value).toOption <;> rfl
  | reread =>
      rw [perform, read?_written, Option.getD_some, ofList_toList]
      rfl

/-- A set is at any time that of the headers it was made of. -/
theorem foldl_perform (steps : List Step) :
    steps.foldl perform ∅ = ofList (steps.foldl Step.sources []) := by
  show steps.foldl perform (ofList []) = _
  exact List.foldl_hom ofList perform_ofList

/-- Header sets list first places. Whatever was done to make a set, it is the set of the headers
that were given since it was last made anew, and lists no header twice. The set of a list has
the headers of the list in the order of their first places, and no other list is like that; it
is the list without its later repetitions. The set of two lists together comes from pushing the
headers of the second one by one. Pushing a header changes nothing exactly if a set has it. A
set that is written down as its list and read is the same again, and a list that is read gives
its own set. Two sets are equal exactly if they include the same headers in order. -/
theorem lists_first_places :
    (∀ steps : List Step,
      steps.foldl perform ∅ = ofList (steps.foldl Step.sources []) ∧
      (steps.foldl perform ∅).toList.Nodup) ∧
    (∀ given listed, (ofList given).toList = listed ↔ FirstPlaces given listed) ∧
    (∀ given, read? (written given) = some (ofList given) ∧
      (ofList given).toList = given.eraseDups) ∧
    (∀ first second, ofList (first ++ second) = second.foldl push (ofList first)) ∧
    (∀ (s : HeaderSet) (header : String), s.push header = s ↔ header ∈ s.toList) ∧
    (∀ s : HeaderSet, ofList s.toList = s ∧ read? (written s.toList) = some s) ∧
    ∀ s t : HeaderSet, s = t ↔ s.toList = t.toList := by
  refine ⟨fun steps => ⟨foldl_perform steps, ?_⟩, fun _ _ => toList_ofList_eq_iff,
    fun given => ⟨read?_written given, toList_ofList given⟩, ofList_append,
    fun _ _ => push_eq_self_iff, fun s => ⟨ofList_toList s, ?_⟩, fun _ _ => HeaderSet.ext_iff⟩
  · have places := toList_ofList_eq_iff.mp (congrArg toList (foldl_perform steps).symm)
    exact places.nodup
  · rw [read?_written, ofList_toList]

example : (ofList ["b.h", "a.h", "b.h", "c.h", "a.h"]).toList = ["b.h", "a.h", "c.h"] := by decide

end HeaderSet

end NativeLayout
