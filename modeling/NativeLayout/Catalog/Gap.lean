/-
# Gaps in a catalog

Every way in which the parts of a catalog can disagree. A catalog without gaps
has each public definition in exactly one of the checks and the unchecked list,
defines every name that its parts mention, and gives a descriptor for every
check. Gaps are listed by kind and then by what they name.
-/

import NativeLayout.Catalog.Basic

namespace NativeLayout

/-- One disagreement between the parts of a catalog. -/
inductive Gap
  /-- A public structure is neither checked nor left unchecked. -/
  | uncatalogued (name : String)
  /-- A public structure is both checked and left unchecked. -/
  | doublyListed (name : String)
  /-- A check names a structure that is not defined. -/
  | unknownCheck (name : String)
  /-- The unchecked list names a structure that is not defined. -/
  | unknownUnchecked (name : String)
  /-- A declared size belongs to a structure that is not defined. -/
  | orphanSize (name : String)
  /-- An entry of the skip list matches no compared field. -/
  | staleSkip (name field : String)
  /-- A checked definition gives no descriptor. -/
  | invalidDefinition (name error : String)
deriving DecidableEq, Repr

namespace Gap

/-- The place of a kind of gap among the kinds. -/
def rank : Gap → Nat
  | uncatalogued _ => 0
  | doublyListed _ => 1
  | unknownCheck _ => 2
  | unknownUnchecked _ => 3
  | orphanSize _ => 4
  | staleSkip _ _ => 5
  | invalidDefinition _ _ => 6

/-- The structure that a gap is about. -/
def name : Gap → String
  | uncatalogued name | doublyListed name | unknownCheck name | unknownUnchecked name
  | orphanSize name | staleSkip name _ | invalidDefinition name _ => name

/-- What a gap tells besides the structure. -/
def detail : Gap → String
  | staleSkip _ field => field
  | invalidDefinition _ error => error
  | _ => ""

/-- Gaps are ordered by kind, then by structure, then by the rest. -/
def compare : Gap → Gap → Ordering :=
  compareLex (compareOn rank) (compareLex (compareOn name) (compareOn detail))

instance : Std.TransCmp compare :=
  inferInstanceAs (Std.TransCmp
    (compareLex (compareOn rank) (compareLex (compareOn name) (compareOn detail))))

/-- Only equal gaps compare equal. -/
instance : Std.LawfulEqCmp compare where
  eq_of_compare {a b} h := by
    obtain ⟨hr, h⟩ := compareLex_eq_eq.mp h
    obtain ⟨hn, hd⟩ := compareLex_eq_eq.mp h
    have hr := Std.LawfulEqOrd.eq_of_compare hr
    have hn := Std.LawfulEqOrd.eq_of_compare hn
    have hd := Std.LawfulEqOrd.eq_of_compare hd
    cases a <;> cases b <;> simp_all [rank, name, detail]

/-- The word for the kind of a gap. -/
def word : Gap → String
  | uncatalogued _ => "uncatalogued"
  | doublyListed _ => "doubly-listed"
  | unknownCheck _ => "unknown-check"
  | unknownUnchecked _ => "unknown-unchecked"
  | orphanSize _ => "orphan-size"
  | staleSkip _ _ => "stale-skip"
  | invalidDefinition _ _ => "invalid-definition"

/-- A gap as a reader sees it. -/
def display : Gap → String
  | uncatalogued name =>
    s!"`{name}` is neither in the conformance matrix nor in the unchecked list"
  | doublyListed name => s!"`{name}` is in both the conformance matrix and the unchecked list"
  | unknownCheck name => s!"conformance matrix names unknown structure `{name}`"
  | unknownUnchecked name => s!"unchecked list names unknown structure `{name}`"
  | orphanSize name => s!"declared-size table has an entry for unknown structure `{name}`"
  | staleSkip name field => s!"skip list entry `{name}.{field}` matches no checked field"
  | invalidDefinition name error => s!"invalid definition of `{name}`: {error}"

end Gap

namespace Catalog

/-- The gap of a public definition, if it is in neither or in both of the two lists. -/
def listingGap? (c : Catalog) (name : String) : Option Gap :=
  match c.hasCheck name, decide (name ∈ c.unchecked) with
  | false, false => some (.uncatalogued name)
  | true, true => some (.doublyListed name)
  | _, _ => none

/-- The gap of a check, if its structure is not defined or has a defect. -/
def checkGap? (c : Catalog) (name : String) : Option Gap :=
  match c.descriptor name with
  | .ok _ => none
  | .error (.unknownStructure _) => some (.unknownCheck name)
  | .error error => some (.invalidDefinition name error.message)

/-- Every gap found, part by part. -/
def findGaps (c : Catalog) : List Gap :=
  ((c.definitions.filter (·.isPublic)).filterMap fun d => c.listingGap? d.name) ++
  (c.checks.filterMap fun check => c.checkGap? check.name) ++
  ((c.unchecked.toList.filter (!c.defines ·)).map .unknownUnchecked) ++
  ((c.declaredSizes.keys.filter (!c.defines ·)).map .orphanSize) ++
  ((c.skipList.toList.filter fun (name, field) => !c.hasCheckedField name field).map
    fun (name, field) => .staleSkip name field)

/-- The gaps of a catalog. -/
def gaps (c : Catalog) : OrderedSet Gap Gap.compare := .ofList c.findGaps

end Catalog

end NativeLayout
