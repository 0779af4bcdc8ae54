/-
# What is said last

A dictionary that is made by writing to it has for each name the value that was last written
to the name. The same holds of everything that is laid over in layers: of those that say
something the last one counts. Both are runs of steps after each of which one can see what
the step says, or else what could be seen before.

In what order different names are written does not matter.
-/

import NativeLayout.Dictionary

namespace NativeLayout

variable {α β σ : Type}

/-- What the last of those that say something says. -/
def lastSaid (said : β → Option α) (list : List β) : Option α := (list.filterMap said).getLast?

theorem lastSaid_cons (said : β → Option α) (b : β) (rest : List β) :
    lastSaid said (b :: rest) = (lastSaid said rest).or (said b) := by
  rw [lastSaid, lastSaid]
  cases own : said b with
  | none => rw [List.filterMap_cons_none own, Option.or_none]
  | some a =>
      rw [List.filterMap_cons_some own, List.getLast?_cons]
      cases (rest.filterMap said).getLast? <;> rfl

/-- If each step shows what it says, or else what was to be seen before it, then a run shows what
was said last. -/
theorem view_foldl (view : σ → Option α) {step : σ → β → σ} {said : β → Option α}
    (later : ∀ state b, view (step state b) = (said b).or (view state)) (list : List β)
    (state : σ) : view (list.foldl step state) = (lastSaid said list).or (view state) := by
  induction list generalizing state with
  | nil => rfl
  | cons b rest ih => rw [List.foldl_cons, ih, later, lastSaid_cons, Option.or_assoc]

/-! ## Writes -/

/-- What a write to some name says of a name. -/
def writtenTo (name : String) : String × α → Option α
  | (key, value) => if key = name then some value else none

/-- The value that is last written to a name. -/
def lastWritten (writes : List (String × α)) (name : String) : Option α :=
  lastSaid (writtenTo name) writes

/-- The same writes in another order, in which no two to one name have changed places. -/
def Reordered (first second : List (String × α)) : Prop :=
  ∀ name, first.filterMap (writtenTo name) = second.filterMap (writtenTo name)

theorem Reordered.lastWritten_eq {first second : List (String × α)}
    (reordered : Reordered first second) : lastWritten first = lastWritten second := by
  funext name
  rw [lastWritten, lastSaid, reordered name]
  rfl

namespace Dictionary

variable {d e f : Dictionary α}

theorem get?_insertMany_eq (d : Dictionary α) (writes : List (String × α)) (name : String) :
    (d.insertMany writes).get? name = (lastWritten writes name).or (d.get? name) := by
  refine view_foldl (·.get? name) (fun (e : Dictionary α) write => ?_) writes d
  rw [get?_insert, writtenTo]
  by_cases own : write.1 = name
  · rw [if_pos own, if_pos own, Option.some_or]
  · rw [if_neg own, if_neg own, Option.none_or]

/-- A dictionary of some entries has what was last written. -/
theorem get?_ofList (writes : List (String × α)) (name : String) :
    (ofList writes).get? name = lastWritten writes name := by
  rw [ofList, get?_insertMany_eq]
  exact Option.or_none

theorem insertMany_append (d : Dictionary α) (first second : List (String × α)) :
    d.insertMany (first ++ second) = (d.insertMany first).insertMany second :=
  List.foldl_append

/-- The names of a dictionary are listed once each. -/
theorem nodup_keys (d : Dictionary α) : (d.entries.map Prod.fst).Nodup := by
  refine List.pairwise_map.mpr (d.increasing.imp fun {first second} less same => ?_)
  have equal : compare first.1 second.1 = .eq := same ▸ Std.ReflCmp.compare_self
  rw [equal] at less
  cases less

@[simp]
theorem empty_merge (d : Dictionary α) : (∅ : Dictionary α).merge d = d := by
  ext name
  rw [get?_merge, get?_empty, Option.or_none]

@[simp]
theorem merge_empty (d : Dictionary α) : d.merge ∅ = d := rfl

theorem merge_assoc (d e f : Dictionary α) : (d.merge e).merge f = d.merge (e.merge f) := by
  ext name
  rw [get?_merge, get?_merge, get?_merge, get?_merge, Option.or_assoc]

end Dictionary

end NativeLayout
