/-
# Ordered sets

A finite set kept as the list of its members in increasing order. The order is a
comparison in which only equal members compare equal, so a set has exactly one
such list and two sets with the same members are equal.
-/

namespace NativeLayout

/-- A finite set, listed in strictly increasing order of a comparison. -/
structure OrderedSet (α : Type) (cmp : α → α → Ordering) where
  toList : List α
  increasing : toList.Pairwise (cmp · · = .lt)

namespace OrderedSet

variable {α : Type} {cmp : α → α → Ordering}

instance : Membership α (OrderedSet α cmp) := ⟨fun s a => a ∈ s.toList⟩

@[simp] theorem mem_toList {s : OrderedSet α cmp} {a : α} : a ∈ s.toList ↔ a ∈ s := Iff.rfl

instance [DecidableEq α] (a : α) (s : OrderedSet α cmp) : Decidable (a ∈ s) :=
  inferInstanceAs (Decidable (a ∈ s.toList))

instance [DecidableEq α] : DecidableEq (OrderedSet α cmp) := fun s t =>
  if h : s.toList = t.toList then .isTrue (by cases s; cases t; cases h; rfl)
  else .isFalse fun e => h (e ▸ rfl)

/-- The set without members. -/
def empty : OrderedSet α cmp := ⟨[], .nil⟩

instance : EmptyCollection (OrderedSet α cmp) := ⟨empty⟩
instance : Inhabited (OrderedSet α cmp) := ⟨empty⟩

@[simp] theorem not_mem_empty (a : α) : a ∉ (∅ : OrderedSet α cmp) := List.not_mem_nil

theorem toList_eq_nil_iff {s : OrderedSet α cmp} : s.toList = [] ↔ s = ∅ := by
  constructor
  · intro none
    cases s
    cases none
    rfl
  · rintro rfl
    rfl

/-- How many members a set has. -/
def size (s : OrderedSet α cmp) : Nat := s.toList.length

/-- Whether a set has no member. -/
def isEmpty (s : OrderedSet α cmp) : Bool := s.toList.isEmpty

/-- An increasing list with one more member at its place, or the list itself if it
has the member already. -/
def insertInto (cmp : α → α → Ordering) (a : α) : List α → List α
  | [] => [a]
  | b :: bs =>
    match cmp a b with
    | .lt => a :: b :: bs
    | .eq => b :: bs
    | .gt => b :: insertInto cmp a bs

variable [Std.TransCmp cmp] [Std.LawfulEqCmp cmp]

omit [Std.TransCmp cmp] in
private theorem mem_insertInto {a x : α} {l : List α} :
    x ∈ insertInto cmp a l ↔ x = a ∨ x ∈ l := by
  induction l with
  | nil => simp [insertInto]
  | cons b bs ih =>
    simp only [insertInto]
    split
    · simp
    · rename_i h
      have := Std.LawfulEqCmp.eq_of_compare h
      subst this
      simp
    · simp only [List.mem_cons, ih]
      exact or_left_comm

private theorem increasing_insertInto {a : α} {l : List α} (h : l.Pairwise (cmp · · = .lt)) :
    (insertInto cmp a l).Pairwise (cmp · · = .lt) := by
  induction l with
  | nil => simp [insertInto]
  | cons b bs ih =>
    have hb := List.pairwise_cons.mp h
    simp only [insertInto]
    split
    · rename_i hab
      refine List.pairwise_cons.mpr ⟨fun x hx => ?_, h⟩
      rcases List.mem_cons.mp hx with rfl | hx
      · exact hab
      · exact Std.TransCmp.lt_trans hab (hb.1 x hx)
    · exact h
    · rename_i hab
      refine List.pairwise_cons.mpr ⟨fun x hx => ?_, ih hb.2⟩
      rcases mem_insertInto.mp hx with rfl | hx
      · exact Std.OrientedCmp.gt_iff_lt.mp hab
      · exact hb.1 x hx

/-- A set with one more member. -/
def insert (a : α) (s : OrderedSet α cmp) : OrderedSet α cmp :=
  ⟨insertInto cmp a s.toList, increasing_insertInto s.increasing⟩

@[simp] theorem mem_insert {a x : α} {s : OrderedSet α cmp} : x ∈ s.insert a ↔ x = a ∨ x ∈ s :=
  mem_insertInto

/-- A set with the elements of a list as further members. -/
def insertMany (s : OrderedSet α cmp) (l : List α) : OrderedSet α cmp :=
  l.foldl (fun t a => t.insert a) s

@[simp] theorem mem_insertMany {l : List α} {s : OrderedSet α cmp} {x : α} :
    x ∈ s.insertMany l ↔ x ∈ s ∨ x ∈ l := by
  induction l generalizing s with
  | nil => simp [insertMany]
  | cons a l ih =>
    have step : s.insertMany (a :: l) = (s.insert a).insertMany l := rfl
    rw [step, ih, mem_insert, List.mem_cons]
    exact ⟨fun h => by rcases h with (h | h) | h <;> simp [h],
      fun h => by rcases h with h | h | h <;> simp [h]⟩

/-- The set of the elements of a list. -/
def ofList (l : List α) : OrderedSet α cmp := empty.insertMany l

@[simp] theorem mem_ofList {l : List α} {x : α} : x ∈ (ofList l : OrderedSet α cmp) ↔ x ∈ l := by
  rw [ofList, mem_insertMany]
  exact ⟨fun h => h.resolve_left (not_mem_empty x), .inr⟩

omit [Std.TransCmp cmp] [Std.LawfulEqCmp cmp] in
/-- A set without one of its members. -/
def erase [DecidableEq α] (a : α) (s : OrderedSet α cmp) : OrderedSet α cmp :=
  ⟨s.toList.filter (· ≠ a), s.increasing.filter _⟩

omit [Std.TransCmp cmp] [Std.LawfulEqCmp cmp] in
@[simp] theorem mem_erase [DecidableEq α] {a x : α} {s : OrderedSet α cmp} :
    x ∈ s.erase a ↔ x ∈ s ∧ x ≠ a := by
  rw [← mem_toList, ← mem_toList, erase]
  simp

private theorem toList_eq_of_mem_iff {l m : List α} (hl : l.Pairwise (cmp · · = .lt))
    (hm : m.Pairwise (cmp · · = .lt)) (h : ∀ x, x ∈ l ↔ x ∈ m) : l = m := by
  induction l generalizing m with
  | nil =>
    cases m with
    | nil => rfl
    | cons b bs => exact absurd ((h b).mpr List.mem_cons_self) List.not_mem_nil
  | cons a as ih =>
    cases m with
    | nil => exact absurd ((h a).mp List.mem_cons_self) List.not_mem_nil
    | cons b bs =>
      have ha := List.pairwise_cons.mp hl
      have hb := List.pairwise_cons.mp hm
      have irrefl : ∀ y, cmp y y ≠ .lt := fun y hy => by simp [Std.ReflCmp.compare_self] at hy
      have same : a = b := by
        rcases List.mem_cons.mp ((h a).mp List.mem_cons_self) with e | e
        · exact e
        · rcases List.mem_cons.mp ((h b).mpr List.mem_cons_self) with f | f
          · exact f.symm
          · exact absurd (Std.TransCmp.lt_trans (hb.1 a e) (ha.1 b f)) (irrefl b)
      subst same
      refine congrArg (a :: ·) (ih ha.2 hb.2 fun x => ⟨fun hx => ?_, fun hx => ?_⟩)
      · rcases List.mem_cons.mp ((h x).mp (List.mem_cons_of_mem a hx)) with rfl | e
        · exact absurd (ha.1 x hx) (irrefl x)
        · exact e
      · rcases List.mem_cons.mp ((h x).mpr (List.mem_cons_of_mem a hx)) with rfl | e
        · exact absurd (hb.1 x hx) (irrefl x)
        · exact e

/-- Two sets with the same members are equal. -/
@[ext] theorem ext {s t : OrderedSet α cmp} (h : ∀ x, x ∈ s ↔ x ∈ t) : s = t := by
  obtain ⟨l, hl⟩ := s
  obtain ⟨m, hm⟩ := t
  obtain rfl : l = m := toList_eq_of_mem_iff hl hm h
  rfl

end OrderedSet

/-- A finite set of names, in the order of their code points. -/
abbrev NameSet := OrderedSet String compare

/-- Pairs of names, ordered by the first and then by the second. -/
def comparePairs : String × String → String × String → Ordering :=
  compareLex (compareOn Prod.fst) (compareOn Prod.snd)

instance : Std.TransCmp comparePairs :=
  inferInstanceAs (Std.TransCmp (compareLex (compareOn Prod.fst) (compareOn Prod.snd)))

/-- Only equal pairs compare equal. -/
instance : Std.LawfulEqCmp comparePairs where
  eq_of_compare {a b} h := by
    obtain ⟨first, second⟩ := compareLex_eq_eq.mp h
    exact Prod.ext (Std.LawfulEqOrd.eq_of_compare first) (Std.LawfulEqOrd.eq_of_compare second)

end NativeLayout
