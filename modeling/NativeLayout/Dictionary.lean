/-
# Dictionaries

A finite map from names to values, kept as the list of its entries in the order
of the names. A dictionary is determined by what it answers for each name, so
laws of merging can be read off the look-ups.
-/

namespace NativeLayout

/-- A finite map whose entries are listed by strictly increasing name. -/
structure Dictionary (α : Type) where
  entries : List (String × α)
  increasing : entries.Pairwise (compare ·.1 ·.1 = .lt)

namespace Dictionary

variable {α : Type}

instance [DecidableEq α] : DecidableEq (Dictionary α) := fun s t =>
  if h : s.entries = t.entries then .isTrue (by cases s; cases t; cases h; rfl)
  else .isFalse fun e => h (e ▸ rfl)

/-- The dictionary without entries. -/
def empty : Dictionary α := ⟨[], .nil⟩

instance : EmptyCollection (Dictionary α) := ⟨empty⟩
instance : Inhabited (Dictionary α) := ⟨empty⟩

/-- The names that have a value, in order. -/
def keys (d : Dictionary α) : List String := d.entries.map Prod.fst

/-- The value of a name in a list of entries. -/
def find (name : String) : List (String × α) → Option α
  | [] => none
  | (k, v) :: rest => if k = name then some v else find name rest

/-- The value of a name. -/
def get? (d : Dictionary α) (name : String) : Option α := find name d.entries

@[simp] theorem get?_empty (name : String) : (∅ : Dictionary α).get? name = none := rfl

private theorem find_eq_some_iff {name : String} {v : α} {l : List (String × α)}
    (h : l.Pairwise (compare ·.1 ·.1 = .lt)) : find name l = some v ↔ (name, v) ∈ l := by
  induction l with
  | nil => simp [find]
  | cons e rest ih =>
    have hp := List.pairwise_cons.mp h
    obtain ⟨k, w⟩ := e
    simp only [find, List.mem_cons, Prod.mk.injEq]
    split
    · rename_i hk
      subst hk
      refine ⟨fun e => .inl ⟨rfl, (Option.some.inj e).symm⟩, fun e => ?_⟩
      rcases e with ⟨_, rfl⟩ | e
      · rfl
      · have := hp.1 (k, v) e
        simp [Std.ReflCmp.compare_self] at this
    · rename_i hk
      rw [ih hp.2]
      exact ⟨.inr, fun e => e.resolve_left fun ⟨f, _⟩ => hk f.symm⟩

/-- A name has a value exactly if the two are an entry. -/
theorem get?_eq_some_iff {d : Dictionary α} {name : String} {v : α} :
    d.get? name = some v ↔ (name, v) ∈ d.entries := find_eq_some_iff d.increasing

/-- The names that have a value are the keys. -/
theorem mem_keys_iff {d : Dictionary α} {name : String} :
    name ∈ d.keys ↔ (d.get? name).isSome := by
  simp only [keys, List.mem_map, Option.isSome_iff_exists, get?_eq_some_iff]
  exact ⟨fun ⟨⟨k, v⟩, h, e⟩ => ⟨v, e ▸ h⟩, fun ⟨v, h⟩ => ⟨(name, v), h, rfl⟩⟩

/-- A list of entries with one name set to a value, at its place. -/
def insertInto (name : String) (v : α) : List (String × α) → List (String × α)
  | [] => [(name, v)]
  | (k, w) :: rest =>
    match compare name k with
    | .lt => (name, v) :: (k, w) :: rest
    | .eq => (name, v) :: rest
    | .gt => (k, w) :: insertInto name v rest

private theorem mem_insertInto {name : String} {v : α} {l : List (String × α)} {e : String × α}
    (h : e ∈ insertInto name v l) : e = (name, v) ∨ e ∈ l := by
  induction l with
  | nil => simpa [insertInto] using h
  | cons b rest ih =>
    obtain ⟨k, w⟩ := b
    simp only [insertInto] at h
    split at h
    · simpa using h
    · rcases List.mem_cons.mp h with h | h
      · exact .inl h
      · exact .inr (List.mem_cons_of_mem _ h)
    · rcases List.mem_cons.mp h with h | h
      · exact .inr (h ▸ List.mem_cons_self)
      · exact (ih h).imp_right (List.mem_cons_of_mem _)

private theorem increasing_insertInto {name : String} {v : α} {l : List (String × α)}
    (h : l.Pairwise (compare ·.1 ·.1 = .lt)) :
    (insertInto name v l).Pairwise (compare ·.1 ·.1 = .lt) := by
  induction l with
  | nil => simp [insertInto]
  | cons b rest ih =>
    have hp := List.pairwise_cons.mp h
    obtain ⟨k, w⟩ := b
    simp only [insertInto]
    split
    · rename_i hk
      refine List.pairwise_cons.mpr ⟨fun e he => ?_, h⟩
      rcases List.mem_cons.mp he with rfl | he
      · exact hk
      · exact Std.TransCmp.lt_trans hk (hp.1 e he)
    · rename_i hk
      have := Std.LawfulEqOrd.eq_of_compare hk
      subst this
      exact List.pairwise_cons.mpr ⟨hp.1, hp.2⟩
    · rename_i hk
      refine List.pairwise_cons.mpr ⟨fun e he => ?_, ih hp.2⟩
      rcases mem_insertInto he with rfl | he
      · exact Std.OrientedCmp.gt_iff_lt.mp hk
      · exact hp.1 e he

private theorem find_insertInto {name other : String} {v : α} {l : List (String × α)} :
    find other (insertInto name v l) = if name = other then some v else find other l := by
  induction l with
  | nil => simp [insertInto, find]
  | cons b rest ih =>
    obtain ⟨k, w⟩ := b
    simp only [insertInto]
    split
    · simp [find]
    · rename_i hk
      have := Std.LawfulEqOrd.eq_of_compare hk
      subst this
      by_cases h : name = other <;> simp [find, h]
    · rename_i hk
      have differ : k ≠ name := fun e => by
        subst e
        simp [Std.ReflCmp.compare_self] at hk
      by_cases h : name = other
      · subst h
        simp [find, ih, differ]
      · by_cases g : k = other <;> simp [find, ih, h, g]

/-- A dictionary with one name set to a value. -/
def insert (d : Dictionary α) (name : String) (v : α) : Dictionary α :=
  ⟨insertInto name v d.entries, increasing_insertInto d.increasing⟩

@[simp] theorem get?_insert {d : Dictionary α} {name other : String} {v : α} :
    (d.insert name v).get? other = if name = other then some v else d.get? other :=
  find_insertInto

/-- A dictionary without one of its names. -/
def erase (d : Dictionary α) (name : String) : Dictionary α :=
  ⟨d.entries.filter (·.1 ≠ name), d.increasing.filter _⟩

/-- A dictionary with every entry of a list set, one after the other. -/
def insertMany (d : Dictionary α) (l : List (String × α)) : Dictionary α :=
  l.foldl (fun e (k, v) => e.insert k v) d

/-- The dictionary of a list of entries; of two values for one name the later one counts. -/
def ofList (l : List (String × α)) : Dictionary α := empty.insertMany l

/-- One dictionary laid over another: its values count where both have one. -/
def merge (d top : Dictionary α) : Dictionary α := d.insertMany top.entries

private theorem get?_insertMany {l : List (String × α)} (h : l.Pairwise (compare ·.1 ·.1 = .lt))
    {d : Dictionary α} {name : String} :
    (d.insertMany l).get? name = (find name l).or (d.get? name) := by
  induction l generalizing d with
  | nil => simp [insertMany, find]
  | cons e rest ih =>
    obtain ⟨k, v⟩ := e
    have hp := List.pairwise_cons.mp h
    have step : d.insertMany ((k, v) :: rest) = (d.insert k v).insertMany rest := rfl
    rw [step, ih hp.2, get?_insert]
    by_cases hk : k = name
    · subst hk
      have absent : find k rest = none := by
        cases found : find k rest with
        | none => rfl
        | some w =>
          have := hp.1 (k, w) ((find_eq_some_iff hp.2).mp found)
          simp [Std.ReflCmp.compare_self] at this
      simp [find, absent]
    · simp [find, hk]

/-- After merging, a name has the value laid over it if there is one, else its old value. -/
@[simp] theorem get?_merge {d top : Dictionary α} {name : String} :
    (d.merge top).get? name = (top.get? name).or (d.get? name) :=
  get?_insertMany top.increasing

private theorem entries_eq_of_mem_iff {l m : List (String × α)}
    (hl : l.Pairwise (compare ·.1 ·.1 = .lt)) (hm : m.Pairwise (compare ·.1 ·.1 = .lt))
    (h : ∀ e, e ∈ l ↔ e ∈ m) : l = m := by
  have irrefl : ∀ s : String, compare s s ≠ .lt := fun s hs => by
    simp [Std.ReflCmp.compare_self] at hs
  induction l generalizing m with
  | nil =>
    cases m with
    | nil => rfl
    | cons b bs => exact absurd ((h b).mpr List.mem_cons_self) List.not_mem_nil
  | cons a as ih =>
    cases m with
    | nil => exact absurd ((h a).mp List.mem_cons_self) List.not_mem_nil
    | cons b bs =>
      have ha := List.pairwise_cons.mp hl
      have hb := List.pairwise_cons.mp hm
      have same : a = b := by
        rcases List.mem_cons.mp ((h a).mp List.mem_cons_self) with e | e
        · exact e
        · rcases List.mem_cons.mp ((h b).mpr List.mem_cons_self) with f | f
          · exact f.symm
          · exact absurd (Std.TransCmp.lt_trans (hb.1 a e) (ha.1 b f)) (irrefl b.1)
      subst same
      refine congrArg (a :: ·) (ih ha.2 hb.2 fun x => ⟨fun hx => ?_, fun hx => ?_⟩)
      · rcases List.mem_cons.mp ((h x).mp (List.mem_cons_of_mem a hx)) with rfl | e
        · exact absurd (ha.1 x hx) (irrefl x.1)
        · exact e
      · rcases List.mem_cons.mp ((h x).mpr (List.mem_cons_of_mem a hx)) with rfl | e
        · exact absurd (hb.1 x hx) (irrefl x.1)
        · exact e

/-- Two dictionaries that answer alike for every name are equal. -/
@[ext] theorem ext {d e : Dictionary α} (h : ∀ name, d.get? name = e.get? name) : d = e := by
  have mem : ∀ x, x ∈ d.entries ↔ x ∈ e.entries := fun ⟨k, v⟩ => by
    rw [← get?_eq_some_iff, ← get?_eq_some_iff, h k]
  obtain ⟨l, hl⟩ := d
  obtain ⟨m, hm⟩ := e
  obtain rfl : l = m := entries_eq_of_mem_iff hl hm mem
  rfl

end Dictionary

end NativeLayout
