/-
# Lists of partial and repeated results

Ways in which a list of results is taken together: all of them or nothing, each of them at
its first place only, and all up to the first of some kind.
-/

import Mathlib.Data.List.Forall2
import Mathlib.Data.List.Induction
import Mathlib.Data.List.Nodup
import NativeLayout.Diagnostics

namespace NativeLayout

variable {α β : Type}

/-- Partial results taken together are those that all of them have. -/
theorem mapM_eq_some_iff {f : α → Option β} {list : List α} {found : List β} :
    list.mapM f = some found ↔ list.map f = found.map some := by
  induction list generalizing found with
  | nil => cases found <;> simp
  | cons a rest ih =>
      rw [List.mapM_cons, List.map_cons]
      cases f a with
      | none => cases found <;> simp
      | some b =>
          cases found with
          | nil => cases rest.mapM f <;> simp
          | cons first others =>
              rw [List.map_cons, List.cons_eq_cons, ← ih]
              cases rest.mapM f <;> simp

theorem exists_map_some {f : α → Option β} {list : List α}
    (all : ∀ a ∈ list, ∃ b, f a = some b) : ∃ found : List β, list.map f = found.map some := by
  induction list with
  | nil => exact ⟨[], rfl⟩
  | cons a rest ih =>
      obtain ⟨b, first⟩ := all a List.mem_cons_self
      obtain ⟨found, others⟩ := ih fun c among => all c (List.mem_cons_of_mem a among)
      exact ⟨b :: found, by rw [List.map_cons, List.map_cons, first, others]⟩

/-- One computation after another succeeds if both do. -/
theorem bind_eq_ok_iff {ε : Type} {first : Except ε α} {next : α → Except ε β} {b : β} :
    (first >>= next) = .ok b ↔ ∃ a, first = .ok a ∧ next a = .ok b := by
  cases first with
  | error failure => simp [bind, Except.bind]
  | ok a => simp [bind, Except.bind]

/-- Results that may fail, taken together, are those of all of them in order. -/
theorem mapM_eq_ok_iff {ε : Type} {f : α → Except ε β} {list : List α} {found : List β} :
    list.mapM f = .ok found ↔ List.Forall₂ (fun a b => f a = .ok b) list found := by
  induction list generalizing found with
  | nil => simp [pure, Except.pure, eq_comm]
  | cons a rest ih =>
      rw [List.mapM_cons, List.forall₂_cons_left_iff]
      cases f a with
      | error _ => simp [bind, Except.bind]
      | ok b =>
          cases others : rest.mapM f with
          | error _ =>
              rw [others] at ih
              simp [bind, Except.bind, ← ih]
          | ok done =>
              rw [others] at ih
              simp [bind, Except.bind, pure, Except.pure, ← ih, eq_comm]

/-- If every result that there is can be had from another function as well, but for a change to
the result, then so can all of them together. -/
theorem mapM_eq_ok_map {ε : Type} {f g : α → Except ε β} {change : β → β} {list : List α}
    {found : List β} (other : ∀ a b, f a = .ok b → g a = .ok (change b))
    (all : list.mapM f = .ok found) : list.mapM g = .ok (found.map change) := by
  rw [mapM_eq_ok_iff] at all ⊢
  rw [List.forall₂_map_right_iff]
  exact all.imp other

/-- If only the last element of a list can be of some kind, one of that kind is the last. -/
theorem eq_last_of_split {kind : α → Prop} {front earlier later : List α} {last a : α}
    (others : ∀ b ∈ front, ¬ kind b) (split : front ++ [last] = earlier ++ a :: later)
    (has : kind a) : later = [] ∧ a = last := by
  rcases List.eq_nil_or_concat later with rfl | ⟨more, final, rfl⟩
  · obtain ⟨_, same⟩ := List.append_inj' split rfl
    exact ⟨rfl, (List.singleton_inj.mp same).symm⟩
  · have whole : front ++ [last] = (earlier ++ a :: more) ++ [final] := by
      rw [split, List.concat_eq_append, List.append_assoc, List.cons_append]
    have among : a ∈ front := by
      rw [(List.append_inj' whole rfl).1]
      exact List.mem_append_right _ List.mem_cons_self
    exact absurd has (others a among)

namespace Diagnostics

variable [DecidableEq α] [DecidableEq β]

theorem mem_addNew {a b : α} {list : List α} : b ∈ addNew list a ↔ b ∈ list ∨ b = a := by
  rw [addNew]
  by_cases known : a ∈ list
  · rw [if_pos known]
    exact ⟨.inl, fun among => among.elim id (· ▸ known)⟩
  · rw [if_neg known, List.mem_append, List.mem_singleton]

theorem mem_foldl_addNew {b : α} {list earlier : List α} :
    b ∈ list.foldl addNew earlier ↔ b ∈ earlier ∨ b ∈ list := by
  induction list generalizing earlier with
  | nil => simp
  | cons a rest ih => rw [List.foldl_cons, ih, mem_addNew, List.mem_cons, or_assoc]

theorem nodup_foldl_addNew {list earlier : List α} (distinct : earlier.Nodup) :
    (list.foldl addNew earlier).Nodup := by
  induction list generalizing earlier with
  | nil => exact distinct
  | cons a rest ih =>
      apply ih
      rw [addNew]
      by_cases known : a ∈ earlier
      · rw [if_pos known]
        exact distinct
      · rw [if_neg known, ← List.concat_eq_append]
        exact distinct.concat known

/-- What is added to a list is what it has not, each element at its first place. -/
theorem foldl_addNew_eq_append (list earlier : List α) :
    list.foldl addNew earlier =
      earlier ++ (list.foldl addNew []).filter fun a => decide (a ∉ earlier) := by
  induction list using List.reverseRecOn with
  | nil => exact (List.append_nil earlier).symm
  | append_singleton rest a ih =>
      rw [List.foldl_append, List.foldl_append, ih]
      generalize rest.foldl addNew [] = found
      have one (l : List α) : [a].foldl addNew l = addNew l a := rfl
      have among : a ∈ earlier ++ found.filter (fun b => decide (b ∉ earlier)) ↔
          a ∈ earlier ∨ a ∈ found := by
        by_cases known : a ∈ earlier <;> simp [known]
      rw [one, one, addNew, addNew]
      by_cases known : a ∈ earlier
      · rw [if_pos (among.mpr (.inl known))]
        by_cases again : a ∈ found
        · rw [if_pos again]
        · simp [if_neg again, known]
      · by_cases again : a ∈ found
        · rw [if_pos (among.mpr (.inr again)), if_pos again]
        · rw [if_neg (mt among.mp (not_or.mpr ⟨known, again⟩)), if_neg again]
          simp [known]

theorem addNew_map {f : α → β} {a : α} {list : List α}
    (apart : ∀ b ∈ list, f a = f b → a = b) :
    addNew (list.map f) (f a) = (addNew list a).map f := by
  by_cases known : a ∈ list
  · rw [addNew, addNew, if_pos known, if_pos (List.mem_map_of_mem known)]
  · have unknown : f a ∉ list.map f := by
      intro among
      obtain ⟨b, among, same⟩ := List.mem_map.mp among
      exact known (apart b among same.symm ▸ among)
    rw [addNew, addNew, if_neg known, if_neg unknown, List.map_append, List.map_singleton]

/-- Results that tell their causes apart are repeated exactly where the causes are. -/
theorem foldl_addNew_map {f : α → β} {list earlier : List α}
    (apart : ∀ a ∈ list, ∀ b ∈ earlier ++ list, f a = f b → a = b) :
    (list.map f).foldl addNew (earlier.map f) = (list.foldl addNew earlier).map f := by
  induction list generalizing earlier with
  | nil => rfl
  | cons a rest ih =>
      have first : ∀ b ∈ earlier, f a = f b → a = b := fun b among =>
        apart a List.mem_cons_self b (List.mem_append_left _ among)
      rw [List.map_cons, List.foldl_cons, List.foldl_cons, addNew_map first]
      apply ih
      intro b among c later
      apply apart b (List.mem_cons_of_mem a among)
      rcases List.mem_append.mp later with later | later
      · rcases mem_addNew.mp later with later | rfl
        · exact List.mem_append_left _ later
        · exact List.mem_append_right _ List.mem_cons_self
      · exact List.mem_append_right _ (List.mem_cons_of_mem a later)

/-- Adding what is new leaves each element at its first place. -/
theorem foldl_addNew (list earlier : List α) :
    list.foldl addNew earlier = List.eraseDupsBy.loop (· == ·) list earlier.reverse := by
  induction list generalizing earlier with
  | nil => rw [List.foldl_nil, List.eraseDupsBy.loop, List.reverse_reverse]
  | cons a rest ih =>
      have same : earlier.reverse.any (a == ·) = decide (a ∈ earlier) := by
        rw [List.any_reverse, List.any_beq, List.contains_eq_mem]
      rw [List.foldl_cons, ih, List.eraseDupsBy.loop, same]
      by_cases known : a ∈ earlier
      · rw [addNew, if_pos known, decide_eq_true known]
      · rw [addNew, if_neg known, decide_eq_false known, List.reverse_append]
        rfl

end Diagnostics

/-- What is not in front stands behind. -/
theorem exists_of_append_eq_append_cons {a : α} {front rest before after : List α}
    (absent : a ∉ front) (whole : front ++ rest = before ++ a :: after) :
    ∃ inside, rest = inside ++ a :: after := by
  obtain ⟨inside, _, same⟩ | ⟨inside, split, same⟩ := List.append_eq_append_iff.mp whole
  · exact ⟨inside, same⟩
  · cases inside with
    | nil => exact ⟨[], same.symm⟩
    | cons b inside =>
        obtain ⟨rfl, _⟩ := List.cons_eq_cons.mp same
        exact absurd (split ▸ List.mem_append_right before List.mem_cons_self) absent

/-- What comes of the members that were kept. -/
theorem flatMap_filter {p : α → Bool} {f : α → List β} (list : List α) :
    (list.filter p).flatMap f = list.flatMap fun a => if p a then f a else [] := by
  induction list with
  | nil => rfl
  | cons a rest ih =>
      rw [List.flatMap_cons, List.filter_cons, ← ih]
      split
      · rfl
      · rfl

end NativeLayout
