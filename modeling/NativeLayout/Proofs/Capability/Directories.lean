/-
# Which override decides about a header

Overrides of headers are written one after the other, for single headers and for directories,
and the last write to each counts. A header is decided by the override under its own name,
else by that of the longest directory that it lies in. Two directories that a header lies in
are beginnings of one text, and so no two of them are equally long: there is always one that
decides, in whatever order the table is searched.

Directories are texts that end in a slash, and nothing else is asked of them.
-/

import Mathlib.Data.List.Nodup
import NativeLayout.Proofs.Capability.History
import NativeLayout.Proofs.Dictionary

namespace NativeLayout

/-! ## What is written -/

/-- What an operation writes to the table of headers. -/
def Operation.headerWrites : Operation → List (String × Bool)
  | withHeader header supported => [(header, supported)]
  | withoutLinux => [("linux/", false)]
  | apply config => config.headers.entries
  | _ => []

namespace Overrides

/-- The overrides that some operations make of none. -/
def after (operations : List Operation) : Overrides :=
  operations.foldl (fun o operation => operation.edit o) {}

/-- All that some operations write to the table of headers, in order. -/
def headerWrites (operations : List Operation) : List (String × Bool) :=
  operations.flatMap Operation.headerWrites

theorem headers_foldl_withStruct (names : List String) (o : Overrides) :
    (names.foldl (fun o name => o.withStruct name false) o).headers = o.headers := by
  induction names generalizing o with
  | nil => rfl
  | cons name rest ih => exact ih (o.withStruct name false)

theorem headers_edit (operation : Operation) (o : Overrides) :
    (operation.edit o).headers = o.headers.insertMany operation.headerWrites := by
  cases operation with
  | withoutLinux =>
      rw [Operation.edit, withoutLinux, withHeader, headers_foldl_withStruct]
      rfl
  | _ => rfl

/-- The table of headers is made by the writes alone. -/
theorem headers_after (operations : List Operation) :
    (after operations).headers = .ofList (headerWrites operations) := by
  have onward (o : Overrides) :
      (operations.foldl (fun o operation => operation.edit o) o).headers =
        o.headers.insertMany (headerWrites operations) := by
    induction operations generalizing o with
    | nil => rfl
    | cons operation rest ih =>
        rw [List.foldl_cons, ih, headers_edit, ← Dictionary.insertMany_append]
        rfl
  exact onward {}

/-! ## Directories -/

/-- A header lies in a directory: its path begins with the name, which ends in a slash. -/
def LiesIn (header directory : String) : Prop :=
  (∃ folder, directory = folder ++ "/") ∧ ∃ rest, header = directory ++ rest

variable {header key other : String} {entries : List (String × Bool)} {e : String × Bool}

theorem exists_append_iff {s t : String} : (∃ rest, t = s ++ rest) ↔ s.toList <+: t.toList := by
  constructor
  · rintro ⟨rest, rfl⟩
    exact ⟨rest.toList, String.toList_append.symm⟩
  · rintro ⟨rest, whole⟩
    refine ⟨String.ofList rest, String.toList_inj.mp ?_⟩
    rw [String.toList_append, String.toList_ofList, whole]

theorem exists_folder_iff : (∃ folder, key = folder ++ "/") ↔ key.toList.getLast? = some '/' := by
  rw [List.getLast?_eq_some_iff]
  constructor
  · rintro ⟨folder, rfl⟩
    exact ⟨folder.toList, String.toList_append⟩
  · rintro ⟨front, ending⟩
    refine ⟨String.ofList front, String.toList_inj.mp ?_⟩
    rw [String.toList_append, String.toList_ofList, ending]
    rfl

theorem covers_iff : covers key header = true ↔ LiesIn header key := by
  rw [covers, Bool.and_eq_true, beq_iff_eq, List.isPrefixOf_iff_prefix, LiesIn,
    exists_folder_iff, exists_append_iff]

theorem eq_of_prefix_of_size_eq {s t : String} (begins : s.toList <+: t.toList)
    (size : s.utf8ByteSize = t.utf8ByteSize) : s = t := by
  obtain ⟨rest, rfl⟩ := exists_append_iff.mpr begins
  rw [String.utf8ByteSize_append, Nat.left_eq_add, String.utf8ByteSize_eq_zero_iff] at size
  rw [size, String.append_empty]

/-- Of the directories that a header lies in no two are equally long. -/
theorem LiesIn.eq_of_size_eq (first : LiesIn header key) (second : LiesIn header other)
    (size : key.utf8ByteSize = other.utf8ByteSize) : key = other := by
  rcases List.prefix_or_prefix_of_prefix (exists_append_iff.mp first.2)
    (exists_append_iff.mp second.2) with begins | begins
  · exact eq_of_prefix_of_size_eq begins size
  · exact (eq_of_prefix_of_size_eq begins size.symm).symm

/-! ## The search for a directory -/

theorem longer_cases (a b : String × Bool) : longer a b = a ∨ longer a b = b := by
  rw [longer]
  split
  · exact .inr rfl
  · exact .inl rfl

theorem size_le_longer (a b : String × Bool) :
    a.1.utf8ByteSize ≤ (longer a b).1.utf8ByteSize ∧
      b.1.utf8ByteSize ≤ (longer a b).1.utf8ByteSize := by
  rw [longer]
  split <;> omega

theorem foldl_longer_mem (rest : List (String × Bool)) (e : String × Bool) :
    rest.foldl longer e ∈ e :: rest := by
  induction rest generalizing e with
  | nil => exact List.mem_singleton_self e
  | cons a others ih =>
      rcases List.mem_cons.mp (ih (longer e a)) with found | later
      · rw [List.foldl_cons, found]
        rcases longer_cases e a with first | second
        · rw [first]
          exact List.mem_cons_self
        · rw [second]
          exact List.mem_cons_of_mem e List.mem_cons_self
      · exact List.mem_cons_of_mem _ (List.mem_cons_of_mem _ later)

theorem size_le_foldl_longer (rest : List (String × Bool)) (e : String × Bool) :
    ∀ a ∈ e :: rest, a.1.utf8ByteSize ≤ (rest.foldl longer e).1.utf8ByteSize := by
  induction rest generalizing e with
  | nil =>
      intro a among
      rw [List.mem_singleton.mp among]
      exact Nat.le_refl _
  | cons b others ih =>
      have best := ih (longer e b)
      have next := best (longer e b) List.mem_cons_self
      have step := size_le_longer e b
      intro a among
      rcases List.mem_cons.mp among with rfl | among
      · exact Nat.le_trans step.1 next
      · rcases List.mem_cons.mp among with rfl | later
        · exact Nat.le_trans step.2 next
        · exact best a (List.mem_cons_of_mem _ later)

/-- The search fails exactly if the header lies in none of the directories. -/
theorem directory?_eq_none_iff :
    directory? header entries = none ↔ ∀ e ∈ entries, ¬ LiesIn header e.1 := by
  have uncovered : entries.filter (covers ·.1 header) = [] ↔
      ∀ e ∈ entries, ¬ LiesIn header e.1 := by
    rw [List.filter_eq_nil_iff]
    simp only [covers_iff]
  rw [← uncovered, directory?]
  cases entries.filter (covers ·.1 header) with
  | nil => exact iff_of_true rfl rfl
  | cons e rest => exact iff_of_false (Option.some_ne_none _) (List.cons_ne_nil e rest)

theorem longest_of_directory? (found : directory? header entries = some e) :
    e ∈ entries ∧ LiesIn header e.1 ∧
      ∀ a ∈ entries, LiesIn header a.1 → a.1.utf8ByteSize ≤ e.1.utf8ByteSize := by
  rw [directory?] at found
  cases covering : entries.filter (covers ·.1 header) with
  | nil =>
      rw [covering] at found
      cases found
  | cons first rest =>
      rw [covering] at found
      obtain rfl := Option.some.inj found
      have among := covering ▸ foldl_longer_mem rest first
      rw [List.mem_filter, covers_iff] at among
      refine ⟨among.1, among.2, fun a listed inside => ?_⟩
      apply size_le_foldl_longer rest first a
      rw [← covering, List.mem_filter, covers_iff]
      exact ⟨listed, inside⟩

/-- The search finds the longest directory. If no name is listed twice, there is only one. -/
theorem directory?_eq_some_iff (distinct : (entries.map Prod.fst).Nodup) :
    directory? header entries = some e ↔ e ∈ entries ∧ LiesIn header e.1 ∧
      ∀ a ∈ entries, LiesIn header a.1 → a.1.utf8ByteSize ≤ e.1.utf8ByteSize := by
  refine ⟨longest_of_directory?, fun ⟨listed, inside, longest⟩ => ?_⟩
  cases search : directory? header entries with
  | none => exact absurd inside (directory?_eq_none_iff.mp search e listed)
  | some found =>
      obtain ⟨present, covered, best⟩ := longest_of_directory? search
      have size := Nat.le_antisymm (longest found present covered) (best e listed inside)
      have same := covered.eq_of_size_eq inside size
      rw [List.inj_on_of_nodup_map distinct present listed same]

/-- It does not matter in what order the directories are searched. -/
theorem directory?_perm {others : List (String × Bool)} (distinct : (entries.map Prod.fst).Nodup)
    (moved : others.Perm entries) : directory? header others = directory? header entries := by
  have apart : (others.map Prod.fst).Nodup := (moved.map Prod.fst).nodup_iff.mpr distinct
  apply Option.ext
  intro e
  simp only [directory?_eq_some_iff apart, directory?_eq_some_iff distinct, moved.mem_iff]

/-! ## Decisions -/

/-- What writes to the table of headers decide about a header: the last write to the header
itself, else the last write to the longest directory that it lies in, else nothing. -/
inductive Decides (writes : List (String × Bool)) (header : String) : Capability → Prop
  | own {value : Bool} (written : lastWritten writes header = some value) :
      Decides writes header (.ofRecord (some value))
  | directory {key : String} {value : Bool} (unwritten : lastWritten writes header = none)
      (inside : LiesIn header key) (written : lastWritten writes key = some value)
      (longest : ∀ other, LiesIn header other → lastWritten writes other ≠ none →
        other.utf8ByteSize ≤ key.utf8ByteSize) :
      Decides writes header (.ofRecord (some value))
  | unknown (unwritten : lastWritten writes header = none)
      (outside : ∀ key, LiesIn header key → lastWritten writes key = none) :
      Decides writes header .unknown

theorem get?_headers_after (operations : List Operation) (name : String) :
    (after operations).headers.get? name = lastWritten (headerWrites operations) name := by
  rw [headers_after, Dictionary.get?_ofList]

/-- An entry of the table is what was last written to its name. -/
theorem mem_headers_after {operations : List Operation} {name : String} {value : Bool} :
    (name, value) ∈ (after operations).headers.entries ↔
      lastWritten (headerWrites operations) name = some value := by
  rw [← Dictionary.get?_eq_some_iff, get?_headers_after]

theorem exists_mem_headers_after {operations : List Operation} {name : String}
    (written : lastWritten (headerWrites operations) name ≠ none) :
    ∃ value, (name, value) ∈ (after operations).headers.entries := by
  obtain ⟨value, last⟩ := Option.ne_none_iff_exists'.mp written
  exact ⟨value, mem_headers_after.mpr last⟩

/-- What is recorded of a header is what the writes decide. -/
theorem decides_headerCapability (operations : List Operation) (header : String) :
    Decides (headerWrites operations) header ((after operations).headerCapability header) := by
  rw [headerCapability, header?, get?_headers_after]
  cases own : lastWritten (headerWrites operations) header with
  | some value => exact .own own
  | none =>
      rw [Option.none_or]
      cases search : directory? header (after operations).headers.entries with
      | none =>
          refine .unknown own fun key inside => ?_
          by_contra written
          obtain ⟨value, listed⟩ := exists_mem_headers_after written
          exact directory?_eq_none_iff.mp search (key, value) listed inside
      | some found =>
          obtain ⟨listed, inside, longest⟩ := longest_of_directory? search
          refine .directory own inside (mem_headers_after.mp listed) fun other lies written => ?_
          obtain ⟨value, present⟩ := exists_mem_headers_after written
          exact longest (other, value) present lies

/-- Writes decide one thing only. -/
theorem Decides.unique {writes : List (String × Bool)} {c d : Capability}
    (first : Decides writes header c) (second : Decides writes header d) : c = d := by
  cases first with
  | own written =>
      cases second with
      | own again => rw [← written, ← again]
      | directory unwritten => cases unwritten.symm.trans written
      | unknown unwritten => cases unwritten.symm.trans written
  | directory unwritten inside written longest =>
      cases second with
      | own again => cases unwritten.symm.trans again
      | directory _ within again longer =>
          have upper := longer _ inside (written ▸ Option.some_ne_none _)
          have lower := longest _ within (again ▸ Option.some_ne_none _)
          obtain rfl := inside.eq_of_size_eq within (Nat.le_antisymm upper lower)
          rw [← written, ← again]
      | unknown _ outside => cases (outside _ inside).symm.trans written
  | unknown unwritten outside =>
      cases second with
      | own again => cases unwritten.symm.trans again
      | directory _ inside again => cases (outside _ inside).symm.trans again
      | unknown => rfl

/-- Looking up a header is well defined. After any operations a header is recorded as the writes
to the table decide: by the last write to the header itself, else by the last write to the longest
directory that it lies in, else not at all. It is recorded alike in whatever order the directories
are searched, and alike if writes to different names change places. -/
theorem headerCapability_after (operations : List Operation) (header : String) :
    let o := after operations
    let writes := headerWrites operations
    (∀ c, o.headerCapability header = c ↔ Decides writes header c) ∧
    (∀ entries, entries.Perm o.headers.entries →
      (o.headers.get? header).or ((directory? header entries).map Prod.snd) = o.header? header) ∧
    ∀ others, Reordered writes (headerWrites others) →
      (after others).headerCapability header = o.headerCapability header := by
  intro o writes
  refine ⟨fun c => ⟨?_, fun decided => ?_⟩, fun entries moved => ?_, fun others reordered => ?_⟩
  · rintro rfl
    exact decides_headerCapability operations header
  · exact (decides_headerCapability operations header).unique decided
  · rw [directory?_perm o.headers.nodup_keys moved]
    rfl
  · have table : (after others).headers = o.headers := by
      ext name
      rw [get?_headers_after, get?_headers_after, ← reordered.lastWritten_eq]
    rw [headerCapability, headerCapability, header?, header?, table]

/-- The longer of two directories decides, whichever of them is written first. -/
theorem headerCapability_after_nested :
    Reordered (headerWrites [.withHeader "net/é/" true, .withHeader "net/" false])
      (headerWrites [.withHeader "net/" false, .withHeader "net/é/" true]) ∧
    (after [.withHeader "net/" false, .withHeader "net/é/" true]).headerCapability "net/é/if.h" =
      .supported := by
  have reordered : Reordered (headerWrites [.withHeader "net/é/" true, .withHeader "net/" false])
      (headerWrites [.withHeader "net/" false, .withHeader "net/é/" true]) := by
    intro name
    by_cases inner : name = "net/é/"
    · subst inner
      rfl
    · have other : writtenTo name ("net/é/", true) = none := if_neg (Ne.symm inner)
      simp [headerWrites, Operation.headerWrites, List.filterMap_cons, other]
  refine ⟨reordered, ((headerCapability_after _ "net/é/if.h").2.2 _ reordered).trans ?_⟩
  decide +kernel

end Overrides

end NativeLayout
