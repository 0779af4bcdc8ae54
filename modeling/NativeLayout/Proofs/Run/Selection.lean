/-
# A selection is a projection

A run of some structures of a catalog and a run of all of them probe different include
sequences and remember different answers. If the compiler always answers alike this can not
be seen: the report about the selected structures is cut out of the report about all of them,
whatever was remembered at the start. The gaps of the catalog are the exception, since they
are about the catalog as a whole.

If the run of all structures gives no report, nothing is said of the report of a selection,
which may well exist.
-/

import NativeLayout.Proofs.Lists
import NativeLayout.Proofs.Run.Compilations
import NativeLayout.Proofs.Run.Passing

namespace NativeLayout

variable {σ : Type} {answer : String → Except CompileError Unit}

/-- Noting down compiles changes no answer. -/
theorem Compiler.Steady.recorded {compiler : Compiler σ} (steady : compiler.Steady answer) :
    compiler.recorded.Steady answer :=
  fun source (state, _) => steady source state

/-- One report is cut out of another: it is about those structures only that have one of some
names, and about the catalog as a whole. -/
structure Report.IsPart (report full : Report) (names : List String) : Prop where
  entries : report.entries = full.entries.filter (·.name ∈ names)
  sizeChecks : report.sizeChecks = full.sizeChecks.filter (·.name ∈ names)
  gaps : report.gaps = full.gaps
  passed : full.passed = true → report.passed = true

namespace Run

variable {skip : SkipList} {overrides : Overrides} {told : HeaderSet → Except CompileError Bool}

/-- The outcome of an entry is about its structure and its headers. -/
theorem labels_of_judgedEntry {entry : MatrixEntry} {outcome : Entry}
    (found : judgedEntry answer skip overrides told entry = .ok outcome) :
    outcome.name = entry.name ∧ outcome.headers = entry.headers := by
  rw [judgedEntry] at found
  cases given : judged answer skip overrides told entry with
  | error _ =>
      rw [given] at found
      cases found
  | ok verdict =>
      rw [given] at found
      cases found
      exact ⟨rfl, rfl⟩

/-- Outcomes that do not hang on each other are in the order of their entries. -/
theorem map_labels_of_mapM {list : List MatrixEntry} {done : List Entry}
    (all : list.mapM (judgedEntry answer skip overrides told) = .ok done) :
    done.map (fun outcome => (outcome.name, outcome.headers)) =
      list.map fun entry => (entry.name, entry.headers) := by
  rw [← List.forall₂_eq_eq_eq, List.forall₂_map_left_iff, List.forall₂_map_right_iff]
  have paired := mapM_eq_ok_iff.mp all
  refine (paired.imp fun entry outcome found => ?_).flip
  obtain ⟨named, included⟩ := labels_of_judgedEntry found
  exact Prod.ext named included

/-- Outcomes that do not hang on each other can be had for the entries with some names only. -/
theorem mapM_selection {m : Matrix} {names : List String} (some : names ≠ []) {done : List Entry}
    (all : m.entries.mapM (judgedEntry answer skip overrides told) = .ok done) :
    (m.selection names).mapM (judgedEntry answer skip overrides told) =
      .ok (done.filter (·.name ∈ names)) := by
  rw [mapM_eq_ok_iff] at all ⊢
  refine List.rel_filter (fun entry outcome found => ?_) all
  simp [some, (labels_of_judgedEntry found).1]

/-- What is made of the outcomes with some names is cut out of what is made of all. -/
theorem isPart_reportOf (c : Catalog) (m : Matrix) {names : List String} (some : names ≠ [])
    (done : List Entry) :
    (reportOf c ⟨m.selection names⟩ (done.filter (·.name ∈ names))).IsPart (reportOf c m done)
      names := by
  simp only [reportOf_eq, Matrix.sizeChecks_selection some]
  refine ⟨rfl, rfl, rfl, ?_⟩
  simp only [Bool.and_eq_true, List.all_eq_true]
  rintro ⟨⟨complete, sized⟩, clean⟩
  exact ⟨⟨complete, fun check among => sized check (List.mem_of_mem_filter among)⟩,
    fun outcome among => clean outcome (List.mem_of_mem_filter among)⟩

/-- A selection is refused before anything is compiled, for the first of its names that has no
entry. -/
theorem conform_of_not_covers {c : Catalog} {names : List String}
    (uncovered : ¬ (Matrix.ofCatalog c).Covers names) (compiler : Compiler σ) (oracle : Oracle)
    (state : σ) :
    ∃ earlier missing later, names = earlier ++ missing :: later ∧
      (Matrix.ofCatalog c).Covers earlier ∧
      (∀ entry ∈ (Matrix.ofCatalog c).entries, entry.name ≠ missing) ∧
      conform compiler c names oracle state = (.error (.notInMatrix missing), oracle, state) := by
  obtain ⟨earlier, missing, later, split, covered, absent, refused⟩ :=
    Matrix.select_of_not_covers uncovered
  refine ⟨earlier, missing, later, split, covered, absent, ?_⟩
  rw [conform, refused]

/-- Neither the order of the requested names nor their repetition matters to a run. -/
theorem conform_congr {c : Catalog} {names others : List String}
    (covered : (Matrix.ofCatalog c).Covers names)
    (same : ∀ name, name ∈ others ↔ name ∈ names) (compiler : Compiler σ) (oracle : Oracle)
    (state : σ) :
    conform compiler c others oracle state = conform compiler c names oracle state := by
  have selected := Matrix.select_eq_ok_iff.mpr ⟨covered, rfl⟩
  have alike := Matrix.select_eq_ok_iff.mpr ⟨(Matrix.covers_congr same).mpr covered, rfl⟩
  rw [Matrix.selection_congr same] at alike
  rw [conform, conform, selected, alike]

/-- A memory makes no difference to a run but by the answers that are looked for in it. -/
theorem conform_fst_congr {compiler : Compiler σ} (steady : compiler.Steady answer) (c : Catalog)
    (names : List String) {first second : Oracle} (overrides : first.overrides = second.overrides)
    (consulted : first.cache.consulted (Compiler.includable answer) =
      second.cache.consulted (Compiler.includable answer)) (state other : σ) :
    (conform compiler c names first state).1 = (conform compiler c names second other).1 := by
  rw [(conform_consulted steady c names first state).1,
    (conform_consulted steady c names second other).1, overrides, consulted]

/-- If a run of all structures has a report, it is made of outcomes that do not hang on each
other, and a selection has the report that is made of those with the names. -/
theorem exists_done_of_conform {compiler : Compiler σ} (steady : compiler.Steady answer)
    {c : Catalog} {oracle : Oracle} {state : σ} {full : Report}
    (ran : (conform compiler c [] oracle state).1 = .ok full) {names : List String}
    (some : names ≠ []) (covered : (Matrix.ofCatalog c).Covers names) (other : σ) :
    ∃ done, (Matrix.ofCatalog c).entries.mapM (judgedEntry answer c.skipList oracle.overrides
        (oracle.cache.consulted (Compiler.includable answer))) = .ok done ∧
      full = reportOf c (Matrix.ofCatalog c) done ∧
      (conform compiler c names oracle other).1 = .ok (reportOf c
        ⟨(Matrix.ofCatalog c).selection names⟩ (done.filter (·.name ∈ names))) := by
  obtain ⟨done, _, all, whole⟩ := exists_done_of_report steady ran
  rw [Matrix.selection_nil] at all whole
  refine ⟨done, all, whole, ?_⟩
  rw [(conform_consulted steady c names oracle other).1,
    Matrix.select_eq_ok_iff.mpr ⟨covered, rfl⟩]
  simp only [mapM_selection some all]
  rfl

/-- However workers that check some entries side by side end, they settle the entries. -/
theorem settles_of_ends {list : List MatrixEntry} {cache : ProbeCache}
    (agrees : cache.Agrees (Compiler.includable answer)) (schedule : List Nat)
    {outcome : Except RunError (List Entry)}
    (ends : ((Crew.start list cache ()).run (Compiler.constant answer) skip overrides
      schedule).Ends outcome) : Settles answer skip overrides list outcome := by
  have begun : (Crew.start list cache ()).Coherent answer skip overrides :=
    Crew.coherent_start list agrees ()
  have settles := (begun.run (Compiler.steady_constant answer) schedule).settles ends
  rw [Crew.map_entry_run, Crew.map_entry_start] at settles
  exact settles

/-- Workers that check some entries side by side can end with outcomes only if these are the
ones that taking the entries one after another gives. -/
theorem mapM_of_ends {list : List MatrixEntry} {done : List Entry} {cache : ProbeCache}
    (agrees : cache.Agrees (Compiler.includable answer)) (schedule : List Nat)
    (ends : ((Crew.start list cache ()).run (Compiler.constant answer) skip overrides
      schedule).Ends (.ok done)) :
    list.mapM (judgedEntry answer skip overrides
      (cache.consulted (Compiler.includable answer))) = .ok done := by
  have paired : list.map (referenceEntry answer skip overrides) = done.map .ok :=
    settles_of_ends agrees schedule ends
  rw [← List.forall₂_eq_eq_eq, List.forall₂_map_left_iff, List.forall₂_map_right_iff] at paired
  rw [ProbeCache.agrees_iff.mp agrees, judgedEntry_includable, mapM_eq_ok_iff]
  exact paired

/-- Workers that check a selection side by side can only end with the outcomes that taking its
entries one after another gives, if there are any. -/
theorem ends_of_mapM {list : List MatrixEntry} {done : List Entry} {cache : ProbeCache}
    (agrees : cache.Agrees (Compiler.includable answer))
    (all : list.mapM (judgedEntry answer skip overrides
      (cache.consulted (Compiler.includable answer))) = .ok done)
    (schedule : List Nat) {outcome : Except RunError (List Entry)}
    (ends : ((Crew.start list cache ()).run (Compiler.constant answer) skip overrides
      schedule).Ends outcome) : outcome = .ok done := by
  cases outcome with
  | ok other => exact (mapM_of_ends agrees schedule ends).symm.trans all
  | error failure =>
      obtain ⟨entry, among, _, _, _, fails⟩ := settles_of_ends agrees schedule ends
      have settles : Settles answer skip overrides list _ := settles_mapM list
      rw [ProbeCache.agrees_iff.mp agrees, judgedEntry_includable] at all
      rw [all] at settles
      obtain ⟨verdict, passes⟩ := settles.isOk_iff.mp ⟨done, rfl⟩ entry among
      rw [fails] at passes
      cases passes

/-- A selection is a projection. Take a compiler that always answers alike and notes down its
compiles, any overrides, any memory, and some names. If a name has no entry, the run is refused
for the first such name, and nothing is compiled. If all have one, neither their order nor
their repetition matters. If then the run of all structures has a report, with its entries in
the order of the matrix, the run of the selection has one too, and it is cut out of the report
of all: it has the entries and the size checks with the names, in their order and with their
verdicts, and all gaps, and it passes if the report of all does. It is the same if the run of
all comes first and leaves its memory behind, and if the entries are checked side by side under
any schedule with a memory that agrees with the compiler. -/
theorem selection_projects (answer : String → Except CompileError Unit) (c : Catalog)
    (oracle : Oracle) {names : List String} (some : names ≠ []) :
    let compiler := (Compiler.constant answer).recorded
    let run names := conform compiler c names oracle ((), [])
    let matrix := Matrix.ofCatalog c
    (¬ matrix.Covers names → ∃ earlier missing later, names = earlier ++ missing :: later ∧
      matrix.Covers earlier ∧ (∀ entry ∈ matrix.entries, entry.name ≠ missing) ∧
      run names = (.error (.notInMatrix missing), oracle, (), [])) ∧
    (matrix.Covers names →
      (∀ others, (∀ name, name ∈ others ↔ name ∈ names) → run others = run names) ∧
      ∀ full, (run []).1 = .ok full →
        full.entries.map (fun entry => (entry.name, entry.headers)) =
          matrix.entries.map (fun entry => (entry.name, entry.headers)) ∧
        ∃ report, (run names).1 = .ok report ∧ report.IsPart full names ∧
          (conform compiler c names (run []).2.1 (run []).2.2).1 = .ok report ∧
          (oracle.cache.Agrees (Compiler.includable answer) → ∀ schedule outcome,
            ((Crew.start (matrix.selection names) oracle.cache ()).run (Compiler.constant answer)
              c.skipList oracle.overrides schedule).Ends outcome →
            outcome = .ok report.entries)) := by
  intro compiler run matrix
  have steady : compiler.Steady answer := (Compiler.steady_constant answer).recorded
  refine ⟨fun uncovered => conform_of_not_covers uncovered compiler oracle ((), []),
    fun covered => ⟨fun others same => conform_congr covered same compiler oracle ((), []),
      fun full ran => ?_⟩⟩
  obtain ⟨done, all, rfl, own⟩ := exists_done_of_conform steady ran some covered ((), [])
  have made : (reportOf c matrix done).entries = done := by rw [reportOf_eq]
  have part := isPart_reportOf c matrix some done
  obtain ⟨_, kept, still⟩ := conform_consulted steady c [] oracle ((), [])
  refine ⟨?_, _, own, part, ?_, fun agrees schedule outcome ends => ?_⟩
  · rw [made]
    exact map_labels_of_mapM all
  · rw [conform_fst_congr steady c names kept still (run []).2.2 ((), [])]
    exact own
  · rw [part.entries, made]
    exact ends_of_mapM agrees (mapM_selection some all) schedule ends

/-- A catalog in which one of two structures is checked against two headers. -/
def doubled : Catalog where
  name := "clocks"
  definitions :=
    [{ name := "timespec", size := 16 }, { name := "pollfd", size := 8 }]
  declaredSizes := ((∅ : Dictionary Nat).insert "timespec" 16).insert "pollfd" 8
  checks :=
    [⟨"timespec", .singleton "time.h"⟩, ⟨"pollfd", .singleton "poll.h"⟩,
     ⟨"timespec", .singleton "sys/time.h"⟩]

/-- The run of all structures of that catalog has a report, and both entries of the one that is
checked twice are in the report about it alone. -/
theorem selection_projects_doubled :
    let run names :=
      conform (Compiler.constant fun _ => .ok ()).recorded doubled names {} ((), [])
    ["timespec"] ≠ [] ∧ ∃ full report, (run []).1 = .ok full ∧
      (run ["timespec"]).1 = .ok report ∧ report.IsPart full ["timespec"] ∧
      report.entries.map Entry.name = ["timespec", "timespec"] := by
  intro run
  have covered : (Matrix.ofCatalog doubled).Covers ["timespec"] := by
    rw [Matrix.Covers]
    decide +kernel
  have some : ["timespec"] ≠ [] := List.cons_ne_nil _ _
  obtain ⟨full, ran, listed⟩ : ∃ full, (run []).1 = .ok full ∧
      full.entries.map Entry.name = ["timespec", "pollfd", "timespec"] :=
    ⟨_, rfl, by decide +kernel⟩
  obtain ⟨_, report, own, part, _⟩ :=
    ((selection_projects (fun _ => .ok ()) doubled {} some).2 covered).2 full ran
  refine ⟨some, full, report, ran, own, part, ?_⟩
  have kept : (full.entries.map Entry.name).filter (· ∈ ["timespec"]) =
      ["timespec", "timespec"] := by
    rw [listed]
    decide
  rw [part.entries, ← kept, List.filter_map]
  rfl

end Run

end NativeLayout
