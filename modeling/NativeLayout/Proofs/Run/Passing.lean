/-
# Which runs pass

A run that ends with a report may have skipped some entries and compiled others, and the
report passes if nothing that went into it failed. Here this is said in terms of what is
given to the run: the catalog, the selected names, the overrides, and the answers of a
compiler that always answers alike. The whole catalog must be without gaps even if only a
part of it is selected.

It is not said which mismatches a failed entry has, nor which of several errors ends a run.
-/

import NativeLayout.Proofs.Capability.Questions
import NativeLayout.Proofs.Catalog.Coverage
import NativeLayout.Proofs.Matrix
import NativeLayout.Proofs.Report.Passing
import NativeLayout.Proofs.Run.Interleaving

namespace NativeLayout

/-- The declared size of a structure is that of its definition. -/
def Catalog.Sized (c : Catalog) (name : String) : Prop :=
  ∃ definition, c.definition? name = some definition ∧
    c.declaredSizes.get? name = some definition.size

theorem Catalog.passed_sizeCheck_iff {c : Catalog} {entry : MatrixEntry}
    (among : entry ∈ (Matrix.ofCatalog c).entries) :
    SizeCheck.passed ⟨entry.name, entry.descriptor.size, entry.descriptor.declaredSize⟩ = true ↔
      c.Sized entry.name := by
  obtain ⟨definition, found, made, declared⟩ :=
    descriptor_eq_ok_iff.mp (descriptor_of_mem_entries among)
  have measured : definition.size = entry.descriptor.size :=
    congrArg Descriptor.size (Descriptor.ofFields_eq_ok_iff.mp made).2
  rw [SizeCheck.passed, beq_iff_eq, declared, ← measured]
  constructor
  · intro same
    exact ⟨definition, found, same⟩
  · rintro ⟨other, again, same⟩
    obtain rfl : definition = other := Option.some.inj (found.symm.trans again)
    exact same

namespace Run

section Entries

variable (answer : String → Except CompileError Unit) (skip : SkipList) (overrides : Overrides)
  (entry : MatrixEntry)

/-- An entry that is compared meets an error that spoils every compile: with a header that is
to be probed, or with its assertions if all headers can be included. -/
def MeetsFatal : Prop :=
  overrides.admits entry.name = true ∧ ∃ cause : CompileError, cause.isFatal = true ∧
    (entry.headers.Stops overrides (Compiler.includable answer) (.error cause) ∨
      entry.headers.Supported overrides (Compiler.includable answer) ∧
        answer (Source.assertions entry.descriptor entry.headers skip) = .error cause)

/-- An entry gives no cause for complaint: its structure is not admitted, its headers cannot be
included, or the compiler accepts its assertions. -/
def Unobjectionable : Prop :=
  overrides.admits entry.name = false ∨
    entry.headers.Stops overrides (Compiler.includable answer) (.ok false) ∨
    answer (Source.assertions entry.descriptor entry.headers skip) = .ok ()

variable {answer skip overrides entry}

theorem structGate?_eq_none_iff {name : String} :
    structGate? overrides name = none ↔ overrides.admits name = true := by
  rw [structGate?]
  cases overrides.admits name with
  | true => simp
  | false => cases overrides.structCapability name <;> simp

theorem reference_of_not_admits (answer : String → Except CompileError Unit) (skip : SkipList)
    (refused : overrides.admits entry.name = false) :
    ∃ reason, reference answer skip overrides entry = .ok (.skip reason) := by
  have gated : structGate? overrides entry.name ≠ none := by
    rw [Ne, structGate?_eq_none_iff, refused]
    exact Bool.false_ne_true
  obtain ⟨reason, gated⟩ := Option.ne_none_iff_exists'.mp gated
  exact ⟨reason, reference_of_gate_some answer skip overrides gated⟩

theorem unitVerdict_eq_error_iff {name : String} {told : Except CompileError Unit} :
    (∃ failure, unitVerdict name told = .error failure) ↔
      ∃ cause : CompileError, cause.isFatal = true ∧ told = .error cause := by
  rcases told with (_ | _ | _) | _ <;> simp [unitVerdict, CompileError.isFatal]

theorem isFail_of_unitVerdict {name : String} {told : Except CompileError Unit}
    {verdict : Verdict} (found : unitVerdict name told = .ok verdict) :
    verdict.isFail = false ↔ told = .ok () := by
  rcases told with (_ | _ | _) | _ <;> cases found <;> simp [Verdict.isFail, Verdict.ofDiagnostics]

/-- An error of a walk over headers spoils every compile. -/
theorem isFatal_of_reference_error {cause : CompileError} {headers : List String}
    (walked : Oracle.reference overrides (Compiler.includable answer) ∅ headers = .error cause) :
    cause.isFatal = true := by
  obtain ⟨sequence, told⟩ := Oracle.exists_of_reference_error walked
  exact Compiler.isFatal_of_headerAnswer told

/-- An entry has no outcome exactly if it meets an error that spoils every compile. -/
theorem reference_eq_error_iff :
    (∃ failure, reference answer skip overrides entry = .error failure) ↔
      MeetsFatal answer skip overrides entry := by
  rw [MeetsFatal]
  cases admitted : overrides.admits entry.name with
  | false =>
      obtain ⟨reason, skipped⟩ := reference_of_not_admits answer skip admitted
      simp [skipped]
  | true =>
      have passed := structGate?_eq_none_iff.mpr admitted
      simp only [reference_of_gate_none answer skip overrides passed, true_and,
        ← Oracle.reference_eq_ok_true_iff, ← Oracle.reference_eq_iff_stops, ne_eq, reduceCtorEq,
        not_false_eq_true]
      cases walked : Oracle.reference overrides (Compiler.includable answer) ∅
          entry.headers.toList with
      | error cause => simp [concluded, isFatal_of_reference_error walked]
      | ok supported =>
          cases supported with
          | false => simp [concluded]
          | true =>
              simp only [concluded, unitVerdict_eq_error_iff, reduceCtorEq, false_or, true_and]

/-- An outcome is no failure exactly if the entry gives no cause for complaint. -/
theorem isFail_eq_false_iff {verdict : Verdict}
    (told : reference answer skip overrides entry = .ok verdict) :
    verdict.isFail = false ↔ Unobjectionable answer skip overrides entry := by
  rw [Unobjectionable]
  cases admitted : overrides.admits entry.name with
  | false =>
      obtain ⟨reason, skipped⟩ := reference_of_not_admits answer skip admitted
      cases skipped.symm.trans told
      simp [Verdict.isFail]
  | true =>
      have passed := structGate?_eq_none_iff.mpr admitted
      rw [reference_of_gate_none answer skip overrides passed] at told
      rw [← Oracle.reference_eq_iff_stops (by simp)]
      cases walked : Oracle.reference overrides (Compiler.includable answer) ∅
          entry.headers.toList with
      | error cause =>
          rw [walked] at told
          cases told
      | ok supported =>
          rw [walked] at told
          cases supported with
          | false =>
              cases told
              simp [Verdict.isFail]
          | true => simp [isFail_of_unitVerdict told]

end Entries

/-- The report of a run of some entries with their outcomes. -/
def reportOf (c : Catalog) (matrix : Matrix) (done : List Entry) : Report :=
  done.foldl Report.addEntry (opening c matrix)

theorem reportOf_eq (c : Catalog) (matrix : Matrix) (done : List Entry) :
    reportOf c matrix done =
      { catalog := c.name
        entries := done
        sizeChecks := matrix.sizeChecks
        gaps := c.gaps.toList
        passed := c.gaps.toList.isEmpty && matrix.sizeChecks.all SizeCheck.passed &&
          done.all (!·.verdict.isFail) } := by
  rw [reportOf, opening, Report.foldl_addEntry, Report.foldl_addSizeCheck, Report.addGaps_eq]
  simp

section Reports

variable {answer : String → Except CompileError Unit} {skip : SkipList} {overrides : Overrides}

theorem reference_of_referenceEntry {entry : MatrixEntry} {outcome : Entry}
    (told : referenceEntry answer skip overrides entry = .ok outcome) :
    reference answer skip overrides entry = .ok outcome.verdict := by
  rw [referenceEntry] at told
  cases found : reference answer skip overrides entry with
  | error failure =>
      rw [found] at told
      cases told
  | ok verdict =>
      rw [found] at told
      cases told
      rfl

/-- A run that settles its entries has outcomes exactly if no entry meets an error that spoils
every compile. -/
theorem Settles.exists_ok_iff {list : List MatrixEntry} {outcome : Except RunError (List Entry)}
    (settles : Settles answer skip overrides list outcome) :
    (∃ done, outcome = .ok done) ↔
      ∀ entry ∈ list, ¬ MeetsFatal answer skip overrides entry := by
  rw [settles.isOk_iff]
  apply forall₂_congr
  intro entry _
  rw [← reference_eq_error_iff]
  cases reference answer skip overrides entry <;> simp

/-- None of the outcomes that settle some entries is a failure exactly if no entry gives cause
for complaint. -/
theorem Settles.forall_isFail_iff {list : List MatrixEntry} {done : List Entry}
    (settles : Settles answer skip overrides list (.ok done)) :
    (∀ outcome ∈ done, outcome.verdict.isFail = false) ↔
      ∀ entry ∈ list, Unobjectionable answer skip overrides entry := by
  have paired : list.map (referenceEntry answer skip overrides) = done.map .ok := settles
  constructor
  · intro harmless entry among
    have listed : referenceEntry answer skip overrides entry ∈ done.map Except.ok :=
      paired ▸ List.mem_map_of_mem among
    obtain ⟨outcome, present, told⟩ := List.mem_map.mp listed
    exact (isFail_eq_false_iff (reference_of_referenceEntry told.symm)).mp
      (harmless outcome present)
  · intro clean outcome present
    have listed : Except.ok outcome ∈ list.map (referenceEntry answer skip overrides) :=
      paired ▸ List.mem_map_of_mem present
    obtain ⟨entry, among, told⟩ := List.mem_map.mp listed
    exact (isFail_eq_false_iff (reference_of_referenceEntry told)).mpr (clean entry among)

/-- A report passes exactly if the catalog has no gaps, the declared sizes of the selected
structures are those of their definitions, and no selected entry gives cause for complaint. -/
theorem Settles.passed_iff {c : Catalog} {names : List String} {done : List Entry}
    (settles : Settles answer c.skipList overrides ((Matrix.ofCatalog c).selection names)
      (.ok done)) :
    (reportOf c ⟨(Matrix.ofCatalog c).selection names⟩ done).passed = true ↔
      c.gaps = ∅ ∧
      (∀ entry ∈ (Matrix.ofCatalog c).selection names, c.Sized entry.name) ∧
      ∀ entry ∈ (Matrix.ofCatalog c).selection names,
        Unobjectionable answer c.skipList overrides entry := by
  have complete : c.gaps.toList.isEmpty = true ↔ c.gaps = ∅ := by
    rw [List.isEmpty_iff, OrderedSet.toList_eq_nil_iff]
  have sized : (Matrix.sizeChecks ⟨(Matrix.ofCatalog c).selection names⟩).all SizeCheck.passed =
      true ↔ ∀ entry ∈ (Matrix.ofCatalog c).selection names, c.Sized entry.name := by
    rw [Matrix.sizeChecks, List.all_map, List.all_eq_true]
    apply forall₂_congr
    intro entry among
    exact Catalog.passed_sizeCheck_iff (Matrix.mem_selection.mp among).1
  have clean : (done.all fun outcome => !outcome.verdict.isFail) = true ↔
      ∀ entry ∈ (Matrix.ofCatalog c).selection names,
        Unobjectionable answer c.skipList overrides entry := by
    rw [← settles.forall_isFail_iff, List.all_eq_true]
    simp
  rw [reportOf_eq, Bool.and_eq_true, Bool.and_eq_true, complete, sized, clean, and_assoc]

variable {σ : Type} {compiler : Compiler σ} {cache : ProbeCache}

/-- What a run comes to if the compiler always answers alike: all that a memory changes is where
the answers about headers are looked for, and the memory that is left changes nothing more. -/
theorem conform_consulted (steady : compiler.Steady answer) (c : Catalog) (names : List String)
    (oracle : Oracle) (state : σ) :
    (conform compiler c names oracle state).1 =
      (match (Matrix.ofCatalog c).select names with
      | .error missing => .error (.notInMatrix missing)
      | .ok matrix =>
        (matrix.entries.mapM (judgedEntry answer c.skipList oracle.overrides
          (oracle.cache.consulted (Compiler.includable answer)))).map (reportOf c matrix)) ∧
    (conform compiler c names oracle state).2.1.overrides = oracle.overrides ∧
    (conform compiler c names oracle state).2.1.cache.consulted (Compiler.includable answer) =
      oracle.cache.consulted (Compiler.includable answer) := by
  rw [conform]
  cases (Matrix.ofCatalog c).select names with
  | error missing => exact ⟨rfl, rfl, rfl⟩
  | ok matrix =>
      obtain ⟨told, kept⟩ := entries_consulted c.skipList oracle.overrides steady matrix.entries
        oracle.cache state
      simp only [← told]
      revert kept
      rcases entries compiler c.skipList oracle.overrides matrix.entries oracle.cache state with
        ⟨_ | done, later, after⟩
      · exact fun kept => ⟨rfl, rfl, kept⟩
      · exact fun kept => ⟨rfl, rfl, kept⟩

/-- A report of a run is made of outcomes that do not hang on each other, each of an entry that
was selected. -/
theorem exists_done_of_report (steady : compiler.Steady answer) {c : Catalog}
    {names : List String} {oracle : Oracle} {state : σ} {report : Report}
    (ran : (conform compiler c names oracle state).1 = .ok report) :
    ∃ done, (Matrix.ofCatalog c).select names = .ok ⟨(Matrix.ofCatalog c).selection names⟩ ∧
      ((Matrix.ofCatalog c).selection names).mapM (judgedEntry answer c.skipList oracle.overrides
        (oracle.cache.consulted (Compiler.includable answer))) = .ok done ∧
      report = reportOf c ⟨(Matrix.ofCatalog c).selection names⟩ done := by
  rw [(conform_consulted steady c names oracle state).1] at ran
  cases selected : (Matrix.ofCatalog c).select names with
  | error missing =>
      rw [selected] at ran
      cases ran
  | ok matrix =>
      obtain ⟨_, rfl⟩ := Matrix.select_eq_ok_iff.mp selected
      simp only [selected] at ran
      cases all : ((Matrix.ofCatalog c).selection names).mapM (judgedEntry answer c.skipList
          oracle.overrides (oracle.cache.consulted (Compiler.includable answer))) with
      | error failure =>
          rw [all] at ran
          cases ran
      | ok done =>
          rw [all] at ran
          cases ran
          exact ⟨done, rfl, rfl, rfl⟩

/-- What a run comes to under agreement. -/
theorem conform_fst (steady : compiler.Steady answer)
    (agrees : cache.Agrees (Compiler.includable answer)) (c : Catalog) (names : List String)
    (overrides : Overrides) (state : σ) :
    (conform compiler c names ⟨overrides, cache⟩ state).1 =
      match (Matrix.ofCatalog c).select names with
      | .error missing => .error (.notInMatrix missing)
      | .ok matrix =>
        (matrix.entries.mapM (referenceEntry answer c.skipList overrides)).map
          (reportOf c matrix) := by
  have told := (conform_consulted steady c names ⟨overrides, cache⟩ state).1
  simp only [ProbeCache.agrees_iff.mp agrees, judgedEntry_includable] at told
  exact told

/-- A run gives a report exactly if all requested names have entries and no selected entry
meets an error that spoils every compile. -/
theorem exists_report_iff (steady : compiler.Steady answer)
    (agrees : cache.Agrees (Compiler.includable answer)) (c : Catalog) (names : List String)
    (overrides : Overrides) (state : σ) :
    (∃ report, (conform compiler c names ⟨overrides, cache⟩ state).1 = .ok report) ↔
      (Matrix.ofCatalog c).Covers names ∧
      ∀ entry ∈ (Matrix.ofCatalog c).selection names,
        ¬ MeetsFatal answer c.skipList overrides entry := by
  rw [conform_fst steady agrees]
  cases selected : (Matrix.ofCatalog c).select names with
  | error missing =>
      have uncovered : ¬ (Matrix.ofCatalog c).Covers names := by
        intro covered
        cases selected.symm.trans (Matrix.select_eq_ok_iff.mpr ⟨covered, rfl⟩)
      simp [uncovered]
  | ok matrix =>
      obtain ⟨covered, rfl⟩ := Matrix.select_eq_ok_iff.mp selected
      have settles : Settles answer c.skipList overrides _ _ :=
        settles_mapM ((Matrix.ofCatalog c).selection names)
      rw [← settles.exists_ok_iff]
      simp only [covered, true_and]
      cases ((Matrix.ofCatalog c).selection names).mapM
        (referenceEntry answer c.skipList overrides) <;> simp [Except.map]

/-- A report of a run is made of outcomes that settle the selected entries. -/
theorem settles_of_conform (steady : compiler.Steady answer)
    (agrees : cache.Agrees (Compiler.includable answer)) {c : Catalog} {names : List String}
    {overrides : Overrides} {state : σ} {report : Report}
    (ran : (conform compiler c names ⟨overrides, cache⟩ state).1 = .ok report) :
    ∃ done, Settles answer c.skipList overrides ((Matrix.ofCatalog c).selection names) (.ok done) ∧
      report = reportOf c ⟨(Matrix.ofCatalog c).selection names⟩ done := by
  obtain ⟨done, _, all, whole⟩ := exists_done_of_report steady ran
  rw [ProbeCache.agrees_iff.mp agrees, judgedEntry_includable] at all
  have settles : Settles answer c.skipList overrides ((Matrix.ofCatalog c).selection names) _ :=
    settles_mapM ((Matrix.ofCatalog c).selection names)
  rw [all] at settles
  exact ⟨done, settles, whole⟩

/-- What a run needs in order to pass. -/
structure Sound (answer : String → Except CompileError Unit) (overrides : Overrides)
    (c : Catalog) (names : List String) : Prop where
  requested : (Matrix.ofCatalog c).Covers names
  complete : c.gaps = ∅
  sized : ∀ entry ∈ (Matrix.ofCatalog c).selection names, c.Sized entry.name
  usable : ∀ entry ∈ (Matrix.ofCatalog c).selection names,
    ¬ MeetsFatal answer c.skipList overrides entry
  clean : ∀ entry ∈ (Matrix.ofCatalog c).selection names,
    Unobjectionable answer c.skipList overrides entry

/-- Outcomes that settle what was requested make a report that passes exactly if the run is
sound. -/
theorem Settles.passed_iff_sound {c : Catalog} {names : List String} {done : List Entry}
    (covered : (Matrix.ofCatalog c).Covers names)
    (settles : Settles answer c.skipList overrides ((Matrix.ofCatalog c).selection names)
      (.ok done)) :
    (reportOf c ⟨(Matrix.ofCatalog c).selection names⟩ done).passed = true ↔
      Sound answer overrides c names := by
  have usable := settles.exists_ok_iff.mp ⟨done, rfl⟩
  rw [settles.passed_iff]
  constructor
  · rintro ⟨complete, sized, clean⟩
    exact ⟨covered, complete, sized, usable, clean⟩
  · intro sound
    exact ⟨sound.complete, sound.sized, sound.clean⟩

/-- A report of a run passes exactly if the run is sound. -/
theorem passed_iff_sound (steady : compiler.Steady answer)
    (agrees : cache.Agrees (Compiler.includable answer)) {c : Catalog} {names : List String}
    {overrides : Overrides} {state : σ} {report : Report}
    (ran : (conform compiler c names ⟨overrides, cache⟩ state).1 = .ok report) :
    report.passed = true ↔ Sound answer overrides c names := by
  have covered := ((exists_report_iff steady agrees c names overrides state).mp ⟨report, ran⟩).1
  obtain ⟨done, settles, rfl⟩ := settles_of_conform steady agrees ran
  exact settles.passed_iff_sound covered

/-- A run gives a report that passes exactly if it is sound. -/
theorem exists_passed_iff_sound (steady : compiler.Steady answer)
    (agrees : cache.Agrees (Compiler.includable answer)) (c : Catalog) (names : List String)
    (overrides : Overrides) (state : σ) :
    (∃ report, (conform compiler c names ⟨overrides, cache⟩ state).1 = .ok report ∧
      report.passed = true) ↔ Sound answer overrides c names := by
  constructor
  · rintro ⟨report, ran, passes⟩
    exact (passed_iff_sound steady agrees ran).mp passes
  · intro sound
    obtain ⟨report, ran⟩ := (exists_report_iff steady agrees c names overrides state).mpr
      ⟨sound.requested, sound.usable⟩
    exact ⟨report, ran, (passed_iff_sound steady agrees ran).mpr sound⟩

end Reports

end Run

end NativeLayout
