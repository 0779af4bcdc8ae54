/-
# Skipping structures of which nothing is recorded

The policy decides about structures without a record and about nothing else. A run that skips
them asks fewer questions than one that compares them, and so it remembers less and at other
times; still, if the compiler always answers alike, every other structure gets the verdict
that it had, and no error comes up that was not there before. What is skipped is no failure,
so a report that passes goes on to pass.

If the run that compares them gives no report, nothing is said of the other one: the error may
have been met for a structure that is then skipped.
-/

import NativeLayout.Proofs.CommandLine.Check
import NativeLayout.Proofs.Run.Selection

namespace NativeLayout

/-- The overrides with the policy of skipping structures of which nothing is recorded. -/
abbrev Overrides.strict (o : Overrides) : Overrides := o.withPolicy .skip

/-- The oracle with the policy of skipping structures of which nothing is recorded. -/
abbrev Oracle.strict (o : Oracle) : Oracle := o.mapOverrides Overrides.strict

/-- The outcome of an entry when structures of which nothing is recorded are skipped. -/
def Entry.tightened (overrides : Overrides) (entry : Entry) : Entry :=
  if overrides.structCapability entry.name = .unknown then
    { entry with verdict := .skip .structureUnknown }
  else entry

/-- A report is another one with the entries skipped whose structures have no record. -/
structure Report.Tightens (report lenient : Report) (overrides : Overrides) : Prop where
  entries : report.entries = lenient.entries.map (Entry.tightened overrides)
  sizeChecks : report.sizeChecks = lenient.sizeChecks
  gaps : report.gaps = lenient.gaps
  passed : lenient.passed = true → report.passed = true

theorem Entry.isFail_of_tightened {overrides : Overrides} {entry : Entry}
    (clean : entry.verdict.isFail = false) :
    (entry.tightened overrides).verdict.isFail = false := by
  rw [tightened]
  split
  · rfl
  · exact clean

/-- The policy has no part in the walk over headers. -/
theorem Oracle.reference_withPolicy {ε : Type} (overrides : Overrides) (policy : UnknownPolicy)
    (answer : HeaderSet → Except ε Bool) (before : HeaderSet) (rest : List String) :
    reference (overrides.withPolicy policy) answer before rest =
      reference overrides answer before rest := by
  induction rest generalizing before with
  | nil => rfl
  | cons header rest ih =>
      rw [reference_cons, reference_cons, ih]
      rfl

namespace Run

variable {σ : Type} {answer : String → Except CompileError Unit} {skip : SkipList}
  {overrides : Overrides} {told : HeaderSet → Except CompileError Bool}

/-- A structure is skipped for want of a record exactly if it has none, and for another reason
exactly if it was before. -/
theorem structGate?_strict (overrides : Overrides) (name : String) :
    structGate? overrides.strict name =
      if overrides.structCapability name = .unknown then some .structureUnknown
      else structGate? overrides name := by
  have recorded : overrides.strict.structCapability name = overrides.structCapability name := rfl
  rw [structGate?, structGate?, Overrides.admits, Overrides.admits, recorded]
  cases overrides.structCapability name <;> rfl

/-- The verdict of an entry whose structure has a record does not hang on the policy. -/
theorem judged_strict (entry : MatrixEntry) :
    judged answer skip overrides.strict told entry =
      if overrides.structCapability entry.name = .unknown then .ok (.skip .structureUnknown)
      else judged answer skip overrides told entry := by
  rw [judged, judged, structGate?_strict, Oracle.reference_withPolicy]
  by_cases unknown : overrides.structCapability entry.name = .unknown
  · rw [if_pos unknown, if_pos unknown]
  · rw [if_neg unknown, if_neg unknown]

theorem judgedEntry_strict {entry : MatrixEntry} {outcome : Entry}
    (found : judgedEntry answer skip overrides told entry = .ok outcome) :
    judgedEntry answer skip overrides.strict told entry = .ok (outcome.tightened overrides) := by
  obtain ⟨named, _⟩ := labels_of_judgedEntry found
  rw [judgedEntry, judged_strict, Entry.tightened, named]
  by_cases unknown : overrides.structCapability entry.name = .unknown
  · rw [judgedEntry] at found
    cases given : judged answer skip overrides told entry with
    | error _ =>
        rw [given] at found
        cases found
    | ok verdict =>
        rw [given] at found
        cases found
        rw [if_pos unknown, if_pos unknown]
        rfl
  · rw [if_neg unknown, if_neg unknown]
    exact found

theorem tightens_reportOf (c : Catalog) (m : Matrix) (overrides : Overrides) (done : List Entry) :
    (reportOf c m (done.map (Entry.tightened overrides))).Tightens (reportOf c m done)
      overrides := by
  simp only [reportOf_eq]
  refine ⟨rfl, rfl, rfl, ?_⟩
  simp only [Bool.and_eq_true, List.all_eq_true, List.forall_mem_map, Bool.not_eq_true']
  rintro ⟨whole, clean⟩
  exact ⟨whole, fun outcome among => Entry.isFail_of_tightened (clean outcome among)⟩

/-- If a run has a report, then so has the run that skips structures without a record. -/
theorem exists_tightened {compiler : Compiler σ} (steady : compiler.Steady answer) {c : Catalog}
    {names : List String} {oracle : Oracle} {state : σ} {lenient : Report}
    (ran : (conform compiler c names oracle state).1 = .ok lenient) (other : σ) :
    ∃ report, (conform compiler c names oracle.strict other).1 = .ok report ∧
      report.Tightens lenient oracle.overrides := by
  obtain ⟨done, selected, all, rfl⟩ := exists_done_of_report steady ran
  refine ⟨_, ?_, tightens_reportOf c _ oracle.overrides done⟩
  have others : ((Matrix.ofCatalog c).selection names).mapM (judgedEntry answer c.skipList
      oracle.strict.overrides (oracle.strict.cache.consulted (Compiler.includable answer))) =
        .ok (done.map (Entry.tightened oracle.overrides)) :=
    mapM_eq_ok_map (fun _ _ => judgedEntry_strict) all
  rw [(conform_consulted steady c names oracle.strict other).1]
  simp only [selected, others]
  rfl

/-- What a run may end with: the entries are taken one after another, or side by side under
any schedule with a memory that agrees with the compiler. -/
inductive Ends (answer : String → Except CompileError Unit) (c : Catalog) (names : List String)
    (oracle : Oracle) : Except RunError Report → Prop
  | inTurn : Ends answer c names oracle (conform (Compiler.constant answer) c names oracle ()).1
  | sideBySide {schedule : List Nat} {outcome : Except RunError (List Entry)}
    (agrees : oracle.cache.Agrees (Compiler.includable answer))
    (covered : (Matrix.ofCatalog c).Covers names)
    (ends : ((Crew.start ((Matrix.ofCatalog c).selection names) oracle.cache ()).run
      (Compiler.constant answer) c.skipList oracle.overrides schedule).Ends outcome) :
    Ends answer c names oracle
      (outcome.map (reportOf c ⟨(Matrix.ofCatalog c).selection names⟩))

/-- If a run that takes the entries in turn has a report, it may end with nothing else. -/
theorem Ends.eq_of_report {c : Catalog} {names : List String} {oracle : Oracle} {report : Report}
    (ran : (conform (Compiler.constant answer) c names oracle ()).1 = .ok report)
    {result : Except RunError Report} (ends : Ends answer c names oracle result) :
    result = .ok report := by
  cases ends with
  | inTurn => exact ran
  | sideBySide agrees covered ends =>
      obtain ⟨done, _, all, rfl⟩ := exists_done_of_report (Compiler.steady_constant answer) ran
      rw [ends_of_mapM agrees all _ ends]
      rfl

/-- A report that a run may end with is the one that it has if it takes the entries in turn. -/
theorem Ends.report {c : Catalog} {names : List String} {oracle : Oracle} {report : Report}
    (ends : Ends answer c names oracle (.ok report)) :
    (conform (Compiler.constant answer) c names oracle ()).1 = .ok report := by
  generalize told : Except.ok report = result at ends
  cases ends with
  | inTurn => rfl
  | @sideBySide schedule outcome agrees covered ends =>
      cases outcome with
      | error _ => cases told
      | ok done =>
          rw [(conform_consulted (Compiler.steady_constant answer) c names oracle ()).1,
            Matrix.select_eq_ok_iff.mpr ⟨covered, rfl⟩]
          simp only [mapM_of_ends agrees schedule ends]

end Run

namespace CommandLine

variable {host : Host} {names : List String} {path target : Option String} {format : String}
  {jobs : Option Nat} {verbose : Bool}

/-- A check that ends with code 0 still does if structures without a record are skipped. -/
theorem code_check_strict
    (passes : (execute host verbose (.check names path format jobs false target)).code = 0) :
    (execute host verbose (.check names path format jobs true target)).code = 0 := by
  obtain ⟨configuration, c, pipeline, prepared, _⟩ := (code_check_eq_zero_iff jobs).mp passes
  obtain ⟨lenient, ran, clean⟩ := (code_of_prepared prepared names false verbose).mp passes
  obtain ⟨report, strict, tightens⟩ :=
    Run.exists_tightened (steady_compilerOn host pipeline) ran ()
  exact (code_of_prepared prepared names true verbose).mpr ⟨report, strict, tightens.passed clean⟩

end CommandLine

namespace Run

variable {answer : String → Except CompileError Unit}

/-- The policy for structures without a record counts for them alone. Take a compiler that always
answers alike, a catalog, some names and an oracle with any memory. If the run may end with a
report, then the run that skips structures of which nothing is recorded ends with a report and
with nothing else, whether the entries are taken in turn or side by side. It has the gaps and
the size checks of the other report and its entries in their order, each with the verdict that
it had unless its structure has no record, and it passes if the other one does. It is the same
if the first run leaves its memory behind. The option of a check for this policy counts whatever
was configured, and a check that ends with code 0 without the option does so with it. -/
theorem strict_tightens (c : Catalog) (names : List String) (oracle : Oracle) :
    (∀ lenient, Ends answer c names oracle (.ok lenient) →
      ∃ report, report.Tightens lenient oracle.overrides ∧
        (∀ result, Ends answer c names oracle.strict result ↔ result = .ok report) ∧
        (conform (Compiler.constant answer) c names
          (conform (Compiler.constant answer) c names oracle ()).2.1.strict ()).1 = .ok report) ∧
    (∀ configuration, CommandLine.overridesOf configuration true =
      (CommandLine.overridesOf configuration false).withPolicy .skip) ∧
    ∀ host verbose path format jobs target,
      (CommandLine.execute host verbose (.check names path format jobs false target)).code = 0 →
      (CommandLine.execute host verbose (.check names path format jobs true target)).code = 0 := by
  refine ⟨fun lenient ends => ?_, fun _ => rfl, fun _ _ _ _ _ _ => CommandLine.code_check_strict⟩
  have steady := Compiler.steady_constant answer
  obtain ⟨report, strict, tightens⟩ := exists_tightened steady ends.report ()
  refine ⟨report, tightens, fun result => ⟨fun ends => ends.eq_of_report strict, ?_⟩, ?_⟩
  · rintro rfl
    rw [← strict]
    exact .inTurn
  · obtain ⟨_, kept, still⟩ := conform_consulted steady c names oracle ()
    have alike : (conform (Compiler.constant answer) c names oracle ()).2.1.strict.overrides =
        oracle.strict.overrides := congrArg Overrides.strict kept
    exact (conform_fst_congr steady c names alike still () ()).trans strict

/-- An oracle that has a record of one structure only, and includes a header without asking. -/
def acquainted : Oracle :=
  { overrides := (Overrides.withStruct {} "timespec" false).withHeader "poll.h" true }

/-- Under a compiler that refuses everything the structure without a record fails if it is
compared; if it is skipped, the report passes, and the other entries are as they were. -/
theorem strict_tightens_acquainted :
    let ends := Ends (fun _ => .error (.failed "")) doubled []
    ∃ lenient report, ends acquainted (.ok lenient) ∧ ends acquainted.strict (.ok report) ∧
      report.Tightens lenient acquainted.overrides ∧
      lenient.passed = false ∧ report.passed = true ∧
      report.entries.map Entry.verdict =
        [.skip .structureUnsupported, .skip .structureUnknown, .skip .structureUnsupported] := by
  intro ends
  obtain ⟨lenient, ended, failed⟩ : ∃ lenient, ends acquainted (.ok lenient) ∧
      lenient.passed = false := ⟨_, .inTurn, by decide +kernel⟩
  obtain ⟨report, tightens, only, _⟩ := (strict_tightens doubled [] acquainted).1 lenient ended
  have strict : ends acquainted.strict (.ok report) := (only _).mpr rfl
  refine ⟨lenient, report, ended, strict, tightens, failed, ?_⟩
  cases strict.report
  exact ⟨by decide +kernel, by decide +kernel⟩

end Run

end NativeLayout
