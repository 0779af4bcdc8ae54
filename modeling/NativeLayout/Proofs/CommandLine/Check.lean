/-
# How a check ends

The command that checks a catalog ends with code 0 exactly if it gets as far as its run
and the run is sound. What was skipped counts as nothing wrong, and what is wrong with the
catalog counts whatever was selected.

The text that a check writes is not spoken of.
-/

import NativeLayout.CommandLine.Execute
import NativeLayout.Proofs.Lists
import NativeLayout.Proofs.Run.Passing

namespace NativeLayout

namespace CommandLine

/-- The overrides of a check under a configuration. -/
def overridesOf (configuration : Configuration) (strict : Bool) : Overrides :=
  let configured := Oracle.ofConfig configuration.capabilities
  (if strict then configured.mapOverrides (·.withPolicy .skip) else configured).overrides

/-- The compiler that a pipeline is on a host always answers alike. -/
theorem steady_compilerOn (host : Host) (pipeline : Pipeline) :
    (compilerOn host pipeline).Steady fun source => (compilerOn host pipeline source ()).1 :=
  fun _ _ => rfl

/-- Everything that a check needs before its run. -/
structure Prepared (host : Host) (path : Option String) (format : String) (target : Option String)
    (configuration : Configuration) (c : Catalog) (pipeline : Pipeline) : Prop where
  known : (ReportFormat.parse? format).isSome = true
  configured : configurationOf host = .ok configuration
  loaded : catalogOf host path = .ok c
  found : pipelineOf host (configuration.settings.withTarget target) = .ok pipeline

variable {host : Host} {names : List String} {path : Option String} {format : String}
  {strict verbose : Bool} {target : Option String} {configuration : Configuration}
  {c : Catalog} {pipeline : Pipeline}

/-- A check that has all it needs ends as its run does. -/
theorem check_of_prepared (prepared : Prepared host path format target configuration c pipeline)
    (names : List String) (strict verbose : Bool) :
    ∃ chosen, check host names path format strict target verbose =
      ((Run.conform (compilerOn host pipeline) c names
        ⟨overridesOf configuration strict, ∅⟩ ()).1.mapError runErrorChain).map fun report =>
          { code := if report.passed then 0 else 1
            stdout := (withToolchain pipeline report).write chosen verbose } := by
  obtain ⟨chosen, known⟩ := Option.isSome_iff_exists.mp prepared.known
  refine ⟨chosen, ?_⟩
  rw [check, known, prepared.configured, prepared.loaded]
  have same : (if strict = true then
      (Oracle.ofConfig configuration.capabilities).mapOverrides (·.withPolicy .skip)
      else Oracle.ofConfig configuration.capabilities) =
        ⟨overridesOf configuration strict, ∅⟩ := by
    cases strict <;> rfl
  simp only [bind, Except.bind, prepared.found, same]
  cases (Run.conform (compilerOn host pipeline) c names
    ⟨overridesOf configuration strict, ∅⟩ ()).1 <;> rfl

/-- A check that has all it needs ends with code 0 exactly if its run gives a report that
passes. -/
theorem code_of_prepared (prepared : Prepared host path format target configuration c pipeline)
    (names : List String) (strict verbose : Bool) :
    (Outcome.ofResult (check host names path format strict target verbose)).code = 0 ↔
      ∃ report, (Run.conform (compilerOn host pipeline) c names
        ⟨overridesOf configuration strict, ∅⟩ ()).1 = .ok report ∧ report.passed = true := by
  obtain ⟨chosen, same⟩ := check_of_prepared prepared names strict verbose
  rw [same]
  cases (Run.conform (compilerOn host pipeline) c names
      ⟨overridesOf configuration strict, ∅⟩ ()).1 with
  | error failure => simp [Except.mapError, Except.map, Outcome.ofResult, Outcome.failure]
  | ok report =>
      cases passes : report.passed <;>
        simp [Except.mapError, Except.map, Outcome.ofResult, passes]

/-- A check that ends without an error had all it needs. -/
theorem exists_prepared_of_check {outcome : Outcome}
    (ended : check host names path format strict target verbose = .ok outcome) :
    ∃ configuration c pipeline, Prepared host path format target configuration c pipeline := by
  rw [check] at ended
  cases known : ReportFormat.parse? format with
  | none =>
      rw [known] at ended
      cases ended
  | some chosen =>
      rw [known] at ended
      obtain ⟨configuration, configured, ended⟩ := bind_eq_ok_iff.mp ended
      obtain ⟨c, loaded, ended⟩ := bind_eq_ok_iff.mp ended
      obtain ⟨pipeline, found, _⟩ := bind_eq_ok_iff.mp ended
      have shown : (ReportFormat.parse? format).isSome = true := by
        rw [known]
        rfl
      exact ⟨configuration, c, pipeline, shown, configured, loaded, found⟩

/-- A check ends with code 0 exactly if it has all it needs for its run and the run is sound. -/
theorem code_check_eq_zero_iff (jobs : Option Nat) :
    (execute host verbose (.check names path format jobs strict target)).code = 0 ↔
      ∃ configuration c pipeline,
        Prepared host path format target configuration c pipeline ∧
        Run.Sound (fun source => (compilerOn host pipeline source ()).1)
          (overridesOf configuration strict) c names := by
  have sound_iff (configuration : Configuration) (c : Catalog) (pipeline : Pipeline) :=
    Run.exists_passed_iff_sound (steady_compilerOn host pipeline) (ProbeCache.agrees_empty _) c
      names (overridesOf configuration strict) ()
  rw [execute]
  constructor
  · intro zero
    cases ended : check host names path format strict target verbose with
    | error message =>
        rw [ended] at zero
        cases zero
    | ok outcome =>
        obtain ⟨configuration, c, pipeline, prepared⟩ := exists_prepared_of_check ended
        have passes := (code_of_prepared prepared names strict verbose).mp zero
        exact ⟨configuration, c, pipeline, prepared, (sound_iff configuration c pipeline).mp passes⟩
  · rintro ⟨configuration, c, pipeline, prepared, sound⟩
    apply (code_of_prepared prepared names strict verbose).mpr
    exact (sound_iff configuration c pipeline).mpr sound

end CommandLine

namespace Run

/-- Which runs pass. Take a compiler that always answers alike, a catalog, some names and an
oracle that remembers nothing. The run gives a report that passes exactly if it is sound: all
names have entries, the whole catalog has no gaps, the declared sizes of the selected structures
are those of their definitions, and each selected entry meets no error that spoils every compile
and is not admitted, or has headers that cannot be included, or has assertions that the compiler
accepts. A report of a run that is not sound does not pass. Workers that come to an end under
any schedule make a report with the same mark, and a check ends with code 0 exactly if it gets
as far as a run that is sound. -/
theorem passes_iff_sound (answer : String → Except CompileError Unit) (overrides : Overrides)
    (c : Catalog) (names : List String) :
    let compiler := Compiler.constant answer
    let result := (conform compiler c names ⟨overrides, ∅⟩ ()).1
    let selected := (Matrix.ofCatalog c).selection names
    ((∃ report, result = .ok report ∧ report.passed = true) ↔ Sound answer overrides c names) ∧
    (∀ report, result = .ok report → ¬ Sound answer overrides c names →
      report.passed = false) ∧
    ((∃ report, result = .ok report) ↔ (Matrix.ofCatalog c).Covers names ∧
      ∀ entry ∈ selected, ¬ MeetsFatal answer c.skipList overrides entry) ∧
    (∀ schedule done, (Matrix.ofCatalog c).Covers names →
      ((Crew.start selected ∅ ()).run compiler c.skipList overrides schedule).Ends (.ok done) →
      ((reportOf c ⟨selected⟩ done).passed = true ↔ Sound answer overrides c names)) ∧
    ∀ host verbose path format jobs strict target,
      (CommandLine.execute host verbose (.check names path format jobs strict target)).code = 0 ↔
        ∃ configuration read pipeline,
          CommandLine.Prepared host path format target configuration read pipeline ∧
          Sound (fun source => (CommandLine.compilerOn host pipeline source ()).1)
            (CommandLine.overridesOf configuration strict) read names := by
  intro compiler result selected
  have steady : compiler.Steady answer := Compiler.steady_constant answer
  have agrees := ProbeCache.agrees_empty (Compiler.includable answer)
  refine ⟨exists_passed_iff_sound steady agrees c names overrides (), ?_,
    exists_report_iff steady agrees c names overrides (), ?_, ?_⟩
  · intro report ran unsound
    rw [← Bool.not_eq_true, passed_iff_sound steady agrees ran]
    exact unsound
  · intro schedule done covered ends
    have coherent : (Crew.start selected ∅ ()).Coherent answer c.skipList overrides :=
      Crew.coherent_start selected agrees ()
    have settles := (coherent.run steady schedule).settles ends
    rw [Crew.map_entry_run, Crew.map_entry_start] at settles
    exact settles.passed_iff_sound covered
  · intro host verbose path format jobs strict target
    exact CommandLine.code_check_eq_zero_iff jobs

/-- A catalog of one structure that is checked. -/
def lingering : Catalog where
  name := "sockets"
  definitions :=
    [{ name := "linger"
       fields := [{ name := "_l_onoff", offset := 0, element := ⟨"c_int", 4⟩ }]
       size := 8 }]
  declaredSizes := (∅ : Dictionary Nat).insert "linger" 8
  checks := [⟨"linger", .singleton "sys/socket.h"⟩]

/-- A compiler that accepts everything makes the run of that catalog sound, and one that can
include the header but accepts nothing else does not. -/
theorem passes_iff_sound_lingering :
    Sound (fun _ => .ok ()) {} lingering ["linger"] ∧
      ¬ Sound (fun source => if source = Source.probe (.singleton "sys/socket.h") then .ok ()
        else .error (.failed "")) {} lingering ["linger"] := by
  constructor
  · apply (passes_iff_sound _ {} lingering ["linger"]).1.mp
    exact ⟨_, rfl, by decide +kernel⟩
  · intro sound
    obtain ⟨report, ran, passes⟩ := (passes_iff_sound _ {} lingering ["linger"]).1.mpr sound
    cases ran
    revert passes
    decide +kernel

end Run

end NativeLayout
