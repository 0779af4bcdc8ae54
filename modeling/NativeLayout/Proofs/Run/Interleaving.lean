/-
# Interleavings do not matter

The workers of a run share one memory and may be scheduled in any order. If the
compiler always answers alike and the memory holds none but its answers at the
start, the order can not be seen: a worker that is done has the reference outcome
of its entry, and the run as a whole ends with the reference outcomes in the order
of the entries if all have one, and else with the failure of an entry that has none.

The statement covers schedules that never let some worker finish. That a run does
end is said of the schedules that have enough turns for everybody.
-/

import NativeLayout.Proofs.Lists
import NativeLayout.Proofs.Run.Outlook
import NativeLayout.Proofs.Run.Progress

namespace NativeLayout

namespace Crew

variable {σ : Type} {answer : String → Except CompileError Unit} {skip : SkipList}
  {overrides : Overrides}

/-- What every interleaving keeps: the memory agrees with the compiler, and each worker is
honest and looks out on the reference outcome of its entry. -/
structure Coherent (answer : String → Except CompileError Unit) (skip : SkipList)
    (overrides : Overrides) (crew : Crew σ) : Prop where
  agrees : crew.cache.Agrees (Compiler.includable answer)
  honest : ∀ worker ∈ crew.workers, worker.phase.Honest answer
  outlook : ∀ worker ∈ crew.workers, worker.phase.outlook answer skip overrides worker.entry =
    Run.reference answer skip overrides worker.entry

theorem coherent_start (entries : List MatrixEntry) {cache : ProbeCache}
    (agrees : cache.Agrees (Compiler.includable answer)) (state : σ) :
    (start entries cache state).Coherent answer skip overrides where
  agrees := agrees
  honest := by
    intro worker among
    obtain ⟨entry, _, rfl⟩ := List.mem_map.mp among
    trivial
  outlook := by
    intro worker among
    obtain ⟨entry, _, rfl⟩ := List.mem_map.mp among
    rfl

/-- A turn of any worker keeps a crew coherent. -/
theorem Coherent.step {crew : Crew σ} (coherent : crew.Coherent answer skip overrides)
    {compiler : Compiler σ} (steady : compiler.Steady answer) (turn : Nat) :
    (crew.step compiler skip overrides turn).Coherent answer skip overrides := by
  rw [Crew.step]
  cases found : crew.workers[turn]? with
  | none => exact coherent
  | some worker =>
      have among : worker ∈ crew.workers := List.mem_of_getElem? found
      obtain ⟨outlook, honest, agrees⟩ := Phase.step_outlook skip overrides worker.entry steady
        (coherent.honest worker among) coherent.agrees crew.state
      refine ⟨agrees, fun other changed => ?_, fun other changed => ?_⟩
      · rcases List.mem_or_eq_of_mem_set changed with old | rfl
        · exact coherent.honest other old
        · exact honest
      · rcases List.mem_or_eq_of_mem_set changed with old | rfl
        · exact coherent.outlook other old
        · exact outlook.trans (coherent.outlook worker among)

theorem Coherent.run {crew : Crew σ} (coherent : crew.Coherent answer skip overrides)
    {compiler : Compiler σ} (steady : compiler.Steady answer) (schedule : List Nat) :
    (crew.run compiler skip overrides schedule).Coherent answer skip overrides := by
  induction schedule generalizing crew with
  | nil => exact coherent
  | cons turn rest ih => exact ih (coherent.step steady turn)

/-- A worker that is done has the reference outcome. -/
theorem Coherent.result {crew : Crew σ} (coherent : crew.Coherent answer skip overrides)
    {worker : Worker} (among : worker ∈ crew.workers) {result : Except RunError Verdict}
    (done : worker.phase = .done result) :
    result = Run.reference answer skip overrides worker.entry := by
  rw [← coherent.outlook worker among, done]
  rfl

theorem outcome?_eq_some {worker : Worker} {outcome : Entry} :
    worker.outcome? = some outcome ↔ ∃ verdict, worker.phase = .done (.ok verdict) ∧
      outcome = { name := worker.entry.name, headers := worker.entry.headers, verdict } := by
  rw [Worker.outcome?]
  split
  · next verdict done =>
      constructor
      · intro same
        exact ⟨verdict, done, (Option.some.inj same).symm⟩
      · rintro ⟨other, again, rfl⟩
        rw [done] at again
        cases again
        rfl
  · next unfinished =>
      constructor
      · intro same
        cases same
      · rintro ⟨verdict, done, _⟩
        exact absurd done (unfinished verdict)

/-- The outcome of a worker under coherence is the reference outcome of its entry. -/
theorem Coherent.referenceEntry {crew : Crew σ} (coherent : crew.Coherent answer skip overrides)
    {worker : Worker} (among : worker ∈ crew.workers) {outcome : Entry}
    (has : worker.outcome? = some outcome) :
    Run.referenceEntry answer skip overrides worker.entry = .ok outcome := by
  obtain ⟨verdict, done, rfl⟩ := outcome?_eq_some.mp has
  rw [Run.referenceEntry, ← coherent.result among done]
  rfl

/-- However a crew under coherence ends, it settles the entries of its workers. -/
theorem Coherent.settles {crew : Crew σ} (coherent : crew.Coherent answer skip overrides)
    {outcome : Except RunError (List Entry)} (ends : crew.Ends outcome) :
    Run.Settles answer skip overrides (crew.workers.map Worker.entry) outcome := by
  cases ends with
  | @finished done all =>
      have same := mapM_eq_some_iff.mp all
      apply List.ext_getElem?
      intro i
      have there := congrArg (fun list : List (Option Entry) => list[i]?) same
      simp only [List.getElem?_map] at there ⊢
      cases found : crew.workers[i]? with
      | none =>
          rw [found] at there
          cases kept : done[i]? with
          | none => rfl
          | some outcome => rw [kept] at there; cases there
      | some worker =>
          rw [found] at there
          cases kept : done[i]? with
          | none => rw [kept] at there; cases there
          | some outcome =>
              rw [kept] at there
              have has : worker.outcome? = some outcome := Option.some.inj there
              exact congrArg some
                (coherent.referenceEntry (List.mem_of_getElem? found) has)
  | @failed worker failure among error =>
      have reference := (coherent.result among error).symm
      obtain ⟨cause, fatal, named⟩ := Run.reference_error reference
      exact ⟨worker.entry, List.mem_map_of_mem among, cause, fatal, named, reference⟩

/-- A crew whose workers are all done has ended. -/
theorem exists_ends {crew : Crew σ}
    (all : ∀ worker ∈ crew.workers, ∃ result, worker.phase = .done result) :
    (∃ done, crew.Ends (.ok done)) ∨ ∃ failure, crew.Ends (.error failure) := by
  by_cases failing : ∃ worker ∈ crew.workers, ∃ failure, worker.phase = .done (.error failure)
  · obtain ⟨worker, among, failure, error⟩ := failing
    exact .inr ⟨failure, .failed among error⟩
  · have outcomes : ∀ worker ∈ crew.workers, ∃ outcome, worker.outcome? = some outcome := by
      intro worker among
      obtain ⟨result, done⟩ := all worker among
      cases result with
      | error failure => exact absurd ⟨worker, among, failure, done⟩ failing
      | ok verdict => exact ⟨_, outcome?_eq_some.mpr ⟨verdict, done, rfl⟩⟩
    obtain ⟨done, same⟩ := exists_map_some outcomes
    exact .inl ⟨done, .finished (mapM_eq_some_iff.mpr same)⟩

/-- Scheduling can not be noticed. Take a compiler that always answers alike, a memory that
holds none but its answers, and any schedule. Each worker that is done has the reference
outcome of its entry, and if the run ends it settles the entries: with their reference
outcomes in order, or with the failure of an entry that has none. A schedule with enough
turns for every worker lets the run end with outcomes exactly if no entry fails, and with a
failure exactly if one does. Taking the entries one after another settles them as well. -/
theorem run_schedule_independent (answer : String → Except CompileError Unit) (skip : SkipList)
    (overrides : Overrides) (entries : List MatrixEntry) {cache : ProbeCache}
    (agrees : cache.Agrees (Compiler.includable answer)) (schedule : List Nat) :
    let compiler := Compiler.constant answer
    let crew := (start entries cache ()).run compiler skip overrides schedule
    crew.workers.map Worker.entry = entries ∧
    (∀ worker ∈ crew.workers, ∀ result, worker.phase = .done result →
      result = Run.reference answer skip overrides worker.entry) ∧
    (∀ outcome, crew.Ends outcome → Run.Settles answer skip overrides entries outcome) ∧
    (Suffices entries schedule →
      ((∃ done, crew.Ends (.ok done)) ↔
        ∀ entry ∈ entries, ∃ verdict, Run.reference answer skip overrides entry = .ok verdict) ∧
      ((∃ failure, crew.Ends (.error failure)) ↔
        ∃ entry ∈ entries, ∃ failure,
          Run.reference answer skip overrides entry = .error failure)) ∧
    Run.Settles answer skip overrides entries
      (Run.entries compiler skip overrides entries cache ()).1 := by
  intro compiler crew
  have steady : compiler.Steady answer := Compiler.steady_constant answer
  have coherent : crew.Coherent answer skip overrides :=
    (coherent_start entries agrees ()).run steady schedule
  have same : crew.workers.map Worker.entry = entries := by
    rw [map_entry_run, map_entry_start]
  have settles : ∀ outcome, crew.Ends outcome → Run.Settles answer skip overrides entries outcome :=
    fun outcome ends => same ▸ coherent.settles ends
  refine ⟨same, fun worker among result done => coherent.result among done, settles, ?_, ?_⟩
  · intro enough
    have ended := exists_ends fun worker among =>
      done_of_suffices compiler skip overrides enough cache () among
    refine ⟨⟨?_, ?_⟩, ⟨?_, ?_⟩⟩
    · rintro ⟨done, ends⟩
      exact (settles _ ends).isOk_iff.mp ⟨done, rfl⟩
    · intro none
      rcases ended with succeeded | ⟨failure, ends⟩
      · exact succeeded
      · obtain ⟨done, wrong⟩ := (settles _ ends).isOk_iff.mpr none
        cases wrong
    · rintro ⟨failure, ends⟩
      obtain ⟨entry, among, _, _, _, fails⟩ := settles _ ends
      exact ⟨entry, among, failure, fails⟩
    · rintro ⟨entry, among, failure, fails⟩
      rcases ended with ⟨done, ends⟩ | failed
      · obtain ⟨verdict, passes⟩ := (settles _ ends).isOk_iff.mp ⟨done, rfl⟩ entry among
        rw [fails] at passes
        cases passes
      · exact failed
  · rw [Run.entries_steady skip overrides steady entries agrees ()]
    exact Run.settles_mapM entries

/-- Two structures of one header. -/
def sharing : List MatrixEntry :=
  ["pollfd", "timespec"].map fun name =>
    ⟨.singleton "poll.h", { name, style := .tag, fields := [], size := 8 }⟩

/-- A compiler that can include that header and refuses everything else. -/
def refusing (source : String) : Except CompileError Unit :=
  if source = Source.probe (.singleton "poll.h") then .ok ()
  else .error (.failed "struct pollfd does not have expected size\n")

/-- Two workers by turns come to an end when the header has been probed before. -/
theorem run_schedule_independent_sharing :
    let cache := ((∅ : ProbeCache).remember (.singleton "poll.h") true).2
    let schedule := [0, 1, 0, 1, 0, 1, 0, 1, 0, 1]
    let crew := (start sharing cache ()).run (Compiler.constant refusing) ∅ {} schedule
    cache.Agrees (Compiler.includable refusing) ∧ Suffices sharing schedule ∧
      ∃ done, crew.Ends (.ok done) := by
  intro cache schedule crew
  have agrees : cache.Agrees (Compiler.includable refusing) :=
    (ProbeCache.agrees_empty _).remember rfl
  have enough : Suffices sharing schedule := by
    intro i entry found
    match i with
    | 0 => cases found; decide
    | 1 => cases found; decide
    | _ + 2 => cases found
  have passes : ∀ entry ∈ sharing, ∃ verdict,
      Run.reference refusing ∅ {} entry = .ok verdict := by
    intro entry among
    rcases List.mem_cons.mp among with rfl | among
    · exact ⟨_, rfl⟩
    · cases List.mem_singleton.mp among
      exact ⟨_, rfl⟩
  obtain ⟨_, _, _, ends, _⟩ := run_schedule_independent refusing ∅ {} sharing agrees schedule
  exact ⟨agrees, enough, (ends enough).1.mpr passes⟩

end Crew

end NativeLayout
