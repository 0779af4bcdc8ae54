/-
# Workers agree about headers

The compiler may answer differently each time, and yet all workers of a run are of one
mind about headers, because each goes on with what the memory has and not with what its
own probe was told. So everything that happened in a run can be told from the memory at
its end: an entry was skipped for its headers exactly if a walk that asks nothing but
that memory refuses them.

Entries that differ in their headers may be told of different things, and what the
compiler says about assertions is not remembered at all.
-/

import NativeLayout.Proofs.Run.Memory
import NativeLayout.Proofs.Run.Outlook
import NativeLayout.Proofs.Run.Progress

namespace NativeLayout

/-- What a memory answers by itself; there is an error in the place of an answer that it has
not. -/
def ProbeCache.recall (memory : ProbeCache) (sequence : HeaderSet) : Except Unit Bool :=
  (memory.get? sequence).elim (.error ()) .ok

variable {σ : Type} {compiler : Compiler σ} {skip : SkipList} {overrides : Overrides}

namespace Phase

/-- What a worker finds out about its headers from a phase on if all answers are those of a
memory. -/
def foreseen (memory : ProbeCache) (overrides : Overrides) (headers : HeaderSet) :
    Phase → Except Unit Bool
  | gate => Oracle.reference overrides memory.recall ∅ headers.toList
  | lookUp sequence rest | probe sequence rest | remember sequence _ rest =>
    match memory.recall sequence with
    | .ok true => Oracle.reference overrides memory.recall sequence rest
    | other => other
  | compile => .ok true
  | done (.ok verdict) => .ok (verdict != .skip .headersUnsupported)
  | done (.error _) => .error ()

variable {memory : ProbeCache} {headers sequence : HeaderSet} {known : Bool}

theorem foreseen_onward (memory : ProbeCache) (overrides : Overrides) (headers before : HeaderSet)
    (rest : List String) :
    (onward overrides before rest).foreseen memory overrides headers =
      Oracle.reference overrides memory.recall before rest := by
  apply eq_reference_onward (foreseen memory overrides headers) id overrides memory.recall
  · rfl
  · rfl
  · intro sequence rest
    rw [foreseen]
    rcases memory.recall sequence with _ | _ | _ <;> rfl

/-- Going on with an answer of the memory leads where asking the memory would. -/
theorem foreseen_answered (present : memory.get? sequence = some known) (rest : List String) :
    (answered overrides sequence rest known).foreseen memory overrides headers =
      (lookUp sequence rest).foreseen memory overrides headers := by
  rw [foreseen, ProbeCache.recall, present]
  cases known with
  | true => exact foreseen_onward memory overrides headers sequence rest
  | false => rfl

/-- Headers whose entry has been compiled could be included. -/
theorem included_of_unitVerdict {name : String} {answer : Except CompileError Unit}
    {included : Bool} (found : (done (Run.unitVerdict name answer)).foreseen memory overrides
      headers = .ok included) : included = true := by
  rcases answer with (_ | _ | _) | _ <;> cases found <;> rfl

/-- If a step leads on to what is found out about headers, then it was to be foreseen before, as
long as its answers are those of the memory. -/
theorem foreseen_of_step {entry : MatrixEntry} {phase : Phase} {cache : ProbeCache} {state : σ}
    (admitted : Run.structGate? overrides entry.name = none)
    (kept : (phase.step compiler skip overrides entry cache state).2.1.KeptBy memory)
    {included : Bool}
    (later : (phase.step compiler skip overrides entry cache state).1.foreseen memory overrides
      entry.headers = .ok included) :
    phase.foreseen memory overrides entry.headers = .ok included := by
  cases phase with
  | gate =>
      rw [step, admitted, foreseen_onward] at later
      exact later
  | lookUp sequence rest =>
      rw [step] at kept later
      cases found : cache.get? sequence with
      | none =>
          rw [found] at later
          exact later
      | some known =>
          rw [found] at kept later
          rw [foreseen_answered (kept sequence known found)] at later
          exact later
  | probe sequence rest =>
      rw [step] at later
      rcases told : compiler.probe sequence state with ⟨failure | found, after⟩
      · rw [told] at later
        cases later
      · rw [told] at later
        exact later
  | remember sequence answer rest =>
      have present := kept sequence _ (cache.get?_remember_self sequence answer)
      exact (foreseen_answered present rest).symm.trans later
  | compile =>
      cases included_of_unitVerdict later
      rfl
  | done result => exact later

end Phase

namespace Crew

variable {memory : ProbeCache}

/-- What a worker has found out about its headers was to be foreseen at any time before, from the
memory at the end. -/
theorem foreseen_of_run {crew : Crew σ} {schedule : List Nat}
    (kept : (crew.run compiler skip overrides schedule).cache.KeptBy memory) {i : Nat}
    {worker : Worker} (present : crew.workers[i]? = some worker)
    (admitted : Run.structGate? overrides worker.entry.name = none) :
    ∃ phase, (crew.run compiler skip overrides schedule).workers[i]? =
        some { worker with phase } ∧
      ∀ included, phase.foreseen memory overrides worker.entry.headers = .ok included →
        worker.phase.foreseen memory overrides worker.entry.headers = .ok included := by
  induction schedule generalizing crew worker with
  | nil => exact ⟨worker.phase, present, fun _ => id⟩
  | cons turn rest ih =>
      by_cases same : turn = i
      · subst same
        have stepped := step_worker_self compiler skip overrides crew present
        obtain ⟨phase, there, onward⟩ := ih kept stepped admitted
        refine ⟨phase, there, fun included found => ?_⟩
        have before : (crew.step compiler skip overrides turn).cache.KeptBy memory :=
          (keptBy_run compiler skip overrides _ rest).trans kept
        rw [step_of_getElem? skip overrides present] at before
        exact Phase.foreseen_of_step admitted before (onward included found)
      · have still : (crew.step compiler skip overrides turn).workers[i]? = some worker := by
          rw [step_worker_of_ne compiler skip overrides crew same, present]
        exact ih kept still admitted

/-- An entry that passed the structure gate was skipped for its headers exactly if the memory at
the end refuses them. -/
theorem reference_recall_of_done {entries : List MatrixEntry} {cache : ProbeCache} {state : σ}
    {schedule : List Nat} {worker : Worker} {verdict : Verdict}
    (among : worker ∈ ((start entries cache state).run compiler skip overrides schedule).workers)
    (admitted : Run.structGate? overrides worker.entry.name = none)
    (done : worker.phase = .done (.ok verdict)) :
    Oracle.reference overrides
        ((start entries cache state).run compiler skip overrides schedule).cache.recall ∅
        worker.entry.headers.toList = .ok (verdict != .skip .headersUnsupported) := by
  obtain ⟨i, present⟩ := List.mem_iff_getElem?.mp among
  have own := getElem?_entries compiler skip overrides present
  obtain ⟨phase, there, foreseen⟩ :=
    foreseen_of_run (.refl _) (getElem?_start own cache state) admitted
  rw [present] at there
  have last : worker.phase = phase := congrArg Worker.phase (Option.some.inj there)
  apply foreseen
  rw [← last, done]
  rfl

/-- All workers are of one mind, whatever the compiler answers at each time. Take any entries, a
memory and any schedule. An answer that is remembered at some time is remembered unchanged at
all later times. Questions about one sequence that get an answer get the same, and a probe of
that sequence gave it unless it was remembered from the start. So two entries with the same
headers that both pass the structure gate and get a verdict are both skipped for their headers
or both not. -/
theorem run_unanimous (compiler : Compiler σ) (skip : SkipList) (overrides : Overrides)
    (entries : List MatrixEntry) (cache : ProbeCache) (state : σ) (schedule : List Nat) :
    let begun := start entries cache state
    let crew := begun.run compiler skip overrides schedule
    let told := begun.trace compiler skip overrides schedule
    (∀ more sequence known, crew.cache.get? sequence = some known →
      (crew.run compiler skip overrides more).cache.get? sequence = some known) ∧
    (∀ sequence first second, .returned sequence (.ok first) ∈ told →
      .returned sequence (.ok second) ∈ told → first = second) ∧
    (∀ sequence known, .returned sequence (.ok known) ∈ told →
      cache.get? sequence = some known ∨ .probed sequence (.ok known) ∈ told) ∧
    (∀ first ∈ crew.workers, ∀ second ∈ crew.workers,
      first.entry.headers = second.entry.headers →
      Run.structGate? overrides first.entry.name = none →
      Run.structGate? overrides second.entry.name = none →
      ∀ verdict other, first.phase = .done (.ok verdict) → second.phase = .done (.ok other) →
        (verdict = .skip .headersUnsupported ↔ other = .skip .headersUnsupported)) := by
  intro begun crew told
  have sourced : crew.Sourced cache told :=
    (sourced_start entries cache state).run compiler skip overrides schedule
  refine ⟨fun more => keptBy_run compiler skip overrides crew more, ?_, ?_, ?_⟩
  · intro sequence first second one another
    have remembered := get?_of_mem_trace one
    exact Option.some.inj (remembered.symm.trans (get?_of_mem_trace another))
  · intro sequence known returned
    exact sourced.memory sequence known (get?_of_mem_trace returned)
  · intro first among second inside same admitted passed verdict other done ended
    have one := reference_recall_of_done among admitted done
    have another := reference_recall_of_done inside passed ended
    rw [same, another] at one
    have alike := Except.ok.inj one
    constructor
    · rintro rfl
      simpa using alike
    · rintro rfl
      simpa using alike

/-- A compiler that accepts a source and refuses the next by turns. -/
def fickle : Compiler Bool := fun _ willing =>
  (if willing then .ok () else .error (.failed "no such header\n"), !willing)

/-- Two structures of one header. -/
def twins : List MatrixEntry :=
  ["itimerspec", "timespec"].map fun name =>
    ⟨.singleton "time.h", { name, style := .tag, fields := [], size := 16 }⟩

/-- Both workers probe the header and are told different things. The second is faster to put its
answer into the memory, and the first goes on with it too. -/
theorem run_unanimous_twins :
    let told := (start twins ∅ true).trace fickle ∅ {} [0, 1, 0, 1, 0, 1, 1, 0]
    .probed (.singleton "time.h") (.ok true) ∈ told ∧
      .probed (.singleton "time.h") (.ok false) ∈ told ∧
      ∀ known, .returned (.singleton "time.h") (.ok known) ∈ told → known = false := by
  intro told
  have shown : told =
      [.probed (.singleton "time.h") (.ok true), .probed (.singleton "time.h") (.ok false),
        .returned (.singleton "time.h") (.ok false),
        .returned (.singleton "time.h") (.ok false)] := rfl
  obtain ⟨_, alike, _⟩ := run_unanimous fickle ∅ {} twins ∅ true [0, 1, 0, 1, 0, 1, 1, 0]
  refine ⟨?_, ?_, fun known returned => ?_⟩
  · rw [shown]
    exact List.mem_cons_self
  · rw [shown]
    exact List.mem_cons_of_mem _ List.mem_cons_self
  · apply alike (.singleton "time.h") known false returned
    change _ ∈ told
    rw [shown]
    exact List.mem_cons_of_mem _ (List.mem_cons_of_mem _ List.mem_cons_self)

end Crew

end NativeLayout
