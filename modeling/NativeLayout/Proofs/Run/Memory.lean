/-
# What a run remembers

The workers of a run share a memory of probe answers. A look-up, a probe and the storing
of its answer are three steps, so two workers may probe one sequence at the same time and
be told different things. Here the compiler may answer differently each time, and what is
followed is the memory: no step changes or forgets an answer, an answer that a worker goes
on with is in the memory from then on, and what is in the memory was there at the start or
has been answered by a probe.

Nothing is said of how often a sequence is probed.
-/

import NativeLayout.Run.Workers

namespace NativeLayout

namespace ProbeCache

variable {cache later : ProbeCache} {sequence : HeaderSet} {known : Bool}

/-- Every answer of one memory is the answer of another. -/
def KeptBy (cache later : ProbeCache) : Prop :=
  ∀ sequence known, cache.get? sequence = some known → later.get? sequence = some known

theorem KeptBy.refl (cache : ProbeCache) : cache.KeptBy cache := fun _ _ => id

theorem KeptBy.trans {last : ProbeCache} (first : cache.KeptBy later) (second : later.KeptBy last) :
    cache.KeptBy last :=
  fun sequence known present => second sequence known (first sequence known present)

/-- An answer that is remembered stays when another is to be put in its place. -/
theorem remember_of_get? (present : cache.get? sequence = some known) (answer : Bool) :
    cache.remember sequence answer = (known, cache) := by
  simp only [remember, present]

/-- The answer that a memory agrees on is the one that it then has. -/
theorem get?_remember_self (cache : ProbeCache) (sequence : HeaderSet) (answer : Bool) :
    (cache.remember sequence answer).2.get? sequence =
      some (cache.remember sequence answer).1 := by
  rw [get?_remember, if_pos rfl]

theorem keptBy_remember (cache : ProbeCache) (sequence : HeaderSet) (answer : Bool) :
    cache.KeptBy (cache.remember sequence answer).2 := by
  intro other known present
  rw [get?_remember]
  by_cases same : sequence = other
  · subst same
    rw [if_pos rfl, remember_of_get? present]
  · rw [if_neg same, present]

/-- What a memory has after an answer was to be put there, it had before, or it is that answer. -/
theorem get?_or_eq_of_remember {asked : HeaderSet} {answer : Bool}
    (present : (cache.remember asked answer).2.get? sequence = some known) :
    cache.get? sequence = some known ∨ (asked, answer) = (sequence, known) := by
  rw [get?_remember] at present
  by_cases same : asked = sequence
  · subst same
    rw [if_pos rfl] at present
    cases stored : cache.get? asked with
    | some first =>
        rw [remember_of_get? stored] at present
        exact .inl present
    | none =>
        rw [remember, stored] at present
        cases present
        exact .inr rfl
  · rw [if_neg same] at present
    exact .inl present

end ProbeCache

/-- What a run shows of the questions that its workers ask. -/
inductive Event
  /-- A sequence was probed; what the probe answered, or why it could not. -/
  | probed (sequence : HeaderSet) (outcome : Except CompileError Bool)
  /-- The question about a sequence got its answer, or the error that kept it from one. -/
  | returned (sequence : HeaderSet) (outcome : Except CompileError Bool)

variable {σ : Type} {compiler : Compiler σ} {skip : SkipList} {overrides : Overrides}
  {sequence : HeaderSet} {known : Bool}

namespace Phase

/-- What one step of a worker shows. -/
def events (compiler : Compiler σ) (phase : Phase) (cache : ProbeCache) (state : σ) :
    List Event :=
  match phase with
  | lookUp sequence _ =>
    match cache.get? sequence with
    | some answer => [.returned sequence (.ok answer)]
    | none => []
  | probe sequence _ =>
    match (compiler.probe sequence state).1 with
    | .ok answer => [.probed sequence (.ok answer)]
    | .error failure => [.probed sequence (.error failure), .returned sequence (.error failure)]
  | remember sequence answer _ =>
    [.returned sequence (.ok (cache.remember sequence answer).1)]
  | gate | compile | done _ => []

/-- The answer of a probe that a worker is about to put into the memory. -/
def held? : Phase → Option (HeaderSet × Bool)
  | remember sequence answer _ => some (sequence, answer)
  | _ => none

theorem held?_onward (overrides : Overrides) (before : HeaderSet) (rest : List String) :
    (onward overrides before rest).held? = none := by
  rcases onward_cases overrides before rest with same | same | ⟨sequence, later, same⟩
  · rw [same]
    rfl
  · rw [same]
    rfl
  · rw [same]
    rfl

theorem held?_answered (overrides : Overrides) (sequence : HeaderSet) (rest : List String)
    (found : Bool) : (answered overrides sequence rest found).held? = none := by
  cases found with
  | true => exact held?_onward overrides sequence rest
  | false => rfl

variable {entry : MatrixEntry} {phase : Phase} {cache : ProbeCache} {state : σ}

/-- Only a worker that holds an answer changes the memory, and it does so by putting the answer
there. -/
theorem step_cache (compiler : Compiler σ) (skip : SkipList) (overrides : Overrides)
    (entry : MatrixEntry) (phase : Phase) (cache : ProbeCache) (state : σ) :
    (phase.step compiler skip overrides entry cache state).2.1 =
      match phase.held? with
      | some (sequence, answer) => (cache.remember sequence answer).2
      | none => cache := by
  cases phase with
  | gate =>
      rw [step]
      cases Run.structGate? overrides entry.name <;> rfl
  | lookUp sequence rest =>
      rw [step]
      cases cache.get? sequence <;> rfl
  | probe sequence rest =>
      rw [step]
      rcases compiler.probe sequence state with ⟨_ | _, _⟩ <;> rfl
  | remember sequence answer rest => rfl
  | compile => rfl
  | done result => rfl

/-- A worker comes to hold an answer only by a probe that gives it. -/
theorem probed_of_held? {answer : Bool}
    (held : (phase.step compiler skip overrides entry cache state).1.held? =
      some (sequence, answer)) :
    .probed sequence (.ok answer) ∈ phase.events compiler cache state := by
  cases phase with
  | gate =>
      rw [step] at held
      cases gated : Run.structGate? overrides entry.name with
      | some reason =>
          rw [gated] at held
          cases held
      | none =>
          rw [gated] at held
          cases (held?_onward overrides ∅ entry.headers.toList).symm.trans held
  | lookUp asked rest =>
      rw [step] at held
      cases found : cache.get? asked with
      | some stored =>
          rw [found] at held
          cases (held?_answered overrides asked rest stored).symm.trans held
      | none =>
          rw [found] at held
          cases held
  | probe asked rest =>
      rw [step] at held
      rw [events]
      rcases told : compiler.probe asked state with ⟨failure | found, later⟩
      · rw [told] at held
        cases held
      · rw [told] at held
        cases held
        exact List.mem_singleton_self _
  | remember asked stored rest =>
      cases (held?_answered overrides asked rest _).symm.trans held
  | compile => cases held
  | done result => cases held

/-- What a step leaves in the memory was there before or was held by the worker. -/
theorem get?_or_held?_of_step
    (present : (phase.step compiler skip overrides entry cache state).2.1.get? sequence =
      some known) : cache.get? sequence = some known ∨ phase.held? = some (sequence, known) := by
  rw [step_cache] at present
  cases held : phase.held? with
  | none =>
      rw [held] at present
      exact .inl present
  | some pair =>
      simp only [held] at present
      exact (ProbeCache.get?_or_eq_of_remember present).imp_right (congrArg some)

/-- A worker goes on with the answer that is returned to it, and then the memory has it. -/
theorem step_of_returned (entry : MatrixEntry) (skip : SkipList) (overrides : Overrides)
    (returned : .returned sequence (.ok known) ∈ phase.events compiler cache state) :
    let after := phase.step compiler skip overrides entry cache state
    (∃ rest, after.1 = answered overrides sequence rest known) ∧
      after.2.1.get? sequence = some known := by
  cases phase with
  | lookUp asked rest =>
      rw [events] at returned
      cases found : cache.get? asked with
      | none =>
          rw [found] at returned
          cases returned
      | some stored =>
          rw [found] at returned
          cases List.mem_singleton.mp returned
          rw [step, found]
          exact ⟨⟨rest, rfl⟩, found⟩
  | probe asked rest =>
      rw [events] at returned
      rcases told : (compiler.probe asked state).1 with failure | found
      · rw [told] at returned
        rcases List.mem_cons.mp returned with same | same
        · cases same
        · cases List.mem_singleton.mp same
      · rw [told] at returned
        cases List.mem_singleton.mp returned
  | remember asked stored rest =>
      cases List.mem_singleton.mp returned
      exact ⟨⟨rest, rfl⟩, cache.get?_remember_self sequence stored⟩
  | gate => cases returned
  | compile => cases returned
  | done result => cases returned

end Phase

namespace Crew

/-- What one turn of a crew shows. -/
def events (compiler : Compiler σ) (crew : Crew σ) (turn : Nat) : List Event :=
  match crew.workers[turn]? with
  | none => []
  | some worker => worker.phase.events compiler crew.cache crew.state

/-- What the turns of a schedule show, in order. -/
def trace (compiler : Compiler σ) (skip : SkipList) (overrides : Overrides) :
    Crew σ → List Nat → List Event
  | _, [] => []
  | crew, turn :: rest =>
    crew.events compiler turn ++
      trace compiler skip overrides (crew.step compiler skip overrides turn) rest

variable {crew : Crew σ} {turn : Nat} {worker : Worker}

theorem step_of_getElem? (skip : SkipList) (overrides : Overrides)
    (present : crew.workers[turn]? = some worker) :
    let after := worker.phase.step compiler skip overrides worker.entry crew.cache crew.state
    crew.step compiler skip overrides turn =
      ⟨crew.workers.set turn { worker with phase := after.1 }, after.2.1, after.2.2⟩ := by
  rw [step, present]

theorem events_of_getElem? (present : crew.workers[turn]? = some worker) :
    crew.events compiler turn = worker.phase.events compiler crew.cache crew.state := by
  rw [events, present]

/-- Nothing happens and nothing is shown in the turn of nobody. -/
theorem step_of_none (compiler : Compiler σ) (skip : SkipList) (overrides : Overrides)
    (absent : crew.workers[turn]? = none) :
    crew.step compiler skip overrides turn = crew ∧ crew.events compiler turn = [] := by
  rw [step, events, absent]
  exact ⟨rfl, rfl⟩

/-- No turn changes or forgets an answer. -/
theorem keptBy_step (compiler : Compiler σ) (skip : SkipList) (overrides : Overrides)
    (crew : Crew σ) (turn : Nat) :
    crew.cache.KeptBy (crew.step compiler skip overrides turn).cache := by
  cases present : crew.workers[turn]? with
  | none =>
      rw [(step_of_none compiler skip overrides present).1]
      exact .refl crew.cache
  | some worker =>
      rw [step_of_getElem? skip overrides present, Phase.step_cache]
      cases worker.phase.held? with
      | none => exact .refl crew.cache
      | some held => exact crew.cache.keptBy_remember held.1 held.2

/-- No schedule changes or forgets an answer. -/
theorem keptBy_run (compiler : Compiler σ) (skip : SkipList) (overrides : Overrides)
    (crew : Crew σ) (schedule : List Nat) :
    crew.cache.KeptBy (crew.run compiler skip overrides schedule).cache := by
  induction schedule generalizing crew with
  | nil => exact .refl crew.cache
  | cons turn rest ih =>
      exact (keptBy_step compiler skip overrides crew turn).trans
        (ih (crew.step compiler skip overrides turn))

/-- An answer that is returned in a turn is remembered after it. -/
theorem get?_of_mem_events
    (returned : .returned sequence (.ok known) ∈ crew.events compiler turn) :
    (crew.step compiler skip overrides turn).cache.get? sequence = some known := by
  cases present : crew.workers[turn]? with
  | none =>
      rw [(step_of_none compiler skip overrides present).2] at returned
      cases returned
  | some worker =>
      rw [events_of_getElem? present] at returned
      rw [step_of_getElem? skip overrides present]
      exact (Phase.step_of_returned worker.entry skip overrides returned).2

/-- An answer that is returned at any time is remembered at the end. -/
theorem get?_of_mem_trace {schedule : List Nat}
    (returned : .returned sequence (.ok known) ∈ crew.trace compiler skip overrides schedule) :
    (crew.run compiler skip overrides schedule).cache.get? sequence = some known := by
  induction schedule generalizing crew with
  | nil => cases returned
  | cons turn rest ih =>
      rcases List.mem_append.mp returned with now | later
      · exact keptBy_run compiler skip overrides (crew.step compiler skip overrides turn) rest
          sequence known (get?_of_mem_events now)
      · exact ih later

/-- Where answers come from: those in the memory were there at the start or have been given by
a probe, and those that workers hold have been given by a probe. -/
structure Sourced (begun : ProbeCache) (told : List Event) (crew : Crew σ) : Prop where
  memory : ∀ sequence known, crew.cache.get? sequence = some known →
    begun.get? sequence = some known ∨ .probed sequence (.ok known) ∈ told
  held : ∀ worker ∈ crew.workers, ∀ sequence answer,
    worker.phase.held? = some (sequence, answer) → .probed sequence (.ok answer) ∈ told

theorem sourced_start (entries : List MatrixEntry) (cache : ProbeCache) (state : σ) :
    (start entries cache state).Sourced cache [] where
  memory := fun sequence known present => .inl present
  held := by
    intro worker among sequence answer held
    obtain ⟨entry, _, rfl⟩ := List.mem_map.mp among
    cases held

/-- A turn keeps the sources known. -/
theorem Sourced.step {begun : ProbeCache} {told : List Event}
    (sourced : crew.Sourced begun told) (compiler : Compiler σ) (skip : SkipList)
    (overrides : Overrides) (turn : Nat) :
    (crew.step compiler skip overrides turn).Sourced begun
      (told ++ crew.events compiler turn) := by
  cases present : crew.workers[turn]? with
  | none =>
      obtain ⟨same, silent⟩ := step_of_none compiler skip overrides present
      rw [same, silent, List.append_nil]
      exact sourced
  | some worker =>
      have among : worker ∈ crew.workers := List.mem_of_getElem? present
      rw [step_of_getElem? skip overrides present, events_of_getElem? present]
      constructor
      · intro sequence known after
        rcases Phase.get?_or_held?_of_step after with before | held
        · exact (sourced.memory sequence known before).imp_right (List.mem_append_left _)
        · exact .inr (List.mem_append_left _ (sourced.held worker among sequence known held))
      · intro other changed sequence answer held
        rcases List.mem_or_eq_of_mem_set changed with old | rfl
        · exact List.mem_append_left _ (sourced.held other old sequence answer held)
        · exact List.mem_append_right _ (Phase.probed_of_held? held)

theorem Sourced.run {begun : ProbeCache} {told : List Event}
    (sourced : crew.Sourced begun told) (compiler : Compiler σ) (skip : SkipList)
    (overrides : Overrides) (schedule : List Nat) :
    (crew.run compiler skip overrides schedule).Sourced begun
      (told ++ crew.trace compiler skip overrides schedule) := by
  induction schedule generalizing crew told with
  | nil =>
      rw [trace, List.append_nil]
      exact sourced
  | cons turn rest ih =>
      rw [trace, ← List.append_assoc]
      exact ih (sourced.step compiler skip overrides turn)

end Crew

end NativeLayout
