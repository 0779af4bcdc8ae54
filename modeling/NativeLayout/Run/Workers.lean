/-
# Runs with several workers

A run may check its entries side by side. Each entry then has a worker of its own,
and the workers share one memory of probe answers. A worker goes on by steps that
nothing interrupts: it passes the structure gate, it looks up an answer, it makes
a probe, it puts an answer into the memory unless there is one, it compiles the
assertions. Between two steps of a worker the others may go on, in an order that
a schedule says.

The order decides only which of several workers makes a probe and, if the
compiler cannot be used, which of them says so. Runs are therefore carried out one
entry after the other, and the number of jobs that a user asks for is not looked at.
-/

import NativeLayout.Run

namespace NativeLayout

/-- How far a worker has come with its entry. -/
inductive Phase
  /-- The structure gate is to be passed. -/
  | gate
  /-- The memory is to be asked about an include sequence; the rest comes after it. -/
  | lookUp (sequence : HeaderSet) (rest : List String)
  /-- The sequence is to be probed. -/
  | probe (sequence : HeaderSet) (rest : List String)
  /-- The answer of a probe is to be put into the memory. -/
  | remember (sequence : HeaderSet) (answer : Bool) (rest : List String)
  /-- The assertions are to be compiled. -/
  | compile
  /-- Nothing is left to do. -/
  | done (result : Except RunError Verdict)

namespace Phase

variable {σ : Type}

/-- Where the walk over the remaining headers stops next when some have been included. An
override is answered on the spot. -/
def onward (overrides : Overrides) : HeaderSet → List String → Phase
  | _, [] => compile
  | before, header :: rest =>
    match overrides.header? header with
    | some true => onward overrides (before.push header) rest
    | some false => done (.ok (.skip .headersUnsupported))
    | none => lookUp (before.push header) rest

/-- A walk that goes on asks the memory next, or it is over. -/
theorem onward_cases (overrides : Overrides) (before : HeaderSet) (rest : List String) :
    onward overrides before rest = compile ∨
      onward overrides before rest = done (.ok (.skip .headersUnsupported)) ∨
      ∃ sequence later, onward overrides before rest = lookUp sequence later := by
  induction rest generalizing before with
  | nil => exact .inl rfl
  | cons header rest ih =>
    rw [onward]
    cases overrides.header? header with
    | none => exact .inr (.inr ⟨_, _, rfl⟩)
    | some supported =>
      cases supported with
      | true => exact ih (before.push header)
      | false => exact .inr (.inl rfl)

/-- Where the walk goes on after an answer about a sequence. -/
def answered (overrides : Overrides) (sequence : HeaderSet) (rest : List String) : Bool → Phase
  | true => onward overrides sequence rest
  | false => done (.ok (.skip .headersUnsupported))

/-- One step of the worker of an entry: its next phase, the memory and the compiler's state. -/
def step (compiler : Compiler σ) (skip : SkipList) (overrides : Overrides) (entry : MatrixEntry)
    (phase : Phase) (cache : ProbeCache) (state : σ) : Phase × ProbeCache × σ :=
  match phase with
  | gate =>
    match Run.structGate? overrides entry.name with
    | some reason => (done (.ok (.skip reason)), cache, state)
    | none => (onward overrides ∅ entry.headers.toList, cache, state)
  | lookUp sequence rest =>
    match cache.get? sequence with
    | some answer => (answered overrides sequence rest answer, cache, state)
    | none => (probe sequence rest, cache, state)
  | probe sequence rest =>
    match compiler.probe sequence state with
    | (.ok answer, state) => (remember sequence answer rest, cache, state)
    | (.error failure, state) => (done (.error (.toolchain entry.name failure)), cache, state)
  | remember sequence answer rest =>
    match cache.remember sequence answer with
    | (agreed, cache) => (answered overrides sequence rest agreed, cache, state)
  | compile =>
    match compiler (Source.assertions entry.descriptor entry.headers skip) state with
    | (answer, state) => (done (Run.unitVerdict entry.name answer), cache, state)
  | done result => (done result, cache, state)

/-- A worker that is done stays so and touches nothing. -/
@[simp] theorem step_done (compiler : Compiler σ) (skip : SkipList) (overrides : Overrides)
    (entry : MatrixEntry) (result : Except RunError Verdict) (cache : ProbeCache) (state : σ) :
    step compiler skip overrides entry (done result) cache state = (done result, cache, state) :=
  rfl

end Phase

/-- An entry and how far its worker has come. -/
structure Worker where
  entry : MatrixEntry
  phase : Phase := .gate

/-- The outcome of an entry whose worker is done and could use the compiler. -/
def Worker.outcome? (worker : Worker) : Option Entry :=
  match worker.phase with
  | .done (.ok verdict) =>
    some { name := worker.entry.name, headers := worker.entry.headers, verdict }
  | _ => none

/-- The workers of a run, the memory that they share, and the compiler's state. -/
structure Crew (σ : Type) where
  workers : List Worker
  cache : ProbeCache
  state : σ

namespace Crew

variable {σ : Type}

/-- The workers of some entries before any of them has begun. -/
def start (entries : List MatrixEntry) (cache : ProbeCache) (state : σ) : Crew σ :=
  ⟨entries.map fun entry => { entry }, cache, state⟩

/-- One step of the worker whose turn it is; nothing happens if there is none. -/
def step (compiler : Compiler σ) (skip : SkipList) (overrides : Overrides) (crew : Crew σ)
    (turn : Nat) : Crew σ :=
  match crew.workers[turn]? with
  | none => crew
  | some worker =>
    match worker.phase.step compiler skip overrides worker.entry crew.cache crew.state with
    | (phase, cache, state) => ⟨crew.workers.set turn { worker with phase }, cache, state⟩

/-- The crew after the turns of a schedule. -/
def run (compiler : Compiler σ) (skip : SkipList) (overrides : Overrides) (crew : Crew σ)
    (schedule : List Nat) : Crew σ :=
  schedule.foldl (step compiler skip overrides) crew

/-- How a run can end. It ends with the outcomes in the order of the entries once all workers
are done, or with the error of any worker that could not use the compiler, whatever the
others are at. -/
inductive Ends (crew : Crew σ) : Except RunError (List Entry) → Prop
  | finished {entries : List Entry} (all : crew.workers.mapM Worker.outcome? = some entries) :
    Ends crew (.ok entries)
  | failed {worker : Worker} {failure : RunError} (among : worker ∈ crew.workers)
    (error : worker.phase = .done (.error failure)) : Ends crew (.error failure)

/-- The turns of one schedule after those of another. -/
@[simp] theorem run_append (compiler : Compiler σ) (skip : SkipList) (overrides : Overrides)
    (crew : Crew σ) (first second : List Nat) :
    crew.run compiler skip overrides (first ++ second) =
      (crew.run compiler skip overrides first).run compiler skip overrides second :=
  List.foldl_append

/-- No step changes which entries there are. -/
theorem map_entry_step (compiler : Compiler σ) (skip : SkipList) (overrides : Overrides)
    (crew : Crew σ) (turn : Nat) :
    (crew.step compiler skip overrides turn).workers.map Worker.entry =
      crew.workers.map Worker.entry := by
  unfold step
  split
  · rfl
  · rename_i worker found
    obtain ⟨bound, rfl⟩ := List.getElem?_eq_some_iff.mp found
    refine List.ext_getElem (by simp) fun i _ _ => ?_
    by_cases same : turn = i
    · subst same
      simp
    · simp [same]

end Crew

end NativeLayout
