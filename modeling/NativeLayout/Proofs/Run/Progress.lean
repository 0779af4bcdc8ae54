/-
# Turns bring workers to their ends

Whatever the compiler answers and whatever the others put into the memory, a turn
brings the worker whose turn it is closer to its end: at most three turns for each
header, one for the structure gate and one for the assertions. So a schedule with
that many turns for a worker lets it finish, however its turns are spread.
-/

import NativeLayout.Run.Workers

namespace NativeLayout

variable {σ : Type}

namespace Phase

/-- A bound on the turns that a worker still needs. -/
def remaining (entry : MatrixEntry) : Phase → Nat
  | gate => 3 * entry.headers.size + 2
  | lookUp _ rest => 3 * rest.length + 4
  | probe _ rest => 3 * rest.length + 3
  | remember _ _ rest => 3 * rest.length + 2
  | compile => 1
  | done _ => 0

variable (entry : MatrixEntry) (overrides : Overrides)

theorem done_of_remaining_eq_zero {phase : Phase} (h : phase.remaining entry = 0) :
    ∃ result, phase = done result := by
  cases phase with
  | done result => exact ⟨result, rfl⟩
  | compile => cases h
  | _ => rw [remaining] at h; omega

theorem remaining_onward (before : HeaderSet) (rest : List String) :
    (onward overrides before rest).remaining entry ≤ 3 * rest.length + 1 := by
  induction rest generalizing before with
  | nil => exact Nat.le_refl 1
  | cons header rest ih =>
      rw [onward, List.length_cons]
      cases overrides.header? header with
      | none =>
          rw [remaining]
          omega
      | some supported =>
          cases supported with
          | true =>
              have := ih (before.push header)
              exact Nat.le_trans this (by omega)
          | false => exact Nat.zero_le _

theorem remaining_answered (sequence : HeaderSet) (rest : List String) (found : Bool) :
    (answered overrides sequence rest found).remaining entry ≤ 3 * rest.length + 1 := by
  cases found with
  | true => exact remaining_onward entry overrides sequence rest
  | false => exact Nat.zero_le _

/-- A step takes at least one of the turns that its worker still needs, if it needs any. -/
theorem remaining_step (compiler : Compiler σ) (skip : SkipList) (phase : Phase)
    (cache : ProbeCache) (state : σ) :
    (phase.step compiler skip overrides entry cache state).1.remaining entry ≤
      phase.remaining entry - 1 := by
  cases phase with
  | gate =>
      rw [step]
      cases Run.structGate? overrides entry.name with
      | some reason => exact Nat.zero_le _
      | none => exact remaining_onward entry overrides ∅ entry.headers.toList
  | lookUp sequence rest =>
      rw [step]
      cases cache.get? sequence with
      | none => exact Nat.le_refl _
      | some found =>
          have := remaining_answered entry overrides sequence rest found
          exact Nat.le_trans this (by rw [remaining]; omega)
  | probe sequence rest =>
      rw [step]
      rcases compiler.probe sequence state with ⟨_ | found, later⟩
      · exact Nat.zero_le _
      · exact Nat.le_refl _
  | remember sequence found rest => exact remaining_answered entry overrides sequence rest _
  | compile => exact Nat.zero_le _
  | done result => exact Nat.zero_le _

end Phase

namespace Crew

variable (compiler : Compiler σ) (skip : SkipList) (overrides : Overrides)

/-- A turn of one worker leaves every other worker as it is. -/
theorem step_worker_of_ne (crew : Crew σ) {turn i : Nat} (other : turn ≠ i) :
    (crew.step compiler skip overrides turn).workers[i]? = crew.workers[i]? := by
  rw [step]
  cases crew.workers[turn]? with
  | none => rfl
  | some worker => exact List.getElem?_set_ne other

/-- A turn of a worker is a step of it. -/
theorem step_worker_self (crew : Crew σ) {turn : Nat} {worker : Worker}
    (present : crew.workers[turn]? = some worker) :
    (crew.step compiler skip overrides turn).workers[turn]? =
      some { worker with phase :=
        (worker.phase.step compiler skip overrides worker.entry crew.cache crew.state).1 } := by
  obtain ⟨bound, _⟩ := List.getElem?_eq_some_iff.mp present
  rw [step, present]
  exact List.getElem?_set_self bound

/-- The turns that a schedule has for a worker are taken from those that it still needs. -/
theorem remaining_run (crew : Crew σ) (schedule : List Nat) {i : Nat} {worker : Worker}
    (present : crew.workers[i]? = some worker) :
    ∃ phase, (crew.run compiler skip overrides schedule).workers[i]? =
        some { worker with phase } ∧
      phase.remaining worker.entry ≤ worker.phase.remaining worker.entry - schedule.count i := by
  induction schedule generalizing crew worker with
  | nil => exact ⟨worker.phase, present, Nat.le_refl _⟩
  | cons turn rest ih =>
      have unfolded : crew.run compiler skip overrides (turn :: rest) =
          (crew.step compiler skip overrides turn).run compiler skip overrides rest := rfl
      rw [unfolded]
      by_cases same : turn = i
      · subst same
        obtain ⟨phase, there, bound⟩ := ih _ (step_worker_self compiler skip overrides crew present)
        have less := Phase.remaining_step worker.entry overrides compiler skip worker.phase
          crew.cache crew.state
        refine ⟨phase, there, ?_⟩
        rw [List.count_cons_self]
        exact Nat.le_trans bound (by simp only; omega)
      · have still : (crew.step compiler skip overrides turn).workers[i]? = some worker := by
          rw [step_worker_of_ne compiler skip overrides crew same, present]
        obtain ⟨phase, there, bound⟩ := ih _ still
        refine ⟨phase, there, ?_⟩
        rw [List.count_cons_of_ne same]
        exact bound

/-- No schedule changes which entries there are. -/
theorem map_entry_run (crew : Crew σ) (schedule : List Nat) :
    (crew.run compiler skip overrides schedule).workers.map Worker.entry =
      crew.workers.map Worker.entry := by
  induction schedule generalizing crew with
  | nil => rfl
  | cons turn rest ih =>
      exact (ih (crew.step compiler skip overrides turn)).trans
        (map_entry_step compiler skip overrides crew turn)

theorem map_entry_start (entries : List MatrixEntry) (cache : ProbeCache) (state : σ) :
    (start entries cache state).workers.map Worker.entry = entries := by
  rw [start, List.map_map]
  exact List.map_id entries

theorem getElem?_start {entries : List MatrixEntry} {i : Nat} {entry : MatrixEntry}
    (present : entries[i]? = some entry) (cache : ProbeCache) (state : σ) :
    (start entries cache state).workers[i]? = some { entry } := by
  rw [start, List.getElem?_map, present]
  rfl

/-- A worker of a run has the entry of its place. -/
theorem getElem?_entries {entries : List MatrixEntry} {cache : ProbeCache} {state : σ}
    {schedule : List Nat} {i : Nat} {worker : Worker}
    (present : ((start entries cache state).run compiler skip overrides schedule).workers[i]? =
      some worker) : entries[i]? = some worker.entry := by
  have same := map_entry_run compiler skip overrides (start entries cache state) schedule
  rw [map_entry_start] at same
  rw [← same, List.getElem?_map, present]
  rfl

/-- A schedule that has the turns every entry can need. -/
def Suffices (entries : List MatrixEntry) (schedule : List Nat) : Prop :=
  ∀ i entry, entries[i]? = some entry → 3 * entry.headers.size + 2 ≤ schedule.count i

/-- With enough turns every worker is done. -/
theorem done_of_suffices {entries : List MatrixEntry} {schedule : List Nat}
    (enough : Suffices entries schedule) (cache : ProbeCache) (state : σ) {worker : Worker}
    (among : worker ∈ ((start entries cache state).run compiler skip overrides schedule).workers) :
    ∃ result, worker.phase = .done result := by
  obtain ⟨i, present⟩ := List.mem_iff_getElem?.mp among
  have own := getElem?_entries compiler skip overrides present
  obtain ⟨phase, there, less⟩ := remaining_run compiler skip overrides _ schedule
    (getElem?_start own cache state)
  have turns := enough i worker.entry own
  have finished : phase.remaining worker.entry = 0 :=
    Nat.le_zero.mp (Nat.le_trans less (Nat.le_of_eq (Nat.sub_eq_zero_of_le turns)))
  rw [present] at there
  rw [Option.some.inj there]
  exact Phase.done_of_remaining_eq_zero worker.entry finished

end Crew

end NativeLayout
