/-
# Compiles behind the gates

The entries of a run have their turns one after another. So what is compiled in a run is what
is compiled in their turns, and only behind their gates. An error that spoils every compile
ends the turn in which it is met, and the run with it.

Entries that are checked side by side are not spoken of.
-/

import NativeLayout.Proofs.Run.Turns

namespace NativeLayout

namespace Run

variable {σ : Type} (compiler : Compiler σ) (skip : SkipList) (overrides : Overrides)

/-- The turns that the entries of a run have, one after another up to the first that ends in an
error. Each begins with what the turns before it left. -/
def turns : List MatrixEntry → ProbeCache → σ → List (Turn σ)
  | [], _, _ => []
  | entry :: rest, cache, state =>
    ⟨entry, cache, state⟩ ::
      match verdict compiler skip overrides entry cache state with
      | (.error _, _, _) => []
      | (.ok _, cache, state) => turns rest cache state

/-- All that is compiled in a run, in order. -/
def compilesOf (turns : List (Turn σ)) : List Compilation :=
  turns.flatMap (Turn.compiles compiler skip overrides)

/-- What a turn adds to the outcome of its run. -/
def added (turn : Turn σ) : Except RunError Entry :=
  (turn.outcome compiler skip overrides).map fun verdict =>
    { name := turn.entry.name, headers := turn.entry.headers, verdict }

variable {compiler skip overrides}

/-- A run does not notice that its compiles are noted down. -/
theorem entries_recorded (list : List MatrixEntry) (cache : ProbeCache) (state : σ)
    (earlier : List Compilation) :
    let plain := entries compiler skip overrides list cache state
    entries compiler.recorded skip overrides list cache (state, earlier) =
      (plain.1, plain.2.1, plain.2.2, earlier ++
        compilesOf compiler skip overrides (turns compiler skip overrides list cache state)) := by
  induction list generalizing cache state earlier with
  | nil => simp [entries, turns, compilesOf]
  | cons entry rest ih =>
      have first := Turn.verdict_recorded compiler skip overrides ⟨entry, cache, state⟩ earlier
      simp only [entries, turns, compilesOf, List.flatMap_cons, first]
      rcases verdict compiler skip overrides entry cache state with ⟨failure | found, cache, state⟩
      · simp
      · simp only [ih]
        rcases entries compiler skip overrides rest cache state with ⟨_ | _, _, _⟩ <;>
          simp [compilesOf]

theorem map_entry_turns_prefix (list : List MatrixEntry) (cache : ProbeCache) (state : σ) :
    (turns compiler skip overrides list cache state).map Turn.entry <+: list := by
  induction list generalizing cache state with
  | nil => exact List.prefix_refl _
  | cons entry rest ih =>
      rw [turns, List.map_cons, List.cons_prefix_cons]
      refine ⟨rfl, ?_⟩
      rcases verdict compiler skip overrides entry cache state with ⟨_ | _, cache, state⟩
      · exact List.nil_prefix
      · exact ih cache state

/-- How a run ends is how its last turn ends: either every entry has its turn and adds to the
outcome, or the error of the last turn is that of the run and the turns before it added theirs. -/
theorem turns_cases (list : List MatrixEntry) (cache : ProbeCache) (state : σ) :
    let turns := turns compiler skip overrides list cache state
    (∃ done, (entries compiler skip overrides list cache state).1 = .ok done ∧
      turns.map Turn.entry = list ∧ turns.map (added compiler skip overrides) = done.map .ok) ∨
    ∃ before turn failure, (entries compiler skip overrides list cache state).1 = .error failure ∧
      turns = before ++ [turn] ∧ turn.outcome compiler skip overrides = .error failure ∧
      ∀ earlier ∈ before, ∃ found, earlier.outcome compiler skip overrides = .ok found := by
  induction list generalizing cache state with
  | nil => exact .inl ⟨[], rfl, rfl, rfl⟩
  | cons entry rest ih =>
      simp only [turns, entries]
      rcases told : verdict compiler skip overrides entry cache state with
        ⟨failure | found, later, after⟩
      · refine .inr ⟨[], ⟨entry, cache, state⟩, failure, rfl, rfl, ?_, List.forall_mem_nil _⟩
        rw [Turn.outcome, told]
      · have first : (⟨entry, cache, state⟩ : Turn σ).outcome compiler skip overrides =
            .ok found := by
          rw [Turn.outcome, told]
        rcases ih later after with
          ⟨done, ran, all, adds⟩ | ⟨before, turn, failure, ran, split, failed, passed⟩
        · refine .inl ⟨⟨entry.name, entry.headers, found, .zero⟩ :: done, ?_, ?_, ?_⟩
          · rcases same : entries compiler skip overrides rest later after with ⟨_ | _, _⟩ <;>
              rw [same] at ran <;> cases ran
            simp only [same]
          · rw [List.map_cons, all]
          · rw [List.map_cons, List.map_cons, adds, added, first]
            rfl
        · refine .inr ⟨⟨entry, cache, state⟩ :: before, turn, failure, ?_, ?_, failed, ?_⟩
          · rcases same : entries compiler skip overrides rest later after with ⟨_ | _, _⟩ <;>
              rw [same] at ran <;> cases ran
            simp only [same]
          · simp only [split, List.cons_append]
          · exact List.forall_mem_cons.mpr ⟨⟨found, first⟩, passed⟩

theorem exists_outcome_of_adds {turns : List (Turn σ)} {done : List Entry}
    (adds : turns.map (added compiler skip overrides) = done.map .ok) {turn : Turn σ}
    (had : turn ∈ turns) : ∃ verdict, turn.outcome compiler skip overrides = .ok verdict := by
  have among := List.mem_map_of_mem (f := added compiler skip overrides) had
  rw [adds] at among
  obtain ⟨_, _, same⟩ := List.mem_map.mp among
  cases told : turn.outcome compiler skip overrides with
  | ok verdict => exact ⟨verdict, rfl⟩
  | error _ =>
      rw [added, told] at same
      cases same

/-- A turn that ends in an error is the last one and ends the run with that error. -/
theorem last_turn {list : List MatrixEntry} {cache : ProbeCache} {state : σ}
    {before after : List (Turn σ)} {turn : Turn σ} {failure : RunError}
    (split : turns compiler skip overrides list cache state = before ++ turn :: after)
    (failed : turn.outcome compiler skip overrides = .error failure) :
    after = [] ∧ (entries compiler skip overrides list cache state).1 = .error failure := by
  rcases turns_cases list cache state with
    ⟨done, _, _, adds⟩ | ⟨front, last, met, ran, whole, ended, passed⟩
  · have had : turn ∈ turns compiler skip overrides list cache state := by
      rw [split]
      exact List.mem_append_right _ List.mem_cons_self
    obtain ⟨_, found⟩ := exists_outcome_of_adds adds had
    cases found.symm.trans failed
  · have others : ∀ earlier ∈ front,
        ¬ earlier.outcome compiler skip overrides = .error failure := by
      intro earlier among same
      obtain ⟨found, passes⟩ := passed earlier among
      cases passes.symm.trans same
    obtain ⟨none, rfl⟩ := eq_last_of_split others (whole.symm.trans split) failed
    cases ended.symm.trans failed
    exact ⟨none, ran⟩

/-- Compiles happen only behind the gates. Take any compiler, which may answer differently each
time, any overrides, any memory, and entries that are run one after another. What is compiled is
what is compiled in their turns, in order, and each turn is gated: an entry whose structure is not
admitted causes no compile and is skipped, one with a header that can not be included causes some
probes and is skipped, and one whose headers can all be included has its assertions compiled once,
after the probes that are due, and gets the verdict of that compile. If the run gives outcomes, all
entries had their turns and nothing that was compiled was fatal. Any fatal compile is the last one
of its turn, its turn is the last one, and its error is that of the run, for the structure whose
turn it is; and a run has no other errors. -/
theorem compiles_behind_gates (compiler : Compiler σ) (skip : SkipList) (overrides : Overrides)
    (list : List MatrixEntry) (cache : ProbeCache) (state : σ) :
    let turns := turns compiler skip overrides list cache state
    let made := compilesOf compiler skip overrides turns
    let run := entries compiler skip overrides list cache state
    entries compiler.recorded skip overrides list cache (state, []) =
      (run.1, run.2.1, run.2.2, made) ∧
    turns.map Turn.entry <+: list ∧
    (∀ turn ∈ turns, turn.Gated compiler skip overrides) ∧
    (∀ done, run.1 = .ok done → turns.map Turn.entry = list ∧
      turns.map (added compiler skip overrides) = done.map .ok ∧
      ∀ compile ∈ made, ¬ compile.IsFatal) ∧
    (∀ before turn after, turns = before ++ turn :: after →
      ∀ earlier compile later cause,
        turn.compiles compiler skip overrides = earlier ++ compile :: later →
        compile.answer = .error cause → cause.isFatal = true →
        later = [] ∧ after = [] ∧ run.1 = .error (.toolchain turn.entry.name cause)) ∧
    ∀ failure, run.1 = .error failure →
      ∃ before turn earlier source cause, turns = before ++ [turn] ∧
        turn.compiles compiler skip overrides = earlier ++ [⟨source, .error cause⟩] ∧
        cause.isFatal = true ∧ failure = .toolchain turn.entry.name cause := by
  intro turns made run
  refine ⟨entries_recorded list cache state [], map_entry_turns_prefix list cache state,
    fun turn _ => Turn.gated, ?_, ?_, ?_⟩
  · intro done ran
    rcases turns_cases list cache state with ⟨_, same, all, adds⟩ | ⟨_, _, _, other, _⟩
    · cases same.symm.trans ran
      refine ⟨all, adds, fun compile among => ?_⟩
      obtain ⟨turn, had, inside⟩ := List.mem_flatMap.mp among
      have ends : Ended (turn.compiles compiler skip overrides)
          (RunError.cause? (turn.outcome compiler skip overrides)) := Turn.passage.ended
      obtain ⟨verdict, found⟩ := exists_outcome_of_adds adds had
      rw [found] at ends
      exact ends.none_fatal compile inside
    · cases other.symm.trans ran
  · intro before turn after split earlier compile later cause inside told fatal
    have own : turn.Passage compiler skip overrides _ _ := Turn.passage
    obtain ⟨none, ends⟩ := own.ended.last inside told fatal
    exact ⟨none, last_turn split (own.eq_error_of_cause ends)⟩
  · intro failure failed
    rcases turns_cases list cache state with
      ⟨_, other, _⟩ | ⟨before, turn, met, same, split, ended, _⟩
    · cases other.symm.trans failed
    · cases same.symm.trans failed
      have own : turn.Passage compiler skip overrides _ _ := Turn.passage
      obtain ⟨cause, rfl⟩ := own.exists_cause ended
      have ends := own.ended
      rw [ended] at ends
      obtain ⟨earlier, source, whole, fatal⟩ := ends.exists_last
      exact ⟨before, turn, earlier, source, cause, split, whole, fatal, rfl⟩

/-- Why a compiler has no place for a source. -/
def crowded : CompileError := .scratch "No space left on device (os error 28)"

/-- A compiler that accepts a number of sources and then has no place for any other. -/
def expiring : Compiler Nat
  | _, 0 => (.error crowded, 0)
  | _, left + 1 => (.ok (), left)

/-- Three structures of one header. -/
def triplets : List MatrixEntry :=
  ["itimerval", "timespec", "itimerspec"].map fun name =>
    ⟨.singleton "time.h", { name, style := .tag, fields := [], size := 16 }⟩

/-- The first structure is not admitted, the second takes a probe and the compile of its
assertions, and that of the third ends the run. -/
theorem compiles_behind_gates_expiring :
    let overrides := Overrides.withStruct {} "itimerval" false
    (entries expiring ∅ overrides triplets ∅ 2).1 =
        .error (.toolchain "itimerspec" crowded) ∧
      ∃ earlier source, (entries expiring.recorded ∅ overrides triplets ∅ (2, [])).2.2.2 =
        earlier ++ [⟨source, .error crowded⟩] := by
  intro overrides
  have ran : (entries expiring ∅ overrides triplets ∅ 2).1 =
      .error (.toolchain "itimerspec" crowded) := rfl
  obtain ⟨noted, _, _, _, _, ends⟩ :=
    compiles_behind_gates expiring ∅ overrides triplets ∅ 2
  obtain ⟨before, turn, earlier, source, cause, split, whole, _, same⟩ := ends _ ran
  obtain ⟨_, rfl⟩ := RunError.toolchain.inj same
  refine ⟨ran, compilesOf expiring ∅ overrides before ++ earlier, source, ?_⟩
  rw [noted, split, compilesOf, List.flatMap_append, List.flatMap_singleton, whole,
    ← List.append_assoc]
  rfl

end Run
end NativeLayout
