/-
# The turn of an entry

In its turn an entry passes the structure gate, then the walk over its headers, and only
then its assertions are compiled, once. What is compiled in a turn is therefore told by the
gates: nothing, some probes, or all the probes that are due and then the assertions.

Nothing is assumed of the compiler, which may answer differently each time, and nothing of
what is remembered when the turn begins.
-/

import NativeLayout.Proofs.Run.Compilations
import NativeLayout.Proofs.Run.Passing
import NativeLayout.Proofs.Text.Lines

namespace NativeLayout

/-- A source that includes some first headers is another than one that asserts something after
all of them. -/
theorem Source.probe_ne_assertions {sequence headers : HeaderSet}
    (initial : sequence.toList <+: headers.toList) (d : Descriptor) (skip : SkipList) :
    probe sequence ≠ assertions d headers skip := by
  obtain ⟨rest, whole⟩ := initial
  obtain ⟨line, further, longer⟩ : ∃ line further, assertionLines d headers skip =
      includeLines sequence ++ line :: further := by
    obtain ⟨line, further, filled⟩ : ∃ line further, rest.map includeLine ++ (preambleLines ++
        (d.demands skip).map (Demand.assertion d.name d.nativeName)) = line :: further :=
      List.exists_cons_of_ne_nil (by simp [preambleLines])
    refine ⟨line, further, ?_⟩
    simp only [assertionLines, includeLines, ← whole, ← filled, List.map_append, List.cons_append,
      List.append_assoc]
  intro same
  have lengths := congrArg (fun source : String => source.toList.length) same
  simp only [probe, assertions, longer, Text.toList_ofLines_append, Text.toList_ofLines_cons,
    List.length_append, List.length_cons] at lengths
  omega

/-- The turn of an entry in a run: what is remembered and how the compiler stands when the turn
begins. -/
structure Turn (σ : Type) where
  entry : MatrixEntry
  cache : ProbeCache
  state : σ

namespace RunError

/-- The error of a compile that kept a run, or a turn of it, from its end. -/
def cause? {α : Type} : Except RunError α → Option CompileError
  | .error (.toolchain _ cause) => some cause
  | _ => none

theorem cause?_unitVerdict (name : String) (answer : Except CompileError Unit) :
    cause? (Run.unitVerdict name answer) = CompileError.fatal? answer := by
  rcases answer with (_ | _ | _) | _ <;> rfl

end RunError

namespace Run

theorem structGate?_eq_some_iff {overrides : Overrides} {name : String} {reason : SkipReason} :
    structGate? overrides name = some reason ↔ overrides.admits name = false ∧
      reason = if overrides.structs.get? name = none then .structureUnknown
        else .structureUnsupported := by
  rw [structGate?, Overrides.structCapability]
  cases overrides.admits name with
  | true => simp
  | false => rcases overrides.structs.get? name with _ | _ | _ <;>
      simp [Capability.ofRecord, eq_comm]

/-- The verdict about assertions tells what the compiler answered. -/
theorem unitVerdict_iff (name : String) (answer : Except CompileError Unit) :
    (unitVerdict name answer = .ok .pass ↔ answer = .ok ()) ∧
    (∀ diagnostics, unitVerdict name answer =
        .ok (.fail (Diagnostics.mismatches diagnostics) diagnostics) ↔
      answer = .error (.failed diagnostics)) ∧
    ∀ cause : CompileError, cause.isFatal = true →
      (unitVerdict name answer = .error (.toolchain name cause) ↔ answer = .error cause) := by
  rcases answer with (_ | _ | diagnostics) | _
  · simp [unitVerdict]
  · simp [unitVerdict]
  · refine ⟨by simp [unitVerdict, Verdict.ofDiagnostics], fun other => ⟨?_, ?_⟩, ?_⟩
    · intro same
      rw [(Verdict.fail.inj (Except.ok.inj same)).2]
    · intro same
      cases same
      rfl
    · intro cause fatal
      cases cause <;> simp [unitVerdict, CompileError.isFatal] at fatal ⊢
  · simp [unitVerdict]

end Run

namespace Turn

variable {σ : Type} (compiler : Compiler σ) (skip : SkipList) (overrides : Overrides)
  (turn : Turn σ)

/-- What the turn comes to. -/
def outcome : Except RunError Verdict :=
  (Run.verdict compiler skip overrides turn.entry turn.cache turn.state).1

/-- The compiles that are made in the turn, in order. -/
def compiles : List Compilation :=
  (Run.verdict compiler.recorded skip overrides turn.entry turn.cache (turn.state, [])).2.2.2

/-- What the walk over the headers of the entry ends in, if it is made in this turn. -/
def walked : Except CompileError Bool :=
  (Oracle.walk overrides compiler.probe ∅ turn.entry.headers.toList turn.cache turn.state).1

/-- The probes that the headers of the entry may call for: those of the include sequences that
have neither an override for their last header nor a remembered answer. -/
def due : List String :=
  (Oracle.unanswered overrides turn.cache turn.entry.headers.questions).map Source.probe

/-- The source that asserts what the descriptor of the entry demands. -/
def unit : String := Source.assertions turn.entry.descriptor turn.entry.headers skip

/-- What the gates let through in a turn. -/
structure Gated : Prop where
  /-- A structure that is not admitted causes no compile, and the reason to skip it tells whether
  anything is recorded of it. -/
  refused : overrides.admits turn.entry.name = false →
    turn.compiles compiler skip overrides = [] ∧
    turn.outcome compiler skip overrides = .ok (.skip
      (if overrides.structs.get? turn.entry.name = none then .structureUnknown
      else .structureUnsupported))
  /-- If a header can not be included, some first probes are made and the assertions are not
  compiled. -/
  excluded : overrides.admits turn.entry.name = true →
    turn.walked compiler overrides = .ok false →
    (turn.compiles compiler skip overrides).map Compilation.source <+: turn.due overrides ∧
    turn.unit skip ∉ (turn.compiles compiler skip overrides).map Compilation.source ∧
    turn.outcome compiler skip overrides = .ok (.skip .headersUnsupported)
  /-- If a header can not even be probed, that is the end. -/
  broken : overrides.admits turn.entry.name = true → ∀ cause,
    turn.walked compiler overrides = .error cause →
    (turn.compiles compiler skip overrides).map Compilation.source <+: turn.due overrides ∧
    turn.unit skip ∉ (turn.compiles compiler skip overrides).map Compilation.source ∧
    turn.outcome compiler skip overrides = .error (.toolchain turn.entry.name cause)
  /-- If all headers can be included, the assertions are compiled once, after all probes that are
  due, and the verdict is that of this compile. -/
  included : overrides.admits turn.entry.name = true →
    turn.walked compiler overrides = .ok true →
    ∃ probes answer, turn.compiles compiler skip overrides = probes ++ [⟨turn.unit skip, answer⟩] ∧
      probes.map Compilation.source = turn.due overrides ∧
      turn.unit skip ∉ probes.map Compilation.source ∧
      (turn.outcome compiler skip overrides = .ok .pass ↔ answer = .ok ()) ∧
      (∀ diagnostics, turn.outcome compiler skip overrides =
          .ok (.fail (Diagnostics.mismatches diagnostics) diagnostics) ↔
        answer = .error (.failed diagnostics)) ∧
      ∀ cause, cause.isFatal = true →
        (turn.outcome compiler skip overrides = .error (.toolchain turn.entry.name cause) ↔
          answer = .error cause)

/-- How a turn can go, with what it comes to and what is compiled in it. -/
inductive Passage : Except RunError Verdict → List Compilation → Prop
  | refused {reason : SkipReason}
    (gate : Run.structGate? overrides turn.entry.name = some reason) :
    Passage (.ok (.skip reason)) []
  | excluded {made : List Compilation} (gate : Run.structGate? overrides turn.entry.name = none)
    (walked : turn.walked compiler overrides = .ok false)
    (probes : Oracle.Probes
      (Oracle.unanswered overrides turn.cache turn.entry.headers.questions) (.ok false) made) :
    Passage (.ok (.skip .headersUnsupported)) made
  | broken {made : List Compilation} {cause : CompileError}
    (gate : Run.structGate? overrides turn.entry.name = none)
    (walked : turn.walked compiler overrides = .error cause)
    (probes : Oracle.Probes
      (Oracle.unanswered overrides turn.cache turn.entry.headers.questions) (.error cause) made) :
    Passage (.error (.toolchain turn.entry.name cause)) made
  | included {made : List Compilation} (answer : Except CompileError Unit)
    (gate : Run.structGate? overrides turn.entry.name = none)
    (walked : turn.walked compiler overrides = .ok true)
    (probes : Oracle.Probes
      (Oracle.unanswered overrides turn.cache turn.entry.headers.questions) (.ok true) made) :
    Passage (Run.unitVerdict turn.entry.name answer) (made ++ [⟨turn.unit skip, answer⟩])

/-- A turn does not notice that its compiles are noted down. -/
theorem exists_passage :
    let plain := Run.verdict compiler skip overrides turn.entry turn.cache turn.state
    ∃ made, turn.Passage compiler skip overrides plain.1 made ∧
      ∀ earlier, Run.verdict compiler.recorded skip overrides turn.entry turn.cache
          (turn.state, earlier) = (plain.1, plain.2.1, plain.2.2, earlier ++ made) := by
  simp only [Run.verdict]
  cases gate : Run.structGate? overrides turn.entry.name with
  | some reason => exact ⟨[], .refused gate, fun earlier => by rw [List.append_nil]⟩
  | none =>
      have distinct : ((∅ : HeaderSet).toList ++ turn.entry.headers.toList).Nodup := by
        rw [HeaderSet.toList_empty, List.nil_append]
        exact turn.entry.headers.nodup
      obtain ⟨made, same, probes⟩ := Oracle.walk_compiles compiler overrides ∅
        turn.entry.headers.toList distinct turn.cache turn.state
      rw [Oracle.questionsAfter_empty] at probes
      rcases walked : Oracle.walk overrides compiler.probe ∅ turn.entry.headers.toList turn.cache
        turn.state with ⟨cause | _ | _, cache, state⟩
      all_goals
        simp only [walked] at same probes
        have ends := congrArg Prod.fst walked
      · exact ⟨made, .broken gate ends probes, fun earlier => by rw [same]⟩
      · exact ⟨made, .excluded gate ends probes, fun earlier => by rw [same]⟩
      · obtain ⟨answer, later, told⟩ : ∃ answer later,
            compiler (turn.unit skip) state = (answer, later) := ⟨_, _, rfl⟩
        have plain : compiler (Source.assertions turn.entry.descriptor turn.entry.headers skip)
            state = (answer, later) := told
        refine ⟨made ++ [⟨turn.unit skip, answer⟩], ?_, fun earlier => ?_⟩
        · simp only [plain]
          exact .included answer gate ends probes
        · simp only [same, Compiler.recorded, plain, List.append_assoc]
          rfl

/-- Noting down compiles adds those of the turn and changes nothing else. -/
theorem verdict_recorded (earlier : List Compilation) :
    let plain := Run.verdict compiler skip overrides turn.entry turn.cache turn.state
    Run.verdict compiler.recorded skip overrides turn.entry turn.cache (turn.state, earlier) =
      (plain.1, plain.2.1, plain.2.2, earlier ++ turn.compiles compiler skip overrides) := by
  obtain ⟨made, _, noted⟩ := exists_passage compiler skip overrides turn
  rw [compiles, noted earlier, noted []]
  rfl

variable {compiler skip overrides turn}

theorem passage : turn.Passage compiler skip overrides (turn.outcome compiler skip overrides)
    (turn.compiles compiler skip overrides) := by
  obtain ⟨made, passage, noted⟩ := exists_passage compiler skip overrides turn
  rw [outcome, compiles, noted []]
  exact passage

/-- The probes of a turn are not taken for the compile of its assertions. -/
theorem unit_not_mem {made : List Compilation}
    (sources : made.map Compilation.source <+: turn.due overrides) :
    turn.unit skip ∉ made.map Compilation.source := by
  intro among
  obtain ⟨sequence, asked, same⟩ := List.mem_map.mp (sources.subset among)
  obtain ⟨question, raised, rfl⟩ := List.mem_map.mp asked
  obtain ⟨n, inside, rfl⟩ := List.mem_mapIdx.mp (List.mem_filter.mp raised).1
  exact Source.probe_ne_assertions (List.take_prefix _ _) _ skip same

section Inversion

variable {outcome : Except RunError Verdict} {made : List Compilation}
  (passage : turn.Passage compiler skip overrides outcome made)
include passage

theorem Passage.of_refused {reason : SkipReason}
    (gate : Run.structGate? overrides turn.entry.name = some reason) :
    made = [] ∧ outcome = .ok (.skip reason) := by
  cases passage with
  | refused own =>
      cases own.symm.trans gate
      exact ⟨rfl, rfl⟩
  | excluded own => cases own.symm.trans gate
  | broken own => cases own.symm.trans gate
  | included _ own => cases own.symm.trans gate

theorem Passage.of_excluded (gate : Run.structGate? overrides turn.entry.name = none)
    (walked : turn.walked compiler overrides = .ok false) :
    made.map Compilation.source <+: turn.due overrides ∧
      outcome = .ok (.skip .headersUnsupported) := by
  cases passage with
  | refused own => cases own.symm.trans gate
  | excluded _ _ probes => exact ⟨probes.sources, rfl⟩
  | broken _ own => cases own.symm.trans walked
  | included _ _ own => cases own.symm.trans walked

theorem Passage.of_broken {cause : CompileError}
    (gate : Run.structGate? overrides turn.entry.name = none)
    (walked : turn.walked compiler overrides = .error cause) :
    made.map Compilation.source <+: turn.due overrides ∧
      outcome = .error (.toolchain turn.entry.name cause) := by
  cases passage with
  | refused own => cases own.symm.trans gate
  | excluded _ own => cases own.symm.trans walked
  | broken _ own probes =>
      cases own.symm.trans walked
      exact ⟨probes.sources, rfl⟩
  | included _ _ own => cases own.symm.trans walked

theorem Passage.of_included (gate : Run.structGate? overrides turn.entry.name = none)
    (walked : turn.walked compiler overrides = .ok true) :
    ∃ probes answer, made = probes ++ [⟨turn.unit skip, answer⟩] ∧
      probes.map Compilation.source = turn.due overrides ∧
      outcome = Run.unitVerdict turn.entry.name answer := by
  cases passage with
  | refused own => cases own.symm.trans gate
  | excluded _ own => cases own.symm.trans walked
  | broken _ own => cases own.symm.trans walked
  | included answer _ _ probes => exact ⟨_, answer, rfl, probes.all rfl, rfl⟩

/-- A turn ends with the first fatal compile, and its error is then the outcome. -/
theorem Passage.ended : Ended made (RunError.cause? outcome) := by
  cases passage with
  | refused _ => exact ended_nil
  | excluded _ _ probes => exact probes.ended
  | broken _ _ probes => exact probes.ended
  | included answer _ _ probes =>
      rw [RunError.cause?_unitVerdict]
      exact (ended_singleton _ answer).append probes.ended.none_fatal

theorem Passage.exists_cause {failure : RunError} (failed : outcome = .error failure) :
    ∃ cause, failure = .toolchain turn.entry.name cause := by
  cases passage with
  | refused _ => cases failed
  | excluded _ _ _ => cases failed
  | broken _ _ _ => exact ⟨_, (Except.error.inj failed).symm⟩
  | included answer _ _ _ =>
      rcases answer with (_ | _ | _) | _ <;> cases failed <;> exact ⟨_, rfl⟩

theorem Passage.eq_error_of_cause {cause : CompileError}
    (told : RunError.cause? outcome = some cause) :
    outcome = .error (.toolchain turn.entry.name cause) := by
  cases outcome with
  | ok _ => cases told
  | error failure =>
      obtain ⟨_, rfl⟩ := passage.exists_cause rfl
      cases told
      rfl

end Inversion

theorem gated : turn.Gated compiler skip overrides where
  refused := by
    intro refused
    exact passage.of_refused (Run.structGate?_eq_some_iff.mpr ⟨refused, rfl⟩)
  excluded := by
    intro admitted walked
    obtain ⟨sources, skipped⟩ :=
      passage.of_excluded (Run.structGate?_eq_none_iff.mpr admitted) walked
    exact ⟨sources, unit_not_mem sources, skipped⟩
  broken := by
    intro admitted cause walked
    obtain ⟨sources, failed⟩ :=
      passage.of_broken (Run.structGate?_eq_none_iff.mpr admitted) walked
    exact ⟨sources, unit_not_mem sources, failed⟩
  included := by
    intro admitted walked
    have own : turn.Passage compiler skip overrides _ _ := passage
    obtain ⟨probes, answer, made, sources, verdict⟩ :=
      own.of_included (Run.structGate?_eq_none_iff.mpr admitted) walked
    have first : probes.map Compilation.source <+: turn.due overrides :=
      ⟨[], by rw [List.append_nil, sources]⟩
    refine ⟨probes, answer, made, sources, unit_not_mem first, ?_⟩
    rw [verdict]
    exact Run.unitVerdict_iff turn.entry.name answer

end Turn

end NativeLayout
