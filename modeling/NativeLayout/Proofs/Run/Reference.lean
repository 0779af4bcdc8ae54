/-
# Runs against a compiler that always answers alike

If the compiler always answers alike, the verdict of an entry is a function of the
entry: nothing that was remembered and nothing that was compiled before can change
it. Only an answer that spoils every compile stops a run, and it is reported for
the structure at which it was met.

The memory may hold answers already. Those of this compiler make no difference, and others
count as the answers about their sequences for good.
-/

import NativeLayout.Proofs.Capability.Agreement
import NativeLayout.Run

namespace NativeLayout

variable {σ : Type}

namespace Compiler

/-- A compiler answers alike in every state. -/
def Steady (compiler : Compiler σ) (answer : String → Except CompileError Unit) : Prop :=
  ∀ source state, (compiler source state).1 = answer source

theorem steady_constant (answer : String → Except CompileError Unit) :
    (constant answer).Steady answer := fun _ _ => rfl

/-- Whether a compiler can include the headers of a sequence in order. -/
def includable (answer : String → Except CompileError Unit) (headers : HeaderSet) :
    Except CompileError Bool :=
  headerAnswer (answer (Source.probe headers))

theorem Steady.probe {compiler : Compiler σ} {answer : String → Except CompileError Unit}
    (steady : compiler.Steady answer) : compiler.probe.Steady (includable answer) := by
  intro headers state
  rw [includable, ← steady (Source.probe headers) state]
  rfl

/-- A refused probe is an answer; an error of a probe spoils every compile. -/
theorem isFatal_of_headerAnswer {told : Except CompileError Unit} {cause : CompileError}
    (h : headerAnswer told = .error cause) : cause.isFatal = true := by
  cases told with
  | ok _ => cases h
  | error failure => cases failure <;> cases h <;> rfl

end Compiler

namespace Oracle

/-- An error of the cache-free walk is one that the probe gave. -/
theorem exists_of_reference_error {ε : Type} {overrides : Overrides}
    {answer : HeaderSet → Except ε Bool} {before : HeaderSet} {rest : List String} {failure : ε}
    (h : reference overrides answer before rest = .error failure) :
    ∃ sequence, answer sequence = .error failure := by
  induction rest generalizing before with
  | nil => cases h
  | cons header rest ih =>
      rw [reference_cons] at h
      cases recorded : overrides.header? header with
      | some supported =>
          rw [recorded] at h
          cases supported with
          | true => exact ih h
          | false => cases h
      | none =>
          rw [recorded, Option.elim_none] at h
          cases told : answer (before.push header) with
          | error met =>
              rw [told] at h
              cases h
              exact ⟨_, told⟩
          | ok supported =>
              rw [told] at h
              cases supported with
              | true => exact ih h
              | false => cases h

end Oracle

namespace Run

variable (answer : String → Except CompileError Unit) (skip : SkipList) (overrides : Overrides)

/-- What the answer about an entry's headers comes to. -/
def concluded (entry : MatrixEntry) : Except CompileError Bool → Except RunError Verdict
  | .error failure => .error (.toolchain entry.name failure)
  | .ok false => .ok (.skip .headersUnsupported)
  | .ok true =>
    unitVerdict entry.name (answer (Source.assertions entry.descriptor entry.headers skip))

/-- The outcome of an entry if nothing is ever remembered. -/
def referenceEntry (entry : MatrixEntry) : Except RunError Entry :=
  (reference answer skip overrides entry).map fun verdict =>
    { name := entry.name, headers := entry.headers, verdict }

/-- The verdict of an entry if every include sequence has an answer of its own. -/
def judged (told : HeaderSet → Except CompileError Bool) (entry : MatrixEntry) :
    Except RunError Verdict :=
  match structGate? overrides entry.name with
  | some reason => .ok (.skip reason)
  | none =>
    concluded answer skip entry (Oracle.reference overrides told ∅ entry.headers.toList)

/-- The outcome of an entry if every include sequence has an answer of its own. -/
def judgedEntry (told : HeaderSet → Except CompileError Bool) (entry : MatrixEntry) :
    Except RunError Entry :=
  (judged answer skip overrides told entry).map fun verdict =>
    { name := entry.name, headers := entry.headers, verdict }

theorem judgedEntry_includable :
    judgedEntry answer skip overrides (Compiler.includable answer) =
      referenceEntry answer skip overrides := rfl

theorem reference_of_gate_none {entry : MatrixEntry}
    (admitted : structGate? overrides entry.name = none) :
    reference answer skip overrides entry =
      concluded answer skip entry
        (Oracle.reference overrides (Compiler.includable answer) ∅ entry.headers.toList) := by
  rw [reference, admitted]
  rfl

theorem reference_of_gate_some {entry : MatrixEntry} {reason : SkipReason}
    (refused : structGate? overrides entry.name = some reason) :
    reference answer skip overrides entry = .ok (.skip reason) := by
  rw [reference, refused]

variable {answer}

/-- An entry fails to get a verdict only by an answer that spoils every compile, and the
failure names the entry. -/
theorem reference_error {skip : SkipList} {overrides : Overrides} {entry : MatrixEntry}
    {failure : RunError}
    (h : reference answer skip overrides entry = .error failure) :
    ∃ cause : CompileError, cause.isFatal = true ∧ failure = .toolchain entry.name cause := by
  cases gate : structGate? overrides entry.name with
  | some reason => rw [reference_of_gate_some _ _ _ gate] at h; cases h
  | none =>
      rw [reference_of_gate_none _ _ _ gate] at h
      cases walked : Oracle.reference overrides (Compiler.includable answer) ∅
          entry.headers.toList with
      | error cause =>
          rw [walked] at h
          obtain ⟨sequence, told⟩ := Oracle.exists_of_reference_error walked
          exact ⟨cause, Compiler.isFatal_of_headerAnswer told, (Except.error.inj h).symm⟩
      | ok supported =>
          rw [walked] at h
          cases supported with
          | false => cases h
          | true =>
              rw [concluded] at h
              cases told : answer (Source.assertions entry.descriptor entry.headers skip) with
              | ok _ => rw [told] at h; cases h
              | error cause =>
                  rw [told] at h
                  cases cause <;> cases h <;> exact ⟨_, rfl, rfl⟩

/-- The verdict of an entry is that of the answers which are looked for in the memory first, and
afterwards the memory answers nothing differently. -/
theorem verdict_consulted {compiler : Compiler σ} (steady : compiler.Steady answer)
    (entry : MatrixEntry) (cache : ProbeCache) (state : σ) :
    (verdict compiler skip overrides entry cache state).1 =
        judged answer skip overrides (cache.consulted (Compiler.includable answer)) entry ∧
      (verdict compiler skip overrides entry cache state).2.1.consulted
        (Compiler.includable answer) = cache.consulted (Compiler.includable answer) := by
  rw [verdict, judged]
  cases structGate? overrides entry.name with
  | some reason => exact ⟨rfl, rfl⟩
  | none =>
      obtain ⟨answered, kept⟩ := Oracle.walk_consulted overrides steady.probe ∅
        entry.headers.toList cache state
      simp only [← answered]
      revert kept
      rcases Oracle.walk overrides compiler.probe ∅ entry.headers.toList cache state with
        ⟨_ | _ | _, later, state⟩
      · exact fun kept => ⟨rfl, kept⟩
      · exact fun kept => ⟨rfl, kept⟩
      · intro kept
        have told := steady (Source.assertions entry.descriptor entry.headers skip) state
        exact ⟨congrArg (unitVerdict entry.name) told, kept⟩

/-- A run of entries one after another gives outcomes that do not hang on each other, up to the
first entry that has none, and afterwards the memory answers nothing differently. -/
theorem entries_consulted {compiler : Compiler σ} (steady : compiler.Steady answer)
    (list : List MatrixEntry) (cache : ProbeCache) (state : σ) :
    (entries compiler skip overrides list cache state).1 = list.mapM
        (judgedEntry answer skip overrides (cache.consulted (Compiler.includable answer))) ∧
      (entries compiler skip overrides list cache state).2.1.consulted
        (Compiler.includable answer) = cache.consulted (Compiler.includable answer) := by
  induction list generalizing cache state with
  | nil => exact ⟨rfl, rfl⟩
  | cons entry rest ih =>
      obtain ⟨told, kept⟩ := verdict_consulted skip overrides steady entry cache state
      rw [entries, List.mapM_cons, judgedEntry, ← told]
      revert kept
      rcases verdict compiler skip overrides entry cache state with ⟨_ | found, later, state⟩
      · exact fun kept => ⟨rfl, kept⟩
      · intro kept
        have onward := ih later state
        rw [kept] at onward
        revert onward
        simp only [Except.map, bind, Except.bind]
        rcases entries compiler skip overrides rest later state with ⟨_ | done, last, state⟩
        · rintro ⟨same, still⟩
          rw [← same]
          exact ⟨rfl, still⟩
        · rintro ⟨same, still⟩
          rw [← same]
          exact ⟨rfl, still⟩

/-- A run of entries one after another gives their reference outcomes up to the first that
has none. -/
theorem entries_steady {compiler : Compiler σ} (steady : compiler.Steady answer)
    (list : List MatrixEntry) {cache : ProbeCache}
    (agrees : cache.Agrees (Compiler.includable answer)) (state : σ) :
    (entries compiler skip overrides list cache state).1 =
      list.mapM (referenceEntry answer skip overrides) := by
  rw [(entries_consulted skip overrides steady list cache state).1,
    ProbeCache.agrees_iff.mp agrees, judgedEntry_includable]

/-- An outcome that a run of some entries may have: their reference outcomes in order if all
of them have one, else the failure of one that has none. -/
def Settles (answer : String → Except CompileError Unit) (skip : SkipList) (overrides : Overrides)
    (list : List MatrixEntry) : Except RunError (List Entry) → Prop
  | .ok done => list.map (referenceEntry answer skip overrides) = done.map .ok
  | .error failure => ∃ entry ∈ list, ∃ cause : CompileError, cause.isFatal = true ∧
    failure = .toolchain entry.name cause ∧ reference answer skip overrides entry = .error failure

variable {skip : SkipList} {overrides : Overrides}

theorem reference_of_referenceEntry_error {entry : MatrixEntry} {failure : RunError}
    (h : referenceEntry answer skip overrides entry = .error failure) :
    reference answer skip overrides entry = .error failure := by
  rw [referenceEntry] at h
  cases told : reference answer skip overrides entry with
  | ok verdict => rw [told] at h; cases h
  | error met => rw [told] at h; cases h; rfl

/-- Taking the entries one after another is one way to settle them. -/
theorem settles_mapM (list : List MatrixEntry) :
    Settles answer skip overrides list (list.mapM (referenceEntry answer skip overrides)) := by
  induction list with
  | nil => rfl
  | cons entry rest ih =>
      rw [List.mapM_cons]
      cases first : referenceEntry answer skip overrides entry with
      | error failure =>
          have reference := reference_of_referenceEntry_error first
          obtain ⟨cause, fatal, named⟩ := reference_error reference
          exact ⟨entry, List.mem_cons_self, cause, fatal, named, reference⟩
      | ok outcome =>
          cases others : rest.mapM (referenceEntry answer skip overrides) with
          | error failure =>
              rw [others] at ih
              obtain ⟨met, among, found⟩ := ih
              exact ⟨met, List.mem_cons_of_mem entry among, found⟩
          | ok done =>
              rw [others] at ih
              have whole : (entry :: rest).map (referenceEntry answer skip overrides) =
                  (outcome :: done).map .ok := by
                rw [List.map_cons, List.map_cons, first, show rest.map _ = _ from ih]
              exact whole

/-- A run that settles its entries has outcomes exactly if no entry fails. -/
theorem Settles.isOk_iff {list : List MatrixEntry} {outcome : Except RunError (List Entry)}
    (settles : Settles answer skip overrides list outcome) :
    (∃ done, outcome = .ok done) ↔
      ∀ entry ∈ list, ∃ verdict, reference answer skip overrides entry = .ok verdict := by
  cases outcome with
  | error failure =>
      obtain ⟨entry, among, _, _, _, fails⟩ := settles
      refine ⟨fun ⟨_, same⟩ => (by cases same), fun all => ?_⟩
      obtain ⟨verdict, passes⟩ := all entry among
      rw [fails] at passes
      cases passes
  | ok done =>
      refine ⟨fun _ entry among => ?_, fun _ => ⟨done, rfl⟩⟩
      have told : referenceEntry answer skip overrides entry ∈ done.map Except.ok :=
        settles ▸ List.mem_map_of_mem among
      obtain ⟨outcome, _, same⟩ := List.mem_map.mp told
      cases passes : reference answer skip overrides entry with
      | ok verdict => exact ⟨verdict, rfl⟩
      | error failure => rw [referenceEntry, passes] at same; cases same

end Run

end NativeLayout
