/-
# What a compiler is asked in a walk

A compiler can be made to note down its compiles. It answers as before, and what it was
asked can be read off afterwards. In a walk over headers it is asked about the include
sequences that have neither an override for their last header nor a remembered answer, in
order, up to the one that ends the walk.

The compiler may answer differently each time. That two walks ask about the same sequences
is not claimed.
-/

import NativeLayout.Compiler.Basic
import NativeLayout.Proofs.Capability.Questions
import NativeLayout.Proofs.Lists

namespace NativeLayout

/-- A compile that was made: its source and what the compiler answered. -/
structure Compilation where
  source : String
  answer : Except CompileError Unit

/-- The answer of a compile spoils every other compile too. -/
def Compilation.IsFatal (compile : Compilation) : Prop :=
  ∃ cause, compile.answer = .error cause ∧ cause.isFatal = true

/-- How a number of compiles ended: none of them was fatal, or just the last one, whose error is
then given. -/
inductive Ended : List Compilation → Option CompileError → Prop
  | harmless {made : List Compilation} (none_fatal : ∀ compile ∈ made, ¬ compile.IsFatal) :
    Ended made none
  | failed {earlier : List Compilation} {source : String} {cause : CompileError}
    (none_fatal : ∀ compile ∈ earlier, ¬ compile.IsFatal) (fatal : cause.isFatal = true) :
    Ended (earlier ++ [⟨source, .error cause⟩]) (some cause)

namespace CompileError

/-- The error of an answer, if it is one. -/
def of? {α : Type} : Except CompileError α → Option CompileError
  | .ok _ => none
  | .error cause => some cause

/-- The error of an answer, if it is one that spoils every other compile too. -/
def fatal? (answer : Except CompileError Unit) : Option CompileError :=
  (of? answer).filter isFatal

theorem of?_headerAnswer (answer : Except CompileError Unit) :
    of? (Compiler.headerAnswer answer) = fatal? answer := by
  rcases answer with (_ | _ | _) | _ <;> rfl

end CompileError

variable {σ : Type}

/-- A compiler that notes down its compiles in order. -/
def Compiler.recorded (compiler : Compiler σ) : Compiler (σ × List Compilation) :=
  fun source (state, made) =>
    match compiler source state with
    | (answer, state) => (answer, state, made ++ [⟨source, answer⟩])

theorem Ended.append {first second : List Compilation} {failure : Option CompileError}
    (harmless : ∀ compile ∈ first, ¬ compile.IsFatal) (ended : Ended second failure) :
    Ended (first ++ second) failure := by
  cases ended with
  | harmless rest =>
      refine .harmless fun compile among => ?_
      exact (List.mem_append.mp among).elim (harmless compile) (rest compile)
  | failed rest fatal =>
      rw [← List.append_assoc]
      refine .failed (fun compile among => ?_) fatal
      exact (List.mem_append.mp among).elim (harmless compile) (rest compile)

theorem Ended.none_fatal {made : List Compilation} (ended : Ended made none) :
    ∀ compile ∈ made, ¬ compile.IsFatal := by
  cases ended with
  | harmless none => exact none

theorem ended_nil : Ended [] none := .harmless nofun

/-- One compile ends with its own error if that is fatal. -/
theorem ended_singleton (source : String) (answer : Except CompileError Unit) :
    Ended [⟨source, answer⟩] (CompileError.fatal? answer) := by
  cases told : CompileError.fatal? answer with
  | none =>
      refine .harmless fun compile among => ?_
      obtain rfl := List.mem_singleton.mp among
      rintro ⟨cause, rfl, fatal⟩
      cases cause <;> cases fatal <;> cases told
  | some cause =>
      obtain ⟨given, fatal⟩ := Option.filter_eq_some_iff.mp told
      cases answer with
      | ok _ => cases given
      | error met =>
          cases given
          have last : Ended ([] ++ [⟨source, .error cause⟩]) (some cause) := .failed nofun fatal
          exact last

theorem Ended.exists_last {made : List Compilation} {cause : CompileError}
    (ended : Ended made (some cause)) :
    ∃ earlier source, made = earlier ++ [⟨source, .error cause⟩] ∧ cause.isFatal = true := by
  cases ended with
  | failed _ fatal => exact ⟨_, _, rfl, fatal⟩

/-- A fatal compile is the last one and gives its error. -/
theorem Ended.last {made earlier later : List Compilation} {compile : Compilation}
    {failure : Option CompileError} {cause : CompileError} (ended : Ended made failure)
    (split : made = earlier ++ compile :: later) (told : compile.answer = .error cause)
    (fatal : cause.isFatal = true) : later = [] ∧ failure = some cause := by
  cases ended with
  | harmless none =>
      have among : compile ∈ made := split ▸ List.mem_append_right _ List.mem_cons_self
      exact absurd ⟨cause, told, fatal⟩ (none compile among)
  | failed others _ =>
      obtain ⟨rfl, rfl⟩ := eq_last_of_split others split ⟨cause, told, fatal⟩
      cases told
      exact ⟨rfl, rfl⟩

namespace Oracle

/-- The sequences that a walk may have to ask the compiler about. -/
def unanswered (overrides : Overrides) (cache : ProbeCache) (questions : List Question) :
    List HeaderSet :=
  (questions.filter (·.isOpen overrides cache)).map Question.sequence

theorem unanswered_cons (overrides : Overrides) (cache : ProbeCache) (question : Question)
    (rest : List Question) :
    unanswered overrides cache (question :: rest) =
      (if question.isOpen overrides cache then [question.sequence] else []) ++
        unanswered overrides cache rest := by
  rw [unanswered, List.filter_cons]
  cases question.isOpen overrides cache <;> rfl

/-- Remembering the answer about a sequence leaves open what is asked about others. -/
theorem unanswered_remember {questions : List Question} {sequence : HeaderSet}
    (overrides : Overrides) (cache : ProbeCache) (answer : Bool)
    (others : ∀ question ∈ questions, question.sequence ≠ sequence) :
    unanswered overrides (cache.remember sequence answer).2 questions =
      unanswered overrides cache questions := by
  rw [unanswered, unanswered]
  congr 1
  apply List.filter_congr
  intro question raised
  rw [Question.isOpen, Question.isOpen, ProbeCache.get?_remember,
    if_neg (others question raised).symm]

/-- The compiles of a walk: probes of the sequences that may have to be asked about, from the
first on, and of all of them if the walk goes through. -/
structure Probes (unanswered : List HeaderSet) (outcome : Except CompileError Bool)
    (made : List Compilation) : Prop where
  sources : made.map Compilation.source <+: unanswered.map Source.probe
  all : outcome = .ok true → made.map Compilation.source = unanswered.map Source.probe
  ended : Ended made (CompileError.of? outcome)

/-- A walk that ends at once asks nothing. -/
theorem probes_nil (unanswered : List HeaderSet) : Probes unanswered (.ok false) [] where
  sources := List.nil_prefix
  all := nofun
  ended := ended_nil

/-- A walk that ends with a probe. -/
theorem probes_singleton {sequence : HeaderSet} {rest : List HeaderSet}
    {answer : Except CompileError Unit} (stopped : Compiler.headerAnswer answer ≠ .ok true) :
    Probes (sequence :: rest) (Compiler.headerAnswer answer) [⟨Source.probe sequence, answer⟩] where
  sources := List.prefix_append [Source.probe sequence] (rest.map Source.probe)
  all := fun same => absurd same stopped
  ended := by
    rw [CompileError.of?_headerAnswer]
    exact ended_singleton (Source.probe sequence) answer

/-- A walk that goes on after a probe. -/
theorem Probes.cons {sequence : HeaderSet} {rest : List HeaderSet}
    {outcome : Except CompileError Bool} {made : List Compilation}
    (probes : Probes rest outcome made) :
    Probes (sequence :: rest) outcome (⟨Source.probe sequence, .ok ()⟩ :: made) where
  sources := List.cons_prefix_cons.mpr ⟨rfl, probes.sources⟩
  all := fun same => by rw [List.map_cons, List.map_cons, probes.all same]
  ended := probes.ended.append (ended_singleton (Source.probe sequence) (.ok ())).none_fatal

section Open

variable {ε : Type} {overrides : Overrides} {probe : Probe ε σ} {before : HeaderSet}
  {header : String} {cache : ProbeCache} {state later : σ}

/-- A header with neither an override nor a remembered answer is probed. If it can be included the
walk goes on. -/
theorem walk_cons_of_included (unrecorded : overrides.header? header = none)
    (absent : cache.get? (before.push header) = none)
    (told : probe (before.push header) state = (.ok true, later)) (rest : List String) :
    walk overrides probe before (header :: rest) cache state =
      walk overrides probe (before.push header) rest
        (cache.remember (before.push header) true).2 later := by
  simp only [walk, unrecorded, ask, absent, told, ProbeCache.remember]

/-- Any other answer of the probe ends the walk, and it is remembered if it is no error. -/
theorem walk_cons_of_stopped (unrecorded : overrides.header? header = none)
    (absent : cache.get? (before.push header) = none) {answer : Except ε Bool}
    (told : probe (before.push header) state = (answer, later)) (stopped : answer ≠ .ok true)
    (rest : List String) :
    walk overrides probe before (header :: rest) cache state =
      (answer, answer.toOption.elim cache fun found =>
        (cache.remember (before.push header) found).2, later) := by
  rcases answer with failure | _ | _
  · simp only [walk, unrecorded, ask, absent, told, Except.toOption, Option.elim]
  · simp only [walk, unrecorded, ask, absent, told, ProbeCache.remember, Except.toOption,
      Option.elim]
  · exact absurd rfl stopped

end Open

/-- A walk does not notice that its compiles are noted down, and these are probes of what may have
to be asked. -/
theorem walk_compiles (compiler : Compiler σ) (overrides : Overrides) (before : HeaderSet)
    (rest : List String) (distinct : (before.toList ++ rest).Nodup) (cache : ProbeCache)
    (state : σ) :
    let plain := walk overrides compiler.probe before rest cache state
    ∃ made, (∀ earlier, walk overrides compiler.recorded.probe before rest cache (state, earlier) =
        (plain.1, plain.2.1, plain.2.2, earlier ++ made)) ∧
      Probes (unanswered overrides cache (questionsAfter before rest)) plain.1 made := by
  induction rest generalizing before cache state with
  | nil =>
      refine ⟨[], fun earlier => by rw [walk, walk, List.append_nil], ?_⟩
      exact ⟨List.nil_prefix, fun _ => rfl, ended_nil⟩
  | cons header rest ih =>
      have fresh := HeaderSet.not_mem_of_nodup_append distinct
      have longer : (before.push header).toList = before.toList ++ [header] :=
        HeaderSet.toList_push_of_not_mem fresh
      have onward : ((before.push header).toList ++ rest).Nodup := by
        rw [longer, List.append_assoc]
        exact distinct
      rw [questionsAfter, unanswered_cons, Question.isOpen]
      cases recorded : overrides.header? header with
      | some supported =>
          cases supported with
          | true => simpa [walk, recorded] using ih (before.push header) onward cache state
          | false =>
              refine ⟨[], fun earlier => by simp [walk, recorded], ?_⟩
              simp only [walk, recorded]
              exact probes_nil _
      | none =>
          cases known : cache.get? (before.push header) with
          | some supported =>
              cases supported with
              | true =>
                  simpa [walk, recorded, ask, known] using ih (before.push header) onward cache state
              | false =>
                  refine ⟨[], fun earlier => by simp [walk, recorded, ask, known], ?_⟩
                  simp only [walk, recorded, ask, known]
                  exact probes_nil _
          | none =>
              have others : ∀ question ∈ questionsAfter (before.push header) rest,
                  question.sequence ≠ before.push header := by
                intro question raised same
                have := length_lt_of_mem_questionsAfter onward raised
                rw [same] at this
                exact Nat.lt_irrefl _ this
              simp only [Option.isNone_none, Bool.and_self, if_true, List.singleton_append]
              obtain ⟨answer, later, told⟩ :
                  ∃ answer later, compiler (Source.probe (before.push header)) state =
                    (answer, later) := ⟨_, _, rfl⟩
              have plain : compiler.probe (before.push header) state =
                  (Compiler.headerAnswer answer, later) := by
                rw [Compiler.probe, told]
              have noted (earlier : List Compilation) :
                  compiler.recorded.probe (before.push header) (state, earlier) =
                    (Compiler.headerAnswer answer, later,
                      earlier ++ [⟨Source.probe (before.push header), answer⟩]) := by
                rw [Compiler.probe, Compiler.recorded, told]
              by_cases through : Compiler.headerAnswer answer = .ok true
              · obtain rfl : answer = .ok () := by
                  rcases answer with (_ | _ | _) | _ <;> cases through
                  rfl
                obtain ⟨made, same, probes⟩ := ih (before.push header) onward
                  (cache.remember (before.push header) true).2 later
                rw [unanswered_remember overrides cache true others] at probes
                rw [walk_cons_of_included recorded known plain]
                refine ⟨⟨Source.probe (before.push header), .ok ()⟩ :: made, fun earlier => ?_,
                  probes.cons⟩
                rw [walk_cons_of_included recorded known (noted earlier), same,
                  List.append_assoc, List.singleton_append]
              · rw [walk_cons_of_stopped recorded known plain through]
                refine ⟨[⟨Source.probe (before.push header), answer⟩], fun earlier => ?_,
                  probes_singleton through⟩
                rw [walk_cons_of_stopped recorded known (noted earlier) through]

end Oracle

end NativeLayout
