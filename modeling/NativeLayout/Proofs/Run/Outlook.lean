/-
# What a worker comes to

A worker that shares its memory with others keeps an outlook: the outcome that its
entry would have if nothing were remembered from here on. Under a compiler that
always answers alike a step of the worker leaves its outlook as it is, because all
that is found in the memory agrees with the compiler, and what the step puts there
agrees with it too.

A probe and the storing of its answer are two steps, so a worker that has probed
must be known to hold a right answer until it is stored.
-/

import NativeLayout.Proofs.Run.Reference
import NativeLayout.Run.Workers

namespace NativeLayout

variable {σ : Type}

namespace Phase

/-- Whatever is read off a phase, if it is what some cache-free answers lead to where the
memory is to be asked and where a walk ends, then it is so wherever a walk goes on. -/
theorem eq_reference_onward {ε α : Type} (view : Phase → α) (conclude : Except ε Bool → α)
    (overrides : Overrides) (answer : HeaderSet → Except ε Bool)
    (included : view compile = conclude (.ok true))
    (excluded : view (done (.ok (.skip .headersUnsupported))) = conclude (.ok false))
    (asked : ∀ sequence rest, view (lookUp sequence rest) = conclude
      (match answer sequence with
      | .ok true => Oracle.reference overrides answer sequence rest
      | other => other)) (before : HeaderSet) (rest : List String) :
    view (onward overrides before rest) =
      conclude (Oracle.reference overrides answer before rest) := by
  induction rest generalizing before with
  | nil => exact included
  | cons header rest ih =>
      rw [onward, Oracle.reference_cons]
      cases overrides.header? header with
      | none => exact asked (before.push header) rest
      | some supported =>
          cases supported with
          | true => exact ih (before.push header)
          | false => exact excluded

section Outlook

variable (answer : String → Except CompileError Unit) (skip : SkipList) (overrides : Overrides)

/-- What a worker comes to from a phase on if nothing is ever remembered. -/
def outlook (entry : MatrixEntry) : Phase → Except RunError Verdict
  | gate => Run.reference answer skip overrides entry
  | lookUp sequence rest | probe sequence rest | remember sequence _ rest =>
    Run.concluded answer skip entry
      (match Compiler.includable answer sequence with
      | .ok true => Oracle.reference overrides (Compiler.includable answer) sequence rest
      | other => other)
  | compile => Run.concluded answer skip entry (.ok true)
  | done result => result

/-- A worker that is about to put an answer into the memory has it from the compiler. -/
def Honest : Phase → Prop
  | remember sequence found _ => Compiler.includable answer sequence = .ok found
  | _ => True

variable (entry : MatrixEntry)

theorem honest_onward (before : HeaderSet) (rest : List String) :
    (onward overrides before rest).Honest answer := by
  rcases onward_cases overrides before rest with same | same | ⟨sequence, later, same⟩
  · rw [same]
    trivial
  · rw [same]
    trivial
  · rw [same]
    trivial

/-- Going on with a walk leads to what the cache-free walk concludes. -/
theorem outlook_onward (before : HeaderSet) (rest : List String) :
    (onward overrides before rest).outlook answer skip overrides entry =
      Run.concluded answer skip entry
        (Oracle.reference overrides (Compiler.includable answer) before rest) := by
  apply eq_reference_onward (outlook answer skip overrides entry)
    (Run.concluded answer skip entry) overrides (Compiler.includable answer)
  · rfl
  · rfl
  · intro sequence rest
    rw [outlook]
    rcases Compiler.includable answer sequence with _ | _ | _ <;> rfl

theorem honest_answered (sequence : HeaderSet) (rest : List String) (found : Bool) :
    (answered overrides sequence rest found).Honest answer := by
  cases found with
  | true => exact honest_onward answer overrides sequence rest
  | false => trivial

variable {answer}

/-- Going on after a right answer leads where asking the compiler would. -/
theorem outlook_answered {sequence : HeaderSet} {found : Bool}
    (right : Compiler.includable answer sequence = .ok found) (rest : List String) :
    (answered overrides sequence rest found).outlook answer skip overrides entry =
      (lookUp sequence rest).outlook answer skip overrides entry := by
  rw [outlook, right]
  cases found with
  | true => exact outlook_onward answer skip overrides entry sequence rest
  | false => rfl

/-- One step under agreement keeps the outlook of its worker, its honesty and the
agreement. -/
theorem step_outlook {compiler : Compiler σ} (steady : compiler.Steady answer) {phase : Phase}
    (honest : phase.Honest answer) {cache : ProbeCache}
    (agrees : cache.Agrees (Compiler.includable answer)) (state : σ) :
    let after := phase.step compiler skip overrides entry cache state
    after.1.outlook answer skip overrides entry = phase.outlook answer skip overrides entry ∧
      after.1.Honest answer ∧ after.2.1.Agrees (Compiler.includable answer) := by
  intro after
  cases phase with
  | gate =>
      cases gated : Run.structGate? overrides entry.name with
      | some reason =>
          simp only [after, step, gated]
          refine ⟨?_, trivial, agrees⟩
          rw [outlook, outlook, Run.reference_of_gate_some _ _ _ gated]
      | none =>
          simp only [after, step, gated]
          refine ⟨?_, honest_onward answer overrides ∅ _, agrees⟩
          rw [outlook_onward, outlook, Run.reference_of_gate_none _ _ _ gated]
  | lookUp sequence rest =>
      cases known : cache.get? sequence with
      | none =>
          simp only [after, step, known]
          exact ⟨rfl, trivial, agrees⟩
      | some found =>
          simp only [after, step, known]
          have right := agrees sequence found known
          exact ⟨outlook_answered skip overrides entry right rest,
            honest_answered answer overrides sequence rest found, agrees⟩
  | probe sequence rest =>
      have told := steady.probe sequence state
      rcases asked : compiler.probe sequence state with ⟨failure | found, later⟩
      · rw [asked] at told
        simp only [after, step, asked]
        refine ⟨?_, trivial, agrees⟩
        simp only [outlook, ← told, Run.concluded]
      · rw [asked] at told
        simp only [after, step, asked]
        exact ⟨rfl, told.symm, agrees⟩
  | remember sequence found rest =>
      have kept := agrees.remember honest
      have same := agrees.remember_fst honest
      rcases stored : cache.remember sequence found with ⟨agreed, later⟩
      rw [stored] at kept same
      simp only [after, step, stored]
      subst same
      exact ⟨outlook_answered skip overrides entry honest rest,
        honest_answered answer overrides sequence rest _, kept⟩
  | compile =>
      have told := steady (Source.assertions entry.descriptor entry.headers skip) state
      refine ⟨?_, trivial, agrees⟩
      simp only [after, step, outlook, Run.concluded, told]
  | done result => exact ⟨rfl, trivial, agrees⟩

end Outlook

end Phase

end NativeLayout
