/-
# Memories and a fixed probe

If a probe always answers alike, then what is answered about a sequence stays the same as
well: it is what the memory had at first, or else what the probe gives. Looking up, probing
and remembering do not change it, and neither does a walk over headers, whatever state the
probe carries along. A memory agrees with the probe if every answer in it is the one that
the probe gives, and just then it is as if nothing were ever remembered.

Nothing here says how often the probe is asked; that is the matter of the modules
on questions and on histories.
-/

import NativeLayout.Capability.Oracle

namespace NativeLayout

variable {ε σ : Type}

namespace ProbeCache

variable {answer : HeaderSet → Except ε Bool} {cache : ProbeCache}

/-- Every remembered answer is the one that a fixed probe gives. -/
def Agrees (cache : ProbeCache) (answer : HeaderSet → Except ε Bool) : Prop :=
  ∀ sequence known, cache.get? sequence = some known → answer sequence = .ok known

theorem agrees_empty (answer : HeaderSet → Except ε Bool) : (∅ : ProbeCache).Agrees answer := by
  intro sequence known present
  rw [get?_empty] at present
  cases present

/-- A right answer is agreed upon when it is put into a memory that agrees. -/
theorem Agrees.remember_fst (agrees : cache.Agrees answer) {sequence : HeaderSet} {found : Bool}
    (right : answer sequence = .ok found) : (cache.remember sequence found).1 = found := by
  cases known : cache.get? sequence with
  | none => simp only [remember, known]
  | some stored =>
      have same : answer sequence = .ok stored := agrees sequence stored known
      rw [right] at same
      simp only [remember, known]
      exact (Except.ok.inj same).symm

/-- Remembering a right answer keeps the agreement. -/
theorem Agrees.remember (agrees : cache.Agrees answer) {sequence : HeaderSet} {found : Bool}
    (right : answer sequence = .ok found) : (cache.remember sequence found).2.Agrees answer := by
  intro other known present
  rw [get?_remember, agrees.remember_fst right] at present
  by_cases same : sequence = other
  · rw [if_pos same] at present
    rw [← same, right, Option.some.inj present]
  · rw [if_neg same] at present
    exact agrees other known present

/-- The answer about a sequence that is looked for in a memory first and else is a fixed one. -/
def consulted (cache : ProbeCache) (answer : HeaderSet → Except ε Bool) (sequence : HeaderSet) :
    Except ε Bool :=
  (cache.get? sequence).elim (answer sequence) .ok

/-- A memory agrees exactly if it makes no difference to look there first. -/
theorem agrees_iff : cache.Agrees answer ↔ cache.consulted answer = answer := by
  constructor
  · intro agrees
    funext sequence
    rw [consulted]
    cases known : cache.get? sequence with
    | none => rfl
    | some stored => exact (agrees sequence stored known).symm
  · intro same sequence known present
    rw [← same, consulted, present]
    rfl

/-- Remembering the fixed answer about a sequence that had none makes no difference. -/
theorem consulted_remember {sequence : HeaderSet} {found : Bool}
    (absent : cache.get? sequence = none) (right : answer sequence = .ok found) :
    (cache.remember sequence found).2.consulted answer = cache.consulted answer := by
  funext other
  rw [consulted, consulted, get?_remember]
  by_cases same : sequence = other
  · subst same
    rw [if_pos rfl, absent, Option.elim_none, right, remember, absent]
    rfl
  · rw [if_neg same]

end ProbeCache

/-- A probe answers alike in every state. -/
def Probe.Steady (probe : Probe ε σ) (answer : HeaderSet → Except ε Bool) : Prop :=
  ∀ sequence state, (probe sequence state).1 = answer sequence

namespace Oracle

variable {answer : HeaderSet → Except ε Bool} {probe : Probe ε σ} {cache : ProbeCache}

/-- The answer of a fixed probe is the one that is looked for in the memory first, and afterwards
the memory answers nothing differently. -/
theorem ask_consulted (steady : probe.Steady answer) (sequence : HeaderSet) (cache : ProbeCache)
    (state : σ) :
    (ask probe sequence cache state).1 = cache.consulted answer sequence ∧
      (ask probe sequence cache state).2.1.consulted answer = cache.consulted answer := by
  cases known : cache.get? sequence with
  | some stored => simp only [ask, ProbeCache.consulted, known, Option.elim_some, and_self]
  | none =>
      have told := steady sequence state
      rcases asked : probe sequence state with ⟨failure | found, later⟩
      · rw [asked] at told
        simp only [ask, ProbeCache.consulted, known, asked, Option.elim_none, and_true]
        exact told
      · rw [asked] at told
        have first : cache.consulted answer sequence = .ok found := by
          rw [ProbeCache.consulted, known, Option.elim_none, ← told]
        rw [first]
        simp only [ask, known, asked]
        refine ⟨?_, ProbeCache.consulted_remember known told.symm⟩
        rw [ProbeCache.remember, known]

/-- One header of the cache-free walk: an override decides, else the probe. -/
theorem reference_cons (overrides : Overrides) (answer : HeaderSet → Except ε Bool)
    (before : HeaderSet) (header : String) (rest : List String) :
    reference overrides answer before (header :: rest) =
      match (overrides.header? header).elim (answer (before.push header)) .ok with
      | .ok true => reference overrides answer (before.push header) rest
      | other => other := rfl

/-- A walk with a fixed probe answers as the cache-free walk in which every answer is looked for
in the memory first, and afterwards the memory answers nothing differently. -/
theorem walk_consulted (overrides : Overrides) (steady : probe.Steady answer)
    (before : HeaderSet) (rest : List String) (cache : ProbeCache) (state : σ) :
    (walk overrides probe before rest cache state).1 =
        reference overrides (cache.consulted answer) before rest ∧
      (walk overrides probe before rest cache state).2.1.consulted answer =
        cache.consulted answer := by
  induction rest generalizing before cache state with
  | nil => exact ⟨rfl, rfl⟩
  | cons header rest ih =>
      rw [walk, reference_cons]
      cases recorded : overrides.header? header with
      | some supported =>
          cases supported with
          | true => exact ih (before.push header) cache state
          | false => exact ⟨rfl, rfl⟩
      | none =>
          obtain ⟨right, kept⟩ := ask_consulted steady (before.push header) cache state
          simp only [Option.elim_none]
          -- only an answer of yes lets the walk go on, with the memory that the question left
          rcases asked : ask probe (before.push header) cache state with
            ⟨failure | _ | _, later, after⟩
          all_goals rw [asked] at right kept
          · rw [← right]
            exact ⟨rfl, kept⟩
          · rw [← right]
            exact ⟨rfl, kept⟩
          · obtain ⟨onward, still⟩ := ih (before.push header) later after
            rw [kept] at onward still
            rw [← right]
            exact ⟨onward, still⟩

end Oracle

end NativeLayout
