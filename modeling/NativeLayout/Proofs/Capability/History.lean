/-
# Histories of an oracle

An oracle is used by editing its overrides and by asking it about header sets, in
any order. Against a fixed probe the memory can not be noticed: at every moment
each remembered answer is the one of the probe, a set is answered as if nothing
were remembered, and no sequence has the probe answer it twice.

An edit never touches the memory. A header may thus be probed first, overridden
later, and still stand in the sequences of headers after it.
-/

import NativeLayout.Proofs.Capability.Questions

namespace NativeLayout

variable {ε : Type}

/-- What can be done to an oracle. -/
inductive Operation
  | withStruct (name : String) (supported : Bool)
  | withHeader (header : String) (supported : Bool)
  | withoutLinux
  | withPolicy (policy : UnknownPolicy)
  | apply (config : CapabilityConfig)
  | supportsHeaders (headers : HeaderSet)

/-- What an operation does to the overrides. -/
def Operation.edit : Operation → Overrides → Overrides
  | withStruct name supported, o => o.withStruct name supported
  | withHeader header supported, o => o.withHeader header supported
  | withoutLinux, o => o.withoutLinux
  | withPolicy policy, o => o.withPolicy policy
  | apply config, o => o.apply config
  | supportsHeaders _, o => o

/-- An oracle and the sequences that its probe has been asked about so far. -/
structure History where
  oracle : Oracle := .new
  asked : List HeaderSet := []

namespace History

/-- One more operation, with a fixed probe. -/
def perform (answer : HeaderSet → Except ε Bool) (history : History) : Operation → History
  | .supportsHeaders headers =>
    match history.oracle.supportsHeaders (Probe.recorded answer) headers history.asked with
    | (_, oracle, asked) => ⟨oracle, asked⟩
  | operation => { history with oracle := history.oracle.mapOverrides operation.edit }

/-- The history of some operations on a new oracle. -/
def after (answer : HeaderSet → Except ε Bool) (operations : List Operation) : History :=
  operations.foldl (perform answer) {}

/-- What every history keeps: the memory agrees with the probe, it has every answer that the
probe gave, and the probe gave no answer twice. -/
structure Valid (answer : HeaderSet → Except ε Bool) (history : History) : Prop where
  agrees : history.oracle.cache.Agrees answer
  remembered : ∀ sequence ∈ history.asked, ∀ found, answer sequence = .ok found →
    history.oracle.cache.get? sequence = some found
  once : (history.asked.filter fun sequence => (answer sequence).isOk).Nodup

variable {answer : HeaderSet → Except ε Bool} {history : History}

/-- A question about a set under agreement, whatever has been done before. -/
theorem supportsHeaders_recorded (oracle : Oracle) (agrees : oracle.cache.Agrees answer)
    (headers : HeaderSet) (asked : List HeaderSet) :
    oracle.supportsHeaders (Probe.recorded answer) headers asked =
      let heard := Oracle.probedAmong oracle.overrides answer oracle.cache headers.questions
      (Oracle.settled oracle.overrides answer headers.questions,
        ⟨oracle.overrides, oracle.cache.learn answer heard⟩, asked ++ heard) := by
  have distinct : ((∅ : HeaderSet).toList ++ headers.toList).Nodup := by
    rw [HeaderSet.toList_empty, List.nil_append]
    exact headers.nodup
  rw [Oracle.supportsHeaders, Oracle.walk_recorded _ _ _ distinct agrees,
    Oracle.questionsAfter_empty]

/-- Asking about a set keeps a history valid: what is asked anew was not remembered, hence
not answered before. -/
theorem Valid.supportsHeaders (valid : history.Valid answer) (headers : HeaderSet) :
    (history.perform answer (.supportsHeaders headers)).Valid answer := by
  rw [perform, supportsHeaders_recorded _ valid.agrees]
  constructor
  · exact Oracle.agrees_learn valid.agrees _
  · intro sequence among found told
    rw [ProbeCache.get?_learn]
    rcases List.mem_append.mp among with before | now
    · have known := valid.remembered sequence before found told
      rw [known, told]
      split <;> rfl
    · rw [if_pos now, told]
      rfl
  · rw [List.filter_append]
    refine List.nodup_append.mpr ⟨valid.once, ?_, ?_⟩
    · exact (Oracle.nodup_probedAmong _ _ _ headers).sublist List.filter_sublist
    · intro sequence before again now same
      subst same
      obtain ⟨asked, answered⟩ := List.mem_filter.mp before
      have absent := Oracle.get?_of_mem_probedAmong (List.mem_filter.mp now).1
      cases told : answer sequence with
      | error failure => rw [told] at answered; cases answered
      | ok found =>
          rw [valid.remembered sequence asked found told] at absent
          cases absent

/-- Every operation keeps a history valid. -/
theorem Valid.perform (valid : history.Valid answer) (operation : Operation) :
    (history.perform answer operation).Valid answer := by
  cases operation with
  | supportsHeaders headers => exact valid.supportsHeaders headers
  | _ => exact ⟨valid.agrees, valid.remembered, valid.once⟩

end History

end NativeLayout
