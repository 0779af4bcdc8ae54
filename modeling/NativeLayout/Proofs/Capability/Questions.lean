/-
# The questions of a walk

A header set raises one question for each of its headers: whether the include
sequence that ends in that header can be included. A walk poses them in order up
to the first that is not answered with yes. An override answers a question on the
spot and a remembered answer needs no probe, so the probe hears only of the rest.

The main statement describes a whole walk at once under a memory that agrees with
a fixed probe: its answer, what the probe hears, and what is remembered after it.
-/

import NativeLayout.Proofs.Capability.Agreement
import NativeLayout.Proofs.HeaderSet

namespace NativeLayout

variable {ε : Type}

/-- A header and the include sequence that ends in it. -/
structure Question where
  header : String
  sequence : HeaderSet

/-- The questions that a set raises, in order. -/
def HeaderSet.questions (s : HeaderSet) : List Question :=
  s.toList.mapIdx fun n header => ⟨header, s.take (n + 1)⟩

/-- A fixed probe that notes down the sequences it is asked about. -/
def Probe.recorded (answer : HeaderSet → Except ε Bool) : Probe ε (List HeaderSet) :=
  fun sequence asked => (answer sequence, asked ++ [sequence])

/-- A memory with the answers that a fixed probe gives to some more sequences, the latest in
front. A sequence that the probe fails on adds nothing. -/
def ProbeCache.learn (cache : ProbeCache) (answer : HeaderSet → Except ε Bool)
    (sequences : List HeaderSet) : ProbeCache :=
  ⟨(sequences.filterMap fun sequence => (answer sequence).toOption.map (sequence, ·)).reverse ++
    cache.entries⟩

/-- The answer to a question if nothing is remembered: that of an override if there is one,
else that of the probe. -/
def Question.response (overrides : Overrides) (answer : HeaderSet → Except ε Bool)
    (question : Question) : Except ε Bool :=
  (overrides.header? question.header).elim (answer question.sequence) .ok

/-- Whether a question goes to the probe: there is neither an override for its header nor a
remembered answer for its sequence. -/
def Question.isOpen (overrides : Overrides) (cache : ProbeCache) (question : Question) : Bool :=
  (overrides.header? question.header).isNone && (cache.get? question.sequence).isNone

namespace HeaderSet

/-- Every header of a set can be included after those before it. -/
def Supported (overrides : Overrides) (answer : HeaderSet → Except ε Bool) (s : HeaderSet) :
    Prop :=
  ∀ question ∈ s.questions, question.response overrides answer = .ok true

/-- Some header of a set has the given answer, and the headers before it can be included. -/
def Stops (overrides : Overrides) (answer : HeaderSet → Except ε Bool) (s : HeaderSet)
    (outcome : Except ε Bool) : Prop :=
  ∃ earlier question later, s.questions = earlier ++ question :: later ∧
    (∀ before ∈ earlier, before.response overrides answer = .ok true) ∧
    question.response overrides answer = outcome

end HeaderSet

namespace ProbeCache

variable (cache : ProbeCache) (answer : HeaderSet → Except ε Bool)

@[simp]
theorem learn_nil : cache.learn answer [] = cache := rfl

/-- Learning the answers to some sequences and then to others is learning them all. -/
theorem learn_append (first second : List HeaderSet) :
    cache.learn answer (first ++ second) = (cache.learn answer first).learn answer second := by
  simp only [learn, List.filterMap_append, List.reverse_append, List.append_assoc]

/-- A sequence that the probe fails on teaches nothing. -/
theorem learn_error {sequence : HeaderSet} {failure : ε} (told : answer sequence = .error failure) :
    cache.learn answer [sequence] = cache := by
  simp only [learn, List.filterMap_cons, told, Except.toOption, Option.map_none,
    List.filterMap_nil, List.reverse_nil, List.nil_append]

/-- A sequence that is not remembered yet is learnt by remembering its answer. -/
theorem learn_ok {sequence : HeaderSet} {found : Bool} (told : answer sequence = .ok found)
    (absent : cache.get? sequence = none) :
    cache.remember sequence found = (found, cache.learn answer [sequence]) := by
  simp only [remember, absent, learn, List.filterMap_cons, told, Except.toOption, Option.map_some,
    List.filterMap_nil, List.reverse_singleton, List.singleton_append]

/-- After learning, a sequence that was learnt has the answer of the probe, if it gave one. -/
theorem get?_learn (sequences : List HeaderSet) (other : HeaderSet) :
    (cache.learn answer sequences).get? other =
      if other ∈ sequences then (answer other).toOption.or (cache.get? other)
      else cache.get? other := by
  induction sequences generalizing cache with
  | nil => rw [learn_nil, if_neg List.not_mem_nil]
  | cons sequence rest ih =>
      have first : (cache.learn answer [sequence]).get? other =
          if other = sequence then (answer other).toOption.or (cache.get? other)
          else cache.get? other := by
        cases told : answer sequence with
        | error failure =>
            rw [learn_error cache answer told]
            by_cases same : other = sequence
            · rw [if_pos same, same, told]
              rfl
            · rw [if_neg same]
        | ok found =>
            have entry : cache.learn answer [sequence] =
                ⟨(sequence, found) :: cache.entries⟩ := by
              simp only [learn, List.filterMap_cons, told, Except.toOption, Option.map_some,
                List.filterMap_nil, List.reverse_singleton, List.singleton_append]
            rw [entry, get?, find]
            by_cases same : other = sequence
            · rw [if_pos same, if_pos same.symm, same, told]
              rfl
            · rw [if_neg same, if_neg (Ne.symm same)]
              rfl
      rw [← List.singleton_append, learn_append, ih, first]
      by_cases same : other = sequence
      · simp only [same, List.singleton_append, List.mem_cons, true_or, if_true]
        split
        · cases (answer sequence).toOption <;> rfl
        · rfl
      · simp only [same, List.singleton_append, List.mem_cons, false_or, if_false]

end ProbeCache

namespace Oracle

variable {answer : HeaderSet → Except ε Bool} {cache : ProbeCache}

/-- The questions up to and including the first that is not answered with yes. -/
def posed (overrides : Overrides) (answer : HeaderSet → Except ε Bool) :
    List Question → List Question
  | [] => []
  | question :: rest =>
    match question.response overrides answer with
    | .ok true => question :: posed overrides answer rest
    | _ => [question]

/-- The answer to some questions together: that of the first which is not answered with yes. -/
def settled (overrides : Overrides) (answer : HeaderSet → Except ε Bool) :
    List Question → Except ε Bool
  | [] => .ok true
  | question :: rest =>
    match question.response overrides answer with
    | .ok true => settled overrides answer rest
    | other => other

/-- The sequences that the probe hears of: those of the posed questions that are open. -/
def probedAmong (overrides : Overrides) (answer : HeaderSet → Except ε Bool)
    (cache : ProbeCache) (questions : List Question) : List HeaderSet :=
  ((posed overrides answer questions).filter (·.isOpen overrides cache)).map Question.sequence

/-- The questions about some headers when others have been included before. -/
def questionsAfter : HeaderSet → List String → List Question
  | _, [] => []
  | before, header :: rest =>
    ⟨header, before.push header⟩ :: questionsAfter (before.push header) rest

/-- The questions raised while a set is walked are those of its initial segments. -/
theorem questionsAfter_eq_mapIdx {s before : HeaderSet} {rest : List String}
    (split : before.toList ++ rest = s.toList) :
    questionsAfter before rest =
      rest.mapIdx fun n header => ⟨header, s.take (before.toList.length + n + 1)⟩ := by
  induction rest generalizing before with
  | nil => rfl
  | cons header rest ih =>
      have distinct : (before.toList ++ header :: rest).Nodup := split ▸ s.nodup
      have fresh := HeaderSet.not_mem_of_nodup_append distinct
      have longer : (before.push header).toList = before.toList ++ [header] :=
        HeaderSet.toList_push_of_not_mem fresh
      have onward : (before.push header).toList ++ rest = s.toList := by
        rw [longer, List.append_assoc, List.singleton_append, split]
      rw [questionsAfter, ih onward, longer, HeaderSet.push_eq_take split, List.mapIdx_cons,
        Nat.add_zero]
      simp only [List.length_append, List.length_singleton, Nat.add_assoc, Nat.add_comm 1]

/-- A set that is walked from its front raises its questions. -/
theorem questionsAfter_empty (s : HeaderSet) : questionsAfter ∅ s.toList = s.questions := by
  rw [questionsAfter_eq_mapIdx (s := s) (by rw [HeaderSet.toList_empty, List.nil_append])]
  simp only [HeaderSet.questions, HeaderSet.toList_empty, List.length_nil, Nat.zero_add]

/-- The cache-free walk settles the questions that it raises. -/
theorem reference_eq_settled (overrides : Overrides) (answer : HeaderSet → Except ε Bool)
    (before : HeaderSet) (rest : List String) :
    reference overrides answer before rest =
      settled overrides answer (questionsAfter before rest) := by
  induction rest generalizing before with
  | nil => rfl
  | cons header rest ih =>
      rw [reference_cons, questionsAfter, settled, Question.response]
      cases (overrides.header? header).elim (answer (before.push header)) .ok with
      | error failure => rfl
      | ok supported =>
          cases supported with
          | true => exact ih (before.push header)
          | false => rfl

/-- Questions are settled with yes exactly if all of them are answered with yes. -/
theorem settled_eq_ok_true_iff {overrides : Overrides} {questions : List Question} :
    settled overrides answer questions = .ok true ↔
      ∀ question ∈ questions, question.response overrides answer = .ok true := by
  induction questions with
  | nil => simp [settled]
  | cons question rest ih =>
      rw [settled, List.forall_mem_cons]
      split
      · next yes => rw [ih, yes, eq_self, true_and]
      · next no => exact iff_of_false no fun all => no all.1

/-- Questions are settled otherwise exactly by the first that is not answered with yes. -/
theorem settled_eq_iff {overrides : Overrides} {questions : List Question}
    {outcome : Except ε Bool} (other : outcome ≠ .ok true) :
    settled overrides answer questions = outcome ↔
      ∃ earlier question later, questions = earlier ++ question :: later ∧
        (∀ before ∈ earlier, before.response overrides answer = .ok true) ∧
        question.response overrides answer = outcome := by
  induction questions with
  | nil => simp [settled, Ne.symm other]
  | cons first rest ih =>
      rw [settled]
      constructor
      · intro ended
        split at ended
        · next yes =>
            obtain ⟨earlier, question, later, rfl, all, last⟩ := ih.mp ended
            refine ⟨first :: earlier, question, later, rfl, ?_, last⟩
            exact List.forall_mem_cons.mpr ⟨yes, all⟩
        · next no => exact ⟨[], first, rest, rfl, nofun, ended⟩
      · rintro ⟨earlier, question, later, split, all, last⟩
        cases earlier with
        | nil =>
            obtain ⟨rfl, rfl⟩ := List.cons_eq_cons.mp split
            rw [last]
            split
            · exact absurd rfl other
            · rfl
        | cons before earlier =>
            obtain ⟨rfl, rfl⟩ := List.cons_eq_cons.mp split
            rw [all first List.mem_cons_self]
            exact ih.mpr ⟨earlier, question, later, rfl,
              fun before among => all before (List.mem_cons_of_mem first among), last⟩

/-- The cache-free walk over a set ends with yes exactly if all its headers can be included. -/
theorem reference_eq_ok_true_iff {overrides : Overrides} {s : HeaderSet} :
    reference overrides answer ∅ s.toList = .ok true ↔ s.Supported overrides answer := by
  rw [reference_eq_settled, questionsAfter_empty]
  exact settled_eq_ok_true_iff

/-- The cache-free walk over a set ends otherwise exactly where it is stopped. -/
theorem reference_eq_iff_stops {overrides : Overrides} {s : HeaderSet}
    {outcome : Except ε Bool} (other : outcome ≠ .ok true) :
    reference overrides answer ∅ s.toList = outcome ↔ s.Stops overrides answer outcome := by
  rw [reference_eq_settled, questionsAfter_empty]
  exact settled_eq_iff other

/-- Every sequence asked about while a set is walked is longer than what came before. -/
theorem length_lt_of_mem_questionsAfter {before : HeaderSet} {rest : List String}
    (distinct : (before.toList ++ rest).Nodup) {question : Question}
    (raised : question ∈ questionsAfter before rest) :
    before.toList.length < question.sequence.toList.length := by
  induction rest generalizing before with
  | nil => exact absurd raised List.not_mem_nil
  | cons header rest ih =>
      have fresh := HeaderSet.not_mem_of_nodup_append distinct
      have longer : (before.push header).toList = before.toList ++ [header] :=
        HeaderSet.toList_push_of_not_mem fresh
      have grown : (before.push header).toList.length = before.toList.length + 1 := by
        rw [longer, List.length_append, List.length_singleton]
      rcases List.mem_cons.mp raised with rfl | later
      · exact grown ▸ Nat.lt_succ_self _
      · have onward : ((before.push header).toList ++ rest).Nodup := by
          rw [longer, List.append_assoc]
          exact distinct
        have := ih onward later
        omega

theorem posed_sublist (overrides : Overrides) (answer : HeaderSet → Except ε Bool)
    (questions : List Question) : (posed overrides answer questions).Sublist questions := by
  induction questions with
  | nil => exact .slnil
  | cons question rest ih =>
      rw [posed]
      split
      · exact ih.cons_cons question
      · exact (List.nil_sublist rest).cons_cons question

/-- What the probe hears: the first question if it is open, then the rest if the first is
answered with yes. -/
theorem probedAmong_cons (overrides : Overrides) (answer : HeaderSet → Except ε Bool)
    (cache : ProbeCache) (question : Question) (rest : List Question) :
    probedAmong overrides answer cache (question :: rest) =
      (if question.isOpen overrides cache then [question.sequence] else []) ++
        match question.response overrides answer with
        | .ok true => probedAmong overrides answer cache rest
        | _ => [] := by
  rw [probedAmong, posed]
  cases question.response overrides answer with
  | error failure => by_cases h : question.isOpen overrides cache <;> simp [h]
  | ok supported =>
      cases supported <;> by_cases h : question.isOpen overrides cache <;> simp [h, probedAmong]

/-- Learning about a sequence opens or closes no question about another. -/
theorem probedAmong_learn {questions : List Question} {sequence : HeaderSet}
    (overrides : Overrides) (answer : HeaderSet → Except ε Bool) (cache : ProbeCache)
    (others : ∀ question ∈ questions, question.sequence ≠ sequence) :
    probedAmong overrides answer (cache.learn answer [sequence]) questions =
      probedAmong overrides answer cache questions := by
  unfold probedAmong
  congr 1
  apply List.filter_congr
  intro question kept
  have absent : question.sequence ∉ [sequence] := fun present =>
    others question ((posed_sublist overrides answer questions).subset kept)
      (List.mem_singleton.mp present)
  rw [Question.isOpen, ProbeCache.get?_learn, if_neg absent, Question.isOpen]

/-- A question put to a noting probe under agreement: a remembered answer is given again and
nothing is noted, else the probe's answer is noted and learnt. -/
theorem ask_recorded (agrees : cache.Agrees answer) (sequence : HeaderSet)
    (asked : List HeaderSet) :
    ask (Probe.recorded answer) sequence cache asked =
      let heard := if (cache.get? sequence).isNone then [sequence] else []
      (answer sequence, cache.learn answer heard, asked ++ heard) := by
  cases known : cache.get? sequence with
  | some stored =>
      have right : answer sequence = .ok stored := agrees sequence stored known
      simp [ask, known, right]
  | none =>
      cases told : answer sequence with
      | error failure =>
          simp [ask, known, Probe.recorded, told, ProbeCache.learn_error cache answer told]
      | ok found =>
          simp [ask, known, Probe.recorded, told, ProbeCache.learn_ok cache answer told known]

/-- What is learnt from a question under agreement agrees again. -/
theorem agrees_learn (agrees : cache.Agrees answer) (sequences : List HeaderSet) :
    (cache.learn answer sequences).Agrees answer := by
  intro sequence known present
  rw [ProbeCache.get?_learn] at present
  split at present
  · cases told : answer sequence with
    | error failure =>
        rw [told] at present
        rw [← told]
        exact agrees sequence known present
    | ok found =>
        rw [told] at present
        exact congrArg Except.ok (Option.some.inj present)
  · exact agrees sequence known present

/-- A walk with a noting probe under agreement: it settles its questions, the probe hears of
those that are posed and open, in order, and what it answers to them is learnt. -/
theorem walk_recorded (overrides : Overrides) (before : HeaderSet) (rest : List String)
    (distinct : (before.toList ++ rest).Nodup) (agrees : cache.Agrees answer)
    (asked : List HeaderSet) :
    walk overrides (Probe.recorded answer) before rest cache asked =
      let heard := probedAmong overrides answer cache (questionsAfter before rest)
      (settled overrides answer (questionsAfter before rest), cache.learn answer heard,
        asked ++ heard) := by
  induction rest generalizing before cache asked with
  | nil => simp [walk, questionsAfter, settled, probedAmong, posed]
  | cons header rest ih =>
      have fresh := HeaderSet.not_mem_of_nodup_append distinct
      have longer : (before.push header).toList = before.toList ++ [header] :=
        HeaderSet.toList_push_of_not_mem fresh
      have onward : ((before.push header).toList ++ rest).Nodup := by
        rw [longer, List.append_assoc]
        exact distinct
      rw [walk, questionsAfter, settled, probedAmong_cons, Question.response, Question.isOpen]
      cases recorded : overrides.header? header with
      | some supported =>
          cases supported with
          | true => simpa using ih (before.push header) onward agrees asked
          | false => simp
      | none =>
          rw [ask_recorded agrees]
          simp only [Option.elim_none, Option.isNone_none, Bool.true_and]
          generalize heard : (if (cache.get? (before.push header)).isNone then
            [before.push header] else []) = first
          cases told : answer (before.push header) with
          | error failure => simp
          | ok supported =>
              cases supported with
              | false => simp
              | true =>
                  -- later questions are about longer sequences, so what was learnt just now
                  -- closes none of them
                  have others : ∀ question ∈ questionsAfter (before.push header) rest,
                      question.sequence ≠ before.push header := by
                    intro question raised same
                    have := length_lt_of_mem_questionsAfter onward raised
                    rw [same] at this
                    exact Nat.lt_irrefl _ this
                  have unchanged : probedAmong overrides answer (cache.learn answer first)
                      (questionsAfter (before.push header) rest) =
                        probedAmong overrides answer cache
                          (questionsAfter (before.push header) rest) := by
                    rw [← heard]
                    split
                    · exact probedAmong_learn overrides answer cache others
                    · rfl
                  have went := ih (before.push header) onward (agrees_learn agrees first)
                    (asked ++ first)
                  rw [unchanged] at went
                  simpa only [ProbeCache.learn_append, List.append_assoc] using went

/-- The sequences asked about while a set is walked are pairwise different. -/
theorem nodup_questionsAfter {before : HeaderSet} {rest : List String}
    (distinct : (before.toList ++ rest).Nodup) :
    ((questionsAfter before rest).map Question.sequence).Nodup := by
  induction rest generalizing before with
  | nil => exact .nil
  | cons header rest ih =>
      have fresh := HeaderSet.not_mem_of_nodup_append distinct
      have onward : ((before.push header).toList ++ rest).Nodup := by
        rw [HeaderSet.toList_push_of_not_mem fresh, List.append_assoc]
        exact distinct
      rw [questionsAfter, List.map_cons]
      refine List.nodup_cons.mpr ⟨fun repeated => ?_, ih onward⟩
      obtain ⟨question, raised, same⟩ := List.mem_map.mp repeated
      have := length_lt_of_mem_questionsAfter onward raised
      rw [same] at this
      exact Nat.lt_irrefl _ this

/-- The probe hears of no sequence twice in one walk. -/
theorem nodup_probedAmong (overrides : Overrides) (answer : HeaderSet → Except ε Bool)
    (cache : ProbeCache) (headers : HeaderSet) :
    (probedAmong overrides answer cache headers.questions).Nodup := by
  have distinct : (headers.questions.map Question.sequence).Nodup := by
    rw [← questionsAfter_empty]
    exact nodup_questionsAfter (by simpa [HeaderSet.toList_empty] using headers.nodup)
  have part : (probedAmong overrides answer cache headers.questions).Sublist
      (headers.questions.map Question.sequence) :=
    (List.filter_sublist.trans (posed_sublist overrides answer headers.questions)).map _
  exact distinct.sublist part

/-- What the probe hears of was not remembered. -/
theorem get?_of_mem_probedAmong {overrides : Overrides} {questions : List Question}
    {sequence : HeaderSet} (heard : sequence ∈ probedAmong overrides answer cache questions) :
    cache.get? sequence = none := by
  obtain ⟨question, kept, rfl⟩ := List.mem_map.mp heard
  have isOpen := (List.mem_filter.mp kept).2
  rw [Question.isOpen, Bool.and_eq_true, Option.isNone_iff_eq_none,
    Option.isNone_iff_eq_none] at isOpen
  exact isOpen.2

end Oracle

end NativeLayout
