/-
# One question for each header

Headers are probed one by one, each after the headers before it that can be included. Every
time the walk begins anew with all of the included headers. But what it meets before the new
header are overrides and questions that were answered with yes, and both are settled without
the probe. So the probe hears of each header once at most, and of no other sequence: the
memory makes the repeated walks come to one question for each header without an override.

The probe may answer as it likes each time. Only errors end the probing early.
-/

import NativeLayout.CommandLine.Execute
import NativeLayout.Proofs.Capability.Questions
import NativeLayout.Proofs.HeaderSet.FirstPlaces
import Mathlib.Data.List.ReduceOption

namespace NativeLayout

variable {ε σ : Type}

/-- A question is settled with yes, by an override or by what is remembered. -/
def Question.Known (overrides : Overrides) (cache : ProbeCache) (question : Question) : Prop :=
  overrides.header? question.header = some true ∨
    overrides.header? question.header = none ∧ cache.get? question.sequence = some true

/-- Pushing the headers of a set one by one makes it again. -/
theorem HeaderSet.pushMany_toList (s : HeaderSet) : (∅ : HeaderSet).pushMany s.toList = s :=
  ofList_toList s

namespace Oracle

theorem questionsAfter_append (before : HeaderSet) (first second : List String) :
    questionsAfter before (first ++ second) =
      questionsAfter before first ++ questionsAfter (before.pushMany first) second := by
  induction first generalizing before with
  | nil => rfl
  | cons header rest ih =>
      rw [List.cons_append, questionsAfter, ih, questionsAfter, List.cons_append]
      rfl

/-- A walk passes over headers whose questions are settled with yes, and asks nothing. -/
theorem walk_append_of_known {overrides : Overrides} {before : HeaderSet} {first : List String}
    {cache : ProbeCache}
    (known : ∀ question ∈ questionsAfter before first, question.Known overrides cache)
    (probe : Probe ε σ) (second : List String) (state : σ) :
    walk overrides probe before (first ++ second) cache state =
      walk overrides probe (before.pushMany first) second cache state := by
  induction first generalizing before with
  | nil => rfl
  | cons header rest ih =>
      rw [questionsAfter, List.forall_mem_cons] at known
      have onward := ih known.2
      rw [List.cons_append, walk]
      rcases known.1 with yes | ⟨absent, yes⟩
      · rw [yes]
        exact onward
      · rw [absent]
        simp only [ask, show cache.get? (before.push header) = some true from yes]
        exact onward

end Oracle

namespace Probing

open Oracle

variable {overrides : Overrides} {included : HeaderSet} {header : String} {rest : List String}
  {cache : ProbeCache}

/-- How the memory stands when some headers are included and others are still to be probed: all
included headers are settled with yes, and the memory has nothing about the others. -/
structure Ready (overrides : Overrides) (included : HeaderSet) (rest : List String)
    (cache : ProbeCache) : Prop where
  distinct : (included.toList ++ rest).Nodup
  known : ∀ question ∈ included.questions, question.Known overrides cache
  unheard : ∀ sequence, (cache.get? sequence).isSome → ∀ header ∈ rest, header ∉ sequence.toList

/-- What is included after a header was answered. -/
def extended (included : HeaderSet) (header : String) (supported : Bool) : HeaderSet :=
  if supported then included.push header else included

/-- The answer about a header without any memory: that of an override, or else of the probe. -/
def answered (overrides : Overrides) (probe : Probe ε σ) (included : HeaderSet) (header : String)
    (state : σ) : Except ε Bool × σ :=
  match overrides.header? header with
  | some supported => (.ok supported, state)
  | none => probe (included.push header) state

/-- The probing of headers without any memory and without repeated walks. -/
def survey (overrides : Overrides) (probe : Probe ε σ) :
    HeaderSet → List String → σ → List (String × Bool) × Except ε HeaderSet × σ
  | included, [], state => ([], .ok included, state)
  | included, header :: rest, state =>
    match answered overrides probe included header state with
    | (.error failure, state) => ([], .error failure, state)
    | (.ok supported, state) =>
      let (answers, ended) := survey overrides probe (extended included header supported) rest state
      ((header, supported) :: answers, ended)

theorem toList_extended (distinct : (included.toList ++ header :: rest).Nodup) (supported : Bool) :
    (extended included header supported).toList =
      included.toList ++ if supported then [header] else [] := by
  cases supported with
  | false => exact (List.append_nil _).symm
  | true => exact HeaderSet.toList_push_of_not_mem (HeaderSet.not_mem_of_nodup_append distinct)

/-- What is included is never among the headers that are still to be probed. -/
theorem nodup_extended (distinct : (included.toList ++ header :: rest).Nodup) (supported : Bool) :
    ((extended included header supported).toList ++ rest).Nodup := by
  rw [toList_extended distinct]
  cases supported with
  | false =>
      rw [if_neg Bool.false_ne_true, List.append_nil]
      exact distinct.sublist ((List.sublist_cons_self header rest).append_left _)
  | true =>
      rw [if_pos rfl, List.append_assoc]
      exact distinct

theorem ready_start (overrides : Overrides) (s : HeaderSet) :
    Ready overrides ∅ s.toList ∅ where
  distinct := s.nodup
  known := nofun
  unheard := nofun

namespace Ready

theorem toList_push (ready : Ready overrides included (header :: rest) cache) :
    (included.push header).toList = included.toList ++ [header] :=
  toList_extended ready.distinct true

theorem get?_push (ready : Ready overrides included (header :: rest) cache) :
    cache.get? (included.push header) = none := by
  rw [← Option.not_isSome_iff_eq_none]
  intro heard
  apply ready.unheard _ heard header List.mem_cons_self
  rw [ready.toList_push]
  exact List.mem_append_right _ List.mem_cons_self

/-- The included headers are passed over, so that a walk comes at once to what is behind them. -/
theorem walk_append (ready : Ready overrides included rest cache) (probe : Probe ε σ)
    (behind : List String) (state : σ) :
    walk overrides probe ∅ (included.toList ++ behind) cache state =
      walk overrides probe included behind cache state := by
  have known : ∀ question ∈ questionsAfter ∅ included.toList, question.Known overrides cache := by
    rw [questionsAfter_empty]
    exact ready.known
  rw [walk_append_of_known known, HeaderSet.pushMany_toList]

/-- A set whose headers are settled with yes can be included, and no probe is asked. -/
theorem walk_included (ready : Ready overrides included rest cache) (probe : Probe ε σ)
    (state : σ) :
    walk overrides probe ∅ included.toList cache state = (.ok true, cache, state) := by
  rw [← List.append_nil included.toList, ready.walk_append]
  rfl

/-- A header that is not included leaves things as they were for the others. -/
theorem skip (ready : Ready overrides included (header :: rest) cache) :
    Ready overrides included rest cache where
  distinct := nodup_extended ready.distinct false
  known := ready.known
  unheard := fun sequence heard other among =>
    ready.unheard sequence heard other (List.mem_cons_of_mem header among)

/-- What the probe answers about the header is remembered, which settles nothing else. -/
theorem remember (ready : Ready overrides included (header :: rest) cache) (supported : Bool) :
    Ready overrides included rest (cache.remember (included.push header) supported).2 where
  distinct := ready.skip.distinct
  known := by
    intro question raised
    refine (ready.known question raised).imp_right fun ⟨absent, yes⟩ => ⟨absent, ?_⟩
    have other : included.push header ≠ question.sequence := by
      intro same
      rw [← same, ready.get?_push] at yes
      cases yes
    rw [ProbeCache.get?_remember, if_neg other]
    exact yes
  unheard := by
    intro sequence heard later among
    rw [ProbeCache.get?_remember] at heard
    split at heard
    · next same =>
        have apart : ((included.push header).toList ++ rest).Nodup :=
          nodup_extended ready.distinct true
        rw [← same]
        exact fun before => (List.nodup_append.mp apart).2.2 later before later among rfl
    · exact ready.skip.unheard sequence heard later among

/-- A header that is settled with yes is included. -/
theorem push (ready : Ready overrides included rest cache)
    (distinct : (included.toList ++ header :: rest).Nodup)
    (yes : (Question.mk header (included.push header)).Known overrides cache) :
    Ready overrides (included.push header) rest cache := by
  have longer : (included.push header).toList = included.toList ++ [header] :=
    toList_extended distinct true
  have questions : (included.push header).questions =
      included.questions ++ [⟨header, included.push header⟩] := by
    rw [← questionsAfter_empty, longer, questionsAfter_append, HeaderSet.pushMany_toList,
      questionsAfter_empty]
    rfl
  refine ⟨nodup_extended distinct true, ?_, ready.unheard⟩
  rw [questions, List.forall_mem_append, List.forall_mem_singleton]
  exact ⟨ready.known, yes⟩

/-- One header: it is answered as without any memory, and the memory is ready for the next. -/
theorem step (ready : Ready overrides included (header :: rest) cache) (probe : Probe ε σ)
    (state : σ) :
    ∃ after, walk overrides probe ∅ (included.push header).toList cache state =
        ((answered overrides probe included header state).1, after,
          (answered overrides probe included header state).2) ∧
      ∀ supported, (answered overrides probe included header state).1 = .ok supported →
        Ready overrides (extended included header supported) rest after := by
  rw [ready.toList_push, ready.walk_append, walk, answered]
  cases recorded : overrides.header? header with
  | some supported =>
      refine ⟨cache, by cases supported <;> rfl, ?_⟩
      rintro _ ⟨⟩
      cases supported with
      | false => exact ready.skip
      | true => exact ready.skip.push ready.distinct (.inl recorded)
  | none =>
      simp only [ask, ready.get?_push]
      rcases asked : probe (included.push header) state with ⟨failure | supported, later⟩
      · refine ⟨cache, rfl, ?_⟩
        rintro _ ⟨⟩
      · have told : (cache.remember (included.push header) supported).1 = supported := by
          rw [ProbeCache.remember, ready.get?_push]
        refine ⟨(cache.remember (included.push header) supported).2, ?_, ?_⟩
        · simp only [told]
          cases supported <;> rfl
        · rintro _ ⟨⟩
          have learnt := ready.remember supported
          cases supported with
          | false => exact learnt
          | true =>
              refine learnt.push ready.distinct (.inr ⟨recorded, ?_⟩)
              rw [ProbeCache.get?_remember, if_pos rfl, told]

end Ready

/-- The memory can not be noticed: the probing of some headers comes to their survey, and leaves
every included header settled with yes. -/
theorem probeRest_eq_survey (ready : Ready overrides included rest cache) (probe : Probe ε σ)
    (state : σ) :
    ∃ after, probeRest overrides probe included rest cache state =
        ((survey overrides probe included rest state).1,
          (survey overrides probe included rest state).2.1, after,
          (survey overrides probe included rest state).2.2) ∧
      ∀ final, (survey overrides probe included rest state).2.1 = .ok final →
        Ready overrides final [] after := by
  induction rest generalizing included cache state with
  | nil =>
      refine ⟨cache, rfl, ?_⟩
      rintro _ ⟨⟩
      exact ready
  | cons header rest ih =>
      obtain ⟨between, walked, onward⟩ := ready.step probe state
      rw [probeRest, survey]
      simp only [walked]
      rcases told : answered overrides probe included header state with ⟨failure | supported, later⟩
      · exact ⟨between, rfl, nofun⟩
      · rw [told] at onward
        obtain ⟨after, went, settled⟩ := ih (onward supported rfl) later
        refine ⟨after, ?_, settled⟩
        simp only [extended] at went ⊢
        rw [went]

/-! ## What the probe hears -/

/-- What a probe was asked about, and what it answered. -/
structure Sounding (ε : Type) where
  headers : List String
  answer : Except ε Bool

/-- A probe that also notes down what it is asked and what it answers. -/
def noted (probe : Probe ε σ) : Probe ε (σ × List (Sounding ε)) :=
  fun sequence (state, heard) =>
    let (answer, state) := probe sequence state
    (answer, state, heard ++ [⟨sequence.toList, answer⟩])

/-- The headers among those answered that can be included. -/
def includable (answers : List (String × Bool)) : List String :=
  (answers.filter (·.2)).map (·.1)

/-- What the probe hears for one answer when others were given earlier: nothing if there is an
override, and else the question about this header after all that can be included. -/
def sounding? (overrides : Overrides) (earlier : List (String × Bool)) (answer : String × Bool) :
    Option (Sounding ε) :=
  if (overrides.header? answer.1).isSome then none
  else some ⟨includable earlier ++ [answer.1], .ok answer.2⟩

/-- What the probe hears for some answers, in order, when others were given earlier. -/
def soundings (overrides : Overrides) (earlier answers : List (String × Bool)) :
    List (Sounding ε) :=
  (answers.mapIdx fun n answer =>
    sounding? overrides (earlier ++ answers.take n) answer).reduceOption

/-- How answers, what the probe heard, and the end of a probing account for some headers when
others were answered earlier. -/
structure Account (overrides : Overrides) (earlier : List (String × Bool)) (headers : List String)
    (answers : List (String × Bool)) (heard : List (Sounding ε)) (ended : Except ε HeaderSet) :
    Prop where
  overridden : ∀ answer ∈ answers, ∀ supported,
    overrides.header? answer.1 = some supported → answer.2 = supported
  complete : ∀ included, ended = .ok included →
    answers.map (·.1) = headers ∧ included.toList = includable (earlier ++ answers) ∧
      heard = soundings overrides earlier answers
  stopped : ∀ failure, ended = .error failure →
    ∃ header later, headers = answers.map (·.1) ++ header :: later ∧
      overrides.header? header = none ∧
      heard = soundings overrides earlier answers ++
        [⟨includable (earlier ++ answers) ++ [header], .error failure⟩]

theorem includable_append_singleton (earlier : List (String × Bool)) (header : String)
    (supported : Bool) :
    includable (earlier ++ [(header, supported)]) =
      includable earlier ++ if supported then [header] else [] := by
  rw [includable, List.filter_append, List.map_append]
  cases supported <;> rfl

theorem soundings_cons (overrides : Overrides) (earlier : List (String × Bool))
    (answer : String × Bool) (rest : List (String × Bool)) :
    (soundings overrides earlier (answer :: rest) : List (Sounding ε)) =
      (sounding? overrides earlier answer).toList ++
        soundings overrides (earlier ++ [answer]) rest := by
  simp only [soundings, List.mapIdx_cons, List.take_zero, List.append_nil, List.take_succ_cons,
    List.append_assoc, List.singleton_append]
  cases (sounding? overrides earlier answer : Option (Sounding ε)) with
  | none => rw [List.reduceOption_cons_of_none]; rfl
  | some sounding => rw [List.reduceOption_cons_of_some]; rfl

/-- The account of the first header and of the others make that of all. -/
theorem Account.cons {earlier answers : List (String × Bool)} {supported : Bool}
    {heard : List (Sounding ε)} {ended : Except ε HeaderSet}
    (account : Account overrides (earlier ++ [(header, supported)]) rest answers heard ended)
    (first : ∀ recorded, overrides.header? header = some recorded → supported = recorded) :
    Account overrides earlier (header :: rest) ((header, supported) :: answers)
      ((sounding? overrides earlier (header, supported)).toList ++ heard) ended where
  overridden := List.forall_mem_cons.mpr ⟨first, account.overridden⟩
  complete := by
    intro included done
    obtain ⟨names, listed, told⟩ := account.complete included done
    refine ⟨congrArg (header :: ·) names, ?_, ?_⟩
    · rw [listed, List.append_assoc]
      rfl
    · rw [told, soundings_cons]
  stopped := by
    intro failure ended
    obtain ⟨last, later, names, absent, told⟩ := account.stopped failure ended
    refine ⟨last, later, congrArg (header :: ·) names, absent, ?_⟩
    rw [told, soundings_cons, List.append_assoc, List.append_assoc]
    rfl

/-- A header is answered alike if the probe notes down, which it does if there is no override. -/
theorem answered_noted (overrides : Overrides) (probe : Probe ε σ) (included : HeaderSet)
    (header : String) (state : σ) (known : List (Sounding ε)) :
    answered overrides (noted probe) included header (state, known) =
      ((answered overrides probe included header state).1,
        (answered overrides probe included header state).2,
        known ++ if (overrides.header? header).isSome then []
          else [⟨(included.push header).toList,
            (answered overrides probe included header state).1⟩]) := by
  simp only [answered]
  cases overrides.header? header with
  | some supported => exact congrArg (Except.ok supported, state, ·) (List.append_nil known).symm
  | none => rfl

theorem answered_of_override {supported recorded : Bool} {probe : Probe ε σ} {state after : σ}
    (told : answered overrides probe included header state = (.ok supported, after))
    (there : overrides.header? header = some recorded) : supported = recorded := by
  rw [answered, there] at told
  cases told
  rfl

theorem override_of_error {failure : ε} {probe : Probe ε σ} {state after : σ}
    (told : answered overrides probe included header state = (.error failure, after)) :
    overrides.header? header = none ∧
      probe (included.push header) state = (.error failure, after) := by
  rw [answered] at told
  split at told
  · cases told
  · next absent => exact ⟨absent, told⟩

/-- A survey with a probe that notes down is the same as without, and what it notes accounts for
the headers. -/
theorem survey_noted {probe : Probe ε σ} {earlier answers : List (String × Bool)}
    {ended : Except ε HeaderSet} {state after : σ} (distinct : (included.toList ++ rest).Nodup)
    (before : included.toList = includable earlier)
    (went : survey overrides probe included rest state = (answers, ended, after))
    (known : List (Sounding ε)) :
    ∃ heard, survey overrides (noted probe) included rest (state, known) =
        (answers, ended, after, known ++ heard) ∧
      Account overrides earlier rest answers heard ended := by
  induction rest generalizing included earlier state known answers with
  | nil =>
      cases went
      refine ⟨[], by rw [List.append_nil]; rfl, nofun, ?_, nofun⟩
      rintro _ ⟨⟩
      exact ⟨rfl, before.trans (congrArg includable (List.append_nil earlier).symm), rfl⟩
  | cons header rest ih =>
      have asked : (included.push header).toList = includable earlier ++ [header] := by
        rw [← before]
        exact toList_extended distinct true
      rw [survey] at went ⊢
      rw [answered_noted, asked]
      rcases told : answered overrides probe included header state with
        ⟨failure | supported, between⟩
      · have absent := (override_of_error told).1
        simp only [told, absent] at went ⊢
        cases went
        refine ⟨[⟨includable earlier ++ [header], .error failure⟩], rfl, nofun, nofun, ?_⟩
        rintro _ ⟨⟩
        refine ⟨header, rest, rfl, absent, ?_⟩
        rw [List.append_nil]
        rfl
      · have listed : (extended included header supported).toList =
            includable (earlier ++ [(header, supported)]) := by
          rw [toList_extended distinct, includable_append_singleton, before]
        rcases went' : survey overrides probe (extended included header supported) rest between
          with ⟨others, ended, last⟩
        simp only [told, went'] at went ⊢
        cases went
        obtain ⟨heard, same, account⟩ := ih (nodup_extended distinct supported) listed went' _
        refine ⟨_, ?_, account.cons fun _ => answered_of_override told⟩
        rw [same, List.append_assoc, sounding?]
        split <;> rfl

/-- Only an error of the probe ends a survey early. -/
theorem exists_error_of_survey (probe : Probe ε σ) (state : σ) {failure : ε}
    (ended : (survey overrides probe included rest state).2.1 = .error failure) :
    ∃ sequence during, (probe sequence during).1 = .error failure := by
  induction rest generalizing included state with
  | nil => cases ended
  | cons header rest ih =>
      rw [survey] at ended
      rcases told : answered overrides probe included header state with ⟨stopped | supported, later⟩
      · rw [told] at ended
        obtain rfl : stopped = failure := Except.error.inj ended
        exact ⟨included.push header, state, congrArg Prod.fst (override_of_error told).2⟩
      · rw [told] at ended
        exact ih later ended

/-- A run begins with an empty memory and comes to the survey of its headers, each taken once. -/
theorem run_eq_survey (overrides : Overrides) (probe : Probe ε σ) (headers : List String)
    (state : σ) :
    ∃ after, run { overrides } probe headers state =
        ((survey overrides probe ∅ headers.eraseDups state).1,
          (survey overrides probe ∅ headers.eraseDups state).2.1, { overrides, cache := after },
          (survey overrides probe ∅ headers.eraseDups state).2.2) ∧
      ∀ final, (survey overrides probe ∅ headers.eraseDups state).2.1 = .ok final →
        Ready overrides final [] after := by
  obtain ⟨after, went, settled⟩ :=
    probeRest_eq_survey (ready_start overrides (HeaderSet.ofList headers)) probe state
  rw [HeaderSet.toList_ofList] at went settled
  refine ⟨after, ?_, settled⟩
  rw [run, HeaderSet.toList_ofList]
  simp only [went]

/-- What a command writes about a probing and how it ends: one line for each answer, with the
header and the word for the answer, and then the error that ended the probing if one did. -/
def outcome (answers : List (String × Bool)) (ended : Except CompileError HeaderSet) :
    CommandLine.Outcome :=
  let stdout := Text.ofLines (answers.map fun (header, supported) =>
    "  <" ++ header ++ ">: " ++ if supported then "supported" else "unsupported")
  match ended with
  | .ok _ => .success stdout
  | .error failure => .failure stdout failure.chain

/-- The line about a header has it in angle brackets and then the word for the answer. -/
theorem probeLine_eq (header : String) (supported : Bool) :
    CommandLine.probeLine header supported =
      "  <" ++ header ++ ">: " ++ if supported then "supported" else "unsupported" := by
  cases supported with
  | true => rfl
  | false => rfl

/-- The command for probing comes to a run with an empty memory. -/
theorem command_of_run {host : Host} {target : Option String} {configuration : Configuration}
    {pipeline : Pipeline} (configured : CommandLine.configurationOf host = .ok configuration)
    (found : CommandLine.pipelineOf host (configuration.settings.withTarget target) = .ok pipeline)
    (headers : List String) :
    ∃ answers ended after,
      run { overrides := (Oracle.ofConfig configuration.capabilities).overrides }
        (CommandLine.compilerOn host pipeline).probe headers () = (answers, ended, after) ∧
      CommandLine.probe host headers target = .ok (outcome answers ended) := by
  rcases ran : run { overrides := (Oracle.ofConfig configuration.capabilities).overrides }
    (CommandLine.compilerOn host pipeline).probe headers () with ⟨answers, ended, after⟩
  refine ⟨answers, ended, after, rfl, ?_⟩
  rw [CommandLine.probe, configured]
  simp only [bind, Except.bind, found, probeLine_eq]
  rw [show run (Oracle.ofConfig configuration.capabilities) _ headers () = _ from ran]
  cases ended with
  | ok included => rfl
  | error failure => rfl

/-- Each header is asked about once. For every probe and all headers, with any overrides and an
empty memory, the answers are those for the different headers in the order of their first
places. A header with an override has its answer. For each other one the probe is asked, about
just the earlier headers that can be included and then this one, and what it says is the
answer; it is asked nothing else. The headers that can be included make the final set, and
this set passes again without any probe being asked. An error of the probe is the only thing
that ends the probing early, with the answers for just the headers before. To note down what
the probe hears changes nothing of this. The command for probing comes to such a run and writes
one line for each answer, which names the header and says whether it is supported. -/
theorem run_asks_once (overrides : Overrides) (probe : Probe ε σ) (headers : List String)
    (state : σ) :
    (∃ answers ended oracle after heard,
      run { overrides } probe headers state = (answers, ended, oracle, after) ∧
      (∃ same, run { overrides } (noted probe) headers (state, []) =
        (answers, ended, same, after, heard)) ∧
      Account overrides [] headers.eraseDups answers heard ended ∧
      ((∀ sequence during, ∃ supported, (probe sequence during).1 = .ok supported) →
        ∃ included, ended = .ok included) ∧
      ∀ included, ended = .ok included → ∀ {τ : Type} (other : Probe ε τ) (later : τ),
        oracle.supportsHeaders other included later = (.ok true, oracle, later)) ∧
    ∀ {host : Host} {target : Option String} {configuration : Configuration} {pipeline : Pipeline},
      CommandLine.configurationOf host = .ok configuration →
      CommandLine.pipelineOf host (configuration.settings.withTarget target) = .ok pipeline →
      ∃ answers ended after,
        run { overrides := (Oracle.ofConfig configuration.capabilities).overrides }
          (CommandLine.compilerOn host pipeline).probe headers () = (answers, ended, after) ∧
        CommandLine.probe host headers target = .ok (outcome answers ended) := by
  refine ⟨?_, fun configured found => command_of_run configured found headers⟩
  rcases surveyed : survey overrides probe ∅ headers.eraseDups state with ⟨answers, ended, after⟩
  have distinct : (HeaderSet.toList ∅ ++ headers.eraseDups).Nodup := by
    rw [← HeaderSet.toList_ofList]
    exact (HeaderSet.ofList headers).nodup
  have none : HeaderSet.toList ∅ = includable [] := rfl
  obtain ⟨heard, told, account⟩ := survey_noted distinct none surveyed []
  obtain ⟨cache, went, settled⟩ := run_eq_survey overrides probe headers state
  obtain ⟨same, wentNoted, -⟩ := run_eq_survey overrides (noted probe) headers (state, [])
  rw [surveyed] at went settled
  rw [told] at wentNoted
  refine ⟨answers, ended, { overrides, cache }, after, heard, went, ⟨_, wentNoted⟩, account, ?_, ?_⟩
  · intro answering
    cases stopped : ended with
    | ok included => exact ⟨included, rfl⟩
    | error failure =>
        obtain ⟨sequence, during, failed⟩ :=
          exists_error_of_survey probe state ((congrArg (·.2.1) surveyed).trans stopped)
        obtain ⟨supported, succeeded⟩ := answering sequence during
        cases failed.symm.trans succeeded
  · intro included done τ other later
    rw [Oracle.supportsHeaders, (settled included done).walk_included]

-- every second question is answered with no, and the repeated header is not asked about again
example :
    let probe : Probe Empty Nat := fun _ asked => (.ok (asked % 2 == 0), asked + 1)
    let (_, _, _, _, heard) := run {} (noted probe) ["a.h", "b.h", "a.h", "c.h"] (0, [])
    heard.map (·.headers) = [["a.h"], ["a.h", "b.h"], ["a.h", "c.h"]] := by decide

end Probing

end NativeLayout
