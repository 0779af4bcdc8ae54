/-
# The capability oracle

Answers whether headers can be included. A header with an override is answered by
it; any other is probed after the headers that stand before it, and the answer is
remembered for that include sequence. A remembered answer is never changed, so
that all who ask about one sequence agree even if the probe does not.
-/

import NativeLayout.Capability.Basic
import NativeLayout.HeaderSet

namespace NativeLayout

/-- The answers of probes, by include sequence. -/
structure ProbeCache where
  entries : List (HeaderSet × Bool)
deriving DecidableEq

namespace ProbeCache

/-- No answers yet. -/
def empty : ProbeCache := ⟨[]⟩

instance : EmptyCollection ProbeCache := ⟨empty⟩
instance : Inhabited ProbeCache := ⟨empty⟩

/-- The answer for a sequence in a list of answers. -/
def find (sequence : HeaderSet) : List (HeaderSet × Bool) → Option Bool
  | [] => none
  | (k, b) :: rest => if k = sequence then some b else find sequence rest

/-- The answer remembered for a sequence. -/
def get? (cache : ProbeCache) (sequence : HeaderSet) : Option Bool := find sequence cache.entries

@[simp] theorem get?_empty (sequence : HeaderSet) : (∅ : ProbeCache).get? sequence = none := rfl

/-- The cache with an answer for a sequence, unless it has one, and the answer it then has. -/
def remember (cache : ProbeCache) (sequence : HeaderSet) (answer : Bool) : Bool × ProbeCache :=
  match cache.get? sequence with
  | some known => (known, cache)
  | none => (answer, ⟨(sequence, answer) :: cache.entries⟩)

theorem get?_remember (cache : ProbeCache) (sequence other : HeaderSet) (answer : Bool) :
    (cache.remember sequence answer).2.get? other =
      if sequence = other then some (cache.remember sequence answer).1 else cache.get? other := by
  cases known : cache.get? sequence with
  | none =>
    simp only [remember, known]
    rw [get?, find]
    rfl
  | some b =>
    simp only [remember, known]
    by_cases same : sequence = other
    · rw [if_pos same, ← same, known]
    · rw [if_neg same]

end ProbeCache

/-- A probe that may change its mind: what it answers to an include sequence, or the
error that keeps it from answering, may hang on a state that each question changes. -/
def Probe (ε σ : Type) := HeaderSet → σ → Except ε Bool × σ

/-- A probe that always answers alike. -/
def Probe.constant {ε : Type} (answer : HeaderSet → Except ε Bool) : Probe ε Unit :=
  fun sequence state => (answer sequence, state)

/-- Overrides, and the answers of the probes made so far. -/
structure Oracle where
  overrides : Overrides := {}
  cache : ProbeCache := ∅
deriving DecidableEq

namespace Oracle

/-- An oracle without overrides. -/
def new : Oracle := {}

/-- The oracle of the host platform, which is Linux: no overrides. -/
def forHost : Oracle := new

/-- The oracle of the host platform with a layer of overrides. -/
def ofConfig (config : CapabilityConfig) : Oracle :=
  { forHost with overrides := forHost.overrides.apply config }

/-- An oracle with other overrides and the same remembered answers. -/
def mapOverrides (o : Oracle) (change : Overrides → Overrides) : Oracle :=
  { o with overrides := change o.overrides }

/-- What is remembered of exactly this include sequence. -/
def probed (o : Oracle) (sequence : HeaderSet) : Capability := .ofRecord (o.cache.get? sequence)

variable {ε σ : Type}

/-- The answer for an include sequence: the remembered one, else that of a probe, which
is then remembered. A probe that fails leaves nothing behind. -/
def ask (probe : Probe ε σ) (sequence : HeaderSet) (cache : ProbeCache) (state : σ) :
    Except ε Bool × ProbeCache × σ :=
  match cache.get? sequence with
  | some known => (.ok known, cache, state)
  | none =>
    match probe sequence state with
    | (.error failure, state) => (.error failure, cache, state)
    | (.ok answer, state) =>
      let (agreed, cache) := cache.remember sequence answer
      (.ok agreed, cache, state)

/-- Whether the headers of a list can be included one after the other when some have been
included before. The first header that cannot ends the walk. -/
def walk (overrides : Overrides) (probe : Probe ε σ) :
    HeaderSet → List String → ProbeCache → σ → Except ε Bool × ProbeCache × σ
  | _, [], cache, state => (.ok true, cache, state)
  | before, header :: rest, cache, state =>
    let sequence := before.push header
    match overrides.header? header with
    | some true => walk overrides probe sequence rest cache state
    | some false => (.ok false, cache, state)
    | none =>
      match ask probe sequence cache state with
      | (.ok true, cache, state) => walk overrides probe sequence rest cache state
      | (answer, cache, state) => (answer, cache, state)

/-- Whether every header of a set can be included in order. -/
def supportsHeaders (o : Oracle) (probe : Probe ε σ) (headers : HeaderSet) (state : σ) :
    Except ε Bool × Oracle × σ :=
  match walk o.overrides probe ∅ headers.toList o.cache state with
  | (answer, cache, state) => (answer, { o with cache }, state)

/-- What `supportsHeaders` comes to if nothing is ever remembered and the probe always
answers alike. -/
def reference (overrides : Overrides) (answer : HeaderSet → Except ε Bool) :
    HeaderSet → List String → Except ε Bool
  | _, [] => .ok true
  | before, header :: rest =>
    let sequence := before.push header
    match (overrides.header? header).elim (answer sequence) .ok with
    | .ok true => reference overrides answer sequence rest
    | other => other

end Oracle

end NativeLayout
