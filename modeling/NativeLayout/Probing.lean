/-
# Probing headers one by one

Which of some headers can be included, each after those before it that can. A
header that cannot be included does not stand in the way of later ones.
-/

import NativeLayout.Capability.Oracle

namespace NativeLayout.Probing

variable {ε σ : Type}

/-- The answers for the remaining headers when some have been included, the set that is
included at the end, and the error that stopped the probing if one did. -/
def probeRest (overrides : Overrides) (probe : Probe ε σ) :
    HeaderSet → List String → ProbeCache → σ →
      List (String × Bool) × Except ε HeaderSet × ProbeCache × σ
  | included, [], cache, state => ([], .ok included, cache, state)
  | included, header :: rest, cache, state =>
    let headers := included.push header
    match Oracle.walk overrides probe ∅ headers.toList cache state with
    | (.error failure, cache, state) => ([], .error failure, cache, state)
    | (.ok supported, cache, state) =>
      let (answers, ended) :=
        probeRest overrides probe (if supported then headers else included) rest cache state
      ((header, supported) :: answers, ended)

/-- The answers for some headers, each asked once, and the error that stopped the probing. -/
def run (o : Oracle) (probe : Probe ε σ) (headers : List String) (state : σ) :
    List (String × Bool) × Except ε HeaderSet × Oracle × σ :=
  match probeRest o.overrides probe ∅ (HeaderSet.ofList headers).toList o.cache state with
  | (answers, ended, cache, state) => (answers, ended, { o with cache }, state)

end NativeLayout.Probing
