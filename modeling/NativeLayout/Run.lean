/-
# Conformance runs

A run takes the entries of the matrix one after another. A structure that is not
admitted, or whose headers cannot be included, is skipped before its assertions
are compiled; any other gets the verdict of the compile. Only a compiler that
cannot be used at all stops the run. The gaps of the catalog and the size checks
need no compiler and are part of every report.
-/

import NativeLayout.Compiler.Basic
import NativeLayout.Report.Basic

namespace NativeLayout

/-- Why a run gives no report. -/
inductive RunError
  /-- A requested structure is not in the matrix. -/
  | notInMatrix (name : String)
  /-- The compiler could not be used for a structure. -/
  | toolchain (name : String) (cause : CompileError)
deriving DecidableEq, Repr

/-- The text of the error, without its cause. -/
def RunError.message : RunError → String
  | notInMatrix name => s!"`{name}` is not in the conformance matrix"
  | toolchain name _ => s!"toolchain failure while checking `{name}`"

namespace Run

variable {σ : Type}

/-- Why a structure is not to be compared, if it is not. -/
def structGate? (overrides : Overrides) (name : String) : Option SkipReason :=
  if overrides.admits name then none
  else match overrides.structCapability name with
    | .unknown => some .structureUnknown
    | _ => some .structureUnsupported

/-- What the compile of an entry's assertions comes to. -/
def unitVerdict (name : String) : Except CompileError Unit → Except RunError Verdict
  | .ok () => .ok .pass
  | .error (.failed diagnostics) => .ok (.ofDiagnostics diagnostics)
  | .error failure => .error (.toolchain name failure)

/-- The verdict of one entry, the answers remembered after it and the state of the
compiler. -/
def verdict (compiler : Compiler σ) (skip : SkipList) (overrides : Overrides)
    (entry : MatrixEntry) (cache : ProbeCache) (state : σ) :
    Except RunError Verdict × ProbeCache × σ :=
  match structGate? overrides entry.name with
  | some reason => (.ok (.skip reason), cache, state)
  | none =>
    match Oracle.walk overrides compiler.probe ∅ entry.headers.toList cache state with
    | (.error failure, cache, state) => (.error (.toolchain entry.name failure), cache, state)
    | (.ok false, cache, state) => (.ok (.skip .headersUnsupported), cache, state)
    | (.ok true, cache, state) =>
      match compiler (Source.assertions entry.descriptor entry.headers skip) state with
      | (answer, state) => (unitVerdict entry.name answer, cache, state)

/-- The verdicts of some entries in order; the first error ends the run. -/
def entries (compiler : Compiler σ) (skip : SkipList) (overrides : Overrides) :
    List MatrixEntry → ProbeCache → σ → Except RunError (List Entry) × ProbeCache × σ
  | [], cache, state => (.ok [], cache, state)
  | entry :: rest, cache, state =>
    match verdict compiler skip overrides entry cache state with
    | (.error failure, cache, state) => (.error failure, cache, state)
    | (.ok verdict, cache, state) =>
      match entries compiler skip overrides rest cache state with
      | (.error failure, cache, state) => (.error failure, cache, state)
      | (.ok done, cache, state) =>
        (.ok ({ name := entry.name, headers := entry.headers, verdict } :: done), cache, state)

/-- What `verdict` comes to if nothing is ever remembered and the compiler always answers
alike. -/
def reference (answer : String → Except CompileError Unit) (skip : SkipList)
    (overrides : Overrides) (entry : MatrixEntry) : Except RunError Verdict :=
  match structGate? overrides entry.name with
  | some reason => .ok (.skip reason)
  | none =>
    let probed (headers : HeaderSet) := Compiler.headerAnswer (answer (Source.probe headers))
    match Oracle.reference overrides probed ∅ entry.headers.toList with
    | .error failure => .error (.toolchain entry.name failure)
    | .ok false => .ok (.skip .headersUnsupported)
    | .ok true =>
      unitVerdict entry.name (answer (Source.assertions entry.descriptor entry.headers skip))

/-- The report of a catalog before any entry is run. -/
def opening (c : Catalog) (matrix : Matrix) : Report :=
  matrix.sizeChecks.foldl Report.addSizeCheck
    (Report.addGaps { catalog := c.name } c.gaps.toList)

/-- The report of a catalog, or of the named structures in it. -/
def conform (compiler : Compiler σ) (c : Catalog) (names : List String) (oracle : Oracle)
    (state : σ) : Except RunError Report × Oracle × σ :=
  match (Matrix.ofCatalog c).select names with
  | .error missing => (.error (.notInMatrix missing), oracle, state)
  | .ok matrix =>
    match entries compiler c.skipList oracle.overrides matrix.entries oracle.cache state with
    | (.error failure, cache, state) => (.error failure, { oracle with cache }, state)
    | (.ok done, cache, state) =>
      (.ok (done.foldl Report.addEntry (opening c matrix)), { oracle with cache }, state)

end Run

end NativeLayout
