/-
# Compilers

What the library needs of a C compiler: to accept or refuse a source. A compiler
may remember what it was asked, so that laws about runs can speak of compilers
that answer differently each time. Whether headers can be included is asked by
compiling a source that does nothing else.
-/

import NativeLayout.Assertion
import NativeLayout.Capability.Oracle
import NativeLayout.Diagnostics

namespace NativeLayout

/-- Why a compile gave no object. -/
inductive CompileError
  /-- The compiler could not be started; the command and the reason. -/
  | toolchain (command reason : String)
  /-- There is no place for the source; the reason. -/
  | scratch (reason : String)
  /-- The compiler refused the source; its output. -/
  | failed (diagnostics : String)
deriving DecidableEq, Repr

namespace CompileError

/-- Whether the error spoils every other compile too. -/
def isFatal : CompileError → Bool
  | failed _ => false
  | _ => true

/-- The text of the error. -/
def message : CompileError → String
  | toolchain _ reason => s!"failed to invoke the C compiler: {reason}"
  | scratch reason => s!"failed to prepare scratch files: {reason}"
  | failed _ => "compilation failed"

/-- The text of the error and its cause. The reason why there is no place for the source is
part of both. -/
def chain (error : CompileError) : String :=
  match error with
  | scratch reason => error.message ++ ": " ++ reason
  | _ => error.message

/-- The mismatches that the compiler's output tells of. -/
def mismatches : CompileError → List Mismatch
  | failed diagnostics => Diagnostics.mismatches diagnostics
  | _ => []

end CompileError

/-- A compiler that may remember: whether it accepts a source can hang on a state that
each compile changes. -/
def Compiler (σ : Type) := String → σ → Except CompileError Unit × σ

namespace Compiler

variable {σ : Type}

/-- A compiler that always answers alike. -/
def constant (answer : String → Except CompileError Unit) : Compiler Unit :=
  fun source state => (answer source, state)

/-- What a compile of including headers says about them. -/
def headerAnswer : Except CompileError Unit → Except CompileError Bool
  | .ok () => .ok true
  | .error (.failed _) => .ok false
  | .error failure => .error failure

/-- The probe that compiles a source which includes the headers in order. -/
def probe (compiler : Compiler σ) : Probe CompileError σ := fun headers state =>
  match compiler (Source.probe headers) state with
  | (answer, state) => (headerAnswer answer, state)

end Compiler

end NativeLayout
