/-
# The compile pipeline

A compiler made out of a toolchain that can be started: each compile puts the
source into a scratch directory, runs the compile command with plain messages,
and takes what the program wrote as diagnostics if it did not succeed. Objects
are never linked or run.
-/

import NativeLayout.Compiler.Basic
import NativeLayout.Compiler.Command
import NativeLayout.Text.Blank
import NativeLayout.Text.Utf8

namespace NativeLayout

/-- How a program ended and what it wrote. -/
structure ProcessOutput where
  success : Bool
  stdout : ByteArray
  stderr : ByteArray

/-- Starting a compile command on a source: what the program did, or why it could not be
started in the words of the system. -/
def Launcher (σ : Type) := Command → String → σ → Except String ProcessOutput × σ

/-- A toolchain with the options of all its compiles, and the scratch directory or why there
cannot be one. -/
structure Pipeline where
  toolchain : Toolchain
  options : CompileOptions
  scratch : Except String String

namespace Pipeline

/-- The pipeline of configured settings. Flags from the environment follow the
configured ones. -/
def ofSettings (toolchain : Toolchain) (settings : ToolchainSettings)
    (environmentFlags : Option String) (scratch : Except String String) : Pipeline where
  toolchain
  options :=
    { target := settings.target
      sysroot := settings.sysroot
      includeDirs := settings.includeDirs
      cflags := settings.cflags ++ Text.words (environmentFlags.getD "") }
  scratch

/-- The command that compiles the source in a scratch directory. -/
def command (p : Pipeline) (scratch : String) : Command :=
  (p.toolchain.compileCommand p.options (scratch ++ "/check.c")
    (scratch ++ "/check." ++ p.toolchain.objectExtension)).setting "LC_ALL" "C"

/-- What a program wrote, errors first. -/
def diagnostics (output : ProcessOutput) : String :=
  Text.Utf8.decodeLenient output.stderr ++ Text.Utf8.decodeLenient output.stdout

/-- What the end of a compile command comes to. -/
def outcome (command : Command) : Except String ProcessOutput → Except CompileError Unit
  | .error reason =>
    .error (.toolchain command.display s!"failed to spawn `{command.program}`: {reason}")
  | .ok output => if output.success then .ok () else .error (.failed (diagnostics output))

/-- The compiler that a pipeline makes out of a way to start programs. -/
def compiler {σ : Type} (p : Pipeline) (launch : Launcher σ) : Compiler σ := fun source state =>
  match p.scratch with
  | .error reason => (.error (.scratch reason), state)
  | .ok scratch =>
    let command := p.command scratch
    match launch command source state with
    | (ended, state) => (outcome command ended, state)

end Pipeline

end NativeLayout
