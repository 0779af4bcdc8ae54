/-
# Finding the toolchain

Which compiler to use. A configured one comes first if it can be found; then the
one named in the environment, which must be found; only without such a name are
the usual names looked up. The family of a compiler shows in its name, else in
what it tells of its version.
-/

import NativeLayout.Host.Basic
import NativeLayout.Text.Quoted
import NativeLayout.Text.Search

namespace NativeLayout

namespace Host

/-- What a program tells of its version, in small letters. -/
def versionText (host : Host) (program : String) : String :=
  match host.version? program with
  | some bytes => Text.lowered (Text.Utf8.decodeLenient bytes)
  | none => ""

/-- Which clang a program is. -/
def clangFamily (host : Host) (program : String) : CompilerFamily :=
  if Text.contains (host.versionText program) "apple" then .appleClang else .clang

/-- The family of a compiler. -/
def family (host : Host) (program : String) : CompilerFamily :=
  let name := Text.lowered ((Path.fileName? program).getD "")
  if Text.contains name "clang" then host.clangFamily program
  else if Text.contains name "gcc" then .gcc
  else if Text.contains (host.versionText program) "clang" then host.clangFamily program
  else .gcc

/-- The compiler that the environment names, else the first of the usual ones. -/
def defaultCompiler? (host : Host) : Option String :=
  match host.env? "CC" with
  | some name => host.program? name
  | none => ["cc", "gcc", "clang"].findSome? host.onPath?

/-- The toolchain to use, if there is any. -/
def toolchain? (host : Host) (settings : ToolchainSettings) : Option Toolchain :=
  ((settings.cc.bind host.program?).or host.defaultCompiler?).map fun compiler =>
    ⟨compiler, host.family compiler⟩

end Host

/-- What to tell a reader who has no compiler. -/
def noCompilerMessage : String :=
  "no C compiler found\n\nConformance checks require a C compiler (gcc or clang).\n" ++
    "Set the CC environment variable, set `cc` in .abi-conform/toolchain.toml,\n" ++
    "or install a compiler."

/-- A toolchain in a structured description. -/
def Toolchain.describe (t : Toolchain) : String :=
  "Toolchain \x7b platform: " ++ t.family.label ++ ", compiler: " ++ Text.quoted t.compiler ++
    " \x7d"

end NativeLayout
