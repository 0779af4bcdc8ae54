/-
# Compile commands

The command that makes a compiler turn one source into one object and nothing
more. Compilers of the clang family are told the target; the others are taken to
compile for it already.
-/

import NativeLayout.Settings

namespace NativeLayout

/-- The compilers whose command lines are known. -/
inductive CompilerFamily
  | gcc
  | clang
  | appleClang
deriving DecidableEq, Repr

namespace CompilerFamily

/-- The word for a family. -/
def word : CompilerFamily → String
  | gcc => "gcc"
  | clang => "clang"
  | appleClang => "apple-clang"

/-- The word for a family in a structured description. -/
def label : CompilerFamily → String
  | gcc => "Gcc"
  | clang => "Clang"
  | appleClang => "AppleClang"

/-- The family that a word names. -/
def parse? : String → Option CompilerFamily
  | "gcc" => some gcc
  | "clang" => some clang
  | "apple-clang" => some appleClang
  | _ => none

/-- Whether the target is told by a flag. -/
def takesTarget : CompilerFamily → Bool
  | gcc => false
  | clang | appleClang => true

end CompilerFamily

/-- A program to start, with its arguments and the variables set for it. -/
structure Command where
  program : String
  args : List String
  env : List (String × String) := []
deriving DecidableEq, Repr

namespace Command

/-- A command with one more variable. -/
def setting (c : Command) (name value : String) : Command :=
  { c with env := c.env ++ [(name, value)] }

/-- The program and its arguments between spaces. -/
def display (c : Command) : String := String.intercalate " " (c.program :: c.args)

end Command

/-- A compiler that was found, and its family. -/
structure Toolchain where
  compiler : String
  family : CompilerFamily
deriving DecidableEq, Repr

/-- How to compile, apart from the source. -/
structure CompileOptions where
  target : Option String := none
  sysroot : Option String := none
  includeDirs : List String := []
  cflags : List String := []
deriving DecidableEq, Repr

namespace Toolchain

/-- The flag that tells the target, for compilers that take one. -/
def targetArgs (t : Toolchain) (options : CompileOptions) : List String :=
  match options.target with
  | some target => if t.family.takesTarget then ["--target=" ++ target] else []
  | none => []

/-- The command that compiles `source` to `output`. -/
def compileCommand (t : Toolchain) (options : CompileOptions) (source output : String) :
    Command where
  program := t.compiler
  args :=
    ["-c"] ++ t.targetArgs options ++
      (options.sysroot.toList.map ("--sysroot=" ++ ·)) ++
      options.includeDirs.map ("-I" ++ ·) ++ options.cflags ++ [source, "-o", output]

/-- The extension of objects. -/
def objectExtension (_ : Toolchain) : String := "o"

end Toolchain

end NativeLayout
