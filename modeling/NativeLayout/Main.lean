/-
# The program

A snapshot of the machine, what the commands make of it, and the writing of the
result. Only what a command can need is looked at: the configuration, the catalog
that the arguments name and the places where a compiler can be. Compilers cannot
be started from here, which is reported like any other refusal of the system.
-/

import NativeLayout.CommandLine.Execute
import NativeLayout.Host.SystemError

namespace NativeLayout.Program

/-- The reason for a failure to read, in the words of the system. -/
def reason : IO.Error → String
  | .noFileOrDirectory .. => SystemError.message .missing
  | .permissionDenied .. => SystemError.message .denied
  | .inappropriateType .. => SystemError.message .isDirectory
  | error => toString error

/-- The bytes of a file, or why it cannot be read. -/
def readFile (path : String) : IO (Except String ByteArray) := do
  try return .ok (← IO.FS.readBinFile path)
  catch error => return .error (reason error)

/-- Whether there is anything at a path. -/
def isThere (path : String) : IO Bool := do
  try
    let _ ← IO.FS.Handle.mk path .read
    return true
  catch _ => return false

/-- The variables that a run can depend on. -/
def variableNames : List String := ["CC", "CFLAGS", "HOME", "PATH"]

/-- A machine of which only the environment is known. -/
def bareHost (environment : List (String × String)) (workingDirectory : String) : Host where
  read _ := .error (SystemError.message .missing)
  present _ := false
  isProgram _ := false
  version? _ := none
  launch _ _ := .error (SystemError.message .unsupported)
  env? name := environment.lookup name
  workingDirectory
  accountHome? := none
  scratch := .ok "/tmp/abi-conform"

/-- The host with the contents of some files. -/
def withFiles (host : Host) (paths : List String) : IO Host := do
  let files ← paths.mapM fun path => return (path, ← readFile path)
  let present ← paths.filterM isThere
  return { host with
    read := fun path => (files.lookup path).getD (host.read path)
    present := fun path => present.contains path || host.present path }

/-- The paths at which the compilers that a run can use may be. -/
def compilerPaths (host : Host) : List String :=
  let configured := match host.loadConfiguration host.configDirectories with
    | .ok configuration => configuration.settings.cc.toList
    | .error _ => []
  (configured ++ (host.env? "CC").toList ++ ["cc", "gcc", "clang"]).flatMap fun name =>
    if 1 < (Path.components name).length then [name]
    else host.searchPath.map (Path.join · name)

/-- The host with what is known of some paths of programs. -/
def withPrograms (host : Host) (paths : List String) : IO Host := do
  let found ← paths.filterM isThere
  return { host with
    isProgram := fun path => found.contains path
    present := fun path => found.contains path || host.present path }

/-- The catalog file that a request names. -/
def catalogFile? : CommandLine.Request → Option String
  | .run (.check _ catalog _ _ _ _) _ | .run (.list catalog) _ | .run (.source _ catalog) _ =>
    catalog
  | _ => none

/-- The machine as a request needs to see it. -/
def snapshot (request : CommandLine.Request) : IO Host := do
  let known ← variableNames.filterMapM fun name => return (← IO.getEnv name).map (name, ·)
  let host := bareHost known (toString (← IO.currentDir))
  let host ← withFiles host (host.configFiles ++ (catalogFile? request).toList)
  withPrograms host (compilerPaths host)

end NativeLayout.Program

open NativeLayout in
/-- The program: what it writes, and the code with which it ends. -/
def main (arguments : List String) : IO UInt32 := do
  let request := CommandLine.parse arguments
  let outcome := CommandLine.respond (← Program.snapshot request) request
  IO.print outcome.stdout
  for message in outcome.error.toList do
    IO.eprintln message
  return UInt32.ofNat outcome.code
