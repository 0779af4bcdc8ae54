/-
# The host

What a run sees of the machine that it works on: the contents of files, the
environment, and what programs do when they are started. It is a snapshot, so the
library says what to do about it without doing it.
-/

import NativeLayout.Compiler.Pipeline
import NativeLayout.Host.Path
import NativeLayout.Text.Utf8

namespace NativeLayout

/-- A snapshot of a machine. Reasons are in the words of the system. -/
structure Host where
  /-- The bytes of a file, or why it cannot be read. -/
  read : String → Except String ByteArray
  /-- Whether there is anything at a path. -/
  present : String → Bool
  /-- Whether there is a file at a path that may be started. -/
  isProgram : String → Bool
  /-- What a program writes when asked for its version, if it can be started. -/
  version? : String → Option ByteArray
  /-- What starting a compile command on a source comes to. -/
  launch : Command → String → Except String ProcessOutput
  /-- The variables of the environment. -/
  env? : String → Option String
  workingDirectory : String
  /-- The home directory that the system has on record for the user. -/
  accountHome? : Option String
  /-- The scratch directory, or why there cannot be one. -/
  scratch : Except String String

namespace Host

/-- Why the text of a file is not to be had. -/
def notText : String := "stream did not contain valid UTF-8"

/-- The text of a file, or why it is not to be had. -/
def readText (host : Host) (path : String) : Except String String :=
  match host.read path with
  | .error reason => .error reason
  | .ok bytes =>
    match Text.Utf8.decode? bytes with
    | some text => .ok text
    | none => .error notText

/-- The home directory: the one that the environment names, else the one on record. -/
def home? (host : Host) : Option String :=
  ((host.env? "HOME").filter (· != "")).or host.accountHome?

/-- Whether the first component of a path is a tilde. -/
def startsAtHome (path : String) : Bool := (Path.components path).head? == some "~"

/-- A path with the home directory in the place of a tilde at its beginning. -/
def expandHome (host : Host) (path : String) : String :=
  match Path.components path, host.home? with
  | "~" :: rest, some home => rest.foldl Path.join home
  | _, _ => path

/-- The directory that an entry of the list of directories for programs means. It is absolute,
unless the home directory is itself written with a tilde, which is then left as it is. -/
def searchDirectory (host : Host) (entry : String) : String :=
  let directory := host.expandHome entry
  if startsAtHome directory then directory
  else Path.absolute host.workingDirectory directory

/-- The directories in which programs are looked up. -/
def searchPath (host : Host) : List String :=
  match host.env? "PATH" with
  | none => []
  | some path => (path.splitOn ":").map host.searchDirectory

/-- The program of a name, as the directories for programs give it. -/
def onPath? (host : Host) (name : String) : Option String :=
  if name.isEmpty || name.contains '/' then none
  else (host.searchPath.map (Path.join · name)).find? host.isProgram

/-- The program that a setting names: a path of several components must lead to something,
a single name is looked up. -/
def program? (host : Host) (name : String) : Option String :=
  if 1 < (Path.components name).length then if host.present name then some name else none
  else host.onPath? name

end Host

end NativeLayout
