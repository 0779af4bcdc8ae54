/-
# Machines held in memory

A machine that is nothing but a value: a tree of files, some of which are
programs, and an environment. It resolves paths as the system does, so that a run
on it meets the same refusals, and a law about runs can be tried out on it.
-/

import NativeLayout.Host.Basic
import NativeLayout.Host.SystemError
import NativeLayout.Text.Search

namespace NativeLayout

/-- Whether a command asks for the version, which it may do anywhere among its arguments. -/
def Command.asksVersion (command : Command) : Bool := command.args.contains "--version"

/-- A program as it is installed: what it tells of its version, and what it does with a
source. -/
structure Installed where
  version : ProcessOutput
  compile : String → ProcessOutput
  executable : Bool := true

/-- What a program does when a command starts it on a source. One that is asked for its
version tells that and leaves the source alone. -/
def Installed.run (installed : Installed) (command : Command) (source : String) :
    ProcessOutput :=
  if command.asksVersion then installed.version else installed.compile source

/-- What a scripted compiler does with a source that has a text in it: what it writes, of
which the lines of the source with a word in them are the last, and whether it succeeds. -/
structure ScriptRule where
  contains : String := ""
  stdout : ByteArray := .empty
  stderr : ByteArray := .empty
  echo : Option String := none
  success : Bool := true

namespace ScriptRule

/-- The lines of a source that are repeated. -/
def echoed (rule : ScriptRule) (source : String) : String :=
  rule.echo.elim "" fun word => Text.ofLines <|
    (source.splitOn "\n").filter fun line => !line.isEmpty && Text.contains line word

/-- What the rule does with a source. -/
def output (rule : ScriptRule) (source : String) : ProcessOutput :=
  ⟨rule.success, rule.stdout, rule.stderr ++ (rule.echoed source).toUTF8⟩

end ScriptRule

/-- A compiler that follows the first rule whose text is in the source, and accepts a source
for which there is none. -/
def Installed.scripted (version : ProcessOutput) (rules : List ScriptRule) (executable : Bool) :
    Installed where
  version
  compile source :=
    match rules.find? fun rule => Text.contains source rule.contains with
    | some rule => rule.output source
    | none => ⟨true, .empty, .empty⟩
  executable

/-- What can stand at a path. -/
inductive FileNode
  | directory
  | file (bytes : ByteArray)
  | program (installed : Installed)

namespace FileNode

/-- Whether a path can lead on from here. -/
def isDirectory : FileNode → Bool
  | directory => true
  | _ => false

/-- The bytes of a file. Those of a program are of no use to a reader. -/
def bytes : FileNode → Except SystemError ByteArray
  | directory => .error .isDirectory
  | file content => .ok content
  | program _ => .ok "#!\n!".toUTF8

/-- The program, if it may be started. -/
def runnable : FileNode → Except SystemError Installed
  | program installed => if installed.executable then .ok installed else .error .denied
  | _ => .error .denied

end FileNode

/-- A machine: files by the components of their absolute paths, of which the first entry for
a path counts, and the environment. -/
structure Machine where
  nodes : List (List String × FileNode) := [([], .directory)]
  environment : List (String × String) := []
  workingDirectory : String := "/"
  /-- Where the user is at home if the environment does not say so. -/
  accountHome? : Option String := some "/root"
  /-- The scratch directory, or why there cannot be one. -/
  scratch : Except SystemError String := .error .missing

namespace Machine

/-- The place that an absolute path names when every directory on the way is there: a single
dot stays where it is, two lead back. -/
def placeOf (path : String) : List String :=
  (path.splitOn "/").foldl (fun place name =>
    if name.isEmpty || name == "." then place
    else if name == ".." then place.dropLast
    else place ++ [name]) []

/-- What stands at a place. -/
def node? (m : Machine) (place : List String) : Option FileNode := m.nodes.lookup place

/-- The machine with something at an absolute path, and with the directories that lie above. -/
def install (m : Machine) (path : String) (node : FileNode) : Machine :=
  let place := placeOf path
  let above := (List.range place.length).map place.take
  let fresh := above.filter fun directory => (m.node? directory).isNone
  { m with nodes := (place, node) :: fresh.map (·, .directory) ++ m.nodes }

/-- What the rest of a path leads to from a place. -/
def follow (m : Machine) (place : List String) (rest : List String) :
    Except SystemError FileNode :=
  match m.node? place, rest with
  | none, _ => .error .missing
  | some node, [] => .ok node
  | some node, name :: rest =>
    if !node.isDirectory then .error .notDirectory
    else if name.isEmpty || name == "." then m.follow place rest
    else if name == ".." then m.follow place.dropLast rest
    else if 255 < name.utf8ByteSize then .error .nameTooLong
    else m.follow (place ++ [name]) rest

/-- What a path leads to. -/
def find (m : Machine) (path : String) : Except SystemError FileNode :=
  if path.isEmpty then .error .missing
  else if path.contains '\x00' then .error .nullInPath
  else if 4096 ≤ path.utf8ByteSize then .error .nameTooLong
  else
    let start := if Path.isAbsolute path then [] else placeOf m.workingDirectory
    m.follow start (path.splitOn "/")

/-- The program at a path. -/
def programAt (m : Machine) (path : String) : Except SystemError Installed :=
  (m.find path).bind FileNode.runnable

/-- The first of some programs that may be started. The search ends at a refusal that does not
lead on. If it finds none, one that may not be started is the reason, else the last refusal. -/
def firstOf : List (Except SystemError Installed) → Except SystemError Installed
  | [] => .error .missing
  | [only] => only
  | .ok installed :: _ => .ok installed
  | .error reason :: rest =>
    if !reason.leadsOn then .error reason
    else match firstOf rest with
      | .ok installed => .ok installed
      | .error later =>
        .error (if reason = .denied ∧ later.leadsOn = true then .denied else later)

/-- The program that a name starts: the one at that path if the name has a slash, else the
first one in the directories for programs. -/
def programOf (m : Machine) (name : String) : Except SystemError Installed :=
  if name.contains '\x00' then .error .nullInArgument
  else if name.contains '/' then m.programAt name
  else if name.isEmpty then .error .missing
  else
    let directories := ((m.environment.lookup "PATH").getD "").splitOn ":"
    firstOf (directories.map fun directory => m.programAt (Path.join directory name))

/-- What starting a compile command on a source comes to. -/
def launch (m : Machine) (command : Command) (source : String) :
    Except SystemError ProcessOutput :=
  if command.args.any (·.contains '\x00') then .error .nullInArgument
  else (m.programOf command.program).map (·.run command source)

/-- The machine as a run sees it. -/
def host (m : Machine) : Host where
  read path := ((m.find path).bind FileNode.bytes).mapError SystemError.message
  present path := (m.find path).toOption.isSome
  isProgram path := (m.programAt path).toOption.isSome
  version? name := (m.programOf name).toOption.map (·.version.stdout)
  launch command source := (m.launch command source).mapError SystemError.message
  env? name := m.environment.lookup name
  workingDirectory := m.workingDirectory
  accountHome? := m.accountHome?
  scratch := m.scratch.mapError SystemError.message

end Machine

end NativeLayout
