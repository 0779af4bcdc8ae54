/-
# The commands of the program

What each command writes and how the program ends. A command that fails writes
one message with its causes behind it and ends with code 1, as does a check that
does not pass; arguments that make no sense end the program with code 2.
-/

import NativeLayout.Catalog.Linux
import NativeLayout.CommandLine.Arguments
import NativeLayout.CommandLine.Listing
import NativeLayout.Host.Files
import NativeLayout.Host.Toolchain
import NativeLayout.Probing
import NativeLayout.Report.Format
import NativeLayout.Run

namespace NativeLayout.CommandLine

/-- How the program ends, and what it has written. -/
structure Outcome where
  code : Nat
  stdout : String
  error : Option String := none
deriving DecidableEq, Repr

/-- The end of a command that has written something and succeeded. -/
def Outcome.success (stdout : String) : Outcome := { code := 0, stdout }

/-- The end of a command that has written something and then failed. -/
def Outcome.failure (stdout message : String) : Outcome :=
  { code := 1, stdout, error := some ("error: " ++ message) }

/-- The end of a command whose output was prepared by a computation that can fail. -/
def Outcome.ofResult : Except String Outcome → Outcome
  | .ok outcome => outcome
  | .error message => .failure "" message

/-- The catalog of a file, or the one of Linux. -/
def catalogOf (host : Host) : Option String → Except String Catalog
  | some path => (host.loadCatalog path).mapError LoadError.chain
  | none => .ok Linux.catalog

/-- The configuration of a run in the working directory. -/
def configurationOf (host : Host) : Except String Configuration :=
  (host.loadConfiguration host.configDirectories).mapError LoadError.chain

/-- The pipeline of the toolchain that the settings lead to. -/
def pipelineOf (host : Host) (settings : ToolchainSettings) : Except String Pipeline :=
  match host.toolchain? settings with
  | none => .error ("failed to detect a C toolchain: " ++ noCompilerMessage)
  | some toolchain =>
    .ok (.ofSettings toolchain settings (host.env? "CFLAGS") host.scratch)

/-- The compiler that a pipeline is on a host. -/
def compilerOn (host : Host) (pipeline : Pipeline) : Compiler Unit :=
  pipeline.compiler fun command source state => (host.launch command source, state)

/-- The text of an error of a run and its causes. -/
def runErrorChain (error : RunError) : String :=
  match error with
  | .notInMatrix _ => error.message
  | .toolchain _ cause => error.message ++ ": " ++ cause.chain

/-- A report of a run with what is known of its compiler. -/
def withToolchain (pipeline : Pipeline) (report : Report) : Report :=
  { report with
    compiler := some pipeline.toolchain.compiler
    target := pipeline.options.target }

/-- Check structures and write the report. -/
def check (host : Host) (names : List String) (catalog : Option String) (format : String)
    (strict : Bool) (target : Option String) (verbose : Bool) : Except String Outcome := do
  let some chosen := ReportFormat.parse? format
    | .error ("invalid output format: " ++ format ++ ": " ++ ReportFormat.invalidMessage format)
  let configuration ← configurationOf host
  let catalog ← catalogOf host catalog
  let pipeline ← pipelineOf host (configuration.settings.withTarget target)
  let configured := Oracle.ofConfig configuration.capabilities
  let oracle := if strict then configured.mapOverrides (·.withPolicy .skip) else configured
  let (result, _) := Run.conform (compilerOn host pipeline) catalog names oracle ()
  let report ← result.mapError runErrorChain
  let report := withToolchain pipeline report
  return { code := if report.passed then 0 else 1, stdout := report.write chosen verbose }

/-- Write the listing of a catalog. -/
def list (host : Host) (catalog : Option String) : Except String Outcome := do
  let catalog ← catalogOf host catalog
  return .success (listing catalog)

/-- The assertions of a checked structure; a defect of its definition is told as such. -/
def assertionsOf (catalog : Catalog) (name : String) : Except String String :=
  let defect : Option CatalogError :=
    match catalog.check? name, catalog.descriptor name with
    | some _, .error defect => some defect
    | _, _ => none
  match defect, (Matrix.ofCatalog catalog).entryNamed? name with
  | some defect, _ => .error defect.message
  | none, none => .error (RunError.notInMatrix name).message
  | none, some entry => .ok (Source.assertions entry.descriptor entry.headers catalog.skipList)

/-- Write the assertions of a structure. -/
def source (host : Host) (name : String) (catalog : Option String) : Except String Outcome := do
  let catalog ← catalogOf host catalog
  return .success (← assertionsOf catalog name)

/-- The line about one header. -/
def probeLine (header : String) (supported : Bool) : String :=
  "  <" ++ header ++ ">: " ++ (Capability.ofRecord (some supported)).word

/-- Write which headers can be included. -/
def probe (host : Host) (headers : List String) (target : Option String) :
    Except String Outcome := do
  let configuration ← configurationOf host
  let pipeline ← pipelineOf host (configuration.settings.withTarget target)
  let oracle := Oracle.ofConfig configuration.capabilities
  let (answers, ended, _) :=
    Probing.run oracle (compilerOn host pipeline).probe headers ()
  let stdout := Text.ofLines (answers.map fun (header, supported) => probeLine header supported)
  match ended with
  | .ok _ => return .success stdout
  | .error failure => return .failure stdout failure.chain

/-- The first line of what a compiler tells of its version. -/
def versionLine (host : Host) (compiler : String) : List String :=
  match (host.version? compiler).map Text.Utf8.decodeLenient with
  | none => []
  | some text => ((Text.lines text).take 1).map fun line => "           " ++ Text.trim line

/-- A line for a value, if there is one. -/
def optionalLine (label : String) : Option String → List String
  | none => []
  | some value => [label ++ value]

/-- The lines about a toolchain and where its settings come from. -/
def toolchainLines (host : Host) (pipeline : Pipeline) (settings : ToolchainSettings) :
    List String :=
  ["Toolchain:", "",
   "  CC:      " ++ pipeline.toolchain.compiler,
   "  Family:  " ++ pipeline.toolchain.family.word] ++
  versionLine host pipeline.toolchain.compiler ++
  ["", "  Target:  " ++ settings.target.getD "host"] ++
  optionalLine "  Sysroot: " settings.sysroot ++
  settings.includeDirs.map ("  Include: " ++ ·) ++
  (if settings.cflags.isEmpty then []
    else ["  CFLAGS:  " ++ String.intercalate " " settings.cflags]) ++
  ["", "Config:"] ++
  optionalLine "  Global:  " host.userConfig? ++
  ["  Project: " ++ host.projectConfig, "", "Environment:"] ++
  optionalLine "  CC=" (host.env? "CC") ++
  optionalLine "  CFLAGS=" (host.env? "CFLAGS")

/-- Write what is known of the toolchain. -/
def toolchain (host : Host) (target : Option String) : Except String Outcome := do
  let configuration ← configurationOf host
  let settings := configuration.settings.withTarget target
  let pipeline ← pipelineOf host settings
  return .success (Text.ofLines (toolchainLines host pipeline settings))

/-- Carry out a task. -/
def execute (host : Host) (verbose : Bool) : Task → Outcome
  | .check names catalog format _ strict target =>
    .ofResult (check host names catalog format strict target verbose)
  | .list catalog => .ofResult (list host catalog)
  | .source name catalog => .ofResult (source host name catalog)
  | .probe headers target => .ofResult (probe host headers target)
  | .toolchain target => .ofResult (toolchain host target)

/-- The answer to a request for help. -/
def usage : String := Text.ofLines
  ["Usage: abi-conform [OPTIONS] <COMMAND>", "", "Commands:",
   "  check      Check structure layouts against the system headers",
   "  list       List the structures in the conformance matrix",
   "  source     Print the generated assertion source for a structure",
   "  probe      Probe whether headers can be included",
   "  toolchain  Show the C toolchain used for checks"]

/-- The answer to the arguments of the program. -/
def respond (host : Host) : Request → Outcome
  | .run task verbose => execute host verbose task
  | .help => .success usage
  | .version => .success "abi-conform 0.1.0\n"
  | .misuse => { code := 2, stdout := "" }

/-- What the program does with its arguments. -/
def run (host : Host) (arguments : List String) : Outcome := respond host (parse arguments)

end NativeLayout.CommandLine
