/-
# Loading catalogs and configuration

Reading the files that a run depends on. A configuration file that is not there
says nothing; one that is there but cannot be read or understood stops the run,
because dropping it would lose what it says.
-/

import NativeLayout.Catalog.Document
import NativeLayout.ConfigDocument
import NativeLayout.Host.Basic

namespace NativeLayout

/-- Why a file gave no data. -/
inductive LoadError
  | read (kind path reason : String)
  | parse (kind path : String) (cause : Toml.Error)
deriving DecidableEq, Repr

namespace LoadError

/-- The text of the error, without its cause. -/
def message : LoadError → String
  | read kind path _ => s!"failed to read {kind}: {path}"
  | parse kind path _ => s!"failed to parse {kind}: {path}"

/-- The text of the error and its cause. -/
def chain (error : LoadError) : String :=
  match error with
  | read _ _ reason => error.message ++ ": " ++ reason
  | parse _ _ cause => error.message ++ ": " ++ cause.message

end LoadError

/-- Everything that configuration says about a run. -/
structure Configuration where
  settings : ToolchainSettings := {}
  capabilities : CapabilityConfig := {}
deriving DecidableEq

namespace Host

variable {α : Type}

/-- The data of a file. -/
def load (host : Host) (kind : String) (parse : String → Except Toml.Error α) (path : String) :
    Except LoadError α :=
  match host.readText path with
  | .error reason => .error (.read kind path reason)
  | .ok text => (parse text).mapError (.parse kind path)

/-- The catalog in a file. -/
def loadCatalog (host : Host) (path : String) : Except LoadError Catalog :=
  (host.load "catalog" CatalogDocument.parse path).map CatalogDocument.catalog

/-- The data of a configuration file, or none if there is no such file. -/
def loadPresent (host : Host) (parse : String → Except Toml.Error α) (path : String) :
    Except LoadError (Option α) :=
  if host.present path then (host.load "config file" parse path).map some else .ok none

/-- The layers of one configuration file, read from the given directories in order and laid
over each other. -/
def loadLayers (host : Host) (parse : String → Except Toml.Error α) (merge : α → α → α)
    (file : String) (directories : List String) (start : α) : Except LoadError α :=
  directories.foldlM (fun merged directory => do
    match ← host.loadPresent parse (Path.join directory file) with
    | some layer => pure (merge merged layer)
    | none => pure merged) start

/-- The name of the file that configures the toolchain. -/
def toolchainFile : String := "toolchain.toml"

/-- The name of the file that configures capabilities. -/
def capabilitiesFile : String := "capabilities.toml"

/-- The configuration in the given directories, later ones laid over earlier ones. -/
def loadConfiguration (host : Host) (directories : List String) :
    Except LoadError Configuration := do
  let settings ← host.loadLayers ConfigDocument.parseToolchain ToolchainSettings.merge
    toolchainFile directories {}
  let capabilities ← host.loadLayers ConfigDocument.parseCapabilities CapabilityConfig.merge
    capabilitiesFile directories {}
  return { settings, capabilities }

/-- The name of a configuration directory. -/
def configName : String := ".abi-conform"

/-- The configuration directory of the user. -/
def userConfig? (host : Host) : Option String := host.home?.map (Path.join · configName)

/-- The configuration directory of the project. -/
def projectConfig (host : Host) : String := Path.join host.workingDirectory configName

/-- The configuration directories, those of the user first. -/
def configDirectories (host : Host) : List String :=
  host.userConfig?.toList ++ [host.projectConfig]

/-- The files that can configure a run. -/
def configFiles (host : Host) : List String :=
  host.configDirectories.flatMap fun directory =>
    [toolchainFile, capabilitiesFile].map (Path.join directory)

end Host

end NativeLayout
