/-
# Configuration files

The two files that configure a run: one for the toolchain, one for capabilities.
Members that are not known are ignored, and every member may be left out.
-/

import NativeLayout.Capability.Basic
import NativeLayout.Settings
import NativeLayout.Toml.Error

namespace NativeLayout.ConfigDocument

open Toml Toml.Decoder

/-- The settings in a toolchain file. -/
def settings : RecordShape ToolchainSettings where
  kind := "struct ToolchainSettings"
  closed := false
  members :=
    [.defaulted "cc" path fun s cc => { s with cc := some cc },
     .defaulted "target" string fun s target => { s with target := some target },
     .defaulted "sysroot" path fun s sysroot => { s with sysroot := some sysroot },
     .defaulted "cflags" (list string) fun s cflags => { s with cflags },
     .defaulted "include_dirs" (list path) fun s includeDirs => { s with includeDirs }]
  start := {}

/-- A toolchain file. -/
def toolchainShape : RecordShape ToolchainSettings where
  kind := "struct ToolchainConfig"
  closed := false
  members := [.defaulted "toolchain" settings.decode fun _ s => s]
  start := {}

/-- The words for the policies. -/
def policies : List (String × UnknownPolicy) :=
  [.assumeSupported, .skip].map fun policy => (UnknownPolicy.word policy, policy)

/-- A capability file. -/
def capabilityShape : RecordShape CapabilityConfig where
  kind := "struct CapabilityConfig"
  closed := false
  members :=
    [.defaulted "unknown" (word policies) fun c policy => { c with unknown := some policy },
     .defaulted "structs" (map bool) fun c structs => { c with structs := .ofList structs },
     .defaulted "headers" (map bool) fun c headers => { c with headers := .ofList headers }]
  start := {}

/-- The settings that the text of a toolchain file gives. -/
def parseToolchain (text : String) : Except Toml.Error ToolchainSettings :=
  decodeText toolchainShape.ofTable text

/-- The overrides that the text of a capability file gives. -/
def parseCapabilities (text : String) : Except Toml.Error CapabilityConfig :=
  decodeText capabilityShape.ofTable text

end NativeLayout.ConfigDocument
