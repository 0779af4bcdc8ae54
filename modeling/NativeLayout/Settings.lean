/-
# Toolchain settings

Which compiler to use and how, as configuration says it. Settings come in two
layers, those of the user and those of the project; an option that a later layer
leaves open and a list that it leaves empty keep what the earlier layer said.
-/

namespace NativeLayout

/-- What one layer of configuration says about the toolchain. -/
structure ToolchainSettings where
  cc : Option String := none
  target : Option String := none
  sysroot : Option String := none
  cflags : List String := []
  includeDirs : List String := []
deriving DecidableEq, Repr

namespace ToolchainSettings

/-- The later of two lists, unless it is empty. -/
def overlay (base top : List String) : List String := if top.isEmpty then base else top

/-- One layer laid over another. -/
def merge (base top : ToolchainSettings) : ToolchainSettings where
  cc := top.cc.or base.cc
  target := top.target.or base.target
  sysroot := top.sysroot.or base.sysroot
  cflags := overlay base.cflags top.cflags
  includeDirs := overlay base.includeDirs top.includeDirs

/-- The settings for another target, if one is given. -/
def withTarget (settings : ToolchainSettings) (target : Option String) : ToolchainSettings :=
  { settings with target := target.or settings.target }

end ToolchainSettings

end NativeLayout
