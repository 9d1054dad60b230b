/-
# Installations

An installation is one copy of the tool: the manifest of its package, the
version that the manifest states, the executable for this platform, if one was
found, and the projects that resolve to it.  Without an executable there is
nothing to start.
-/

import Switchboard.Workspace.Project

namespace Switchboard

/-- The version that an installation states. -/
structure ToolVersion where
  text : String
  deriving DecidableEq, Repr, Inhabited

namespace ToolVersion

/-- The version of an installation that states none. -/
def unknown : ToolVersion := ⟨"unknown"⟩

/-- Whether a version is the one that stands for none. -/
def isUnknown (v : ToolVersion) : Bool := v == unknown

end ToolVersion

/-- One copy of the tool. -/
structure Installation where
  manifest : Path
  binary : Option Path
  version : ToolVersion
  projects : List Project
  deriving Repr

/-- What a session is made of. -/
structure Plan where
  version : ToolVersion
  binary : Path
  projects : List Project
  deriving Repr

/-- What a session for an installation is made of; none without an executable. -/
def Installation.plan? (i : Installation) : Option Plan :=
  i.binary.map fun binary => ⟨i.version, binary, i.projects⟩

end Switchboard
