/-
# Projects

A project is a directory whose manifest declares the tool.  It contains what
lies below it, but not itself.
-/

import Switchboard.Path.Basic

namespace Switchboard

/-- A project, by its directory. -/
structure Project where
  path : Path
  deriving DecidableEq, Repr, Inhabited

namespace Project

/-- The name of a manifest. -/
def manifestName : String := "package.json"

/-- The project of a manifest; a bare file name has none. -/
def ofManifest? (manifest : Path) : Option Project :=
  (manifest.parent.filter fun p => p.bytes != []).map Project.mk

/-- The manifest of a project. -/
def manifest (p : Project) : Path := p.path.child manifestName

/-- The last component of the directory, or all of it if that is no name. -/
def name (p : Project) : String :=
  match p.path.fileName with
  | some bytes => Utf8.lossy bytes
  | none => p.path.display

/-- Whether a path lies inside a project. -/
def contains (p : Project) (path : Path) : Bool := path.startsWith p.path && !path.same p.path

/-- The text of a project. -/
def display (p : Project) : String := p.path.display

end Project
end Switchboard
