/-
# Resolving packages

A package is looked for in the `node_modules` of a file's directory and of
every directory above it, nearest first.  A directory that is itself named
`node_modules` is passed over.  What is found is named by its canonical path,
so a package that many projects share through links is one package.
-/

import Switchboard.Disk.Lookup
import Switchboard.Workspace.Project

namespace Switchboard
namespace Resolve

/-- The directory that packages are kept in. -/
def modulesName : String := "node_modules"

/-- The directories that a file in `dir` finds packages in, nearest first. -/
def searched (dir : Path) : List Path :=
  (dir.ancestors.filter fun a => a.fileName != some (Utf8.encode modulesName)).map fun a =>
    a.child modulesName

/-- A package that cannot be found. -/
structure NotFound where
  package : String
  source : Path
  deriving DecidableEq, Repr

/-- The text that reports a package that cannot be found. -/
def NotFound.message (e : NotFound) : String :=
  "cannot find package '" ++ e.package ++ "' from " ++ e.source.display

/-- Where the manifest of a package would be in a directory of packages. -/
def candidate (modules : Path) (package : String) : Path :=
  (modules.child package).child Project.manifestName

/-- The manifest of a package as a file sees it. -/
def manifest (d : Disk) (source : Path) (package : String) : Except NotFound Path :=
  let candidates := (searched (source.parent.getD source)).map (candidate · package)
  match candidates.find? d.isFile with
  | some found => .ok ((d.canonical found).toOption.getD found)
  | none => .error ⟨package, source⟩

end Resolve
end Switchboard
