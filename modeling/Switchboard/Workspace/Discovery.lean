/-
# Discovering installations

From the manifests below the workspace folders to the installations that their
projects resolve to, each with its version and its executable.  Projects are
grouped by the installation, in the order in which installations are first
met; a project that resolves to none is left out.
-/

import Switchboard.Workspace.Manifest
import Switchboard.Workspace.Resolve
import Switchboard.Workspace.Scan

namespace Switchboard
namespace Discovery

/-- Installations by manifest, each with its projects. -/
abbrev Groups := List (Path × List Project)

/-- Groups with a project added to that of its installation. -/
def add (manifest : Path) (project : Project) : Groups → Groups
  | [] => [(manifest, [project])]
  | (m, projects) :: rest =>
    if m.same manifest then (m, projects ++ [project]) :: rest
    else (m, projects) :: add manifest project rest

/-- Groups with one more project, if it resolves. -/
def place (d : Disk) (groups : Groups) (project : Project) : Groups :=
  match Resolve.manifest d project.manifest Manifest.toolPackage with
  | .ok manifest => add manifest project groups
  | .error _ => groups

/-- The installations that projects resolve to. -/
def group (d : Disk) (projects : List Project) : Groups := projects.foldl (place d) []

/-- The executable of an installation for a platform: a regular file next to
the manifest of the companion package. -/
def binary (d : Disk) (manifest : Path) (platform : Platform) : Option Path :=
  match Resolve.manifest d manifest platform.packageName with
  | .error _ => none
  | .ok companion => companion.parent.bind fun dir =>
    let file := dir.child platform.binaryName
    if d.isFile file then some file else none

/-- The executable of an installation for the platform of the machine. -/
def executable (d : Disk) (manifest : Path) : Option Path :=
  match d.platform with
  | .ok platform => binary d manifest platform
  | .error _ => none

/-- An installation with what its files say. -/
def inspect (d : Disk) (entry : Path × List Project) : Installation :=
  ⟨entry.1, executable d entry.1, Manifest.version d entry.1, entry.2⟩

/-- The installations below workspace folders. -/
def installations (d : Disk) (roots : List Path) : List Installation :=
  (group d (Manifest.projects d (Scan.manifests d roots))).map (inspect d)

end Discovery
end Switchboard
