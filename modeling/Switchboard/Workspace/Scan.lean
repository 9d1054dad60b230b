/-
# Scanning workspace folders

A scan goes through each folder from the top, entries in ascending order of
their names, and finds the regular files whose path below the folder matches a
pattern.  It enters neither `.git` nor `node_modules` and follows no link but
the folder itself.  A file that several folders reach is found once.
-/

import Switchboard.Disk.Lookup
import Switchboard.Glob.Reader
import Switchboard.Workspace.Project

namespace Switchboard
namespace Scan

/-- Entries that a scan passes over. -/
def isSkipped (name : Bytes) : Bool :=
  Utf8.lossy name == ".git" || Utf8.lossy name == "node_modules"

mutual

/-- The regular files below an entry, each as the names that lead to it. -/
def filesOf : Node → List (List Bytes)
  | .file _ _ => [[]]
  | .program _ => [[]]
  | .link _ => []
  | .directory entries => filesIn entries

/-- The regular files among entries and below them. -/
def filesIn : List (Bytes × Node) → List (List Bytes)
  | [] => []
  | (name, node) :: rest =>
    (if isSkipped name then [] else (filesOf node).map (name :: ·)) ++ filesIn rest

end

/-- The text of names that lead from one directory to the next. -/
def relative (names : List Bytes) : Bytes := [Path.separator].intercalate names

/-- The name that stands for standard input, which holds no files. -/
def standardInput : Path := Path.ofText "-"

/-- The regular files below a folder.  A folder that is itself a regular file
holds one, with no name of its own. -/
def filesBelow (d : Disk) (root : Path) : List (List Bytes) :=
  if root.same standardInput then []
  else match d.node true root with
    | .ok node => filesOf node
    | .error _ => []

/-- The files below a folder that match a pattern. -/
def matching (d : Disk) (pattern : Glob.Pattern) (root : Path) : List Path :=
  ((filesBelow d root).filter fun names => pattern.isMatch (relative names)).map fun names =>
    names.foldl (fun p name => p.join ⟨name⟩) root

/-- Paths with only the first of those that are the same. -/
def distinct : List Path → List Path
  | [] => []
  | p :: rest => p :: (distinct rest).filter fun q => !q.same p

/-- The files below folders that match a pattern, folder by folder. -/
def files (d : Disk) (pattern : Glob.Pattern) (roots : List Path) : List Path :=
  distinct (roots.flatMap (matching d pattern))

/-- The lock files that are looked for unless a configuration says otherwise. -/
def defaultLockFiles : List String := ["package-lock.json", "yarn.lock", "pnpm-lock.yaml"]

/-- The pattern of a file in any directory with one of some names. -/
def lockPattern (names : List String) : Except Glob.Error Glob.Pattern :=
  Glob.compile ("**/\x7b" ++ ",".intercalate names ++ "\x7d") false

/-- The pattern of a manifest in any directory. -/
def manifestPattern : Glob.Pattern :=
  ⟨.anyFront :: Project.manifestName.toList.map .literal, false⟩

/-- The manifests below folders. -/
def manifests (d : Disk) (roots : List Path) : List Path := files d manifestPattern roots

/-- The lock files below folders that have one of some names. -/
def lockFiles (d : Disk) (roots : List Path) (names : List String) :
    Except Glob.Error (List Path) :=
  (lockPattern names).map fun pattern => files d pattern roots

end Scan
end Switchboard
