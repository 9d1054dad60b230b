/-
# Watching lock files

Lock files are often replaced rather than written, so a watch is kept on the
directories that hold them, and what happens there is filtered down to the
lock files: a file counts by the path it was found by and by its canonical
path.  A directory is watched by an absolute path, a relative one read from the
working directory without a look at links and dots, and what happens in it is
reported by that path; one that is watched by several paths reports by the last
of them.
-/

import Switchboard.Disk.Edit
import Switchboard.Supervisor.ChangeFilter

namespace Switchboard

/-- A watch: the lock files, the watched directories with the places they are
at, and the filter of what happens in them. -/
structure Watch where
  files : List Path
  directories : List (Path × List Bytes)
  filter : ChangeFilter.State

namespace Watch

/-- The paths that lock files are known by. -/
def targets (d : Disk) (files : List Path) : List Path :=
  files.flatMap fun f => f :: (d.canonical f).toOption.toList

/-- The directories of files in ascending order, as the paths they are watched
by, each with its place. -/
def directoriesOf (d : Disk) (files : List Path) : List (Path × List Bytes) :=
  let parents := (files.filterMap Path.parent).mergeSort fun a b => (a.order b).isLE
  (parents.map (Disk.pathOf d.cwd).join).filterMap fun dir =>
    (d.resolve true dir).toOption.map fun place => (dir, place)

/-- A watch on lock files that reports each of them once in a window of milliseconds. -/
def ofFiles (d : Disk) (files : List Path) (window : Nat) : Watch :=
  ⟨files, directoriesOf d files, .new (targets d files) window⟩

/-- The path by which a watch reports a place. -/
def pathOf? (w : Watch) (place : List Bytes) : Option Path :=
  match place.getLast? with
  | none => none
  | some name =>
    let dirs := w.directories.filter fun dir => dir.2 == place.dropLast
    dirs.getLast?.map fun dir => dir.1.join ⟨name⟩

/-- Takes in that something happened at a place: the lock file that is reported, if any. -/
def notice (w : Watch) (kind : ChangeFilter.Kind) (place : List Bytes) (now : Nat) :
    Option Path × Watch :=
  let (report, filter) := ChangeFilter.accept w.filter ⟨kind, (w.pathOf? place).toList, now⟩
  (report, { w with filter })

/-- The watch without directories that are gone. -/
def prune (w : Watch) (d : Disk) : Watch :=
  { w with directories := w.directories.filter fun dir =>
      ((d.entry? dir.2).map Node.isDirectory).getD false }

end Watch
end Switchboard
