/-
# Lock files that change

What happens to the disk reaches the supervisor through its watch: a lock file
that is written, or renamed to or from, becomes an event in the queue.
Removing a file is no reason to restart, and neither is changing its metadata.
-/

import Switchboard.Supervisor.Basic

namespace Switchboard
namespace Supervisor

/-- Takes in that something happened at a place. -/
def noticeAt (s : Supervisor) (kind : ChangeFilter.Kind) (place : List Bytes) : Supervisor :=
  match s.watch with
  | none => s
  | some w =>
    let (report, w) := w.notice kind place s.site.now
    let s := { s with watch := some w }
    match report with
    | some path => s.enqueue (.lockFile path)
    | none => s

/-- The supervisor with another disk. -/
def withDisk (s : Supervisor) (d : Disk) : Supervisor :=
  { s with site := { s.site with disk := d }, watch := s.watch.map fun w => w.prune d }

/-- The place that is written to when an entry is put where a path names it. -/
def placeWritten (d : Disk) (path : Path) (node : Node) : Option (List Bytes) :=
  match node with
  | .file _ _ => (d.resolve true path).toOption
  | _ => (d.resolve false path).toOption

/-- Puts an entry on the disk. -/
def putEntry (s : Supervisor) (path : Path) (node : Node) : Supervisor :=
  let kind : ChangeFilter.Kind :=
    if (placeWritten s.site.disk path node).isSome then .modify else .create
  let s := s.withDisk (s.site.disk.put path node)
  match placeWritten s.site.disk path node with
  | some place => s.noticeAt kind place
  | none => s

/-- Removes an entry from the disk. -/
def removeEntry (s : Supervisor) (path : Path) : Supervisor := s.withDisk (s.site.disk.remove path)

/-- Renames an entry on the disk. -/
def renameEntry (s : Supervisor) (source target : Path) : Supervisor :=
  let left := (s.site.disk.resolve false source).toOption
  let s := s.withDisk (s.site.disk.rename source target)
  let reached := (s.site.disk.resolve false target).toOption
  (left.toList ++ reached.toList).foldl (fun s place => s.noticeAt .modify place) s

end Supervisor
end Switchboard
