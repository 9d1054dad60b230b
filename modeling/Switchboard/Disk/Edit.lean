/-
# Changing files

Directories are made as needed; a file is opened for appending by the place it
is at, so that lines written to it go where the open file is.
-/

import Switchboard.Disk.Lookup

namespace Switchboard
namespace Disk

/-- Puts an entry at a resolved place. -/
def place (d : Disk) (at_ : List Bytes) (node : Node) : Disk :=
  { d with root := d.root.update (fun _ => some node) at_ }

/-- Takes away the entry at a resolved place. -/
def clear (d : Disk) (at_ : List Bytes) : Disk :=
  { d with root := d.root.update (fun _ => none) at_ }

/-- The directory that a path's last name is looked up in. -/
def parentPlace (d : Disk) (p : Path) : Except DiskFault (List Bytes) :=
  let dir := p.parent.getD ⟨[]⟩
  d.resolve true (if dir.bytes = [] then Path.ofText "." else dir)

/-- Makes the directories of a path one below the other: first the ones nearer
to the root, in the order given.  A link that leads nowhere is in the way. -/
def createDirs (d : Disk) : List Path → Except DiskFault Disk
  | [] => .ok d
  | p :: rest =>
    match d.node true p with
    | .ok (.directory _) => createDirs d rest
    | .ok _ => .error .notDirectory
    | .error .notFound =>
      match p.fileName, d.parentPlace p with
      | some name, .ok dir =>
        if maxName < name.length then .error .tooLong
        else if (d.entry? (dir ++ [name])).isSome then .error .notDirectory
        else createDirs (d.place (dir ++ [name]) .emptyDirectory) rest
      | _, .error fault => .error fault
      | none, _ => .error .notFound
    | .error fault => .error fault

/-- Makes the directory that a path names and those above it. -/
def createDirAll (d : Disk) (p : Path) : Except DiskFault Disk :=
  d.createDirs (p.ancestors.reverse.filter fun q => q.bytes != [])

/-- Where a file is that a path names, or where it would be made. -/
def filePlace (d : Disk) (p : Path) : Except DiskFault (List Bytes) :=
  match d.resolve true p with
  | .ok place => .ok place
  | .error .notFound =>
    match p.fileName, d.parentPlace p with
    | some name, .ok dir =>
      if name.length ≤ maxName then .ok (dir ++ [name]) else .error .tooLong
    | none, _ => .error .notFound
    | _, .error fault => .error fault
  | .error fault => .error fault

/-- Opens a file for appending, making it if it is missing: the place it is at. -/
def openAppend (d : Disk) (p : Path) : Except DiskFault (List Bytes × Disk) :=
  match d.filePlace p with
  | .error fault => .error fault
  | .ok place => match d.entry? place with
    | some (.directory _) => .error .isDirectory
    | some _ => .ok (place, d)
    | none => .ok (place, d.place place (.file [] false))

/-- Adds bytes to the file at a place; nothing happens when it is gone. -/
def append (d : Disk) (at_ : List Bytes) (bytes : Bytes) : Disk :=
  { d with root := d.root.update (fun
      | some (.file content executable) => some (.file (content ++ bytes) executable)
      | other => other) at_ }

/-- Puts an entry where a path names it, with the directories above it.  A file
goes where a link at that place leads; anything else takes the place itself. -/
def put (d : Disk) (p : Path) (node : Node) : Disk :=
  match p.parent with
  | none => d
  | some dir => match d.createDirAll dir with
    | .error _ => d
    | .ok d =>
      match node, d.filePlace p with
      | .file content executable, .ok place => match d.entry? place with
        | some (.file _ was) => d.place place (.file content (executable || was))
        | some (.directory _) => d
        | _ => d.place place (.file content executable)
      | .directory _, .ok place =>
        if (d.entry? place).isSome then d else d.place place node
      | node, _ => match p.fileName, d.parentPlace p with
        | some name, .ok dir => d.place (dir ++ [name]) node
        | _, _ => d

/-- Takes away what a path names, a link itself rather than its target. -/
def remove (d : Disk) (p : Path) : Disk :=
  match d.resolve false p with
  | .ok place => d.clear place
  | .error _ => d

/-- Moves what one path names to where another one names it. -/
def rename (d : Disk) (source target : Path) : Disk :=
  match d.resolve false source with
  | .error _ => d
  | .ok place => match d.entry? place, target.fileName, d.parentPlace target with
    | some node, some name, .ok dir => (d.clear place).place (dir ++ [name]) node
    | _, _, _ => d

end Disk
end Switchboard
