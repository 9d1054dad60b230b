/-
# Finding files

A path is read from the root or from the working directory, segment by
segment.  A link is replaced by its target, at most forty times on the way to
one file; `..` leads to the directory above the one that has been reached, so
it follows links that came before it.  A path that ends with a separator names
a directory.
-/

import Switchboard.Disk.Node
import Switchboard.Workspace.Platform

namespace Switchboard

/-- Why a file cannot be had. -/
inductive DiskFault where
  | notFound
  | denied
  | badFormat
  | notDirectory
  | isDirectory
  | tooLong
  | tooManyLinks
  | holdsNul
  | notText
  deriving DecidableEq, Repr

namespace DiskFault

/-- The text that reports a fault. -/
def message : DiskFault → String
  | .notFound => "No such file or directory (os error 2)"
  | .denied => "Permission denied (os error 13)"
  | .badFormat => "Exec format error (os error 8)"
  | .notDirectory => "Not a directory (os error 20)"
  | .isDirectory => "Is a directory (os error 21)"
  | .tooLong => "File name too long (os error 36)"
  | .tooManyLinks => "Too many levels of symbolic links (os error 40)"
  | .holdsNul => "file name contained an unexpected NUL byte"
  | .notText => "stream did not contain valid UTF-8"

end DiskFault

/-- A file tree, the directory that relative paths start from, and the platform of the machine;
the tool may ship nothing for that. -/
structure Disk where
  root : Node
  cwd : List Bytes
  platform : Except Platform.Unsupported Platform

namespace Disk

/-- How long a name may be. -/
def maxName : Nat := 255

/-- How long a path may be, the byte that ends it included. -/
def maxPath : Nat := 4096

/-- How many links may be followed on the way to one file. -/
def maxLinks : Nat := 40

/-- Follows segments from the directory `at_`, innermost name first.  `follow`
says where a link leads, given the directory it is in and the segments left;
`last` says whether a link at the very end is followed too. -/
def walkFrom (root : Node) (last : Bool)
    (follow : List Bytes → List Bytes → Except DiskFault (List Bytes)) (here : List Bytes) :
    List Bytes → Except DiskFault (List Bytes)
  | [] => .ok here
  | segment :: rest =>
    if segment = [] ∨ segment = Path.dot then walkFrom root last follow here rest
    else if segment = Path.dotDot then walkFrom root last follow (here.drop 1) rest
    else if maxName < segment.length then .error .tooLong
    else
      match (Node.at? here.reverse root).bind (Node.child? segment) with
      | none => .error .notFound
      | some (.directory _) => walkFrom root last follow (segment :: here) rest
      | some (.link target) =>
        if rest.isEmpty && !last then .ok (segment :: here)
        else if target.isAbsolute then follow [] (target.segments ++ rest)
        else follow here (target.segments ++ rest)
      | some _ => if rest.isEmpty then .ok (segment :: here) else .error .notDirectory

/-- Follows segments and at most `links` links. -/
def walk (root : Node) (last : Bool) : Nat → List Bytes → List Bytes →
    Except DiskFault (List Bytes)
  | 0 => walkFrom root last fun _ _ => .error .tooManyLinks
  | links + 1 => walkFrom root last (walk root last links)

/-- Where a path leads, as the names from the root on. -/
def resolve (d : Disk) (last : Bool) (p : Path) : Except DiskFault (List Bytes) :=
  if p.bytes.contains 0 then .error .holdsNul
  else if p.bytes = [] then .error .notFound
  else if maxPath ≤ p.bytes.length then .error .tooLong
  else
    let start := if p.isAbsolute then [] else d.cwd.reverse
    (walk d.root last maxLinks start p.segments).map List.reverse

/-- The entry at a resolved place. -/
def entry? (d : Disk) (place : List Bytes) : Option Node := Node.at? place d.root

/-- The entry that a path leads to. -/
def node (d : Disk) (last : Bool) (p : Path) : Except DiskFault Node :=
  match d.resolve last p with
  | .error fault => .error fault
  | .ok place => match d.entry? place with
    | some node => .ok node
    | none => .error .notFound

/-- Whether a path leads to a regular file. -/
def isFile (d : Disk) (p : Path) : Bool :=
  match d.node true p with
  | .ok node => node.isFile
  | .error _ => false

/-- Whether a path leads to a directory. -/
def isDirectory (d : Disk) (p : Path) : Bool :=
  match d.node true p with
  | .ok node => node.isDirectory
  | .error _ => false

/-- Whether a path leads anywhere. -/
def exists? (d : Disk) (p : Path) : Bool := (d.resolve true p).isOk

/-- The path of a resolved place. -/
def pathOf (place : List Bytes) : Path :=
  match place with
  | [] => Path.root
  | names => ⟨names.flatMap fun name => Path.separator :: name⟩

/-- The path of what a path leads to, free of links and dots. -/
def canonical (d : Disk) (p : Path) : Except DiskFault Path := (d.resolve true p).map pathOf

/-- The bytes of the file that a path leads to. -/
def read (d : Disk) (p : Path) : Except DiskFault Bytes :=
  match d.node true p with
  | .error fault => .error fault
  | .ok (.file content _) => .ok content
  | .ok (.directory _) => .error .isDirectory
  | .ok _ => .ok []

/-- The text of the file that a path leads to. -/
def readText (d : Disk) (p : Path) : Except DiskFault String :=
  match d.read p with
  | .error fault => .error fault
  | .ok bytes => match Utf8.decode? bytes with
    | some text => .ok text
    | none => .error .notText

/-- The program that a path leads to. -/
def program (d : Disk) (p : Path) : Except DiskFault Behaviour :=
  match d.node true p with
  | .error fault => .error fault
  | .ok (.program behaviour) => .ok behaviour
  | .ok (.file _ true) => .error .badFormat
  | .ok _ => .error .denied

/-- The names in the directory that a path leads to, in ascending order. -/
def names (d : Disk) (p : Path) : List Bytes :=
  match d.node true p with
  | .ok (.directory entries) => entries.map Prod.fst
  | _ => []

/-- A path read from a directory, without links and dots if it leads somewhere. -/
def settlePath (d : Disk) (cwd raw : Path) : Path :=
  match d.canonical (cwd.join raw) with
  | .ok p => p
  | .error _ => cwd.join raw

end Disk
end Switchboard
