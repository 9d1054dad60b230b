/-
# The file tree

A disk is a tree of directories.  A file holds bytes and may be executable; an
executable that serves is held by its behaviour.  Entries are kept in
ascending order of their names, one entry a name.
-/

import Switchboard.Path.Basic
import Switchboard.Server.Behaviour

namespace Switchboard

/-- An entry of the file tree. -/
inductive Node where
  | file (content : Bytes) (executable : Bool)
  | program (behaviour : Behaviour)
  | link (target : Path)
  | directory (entries : List (Bytes × Node))

namespace Node

/-- A directory without entries. -/
def emptyDirectory : Node := .directory []

/-- Whether an entry is a regular file. -/
def isFile : Node → Bool
  | .file _ _ | .program _ => true
  | _ => false

/-- Whether an entry is a directory. -/
def isDirectory : Node → Bool
  | .directory _ => true
  | _ => false

/-- The entry with a name. -/
def find (name : Bytes) : List (Bytes × Node) → Option Node
  | [] => none
  | (n, node) :: rest => if n = name then some node else find name rest

/-- Entries with one put in, in its place in the order or for one of that name. -/
def put (name : Bytes) (node : Node) : List (Bytes × Node) → List (Bytes × Node)
  | [] => [(name, node)]
  | (n, old) :: rest =>
    if n = name then (name, node) :: rest
    else if compare name n = .lt then (name, node) :: (n, old) :: rest
    else (n, old) :: put name node rest

/-- Entries without the one of a name. -/
def drop (name : Bytes) (entries : List (Bytes × Node)) : List (Bytes × Node) :=
  entries.filter fun entry => entry.1 != name

/-- The entry of a directory with a name. -/
def child? (name : Bytes) : Node → Option Node
  | .directory entries => find name entries
  | _ => none

/-- The entry that names lead to, from directory to directory; links are not followed. -/
def at? : List Bytes → Node → Option Node
  | [], node => some node
  | name :: rest, node => (child? name node).bind (at? rest)

/-- The tree with the entry at some place made anew by `change`; none there takes
the entry away.  Only directories have entries. -/
def update (change : Option Node → Option Node) : List Bytes → Node → Node
  | [], node => (change (some node)).getD node
  | [name], .directory entries =>
    match change (find name entries) with
    | some node => .directory (put name node entries)
    | none => .directory (drop name entries)
  | name :: rest, .directory entries =>
    match find name entries with
    | some node => .directory (put name (update change rest node) entries)
    | none => .directory entries
  | _, node => node

end Node
end Switchboard
