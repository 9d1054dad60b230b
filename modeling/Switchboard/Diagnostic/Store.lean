/-
# The diagnostics of all sessions

The store holds, for every file, the session that spoke last about it and what
it said; a file about which nothing is left to say is not held.  Files are
told apart by their components, and the first spelling of a file's path stays.

A snapshot lists files with errors before files without, each group in the
order of paths.
-/

import Switchboard.Diagnostic.Basic

namespace Switchboard

/-- The identity of a session.  Identities are counted in words of 64 bits; a number without a
bound stands for one as long as fewer than 2^64 - 1 sessions have been created. -/
abbrev SessionId := Nat

/-- A file's path, the session that spoke about it, and what it said. -/
structure Finding where
  path : Path
  owner : SessionId
  items : List Diagnostic
  deriving Repr

/-- The diagnostics of all sessions. -/
structure Store where
  findings : List Finding
  deriving Repr, Inhabited

namespace Store

/-- The store that holds nothing. -/
def empty : Store := ⟨[]⟩

/-- Findings with the one about a path replaced or added at the end. -/
def put (path : Path) (owner : SessionId) (items : List Diagnostic) : List Finding → List Finding
  | [] => [⟨path, owner, items⟩]
  | f :: rest =>
    if f.path.same path then ⟨f.path, owner, items⟩ :: rest else f :: put path owner items rest

/-- Takes in what a session says about a file; nothing to say clears the file. -/
def update (s : Store) (owner : SessionId) (path : Path) (items : List Diagnostic) : Store :=
  if items.isEmpty then ⟨s.findings.filter fun f => !f.path.same path⟩
  else ⟨put path owner items s.findings⟩

/-- Drops what a session has said. -/
def clearSession (s : Store) (owner : SessionId) : Store :=
  ⟨s.findings.filter fun f => f.owner != owner⟩

end Store

/-- The diagnostics of all files at one moment. -/
structure Snapshot where
  files : List (Path × List Diagnostic)
  deriving Repr, Inhabited

namespace Snapshot

/-- Whether some item is an error. -/
def hasErrors (items : List Diagnostic) : Bool := items.any fun d => d.severity.isError

/-- The order of files in a snapshot. -/
def fileLE (a b : Path × List Diagnostic) : Bool :=
  match hasErrors a.2, hasErrors b.2 with
  | true, false => true
  | false, true => false
  | _, _ => (a.1.order b.1).isLE

/-- The items of all files. -/
def items (s : Snapshot) : List Diagnostic := s.files.flatMap (·.2)

/-- How many items have a severity. -/
def count (s : Snapshot) (severity : Severity) : Nat :=
  s.items.countP fun d => d.severity == severity

/-- How many errors there are. -/
def errorCount (s : Snapshot) : Nat := s.count .error

/-- How many warnings there are. -/
def warningCount (s : Snapshot) : Nat := s.count .warning

/-- How many items there are. -/
def totalCount (s : Snapshot) : Nat := s.items.length

/-- Whether there is no file. -/
def isEmpty (s : Snapshot) : Bool := s.files.isEmpty

/-- The counts in short; nothing when there is no file. -/
def status (s : Snapshot) : String :=
  if s.isEmpty then ""
  else "E:" ++ toString s.errorCount ++ " W:" ++ toString s.warningCount

end Snapshot

/-- The snapshot of a store. -/
def Store.snapshot (s : Store) : Snapshot :=
  ⟨(s.findings.map fun f => (f.path, f.items)).mergeSort Snapshot.fileLE⟩

end Switchboard
