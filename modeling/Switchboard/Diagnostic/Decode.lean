/-
# Diagnostics on the wire

What servers send about files, read from JSON by the rules of
`Switchboard.Json.Fields`.
-/

import Switchboard.Diagnostic.Basic
import Switchboard.Json.Fields
import Switchboard.Json.Writer

namespace Switchboard

namespace Diagnostic

/-- The place where a diagnostic begins. -/
structure Start where
  line : UInt32
  column : UInt32

/-- A number of 32 bits. -/
def word32? (j : Json) : Option UInt32 := (j.word? 32).map UInt32.ofNat

/-- Reads a place. -/
def Start.read? (j : Json) : Option Start :=
  match j.fields? ["line", "character"] with
  | some [line, character] => do
    some ⟨← Json.needed word32? line, ← Json.needed word32? character⟩
  | _ => none

/-- Reads the start of a range. -/
def Start.ofRange? (j : Json) : Option Start :=
  match j.fields? ["start"] with
  | some [start] => Json.needed Start.read? start
  | _ => none

/-- The text of a code: a string, or a number as it is written. -/
def codeText : Option Json → Option String
  | some (.str s) => some s
  | some (.int n) => some (toString n)
  | some (.float x) => some (String.ofList (Shortest.render x))
  | _ => none

/-- Reads a diagnostic.  A severity that is missing or unknown is a warning,
and a missing source is the tool itself. -/
def read? (j : Json) : Option Diagnostic :=
  match j.fields? ["range", "severity", "code", "source", "message"] with
  | some [range, severity, code, source, message] => do
    let start ← Json.needed Start.ofRange? range
    let severity ← Json.optional (Json.word? 64) severity
    let source ← Json.optional Json.text? source
    let message ← Json.needed Json.text? message
    some ⟨(severity.bind Severity.ofCode?).getD .warning, message, start.line, start.column,
      codeText code, source.getD "biome"⟩
  | _ => none

end Diagnostic

/-- The diagnostics of a file, as a server publishes them. -/
structure Publication where
  uri : String
  items : List Diagnostic
  deriving Repr

/-- Reads a publication. -/
def Publication.read? (j : Json) : Option Publication :=
  match j.fields? ["uri", "diagnostics"] with
  | some [uri, items] => do
    some ⟨← Json.needed Json.text? uri, ← Json.needed (Json.listOf Diagnostic.read?) items⟩
  | _ => none

end Switchboard
