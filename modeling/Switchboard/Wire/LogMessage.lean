/-
# Log lines on the wire

A server may ask for a line to be logged; the kind of the line is a number.
-/

import Switchboard.Json.Fields

namespace Switchboard

/-- A line that a server wants logged. -/
structure LogMessage where
  kind : Nat
  message : String
  deriving Repr

/-- Reads a log line; its kind is a number of eight bits. -/
def LogMessage.read? (j : Json) : Option LogMessage :=
  match j.fields? ["type", "message"] with
  | some [kind, message] => do
    some ⟨← Json.needed (Json.word? 8) kind, ← Json.needed Json.text? message⟩
  | _ => none

end Switchboard
