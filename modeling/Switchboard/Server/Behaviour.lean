/-
# Servers, seen from outside

A server is a program that reads messages and writes bytes.  Nothing is
assumed about it: what it does on a message may depend on all it has heard,
answers to its own requests among it, and at any message it may exit, close its
input, or stall, that is, read no more and leave its input open.
-/

import Switchboard.Json.Value
import Switchboard.Text.Utf8

namespace Switchboard

/-- How many bytes that nobody has read a pipe holds. -/
def pipeSize : Nat := 65536

/-- What a server does on a message. -/
structure Reaction where
  output : Bytes
  stopsReading : Bool
  exits : Bool
  stalls : Bool
  deriving Repr

/-- A program that serves: the texts it complains with when it starts, whether
it stays when its input ends, how many bytes of its output may stand unread before
it waits for a reader (none if it never waits), and what it does on a message after
those it has heard. -/
structure Behaviour where
  complaints : List String
  lingers : Bool
  room : Option Nat
  react : List Json → Json → Reaction

namespace Reaction

/-- Doing nothing. -/
def silent : Reaction := ⟨[], false, false, false⟩

end Reaction
end Switchboard
