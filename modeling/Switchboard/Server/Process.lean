/-
# Running servers

A server that has been started: what it has heard, whether it still runs, whether
its input is still open, and whether it has stalled.  A message that is written to it
is heard at once, or waits while the server does not read, or is refused: the
input of a server that has exited or closed it takes no more.
-/

import Switchboard.Server.Behaviour
import Switchboard.Path.Basic

namespace Switchboard

/-- A server that has been started from the executable at `program`. -/
structure Process where
  program : Path
  behaviour : Behaviour
  heard : List Json
  alive : Bool
  reading : Bool
  stalled : Bool

namespace Process

/-- A server that has just been started. -/
def start (program : Path) (behaviour : Behaviour) : Process :=
  ⟨program, behaviour, [], true, true, false⟩

/-- Whether the input of a server can be written to. -/
def isOpen (p : Process) : Bool := p.alive && p.reading

/-- Whether a server gets on: it has not stalled, and does not wait for a reader of its
output, of which so many bytes are unread. -/
def getsOn (p : Process) (unread : Nat) : Bool := !p.stalled && p.behaviour.room.all (unread ≤ ·)

/-- Whether a message that is written now is heard. -/
def hears (p : Process) (unread : Nat) : Bool := p.isOpen && p.getsOn unread

/-- Whether a message that is written now waits to be heard. -/
def blocks (p : Process) (unread : Nat) : Bool := p.isOpen && !p.getsOn unread

/-- Takes in a message: what the server writes on it, and the server after it. -/
def hear (p : Process) (message : Json) : Bytes × Process :=
  let r := p.behaviour.react p.heard message
  (r.output, { p with
    heard := p.heard ++ [message]
    alive := p.alive && !r.exits
    reading := p.reading && !r.stopsReading
    stalled := r.stalls })

/-- Ends the server's input.  It exits, unless it lingers, or does not get to the end of it. -/
def closeInput (p : Process) (unread : Nat) : Process :=
  { p with alive := p.alive && (p.behaviour.lingers || !p.reading || !p.getsOn unread) }

/-- Ends the server. -/
def kill (p : Process) : Process := { p with alive := false }

end Process
end Switchboard
