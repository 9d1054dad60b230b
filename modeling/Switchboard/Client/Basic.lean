/-
# Clients

A client talks to one running server.  What it sends waits in an outbox until
the client has to wait itself, or the outbox is full; `settle` then lets client and
server take turns: the outbox is written, and what the server writes is read and
answered.  Reading stops while a report finds no room at the site, or an answer none
in the outbox.  A write that fails ends the writing side.  One that the server does
not read waits, and all that stands behind it; once the pipe and the outbox have no
room left, so does everybody who has something to send.  The reading side ends with
the server's output, or where that cannot be read; it then reports that the server has
stopped, and no request waits any more.
-/

import Switchboard.Client.Documents
import Switchboard.Client.Handshake
import Switchboard.Client.Receiver
import Switchboard.Server.Process
import Switchboard.Site
import Switchboard.Wire.Frame

namespace Switchboard

/-- A client and its server.  `complaints` are texts of the server that are not
logged yet, `unread` is what it has written and nobody has read, and `ended`
says why the reading side has ended.  Requests are numbered in words of 64 bits; a
number without a bound stands for `nextId` as long as fewer than 2^64 - 1 requests
have been made.  The patiences are the times, in milliseconds, that an answer and the
steps of a stop may take. -/
structure Client where
  receiver : Receiver
  channel : Channel
  process : Process
  complaints : List String
  outbox : List Json
  writing : Bool
  unread : Bytes
  ended : Option StopReason
  nextId : Nat
  delivered : List (Nat × Json)
  documents : Documents
  welcome : Option Welcome
  patience : Nat
  stopPatience : Nat

namespace Client

/-- The session of a client. -/
def session (c : Client) : SessionId := c.receiver.session

/-- Logs the lines with which the server complains; a line feed follows each text. -/
def logComplaints (c : Client) (s : Site) : Client × Site :=
  let lines := c.complaints.flatMap fun text => Lines.ofString (text ++ "\n")
  ({ c with complaints := [] }, s.logAll c.channel .trace lines)

/-- The line that is logged when a write fails. -/
def writeFailure : String := "Write to server failed: " ++ Frame.streamFailure

/-- How many bytes that the server has written wait to be read.  The reading side takes in the
beginning of a frame as it comes, and after its end nothing waits for it. -/
def backlog (c : Client) : Nat :=
  if c.ended.isSome then 0
  else match Frame.next c.unread with
    | .starved _ => 0
    | _ => c.unread.length

/-- Whether the server hears a message that is written now. -/
def isHeard (c : Client) : Bool := c.process.hears c.backlog

/-- Whether a message that is written now waits until the server reads it. -/
def isBlocked (c : Client) : Bool := c.process.blocks c.backlog

/-- Writes messages to the server until one is not heard.  That one waits, with those behind
it, if the server may yet read it; otherwise writing ends. -/
def writeAll (c : Client) (s : Site) : List Json → Client × Site
  | [] => ({ c with outbox := [] }, s)
  | m :: rest =>
    if c.isHeard then
      let (output, process) := c.process.hear m
      writeAll { c with process, unread := c.unread ++ output }
        (s.note c.session process.program (.heard m)) rest
    else if c.isBlocked then ({ c with outbox := m :: rest }, s)
    else ({ c with writing := false, outbox := [] }, s.log c.channel .warn writeFailure)

/-- Writes the outbox. -/
def flush (c : Client) (s : Site) : Client × Site := c.writeAll s c.outbox

/-- How many messages may wait behind the one that is being written. -/
def outboxLimit : Nat := 64

/-- What does not go into a pipe with so many bytes of room, from the first message on that is
too long for it. -/
def beyond : Nat → List Json → List Json
  | _, [] => []
  | room, m :: rest =>
    let size := (Frame.write m).length
    if size ≤ room then beyond (room - size) rest else m :: rest

/-- Whether there is no room for a message: the pipe is full with one that is being written,
and as many wait behind that one as may. -/
def isFull (c : Client) : Bool := outboxLimit < (beyond pipeSize c.outbox).length

/-- Puts a message into the outbox; once writing has ended it is dropped. -/
def push (c : Client) (m : Json) : Client :=
  if c.writing then { c with outbox := c.outbox ++ [m] } else c

/-- Acts on what a frame leads to. -/
def act (c : Client) (s : Site) : Outcome → Client × Site
  | .delivered id body => ({ c with delivered := c.delivered ++ [(id, body)] }, s)
  | .answered answer => (c.push answer, s)
  | .published event => (c, s.report event)
  | .logged level message => (c, s.log c.channel level message)
  | .ignored => (c, s)

/-- The line that is logged when the reading side ends. -/
def endLine : StopReason → Level × String
  | .exited => (.info, "Server closed its output")
  | .failed message => (.warn, "Reading from server failed: " ++ message)

/-- Ends the reading side. -/
def finish (c : Client) (s : Site) (reason : StopReason) : Client × Site :=
  let (level, line) := endLine reason
  ({ c with ended := some reason, receiver := { c.receiver with pending := [] } },
    (s.log c.channel level line).report (.stopped c.session reason))

/-- Reads at most `fuel` frames of what the server has written.  One that is to be answered
is left where it is while the outbox has no room for the answer. -/
def readWithin : Nat → Client → Site → Client × Site
  | 0, c, s => (c, s)
  | fuel + 1, c, s =>
    if s.holds c.session then (c, s)
    else match Frame.next c.unread with
      | .frame value rest =>
        let (outcome, receiver) := c.receiver.handle value
        if outcome.isAnswered && c.isFull then (c, s)
        else
          let s := s.note c.session c.process.program (.read value)
          let (c, s) := act { c with receiver, unread := rest } s outcome
          readWithin fuel c s
      | .failed fault => c.finish s (.failed fault.message)
      | .starved atEnd =>
        if c.process.alive then (c, s)
        else c.finish s (match atEnd with
          | some fault => .failed fault.message
          | none => .exited)

/-- Reads what the server has written. -/
def read (c : Client) (s : Site) : Client × Site :=
  if c.ended.isSome then (c, s) else readWithin (c.unread.length + 1) c s

/-- Whether nothing waits to be written, or nothing that waits can be. -/
def isQuiet (c : Client) : Bool := c.outbox.isEmpty || c.isBlocked

/-- Lets client and server take turns, at most so many of them, until something is done or
there is nothing more to do, and writes what has come up in the last one. -/
def takeTurns (done : Client → Bool) : Nat → Client → Site → Client × Site
  | 0, c, s => c.flush s
  | turns + 1, c, s =>
    let (c, s) := c.flush s
    let (c, s) := c.read s
    if done c || c.isQuiet then c.flush s else takeTurns done turns c s

/-- How many turns are taken when nothing in particular is waited for. -/
@[irreducible] def turnLimit : Nat := 1000

/-- Lets everything happen that can happen without the client waiting for more; with a server
that has always something more to ask, as much of it as there are turns. -/
def settle (c : Client) (s : Site) : Client × Site :=
  let (c, s) := c.logComplaints s
  c.takeTurns (fun _ => false) turnLimit s

/-- Makes room for a message: with an outbox that is full everything else happens first.  If
there is no room then, whoever has something to send waits for ever. -/
def makeRoom (c : Client) (s : Site) : Client × Site :=
  if c.outbox.length < outboxLimit then (c, s)
  else
    let (c, s) := c.settle s
    (c, if c.isBlocked && c.isFull then s.halt else s)

end Client
end Switchboard
