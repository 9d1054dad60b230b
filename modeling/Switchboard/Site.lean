/-
# The site

What sessions share: the disk, a clock, the reports that nobody has taken yet,
and a journal of all that has passed between sessions and their servers: which
servers were started, the messages that they heard, and the frames of theirs that
were read.
-/

import Switchboard.Channel
import Switchboard.Server.Event

namespace Switchboard

/-- Something that passes between a client and its server. -/
inductive Note where
  | started
  | heard (message : Json)
  | read (frame : Json)
  deriving Repr

/-- An entry of the journal: the session, the executable of its server, and what has passed. -/
structure Entry where
  session : SessionId
  program : Path
  note : Note
  deriving Repr

/-- What sessions share; the clock counts milliseconds, and `supervised` says
whether a supervisor is at work.  `stuck` says that somebody waits for room that nobody
makes; then what is being done does not come to an end, and what would follow does
not come about. -/
structure Site where
  disk : Disk
  now : Nat
  supervised : Bool
  events : List ServerEvent
  journal : List Entry
  stuck : Bool

namespace Site

/-- A site where nothing has happened. -/
def ofDisk (d : Disk) : Site := ⟨d, 0, false, [], [], false⟩

/-- Writes a line to a channel. -/
def log (s : Site) (channel : Channel) (level : Level) (message : String) : Site :=
  { s with disk := channel.log s.disk level message }

/-- Writes lines to a channel. -/
def logAll (s : Site) (channel : Channel) (level : Level) (messages : List String) : Site :=
  messages.foldl (fun s m => s.log channel level m) s

/-- Adds a report. -/
def report (s : Site) (e : ServerEvent) : Site := { s with events := s.events ++ [e] }

/-- How many reports are kept for a supervisor. -/
def reportLimit : Nat := 256

/-- Whether a session waits for room to leave a report with the supervisor. -/
def holds (s : Site) (session : SessionId) : Bool :=
  s.supervised && (s.events.drop reportLimit).any fun e => e.session == session

/-- Notes what passes between a session and the server of an executable. -/
def note (s : Site) (session : SessionId) (program : Path) (n : Note) : Site :=
  { s with journal := s.journal ++ [⟨session, program, n⟩] }

/-- What has passed between a session and its servers. -/
def passages (s : Site) (session : SessionId) : List Note :=
  s.journal.filterMap fun e => if e.session = session then some e.note else none

/-- What has passed between any sessions and the servers of an executable. -/
def notesOf (s : Site) (program : Path) : List Note :=
  s.journal.filterMap fun e => if e.program.same program then some e.note else none

/-- Notes that somebody waits for room that nobody makes. -/
def halt (s : Site) : Site := { s with stuck := true }

end Site
end Switchboard
