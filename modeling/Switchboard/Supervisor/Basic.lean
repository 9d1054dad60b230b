/-
# The supervisor

The supervisor owns the sessions.  It knows which session serves which open
document, what all sessions have to say about files, and what waits to be
handled: events in its queue, and reports of sessions at its site.  One site
has one supervisor at a time.
-/

import Switchboard.Session.Basic
import Switchboard.Settings
import Switchboard.Supervisor.Event
import Switchboard.Supervisor.Host
import Switchboard.Supervisor.Watch

namespace Switchboard

/-- Where the supervisor is in its life. -/
inductive Phase where
  | stopped
  | starting
  | running
  | stopping
  deriving DecidableEq, Repr

/-- The name of a phase. -/
def Phase.label : Phase → String
  | .stopped => "Stopped"
  | .starting => "Starting"
  | .running => "Running"
  | .stopping => "Stopping"

/-- A session that could not be started. -/
structure StartFailure where
  version : ToolVersion
  binary : Path
  error : String
  deriving DecidableEq, Repr

/-- How many sessions a start has started, and which it could not. -/
structure StartReport where
  started : Nat
  failures : List StartFailure
  deriving DecidableEq, Repr

/-- The report of a start that did nothing. -/
def StartReport.nothing : StartReport := ⟨0, []⟩

/-- The supervisor.  `nextSession` is the identity of the next session; none is
given twice.  `calls` is all that the host has been told. -/
structure Supervisor where
  settings : Settings
  folders : List Path
  logDir : Option Path
  processId : Nat
  channel : Channel
  phase : Phase
  sessions : List Session
  watch : Option Watch
  store : Store
  documents : List (Path × SessionId)
  restarts : Nat
  nextSession : SessionId
  queue : List Event
  calls : List HostCall
  site : Site

namespace Supervisor

/-- A site that has a supervisor cannot have another one. -/
inductive AlreadyRunning where
  | mk
  deriving DecidableEq, Repr

/-- The text that reports that a site has a supervisor. -/
def AlreadyRunning.message (_ : AlreadyRunning) : String :=
  "another orchestrator is already running in this process"

/-- A supervisor at a site that has none. -/
def make (settings : Settings) (folders : List Path) (logDir : Option Path) (processId : Nat)
    (site : Site) : Except AlreadyRunning Supervisor :=
  if site.supervised then .error .mk
  else
    let (channel, disk) := Channel.make site.disk Glyph.extensionName logDir
    .ok { settings, folders, logDir, processId, channel, phase := .stopped, sessions := [],
          watch := none, store := .empty, documents := [], restarts := 0, nextSession := 1,
          queue := [], calls := [], site := { site with disk, supervised := true } }

/-- Writes a line to the supervisor's log. -/
def log (s : Supervisor) (level : Level) (message : String) : Supervisor :=
  { s with site := s.site.log s.channel level message }

/-- Tells the host something. -/
def tell (s : Supervisor) (call : HostCall) : Supervisor := { s with calls := s.calls ++ [call] }

/-- Adds an event to the queue. -/
def enqueue (s : Supervisor) (e : Event) : Supervisor := { s with queue := s.queue ++ [e] }

/-- The diagnostics of all sessions. -/
def snapshot (s : Supervisor) : Snapshot := s.store.snapshot

/-- The session with an identity. -/
def session? (s : Supervisor) (id : SessionId) : Option Session :=
  s.sessions.find? fun x => x.id == id

/-- The sessions with one of them replaced. -/
def putSession (s : Supervisor) (x : Session) : Supervisor :=
  { s with sessions := s.sessions.map fun y => if y.id == x.id then x else y }

/-- The session that serves an open document, by its identity. -/
def ownerOf? (s : Supervisor) (path : Path) : Option SessionId :=
  (s.documents.find? fun entry => entry.1.same path).map Prod.snd

/-- The session that serves an open document. -/
def sessionFor? (s : Supervisor) (path : Path) : Option Session :=
  (s.ownerOf? path).bind s.session?

/-- Documents with the owner of one set. -/
def setOwner (path : Path) (id : SessionId) : List (Path × SessionId) → List (Path × SessionId)
  | [] => [(path, id)]
  | (p, old) :: rest =>
    if p.same path then (p, id) :: rest else (p, old) :: setOwner path id rest

/-- Lets everything happen in sessions that can happen without anyone waiting for more. -/
def settleSessions : List Session → Site → List Session × Site
  | [], site => ([], site)
  | x :: rest, site =>
    let (x, site) := x.settle site
    let (rest, site) := settleSessions rest site
    (x :: rest, site)

/-- Lets everything happen that can happen without anyone waiting for more. -/
def settle (s : Supervisor) : Supervisor :=
  let (sessions, site) := settleSessions s.sessions s.site
  { s with sessions, site }

/-- The description of a supervisor. -/
def describe (s : Supervisor) : String :=
  "Orchestrator \x7b state: " ++ s.phase.label ++
    ", folders: " ++ Session.bracketed (s.folders.map Quoted.path) ++
    ", sessions: " ++ Session.bracketed (s.sessions.map Session.describe) ++ ", .. \x7d"

end Supervisor
end Switchboard
