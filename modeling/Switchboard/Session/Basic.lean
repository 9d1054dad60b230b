/-
# Sessions

A session serves the projects of one installation.  It is started with the
executable of that installation and, while it runs, holds the client that
talks to the server and the selector of the files it serves.  Starting and
stopping each have two halves, so that many sessions can start or stop side by
side: the first half does all that needs no waiting.
-/

import Switchboard.Client.Life
import Switchboard.Session.Selector
import Switchboard.Workspace.Installation

namespace Switchboard

/-- What sessions are started with; the timeouts are in seconds. -/
structure SessionContext where
  logDir : Option Path
  initTimeout : Nat
  shutdownTimeout : Nat
  hostFolders : List Path
  processId : Nat
  deriving Repr

/-- Why a session cannot do what it is asked to. -/
inductive SessionFault where
  /-- A project cannot be made into a pattern. -/
  | selector (error : Glob.Error)
  /-- The executable cannot be started. -/
  | spawn (binary : Path) (fault : DiskFault)
  /-- The handshake fails. -/
  | handshake (binary : Path) (fault : ClientFault)
  /-- A path has no URI. -/
  | noUri (path : Path)
  | notRunning (session : SessionId)
  | client (fault : ClientFault)

namespace SessionFault

/-- What is being done when an executable is started. -/
def starting (binary : Path) : String := "starting " ++ binary.display ++ " lsp-proxy: "

/-- The text that reports a fault. -/
def message : SessionFault → String
  | .selector error => "building document selector: " ++ error.message
  | .spawn binary fault =>
    starting binary ++ "spawning " ++ binary.display ++ ": " ++ fault.message
  | .handshake binary fault => starting binary ++ fault.message
  | .noUri path => "cannot convert path to file URI: " ++ path.display
  | .notRunning session => "session #" ++ toString session ++ " is not running"
  | .client fault => fault.message

end SessionFault

/-- What a session holds while it runs. -/
structure Connection where
  selector : Selector
  client : Client

/-- A session; its channel is there from the first start on. -/
structure Session where
  id : SessionId
  version : ToolVersion
  binary : Path
  projects : List Project
  channel : Option Channel
  connection : Option Connection

namespace Session

/-- The session of a plan. -/
def ofPlan (id : SessionId) (p : Plan) : Session :=
  ⟨id, p.version, p.binary, p.projects, none, none⟩

/-- Whether a session runs. -/
def isRunning (x : Session) : Bool := x.connection.isSome

/-- The name of a session's channel. -/
def channelName (x : Session) : String := "Biome (" ++ x.version.text ++ ") - LSP"

/-- The client of a session that runs. -/
def client? (x : Session) : Option Client := x.connection.map Connection.client

/-- The session with another client. -/
def withClient (x : Session) (c : Client) : Session :=
  { x with connection := x.connection.map fun connection => { connection with client := c } }

/-- The version that the server of a session reports. -/
def serverVersion (x : Session) : Option String :=
  (x.client?.bind Client.serverInfo).bind ServerInfo.version

/-- Whether a session serves a file. -/
def isMatch (x : Session) (language : String) (path : Path) : Bool :=
  match x.connection with
  | some connection => connection.selector.isMatch language path
  | none => false

/-- Whether a session has a document open. -/
def hasOpen (x : Session) (path : Path) : Bool :=
  match x.client?, FileUri.ofPath? path with
  | some c, some uri => c.documents.isOpen uri
  | _, _ => false

/-! ### Starting -/

/-- The channel of a session, opened if there is none. -/
def openChannel (x : Session) (s : Site) (ctx : SessionContext) : Channel × Site :=
  match x.channel with
  | some channel => (channel, s)
  | none =>
    let (channel, disk) := Channel.make s.disk x.channelName ctx.logDir
    (channel, { s with disk })

/-- What a session tells its server first. -/
def handshake (x : Session) (ctx : SessionContext) : Handshake :=
  Handshake.blank.forProjects x.projects ctx.processId ctx.hostFolders

/-- The line that is logged when a session starts. -/
def startLine (x : Session) : String :=
  "Starting " ++ x.channelName ++ " from " ++ x.binary.display ++ " for " ++
    ", ".intercalate (x.projects.map Project.display)

/-- A start that has failed: the fault, and the client that is dropped, if there is one. -/
structure FailedStart where
  fault : SessionFault
  client : Option Client

/-- What a start has come to after its first half: the selector, the client, and
the id of its greeting. -/
abbrev Greeted := Selector × Client × Nat

/-- Starts the server of a session and greets it. -/
def launch (x : Session) (s : Site) (ctx : SessionContext) (channel : Channel) :
    Except FailedStart Greeted × Site :=
  match Selector.ofProjects x.projects with
  | .error e => (.error ⟨.selector e, none⟩, s)
  | .ok selector =>
    let s := s.log channel .info x.startLine
    match Client.spawn s (.ofProjects x.id x.projects) channel x.binary
        (ctx.initTimeout * 1000) (ctx.shutdownTimeout * 1000) with
    | .error fault => (.error ⟨.spawn x.binary fault, none⟩, s)
    | .ok (c, s) => match c.greet s (x.handshake ctx) with
      | (.error fault, c, s) => (.error ⟨.handshake x.binary fault, some c⟩, s)
      | (.ok id, c, s) => (.ok (selector, c, id), s)

/-- Waits for the server of a session to welcome its client. -/
def connect (x : Session) (s : Site) : Greeted → Except FailedStart Connection × Site
  | (selector, c, id) => match c.complete s id with
    | (.error fault, c, s) => (.error ⟨.handshake x.binary fault, some c⟩, s)
    | (.ok (), c, s) => (.ok ⟨selector, c⟩, s)

/-- The line that is logged when a session cannot be started. -/
def failureLine (x : Session) (fault : SessionFault) : String :=
  "Failed to start session #" ++ toString x.id ++ ": " ++ fault.message

/-- Logs that a session cannot be started, and drops its client. -/
def giveUp (x : Session) (s : Site) (channel : Channel) (failed : FailedStart) : Site :=
  let s := s.log channel .error (x.failureLine failed.fault)
  match failed.client with
  | some c => c.drop s
  | none => s

/-- The line that is logged when a server is ready. -/
def readyLine (c : Client) : String :=
  "Server ready, reports version " ++
    ((c.serverInfo.bind ServerInfo.version).getD "unknown")

/-- A start that has not come to its end, or that has failed. -/
structure Starting where
  session : Session
  channel : Channel
  progress : Except SessionFault Greeted

/-- The first half of a start. -/
def beginStart (x : Session) (s : Site) (ctx : SessionContext) : Starting × Site :=
  let (channel, s) := x.openChannel s ctx
  let x := { x with channel := some channel }
  match x.launch s ctx channel with
  | (.error failed, s) => (⟨x, channel, .error failed.fault⟩, x.giveUp s channel failed)
  | (.ok greeted, s) => (⟨x, channel, .ok greeted⟩, s)

/-- The second half of a start. -/
def Starting.finish (p : Starting) (s : Site) : Except SessionFault Unit × Session × Site :=
  match p.progress with
  | .error fault => (.error fault, p.session, s)
  | .ok greeted => match p.session.connect s greeted with
    | (.error failed, s) => (.error failed.fault, p.session, p.session.giveUp s p.channel failed)
    | (.ok connection, s) =>
      (.ok (), { p.session with connection := some connection },
        s.log p.channel .info (readyLine connection.client))

/-- Starts a session; one that runs already is left as it is. -/
def start (x : Session) (s : Site) (ctx : SessionContext) :
    Except SessionFault Unit × Session × Site :=
  if x.isRunning then (.ok (), x, s)
  else
    let (p, s) := x.beginStart s ctx
    p.finish s

/-! ### Stopping -/

/-- A session that stops, and the client whose server has not exited. -/
structure Stopping where
  session : Session
  lingering : Option Client

/-- Logs that the server of a session has stopped. -/
def logStopped (x : Session) (s : Site) : Site :=
  match x.channel with
  | some channel => s.log channel .info "Server stopped"
  | none => s

/-- The first half of a stop. -/
def beginStop (x : Session) (s : Site) : Stopping × Site :=
  match x.connection with
  | none => (⟨x, none⟩, s)
  | some connection =>
    let x := { x with connection := none }
    let (c, s) := connection.client.leave s
    if c.hasExited connection.client.process.alive then (⟨x, none⟩, x.logStopped s)
    else (⟨x, some c⟩, s)

/-- The second half of a stop. -/
def Stopping.finish (p : Stopping) (s : Site) : Session × Site :=
  match p.lingering with
  | none => (p.session, s)
  | some c => (p.session, p.session.logStopped (s.log c.channel .debug Client.killLine))

/-- Stops a session. -/
def stop (x : Session) (s : Site) : Session × Site :=
  let (p, s) := x.beginStop s
  p.finish s

/-! ### Documents -/

/-- Takes in the text of a document. -/
def sync (x : Session) (s : Site) (path : Path) (language text : String) :
    Except SessionFault Unit × Session × Site :=
  match FileUri.ofPath? path with
  | none => (.error (.noUri path), x, s)
  | some uri => match x.client? with
    | none => (.error (.notRunning x.id), x, s)
    | some c =>
      let (r, c, s) := c.sync s uri language text
      (r.mapError .client, x.withClient c, s)

/-- Closes a document. -/
def close (x : Session) (s : Site) (path : Path) : Except SessionFault Unit × Session × Site :=
  match FileUri.ofPath? path with
  | none => (.error (.noUri path), x, s)
  | some uri => match x.client? with
    | none => (.error (.notRunning x.id), x, s)
    | some c =>
      let (r, c, s) := c.close s uri
      (r.mapError .client, x.withClient c, s)

/-- Asks for code actions of some kinds over all of a document. -/
def codeActions (x : Session) (s : Site) (path : Path) (only : List String) :
    Except SessionFault Json × Session × Site :=
  match FileUri.ofPath? path with
  | none => (.error (.noUri path), x, s)
  | some uri => match x.client? with
    | none => (.error (.notRunning x.id), x, s)
    | some c =>
      let (r, c, s) := c.codeActions s uri only
      (r.mapError .client, x.withClient c, s)

/-- Lets everything happen that can happen without anyone waiting for more. -/
def settle (x : Session) (s : Site) : Session × Site :=
  match x.client? with
  | some c =>
    let (c, s) := c.settle s
    (x.withClient c, s)
  | none => (x, s)

end Session
end Switchboard
