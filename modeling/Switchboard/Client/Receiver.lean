/-
# Receiving frames

What a client does with a frame from its server.  A response goes to the
request that waits for it, and that request waits no more.  Every request of
the server is answered.  Diagnostics are passed on for files in the client's
scope only: a path is taken without `.` and `..` before it is compared, so a
URI cannot lead out of the scope.
-/

import Switchboard.Channel
import Switchboard.Diagnostic.Decode
import Switchboard.FileUri.Basic
import Switchboard.Path.Lexical
import Switchboard.Server.Event
import Switchboard.Wire.Incoming
import Switchboard.Wire.LogMessage
import Switchboard.Wire.Message
import Switchboard.Workspace.Project

namespace Switchboard

/-- The receiving side of a client: its session, the directories in its scope,
and the requests that wait. -/
structure Receiver where
  session : SessionId
  scope : List Path
  pending : List Nat
  deriving Repr

/-- What a frame leads to. -/
inductive Outcome where
  | delivered (id : Nat) (body : Json)
  | answered (answer : Json)
  | published (event : ServerEvent)
  | logged (level : Level) (message : String)
  | ignored
  deriving Repr

/-- Whether a frame leads to an answer. -/
def Outcome.isAnswered : Outcome → Bool
  | .answered _ => true
  | _ => false

namespace Receiver

/-- The receiving side of a session over some projects, with no request waiting. -/
def ofProjects (session : SessionId) (projects : List Project) : Receiver :=
  ⟨session, projects.map fun p => p.path.normalize, []⟩

/-- Lets a request wait. -/
def expect (r : Receiver) (id : Nat) : Receiver :=
  { r with pending := if id ∈ r.pending then r.pending else r.pending ++ [id] }

/-- Lets a request wait no more. -/
def forget (r : Receiver) (id : Nat) : Receiver :=
  { r with pending := r.pending.filter (· != id) }

/-- The sections of settings that a server asks for. -/
def askedItems (params : Option Json) : List Json :=
  (((params.bind (Json.member? "items")).bind Json.items?)).getD []

/-- The requests of a server that are granted without further ado. -/
def granted : List String :=
  ["client/registerCapability", "client/unregisterCapability", "window/workDoneProgress/create"]

/-- The answer to a request of the server: no settings for each section that it
asks for, a grant, or a refusal. -/
def answerTo (id : Json) (method : String) (params : Option Json) : Json :=
  if method = "workspace/configuration" then
    Message.success id (.arr ((askedItems params).map fun _ => .null))
  else if method ∈ granted then Message.success id .null
  else Message.failure id Message.methodNotFound ("Method not found: " ++ method)

/-- Whether a path lies in the scope. -/
def covers (r : Receiver) (path : Path) : Bool :=
  r.scope.any fun dir => path.normalize.startsWith dir

/-- What a publication leads to. -/
def publish (r : Receiver) (p : Publication) : Outcome :=
  match FileUri.toPath? p.uri with
  | none => .ignored
  | some path =>
    if r.covers path then .published (.diagnostics r.session path p.items)
    else .logged .warn
      ("Dropping diagnostics for " ++ path.display ++ " outside this session's projects")

/-- The level of a log line by its kind on the wire. -/
def levelOf (kind : Nat) : Level :=
  match kind with
  | 1 => .error
  | 2 => .warn
  | 3 => .info
  | _ => .debug

/-- What a notification leads to. -/
def notified (r : Receiver) (method : String) (params : Json) : Outcome :=
  match method with
  | "textDocument/publishDiagnostics" => match Publication.read? params with
    | some p => r.publish p
    | none => .ignored
  | "window/logMessage" | "window/showMessage" => match LogMessage.read? params with
    | some m => .logged (levelOf m.kind) m.message
    | none => .ignored
  | _ => .ignored

/-- Takes in a frame: what it leads to, and the receiving side after it. -/
def handle (r : Receiver) (frame : Json) : Outcome × Receiver :=
  match Incoming.classify frame with
  | some (.response id body) =>
    if id ∈ r.pending then (.delivered id body, r.forget id) else (.ignored, r)
  | some (.request id method params) => (.answered (answerTo id method params), r)
  | some (.notification method (some params)) => (r.notified method params, r)
  | some (.notification _ none) | none => (.ignored, r)

/-- Takes in frames in order: what each of them leads to, and the receiving side
after all of them. -/
def handleAll (r : Receiver) : List Json → List Outcome × Receiver
  | [] => ([], r)
  | frame :: rest =>
    let (first, r) := r.handle frame
    let (others, r) := handleAll r rest
    (first :: others, r)

end Receiver
end Switchboard
