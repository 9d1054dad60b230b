/-
# The life of a client

A client starts its server, greets it and waits to be welcomed; then documents
are kept in step and code actions are asked for; at last the server is asked to
shut down and to exit, its input is closed, and it is killed if it stays.  The
time that a server may take over this is bounded, but not how long the client waits
for room to say it.  A client whose handshake fails is dropped, and its server with it.
-/

import Switchboard.Client.Handshake
import Switchboard.Client.Request

namespace Switchboard
namespace Client

/-- The client of a server that has just been started. -/
def ofProcess (receiver : Receiver) (channel : Channel) (process : Process)
    (patience stopPatience : Nat) : Client :=
  { receiver, channel, process, complaints := process.behaviour.complaints, outbox := [],
    writing := true, unread := [], ended := none, nextId := 1, delivered := [],
    documents := .empty, welcome := none, patience, stopPatience }

/-- Starts the server of an executable. -/
def spawn (s : Site) (receiver : Receiver) (channel : Channel) (binary : Path)
    (patience stopPatience : Nat) : Except DiskFault (Client × Site) :=
  (s.disk.program binary).map fun behaviour =>
    let program := (s.disk.canonical binary).toOption.getD binary
    (ofProcess receiver channel (.start program behaviour) patience stopPatience,
      s.note receiver.session program .started)

/-- The line that tells which folders are advertised. -/
def advertised (h : Handshake) : String :=
  "Advertising workspace folders: " ++
    ", ".intercalate ((h.workspaceFolders.getD []).map WorkspaceFolder.name)

/-- Greets the server: the id of the greeting, and the client that waits for the answer. -/
def greet (c : Client) (s : Site) (h : Handshake) : Except ClientFault Nat × Client × Site :=
  c.ask (s.log c.channel .debug (advertised h)) "initialize" (some h.toJson)

/-- The notification that follows the handshake. -/
def greeted : Json := Message.notification "initialized" (some (Json.ofMembers []))

/-- Waits to be welcomed. -/
def complete (c : Client) (s : Site) (id : Nat) : Except ClientFault Unit × Client × Site :=
  match c.await s id "initialize" c.patience with
  | (.error fault, c, s) => (.error fault, c, s)
  | (.ok response, c, s) => match resultOf "initialize" response with
    | .error fault => (.error fault, c, s)
    | .ok result => { c with welcome := Welcome.read? result }.send s greeted

/-- Drops a client whose handshake has failed.  What it has not written is lost, and its
reports line up behind the others, whether there is room or not, for it does nothing else any
more. -/
def drop (c : Client) (s : Site) : Site :=
  let (_, after) := { c with process := c.process.kill, writing := false, outbox := [] }.read
    { s with supervised := false }
  { after with supervised := s.supervised }

/-- What the server says about itself. -/
def serverInfo (c : Client) : Option ServerInfo := c.welcome.bind Welcome.serverInfo

/-- Takes in the text of a document. -/
def sync (c : Client) (s : Site) (uri language text : String) :
    Except ClientFault Unit × Client × Site :=
  let (m, documents) := c.documents.sync uri language text
  { c with documents }.send s m

/-- Closes a document. -/
def close (c : Client) (s : Site) (uri : String) : Except ClientFault Unit × Client × Site :=
  match c.documents.close uri with
  | (none, _) => (.ok (), c, s)
  | (some m, documents) => { c with documents }.send s m

/-- Asks for the code actions of some kinds over all of a document. -/
def codeActions (c : Client) (s : Site) (uri : String) (only : List String) :
    Except ClientFault Json × Client × Site :=
  match c.documents.find? uri with
  | none => (.error (.notOpen uri c.session), c, s)
  | some doc =>
    let params := Message.codeAction uri doc.lines only
    match c.request s "textDocument/codeAction" (some params) c.patience with
    | (.error fault, c, s) => (.error fault, c, s)
    | (.ok response, c, s) => (resultOf "codeAction" response, c, s)

/-- Asks the server to shut down and, if it agrees, to exit. -/
def sayGoodbye (c : Client) (s : Site) : Client × Site :=
  if c.process.alive then
    match c.request s "shutdown" none c.stopPatience with
    | (.error _, c, s) => (c, s)
    | (.ok response, c, s) =>
      if (response.member? "error").isNone then (c.send s (Message.notification "exit" none)).2
      else (c, s)
  else (c, s)

/-- Says goodbye and, once all is written, ends writing and closes the server's input.  The
word to end writing waits for room like a message. -/
def leave (c : Client) (s : Site) : Client × Site :=
  let (c, s) := c.sayGoodbye s
  let (c, s) := c.makeRoom s
  let (c, s) := c.flush s
  if c.outbox.isEmpty then
    { c with process := c.process.closeInput c.backlog, writing := false }.read s
  else c.read s

/-- Whether a server that was left has exited in time. -/
def hasExited (wasAlive : Bool) (c : Client) : Bool :=
  !c.process.alive && (!wasAlive || c.stopPatience != 0)

/-- The line that is logged when a server stays. -/
def killLine : String := "Server didn't exit in time, killing"

end Client
end Switchboard
