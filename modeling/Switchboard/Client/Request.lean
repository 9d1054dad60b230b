/-
# Requests and notifications

A request gets the next id and is answered, or it fails: the server is gone
before or after it is sent, writing has ended, or no answer comes in time.
A turn of client and server takes a millisecond, so there are as many of them as
there is patience; without patience no answer comes in time.
-/

import Switchboard.Client.Basic

namespace Switchboard

/-- Why a client cannot do what it is asked to. -/
inductive ClientFault where
  /-- The server of a session is not there any more. -/
  | gone (session : SessionId)
  /-- Writing to the server has ended. -/
  | closed
  /-- The server went away with a request unanswered. -/
  | abandoned (method : String)
  /-- No answer came within this many milliseconds. -/
  | late (method : String) (patience : Nat)
  /-- The server refused, with a message if it gave one. -/
  | refused (what : String) (message : Option String)
  /-- A document is not open in a session. -/
  | notOpen (uri : String) (session : SessionId)
  deriving DecidableEq, Repr

namespace ClientFault

/-- The text that reports a fault. -/
def message : ClientFault → String
  | .gone session => "server for session #" ++ toString session ++ " is no longer running"
  | .closed => "writer channel closed"
  | .abandoned method => "server exited before answering " ++ method
  | .late method patience => method ++ " timed out after " ++ toString patience ++ "ms"
  | .refused what reason => what ++ " failed: " ++ reason.getD "unknown error"
  | .notOpen uri session => uri ++ " is not open in session #" ++ toString session

end ClientFault

namespace Client

/-- Sends a message. -/
def send (c : Client) (s : Site) (m : Json) : Except ClientFault Unit × Client × Site :=
  let (c, s) := c.makeRoom s
  if c.writing then (.ok (), c.push m, s) else (.error .closed, c, s)

/-- Sends a request: its id, and the client that waits for the answer. -/
def ask (c : Client) (s : Site) (method : String) (params : Option Json) :
    Except ClientFault Nat × Client × Site :=
  if c.ended.isSome then (.error (.gone c.session), c, s)
  else
    let id := c.nextId
    let c := { c with nextId := id + 1, receiver := c.receiver.expect id }
    match c.send s (Message.request id method params) with
    | (.ok (), c, s) => (.ok id, c, s)
    | (.error fault, c, s) => (.error fault, { c with receiver := c.receiver.forget id }, s)

/-- The body that was delivered to a request. -/
def answer? (c : Client) (id : Nat) : Option Json := c.delivered.lookup id

/-- Waits for the answer to a request. -/
def await (c : Client) (s : Site) (id : Nat) (method : String) (patience : Nat) :
    Except ClientFault Json × Client × Site :=
  if patience = 0 then
    (.error (.late method patience), { c with receiver := c.receiver.forget id }, s)
  else
    let (c, s) := c.logComplaints s
    let (c, s) := c.takeTurns (fun c => (c.answer? id).isSome) patience s
    match c.answer? id with
    | some body => (.ok body, { c with delivered := c.delivered.filter fun d => d.1 != id }, s)
    | none =>
      let fault := if c.ended.isSome then ClientFault.abandoned method else .late method patience
      (.error fault, { c with receiver := c.receiver.forget id }, s)

/-- Sends a request and waits for its answer. -/
def request (c : Client) (s : Site) (method : String) (params : Option Json) (patience : Nat) :
    Except ClientFault Json × Client × Site :=
  match c.ask s method params with
  | (.error fault, c, s) => (.error fault, c, s)
  | (.ok id, c, s) => c.await s id method patience

/-- The result that a response carries, or the refusal. -/
def resultOf (what : String) (response : Json) : Except ClientFault Json :=
  match response.member? "error" with
  | some error => .error (.refused what ((error.member? "message").bind Json.text?))
  | none => .ok (Json.orNull (response.member? "result"))

end Client
end Switchboard
