/-
# Scripted servers

A server that follows a table: for each method a list of actions.  A method
without an entry gets the plain answer of a language server: its name and
version to `initialize`, an exit on `exit`, null to any other request, and
nothing to a notification.  What has no method leads to nothing.  The server does one
thing at a time, so it waits while what it has written fills the pipe.
-/

import Switchboard.Server.Behaviour
import Switchboard.Wire.Frame
import Switchboard.Wire.Message

namespace Switchboard

/-- One thing that a scripted server does. -/
inductive Action where
  | result (value : Json)
  | error (value : Json)
  | send (frame : Json)
  | closeInput
  | publish (items : Json)
  | raw (bytes : Bytes)
  | exit

/-- A scripted server. -/
structure Script where
  version : String
  table : List (String × List Action)
  complaints : List String
  lingers : Bool

namespace Script

/-- The id of a message, null when it has none. -/
def idOf (message : Json) : Json := Json.orNull (message.member? "id")

/-- The URI of the document that a message is about. -/
def uriOf (message : Json) : Json :=
  Json.orNull (((message.member? "params").bind (Json.member? "textDocument")).bind
    (Json.member? "uri"))

/-- The frame that publishes diagnostics about a message's document. -/
def publication (message items : Json) : Json :=
  Message.notification "textDocument/publishDiagnostics"
    (some (Json.ofMembers [("uri", uriOf message), ("diagnostics", items)]))

/-- What one action does. -/
def Action.reaction (message : Json) : Action → Reaction
  | .result value => ⟨Frame.write (Message.success (idOf message) value), false, false, false⟩
  | .error value =>
    ⟨Frame.write (Json.ofMembers [Message.version, ("id", idOf message), ("error", value)]),
      false, false, false⟩
  | .send frame => ⟨Frame.write frame, false, false, false⟩
  | .closeInput => ⟨[], true, false, false⟩
  | .publish items => ⟨Frame.write (publication message items), false, false, false⟩
  | .raw bytes => ⟨bytes, false, false, false⟩
  | .exit => ⟨[], false, true, false⟩

/-- What actions in a row do; nothing follows an exit. -/
def run (message : Json) : List Action → Reaction
  | [] => .silent
  | a :: rest =>
    let first := Action.reaction message a
    if first.exits then first
    else
      let after := run message rest
      ⟨first.output ++ after.output, first.stopsReading || after.stopsReading, after.exits, false⟩

/-- The plain actions on a message. -/
def defaults (version : String) (message : Json) : List Action :=
  match (message.member? "method").bind Json.text? with
  | some "initialize" => [.result (Json.ofMembers [
      ("capabilities", Json.ofMembers []),
      ("serverInfo", Json.ofMembers [("name", .str "biome_lsp"), ("version", .str version)])])]
  | some "exit" => [.exit]
  | _ => if (message.member? "id").isSome then [.result .null] else []

/-- The actions of a script on a message. -/
def actions (s : Script) (message : Json) : List Action :=
  match (message.member? "method").bind Json.text? with
  | some method => match s.table.find? fun entry => entry.1 == method with
    | some entry => entry.2
    | none => defaults s.version message
  | none => []

/-- The server that follows a script. -/
def behaviour (s : Script) : Behaviour :=
  ⟨s.complaints, s.lingers, some pipeSize, fun _ message => run message (s.actions message)⟩

end Script
end Switchboard
