/-
# What a server's message is

Messages are told apart by their shape alone: one with an id and a method is a
request, one with a method only a notification, and one with an id and a
result or an error is a response, if the id is one that a client can have
given.  Anything else is nothing.
-/

import Switchboard.Json.Value

namespace Switchboard

/-- A message from a server, by its shape. -/
inductive Incoming where
  | response (id : Nat) (body : Json)
  | request (id : Json) (method : String) (params : Option Json)
  | notification (method : String) (params : Option Json)

namespace Incoming

/-- The shape of a message; none when it has none of the three. -/
def classify (frame : Json) : Option Incoming :=
  let params := frame.member? "params"
  match frame.member? "id", (frame.member? "method").bind Json.text? with
  | some id, some method => some (.request id method params)
  | none, some method => some (.notification method params)
  | some id, none =>
    if (frame.member? "result").isSome || (frame.member? "error").isSome then
      (id.word? 64).map fun n => .response n frame
    else none
  | none, none => none

end Incoming
end Switchboard
