/-
# Messages

The JSON-RPC messages that a client writes: requests, notifications and the
answers to a server's own requests, and what the messages about documents
carry.
-/

import Switchboard.Json.Value

namespace Switchboard
namespace Message

/-- The member that every message carries. -/
def version : String × Json := ("jsonrpc", .str "2.0")

/-- The member `params`, left out when there is nothing to carry; a null that
is carried is written. -/
def paramsMember (params : Option Json) : List (String × Json) :=
  match params with
  | some p => [("params", p)]
  | none => []

/-- A request. -/
def request (id : Nat) (method : String) (params : Option Json) : Json :=
  Json.ofMembers ([version, ("id", .ofNat id), ("method", .str method)] ++ paramsMember params)

/-- A notification. -/
def notification (method : String) (params : Option Json) : Json :=
  Json.ofMembers ([version, ("method", .str method)] ++ paramsMember params)

/-- The answer to a request that was served. -/
def success (id result : Json) : Json :=
  Json.ofMembers [version, ("id", id), ("result", result)]

/-- The answer to a request that was not. -/
def failure (id : Json) (code : Int) (message : String) : Json :=
  Json.ofMembers [version, ("id", id),
    ("error", Json.ofMembers [("code", .int code), ("message", .str message)])]

/-- The code of an answer to a request whose method is not known. -/
def methodNotFound : Int := -32601

/-- What `didOpen` carries. -/
def didOpen (uri language : String) (version : Int) (text : String) : Json :=
  Json.ofMembers [("textDocument", Json.ofMembers
    [("uri", .str uri), ("languageId", .str language), ("version", .int version),
      ("text", .str text)])]

/-- What `didChange` carries: the whole text. -/
def didChange (uri : String) (version : Int) (text : String) : Json :=
  Json.ofMembers [
    ("textDocument", Json.ofMembers [("uri", .str uri), ("version", .int version)]),
    ("contentChanges", .arr [Json.ofMembers [("text", .str text)]])]

/-- What `didClose` carries. -/
def didClose (uri : String) : Json :=
  Json.ofMembers [("textDocument", Json.ofMembers [("uri", .str uri)])]

/-- A place in a document. -/
def position (line character : Nat) : Json :=
  Json.ofMembers [("line", .ofNat line), ("character", .ofNat character)]

/-- What a request for code actions of the given kinds carries: the range from
the first character to the start of line `endLine`. -/
def codeAction (uri : String) (endLine : Nat) (only : List String) : Json :=
  Json.ofMembers [
    ("textDocument", Json.ofMembers [("uri", .str uri)]),
    ("range", Json.ofMembers [("start", position 0 0), ("end", position endLine 0)]),
    ("context", Json.ofMembers [("diagnostics", .arr []), ("only", .arr (only.map .str))])]

/-- What a client says it can do. -/
def capabilities : Json :=
  Json.ofMembers [
    ("workspace", Json.ofMembers [
      ("workspaceFolders", .bool true),
      ("configuration", .bool true),
      ("didChangeWatchedFiles", Json.ofMembers [("dynamicRegistration", .bool false)])]),
    ("textDocument", Json.ofMembers [
      ("synchronization", Json.ofMembers [
        ("dynamicRegistration", .bool false), ("willSave", .bool false),
        ("willSaveWaitUntil", .bool false), ("didSave", .bool false)]),
      ("publishDiagnostics", Json.ofMembers [("relatedInformation", .bool false)]),
      ("codeAction", Json.ofMembers [
        ("codeActionLiteralSupport", Json.ofMembers [
          ("codeActionKind", Json.ofMembers [
            ("valueSet", .arr (["quickfix", "source", "source.fixAll",
              "source.organizeImports"].map .str))])])])])]

end Message
end Switchboard
