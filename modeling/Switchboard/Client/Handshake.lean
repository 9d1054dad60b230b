/-
# The handshake

What a client tells a server first.  A session advertises its own projects as
workspace folders, whatever folders the host has, so that the server looks for
configuration in each project.  What has been set before stays, except for the
folders; the rest is filled with defaults.  The server answers with what it can
do and, if it likes, with what it is.
-/

import Switchboard.FileUri.Basic
import Switchboard.Json.Fields
import Switchboard.Wire.Message
import Switchboard.Workspace.Project

namespace Switchboard

/-- A folder as it is advertised. -/
structure WorkspaceFolder where
  uri : String
  name : String
  deriving DecidableEq, Repr

/-- A client's name for itself. -/
structure ClientInfo where
  name : String
  version : Option String
  deriving DecidableEq, Repr

/-- A member of an object, left out when it is not set. -/
def Json.whenSet (name : String) (value : Option Json) : List (String × Json) :=
  match value with
  | some v => [(name, v)]
  | none => []

/-- A folder on the wire. -/
def WorkspaceFolder.toJson (f : WorkspaceFolder) : Json :=
  Json.ofMembers [("uri", .str f.uri), ("name", .str f.name)]

/-- A client's name on the wire. -/
def ClientInfo.toJson (c : ClientInfo) : Json :=
  Json.ofMembers (("name", .str c.name) :: Json.whenSet "version" (c.version.map Json.str))

/-- What a client tells a server first; `capabilities` is null until it is set. -/
structure Handshake where
  processId : Option Nat
  clientInfo : Option ClientInfo
  rootUri : Option String
  capabilities : Json
  workspaceFolders : Option (List WorkspaceFolder)
  options : Option Json
  deriving Repr

namespace Handshake

/-- A handshake in which nothing is set. -/
def blank : Handshake := ⟨none, none, none, .null, none, none⟩

/-- The program's name for itself. -/
def ownInfo : ClientInfo := ⟨"biome-monorepo-lsp", some "0.0.0"⟩

/-- How a directory is advertised; one without a URI is not. -/
def folder? (project : Project) : Option WorkspaceFolder :=
  (FileUri.ofPath? project.path).map fun uri => ⟨uri, project.name⟩

/-- Fills what is not set.  The root is that of the first advertised folder. -/
def withDefaults (processId : Nat) (hostFolders : List Path) (h : Handshake) : Handshake :=
  let folders := h.workspaceFolders.getD (hostFolders.filterMap fun dir => folder? ⟨dir⟩)
  { h with
    processId := some (h.processId.getD processId)
    clientInfo := some (h.clientInfo.getD ownInfo)
    capabilities := if h.capabilities.isNull then Message.capabilities else h.capabilities
    workspaceFolders := some folders
    rootUri := h.rootUri.or (folders.head?.map WorkspaceFolder.uri) }

/-- Fills what is not set, with projects in place of all folders. -/
def forProjects (projects : List Project) (processId : Nat) (hostFolders : List Path)
    (h : Handshake) : Handshake :=
  withDefaults processId hostFolders
    { h with workspaceFolders := some (projects.filterMap folder?) }

/-- A text, or null. -/
def textOrNull (text : Option String) : Json := Json.orNull (text.map Json.str)

/-- A handshake on the wire. -/
def toJson (h : Handshake) : Json :=
  Json.ofMembers ([("processId", Json.orNull (h.processId.map Json.ofNat)),
      ("rootUri", textOrNull h.rootUri), ("capabilities", h.capabilities),
      ("workspaceFolders",
        Json.orNull (h.workspaceFolders.map fun fs => .arr (fs.map WorkspaceFolder.toJson)))] ++
    Json.whenSet "clientInfo" (h.clientInfo.map ClientInfo.toJson) ++
    Json.whenSet "initializationOptions" h.options)

end Handshake

/-- What a server says about itself. -/
structure ServerInfo where
  name : String
  version : Option String
  deriving DecidableEq, Repr

/-- Reads what a server says about itself. -/
def ServerInfo.read? (j : Json) : Option ServerInfo :=
  match j.fields? ["name", "version"] with
  | some [name, version] => do
    some ⟨← Json.needed Json.text? name, ← Json.optional Json.text? version⟩
  | _ => none

/-- A server's answer to the handshake. -/
structure Welcome where
  capabilities : Json
  serverInfo : Option ServerInfo
  deriving Repr, Inhabited

/-- Reads a server's answer to the handshake. -/
def Welcome.read? (j : Json) : Option Welcome :=
  match j.fields? ["capabilities", "serverInfo"] with
  | some [capabilities, info] => do
    some ⟨capabilities.getD .null, ← Json.optional ServerInfo.read? info⟩
  | _ => none

end Switchboard
