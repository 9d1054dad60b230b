/-
# Manifests

Two things are read from a manifest: whether it declares the tool, in one of
the three sections of dependencies, and the version it states.  A section that
is no object declares nothing; one that is repeated makes the manifest
unreadable.  Whatever else a manifest holds only has to follow the grammar.
-/

import Switchboard.Disk.Lookup
import Switchboard.Json.Reader
import Switchboard.Workspace.Installation

namespace Switchboard
namespace Manifest

/-- The package of the tool. -/
def toolPackage : String := "@biomejs/biome"

/-- The sections that declare dependencies, in the order of the record. -/
def sections : List String := ["dependencies", "devDependencies", "peerDependencies"]

/-- Whether the value of a section declares a package. -/
def sectionDeclares (package : String) : Json → Bool
  | .obj members => (Json.lookup package members).isSome
  | _ => false

/-- The value of a section; a missing one is null. -/
def sectionValue? : Option Raw → Option Json
  | none => some .null
  | some raw => Json.ofRaw? (Json.maxDepth - 1) raw

/-- The value of a member, none if there is no such member, and a failure if
there are several. -/
def only? (name : String) (members : List (String × Raw)) : Option (Option Raw) :=
  match members.filter fun m => m.1 == name with
  | [] => some none
  | [m] => some (some m.2)
  | _ => none

/-- The members of a record with their names spelled out. -/
def named? (members : List (Bytes × Raw)) : Option (List (String × Raw)) :=
  members.mapM fun (key, value) => (Raw.spelled? key).map fun k => (k, value)

/-- The values of the sections of a manifest. -/
def sectionValues? : Raw → Option (List Json)
  | .record members =>
    (named? members).bind fun ms => sections.mapM fun name => (only? name ms).bind sectionValue?
  | .list items =>
    if items.length ≤ sections.length then items.mapM fun raw => sectionValue? (some raw) else none
  | _ => none

/-- Whether the text of a manifest declares a package. -/
def declares (content : Bytes) (package : String) : Bool :=
  match (Raw.read? content).bind sectionValues? with
  | some values => values.any (sectionDeclares package)
  | none => false

/-- The project of a manifest that declares the tool. -/
def project? (d : Disk) (manifest : Path) : Option Project :=
  match d.read manifest with
  | .ok content => if declares content toolPackage then Project.ofManifest? manifest else none
  | .error _ => none

/-- The projects among manifests, in their order. -/
def projects (d : Disk) (manifests : List Path) : List Project := manifests.filterMap (project? d)

/-- The version that a manifest states. -/
def versionOf (content : Bytes) : Option String :=
  ((Json.read? content).bind (Json.member? "version")).bind Json.text?

/-- The version of an installation. -/
def version (d : Disk) (manifest : Path) : ToolVersion :=
  match d.read manifest with
  | .ok content => ((versionOf content).map ToolVersion.mk).getD ToolVersion.unknown
  | .error _ => ToolVersion.unknown

end Manifest
end Switchboard
