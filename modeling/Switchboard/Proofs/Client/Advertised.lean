/-
# What a server is told of the workspace

A session advertises its own projects and no other folder, so that its server
looks for configuration in each of them.  The defaults are filled in from the
host's folders only where nothing is set, and the projects are set before that:
the host's folders are never looked at, not even when no project can be
advertised and the list of folders is empty (`Handshake.forProjects_spec`).
-/

import Switchboard.Proofs.Path.Uri
import Switchboard.Session.Basic

namespace Switchboard

/-- Whether a project can be advertised. -/
def Project.hasUri (p : Project) : Bool := (FileUri.ofPath? p.path).isSome

/-- A project can be advertised exactly when its path is absolute. -/
theorem Project.hasUri_iff (p : Project) : p.hasUri = true ↔ p.path.isAbsolute = true := by
  constructor
  · intro h
    obtain ⟨uri, huri⟩ := Option.isSome_iff_exists.1 h
    exact FileUri.isAbsolute_of_ofPath? huri
  · exact FileUri.isSome_ofPath?

namespace Handshake

variable {projects : List Project} {processId : Nat} {hosts : List Path} {h : Handshake}

/-- A folder that is advertised for a project: it has the URI of the directory
and its last name, or all of its text if it ends in no name. -/
structure Advertises (p : Project) (f : WorkspaceFolder) : Prop where
  uri_eq : FileUri.ofPath? p.path = some f.uri
  name_eq : f.name = (p.path.fileName.map Utf8.lossy).getD p.path.display

/-- What is set in a handshake is the same in another one.  Null stands for
capabilities that are not set. -/
structure Preserves (h filled : Handshake) : Prop where
  processId : ∀ n, h.processId = some n → filled.processId = some n
  clientInfo : ∀ c, h.clientInfo = some c → filled.clientInfo = some c
  capabilities : h.capabilities.isNull = false → filled.capabilities = h.capabilities
  options : filled.options = h.options

/-- The folder of a project advertises it. -/
theorem advertises_of_folder? {p : Project} {f : WorkspaceFolder} (hf : folder? p = some f) :
    Advertises p f := by
  obtain ⟨uri, huri, rfl⟩ := Option.map_eq_some_iff.1 hf
  refine ⟨huri, ?_⟩
  change p.name = _
  unfold Project.name
  cases p.path.fileName with
  | none => rfl
  | some bytes => rfl

/-- A project has a folder exactly if it has a URI. -/
theorem isSome_folder? (p : Project) : (folder? p).isSome = p.hasUri := Option.isSome_map

/-- The projects that have a URI are advertised one for one. -/
theorem forall₂_folders (projects : List Project) :
    List.Forall₂ Advertises (projects.filter Project.hasUri) (projects.filterMap folder?) := by
  induction projects with
  | nil => exact .nil
  | cons p projects ih =>
    have hsome := isSome_folder? p
    cases hf : folder? p with
    | none =>
      rw [hf] at hsome
      rw [List.filter_cons_of_neg (by rw [← hsome]; decide), List.filterMap_cons_none hf]
      exact ih
    | some f =>
      rw [hf] at hsome
      rw [List.filter_cons_of_pos hsome.symm, List.filterMap_cons_some hf]
      exact .cons (advertises_of_folder? hf) ih

/-- The workspace folders are those of the projects, whatever the host has. -/
theorem workspaceFolders_forProjects :
    (forProjects projects processId hosts h).workspaceFolders =
      some (projects.filterMap folder?) := rfl

/-- The root is that of the host, or the first of the folders. -/
theorem rootUri_forProjects :
    (forProjects projects processId hosts h).rootUri =
      h.rootUri.or ((projects.filterMap folder?).head?.map WorkspaceFolder.uri) := rfl

/-- Projects are set before the defaults are filled in, so that the host's
folders are not looked at. -/
theorem forProjects_hosts (hosts hosts' : List Path) :
    forProjects projects processId hosts h = forProjects projects processId hosts' h := rfl

/-- The capabilities that are filled in count as set. -/
theorem isNull_capabilities_forProjects :
    (forProjects projects processId hosts h).capabilities.isNull = false := by
  change (if h.capabilities.isNull then Message.capabilities else h.capabilities).isNull = false
  split
  · rfl
  next hset => exact Bool.eq_false_iff.2 hset

/-- Nothing else of the handshake is changed. -/
theorem preserves_forProjects : Preserves h (forProjects projects processId hosts h) := by
  refine ⟨fun n hn => ?_, fun c hc => ?_, fun hset => ?_, rfl⟩
  · change some (h.processId.getD processId) = some n
    rw [hn, Option.getD_some]
  · change some (h.clientInfo.getD ownInfo) = some c
    rw [hc, Option.getD_some]
  · change (if h.capabilities.isNull then _ else _) = _
    rw [hset, if_neg Bool.false_ne_true]

/-- Filling finds everything set the second time. -/
theorem forProjects_forProjects (hosts' : List Path) :
    forProjects projects processId hosts' (forProjects projects processId hosts h) =
      forProjects projects processId hosts h := by
  have hcapabilities : (forProjects projects processId hosts'
      (forProjects projects processId hosts h)).capabilities =
        (forProjects projects processId hosts h).capabilities :=
    preserves_forProjects.capabilities isNull_capabilities_forProjects
  have hroot : (forProjects projects processId hosts'
      (forProjects projects processId hosts h)).rootUri =
        (forProjects projects processId hosts h).rootUri := by
    rw [rootUri_forProjects, rootUri_forProjects, Option.or_assoc, Option.or_self]
  exact congrArg₂ (fun capabilities rootUri =>
    { forProjects projects processId hosts h with capabilities, rootUri }) hcapabilities hroot

/-- **The folders of the host never reach a server.**  Whatever is set before
and whatever folders the host has, the handshake of some projects is the same.
It advertises exactly the projects that have a URI, in order; those are the
ones with an absolute path.  Its root is the one that was set, or else the first
folder that is advertised, and there is none if nothing is advertised.  What else
was set stays, and filling in again changes nothing.  So a session starts its
server in one way only, whatever folders the host has. -/
theorem forProjects_spec (projects : List Project) (processId : Nat) (hosts hosts' : List Path)
    (h : Handshake) :
    let filled := forProjects projects processId hosts h
    forProjects projects processId hosts' h = filled ∧
      (∃ folders, filled.workspaceFolders = some folders ∧
        List.Forall₂ Advertises (projects.filter Project.hasUri) folders ∧
        filled.rootUri = h.rootUri.or (folders.head?.map WorkspaceFolder.uri)) ∧
      (∀ p ∈ projects, p.hasUri = true ↔ p.path.isAbsolute = true) ∧
      Preserves h filled ∧
      forProjects projects processId hosts' filled = filled ∧
      ∀ (x : Session) (s : Site) (ctx : SessionContext),
        x.start s { ctx with hostFolders := hosts } =
          x.start s { ctx with hostFolders := hosts' } := by
  intro filled
  refine ⟨forProjects_hosts hosts' hosts, ⟨_, workspaceFolders_forProjects,
    forall₂_folders projects, rootUri_forProjects⟩, fun p _ => p.hasUri_iff,
    preserves_forProjects, forProjects_forProjects hosts', fun x s ctx => ?_⟩
  have hgreeting : ∀ y : Session, y.handshake { ctx with hostFolders := hosts } =
      y.handshake { ctx with hostFolders := hosts' } := fun y => forProjects_hosts hosts hosts'
  unfold Session.start Session.beginStart Session.launch
  simp only [hgreeting]
  rfl

end Handshake
end Switchboard
