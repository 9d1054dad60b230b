/-
# What a server can report on

A server chooses the URIs that it publishes diagnostics for, and separators and
dots that are spelled with escapes come to light only in the path that a URI
names.  That path is what counts: diagnostics are passed on exactly when it
leads to one of the session's projects or below, without climbing above the
root on its way (`Receiver.published_in_scope`).
-/

import Switchboard.Proofs.Client.Reports
import Switchboard.Proofs.Client.Shapes
import Switchboard.Proofs.Json.Members
import Switchboard.Proofs.Path.Lexical

namespace Switchboard
namespace Receiver

variable {r : Receiver} {frame : Json}

/-- Whether a frame publishes diagnostics of the file that a URI names. -/
def Publishes (frame : Json) (p : Publication) : Prop :=
  ∃ params, Incoming.classify frame =
      some (.notification "textDocument/publishDiagnostics" (some params)) ∧
    Publication.read? params = some p

/-- Whether a path leads to a project or below it, without leaving the root on its way. -/
def LeadsInto (path : Path) (projects : List Project) : Prop :=
  path.isAbsolute = true ∧ path.StaysInside ∧ ∃ p ∈ projects, p.path.trail <+: path.trail

instance (path : Path) (projects : List Project) : Decidable (LeadsInto path projects) :=
  inferInstanceAs (Decidable (_ ∧ _ ∧ ∃ p ∈ _, _))

/-- Exactly a publication for a path that is covered leads to a report. -/
theorem handle_published_iff {e : ServerEvent} :
    (r.handle frame).1 = .published e ↔ ∃ p path, Publishes frame p ∧
      FileUri.toPath? p.uri = some path ∧ r.covers path = true ∧
      e = .diagnostics r.session path p.items := by
  constructor
  · intro h
    unfold handle at h
    split at h
    · split at h <;> exact absurd h (by simp)
    · exact absurd h (by simp)
    next method params hclass =>
      unfold notified at h
      split at h
      · split at h
        next p hread =>
          unfold publish at h
          split at h
          · exact absurd h (by simp)
          next path hpath =>
            split at h
            next hcovers =>
              obtain rfl := Outcome.published.inj h
              exact ⟨p, path, ⟨params, hclass, hread⟩, hpath, hcovers, rfl⟩
            · exact absurd h (by simp)
        · exact absurd h (by simp)
      · split at h <;> exact absurd h (by simp)
      · split at h <;> exact absurd h (by simp)
      · exact absurd h (by simp)
    · exact absurd h (by simp)
    · exact absurd h (by simp)
  · rintro ⟨p, path, ⟨params, hclass, hread⟩, hpath, hcovers, rfl⟩
    rw [handle, hclass]
    simp only [notified, hread, publish, hpath, hcovers, if_true]

/-- The reports of some frames are the reports of each. -/
theorem published_mem_handleAll_iff {frames : List Json} {e : ServerEvent} :
    .published e ∈ (r.handleAll frames).1 ↔ ∃ frame ∈ frames, ∃ p path, Publishes frame p ∧
      FileUri.toPath? p.uri = some path ∧ r.covers path = true ∧
      e = .diagnostics r.session path p.items := by
  induction frames generalizing r with
  | nil => simp [handleAll]
  | cons frame frames ih =>
    obtain ⟨hsession, hscope⟩ := handle_scope r frame
    have hcovers : ∀ path, (r.handle frame).2.covers path = r.covers path := fun path => by
      rw [covers, covers, hscope]
    simp only [handleAll, List.mem_cons, ih, hsession, hcovers, exists_eq_or_imp]
    rw [eq_comm, handle_published_iff]

/-- A receiver covers a path if that leads into one of its projects. -/
theorem covers_iff {session : SessionId} {projects : List Project} {path : Path}
    (h : ∀ p ∈ projects, p.path.isAbsolute = true ∧ p.path.StaysInside) :
    (ofProjects session projects).covers path = true ↔ LeadsInto path projects := by
  have hcovers : (ofProjects session projects).covers path = true ↔
      ∃ p ∈ projects, path.normalize.startsWith p.path.normalize = true := by
    simp [covers, ofProjects]
  rw [hcovers]
  constructor
  · rintro ⟨p, hp, hcovered⟩
    obtain ⟨habs, hinside⟩ := h p hp
    obtain ⟨hpath, hstays, htrail⟩ := (Path.startsWith_normalize_iff habs hinside).1 hcovered
    exact ⟨hpath, hstays, p, hp, htrail⟩
  · rintro ⟨hpath, hstays, p, hp, htrail⟩
    obtain ⟨habs, hinside⟩ := h p hp
    exact ⟨p, hp, (Path.startsWith_normalize_iff habs hinside).2 ⟨hpath, hstays, htrail⟩⟩

/-- **Diagnostics are passed on exactly of files in the session's projects**,
whatever frames a server sends: of a path that a URI names, all escapes decoded,
it counts where it leads. -/
theorem published_in_scope (session : SessionId) {projects : List Project}
    (h : ∀ p ∈ projects, p.path.isAbsolute = true ∧ p.path.StaysInside) (frames : List Json)
    (e : ServerEvent) :
    .published e ∈ ((ofProjects session projects).handleAll frames).1 ↔
      ∃ frame ∈ frames, ∃ p path, Publishes frame p ∧ FileUri.toPath? p.uri = some path ∧
        LeadsInto path projects ∧ e = .diagnostics session path p.items := by
  rw [published_mem_handleAll_iff]
  simp only [covers_iff h]
  rfl

/-- The parameters of a publication of no diagnostics for a URI. -/
def clearingParams (uri : String) : Json :=
  Json.ofMembers [("uri", .str uri), ("diagnostics", .arr [])]

/-- The publication of no diagnostics for a URI. -/
def clearing (uri : String) : Json :=
  Message.notification "textDocument/publishDiagnostics" (some (clearingParams uri))

/-- A message that clears a file publishes no diagnostics for it. -/
theorem publishes_clearing (uri : String) : Publishes (clearing uri) ⟨uri, []⟩ := by
  refine ⟨clearingParams uri, ?_, ?_⟩
  · exact Incoming.classify_notification ..
  · simp [clearingParams, Publication.read?, Json.fields?_ofMembers, Json.member?_ofMembers,
      Json.needed, Json.text?, Json.listOf]

/-- Of two URIs with escaped separators, one leads out of the project and one stays in it. -/
theorem published_in_scope_escaped :
    (∀ p ∈ [Project.mk (.ofText "/w")], p.path.isAbsolute = true ∧ p.path.StaysInside) ∧
      FileUri.toPath? "file:///w/..%2F..%2Fetc/a.ts" = some (.ofText "/w/../../etc/a.ts") ∧
      .published (.diagnostics 1 (.ofText "/w/../../etc/a.ts") []) ∉
        ((ofProjects 1 [⟨.ofText "/w"⟩]).handleAll
          [clearing "file:///w/..%2F..%2Fetc/a.ts", clearing "file:///w/b/..%2Fa.ts"]).1 ∧
      .published (.diagnostics 1 (.ofText "/w/b/../a.ts") []) ∈
        ((ofProjects 1 [⟨.ofText "/w"⟩]).handleAll
          [clearing "file:///w/..%2F..%2Fetc/a.ts", clearing "file:///w/b/..%2Fa.ts"]).1 := by
  have hprojects : ∀ p ∈ [Project.mk (.ofText "/w")],
      p.path.isAbsolute = true ∧ p.path.StaysInside := by decide
  refine ⟨hprojects, by decide +kernel, fun h => ?_, ?_⟩
  · obtain ⟨_, _, _, path, _, _, hinto, heq⟩ := (published_in_scope 1 hprojects _ _).1 h
    obtain ⟨-, rfl, -⟩ := ServerEvent.diagnostics.inj heq
    exact absurd hinto (by decide +kernel)
  · refine (published_in_scope 1 hprojects _ _).2
      ⟨_, List.mem_cons_of_mem _ (List.mem_cons_self ..),
      _, .ofText "/w/b/../a.ts", publishes_clearing _, by decide +kernel, by decide +kernel, rfl⟩

end Receiver
end Switchboard
