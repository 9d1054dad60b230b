/-
# Diagnostics of what has been opened

A session tells its server of a document by the URI of the document's path, and
what the server then publishes for that URI is reported for that path, each
diagnostic in its place (`Supervisor.diagnostics_return`).  Two things make it so.
The URI is read back to the path (`FileUri.toPath?_ofPath?`), and a path without
`..` that begins like that of a project leads into the project
(`Receiver.leadsInto_of_startsWith`), so it is in the scope that the session's
client has been given (`Heard.own`).
-/

import Switchboard.Proofs.Client.Scope
import Switchboard.Proofs.Path.RoundTrip
import Switchboard.Proofs.Supervisor.Restarts
import Switchboard.Proofs.Wire.RoundTrip

namespace Switchboard

/-! ### Publications for a URI -/

namespace Receiver

variable {r : Receiver} {frame : Json} {uri : String} {ds : List Json} {path q : Path}
  {projects : List Project}

/-- Whether a frame publishes these diagnostics for a URI, and all of them can be read. -/
def PublishesFor (frame : Json) (uri : String) (ds : List Json) : Prop :=
  ∃ params, Incoming.classify frame =
      some (.notification "textDocument/publishDiagnostics" (some params)) ∧
    params.fields? ["uri", "diagnostics"] = some [some (.str uri), some (.arr ds)] ∧
    ∀ d ∈ ds, (Diagnostic.read? d).isSome = true

/-- Items that can all be read are read one for one. -/
theorem exists_mapM {α β : Type} {f : α → Option β} {xs : List α}
    (h : ∀ x ∈ xs, (f x).isSome = true) : ∃ ys, xs.mapM f = some ys ∧ xs.map f = ys.map some := by
  induction xs with
  | nil => exact ⟨[], rfl, rfl⟩
  | cons x xs ih =>
    obtain ⟨hx, hxs⟩ := List.forall_mem_cons.1 h
    obtain ⟨y, hy⟩ := Option.isSome_iff_exists.1 hx
    obtain ⟨ys, hmapM, hmap⟩ := ih hxs
    refine ⟨y :: ys, ?_, ?_⟩
    · rw [List.mapM_cons, hy, hmapM]
      rfl
    · rw [List.map_cons, List.map_cons, hy, hmap]

/-- What a frame publishes for a file are the diagnostics that it holds, as they are read. -/
theorem PublishesFor.publishes (h : PublishesFor frame uri ds) :
    ∃ items, Publishes frame ⟨uri, items⟩ ∧ ds.map Diagnostic.read? = items.map some := by
  obtain ⟨params, hclass, hfields, hread⟩ := h
  obtain ⟨items, hmapM, hmap⟩ := exists_mapM hread
  refine ⟨items, ⟨params, hclass, ?_⟩, hmap⟩
  rw [Publication.read?, hfields]
  simp only [Json.needed, Option.bind_some, Json.text?, Json.listOf, hmapM]
  rfl

/-- Whether a path leads into projects does not depend on its spelling. -/
theorem leadsInto_of_same (h : q.same path = true) :
    LeadsInto q projects ↔ LeadsInto path projects := by
  simp only [LeadsInto, Path.isAbsolute_of_same h, Path.StaysInside, Path.trail,
    Path.same_iff.1 h]

/-- A path without `..` leads into a project whose components come first in its own. -/
theorem leadsInto_of_startsWith (habs : path.isAbsolute = true) (hup : .up ∉ path.components)
    (hinside : ∃ p ∈ projects, path.startsWith p.path = true) : LeadsInto path projects := by
  obtain ⟨p, hp, hstarts⟩ := hinside
  exact ⟨habs, Path.staysInside_of_not_up hup, p, hp, Path.trail_prefix_of_startsWith hup hstarts⟩

/-- **What is published for the URI of a path in the projects is reported for that path.** -/
theorem handle_of_publishesFor (hscope : r.scope = (ofProjects r.session projects).scope)
    (hprojects : ∀ p ∈ projects, p.path.isAbsolute = true ∧ .up ∉ p.path.components)
    (huri : FileUri.ofPath? path = some uri) (hup : .up ∉ path.components)
    (hinside : ∃ p ∈ projects, path.startsWith p.path = true) (h : PublishesFor frame uri ds) :
    ∃ q items, q.same path = true ∧ ds.map Diagnostic.read? = items.map some ∧
      (r.handle frame).1 = .published (.diagnostics r.session q items) := by
  obtain ⟨items, hpublishes, hitems⟩ := h.publishes
  obtain ⟨q, hq, hsame⟩ := FileUri.toPath?_ofPath? huri hup
  have hleads := leadsInto_of_startsWith (FileUri.isAbsolute_of_ofPath? huri) hup hinside
  have hclean : ∀ p ∈ projects, p.path.isAbsolute = true ∧ p.path.StaysInside := fun p hp =>
    (hprojects p hp).imp_right Path.staysInside_of_not_up
  have hcovered : (ofProjects r.session projects).covers q = true :=
    (covers_iff hclean).2 ((leadsInto_of_same hsame).2 hleads)
  have hcovers : r.covers q = true := by
    rw [covers, hscope]
    exact hcovered
  exact ⟨q, items, hsame, hitems,
    handle_published_iff.2 ⟨⟨uri, items⟩, q, hpublishes, hq, hcovers, rfl⟩⟩

end Receiver

/-! ### Telling and reading -/

/-- What a client that lives takes in is the last word that its server has heard, or that waits
for a server that does not read, once it has settled, unless a write fails. -/
theorem Client.words_sync {c : Client} (hc : c.Lives) (s s' : Site) (uri language text : String)
    (hw : ((c.sync s uri language text).2.1.settle s').1.writing = true) :
    ∃ said, Exchange.words c.process.heard <+: said ∧
      Exchange.words (((c.sync s uri language text).2.1.settle s').1.process.heard ++
        ((c.sync s uri language text).2.1.settle s').1.outbox) =
        said ++ [(c.documents.sync uri language text).1] := by
  obtain ⟨us, -, htalking⟩ := hc.underway
  obtain ⟨v, hheld, -⟩ := htalking.held
  have hsynced := held_sync s uri language text hheld
  refine ⟨v, ?_, ((moves_settle _ s').held hsynced).meant hw⟩
  have hsaid := hheld.said
  rw [Exchange.words_append] at hsaid
  exact (List.prefix_append ..).trans hsaid

/-- Whether a session that takes in a text of a path tells its server under this URI: that is
the last word that the server has heard then, or that waits for a server that does not read,
unless a write fails. -/
def Session.TellsAs (x : Session) (path : Path) (uri : String) : Prop :=
  ∀ (s s' : Site) (language text : String), ∃ c c', x.client? = some c ∧
    (x.sync s path language text).2.1.client? = some c' ∧ (c'.settle s').1.Written ∧
    ((c'.settle s').1.writing = true → ∃ said m,
      Exchange.words c.process.heard <+: said ∧
      Exchange.words ((c'.settle s').1.process.heard ++ (c'.settle s').1.outbox) = said ++ [m] ∧
      if x.hasOpen path = true then Utterance.Says (.changed uri) m
      else m = Client.opening uri language text)

/-- The session of a living client tells a path as its URI. -/
theorem Session.tellsAs_of_lives {x : Session} {c : Client} (hc : x.client? = some c)
    (hlives : c.Lives) {path : Path} {uri : String} (huri : FileUri.ofPath? path = some uri) :
    x.TellsAs path uri := by
  intro s s' language text
  have hclient : (x.sync s path language text).2.1.client? =
      some (c.sync s uri language text).2.1 := by
    obtain ⟨connection, hconnection, rfl⟩ := exists_of_client? hc
    simp only [sync, huri, withClient, client?, hconnection, Option.map_some]
  refine ⟨c, _, hc, hclient, Client.written_settle .., fun hw => ?_⟩
  obtain ⟨said, hbefore, hafter⟩ := Client.words_sync hlives s s' uri language text hw
  refine ⟨said, _, hbefore, hafter, ?_⟩
  have hopen : x.hasOpen path = c.documents.isOpen uri := by rw [hasOpen, hc, huri]
  rw [hopen]
  obtain ⟨hheld, hsays⟩ | ⟨hclosed, -⟩ := Client.sync_says c.documents uri language text
  · rwa [if_pos hheld]
  · rw [if_neg hclosed, Client.sync_eq_opening hclosed]

namespace Supervisor

variable {s : Supervisor}

/-- A client that reads a frame reports what the frame publishes, and nothing else. -/
theorem events_readSome {c : Client} {site : Site} {frame : Json} {rest : Bytes} {e : ServerEvent}
    (hended : c.ended = none) (hroom : site.holds c.session = false)
    (hnext : Frame.next c.unread = .frame frame rest)
    (he : (c.receiver.handle frame).1 = .published e) :
    (readSome c site 1).2.events = site.events ++ [e] := by
  simp only [readSome, hended, Client.readWithin, hroom, hnext, he, Client.act]
  rfl

/-- What is reported after a session reads is what its client reports. -/
theorem events_after_read (h : (s.sessions.map Session.id).Nodup) {x : Session}
    (hx : x ∈ s.sessions) {c : Client} (hc : x.client? = some c) (frames : Nat) :
    (s.after (.read x.id frames)).site.events = (readSome c s.site frames).2.events := by
  have hmove : s.after (.read x.id frames) =
      s.withClientOf x.id fun c site => readSome c site frames := rfl
  rw [hmove, withClientOf, session?_of_mem h hx]
  dsimp only
  rw [hc]
  rfl

/-- **Diagnostics come back for the path that was opened**, in every run.  Of a path
without `..` in one of a session's projects, whatever bytes its names are made of, the
session tells its server by the path's URI; and when the session's client reads a frame
that publishes diagnostics for just that URI, one report is made, for that path and with
all of the diagnostics in their order.  Two paths have the same URI exactly when they are
the same component by component. -/
theorem diagnostics_return (settings : Settings) (folders : List Path) (logDir : Option Path)
    (processId : Nat) (d : Disk) :
    (∃ s, make settings folders logDir processId (.ofDisk d) = .ok s ∧
      ∀ moves : List Move, ∀ x ∈ (s.run moves).sessions, ∀ c, x.client? = some c →
        (∀ p ∈ x.projects, p.path.isAbsolute = true ∧ .up ∉ p.path.components) →
        ∀ path : Path, path.isAbsolute = true → .up ∉ path.components →
          (∃ p ∈ x.projects, path.startsWith p.path = true) →
          ∃ uri, FileUri.ofPath? path = some uri ∧ x.TellsAs path uri ∧
            ∀ frame ds, Receiver.PublishesFor frame uri ds →
              ∃ q items, q.same path = true ∧ ds.map Diagnostic.read? = items.map some ∧
                ∀ rest, c.ended = none → (s.run moves).site.holds x.id = false →
                  Frame.next c.unread = .frame frame rest →
                  (s.run (moves ++ [.read x.id 1])).site.events =
                    (s.run moves).site.events ++ [.diagnostics x.id q items]) ∧
    ∀ p q : Path, p.isAbsolute = true → q.isAbsolute = true →
      (FileUri.ofPath? p = FileUri.ofPath? q ↔ p.same q = true) := by
  obtain ⟨s, hmake, hs⟩ := exists_make settings folders logDir processId d
  refine ⟨⟨s, hmake, fun moves x hx c hc hprojects path habs hup hinside => ?_⟩,
    fun p q hp hq => ?_⟩
  · have hheard := (sound_run hs moves).heard
    obtain ⟨uri, huri⟩ := Option.isSome_iff_exists.1 (FileUri.isSome_ofPath? habs)
    refine ⟨uri, huri, Session.tellsAs_of_lives hc (allLive_run hs moves x hx c hc) huri,
      fun frame ds hpublishes => ?_⟩
    obtain ⟨hsession, hscope⟩ := Prod.mk.inj (hheard.own x hx c hc)
    obtain ⟨q, items, hsame, hitems, hpublished⟩ :=
      Receiver.handle_of_publishesFor hscope hprojects huri hup hinside hpublishes
    refine ⟨q, items, hsame, hitems, fun rest hended hroom hnext => ?_⟩
    rw [hsession] at hpublished
    have hroom' : (s.run moves).site.holds c.session = false := by
      rwa [Client.session, hsession]
    rw [run_append]
    exact (events_after_read hheard.nodup hx hc 1).trans
      (events_readSome hended hroom' hnext hpublished)
  · obtain ⟨uri, huri⟩ := Option.isSome_iff_exists.1 (FileUri.isSome_ofPath? hp)
    rw [huri, ← FileUri.ofPath?_eq_some_iff huri]
    exact eq_comm

/-- A diagnostic of the first character of a file. -/
def remark (message : String) : Json :=
  Json.ofMembers [("range", Json.ofMembers [("start", Message.position 0 0),
    ("end", Message.position 0 1)]), ("message", .str message)]

/-- The notification that publishes diagnostics. -/
def publication (uri : String) (ds : List Json) : Json :=
  Message.notification "textDocument/publishDiagnostics"
    (some (Json.ofMembers [("uri", .str uri), ("diagnostics", .arr ds)]))

/-- The publication of diagnostics that can be read publishes them. -/
theorem publishesFor_publication (uri : String) {ds : List Json}
    (h : ∀ d ∈ ds, (Diagnostic.read? d).isSome = true) :
    Receiver.PublishesFor (publication uri ds) uri ds := by
  refine ⟨Json.ofMembers [("uri", .str uri), ("diagnostics", .arr ds)], ?_, ?_, h⟩
  · simp [publication, Incoming.classify, Json.text?]
  · simp [Json.fields?_ofMembers, Json.member?_ofMembers]

/-- A path with a byte that is no text, and with marks that mean something in a URI. -/
def oddPath : Path := ⟨Utf8.encode "/w/C|/" ++ 0xFF :: Utf8.encode "%2e #\\b.ts"⟩

/-- It is opened, and two remarks are published for it. -/
theorem diagnostics_return_odd :
    ∃ s, make .default [Path.ofText "/w"] none 7 (.ofDisk projectWithFile) = .ok s ∧
      ∃ (moves : List Move) (uri : String), FileUri.ofPath? oddPath = some uri ∧
        (∃ x ∈ (s.run moves).sessions, ∃ c,
          (x.sync (s.run moves).site oddPath "typescript" "").2.1.client? = some c ∧
          (Exchange.words (c.settle (s.run moves).site).1.process.heard).getLast? =
            some (Client.opening uri "typescript" "")) ∧
        ∃ (q : Path) (items : List Diagnostic), q.same oddPath = true ∧
          [remark "a", remark "b"].map Diagnostic.read? = items.map some ∧
          (s.run (moves ++ [.read 1 1])).site.events =
            (s.run moves).site.events ++ [.diagnostics 1 q items] := by
  obtain ⟨⟨s, hmake, h⟩, -⟩ :=
    diagnostics_return .default [Path.ofText "/w"] none 7 projectWithFile
  let frame := publication "file:///w/C|/%FF%252e%20%23%5Cb.ts" [remark "a", remark "b"]
  let moves : List Move := [.start, .act 1 ⟨Frame.write frame, false, false, false⟩]
  have hrun : (s.run moves).sessions.map (fun x => (x.id, x.projects)) =
        [(1, [⟨Path.ofText "/w"⟩])] ∧
      ((s.run moves).clientOf? 1).map (fun c => (c.ended, c.unread)) =
        some (none, Frame.write frame) ∧
      (s.run moves).site.holds 1 = false ∧
      ((s.run moves).sessions.all fun x => !x.hasOpen oddPath &&
        (x.sync (s.run moves).site oddPath "typescript" "").2.1.client?.all fun c =>
          (c.settle (s.run moves).site).1.writing &&
            !(c.settle (s.run moves).site).1.isBlocked) = true := by
    obtain rfl := Except.ok.inj hmake
    decide +kernel
  obtain ⟨hsessions, hclient, hroom, hwrites⟩ := hrun
  obtain ⟨c, hc, hstate⟩ := Option.map_eq_some_iff.1 hclient
  obtain ⟨hended, hunread⟩ := Prod.mk.inj hstate
  obtain ⟨x, hx, hid, -, hxc⟩ := exists_of_clientOf? hc
  have hprojects : x.projects = [⟨Path.ofText "/w"⟩] := by
    have hmem := List.mem_map_of_mem (f := fun x : Session => (x.id, x.projects)) hx
    rw [hsessions] at hmem
    exact (Prod.mk.inj (List.mem_singleton.1 hmem)).2
  obtain ⟨uri, huri, htells, hreads⟩ := h moves x hx c hxc (by rw [hprojects]; decide +kernel)
    oddPath (by decide +kernel) (by decide +kernel) (by rw [hprojects]; decide +kernel)
  have hodd : FileUri.ofPath? oddPath = some "file:///w/C|/%FF%252e%20%23%5Cb.ts" := by
    decide +kernel
  obtain rfl := Option.some.inj (hodd.symm.trans huri)
  refine ⟨s, hmake, moves, _, hodd, ⟨x, hx, ?_⟩, ?_⟩
  · obtain ⟨_, c', -, hc', hwritten, hheard⟩ :=
      htells (s.run moves).site (s.run moves).site "typescript" ""
    have hwriting := List.all_eq_true.1 hwrites x hx
    simp only [hc', Option.all_some, Bool.and_eq_true, Bool.not_eq_true'] at hwriting
    obtain ⟨said, m, -, hsaid, hm⟩ := hheard hwriting.2.1
    rw [hwriting.1, if_neg Bool.false_ne_true] at hm
    have hempty := hwritten.resolve_right fun hblocked =>
      absurd (hwriting.2.2.symm.trans hblocked) (by simp)
    rw [hempty, List.append_nil] at hsaid
    exact ⟨c', hc', by rw [hsaid, List.getLast?_concat, hm]⟩
  · obtain ⟨q, items, hsame, hitems, hevents⟩ := hreads frame _
      (publishesFor_publication _ (by decide +kernel))
    have hnext : Frame.next c.unread = .frame frame [] := by
      rw [hunread, ← List.append_nil (Frame.write frame)]
      exact Frame.next_write_append [] (by decide +kernel) (by decide +kernel) (by decide +kernel)
    rw [hid] at hevents
    exact ⟨q, items, hsame, hitems, hevents [] hended hroom hnext⟩

end Supervisor
end Switchboard
