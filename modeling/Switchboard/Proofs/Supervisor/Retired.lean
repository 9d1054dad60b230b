/-
# A session that is retired

When the server of a session has stopped, the session is stopped in its place, and
the documents that it had and what it said about files are dropped with it; nothing
of the other sessions is touched (`Supervisor.Retires`).  In every run that is what
a report of this kind does to a session that runs, and to any other session it does
nothing.  Diagnostics of a session that is not in the list do nothing either
(`Supervisor.reports_retire`).
-/

import Switchboard.Proofs.Supervisor.Owners
import Switchboard.Proofs.Supervisor.Placement
import Switchboard.Proofs.Supervisor.Registry

namespace Switchboard

/-- A session that is idle does not run. -/
@[simp] theorem Session.isRunning_idle (x : Session) : x.idle.isRunning = false := rfl

/-- A session that is idle serves no document. -/
@[simp] theorem Session.isMatch_idle (x : Session) (language : String) (path : Path) :
    x.idle.isMatch language path = false := rfl

namespace Supervisor

variable {s s' : Supervisor} {x : Session} {id : SessionId} {path : Path} {reason : StopReason}

/-! ### What is dropped -/

/-- In a table with one entry for a path, the entry is looked up among those that are left if
it is left itself. -/
theorem find?_filter_of_distinct {documents : List (Path × SessionId)}
    (h : documents.Pairwise fun e f => ¬ e.1.same f.1 = true) (keep : Path × SessionId → Bool) :
    (documents.filter keep).find? (fun e => e.1.same path) =
      (documents.find? fun e => e.1.same path).filter keep := by
  induction documents with
  | nil => rfl
  | cons e documents ih =>
    obtain ⟨he, hdocuments⟩ := List.pairwise_cons.1 h
    by_cases hpath : e.1.same path = true
    · have hnone : (documents.filter keep).find? (fun f => f.1.same path) = none := by
        refine List.find?_eq_none.2 fun f hf hsame => he f (List.mem_filter.1 hf).1 ?_
        exact Path.same_trans hpath (Path.same_symm hsame)
      rw [List.find?_cons, hpath, List.filter_cons, Option.filter_some]
      split
      · rw [List.find?_cons, hpath]
      · exact hnone
    · rw [Bool.not_eq_true] at hpath
      rw [List.find?_cons, hpath, ← ih hdocuments, List.filter_cons]
      split
      · rw [List.find?_cons, hpath]
      · rfl

/-- When the entries of a session are dropped, it owns no path, and the other paths are owned
as before. -/
theorem ownerOf?_of_dropped (h : s.Registered)
    (hdocuments : s'.documents = s.documents.filter fun e => e.2 != id) (path : Path) :
    s'.ownerOf? path = (s.ownerOf? path).filter (· != id) := by
  rw [ownerOf?, ownerOf?, hdocuments, find?_filter_of_distinct h.distinct]
  cases s.documents.find? fun e => e.1.same path with
  | none => rfl
  | some e =>
    rw [Option.map_some, Option.filter_some, Option.filter_some]
    split
    · rfl
    · rfl

/-! ### Retiring one session -/

/-- What retiring a session changes: the session is stopped in its place, and what belongs to
it is dropped.  The other sessions, their documents and what they said stay, and so does the rest
of the supervisor.  The site is left open: stopping the session writes to logs. -/
structure Retires (s s' : Supervisor) (x : Session) : Prop where
  sessions_eq : ∀ front back, s.sessions = front ++ x :: back →
    s'.sessions = front ++ x.idle :: back ∧ ∀ y ∈ front ++ back, y.id ≠ x.id
  documents_eq : s'.documents = s.documents.filter fun e => e.2 != x.id
  ownerOf?_eq : ∀ path, s'.ownerOf? path = (s.ownerOf? path).filter (· != x.id)
  findings_eq : s'.store.findings = s.store.findings.filter fun f => f.owner != x.id
  rest_eq : s' =
    { s with
      sessions := s'.sessions
      documents := s'.documents
      store := s'.store
      site := s'.site }

/-- What retiring does to a supervisor, field by field. -/
theorem retire_eq (s : Supervisor) (x : Session) (reason : StopReason) :
    ∃ site, s.retire x reason =
      { s.putSession x.idle with
        store := s.store.clearSession x.id
        documents := s.documents.filter fun e => e.2 != x.id
        site } := by
  unfold retire
  rw [← Session.stop_fst x s.site]
  dsimp only
  split
  · exact ⟨_, rfl⟩
  · exact ⟨_, rfl⟩

/-- Retiring a session changes what belongs to it and no more. -/
theorem retires_retire (hids : (s.sessions.map Session.id).Nodup) (h : s.Registered) (x : Session)
    (reason : StopReason) : Retires s (s.retire x reason) x := by
  obtain ⟨site, heq⟩ := retire_eq s x reason
  rw [heq]
  constructor
  · intro front back hsplit
    exact ⟨putSession_split hids hsplit rfl, id_ne_of_split hids hsplit⟩
  · rfl
  · exact ownerOf?_of_dropped h rfl
  · rfl
  · rfl

/-! ### Reports -/

/-- A report that the server of a session has stopped retires the session if it runs. -/
theorem retires_handleReport (hids : (s.sessions.map Session.id).Nodup) (h : s.Registered)
    (hx : x ∈ s.sessions) (hrun : x.isRunning = true) (reason : StopReason) :
    (s.handleReport (.stopped x.id reason)).1 = true ∧
      Retires s (s.handleReport (.stopped x.id reason)).2 x := by
  have heq : s.handleReport (.stopped x.id reason) = (true, s.retire x reason) := by
    rw [handleReport, session?_of_mem hids hx]
    exact if_pos hrun
  rw [heq]
  exact ⟨rfl, retires_retire hids h x reason⟩

/-- A report that the server of a session has stopped does nothing when no session with its
identity runs. -/
theorem handleReport_stopped_of_idle (h : ∀ x ∈ s.sessions, x.id = id → x.isRunning = false)
    (reason : StopReason) : s.handleReport (.stopped id reason) = (false, s) := by
  unfold handleReport
  dsimp only
  split
  · rfl
  next x hx =>
    obtain ⟨hmem, hid⟩ := of_session? hx
    exact if_neg (by rw [h x hmem hid]; simp)

/-- Diagnostics of a session that is not in the list do nothing. -/
theorem handleReport_diagnostics_of_unknown (h : ∀ x ∈ s.sessions, x.id ≠ id) (path : Path)
    (items : List Diagnostic) : s.handleReport (.diagnostics id path items) = (false, s) := by
  have hnone : s.session? id = none := by
    refine List.find?_eq_none.2 fun x hx => ?_
    simpa using h x hx
  unfold handleReport
  dsimp only
  rw [hnone]
  rfl

/-! ### Runs -/

/-- Whether a supervisor that begins as `start` may come to handle a report as `s`: it does so
between moves, or when it has just taken the report from the site. -/
def Handling (start s : Supervisor) : Prop :=
  ∃ moves, s = start.run moves ∨ ∃ e, (start.run moves).nextReport? = some (e, s)

/-- While reports are handled the table is registered and the sessions are distinct. -/
theorem registered_of_handling {start : Supervisor} (hs : start.Fresh) (h : start.Registered)
    (hhandling : Handling start s) : (s.sessions.map Session.id).Nodup ∧ s.Registered := by
  obtain ⟨moves, rfl | ⟨e, hnext⟩⟩ := hhandling
  · exact ⟨(sound_run hs moves).heard.nodup, registered_run hs h moves⟩
  · obtain ⟨hsound, -, hroll, -⟩ := keeps_nextReport? (sound_run hs moves) hnext
    exact ⟨hsound.heard.nodup,
      (registered_run hs h moves).of_eq (stays_nextReport? hnext).documents_eq hroll⟩

/-- **When its server has stopped, a session that runs is retired, and nothing else is touched**,
whenever a supervisor that is made where nothing has happened handles such a report: the session
stays in its place, runs no more and claims no path, and its documents and what it said are gone.
When the session does not run or is not in the list nothing changes, and nothing changes when a
session that is not in the list has diagnostics. -/
theorem reports_retire {settings : Settings} {folders : List Path} {logDir : Option Path}
    {processId : Nat} {d : Disk} {start : Supervisor}
    (hmake : make settings folders logDir processId (.ofDisk d) = .ok start)
    (h : Handling start s) :
    (∀ x ∈ s.sessions, x.isRunning = true → ∀ reason,
      (s.handleReport (.stopped x.id reason)).1 = true ∧
      Retires s (s.handleReport (.stopped x.id reason)).2 x ∧
      x.idle.isRunning = false ∧ ∀ language path, x.idle.isMatch language path = false) ∧
    (∀ id, (∀ x ∈ s.sessions, x.id = id → x.isRunning = false) → ∀ reason,
      s.handleReport (.stopped id reason) = (false, s)) ∧
    ∀ id, (∀ x ∈ s.sessions, x.id ≠ id) → ∀ path items,
      s.handleReport (.diagnostics id path items) = (false, s) := by
  obtain ⟨hids, hregistered⟩ :=
    registered_of_handling (fresh_of_make hmake) (registered_of_nil (documents_of_make hmake)) h
  refine ⟨fun x hx hrun reason => ?_, fun id hidle => handleReport_stopped_of_idle hidle,
    fun id hunknown => handleReport_diagnostics_of_unknown hunknown⟩
  obtain ⟨hhandled, hretires⟩ := retires_handleReport hids hregistered hx hrun reason
  exact ⟨hhandled, hretires, x.isRunning_idle, x.isMatch_idle⟩

/-- Two sessions have a document each, the second one has diagnostics, and then the server of
the first one exits. -/
def firstOfTwoCrashes : List Move :=
  [.start, .opened (.ofText "/w/a/x.ts") "let x;\n", .opened (.ofText "/w/y.ts") "let y;\n",
    .act 2 ⟨Frame.write earlyDiagnostics, false, false, false⟩, .settle, .report,
    .act 1 ⟨[], false, true, false⟩, .settle]

/-- The first session is retired with its document, and the second one keeps what it has. -/
theorem reports_retire_first :
    ∃ s, make .default [Path.ofText "/w"] none 7 (.ofDisk innerProject) = .ok s ∧
      let crashed := s.run firstOfTwoCrashes
      let after := (crashed.handleReport (.stopped 1 .exited)).2
      crashed.roll = [(1, true), (2, true)] ∧
      crashed.documents = [(.ofText "/w/a/x.ts", 1), (.ofText "/w/y.ts", 2)] ∧
      (∃ x ∈ crashed.sessions, Retires crashed after x) ∧
      after.roll = [(1, false), (2, true)] ∧
      after.documents = [(.ofText "/w/y.ts", 2)] ∧
      after.store.findings.map (fun f => (f.path, f.owner)) = [(.ofText "/w/a.ts", 2)] := by
  have hrun : ∃ s, make .default [Path.ofText "/w"] none 7 (.ofDisk innerProject) = .ok s ∧
      let crashed := s.run firstOfTwoCrashes
      let after := (crashed.handleReport (.stopped 1 .exited)).2
      crashed.roll = [(1, true), (2, true)] ∧
      crashed.documents = [(.ofText "/w/a/x.ts", 1), (.ofText "/w/y.ts", 2)] ∧
      after.roll = [(1, false), (2, true)] ∧
      after.documents = [(.ofText "/w/y.ts", 2)] ∧
      after.store.findings.map (fun f => (f.path, f.owner)) = [(.ofText "/w/a.ts", 2)] :=
    ⟨_, rfl, by decide +kernel⟩
  obtain ⟨s, hmake, hroll, hdocuments, hafter⟩ := hrun
  have hmem : (1, true) ∈ (s.run firstOfTwoCrashes).roll := hroll ▸ List.mem_cons_self ..
  obtain ⟨x, hx, hid, hrunning⟩ := mem_roll_iff.1 hmem
  have hhandling : Handling s (s.run firstOfTwoCrashes) := ⟨firstOfTwoCrashes, .inl rfl⟩
  have hretires := ((reports_retire hmake hhandling).1 x hx hrunning .exited).2.1
  rw [hid] at hretires
  exact ⟨s, hmake, hroll, hdocuments, ⟨x, hx, hretires⟩, hafter⟩

end Supervisor
end Switchboard
