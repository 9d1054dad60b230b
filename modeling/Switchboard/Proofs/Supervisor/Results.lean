/-
# The results of a start

A start tries each of the sessions that it has planned, and what comes of that is
its report: the sessions that have no fault run and are counted, and the others are
the failures, in the order of the sessions (`Supervisor.report_start`).
-/

import Switchboard.Proofs.Supervisor.Run

namespace Switchboard

/-! ### One session -/

namespace Session

/-- A session begins to start as what it is: it runs no sooner than its start has ended. -/
theorem connection_beginStart (x : Session) (s : Site) (ctx : SessionContext) :
    (x.beginStart s ctx).1.session.connection = x.connection := by
  unfold beginStart
  dsimp only
  split <;> rfl

/-- A session runs after a start that has ended without a fault, and after no other. -/
theorem isRunning_finish {p : Starting} (hp : p.session.connection = none) (s : Site) :
    (p.finish s).2.1.isRunning = (p.finish s).1.isOk := by
  have hidle : p.session.isRunning = false := by rw [isRunning, hp]; rfl
  unfold Starting.finish
  split
  · exact hidle
  · split
    · exact hidle
    · rfl

end Session

namespace Supervisor

variable {s : Supervisor}

/-! ### All sessions -/

/-- A start that has begun has made no connection yet. -/
theorem connection_beginStarts (ctx : SessionContext) {xs : List Session}
    (h : ∀ x ∈ xs, x.connection = none) (site : Site) :
    ∀ p ∈ (beginStarts ctx xs site).1, p.session.connection = none := by
  induction xs generalizing site with
  | nil => exact fun p hp => absurd hp List.not_mem_nil
  | cons x xs ih =>
    obtain ⟨hx, hxs⟩ := List.forall_mem_cons.1 h
    exact List.forall_mem_cons.2 ⟨(x.connection_beginStart site ctx).trans hx, ih hxs _⟩

/-- The sessions without a fault are those that run. -/
theorem isRunning_finishStarts {ps : List Session.Starting}
    (h : ∀ p ∈ ps, p.session.connection = none) (site : Site) :
    ∀ e ∈ (finishStarts ps site).1, e.1.isRunning = e.2.isNone := by
  induction ps generalizing site with
  | nil => exact fun e he => absurd he List.not_mem_nil
  | cons p ps ih =>
    obtain ⟨hp, hps⟩ := List.forall_mem_cons.1 h
    have hfirst := Session.isRunning_finish hp site
    unfold finishStarts
    generalize p.finish site = finished at hfirst ⊢
    obtain ⟨r, x, site'⟩ := finished
    refine List.forall_mem_cons.2 ⟨hfirst.trans ?_, ih hps site'⟩
    cases r <;> rfl

/-- What comes of starting all sessions: each session, with the fault if it has failed. -/
def resultsOfSessions (s : Supervisor) : List (Session × Option SessionFault) :=
  (finishStarts (beginStarts s.context s.sessions s.site).1
    (beginStarts s.context s.sessions s.site).2).1

/-- What starting the sessions reports is counted off the results of each. -/
theorem startSessions_eq (s : Supervisor) :
    s.startSessions.1 = ⟨s.resultsOfSessions.length -
        (s.resultsOfSessions.filterMap failureOf?).length,
      s.resultsOfSessions.filterMap failureOf?⟩ ∧
      s.startSessions.2.sessions = s.resultsOfSessions.map Prod.fst := by
  refine ⟨rfl, ?_⟩
  unfold startSessions
  dsimp only
  exact (same_foldl (fun _ _ => same_log ..) _ _).sessions_eq

/-! ### A start -/

/-- The supervisor when its sessions are started: they have been planned. -/
def planned (s : Supervisor) : Supervisor :=
  (({ s with phase := .starting }.log .info "Starting extension...").tell
    (.status (some .loading))).watchLockFiles.warnLoaders.planSessions

/-- What comes of a start: each session, with the fault if it has failed. -/
def results (s : Supervisor) : List (Session × Option SessionFault) :=
  if s.folders.isEmpty then [] else s.planned.resultsOfSessions

/-- The sessions that are planned are idle. -/
theorem idle_planned (s : Supervisor) : ∀ x ∈ s.planned.sessions, x.connection = none := by
  unfold planned
  generalize ({ s with phase := .starting }.log .info _).tell _ = begun
  obtain ⟨plans, hsessions, -⟩ := planSessions_spec begun.watchLockFiles.warnLoaders
  rw [hsessions]
  exact (sessionsOf_eq _ plans).2

/-- What a start comes to, with workspace folders and without. -/
theorem start_cases (hphase : s.phase = .stopped) :
    s.folders.isEmpty = true ∧ s.start.1 = .nothing ∧ s.start.2.sessions = s.sessions ∧
        s.start.2.site.stuck = s.site.stuck ∨
      s.folders.isEmpty = false ∧ s.start.1 = s.planned.startSessions.1 ∧
        s.start.2.sessions = s.planned.startSessions.2.sessions ∧
        s.start.2.site.events = s.planned.startSessions.2.site.events ∧
        s.start.2.site.supervised = s.planned.startSessions.2.site.supervised ∧
        s.start.2.site.stuck = s.planned.startSessions.2.site.stuck := by
  let begun := ({ s with phase := .starting }.log .info "Starting extension...").tell
    (.status (some .loading))
  have hfolders : begun.folders = s.folders := rfl
  rw [start, if_pos hphase]
  cases hempty : s.folders.isEmpty with
  | true =>
    have hlaunch : begun.launch = (.nothing, begun.log .error "No workspace folder found.") := by
      rw [launch, hfolders, if_pos hempty]
    refine .inl ⟨rfl, ?_⟩
    change begun.launch.1 = .nothing ∧ begun.launch.2.sessions = s.sessions ∧
      begun.launch.2.site.stuck = s.site.stuck
    rw [hlaunch]
    exact ⟨rfl, rfl, rfl⟩
  | false =>
    have hlaunch : begun.launch = s.planned.startSessions := by
      rw [launch, hfolders, if_neg (by simp [hempty])]
      rfl
    refine .inr ⟨rfl, ?_⟩
    change begun.launch.1 = _ ∧ begun.launch.2.sessions = _ ∧ begun.launch.2.site.events = _ ∧
      begun.launch.2.site.supervised = _ ∧ begun.launch.2.site.stuck = _
    rw [hlaunch]
    exact ⟨rfl, rfl, rfl, rfl, rfl⟩

/-- Of the results each is a success or a failure. -/
theorem length_failures (results : List (Session × Option SessionFault)) :
    results.length = (results.countP fun e => e.2.isNone) +
      (results.filterMap failureOf?).length := by
  induction results with
  | nil => rfl
  | cons e results ih =>
    obtain ⟨x, fault⟩ := e
    cases fault with
    | none =>
      rw [List.countP_cons_of_pos rfl, List.filterMap_cons_none rfl, List.length_cons, ih]
      omega
    | some fault =>
      have hfailure : failureOf? (x, some fault) = some ⟨x.version, x.binary, fault.message⟩ := rfl
      rw [List.countP_cons_of_neg (by simp), List.filterMap_cons_some hfailure, List.length_cons,
        List.length_cons, ih]
      omega

/-- **What a start reports**: it counts the sessions that run, and its failures are the other
sessions, in the order of the sessions. -/
theorem report_start (hphase : s.phase = .stopped) (hnone : s.sessions = []) :
    s.start.2.sessions = s.results.map Prod.fst ∧
      s.start.1.failures = s.results.filterMap failureOf? ∧
      s.start.1.started = s.start.2.sessions.countP Session.isRunning ∧
      s.start.1.started + s.start.1.failures.length = s.start.2.sessions.length ∧
      ∀ e ∈ s.results, e.1.isRunning = e.2.isNone := by
  unfold results
  obtain ⟨hempty, hreport, hsessions, -⟩ | ⟨hempty, hreport, hsessions, -⟩ := start_cases hphase
  · rw [hempty, if_pos rfl, hreport, hsessions, hnone]
    exact ⟨rfl, rfl, rfl, rfl, fun e he => absurd he List.not_mem_nil⟩
  · rw [hempty, if_neg Bool.false_ne_true, hreport, hsessions]
    obtain ⟨hstarted, hresults⟩ := startSessions_eq s.planned
    have hrunning : ∀ e ∈ s.planned.resultsOfSessions, e.1.isRunning = e.2.isNone :=
      isRunning_finishStarts (connection_beginStarts _ s.idle_planned _) _
    have hcount : (s.planned.resultsOfSessions.map Prod.fst).countP Session.isRunning =
        s.planned.resultsOfSessions.countP fun e => e.2.isNone := by
      rw [List.countP_map]
      exact List.countP_congr fun e he => by rw [Function.comp_apply, hrunning e he]
    have hlength := length_failures s.planned.resultsOfSessions
    rw [hstarted, hresults, hcount, List.length_map]
    dsimp only
    refine ⟨rfl, rfl, ?_, ?_, hrunning⟩ <;> omega

/-- A start that counts a session has one that runs, and the other way round. -/
theorem started_pos_iff (hphase : s.phase = .stopped) (hnone : s.sessions = []) :
    0 < s.start.1.started ↔ ∃ x ∈ s.start.2.sessions, x.isRunning = true := by
  rw [(report_start hphase hnone).2.2.1, List.countP_pos_iff]

end Supervisor
end Switchboard
