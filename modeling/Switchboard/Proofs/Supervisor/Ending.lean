/-
# Operations that come to an end

Who waits for ever never gets on again: whatever is done with a supervisor after an operation
that does not come to an end, that is still so (`Supervisor.stuck_after`).  A stop takes leave
of the servers of all sessions that run.  It comes to an end where each of them reads whatever
it is sent or is gone (`Supervisor.stuck_stop_of_ready`), and it never does where one of them
and its client wait for each other (`Supervisor.stuck_stop_of_wedged`).
-/

import Switchboard.Proofs.Client.Wedged
import Switchboard.Proofs.Session.Outcome
import Switchboard.Proofs.Supervisor.Clients

namespace Switchboard

namespace Client

/-- What a client and its server do gets nobody on who waits for ever. -/
theorem Deed.stuck {p q : Client × Site} (h : Deed p q) (hp : p.2.stuck = true) :
    q.2.stuck = true := by
  cases h with
  | sync c s => exact (acts_send { c with documents := _ } s _).stuck hp
  | close c s uri =>
    unfold Client.close
    split
    · exact hp
    · exact (acts_send { c with documents := _ } s _).stuck hp
  | ask c s => exact (c.acts_codeActions ..).stuck hp
  | settle c s => exact (Acts.of_moves (moves_settle c s)).stuck hp
  | read c s frames =>
    unfold Supervisor.readSome
    cases hended : c.ended with
    | some reason => exact hp
    | none => exact (Acts.of_moves (moves_readWithin frames s hended)).stuck hp
  | server => exact hp

end Client

namespace Session

variable {x : Session} {c : Client} {s : Site}

/-- A line about a session that has stopped keeps nobody waiting. -/
theorem stuck_logStopped (x : Session) (s : Site) : (x.logStopped s).stuck = s.stuck := by
  unfold logStopped
  split <;> rfl

/-- The first half of a stop takes leave of the server. -/
theorem stuck_beginStop (x : Session) (s : Site) :
    (x.beginStop s).2.stuck = match x.client? with
      | some c => (c.leave s).2.stuck
      | none => s.stuck := by
  unfold beginStop client?
  cases x.connection with
  | none => rfl
  | some connection =>
    dsimp only [Option.map_some]
    split
    · exact stuck_logStopped ..
    · rfl

/-- The second half of a stop waits for nobody who reads: its server is killed in the end. -/
theorem stuck_finishStop (p : Stopping) (s : Site) : (p.finish s).2.stuck = s.stuck := by
  unfold Stopping.finish
  split
  · rfl
  · exact stuck_logStopped ..

/-- The first half of a stop gets nobody on who waits for ever. -/
theorem stuck_beginStop_of_stuck (x : Session) (h : s.stuck = true) :
    (x.beginStop s).2.stuck = true := by
  rw [stuck_beginStop]
  split
  next c _ => exact (c.acts_leave s).stuck h
  · exact h

/-- The second half of a start gets nobody on who waits for ever. -/
theorem Starting.stuck_finish_of_stuck (p : Starting) (h : s.stuck = true) :
    (p.finish s).2.2.stuck = true := by
  unfold Starting.finish
  split
  · exact h
  next greeted _ =>
    obtain ⟨selector, c, id⟩ := greeted
    have hcomplete := (c.acts_complete s id).stuck h
    unfold connect
    dsimp only
    generalize c.complete s id = completed at hcomplete ⊢
    obtain ⟨r, c', s'⟩ := completed
    cases r with
    | error fault => exact (stuck_giveUp ..).trans hcomplete
    | ok => exact hcomplete

/-- The first half of a stop makes the site grow. -/
theorem grows_beginStop (x : Session) (s : Site) : s.Grows (x.beginStop s).2 := by
  unfold beginStop
  cases x.connection with
  | none => exact .refl s
  | some connection =>
    have hleave := (connection.client.acts_leave s).grows
    dsimp only
    split
    · refine hleave.trans ?_
      unfold logStopped
      split
      · exact Site.grows_log ..
      · exact .refl _
    · exact hleave

end Session

namespace Supervisor

variable {s : Supervisor}

/-- Beginning the stops of all sessions frees nobody who is stuck. -/
theorem stuck_beginStops_of_stuck (xs : List Session) {site : Site} (h : site.stuck = true) :
    (beginStops xs site).2.stuck = true := by
  induction xs generalizing site with
  | nil => exact h
  | cons x xs ih => exact ih (x.stuck_beginStop_of_stuck h)

/-- **One session whose client and server wait for each other is enough**: whatever comes before it
among the sessions does not end that. -/
theorem stuck_beginStops_of_wedged {xs : List Session} {site : Site} {x : Session} (hx : x ∈ xs)
    {c : Client} (hc : x.client? = some c) (h : c.Wedged site) :
    (beginStops xs site).2.stuck = true := by
  induction xs generalizing site with
  | nil => exact absurd hx List.not_mem_nil
  | cons y xs ih =>
    rcases List.mem_cons.1 hx with rfl | hx
    · have hfirst : (x.beginStop site).2.stuck = true := by
        rw [Session.stuck_beginStop, hc]
        exact h.stuck_leave
      exact stuck_beginStops_of_stuck xs hfirst
    · exact ih hx (h.congr rfl h.isFull_eq rfl rfl (Site.holds_of_grows (y.grows_beginStop site)))

/-- Where all servers are ready, the first halves of their stops come to an end. -/
theorem stuck_beginStops_of_ready {xs : List Session}
    (h : ∀ x ∈ xs, ∀ c, x.client? = some c → c.process.Ready) (site : Site) :
    (beginStops xs site).2.stuck = site.stuck := by
  induction xs generalizing site with
  | nil => rfl
  | cons x xs ih =>
    obtain ⟨hx, hxs⟩ := List.forall_mem_cons.1 h
    have hfirst : (x.beginStop site).2.stuck = site.stuck := by
      rw [Session.stuck_beginStop]
      split
      next c hc => exact ((c.acts_leave site).ready (hx c hc)).2
      · rfl
    exact (ih hxs _).trans hfirst

/-- The second halves of all stops come to an end. -/
theorem stuck_finishStops (ps : List Session.Stopping) (site : Site) :
    (finishStops ps site).stuck = site.stuck := by
  induction ps generalizing site with
  | nil => rfl
  | cons p ps ih => exact (ih _).trans (Session.stuck_finishStop p site)

/-- A stop comes to an end if the first halves of its sessions' stops do. -/
theorem stuck_stop (h : s.phase ≠ .stopped) : s.stop.site.stuck =
    (beginStops s.sessions
      (({ s with phase := .stopping }.log .info "Stopping extension...").site)).2.stuck := by
  let begun := { s with phase := .stopping }.log .info "Stopping extension..."
  have hfinished := stuck_finishStops (beginStops s.sessions begun.site).1
    (beginStops s.sessions begun.site).2
  rw [stop, if_neg h]
  exact hfinished

/-- **A stop comes to an end where every server reads whatever it is sent, or is gone.** -/
theorem stuck_stop_of_ready (h : ∀ x ∈ s.sessions, ∀ c, x.client? = some c → c.process.Ready) :
    s.stop.site.stuck = s.site.stuck := by
  by_cases hphase : s.phase = .stopped
  · rw [stop, if_pos hphase]
  · rw [stuck_stop hphase]
    exact stuck_beginStops_of_ready h _

/-- **A stop never comes to an end where a client and its server wait for each other.** -/
theorem stuck_stop_of_wedged (hphase : s.phase ≠ .stopped) {x : Session} (hx : x ∈ s.sessions)
    {c : Client} (hc : x.client? = some c) (h : c.Wedged s.site) : s.stop.site.stuck = true := by
  rw [stuck_stop hphase]
  exact stuck_beginStops_of_wedged hx hc (h.congr rfl h.isFull_eq rfl rfl id)

/-! ### Waiting for ever -/

/-- A stop gets nobody on who waits for ever. -/
theorem stuck_stop_of_stuck (h : s.site.stuck = true) : s.stop.site.stuck = true := by
  by_cases hphase : s.phase = .stopped
  · rwa [stop, if_pos hphase]
  · rw [stuck_stop hphase]
    exact stuck_beginStops_of_stuck s.sessions h

/-- The first half of a start sends at most one message, for which there is room. -/
theorem stuck_beginStarts (ctx : SessionContext) (xs : List Session) (site : Site) :
    (beginStarts ctx xs site).2.stuck = site.stuck := by
  induction xs generalizing site with
  | nil => rfl
  | cons x xs ih => exact (ih _).trans (x.stuck_beginStart site ctx)

/-- The second halves of starts get nobody on who waits for ever. -/
theorem stuck_finishStarts_of_stuck (ps : List Session.Starting) {site : Site}
    (h : site.stuck = true) : (finishStarts ps site).2.stuck = true := by
  induction ps generalizing site with
  | nil => exact h
  | cons p ps ih => exact ih (p.stuck_finish_of_stuck h)

/-- A start of sessions comes to an end if both halves do. -/
theorem stuck_startSessions (s : Supervisor) : s.startSessions.2.site.stuck =
    (finishStarts (beginStarts s.context s.sessions s.site).1
      (beginStarts s.context s.sessions s.site).2).2.stuck := by
  unfold startSessions
  dsimp only
  exact (same_foldl (fun _ _ => same_log ..) _ _).stuck_eq

/-- Planning sessions waits for nobody. -/
theorem stuck_planSessions (s : Supervisor) : s.planSessions.site.stuck = s.site.stuck := by
  have hstuck := (logged_discover s).same.stuck_eq
  unfold planSessions
  generalize s.discover = found at hstuck ⊢
  dsimp only
  split
  · exact hstuck
  · exact hstuck

/-- A start gets nobody on who waits for ever. -/
theorem stuck_start_of_stuck (h : s.site.stuck = true) : s.start.2.site.stuck = true := by
  have hlaunch (s : Supervisor) (h : s.site.stuck = true) : s.launch.2.site.stuck = true := by
    unfold launch
    split
    · exact h
    · unfold bringUp
      rw [stuck_startSessions]
      refine stuck_finishStarts_of_stuck _ ?_
      rw [stuck_beginStarts, stuck_planSessions, (same_warnLoaders _).stuck_eq,
        (same_watchLockFiles _).stuck_eq]
      exact h
  unfold start
  split
  · exact hlaunch (({ s with phase := .starting }.log .info "Starting extension...").tell
      (.status (some .loading))) h
  · exact h

/-- What sessions do with their clients gets nobody on who waits for ever. -/
theorem Deeds.stuck {s s' : Supervisor} (h : Deeds s s') (hs : s.site.stuck = true) :
    s'.site.stuck = true := by
  have hdeed {p q : Session × Site} (h : Session.Deed p q) (hp : p.2.stuck = true) :
      q.2.stuck = true := by
    cases h with
    | idle => exact hp
    | client hc h => exact h.stuck hp
  have hsettle (xs : List Session) (site : Site) (h : site.stuck = true) :
      (settleSessions xs site).2.stuck = true := by
    induction xs generalizing site with
    | nil => exact h
    | cons x xs ih => exact ih _ (hdeed (x.deed_settle site) h)
  induction h with
  | refl => exact hs
  | tail _ h ih =>
    cases h with
    | still hsessions hnext hjournal hstuck => exact hstuck.trans ih
    | put hx h => exact hdeed h ih
    | settle => exact hsettle _ _ ih

/-- A restart gets nobody on who waits for ever. -/
theorem stuck_restart_of_stuck (h : s.site.stuck = true) : s.restart.2.site.stuck = true := by
  unfold restart
  dsimp only
  exact (deeds_foldl deeds_reopen _ _).stuck (stuck_start_of_stuck (stuck_stop_of_stuck h))

/-- A command gets nobody on who waits for ever. -/
theorem stuck_perform (h : s.site.stuck = true) (active : Option Path) (c : Command) :
    (s.perform active c).site.stuck = true := by
  cases c with
  | restart => exact stuck_restart_of_stuck h
  | showOutput => exact h
  | showCommands => exact h
  | autofix => exact (deeds_autofix s active).stuck h

/-- A report that is handled gets nobody on who waits for ever. -/
theorem stuck_handleReport (h : s.site.stuck = true) (e : ServerEvent) :
    (s.handleReport e).2.site.stuck = true := by
  unfold handleReport
  split
  · split <;> exact h
  · split
    · exact h
    next x _ =>
      split
      · have hstop : (x.stop s.site).2.stuck = true :=
          (Session.stuck_finishStop ..).trans (x.stuck_beginStop_of_stuck h)
        unfold retire
        dsimp only
        split <;> exact hstop
      · exact h

/-- **An operation that does not come to an end is the last.** -/
theorem stuck_after (h : s.site.stuck = true) (m : Move) : (s.after m).site.stuck = true := by
  cases m with
  | start => exact stuck_start_of_stuck h
  | stop => exact stuck_stop_of_stuck h
  | restart => exact stuck_restart_of_stuck h
  | opened path text => exact (deeds_openDocument s path text).stuck h
  | changed path text => exact (deeds_changeDocument s path text).stuck h
  | closed path => exact (deeds_closeDocument s path).stuck h
  | fixed path => exact (deeds_fixAllActions s path).stuck h
  | command active picked c =>
    have hpalette : s.openPalette.site.stuck = true := h
    exact execute_cases (P := fun s => s.site.stuck = true) hpalette
      (stuck_perform hpalette active) (stuck_perform h active)
  | folders paths => exact h
  | report =>
    change (s.poll 1).2.site.stuck = true
    unfold poll
    split
    · exact h
    next e s₁ hnext => exact stuck_handleReport ((deeds_nextReport? hnext).stuck h) e
  | settle => exact Deeds.stuck (.single (.settle s)) h
  | read id frames =>
    exact (deeds_withClientOf s id fun c site => .read c site frames).stuck h
  | act id reaction =>
    exact (deeds_withClientOf s id fun c site => .server c site reaction).stuck h
  | world disk now => exact h

end Supervisor
end Switchboard
