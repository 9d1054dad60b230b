/-
# What a supervisor leaves alone

Only the control loop takes events from the queue and sets the workspace
folders, and only a restart counts restarts: whatever else a supervisor does
happens beside that (`Beside`).  Much of it concerns no session either (`Same`),
and much of it no host: what is done with documents and with sessions is not
told (`Unseen`).
-/

import Switchboard.Supervisor.Execute
import Switchboard.Supervisor.Reports

namespace Switchboard
namespace Supervisor

variable {s s' s'' : Supervisor}

/-- What every step of a row of them does to a supervisor, the row does. -/
theorem rel_foldl {α : Type} {R : Supervisor → Supervisor → Prop} (hrefl : ∀ s, R s s)
    (htrans : ∀ {s₁ s₂ s₃}, R s₁ s₂ → R s₂ s₃ → R s₁ s₃) {f : Supervisor → α → Supervisor}
    (hf : ∀ s a, R s (f s a)) (s : Supervisor) (as : List α) : R s (as.foldl f s) := by
  induction as generalizing s with
  | nil => exact hrefl s
  | cons a as ih => exact htrans (hf s a) (ih (f s a))

/-! ### What happens beside the control loop -/

/-- Two supervisors that differ in nothing that the control loop keeps track of. -/
structure Beside (s s' : Supervisor) : Prop where
  queue_eq : s'.queue = s.queue
  folders_eq : s'.folders = s.folders
  restarts_eq : s'.restarts = s.restarts

theorem Beside.refl (s : Supervisor) : Beside s s := ⟨rfl, rfl, rfl⟩

theorem Beside.trans (h₁ : Beside s s') (h₂ : Beside s' s'') : Beside s s'' :=
  ⟨h₂.queue_eq.trans h₁.queue_eq, h₂.folders_eq.trans h₁.folders_eq,
    h₂.restarts_eq.trans h₁.restarts_eq⟩

/-! ### What does not concern sessions -/

/-- Two supervisors that differ in nothing that concerns sessions, documents and
reports either. -/
structure Same (s s' : Supervisor) : Prop extends Beside s s' where
  sessions_eq : s'.sessions = s.sessions
  events_eq : s'.site.events = s.site.events
  journal_eq : s'.site.journal = s.site.journal
  stuck_eq : s'.site.stuck = s.site.stuck
  next_eq : s'.nextSession = s.nextSession
  phase_eq : s'.phase = s.phase
  store_eq : s'.store = s.store
  documents_eq : s'.documents = s.documents

theorem Same.refl (s : Supervisor) : Same s s := ⟨.refl s, rfl, rfl, rfl, rfl, rfl, rfl, rfl, rfl⟩

theorem Same.trans (h₁ : Same s s') (h₂ : Same s' s'') : Same s s'' :=
  ⟨h₁.toBeside.trans h₂.toBeside, h₂.sessions_eq.trans h₁.sessions_eq,
    h₂.events_eq.trans h₁.events_eq, h₂.journal_eq.trans h₁.journal_eq,
    h₂.stuck_eq.trans h₁.stuck_eq, h₂.next_eq.trans h₁.next_eq, h₂.phase_eq.trans h₁.phase_eq,
    h₂.store_eq.trans h₁.store_eq, h₂.documents_eq.trans h₁.documents_eq⟩

/-- A line of the log changes nothing else. -/
theorem same_log (s : Supervisor) (level : Level) (message : String) :
    Same s (s.log level message) := ⟨⟨rfl, rfl, rfl⟩, rfl, rfl, rfl, rfl, rfl, rfl, rfl, rfl⟩

/-- Telling the host something changes nothing else. -/
theorem same_tell (s : Supervisor) (call : HostCall) : Same s (s.tell call) :=
  ⟨⟨rfl, rfl, rfl⟩, rfl, rfl, rfl, rfl, rfl, rfl, rfl, rfl⟩

/-- What holds of one step holds of a row of them. -/
theorem same_foldl {α : Type} {f : Supervisor → α → Supervisor} (hf : ∀ s a, Same s (f s a))
    (s : Supervisor) (as : List α) : Same s (as.foldl f s) :=
  rel_foldl .refl .trans hf s as

/-! ### What leaves lines in the log -/

/-- A supervisor with lines written to its log. -/
def logLines (s : Supervisor) (lines : List (Level × String)) : Supervisor :=
  lines.foldl (fun s line => s.log line.1 line.2) s

/-- Lines are logged in order. -/
theorem logLines_append (s : Supervisor) (lines more : List (Level × String)) :
    s.logLines (lines ++ more) = (s.logLines lines).logLines more := List.foldl_append

/-- The last of some lines is logged after the others. -/
theorem logLines_concat (s : Supervisor) (lines : List (Level × String)) (level : Level)
    (message : String) :
    s.logLines (lines ++ [(level, message)]) = (s.logLines lines).log level message :=
  logLines_append s lines _

/-- What leaves nothing but lines in the log. -/
def Logged (s s' : Supervisor) : Prop := ∃ lines, s' = s.logLines lines

theorem Logged.refl (s : Supervisor) : Logged s s := ⟨[], rfl⟩

theorem Logged.trans (h₁ : Logged s s') (h₂ : Logged s' s'') : Logged s s'' := by
  obtain ⟨lines, rfl⟩ := h₁
  obtain ⟨more, rfl⟩ := h₂
  exact ⟨lines ++ more, (logLines_append s lines more).symm⟩

/-- Logging a line is no more than that. -/
theorem logged_log (s : Supervisor) (level : Level) (message : String) :
    Logged s (s.log level message) := ⟨[(level, message)], rfl⟩

/-- A row of steps that log logs. -/
theorem logged_foldl {α : Type} {f : Supervisor → α → Supervisor} (hf : ∀ s a, Logged s (f s a))
    (s : Supervisor) (as : List α) : Logged s (as.foldl f s) :=
  rel_foldl .refl .trans hf s as

/-- Where lines are logged, all else is the same. -/
theorem Logged.same (h : Logged s s') : Same s s' := by
  obtain ⟨lines, rfl⟩ := h
  exact same_foldl (fun s line => same_log ..) s lines

/-- A start logs some lines when it puts a watch on the lock files. -/
theorem watchLockFiles_eq (s : Supervisor) :
    ∃ lines watch, s.watchLockFiles = { s.logLines lines with watch } := by
  unfold watchLockFiles
  split
  next files s₁ hfiles =>
    obtain ⟨lines, rfl⟩ : ∃ lines, s₁ = s.logLines lines := by
      split at hfiles
      · obtain ⟨-, rfl⟩ := Prod.mk.inj hfiles
        exact ⟨[], rfl⟩
      · obtain ⟨-, rfl⟩ := Prod.mk.inj hfiles
        exact ⟨[(.warn, _)], rfl⟩
    split
    · refine ⟨lines ++ [(.debug, "No lock files to watch.")], (s.logLines lines).watch, ?_⟩
      rw [logLines_concat]
      rfl
    · dsimp only
      rw [← logLines_concat]
      exact ⟨_, _, rfl⟩

/-- Watching lock files starts nothing and stops nothing. -/
theorem same_watchLockFiles (s : Supervisor) : Same s s.watchLockFiles := by
  obtain ⟨lines, watch, h⟩ := watchLockFiles_eq s
  have hlines : Same s (s.logLines lines) := Logged.same ⟨lines, rfl⟩
  rw [h]
  exact hlines.trans ⟨⟨rfl, rfl, rfl⟩, rfl, rfl, rfl, rfl, rfl, rfl, rfl, rfl⟩

/-- A warning about loaders is a line of the log. -/
theorem logged_warnLoaders (s : Supervisor) : Logged s s.warnLoaders :=
  logged_foldl (fun _ _ => logged_log ..) s _

/-- Warning about the loaders of all folders changes nothing but the log. -/
theorem same_warnLoaders (s : Supervisor) : Same s s.warnLoaders := (logged_warnLoaders s).same

/-- Discovering installations comes to lines of the log. -/
theorem logged_discoverInstallations (s : Supervisor) (projects : List Project) :
    Logged s (s.discoverInstallations projects).2 := by
  unfold discoverInstallations
  dsimp only
  split
  · exact logged_log ..
  · refine (logged_foldl (fun s i => ?_) s _).trans (logged_log ..)
    unfold warnMissing
    split
    · exact .refl s
    · exact logged_log ..

/-- All discovery does is to log. -/
theorem logged_discover (s : Supervisor) : Logged s s.discover.2 := by
  unfold discover
  dsimp only
  split
  · exact (logged_log ..).trans ((logged_log ..).trans (logged_log ..))
  · refine .trans ?_ (logged_discoverInstallations _ _)
    exact (logged_log ..).trans ((logged_log ..).trans ((logged_log ..).trans (logged_log ..)))

/-- Discovery changes nothing but the log. -/
theorem same_discover (s : Supervisor) : Same s s.discover.2 := (logged_discover s).same

/-! ### What the host does not see -/

/-- Two supervisors in one place of their lives of which the host has been told the same. -/
structure Silent (s s' : Supervisor) : Prop extends Beside s s' where
  phase_eq : s'.phase = s.phase
  calls_eq : s'.calls = s.calls
  context_eq : s'.context = s.context

theorem Silent.refl (s : Supervisor) : Silent s s := ⟨.refl s, rfl, rfl, rfl⟩

theorem Silent.trans (h₁ : Silent s s') (h₂ : Silent s' s'') : Silent s s'' :=
  ⟨h₁.toBeside.trans h₂.toBeside, h₂.phase_eq.trans h₁.phase_eq, h₂.calls_eq.trans h₁.calls_eq,
    h₂.context_eq.trans h₁.context_eq⟩

/-- Two such supervisors that also say the same about files. -/
structure Unseen (s s' : Supervisor) : Prop extends Silent s s' where
  store_eq : s'.store = s.store

theorem Unseen.refl (s : Supervisor) : Unseen s s := ⟨.refl s, rfl⟩

theorem Unseen.trans (h₁ : Unseen s s') (h₂ : Unseen s' s'') : Unseen s s'' :=
  ⟨h₁.toSilent.trans h₂.toSilent, h₂.store_eq.trans h₁.store_eq⟩

/-- The host does not see what happens to sessions, to documents and at the site. -/
theorem unseen_site (s : Supervisor) (sessions : List Session)
    (documents : List (Path × SessionId)) (site : Site) :
    Unseen s { s with sessions, documents, site } := ⟨⟨⟨rfl, rfl, rfl⟩, rfl, rfl, rfl⟩, rfl⟩

/-- A line of the log is not seen by the control loop or the host. -/
theorem unseen_log (s : Supervisor) (level : Level) (message : String) :
    Unseen s (s.log level message) := unseen_site ..

/-- A row of unseen steps is unseen. -/
theorem unseen_foldl {α : Type} {f : Supervisor → α → Supervisor} (hf : ∀ s a, Unseen s (f s a))
    (s : Supervisor) (as : List α) : Unseen s (as.foldl f s) :=
  rel_foldl .refl .trans hf s as

/-- Lines of the log are not seen. -/
theorem Logged.unseen (h : Logged s s') : Unseen s s' := by
  obtain ⟨lines, rfl⟩ := h
  exact unseen_foldl (fun s line => unseen_log ..) s lines

/-- Lock files are watched without anybody being told. -/
theorem unseen_watchLockFiles (s : Supervisor) : Unseen s s.watchLockFiles := by
  obtain ⟨lines, watch, h⟩ := watchLockFiles_eq s
  have hlines : Unseen s (s.logLines lines) := Logged.unseen ⟨lines, rfl⟩
  rw [h]
  exact hlines.trans ⟨⟨⟨rfl, rfl, rfl⟩, rfl, rfl, rfl⟩, rfl⟩

/-- Sessions are planned without anybody being told. -/
theorem unseen_planSessions (s : Supervisor) : Unseen s s.planSessions := by
  have hdiscover := (logged_discover s).unseen
  unfold planSessions
  generalize s.discover = found at hdiscover ⊢
  dsimp only
  split
  · exact hdiscover.trans ⟨⟨⟨rfl, rfl, rfl⟩, rfl, rfl, rfl⟩, rfl⟩
  · exact hdiscover.trans ⟨⟨⟨rfl, rfl, rfl⟩, rfl, rfl, rfl⟩, rfl⟩

/-- Sessions are started without anybody being told. -/
theorem unseen_startSessions (s : Supervisor) : Unseen s s.startSessions.2 := by
  unfold startSessions
  generalize beginStarts s.context s.sessions s.site = starting
  dsimp only
  generalize finishStarts starting.1 starting.2 = results
  have hs₁ : Unseen s { s with sessions := results.1.map Prod.fst, site := results.2 } :=
    unseen_site ..
  exact hs₁.trans (unseen_foldl (fun s _ => unseen_log s ..) _ _)

/-- Between its two statuses a start tells the host nothing. -/
theorem unseen_launch (s : Supervisor) : Unseen s s.launch.2 := by
  unfold launch
  split
  · exact unseen_log ..
  · have hwatched := (unseen_watchLockFiles s).trans (logged_warnLoaders _).unseen
    exact hwatched.trans ((unseen_planSessions _).trans (unseen_startSessions _))

/-! ### Starting and stopping -/

/-- **A start leaves the queue and the folders alone**, and it is no restart. -/
theorem beside_start (s : Supervisor) : Beside s s.start.2 := by
  unfold start
  split
  · let s₁ := { s with phase := .starting }.log .info "Starting extension..."
    have hs₁ : Beside s (s₁.tell (.status (some .loading))) := ⟨rfl, rfl, rfl⟩
    have hlaunch := hs₁.trans (unseen_launch (s₁.tell (.status (some .loading)))).toBeside
    exact hlaunch.trans ⟨rfl, rfl, rfl⟩
  · exact .refl s

/-- **A stop leaves the queue and the folders alone.** -/
theorem beside_stop (s : Supervisor) : Beside s s.stop := by
  unfold stop
  split
  · exact .refl s
  · exact ⟨rfl, rfl, rfl⟩

/-! ### Documents -/

/-- What happens by itself is not seen. -/
theorem unseen_settle (s : Supervisor) : Unseen s s.settle := unseen_site ..

/-- Nobody is told of a document that is opened. -/
theorem unseen_openDocument (s : Supervisor) (path : Path) (text : String) :
    Unseen s (s.openDocument path text).2 := by
  unfold openDocument
  split
  · exact .refl s
  next language _ =>
    split
    · exact .refl s
    next x _ =>
      have hsync : Unseen s (s.syncIn x path language text).2 := unseen_site ..
      split
      next heq =>
        rw [heq] at hsync
        exact hsync
      next heq =>
        rw [heq] at hsync
        exact hsync.trans (unseen_site ..)

/-- Nothing is seen of a document that is changed. -/
theorem unseen_changeDocument (s : Supervisor) (path : Path) (text : String) :
    Unseen s (s.changeDocument path text).2 := by
  unfold changeDocument
  split
  · exact unseen_openDocument s path text
  · split
    · exact .refl s
    next language _ =>
      split
      · have hdisown : Unseen s (s.disown path) := unseen_site ..
        exact hdisown.trans (unseen_openDocument _ path text)
      next x _ =>
        have hsync : Unseen s (s.syncIn x path language text).2 := unseen_site ..
        split
        next heq =>
          rw [heq] at hsync
          exact hsync
        next heq =>
          rw [heq] at hsync
          exact hsync

/-- Nothing is seen of a document that is closed. -/
theorem unseen_closeDocument (s : Supervisor) (path : Path) :
    Unseen s (s.closeDocument path).2 := by
  unfold closeDocument
  split
  · exact .refl s
  · dsimp only
    split
    · exact unseen_site ..
    · exact unseen_site ..

/-- Nothing is seen of a document that is read and opened for an action. -/
theorem unseen_openFromDisk (s : Supervisor) (path : Path) :
    Unseen s (s.openFromDisk path).2 := by
  unfold openFromDisk
  split
  · exact .refl s
  · dsimp only
    split
    · exact unseen_settle s
    next text _ =>
      have hopen := (unseen_settle s).trans (unseen_openDocument s.settle path text)
      split
      next heq =>
        rw [heq] at hopen
        exact hopen
      next heq =>
        rw [heq] at hopen
        exact hopen

/-- Asking for actions tells nobody anything; what comes of them is told by others. -/
theorem unseen_fixAllActions (s : Supervisor) (path : Path) :
    Unseen s (s.fixAllActions path).2 := by
  have hopen := unseen_openFromDisk s path
  unfold fixAllActions
  split
  next heq =>
    rw [heq] at hopen
    exact hopen
  next s₁ heq =>
    rw [heq] at hopen
    split
    · exact hopen
    · split
      · exact hopen
      · exact hopen.trans (unseen_site ..)

/-! ### Reports -/

/-- A session is retired without the host being told. -/
theorem silent_retire (s : Supervisor) (x : Session) (reason : StopReason) :
    Silent s (s.retire x reason) := by
  unfold retire
  dsimp only
  split
  · exact ⟨⟨rfl, rfl, rfl⟩, rfl, rfl, rfl⟩
  · exact ⟨⟨rfl, rfl, rfl⟩, rfl, rfl, rfl⟩

/-- A supervisor that handles a report leaves it to others to tell the host. -/
theorem silent_handleReport (s : Supervisor) (e : ServerEvent) :
    Silent s (s.handleReport e).2 := by
  unfold handleReport
  split
  · split
    · exact ⟨⟨rfl, rfl, rfl⟩, rfl, rfl, rfl⟩
    · exact .refl s
  · split
    · exact .refl s
    · split
      · exact silent_retire ..
      · exact .refl s

/-- Where no report is next, none waits. -/
theorem events_of_nextReport?_eq_none (h : s.nextReport? = none) : s.site.events = [] := by
  unfold nextReport? at h
  split at h
  next hevents => exact hevents
  · exact absurd h (by simp)

/-- The next report is the first that waits at the site. -/
theorem nextReport?_eq_some {e : ServerEvent} (h : s.nextReport? = some (e, s')) :
    ∃ rest, s.site.events = e :: rest ∧
      s' = { s with site := { s.site with events := rest } }.readOn := by
  unfold nextReport? at h
  split at h
  · exact absurd h (by simp)
  next first rest hevents =>
    obtain ⟨rfl, rfl⟩ := Prod.mk.inj (Option.some.inj h)
    exact ⟨rest, hevents, rfl⟩

/-- Taking the next report is not seen. -/
theorem unseen_nextReport? {e : ServerEvent} (h : s.nextReport? = some (e, s')) : Unseen s s' := by
  obtain ⟨rest, -, rfl⟩ := nextReport?_eq_some h
  unfold readOn
  split
  · exact unseen_site ..
  · exact unseen_site ..

/-! ### Commands and restarts -/

/-- Fixing a document leaves queue and folders alone. -/
theorem beside_autofix (s : Supervisor) (active : Option Path) : Beside s (s.autofix active) := by
  unfold autofix
  split
  · exact (same_log ..).toBeside
  next path =>
    have hfix := (unseen_fixAllActions s path).toBeside
    split
    next heq =>
      rw [heq] at hfix
      exact hfix.trans (same_tell ..).toBeside
    next heq =>
      rw [heq] at hfix
      exact hfix.trans (same_log ..).toBeside

/-- A document is opened again without anybody being told. -/
theorem unseen_reopen (s : Supervisor) (path : Path) : Unseen s (s.reopen path) := by
  unfold reopen
  dsimp only
  split
  · exact unseen_settle s
  · exact (unseen_settle s).trans (unseen_openDocument ..)

/-- A restart counts itself, and leaves the rest to the control loop. -/
theorem beside_restart (s : Supervisor) :
    Beside { s with restarts := s.restarts + 1 } s.restart.2 := by
  unfold restart
  dsimp only
  generalize hs₁ : ({ s.log .info "Restarting extension..." with restarts := s.restarts + 1 } :
    Supervisor) = s₁
  have hlogged : Beside { s with restarts := s.restarts + 1 } s₁ := by
    rw [← hs₁]
    exact ⟨rfl, rfl, rfl⟩
  have hstarted := hlogged.trans ((beside_stop s₁).trans (beside_start s₁.stop))
  exact hstarted.trans (unseen_foldl unseen_reopen _ _).toBeside

/-- A command leaves queue and folders alone, and is no restart unless it is the one that asks for
it. -/
theorem beside_perform (s : Supervisor) (active : Option Path) {c : Command} (h : c ≠ .restart) :
    Beside s (s.perform active c) := by
  cases c with
  | restart => exact absurd rfl h
  | showOutput => exact (same_tell ..).toBeside
  | autofix => exact beside_autofix s active
  | showCommands => exact .refl s

/-- All that executing a command comes to: the palette is opened, and what is picked from it is
done, if anything is; or the command itself is done. -/
theorem execute_cases {P : Supervisor → Prop} {active : Option Path} {picked : Option Command}
    {c : Command} (hpalette : P s.openPalette) (hpicked : ∀ c, P (s.openPalette.perform active c))
    (hperform : ∀ c, P (s.perform active c)) : P (s.execute active picked c) := by
  unfold execute
  split
  · cases picked with
    | none => exact hpalette
    | some c => exact hpicked c
  · exact hperform c

/-- The command that is done in the end: the one that is picked, if the command opens the
palette. -/
def chosen? (picked : Option Command) (c : Command) : Option Command :=
  if c = .showCommands then picked else some c

/-- The supervisor when a command is done: the palette may have been opened before. -/
def asked (s : Supervisor) (c : Command) : Supervisor :=
  if c = .showCommands then s.openPalette else s

/-- A command is performed as it is, and the one that shows the others as what is picked. -/
theorem execute_eq (s : Supervisor) (active : Option Path) (picked : Option Command) (c : Command) :
    s.execute active picked c = (s.asked c).performPicked active (chosen? picked c) := by
  unfold execute asked chosen?
  split
  · rfl
  · rfl

end Supervisor
end Switchboard
