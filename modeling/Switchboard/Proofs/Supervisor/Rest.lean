/-
# Being at rest

A supervisor that is stopped is at rest: nothing is left of what it has started
(`Supervisor.AtRest`).  Only a start ends that, for everything else that can be
done with a supervisor needs a session, and so does a report, however late it
comes (`Supervisor.Still`).  So between operations a supervisor is stopped and at
rest, or it is running, in every history of operations, reports and changes on
the disk (`Supervisor.steady_history`), as long as its operations come to an end.
A stop that does leads to rest; it does not where a client and its server wait for
each other, and a server can bring that about (`Supervisor.stop_waits_for_ever`).
-/

import Switchboard.Proofs.Supervisor.Ending
import Switchboard.Proofs.Supervisor.Roster
import Switchboard.Proofs.Supervisor.Routing
import Switchboard.Proofs.Supervisor.Run
import Switchboard.Supervisor.LockFiles

namespace Switchboard
namespace Supervisor

variable {s s' s'' : Supervisor}

/-! ### Rest -/

/-- Nothing is left of what a supervisor has started: it has no session and no
watch, no document is open, and nothing is said about any file. -/
structure AtRest (s : Supervisor) : Prop where
  sessions_eq : s.sessions = []
  watch_eq : s.watch = none
  documents_eq : s.documents = []
  store_eq : s.store = .empty

/-- A supervisor is stopped or running, and at rest when it is stopped. -/
structure Steady (s : Supervisor) : Prop where
  phase : s.phase = .stopped ∨ s.phase = .running
  rest : s.phase = .stopped → s.AtRest

/-- What neither starts nor stops a supervisor, nor ends its rest; no session gets an identity. -/
structure Still (s s' : Supervisor) : Prop where
  phase_eq : s'.phase = s.phase
  next_eq : s'.nextSession = s.nextSession
  rest : s.AtRest → s'.AtRest

theorem Still.refl (s : Supervisor) : Still s s := ⟨rfl, rfl, id⟩

theorem Still.trans (h₁ : Still s s') (h₂ : Still s' s'') : Still s s'' :=
  ⟨h₂.phase_eq.trans h₁.phase_eq, h₂.next_eq.trans h₁.next_eq, fun h => h₂.rest (h₁.rest h)⟩

/-- A steady supervisor stays steady while it is still. -/
theorem Steady.still (h : s.Steady) (hs : Still s s') : s'.Steady :=
  ⟨hs.phase_eq ▸ h.phase, fun hphase => hs.rest (h.rest (hs.phase_eq ▸ hphase))⟩

/-- A supervisor that runs is steady. -/
theorem Steady.of_running (h : s.phase = .running) : s.Steady :=
  ⟨.inr h, fun hphase => absurd (h.symm.trans hphase) (by simp)⟩

/-- A row of still steps is still. -/
theorem still_foldl {α : Type} {f : Supervisor → α → Supervisor} (hf : ∀ s a, Still s (f s a))
    (s : Supervisor) (as : List α) : Still s (as.foldl f s) :=
  rel_foldl .refl .trans hf s as

/-- At rest no session is found. -/
theorem AtRest.session?_eq (h : s.AtRest) (id : SessionId) : s.session? id = none := by
  rw [session?, h.sessions_eq]
  rfl

/-! ### What keeps a supervisor still -/

/-- A line of the log neither starts nor stops anything. -/
theorem still_log (s : Supervisor) (level : Level) (message : String) :
    Still s (s.log level message) :=
  ⟨rfl, rfl, fun h => ⟨h.sessions_eq, h.watch_eq, h.documents_eq, h.store_eq⟩⟩

/-- Telling the host something neither starts nor stops anything. -/
theorem still_tell (s : Supervisor) (call : HostCall) : Still s (s.tell call) :=
  ⟨rfl, rfl, fun h => ⟨h.sessions_eq, h.watch_eq, h.documents_eq, h.store_eq⟩⟩

/-- What happens at the site alone. -/
theorem still_site (s : Supervisor) (site : Site) : Still s { s with site } :=
  ⟨rfl, rfl, fun h => ⟨h.sessions_eq, h.watch_eq, h.documents_eq, h.store_eq⟩⟩

/-- Where there are no sessions, none is put in. -/
theorem still_putSession (s : Supervisor) (site : Site) (x : Session) :
    Still s ({ s with site }.putSession x) := by
  refine ⟨rfl, rfl, fun h => ⟨?_, h.watch_eq, h.documents_eq, h.store_eq⟩⟩
  rw [putSession, h.sessions_eq]
  rfl

/-- At rest nothing is left to settle. -/
theorem still_settle (s : Supervisor) : Still s s.settle := by
  refine ⟨rfl, rfl, fun h => ⟨?_, h.watch_eq, h.documents_eq, h.store_eq⟩⟩
  change (settleSessions s.sessions s.site).1 = []
  rw [h.sessions_eq]
  rfl

/-- At rest no session serves a document, so none is opened. -/
theorem still_openDocument (s : Supervisor) (path : Path) (text : String) :
    Still s (s.openDocument path text).2 := by
  unfold openDocument
  split
  · exact .refl s
  next language _ =>
    split
    · exact .refl s
    next x hx =>
      have hsync : Still s (s.syncIn x path language text).2 := still_putSession s _ _
      have hawake : ¬ s.AtRest := fun h => by
        rw [serving?, h.sessions_eq] at hx
        exact absurd hx (by simp)
      split
      next heq =>
        rw [heq] at hsync
        exact hsync
      next heq =>
        rw [heq] at hsync
        exact ⟨hsync.phase_eq, hsync.next_eq, fun h => absurd h hawake⟩

/-- At rest nobody serves a document. -/
theorem still_disown (s : Supervisor) (path : Path) : Still s (s.disown path) := by
  refine ⟨rfl, rfl, fun h => ⟨h.sessions_eq, h.watch_eq, ?_, h.store_eq⟩⟩
  rw [disown, h.documents_eq]
  rfl

/-- At rest no document is changed. -/
theorem still_changeDocument (s : Supervisor) (path : Path) (text : String) :
    Still s (s.changeDocument path text).2 := by
  unfold changeDocument
  split
  · exact still_openDocument s path text
  · split
    · exact .refl s
    next language _ =>
      split
      · exact (still_disown s path).trans (still_openDocument _ path text)
      next x _ =>
        have hsync : Still s (s.syncIn x path language text).2 := still_putSession s _ _
        split
        next heq =>
          rw [heq] at hsync
          exact hsync
        next heq =>
          rw [heq] at hsync
          exact hsync

/-- At rest no document is closed. -/
theorem still_closeDocument (s : Supervisor) (path : Path) :
    Still s (s.closeDocument path).2 := by
  unfold closeDocument
  split
  · exact .refl s
  · dsimp only
    split
    · exact still_disown s path
    · exact (still_disown s path).trans (still_putSession _ _ _)

/-- At rest no document is opened for an action. -/
theorem still_openFromDisk (s : Supervisor) (path : Path) :
    Still s (s.openFromDisk path).2 := by
  unfold openFromDisk
  split
  · exact .refl s
  · dsimp only
    split
    · exact still_settle s
    next text _ =>
      have hopen := (still_settle s).trans (still_openDocument s.settle path text)
      split
      next heq =>
        rw [heq] at hopen
        exact hopen
      next heq =>
        rw [heq] at hopen
        exact hopen

/-- At rest no server is asked for actions. -/
theorem still_fixAllActions (s : Supervisor) (path : Path) :
    Still s (s.fixAllActions path).2 := by
  have hopen := still_openFromDisk s path
  unfold fixAllActions
  split
  next heq =>
    rw [heq] at hopen
    exact hopen
  next s₁ heq =>
    rw [heq] at hopen
    split
    · exact hopen
    · split
      · exact hopen
      · exact hopen.trans (still_putSession s₁ _ _)

/-- At rest there is nothing to fix. -/
theorem still_autofix (s : Supervisor) (active : Option Path) : Still s (s.autofix active) := by
  unfold autofix
  split
  · exact still_log ..
  next path =>
    have hfix := still_fixAllActions s path
    split
    next heq =>
      rw [heq] at hfix
      exact hfix.trans (still_tell ..)
    next heq =>
      rw [heq] at hfix
      exact hfix.trans (still_log ..)

/-- At rest no document is opened again. -/
theorem still_reopen (s : Supervisor) (path : Path) : Still s (s.reopen path) := by
  unfold reopen
  dsimp only
  split
  · exact still_settle s
  · exact (still_settle s).trans (still_openDocument ..)

/-! ### Reports -/

/-- **At rest a report changes nothing**, whatever it says and of whatever session. -/
theorem AtRest.handleReport_eq (h : s.AtRest) (e : ServerEvent) :
    s.handleReport e = (false, s) := by
  cases e with
  | diagnostics session path items =>
    rw [handleReport, h.session?_eq]
    rfl
  | stopped session reason => rw [handleReport, h.session?_eq]

/-- A report neither starts nor stops a supervisor. -/
theorem still_handleReport (s : Supervisor) (e : ServerEvent) : Still s (s.handleReport e).2 := by
  have hkept : (s.handleReport e).2.phase = s.phase ∧
      (s.handleReport e).2.nextSession = s.nextSession := by
    unfold handleReport retire
    split
    · split <;> exact ⟨rfl, rfl⟩
    · split
      · exact ⟨rfl, rfl⟩
      · split
        · dsimp only
          split <;> exact ⟨rfl, rfl⟩
        · exact ⟨rfl, rfl⟩
  exact ⟨hkept.1, hkept.2, fun h => by rwa [h.handleReport_eq]⟩

/-- At rest nobody reads on. -/
theorem still_readOn (s : Supervisor) : Still s s.readOn := by
  unfold readOn
  split
  · exact .refl s
  · exact still_settle s

/-- Taking the next report ends no rest. -/
theorem still_nextReport? {e : ServerEvent} (h : s.nextReport? = some (e, s')) : Still s s' := by
  obtain ⟨rest, -, rfl⟩ := nextReport?_eq_some h
  exact (still_site s _).trans (still_readOn _)

/-- Handling reports ends no rest. -/
theorem still_poll (budget : Nat) (s : Supervisor) : Still s (s.poll budget).2 := by
  induction budget generalizing s with
  | zero => exact .refl s
  | succ budget ih =>
    unfold poll
    split
    · exact .refl s
    next e s₁ hnext =>
      exact (still_nextReport? hnext).trans ((still_handleReport s₁ e).trans (ih _))

/-! ### Starting and stopping -/

/-- A start ends with a supervisor that runs, also when no session does. -/
theorem phase_start (h : s.phase = .stopped) : s.start.2.phase = .running := by
  rw [start, if_pos h]
  rfl

/-- A start leaves a supervisor steady. -/
theorem steady_start (h : s.Steady) : s.start.2.Steady := by
  by_cases hphase : s.phase = .stopped
  · exact .of_running (phase_start hphase)
  · rwa [start, if_neg hphase]

/-- **A stop leaves a supervisor at rest.** -/
theorem stop_rests (h : s.phase = .stopped → s.AtRest) :
    s.stop.phase = .stopped ∧ s.stop.AtRest := by
  unfold stop
  split
  next hphase => exact ⟨hphase, h hphase⟩
  · exact ⟨rfl, rfl, rfl, rfl, rfl⟩

/-- A supervisor that is stopped is not stopped again: the host is not told anything. -/
theorem stop_of_stopped (h : s.phase = .stopped) : s.stop = s := by rw [stop, if_pos h]

/-- A stop leaves a supervisor steady. -/
theorem steady_stop (h : s.Steady) : s.stop.Steady := by
  obtain ⟨hphase, hrest⟩ := stop_rests h.rest
  exact ⟨.inl hphase, fun _ => hrest⟩

/-- A restart ends with a supervisor that runs: it is stopped, started, and only
documents are opened after that. -/
theorem phase_restart (h : s.Steady) : s.restart.2.phase = .running := by
  unfold restart
  dsimp only
  have hcounted :
      Still s { s.log .info "Restarting extension..." with restarts := s.restarts + 1 } :=
    ⟨rfl, rfl, fun h => ⟨h.sessions_eq, h.watch_eq, h.documents_eq, h.store_eq⟩⟩
  have hstarted := phase_start (stop_rests (h.still hcounted).rest).1
  exact (still_foldl still_reopen _ _).phase_eq.trans hstarted

/-- A command leaves a supervisor steady. -/
theorem steady_perform (h : s.Steady) (active : Option Path) (c : Command) :
    (s.perform active c).Steady := by
  cases c with
  | restart => exact .of_running (phase_restart h)
  | showOutput => exact h.still (still_tell ..)
  | autofix => exact h.still (still_autofix s active)
  | showCommands => exact h

/-- A supervisor stays steady when the palette is opened for a command. -/
theorem steady_execute (h : s.Steady) (active : Option Path) (picked : Option Command)
    (c : Command) : (s.execute active picked c).Steady := by
  have hpalette : s.openPalette.Steady := h.still (still_tell ..)
  exact execute_cases hpalette (steady_perform hpalette active) (steady_perform h active)

/-! ### Changes on the disk -/

/-- At rest there is no watch that notices anything. -/
theorem still_noticeAt (s : Supervisor) (kind : ChangeFilter.Kind) (place : List Bytes) :
    Still s (s.noticeAt kind place) := by
  unfold noticeAt
  split
  · exact .refl s
  next w hw =>
    have hawake : ¬ s.AtRest := fun h => absurd (hw.symm.trans h.watch_eq) (by simp)
    dsimp only
    split
    · exact ⟨rfl, rfl, fun h => absurd h hawake⟩
    · exact ⟨rfl, rfl, fun h => absurd h hawake⟩

/-- At rest it does not matter what is on the disk. -/
theorem still_withDisk (s : Supervisor) (d : Disk) : Still s (s.withDisk d) := by
  refine ⟨rfl, rfl, fun h => ⟨h.sessions_eq, ?_, h.documents_eq, h.store_eq⟩⟩
  rw [withDisk, h.watch_eq]
  rfl

/-- An entry that is put on the disk ends no rest. -/
theorem still_putEntry (s : Supervisor) (path : Path) (node : Node) :
    Still s (s.putEntry path node) := by
  unfold putEntry
  dsimp only
  split
  · exact (still_withDisk s _).trans (still_noticeAt ..)
  · exact still_withDisk s _

/-- An entry that is renamed ends no rest. -/
theorem still_renameEntry (s : Supervisor) (source target : Path) :
    Still s (s.renameEntry source target) :=
  (still_withDisk s _).trans (still_foldl (fun s place => still_noticeAt s .modify place) _ _)

/-! ### Histories -/

/-- At rest there is no client to do anything with. -/
theorem still_withClientOf (s : Supervisor) (id : SessionId) (f : Client → Site → Client × Site) :
    Still s (s.withClientOf id f) := by
  unfold withClientOf
  split
  · exact .refl s
  · split
    · exact .refl s
    · exact still_putSession ..

/-- Every move keeps a supervisor steady. -/
theorem steady_after (h : s.Steady) (m : Move) : (s.after m).Steady := by
  cases m with
  | start => exact steady_start h
  | stop => exact steady_stop h
  | restart => exact .of_running (phase_restart h)
  | opened path text => exact h.still (still_openDocument s path text)
  | changed path text => exact h.still (still_changeDocument s path text)
  | closed path => exact h.still (still_closeDocument s path)
  | fixed path => exact h.still (still_fixAllActions s path)
  | command active picked c => exact steady_execute h active picked c
  | folders paths =>
    exact h.still ⟨rfl, rfl, fun h => ⟨h.sessions_eq, h.watch_eq, h.documents_eq, h.store_eq⟩⟩
  | report => exact h.still (still_poll 1 s)
  | settle => exact h.still (still_settle s)
  | read id frames =>
    exact h.still (still_withClientOf s id fun c site => readSome c site frames)
  | act id reaction =>
    exact h.still (still_withClientOf s id fun c site => (acted c reaction, site))
  | world disk now => exact h.still (still_site s _)

/-- Every run of moves leaves a supervisor steady. -/
theorem Steady.run (h : s.Steady) (moves : List Move) : (s.run moves).Steady := by
  induction moves using List.reverseRecOn with
  | nil => exact h
  | append_singleton moves m ih =>
    rw [run_append]
    exact steady_after ih m

/-- What can happen around a supervisor: a move, a report that comes late, of any
session and with anything to say, or a change on the disk that a watch may notice. -/
inductive Occurrence where
  | moved (m : Move)
  | late (e : ServerEvent)
  | written (path : Path) (node : Node)
  | removed (path : Path)
  | renamed (source target : Path)

/-- A supervisor after something that happens around it. -/
def afterwards (s : Supervisor) : Occurrence → Supervisor
  | .moved m => s.after m
  | .late e => { s with site := s.site.report e }
  | .written path node => s.putEntry path node
  | .removed path => s.removeEntry path
  | .renamed source target => s.renameEntry source target

/-- A supervisor after all that has happened, in order. -/
def history (s : Supervisor) (os : List Occurrence) : Supervisor := os.foldl afterwards s

/-- Whatever happens keeps a supervisor steady. -/
theorem steady_afterwards (h : s.Steady) (o : Occurrence) : (s.afterwards o).Steady := by
  cases o with
  | moved m => exact steady_after h m
  | late e => exact h.still (still_site s _)
  | written path node => exact h.still (still_putEntry s path node)
  | removed path => exact h.still (still_withDisk s _)
  | renamed source target => exact h.still (still_renameEntry s source target)

/-- **Every history leaves a supervisor steady.** -/
theorem Steady.history (h : s.Steady) (os : List Occurrence) : (s.history os).Steady := by
  induction os generalizing s with
  | nil => exact h
  | cons o os ih => exact ih (steady_afterwards h o)

/-- A new supervisor is stopped and at rest. -/
theorem steady_of_make {settings : Settings} {folders : List Path} {logDir : Option Path}
    {processId : Nat} {site : Site} (h : make settings folders logDir processId site = .ok s) :
    s.Steady := by
  unfold make at h
  split at h
  · exact absurd h (by simp)
  · obtain rfl := Except.ok.inj h
    exact ⟨.inl rfl, fun _ => ⟨rfl, rfl, rfl, rfl⟩⟩

/-- What a watch notices keeps nobody waiting and gets nobody on. -/
theorem stuck_noticeAt (s : Supervisor) (kind : ChangeFilter.Kind) (place : List Bytes) :
    (s.noticeAt kind place).site.stuck = s.site.stuck := by
  unfold noticeAt
  split
  · rfl
  · dsimp only
    split <;> rfl

/-- Whatever happens after an operation that does not come to an end, it does not. -/
theorem stuck_afterwards (h : s.site.stuck = true) (o : Occurrence) :
    (s.afterwards o).site.stuck = true := by
  cases o with
  | moved m => exact stuck_after h m
  | late e => exact h
  | removed path => exact h
  | written path node =>
    change (s.putEntry path node).site.stuck = true
    unfold putEntry
    dsimp only
    split
    · exact (stuck_noticeAt ..).trans h
    · exact h
  | renamed source target =>
    refine rel_foldl (R := fun s s' => s.site.stuck = true → s'.site.stuck = true) (fun _ => id)
      (fun h₁ h₂ h => h₂ (h₁ h)) (fun s place h => (stuck_noticeAt s .modify place).trans h) _ _ ?_
    exact h

/-- Nothing that happens gets an operation on that does not come to an end. -/
theorem stuck_history (h : s.site.stuck = true) (os : List Occurrence) :
    (s.history os).site.stuck = true := by
  induction os generalizing s with
  | nil => exact h
  | cons o os ih => exact ih (stuck_afterwards h o)

/-- **Between operations a supervisor is stopped or running, and at rest when it is stopped**,
in every history whose operations all come to an end: reports that come late change nothing
then, and neither does another stop, with nothing told to the host.  A stop that comes to an
end leads there from everywhere.  It does come to an end where every server reads whatever it
is sent or is gone, and it does not where one of them and its client wait for each other. -/
theorem steady_history {settings : Settings} {folders : List Path} {logDir : Option Path}
    {processId : Nat} {site : Site} (h : make settings folders logDir processId site = .ok s)
    (os : List Occurrence) (hgoes : (s.history os).site.stuck = false) :
    (∀ front, front <+: os → (s.history front).site.stuck = false) ∧
      ((s.history os).phase = .stopped ∨ (s.history os).phase = .running) ∧
      ((s.history os).phase = .stopped → (s.history os).AtRest ∧
        (∀ e, (s.history os).handleReport e = (false, s.history os)) ∧
        (s.history os).stop = s.history os) ∧
      ((s.history os).stop.site.stuck = false →
        (s.history os).stop.phase = .stopped ∧ (s.history os).stop.AtRest ∧
        (s.history os).stop.stop = (s.history os).stop) ∧
      ((∀ x ∈ (s.history os).sessions, ∀ c, x.client? = some c → c.process.Ready) →
        (s.history os).stop.site.stuck = false) ∧
      ((∃ x ∈ (s.history os).sessions, ∃ c, x.client? = some c ∧ c.Wedged (s.history os).site) →
        (s.history os).stop.site.stuck = true) := by
  have hsteady := (steady_of_make h).history os
  obtain ⟨hphase, hrest⟩ := stop_rests hsteady.rest
  refine ⟨fun front hfront => ?_, hsteady.phase, fun hstopped => ?_,
    fun _ => ⟨hphase, hrest, stop_of_stopped hphase⟩,
    fun hready => (stuck_stop_of_ready hready).trans hgoes, fun ⟨x, hx, c, hc, hwedged⟩ => ?_⟩
  · obtain ⟨back, rfl⟩ := hfront
    by_contra hstuck
    have hends : (s.history (front ++ back)).site.stuck = true := by
      rw [history, List.foldl_append]
      exact stuck_history (Bool.not_eq_false _ ▸ hstuck) back
    exact absurd (hgoes.symm.trans hends) (by simp)
  · have hatRest := hsteady.rest hstopped
    exact ⟨hatRest, hatRest.handleReport_eq, stop_of_stopped hstopped⟩
  · refine stuck_stop_of_wedged (fun hstopped => ?_) hx hc hwedged
    rw [(hsteady.rest hstopped).sessions_eq] at hx
    exact absurd hx List.not_mem_nil

/-- A session whose server is ready has a document open; it is stopped, and its
reports that come after that are handled in vain. -/
theorem steady_history_late :
    ∃ s, make .default [Path.ofText "/w"] none 7 (.ofDisk nestedProjects) = .ok s ∧
      (s.history [.moved .start, .moved (.opened (.ofText "/w/a.ts") "let a;\n")]).documents =
        [(.ofText "/w/a.ts", 1)] ∧
      (s.history [.moved .start, .moved (.opened (.ofText "/w/a.ts") "let a;\n"), .moved .stop,
        .late (.diagnostics 1 (.ofText "/w/a.ts") [⟨.error, "late", 0, 0, none, "biome"⟩]),
        .late (.stopped 2 .exited), .moved .report, .moved .report]).AtRest := by
  have hmake : make .default [Path.ofText "/w"] none 7 (.ofDisk nestedProjects) = .ok _ := rfl
  refine ⟨_, hmake, by decide +kernel, ?_⟩
  exact ((steady_history hmake _ (by decide +kernel)).2.2.1 (by decide +kernel)).1

/-! ### A stop that does not come to an end -/

/-- The only session of a supervisor with its client as some move leaves it. -/
theorem withClientOf_eq {x : Session} {c : Client} (hsessions : s.sessions = [x])
    (hc : x.client? = some c) (f : Client → Site → Client × Site) :
    s.withClientOf x.id f =
      { s with sessions := [x.withClient (f c s.site).1], site := (f c s.site).2 } := by
  have hfound : s.session? x.id = some x := by
    rw [session?, hsessions]
    exact List.find?_cons_of_pos (p := fun y : Session => y.id == x.id) (beq_self_eq_true x.id)
  have hsame : (x.id == (x.withClient (f c s.site).1).id) = true := beq_self_eq_true x.id
  unfold withClientOf
  rw [hfound]
  dsimp only
  rw [hc]
  dsimp only
  rw [putSession, hsessions, List.map_singleton, if_pos hsame]

/-- **A server that asks so much that the answers do not fit, and reads no more, keeps its
supervisor from stopping**, with nobody waiting before. -/
theorem stop_waits {x : Session} {c : Client} (hsessions : s.sessions = [x])
    (hc : x.client? = some c) (hphase : s.phase = .running) (hgoes : s.site.stuck = false)
    (hended : c.ended = none) (hwriting : c.writing = true) (hopen : c.process.isOpen = true)
    (hunread : c.unread = []) (hheld : s.site.holds c.session = false) {frame : Json}
    (hframe : Client.Asks frame) {n : Nat} (hn : pipeSize + Client.outboxLimit < n) :
    (s.run [.act x.id ⟨Frame.writeAll (List.replicate n frame), false, false, true⟩,
        .settle]).phase = .running ∧
      (s.run [.act x.id ⟨Frame.writeAll (List.replicate n frame), false, false, true⟩,
        .settle]).site.stuck = false ∧
      (s.run [.act x.id ⟨Frame.writeAll (List.replicate n frame), false, false, true⟩,
        .settle]).stop.site.stuck = true := by
  let asked := acted c ⟨Frame.writeAll (List.replicate n frame), false, false, true⟩
  let settled := asked.settle s.site
  have hrun : s.run [.act x.id ⟨Frame.writeAll (List.replicate n frame), false, false, true⟩,
      .settle] = { s with sessions := [(x.withClient asked).withClient settled.1],
                          site := settled.2 } := by
    have hasked : s.after
        (.act x.id ⟨Frame.writeAll (List.replicate n frame), false, false, true⟩) =
          { s with sessions := [x.withClient asked] } :=
      withClientOf_eq hsessions hc _
    rw [run, List.foldl_cons, List.foldl_cons, List.foldl_nil, hasked]
    simp only [after, settle, settleSessions, Session.settle, Session.client?_withClient hc,
      settled]
  have hwedged : settled.1.Wedged settled.2 := by
    have hstill : asked.process.isOpen = true := by
      simpa [asked, acted, Process.isOpen] using hopen
    refine Client.wedged_settle_of_asks hframe hn ?_ hended hwriting hstill rfl hheld
    exact (congrArg (· ++ Frame.writeAll _) hunread).trans (List.nil_append _)
  have hstuck : settled.2.stuck = false := (Client.stuck_settle asked s.site).trans hgoes
  rw [hrun]
  refine ⟨hphase, hstuck, stuck_stop_of_wedged ?_ (List.mem_singleton_self _) ?_ hwedged⟩
  · exact fun hstopped => absurd (hphase.symm.trans hstopped) (by simp)
  · exact Session.client?_withClient (Session.client?_withClient hc asked) settled.1

/-- A question for settings. -/
def settingsAsked : Json :=
  Message.request 1 "workspace/configuration" (some (Json.ofMembers [("items", .arr [])]))

/-- A question for settings is one that a server can ask. -/
theorem asks_settingsAsked : Client.Asks settingsAsked :=
  ⟨by decide, _, _, _, rfl⟩

/-- **A stop can wait for ever**: the server of a session that runs asks for settings and reads
nothing more, and the answers do not fit into its pipe and what may wait behind it. -/
theorem stop_waits_for_ever :
    ∃ s, make .default [Path.ofText "/w"] none 7 (.ofDisk (diskWith plainServer [])) = .ok s ∧
      (s.history [.moved .start,
        .moved (.act 1 ⟨Frame.writeAll (List.replicate 65601 settingsAsked), false, false, true⟩),
        .moved .settle]).phase = .running ∧
      (s.history [.moved .start,
        .moved (.act 1 ⟨Frame.writeAll (List.replicate 65601 settingsAsked), false, false, true⟩),
        .moved .settle]).site.stuck = false ∧
      (s.history [.moved .start,
        .moved (.act 1 ⟨Frame.writeAll (List.replicate 65601 settingsAsked), false, false, true⟩),
        .moved .settle]).stop.site.stuck = true := by
  -- what the only session of a supervisor is like that has just started
  obtain ⟨s, hmake, hids, hclients, hphase, hgoes⟩ : ∃ s : Supervisor,
      make .default [Path.ofText "/w"] none 7 (.ofDisk (diskWith plainServer [])) = .ok s ∧
        s.start.2.sessions.map Session.id = [1] ∧
        s.start.2.sessions.map (fun x => x.client?.map fun c => (c.ended.isNone, c.writing,
          c.process.isOpen, c.unread.isEmpty, s.start.2.site.holds c.session)) =
            [some (true, true, true, true, false)] ∧
        s.start.2.phase = .running ∧ s.start.2.site.stuck = false :=
    ⟨_, rfl, by decide +kernel, by decide +kernel, by decide +kernel, by decide +kernel⟩
  refine ⟨s, hmake, ?_⟩
  obtain ⟨x, hsessions, hid⟩ := List.map_eq_singleton_iff.1 hids
  rw [hsessions] at hclients
  obtain ⟨c, hc, hfacts⟩ := Option.map_eq_some_iff.1 (List.singleton_inj.1 hclients)
  simp only [Prod.mk.injEq] at hfacts
  obtain ⟨hended, hwriting, hopen, hunread, hheld⟩ := hfacts
  have hwaits := stop_waits hsessions hc hphase hgoes (Option.isNone_iff_eq_none.1 hended) hwriting
    hopen (List.isEmpty_iff.1 hunread) hheld asks_settingsAsked (n := 65601) (by decide)
  rwa [hid] at hwaits

end Supervisor
end Switchboard
