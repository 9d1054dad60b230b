/-
# Runs of a supervisor

A run is any sequence of moves: the supervisor is started, stopped and
restarted, documents are opened, changed and closed, reports are handled, and
between these clients read as much as they like, servers act on their own and
the disk changes.  Every move keeps a supervisor sound (`sound_after`), so it is
sound after every run that begins where nothing has happened (`sound_run`).
-/

import Switchboard.Proofs.Supervisor.Sound

namespace Switchboard
namespace Supervisor

variable {ran : SessionId → Prop} {taken : List ServerEvent} {s s' : Supervisor}

/-! ### Starting and stopping -/

/-- The sessions of some plans are numbered one after the other, and idle. -/
theorem sessionsOf_eq (next : SessionId) (plans : List Plan) :
    (sessionsOf next plans).map Session.id = List.range' next plans.length ∧
      ∀ x ∈ sessionsOf next plans, x.connection = none := by
  constructor
  · refine List.ext_getElem (by simp [sessionsOf]) fun i h₁ h₂ => ?_
    simp [sessionsOf, Session.ofPlan]
  · intro x hx
    obtain ⟨i, hi, rfl⟩ := List.mem_mapIdx.1 hx
    rfl

/-- Planning replaces the sessions by new ones for the plans, and reports and notes nothing. -/
theorem planSessions_spec (s : Supervisor) :
    ∃ plans : List Plan, s.planSessions.sessions = sessionsOf s.nextSession plans ∧
      s.planSessions.nextSession = s.nextSession + plans.length ∧
      s.planSessions.site.events = s.site.events ∧ s.planSessions.store = s.store ∧
      s.planSessions.site.journal = s.site.journal := by
  have hdiscover := same_discover s
  unfold planSessions
  generalize s.discover = found at hdiscover ⊢
  obtain ⟨installations, s₁⟩ := found
  dsimp only
  split
  · exact ⟨_, by rw [← hdiscover.next_eq]; rfl, by rw [← hdiscover.next_eq]; rfl,
      hdiscover.events_eq, hdiscover.store_eq, hdiscover.journal_eq⟩
  · exact ⟨_, by rw [← hdiscover.next_eq], by rw [← hdiscover.next_eq], hdiscover.events_eq,
      hdiscover.store_eq, hdiscover.journal_eq⟩

/-- What a start has made of a supervisor: its sessions are heard and new, and
nothing is said about files that was not said before. -/
structure Launched (s s' : Supervisor) : Prop where
  heard : Heard s'.nextSession s'.sessions s'.site.events
  fresh : ∀ x ∈ s'.sessions, s.nextSession ≤ x.id
  next_le : s.nextSession ≤ s'.nextSession
  store_eq : s'.store = s.store

/-- What changes nothing around a launch may be counted with it. -/
theorem Launched.of_same {s₀ s₁ s₂ s₃ : Supervisor} (h : Launched s₁ s₂) (h₀ : Same s₀ s₁)
    (h₃ : Same s₂ s₃) : Launched s₀ s₃ := by
  refine ⟨?_, ?_, ?_, h₃.store_eq.trans (h.store_eq.trans h₀.store_eq)⟩
  · rw [h₃.next_eq, h₃.sessions_eq, h₃.events_eq]
    exact h.heard
  · rw [h₃.sessions_eq, ← h₀.next_eq]
    exact h.fresh
  · rw [h₃.next_eq, ← h₀.next_eq]
    exact h.next_le

/-- Planning and starting sessions makes new sessions that are heard. -/
theorem launched_startSessions (s : Supervisor)
    (hearly : ∀ e ∈ s.site.events, e.session < s.nextSession)
    (hordered : s.site.events.Pairwise ServerEvent.Precedes) :
    Launched s s.planSessions.startSessions.2 := by
  obtain ⟨plans, hsessions, hnext, hevents, hstore, -⟩ := planSessions_spec s
  obtain ⟨hids, hidle⟩ := sessionsOf_eq s.nextSession plans
  generalize s.planSessions = s₁ at hsessions hnext hevents hstore ⊢
  rw [← hsessions] at hids hidle
  have hbounds : ∀ x ∈ s₁.sessions, s.nextSession ≤ x.id ∧ x.id < s₁.nextSession := by
    intro x hx
    have hmem : x.id ∈ List.range' s.nextSession plans.length := hids ▸ List.mem_map_of_mem hx
    rw [List.mem_range'_1] at hmem
    exact ⟨hmem.1, hnext ▸ hmem.2⟩
  have hle : s.nextSession ≤ s₁.nextSession := hnext ▸ Nat.le_add_right ..
  have hclient : ∀ x ∈ s₁.sessions, x.client? = none := fun x hx => by
    rw [Session.client?, hidle x hx]
    rfl
  have hheard : Heard s₁.nextSession s₁.sessions s₁.site.events := by
    refine ⟨?_, fun x hx => (hbounds x hx).2, fun x hx c hc => ?_, fun x hx connection hc => ?_,
      fun e he => ?_, by rwa [hevents], fun x hx c hc => ?_⟩
    · rw [hids]
      exact List.nodup_range'
    · exact absurd (hc.symm.trans (hclient x hx)) (by simp)
    · exact absurd (hc.symm.trans (hidle x hx)) (by simp)
    · exact lt_of_lt_of_le (hearly e (hevents ▸ he)) hle
    · exact absurd (hc.symm.trans (hclient x hx)) (by simp)
  have hnone : ∀ x ∈ s₁.sessions, ∀ e ∈ s₁.site.events, e.session ≠ x.id := by
    exact fun x hx e he => Nat.ne_of_lt (lt_of_lt_of_le (hearly e (hevents ▸ he)) (hbounds x hx).1)
  obtain ⟨hbegun, hconnection, hids₁⟩ :=
    beginStarts_spec s₁.context [] hheard hidle hnone
  obtain ⟨hfinished, hids₂⟩ := finishStarts_spec [] hbegun hconnection
  let starting := beginStarts s₁.context s₁.sessions s₁.site
  let results := finishStarts starting.1 starting.2
  have hlaunched :
      Launched s { s₁ with sessions := results.1.map Prod.fst, site := results.2 } := by
    refine ⟨hfinished, fun x hx => ?_, hle, hstore⟩
    obtain ⟨result, hresult, rfl⟩ := List.mem_map.1 hx
    have hmem : result.1.id ∈ s₁.sessions.map Session.id :=
      hids₂.trans hids₁ ▸ List.mem_map_of_mem hresult
    obtain ⟨z, hz, hid⟩ := List.mem_map.1 hmem
    exact hid ▸ (hbounds z hz).1
  exact hlaunched.of_same (.refl s) (same_foldl (fun _ _ => same_log ..) _ _)

/-- What launching makes of a supervisor without sessions is launched. -/
theorem launched_launch (hnone : s.sessions = [])
    (h : Heard s.nextSession s.sessions s.site.events) : Launched s s.launch.2 := by
  unfold launch
  split
  · refine ⟨h, fun x hx => ?_, le_rfl, rfl⟩
    change x ∈ s.sessions at hx
    exact absurd hx (hnone ▸ List.not_mem_nil)
  · have hsame := (same_watchLockFiles s).trans (same_warnLoaders _)
    refine (launched_startSessions s.watchLockFiles.warnLoaders ?_ ?_).of_same hsame (.refl _)
    · rw [hsame.events_eq, hsame.next_eq]
      exact h.early
    · rw [hsame.events_eq]
      exact h.ordered

/-- The supervisor's own part in a start leaves what its sessions make of it. -/
theorem launched_start (hphase : s.phase = .stopped) (hnone : s.sessions = [])
    (h : Heard s.nextSession s.sessions s.site.events) :
    Launched s s.start.2 ∧ s.start.2.phase = .running := by
  rw [start, if_pos hphase]
  dsimp only
  generalize hs₀ : ({ s with phase := .starting }.log .info "Starting extension...").tell
    (.status (some .loading)) = s₀
  have hnext : s₀.nextSession = s.nextSession := by rw [← hs₀]; rfl
  have hsessions : s₀.sessions = s.sessions := by rw [← hs₀]; rfl
  have hevents : s₀.site.events = s.site.events := by rw [← hs₀]; rfl
  have hstore : s₀.store = s.store := by rw [← hs₀]; rfl
  have hlaunch : Launched s₀ s₀.launch.2 :=
    launched_launch (hsessions.trans hnone) (by rwa [hnext, hsessions, hevents])
  generalize s₀.launch = launched at hlaunch ⊢
  exact ⟨⟨hlaunch.heard, hnext ▸ hlaunch.fresh, hnext ▸ hlaunch.next_le,
    hlaunch.store_eq.trans hstore⟩, rfl⟩

/-- What has been run when a supervisor has run what it runs now as well. -/
def Also (ran : SessionId → Prop) (s : Supervisor) (id : SessionId) : Prop :=
  ran id ∨ (id, true) ∈ s.roll

/-- The roll names the sessions in the list with whether they run. -/
theorem mem_roll_iff {id : SessionId} {b : Bool} :
    (id, b) ∈ s.roll ↔ ∃ x ∈ s.sessions, x.id = id ∧ x.isRunning = b := by
  simp [roll]

/-- A session that runs is not also one that does not. -/
theorem not_mem_roll (h : (s.sessions.map Session.id).Nodup) {id : SessionId} {b : Bool}
    (hid : (id, b) ∈ s.roll) : (id, !b) ∉ s.roll := by
  obtain ⟨x, hx, hxid, hrun⟩ := mem_roll_iff.1 hid
  intro hid'
  obtain ⟨y, hy, hyid, hrun'⟩ := mem_roll_iff.1 hid'
  obtain rfl := List.inj_on_of_nodup_map h hx hy (hxid.trans hyid.symm)
  rw [hrun] at hrun'
  exact absurd hrun' (by simp)

/-- What runs counts as having been run, so that is all that has been run. -/
theorem Sound.also (h : Sound ran taken s) : Sound (Also ran s) taken s := by
  have hran : ∀ id, Also ran s id → ran id := by
    rintro id (hid | hid)
    · exact hid
    · obtain ⟨x, hx, rfl, hrun⟩ := mem_roll_iff.1 hid
      exact h.ran_of_running x hx hrun
  exact ⟨h.heard, fun x hx hrun hid => h.quiet x hx hrun (hran _ hid),
    fun x hx hrun => .inl (h.ran_of_running x hx hrun), fun id hid => h.lt_of_ran id (hran id hid),
    h.idle⟩

/-- **A start leaves a supervisor sound**: what it runs is new. -/
theorem sound_start (h : Sound ran [] s) : Sound (Also ran s.start.2) [] s.start.2 := by
  by_cases hphase : s.phase = .stopped
  · obtain ⟨hlaunched, hrunning⟩ := launched_start hphase (h.idle hphase) h.heard
    refine ⟨hlaunched.heard, fun x hx hrun hran => ?_, fun x hx hrun => ?_, ?_, fun hstopped => ?_⟩
    · rcases hran with hran | hran
      · exact absurd (h.lt_of_ran x.id hran) (not_lt_of_ge (hlaunched.fresh x hx))
      · exact absurd hran (not_mem_roll hlaunched.heard.nodup (mem_roll_iff.2 ⟨x, hx, rfl, hrun⟩))
    · exact .inr (mem_roll_iff.2 ⟨x, hx, rfl, hrun⟩)
    · rintro id (hran | hran)
      · exact lt_of_lt_of_le (h.lt_of_ran id hran) hlaunched.next_le
      · obtain ⟨x, hx, rfl, -⟩ := mem_roll_iff.1 hran
        exact hlaunched.heard.given x hx
    · rw [hrunning] at hstopped
      exact absurd hstopped (by simp)
  · rw [start, if_neg hphase]
    exact h.also

/-- A stop leaves no session and no report. -/
theorem sound_stop (h : Sound ran [] s) : Sound ran [] s.stop := by
  unfold stop
  split
  · exact h
  · have hheard : Heard s.nextSession [] [] :=
      ⟨List.nodup_nil, by simp, by simp, by simp, by simp, .nil, by simp⟩
    exact ⟨hheard, fun x hx => absurd hx List.not_mem_nil, fun x hx => absurd hx List.not_mem_nil,
      h.lt_of_ran, fun _ => rfl⟩

/-! ### Reports -/

/-- Reading on keeps the sessions, and brings in reports of theirs only. -/
theorem keeps_readOn (h : Sound ran taken s) : Keeps ran taken s s.readOn := by
  unfold readOn
  split
  · exact .refl h
  · exact keeps_settle h

/-- A report that is taken is the first one, and sessions go on as they did. -/
theorem keeps_nextReport? (h : Sound ran [] s) {e : ServerEvent}
    (hnext : s.nextReport? = some (e, s')) :
    Sound ran [e] s' ∧ s'.store = s.store ∧ s'.roll = s.roll ∧ s.site.events.head? = some e := by
  obtain ⟨rest, hevents, rfl⟩ := nextReport?_eq_some hnext
  have htaken : Sound ran [e] { s with site := { s.site with events := rest } } := by
    have hheard := h.heard
    have hquiet := h.quiet
    rw [hevents] at hheard hquiet
    exact ⟨hheard, hquiet, h.ran_of_running, h.lt_of_ran, h.idle⟩
  have hread := keeps_readOn htaken
  exact ⟨hread.sound, hread.store_eq, hread.roll_eq, by rw [hevents]; rfl⟩

/-- Once a report has been handled it counts no more. -/
theorem Sound.handled (h : Sound ran taken s) : Sound ran [] s :=
  ⟨h.heard.mono (List.sublist_append_right _ _), h.quiet.mono (List.sublist_append_right _ _),
    h.ran_of_running, h.lt_of_ran, h.idle⟩

/-- **A session whose server has stopped is retired for good**: it has no report
left, nothing that it said about files stays, and the others go on. -/
theorem sound_retire {x : Session} {reason : StopReason}
    (h : Sound ran [.stopped x.id reason] s) (hx : x ∈ s.sessions) :
    Sound ran [] (s.retire x reason) ∧
      (s.retire x reason).store = s.store.clearSession x.id ∧
      ∀ id b, id ≠ x.id → (id, b) ∈ s.roll → (id, b) ∈ (s.retire x reason).roll := by
  obtain ⟨hleads, hstopped⟩ := Session.leads_stop (own_client h hx) s.site
  unfold retire
  generalize x.stop s.site = p at hleads hstopped ⊢
  obtain ⟨y, site⟩ := p
  obtain ⟨front, back, hsplit, hput⟩ := exists_putSession h.heard.nodup hx hleads.id_eq
  have hheard := h.heard
  rw [hsplit] at hheard
  have hself : x ∈ front ++ x :: back := List.mem_append_right _ (List.mem_cons_self ..)
  -- The report says that the client of the session has ended, so stopping it adds no report.
  have hevents : site.events = s.site.events := by
    obtain ⟨left, hleft⟩ := hleads
    have hsilent := hleft.silent fun c hc =>
      hheard.ended x hself c hc _ (List.mem_cons_self ..) rfl rfl
    rw [hleft.events_eq, hsilent, List.append_nil]
  have hbehind : ∀ e ∈ s.site.events, e.session ≠ x.id := fun e he =>
    List.rel_of_pairwise_cons hheard.ordered he rfl
  have hmem : ∀ z, z ∈ front ∨ z ∈ back → z ∈ s.sessions := fun z hz => by
    rw [hsplit, List.mem_append, List.mem_cons]
    tauto
  have hsound : Sound ran [] { s.putSession y with site } := by
    refine ⟨?_, fun z hz hrun hran e he => ?_, fun z hz hrun => ?_, h.lt_of_ran, fun hphase => ?_⟩
    · refine Heard.mono ?_ (List.sublist_append_right [.stopped x.id reason] _)
      rw [hput]
      exact hheard.replace hleads
    · change e ∈ site.events at he
      rw [hevents] at he
      rcases mem_replaced (hput ▸ hz) with rfl | hz
      · exact hleads.id_eq ▸ hbehind e he
      · exact h.quiet z (hmem z hz) hrun hran e (List.mem_cons_of_mem _ he)
    · rcases mem_replaced (hput ▸ hz) with rfl | hz
      · exact absurd (hstopped.symm.trans hrun) (by simp)
      · exact h.ran_of_running z (hmem z hz) hrun
    · rw [h.idle hphase] at hsplit
      exact absurd hsplit (by simp)
  have hroll : ∀ id b, id ≠ x.id → (id, b) ∈ s.roll → (id, b) ∈ (s.putSession y).roll := by
    intro id b hne hid
    obtain ⟨z, hz, rfl, hrun⟩ := mem_roll_iff.1 hid
    refine mem_roll_iff.2 ⟨z, ?_, rfl, hrun⟩
    rw [hsplit] at hz
    rw [hput, List.mem_append, List.mem_cons]
    rcases mem_replaced hz with rfl | hz
    · exact absurd rfl hne
    · tauto
  dsimp only
  split
  · exact ⟨⟨hsound.heard, hsound.quiet, hsound.ran_of_running, hsound.lt_of_ran, hsound.idle⟩, rfl,
      hroll⟩
  · exact ⟨⟨hsound.heard, hsound.quiet, hsound.ran_of_running, hsound.lt_of_ran, hsound.idle⟩, rfl,
      hroll⟩

/-- A supervisor that handles a report stays sound. -/
theorem sound_handleReport {e : ServerEvent} (h : Sound ran [e] s) :
    Sound ran [] (s.handleReport e).2 := by
  unfold handleReport
  split
  · split
    · have hs := h.handled
      exact ⟨hs.heard, hs.quiet, hs.ran_of_running, hs.lt_of_ran, hs.idle⟩
    · exact h.handled
  · split
    · exact h.handled
    next x hx =>
      obtain ⟨hmem, rfl⟩ := of_session? hx
      split
      · exact (sound_retire h hmem).1
      · exact h.handled

/-! ### Moves -/

/-- What can happen to a supervisor. -/
inductive Move where
  | start
  | stop
  | restart
  | opened (path : Path) (text : String)
  | changed (path : Path) (text : String)
  | closed (path : Path)
  | fixed (path : Path)
  | command (active : Option Path) (picked : Option Command) (c : Command)
  | folders (paths : List Path)
  /-- The next report is handled. -/
  | report
  /-- Everything happens that can happen without anyone waiting for more. -/
  | settle
  /-- The client of a session reads some frames. -/
  | read (session : SessionId) (frames : Nat)
  /-- The server of a session writes, exits, closes its input, stalls or goes on. -/
  | act (session : SessionId) (reaction : Reaction)
  /-- The disk and the clock are what they are. -/
  | world (disk : Disk) (now : Nat)

/-- A server that does something on its own, as its client sees it. -/
def acted (c : Client) (r : Reaction) : Client :=
  { c with
    unread := c.unread ++ r.output
    process := { c.process with
      alive := c.process.alive && !r.exits
      reading := c.process.reading && !r.stopsReading
      stalled := r.stalls } }

/-- A client that reads some frames, unless it has ended. -/
def readSome (c : Client) (s : Site) (frames : Nat) : Client × Site :=
  if c.ended.isSome then (c, s) else Client.readWithin frames c s

/-- A supervisor in which the client of one session does something. -/
def withClientOf (s : Supervisor) (id : SessionId) (f : Client → Site → Client × Site) :
    Supervisor :=
  match s.session? id with
  | none => s
  | some x => match x.client? with
    | none => s
    | some c => { s with site := (f c s.site).2 }.putSession (x.withClient (f c s.site).1)

/-- A supervisor after a move. -/
def after (s : Supervisor) : Move → Supervisor
  | .start => s.start.2
  | .stop => s.stop
  | .restart => s.restart.2
  | .opened path text => (s.openDocument path text).2
  | .changed path text => (s.changeDocument path text).2
  | .closed path => (s.closeDocument path).2
  | .fixed path => (s.fixAllActions path).2
  | .command active picked c => s.execute active picked c
  | .folders paths => { s with folders := paths }
  | .report => (s.poll 1).2
  | .settle => s.settle
  | .read id frames => s.withClientOf id fun c site => readSome c site frames
  | .act id reaction => s.withClientOf id fun c site => (acted c reaction, site)
  | .world disk now => { s with site := { s.site with disk, now } }

/-- A supervisor after moves in order. -/
def run (s : Supervisor) (moves : List Move) : Supervisor := moves.foldl after s

/-- To make some moves and then more is to make them all. -/
theorem run_append (s : Supervisor) (moves more : List Move) :
    s.run (moves ++ more) = (s.run moves).run more := List.foldl_append

/-! ### Every move keeps a supervisor sound -/

/-- A server that does something on its own reports nothing by that. -/
theorem leads_acted (c : Client) (s : Site) (r : Reaction) : c.Leads s (acted c r, s) :=
  .still rfl rfl rfl

/-- A client that reads some frames reports for its session only. -/
theorem leads_readSome (c : Client) (s : Site) (frames : Nat) :
    c.Leads s (readSome c s frames) := by
  unfold readSome
  cases hc : c.ended with
  | some reason => exact .refl c s
  | none => exact (Client.moves_readWithin frames s hc).leads

/-- What one client does keeps the sessions if it reports for its own only. -/
theorem keeps_withClientOf (h : Sound ran taken s) (id : SessionId)
    {f : Client → Site → Client × Site} (hf : ∀ (c : Client) site, c.Leads site (f c site)) :
    Keeps ran taken s (s.withClientOf id f) := by
  unfold withClientOf
  split
  · exact .refl h
  next x hx =>
    split
    · exact .refl h
    next c hc =>
      have hmem := (of_session? hx).1
      obtain ⟨hleads, hrun⟩ := Session.leads_withClient hc (own_client h hmem c hc) (hf c s.site)
      exact keeps_putSession h hmem hleads hrun

/-- Opening some documents again keeps the sessions. -/
theorem keeps_reopenAll (h : Sound ran taken s) (paths : List Path) :
    Keeps ran taken s (paths.foldl reopen s) := by
  induction paths generalizing s with
  | nil => exact .refl h
  | cons path paths ih =>
    have hreopen := keeps_reopen h path
    exact hreopen.trans (ih hreopen.sound)

/-- The command for fixes keeps the sessions. -/
theorem keeps_autofix (h : Sound ran taken s) (active : Option Path) :
    Keeps ran taken s (s.autofix active) := by
  unfold autofix
  split
  · exact .of_same h (same_log ..)
  next path =>
    have hfix := keeps_fixAllActions h path
    split
    next heq =>
      rw [heq] at hfix
      exact hfix.trans (.of_same hfix.sound (same_tell ..))
    next heq =>
      rw [heq] at hfix
      exact hfix.trans (.of_same hfix.sound (same_log ..))

/-- What has been run counts what runs after something that keeps it. -/
theorem Keeps.also (h : Keeps (Also ran s) taken s s') : Sound (Also ran s') taken s' := by
  have heq : Also ran s' = Also ran s := by
    funext id
    rw [Also, Also, h.roll_eq]
  exact heq ▸ h.sound

/-- How often a supervisor has been restarted does not matter. -/
theorem Sound.withRestarts (h : Sound ran taken s) (n : Nat) :
    Sound ran taken { s with restarts := n } :=
  ⟨h.heard, h.quiet, h.ran_of_running, h.lt_of_ran, h.idle⟩

/-- A restart leaves a supervisor sound, with the new sessions among those that have run. -/
theorem sound_restart (h : Sound ran [] s) : Sound (Also ran s.restart.2) [] s.restart.2 := by
  unfold restart
  dsimp only
  have hlogged := h.of_same (same_log s .info "Restarting extension...")
  exact (keeps_reopenAll (sound_start (sound_stop (hlogged.withRestarts (s.restarts + 1)))) _).also

/-- A command leaves a supervisor sound, with whatever it runs then among those that have run. -/
theorem sound_perform (h : Sound ran [] s) (active : Option Path) (c : Command) :
    Sound (Also ran (s.perform active c)) [] (s.perform active c) := by
  cases c with
  | restart => exact sound_restart h
  | showOutput => exact (h.of_same (same_tell ..)).also
  | autofix => exact (keeps_autofix h active).sound.also
  | showCommands => exact h.also

/-- **Every move keeps a supervisor sound.** -/
theorem sound_after (h : Sound ran [] s) (m : Move) :
    Sound (Also ran (s.after m)) [] (s.after m) := by
  cases m with
  | start => exact sound_start h
  | stop => exact (sound_stop h).also
  | restart => exact sound_restart h
  | opened path text => exact (keeps_openDocument h path text).sound.also
  | changed path text => exact (keeps_changeDocument h path text).sound.also
  | closed path => exact (keeps_closeDocument h path).sound.also
  | fixed path => exact (keeps_fixAllActions h path).sound.also
  | command active picked c =>
    have hpalette := h.of_same (same_tell s (.palette Command.palette))
    exact execute_cases (P := fun s' => Sound (Also ran s') [] s') hpalette.also
      (sound_perform hpalette active) (sound_perform h active)
  | folders paths =>
    have hset : Sound ran [] { s with folders := paths } :=
      ⟨h.heard, h.quiet, h.ran_of_running, h.lt_of_ran, h.idle⟩
    exact hset.also
  | report =>
    change Sound (Also ran (s.poll 1).2) [] (s.poll 1).2
    unfold poll
    split
    · exact h.also
    next e s₁ hnext => exact (sound_handleReport (keeps_nextReport? h hnext).1).also
  | settle => exact (keeps_settle h).sound.also
  | read id frames =>
    exact (keeps_withClientOf h id fun c site => leads_readSome c site frames).sound.also
  | act id reaction =>
    exact (keeps_withClientOf h id fun c site => leads_acted c site reaction).sound.also
  | world disk now =>
    have hsame : Same s (s.after (.world disk now)) :=
      ⟨⟨rfl, rfl, rfl⟩, rfl, rfl, rfl, rfl, rfl, rfl, rfl, rfl⟩
    exact (h.of_same hsame).also

/-! ### Runs -/

/-- Whether a session has been running at some moment of a run. -/
def Ran (s : Supervisor) (moves : List Move) (id : SessionId) : Prop :=
  ∃ front, front <+: moves ∧ (id, true) ∈ (s.run front).roll

/-- What has run over one more move has run before it or runs after it. -/
theorem ran_concat (s : Supervisor) (moves : List Move) (m : Move) :
    Ran s (moves ++ [m]) = Also (Ran s moves) (s.run (moves ++ [m])) := by
  funext id
  refine propext ⟨?_, ?_⟩
  · rintro ⟨front, hfront, hid⟩
    rcases List.prefix_concat_iff.1 hfront with rfl | hfront
    · exact .inr hid
    · exact .inl ⟨front, hfront, hid⟩
  · rintro (⟨front, hfront, hid⟩ | hid)
    · exact ⟨front, hfront.trans (List.prefix_append ..), hid⟩
    · exact ⟨_, List.prefix_refl _, hid⟩

/-- A supervisor is at its beginning when it has no session, no report and
nothing said about files, and nothing has passed at its site. -/
structure Fresh (s : Supervisor) : Prop where
  sessions_eq : s.sessions = []
  events_eq : s.site.events = []
  store_eq : s.store = .empty
  journal_eq : s.site.journal = []
  stuck_eq : s.site.stuck = false

/-- **A supervisor is sound after every run from its beginning.** -/
theorem sound_run (hs : s.Fresh) (moves : List Move) : Sound (Ran s moves) [] (s.run moves) := by
  induction moves using List.reverseRecOn with
  | nil =>
    have hnone : ∀ id, ¬ Ran s [] id := by
      rintro id ⟨front, hfront, hid⟩
      obtain rfl := List.prefix_nil.1 hfront
      rw [run, List.foldl_nil, roll, hs.sessions_eq] at hid
      exact absurd hid List.not_mem_nil
    have hheard : Heard s.nextSession [] [] :=
      ⟨List.nodup_nil, by simp, by simp, by simp, by simp, .nil, by simp⟩
    change Sound (Ran s []) [] s
    refine ⟨?_, fun x hx => ?_, fun x hx => ?_, fun id hid => absurd hid (hnone id),
      fun _ => hs.sessions_eq⟩
    · rw [hs.sessions_eq, hs.events_eq]
      exact hheard
    · exact absurd hx (hs.sessions_eq ▸ List.not_mem_nil)
    · exact absurd hx (hs.sessions_eq ▸ List.not_mem_nil)
  | append_singleton moves m ih =>
    rw [ran_concat, run_append]
    exact sound_after ih m

/-- A supervisor that has been made is at its beginning. -/
theorem fresh_of_make {settings : Settings} {folders : List Path} {logDir : Option Path}
    {processId : Nat} {d : Disk}
    (h : make settings folders logDir processId (.ofDisk d) = .ok s) : s.Fresh := by
  obtain rfl := Except.ok.inj h
  exact ⟨rfl, rfl, rfl, rfl, rfl⟩

/-- Where nothing has happened a supervisor can be made, and is at its beginning. -/
theorem exists_make (settings : Settings) (folders : List Path) (logDir : Option Path)
    (processId : Nat) (d : Disk) :
    ∃ s, make settings folders logDir processId (.ofDisk d) = .ok s ∧ s.Fresh :=
  ⟨_, rfl, fresh_of_make rfl⟩

/-- In every run the sessions that run serve the files of their own projects. -/
theorem equipped_run (hs : s.Fresh) (moves : List Move) :
    (∀ x ∈ (s.run moves).sessions, x.Equipped) ∧ ((s.run moves).sessions.map Session.id).Nodup :=
  ⟨(sound_run hs moves).heard.equipped, (sound_run hs moves).heard.nodup⟩

/-! ### A project on a disk -/

/-- The entries of a project's directory with an installation of its own, whose
server behaves in some way. -/
def projectEntries (behaviour : Behaviour) : List (Bytes × Node) :=
  let file (name content : String) : Bytes × Node :=
    (Utf8.encode name, .file (Utf8.encode content) false)
  let directory (name : String) (entries : List (Bytes × Node)) : Bytes × Node :=
    (Utf8.encode name, .directory entries)
  [directory "node_modules" [directory "@biomejs" [
      directory "biome" [
        file "package.json" "\x7b\"name\":\"@biomejs/biome\",\"version\":\"2.0.0\"\x7d"],
      directory "cli-linux-x64" [
        (Utf8.encode "biome", .program behaviour), file "package.json" "\x7b\x7d"]]],
    file "package.json" "\x7b\"devDependencies\":\x7b\"@biomejs/biome\":\"2.0.0\"\x7d\x7d"]

/-- A disk with a project at `/w` that has more entries besides. -/
def diskWith (behaviour : Behaviour) (more : List (Bytes × Node)) : Disk :=
  ⟨.directory [(Utf8.encode "w", .directory (projectEntries behaviour ++ more))], [],
    Platform.linux⟩

end Supervisor
end Switchboard
