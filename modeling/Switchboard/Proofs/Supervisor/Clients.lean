/-
# The lives of clients

A client that has a session has been welcomed by a server that was started for
it, and has done since what clients do, with its server at work beside it
(`Client.Lives`).  That is so for every client in every run
(`Supervisor.allLive_run`), so what holds of a client that has just been welcomed
and is kept by whatever a client does holds of all of them.
-/

import Switchboard.Proofs.Supervisor.Run

namespace Switchboard

namespace Client

/-- A client whose server has just been started. -/
def Started (c : Client) : Prop :=
  ∃ (session : SessionId) (projects : List Project) (channel : Channel) (program : Path)
    (behaviour : Behaviour) (patience stopPatience : Nat),
    c = ofProcess (Receiver.ofProjects session projects) channel (Process.start program behaviour)
      patience stopPatience

/-- A client that its server has just welcomed. -/
inductive Admitted : Client → Prop
  | welcomed {c : Client} (hc : c.Started) (s s' : Site) (h : Handshake) {id : Nat}
      (hgreet : (c.greet s h).1 = .ok id)
      (hcomplete : ((c.greet s h).2.1.complete s' id).1 = .ok ()) :
    Admitted ((c.greet s h).2.1.complete s' id).2.1

/-- What a client does once it has been welcomed, and its server beside it. -/
inductive Deed : Client × Site → Client × Site → Prop
  | sync (c : Client) (s : Site) (uri language text : String) :
    Deed (c, s) (c.sync s uri language text).2
  | close (c : Client) (s : Site) (uri : String) : Deed (c, s) (c.close s uri).2
  | ask (c : Client) (s : Site) (uri : String) (only : List String) :
    Deed (c, s) (c.codeActions s uri only).2
  | settle (c : Client) (s : Site) : Deed (c, s) (c.settle s)
  | read (c : Client) (s : Site) (frames : Nat) : Deed (c, s) (Supervisor.readSome c s frames)
  | server (c : Client) (s : Site) (r : Reaction) : Deed (c, s) (Supervisor.acted c r, s)

/-- A client that has been welcomed, and whatever it and its server have done since. -/
inductive Lives : Client → Prop
  | admitted {c : Client} (hc : c.Admitted) : Lives c
  | deed {p q : Client × Site} (hc : Lives p.1) (h : Deed p q) : Lives q.1

/-- A client whose server has been spawned has just been started. -/
theorem started_of_spawn {s : Site} {session : SessionId} {projects : List Project}
    {channel : Channel} {binary : Path} {patience stopPatience : Nat} {c : Client} {s' : Site}
    (h : spawn s (.ofProjects session projects) channel binary patience stopPatience =
      .ok (c, s')) : c.Started := by
  unfold spawn at h
  cases hprogram : s.disk.program binary with
  | error fault => rw [hprogram] at h; cases h
  | ok behaviour => rw [hprogram] at h; cases h; exact ⟨_, _, _, _, _, _, _, rfl⟩

/-- A client that is spawned belongs to the session of its receiver. -/
theorem session_of_spawn {s : Site} {receiver : Receiver} {channel : Channel} {binary : Path}
    {patience stopPatience : Nat} {c : Client} {s' : Site}
    (h : spawn s receiver channel binary patience stopPatience = .ok (c, s')) :
    c.session = receiver.session := by
  unfold spawn at h
  cases hprogram : s.disk.program binary with
  | error fault => rw [hprogram] at h; cases h
  | ok behaviour => rw [hprogram] at h; cases h; rfl

end Client

/-! ### Sessions -/

namespace Session

variable {x : Session}

/-- Whether the client of a session is of some kind, if it has one. -/
def Has (kind : Client → Prop) (x : Session) : Prop := ∀ c, x.client? = some c → kind c

/-- A session without a client has any kind of client. -/
theorem has_of_idle {kind : Client → Prop} (h : x.connection = none) : x.Has kind :=
  fun c hc => absurd hc (by rw [client?, h]; simp)

/-- Whether the client of a session lives, if it has one. -/
def Lives (x : Session) : Prop := x.Has Client.Lives

/-- A session that gets a client that lives has one. -/
theorem lives_withClient {c : Client} (hc : c.Lives) : (x.withClient c).Lives := by
  intro c' hc'
  obtain ⟨connection, hconnection, rfl⟩ := exists_of_client? hc'
  obtain ⟨connection', -, rfl⟩ := Option.map_eq_some_iff.1 hconnection
  exact hc

/-- What a session does with its client, or does without. -/
inductive Deed : Session × Site → Session × Site → Prop
  | idle (x : Session) (s : Site) : Deed (x, s) (x, s)
  | client {x : Session} {c : Client} (hc : x.client? = some c) {s : Site} {q : Client × Site}
      (h : Client.Deed (c, s) q) : Deed (x, s) (x.withClient q.1, q.2)

/-- Opening or changing a document is a deed of its session's client. -/
theorem deed_sync (x : Session) (s : Site) (path : Path) (language text : String) :
    Deed (x, s) (x.sync s path language text).2 := by
  unfold sync
  split
  · exact .idle x s
  · split
    · exact .idle x s
    next c hc => exact .client hc (.sync c s _ language text)

/-- Closing a document is a deed. -/
theorem deed_close (x : Session) (s : Site) (path : Path) : Deed (x, s) (x.close s path).2 := by
  unfold close
  split
  · exact .idle x s
  · split
    · exact .idle x s
    next c hc => exact .client hc (.close c s _)

/-- Asking for actions is a deed. -/
theorem deed_codeActions (x : Session) (s : Site) (path : Path) (only : List String) :
    Deed (x, s) (x.codeActions s path only).2 := by
  unfold codeActions
  split
  · exact .idle x s
  · split
    · exact .idle x s
    next c hc => exact .client hc (.ask c s _ only)

/-- Settling is a deed. -/
theorem deed_settle (x : Session) (s : Site) : Deed (x, s) (x.settle s) := by
  unfold settle
  split
  next c hc => exact .client hc (.settle c s)
  · exact .idle x s

/-- Whatever a session does, its client lives on. -/
theorem Deed.lives {p q : Session × Site} (h : Deed p q) (hp : p.1.Lives) : q.1.Lives := by
  cases h with
  | idle => exact hp
  | client hc h => exact lives_withClient (.deed (hp _ hc) h)

/-- A start that has come through its first half has greeted a server that was
started for it. -/
def Starting.Greets (p : Starting) : Prop :=
  ∀ selector c id, p.progress = .ok (selector, c, id) →
    ∃ c₀ : Client, c₀.Started ∧ ∃ s h, (c₀.greet s h).1 = .ok id ∧ (c₀.greet s h).2.1 = c

/-- A client that is launched has just been started and greets its server. -/
theorem launch_greets {s : Site} {ctx : SessionContext} {channel : Channel} {selector : Selector}
    {c : Client} {id : Nat} (h : (x.launch s ctx channel).1 = .ok (selector, c, id)) :
    ∃ c₀ : Client, c₀.Started ∧ ∃ s h, (c₀.greet s h).1 = .ok id ∧ (c₀.greet s h).2.1 = c := by
  unfold launch at h
  split at h
  · exact absurd h (by simp)
  · dsimp only at h
    split at h
    · exact absurd h (by simp)
    next c₀ s₀ hspawn =>
      split at h
      · exact absurd h (by simp)
      next heq =>
        obtain ⟨rfl, hrest⟩ := Prod.mk.inj (Except.ok.inj h)
        obtain ⟨rfl, rfl⟩ := Prod.mk.inj hrest
        exact ⟨c₀, Client.started_of_spawn hspawn, s₀, _, by rw [heq], by rw [heq]⟩

/-- A session that begins to start greets its server and has no client yet. -/
theorem greets_beginStart (x : Session) (s : Site) (ctx : SessionContext) :
    (x.beginStart s ctx).1.Greets ∧ (x.beginStart s ctx).1.session.connection = x.connection := by
  unfold beginStart
  dsimp only
  split
  next heq => exact ⟨fun selector c id h => absurd h (by simp), rfl⟩
  next greeted s' heq =>
    refine ⟨fun selector c id hp => ?_, rfl⟩
    obtain rfl := Except.ok.inj hp
    exact launch_greets (by rw [heq])

/-- A session that has come through its start has a client that has been welcomed. -/
theorem admitted_finish {p : Starting} (hp : p.Greets) (h : p.session.connection = none)
    (s : Site) : (p.finish s).2.1.Has Client.Admitted := by
  obtain ⟨x, channel, progress⟩ := p
  cases progress with
  | error fault => exact has_of_idle h
  | ok greeted =>
    obtain ⟨selector, c, id⟩ := greeted
    obtain ⟨c₀, hstarted, s₀, hs, hok, rfl⟩ := hp selector c id rfl
    have hwelcomed := Client.Admitted.welcomed hstarted s₀ s hs hok
    unfold Starting.finish connect
    dsimp only
    generalize (c₀.greet s₀ hs).2.1.complete s id = completed at hwelcomed ⊢
    obtain ⟨r, c', s'⟩ := completed
    cases r with
    | ok =>
      intro c hc
      exact Option.some.inj hc ▸ hwelcomed rfl
    | error fault => exact has_of_idle h

/-- A session that has been stopped. -/
def idle (x : Session) : Session := { x with connection := none }

/-- Stopping a session takes its connection away and leaves the rest of it. -/
theorem stop_fst (x : Session) (s : Site) : (x.stop s).1 = x.idle := by
  obtain ⟨id, version, binary, projects, channel, connection⟩ := x
  cases connection with
  | none => rfl
  | some connection =>
    unfold stop beginStop
    dsimp only
    split
    · rfl
    · rfl

/-- A session that is stopped is still there and has no client. -/
theorem stop_spec (x : Session) (s : Site) :
    (x.stop s).1.id = x.id ∧ (x.stop s).1.connection = none := by
  rw [stop_fst]
  exact ⟨rfl, rfl⟩

end Session

namespace Supervisor

variable {s s' : Supervisor}

/-- Whether every client of a supervisor lives. -/
def AllLive (s : Supervisor) : Prop := ∀ x ∈ s.sessions, x.Lives

/-- Whether all clients live is a matter of the sessions. -/
theorem AllLive.congr (h : s.AllLive) (hs : s'.sessions = s.sessions) :
    s'.AllLive := fun x hx => h x (hs ▸ hx)

/-- A session with a client that lives takes the place of another one. -/
theorem AllLive.put (h : s.AllLive) {y : Session} (hy : y.Lives) (site : Site) :
    AllLive ({ s with site }.putSession y) := by
  intro z hz
  obtain ⟨x, hx, rfl⟩ := List.mem_map.1 hz
  split
  · exact hy
  · exact h x hx

/-- Clients that settle live on. -/
theorem allLive_settle (h : s.AllLive) : s.settle.AllLive := by
  obtain ⟨settings, folders, logDir, processId, channel, phase, sessions⟩ := s
  have hsettled (xs : List Session) (site : Site) (h : ∀ x ∈ xs, x.Lives) :
      ∀ x ∈ (settleSessions xs site).1, x.Lives := by
    induction xs generalizing site with
    | nil => exact h
    | cons x xs ih =>
      obtain ⟨hx, hxs⟩ := List.forall_mem_cons.1 h
      exact List.forall_mem_cons.2
        ⟨(Session.deed_settle x site).lives hx, ih (x.settle site).2 hxs⟩
  exact hsettled sessions _ h

/-! ### What sessions do with their clients -/

/-- What happens to a supervisor while no session starts or stops: a session does something
with its client, or nothing passes between clients and servers. -/
inductive Deed : Supervisor → Supervisor → Prop
  | still {s s' : Supervisor} (hsessions : s'.sessions = s.sessions)
      (hnext : s'.nextSession = s.nextSession) (hjournal : s'.site.journal = s.site.journal)
      (hstuck : s'.site.stuck = s.site.stuck) : Deed s s'
  | put {s : Supervisor} {x : Session} (hx : x ∈ s.sessions) {q : Session × Site}
      (h : Session.Deed (x, s.site) q) : Deed s ({ s with site := q.2 }.putSession q.1)
  | settle (s : Supervisor) : Deed s s.settle

/-- Any number of such things. -/
abbrev Deeds : Supervisor → Supervisor → Prop := Relation.ReflTransGen Deed

/-- Whatever sessions do with their clients, the clients live on. -/
theorem Deeds.allLive (h : Deeds s s') (hs : s.AllLive) : s'.AllLive := by
  induction h with
  | refl => exact hs
  | tail _ h ih =>
    cases h with
    | still hsessions => exact ih.congr hsessions
    | put hx h => exact ih.put (h.lives (ih _ hx)) _
    | settle => exact allLive_settle ih

/-- A document that goes to a session is a deed of that. -/
theorem deeds_syncIn {x : Session} (hx : x ∈ s.sessions) (path : Path) (language text : String) :
    Deeds s (s.syncIn x path language text).2 :=
  .single (.put hx (Session.deed_sync x s.site path language text))

/-- A document that is opened is a deed of at most one session. -/
theorem deeds_openDocument (s : Supervisor) (path : Path) (text : String) :
    Deeds s (s.openDocument path text).2 := by
  unfold openDocument
  split
  · exact .refl
  next language _ =>
    split
    · exact .refl
    next x hx =>
      have hsync := deeds_syncIn (List.mem_of_find?_eq_some hx) path language text
      split
      next heq =>
        rw [heq] at hsync
        exact hsync
      next heq =>
        rw [heq] at hsync
        exact hsync.tail (.still rfl rfl rfl rfl)

/-- A document that is changed, or opened where it has not been, is a deed of at most one session.
-/
theorem deeds_changeDocument (s : Supervisor) (path : Path) (text : String) :
    Deeds s (s.changeDocument path text).2 := by
  unfold changeDocument
  split
  · exact deeds_openDocument s path text
  · split
    · exact .refl
    next language _ =>
      split
      · have hdisown : Deed s (s.disown path) := .still rfl rfl rfl rfl
        exact (deeds_openDocument (s.disown path) path text).head hdisown
      next x hx =>
        have hsync := deeds_syncIn (of_session? hx).1 path language text
        split
        next heq =>
          rw [heq] at hsync
          exact hsync
        next heq =>
          rw [heq] at hsync
          exact hsync

/-- A document that is closed is a deed of at most one session. -/
theorem deeds_closeDocument (s : Supervisor) (path : Path) :
    Deeds s (s.closeDocument path).2 := by
  unfold closeDocument
  split
  · exact .refl
  · have hdisown : Deed s (s.disown path) := .still rfl rfl rfl rfl
    dsimp only
    split
    · exact .single hdisown
    next x hx =>
      have hmem : x ∈ (s.disown path).sessions := (of_session? hx).1
      exact .head hdisown (.single (.put hmem (Session.deed_close x s.site path)))

/-- A document that is read and opened lets all sessions settle first. -/
theorem deeds_openFromDisk (s : Supervisor) (path : Path) :
    Deeds s (s.openFromDisk path).2 := by
  unfold openFromDisk
  split
  · exact .refl
  · dsimp only
    split
    · exact .single (.settle s)
    next text _ =>
      have hopen := (deeds_openDocument s.settle path text).head (.settle s)
      split
      next heq =>
        rw [heq] at hopen
        exact hopen
      next heq =>
        rw [heq] at hopen
        exact hopen

/-- Asking for actions comes to deeds. -/
theorem deeds_fixAllActions (s : Supervisor) (path : Path) :
    Deeds s (s.fixAllActions path).2 := by
  have hopen := deeds_openFromDisk s path
  unfold fixAllActions
  split
  next heq =>
    rw [heq] at hopen
    exact hopen
  next s₁ heq =>
    rw [heq] at hopen
    split
    · exact hopen
    · split
      · exact hopen
      next x hx =>
        exact hopen.tail (.put (of_session? hx).1 (Session.deed_codeActions x s₁.site path _))

/-- Opening a document again comes to deeds. -/
theorem deeds_reopen (s : Supervisor) (path : Path) : Deeds s (s.reopen path) := by
  unfold reopen
  dsimp only
  split
  · exact .single (.settle s)
  next text _ => exact (deeds_openDocument s.settle path text).head (.settle s)

/-- A row of deeds is deeds. -/
theorem deeds_foldl {α : Type} {f : Supervisor → α → Supervisor} (hf : ∀ s a, Deeds s (f s a))
    (s : Supervisor) (as : List α) : Deeds s (as.foldl f s) :=
  rel_foldl (fun _ => .refl) (fun h₁ h₂ => h₁.trans h₂) hf s as

/-- Fixing a document comes to deeds. -/
theorem deeds_autofix (s : Supervisor) (active : Option Path) : Deeds s (s.autofix active) := by
  unfold autofix
  split
  · exact .single (.still rfl rfl rfl rfl)
  next path =>
    have hfix := deeds_fixAllActions s path
    split
    next heq =>
      rw [heq] at hfix
      exact hfix.tail (.still rfl rfl rfl rfl)
    next heq =>
      rw [heq] at hfix
      exact hfix.tail (.still rfl rfl rfl rfl)

/-- What is done with one client is a deed of its session. -/
theorem deeds_withClientOf (s : Supervisor) (id : SessionId) {f : Client → Site → Client × Site}
    (hf : ∀ c site, Client.Deed (c, site) (f c site)) : Deeds s (s.withClientOf id f) := by
  unfold withClientOf
  split
  · exact .refl
  next x hx =>
    split
    · exact .refl
    next c hc => exact .single (.put (of_session? hx).1 (.client hc (hf c s.site)))

/-- Taking the next report comes to deeds, for sessions read on. -/
theorem deeds_nextReport? {e : ServerEvent} (h : s.nextReport? = some (e, s')) : Deeds s s' := by
  obtain ⟨rest, -, rfl⟩ := nextReport?_eq_some h
  have htake : Deed s { s with site := { s.site with events := rest } } := .still rfl rfl rfl rfl
  unfold readOn
  split
  · exact .single htake
  · exact .head htake (.single (.settle _))

/-! ### Starting and stopping -/

/-- All sessions that begin to start greet their servers. -/
theorem greets_beginStarts (ctx : SessionContext) (xs : List Session) (site : Site)
    (h : ∀ x ∈ xs, x.connection = none) :
    ∀ p ∈ (beginStarts ctx xs site).1, p.Greets ∧ p.session.connection = none := by
  induction xs generalizing site with
  | nil => simp [beginStarts]
  | cons x xs ih =>
    obtain ⟨hx, hxs⟩ := List.forall_mem_cons.1 h
    obtain ⟨hgreets, hidle⟩ := Session.greets_beginStart x site ctx
    exact List.forall_mem_cons.2 ⟨⟨hgreets, hidle.trans hx⟩, ih (x.beginStart site ctx).2 hxs⟩

/-- Sessions that have started have clients that have been admitted, and the others none. -/
theorem admitted_finishStarts (ps : List Session.Starting) (site : Site)
    (h : ∀ p ∈ ps, p.Greets ∧ p.session.connection = none) :
    ∀ result ∈ (finishStarts ps site).1, result.1.Has Client.Admitted := by
  induction ps generalizing site with
  | nil => simp [finishStarts]
  | cons p ps ih =>
    obtain ⟨hp, hps⟩ := List.forall_mem_cons.1 h
    exact List.forall_mem_cons.2
      ⟨Session.admitted_finish hp.1 hp.2 site, ih (p.finish site).2.2 hps⟩

/-- When all sessions have been started, those that run have clients that have been admitted. -/
theorem admitted_startSessions (h : ∀ x ∈ s.sessions, x.connection = none) :
    ∀ x ∈ s.startSessions.2.sessions, x.Has Client.Admitted := by
  have hbegun := greets_beginStarts s.context s.sessions s.site h
  have hfinished := admitted_finishStarts _ (beginStarts s.context s.sessions s.site).2 hbegun
  unfold startSessions
  dsimp only
  rw [(same_foldl (fun _ _ => same_log ..) _ _).sessions_eq]
  intro x hx
  obtain ⟨result, hresult, rfl⟩ := List.mem_map.1 hx
  exact hfinished result hresult

/-- A start that has no folder changes no session; any other one comes to clients that have been
admitted. -/
theorem admitted_launch (s : Supervisor) :
    s.launch.2.sessions = s.sessions ∨ ∀ x ∈ s.launch.2.sessions, x.Has Client.Admitted := by
  unfold launch
  split
  · exact .inl rfl
  · unfold bringUp
    refine .inr (admitted_startSessions fun x hx => ?_)
    obtain ⟨plans, hsessions, -⟩ := planSessions_spec s.watchLockFiles.warnLoaders
    rw [hsessions] at hx
    exact (sessionsOf_eq _ plans).2 x hx

/-- **A start gives sessions only clients that have just been welcomed.** -/
theorem admitted_start (s : Supervisor) :
    s.start.2.sessions = s.sessions ∨ ∀ x ∈ s.start.2.sessions, x.Has Client.Admitted := by
  unfold start
  split
  · have hlaunch := admitted_launch (({ s with phase := .starting }.log .info
      "Starting extension...").tell (.status (some .loading)))
    exact hlaunch
  · exact .inl rfl

/-- **After a start all clients live.** -/
theorem allLive_start (h : s.AllLive) : s.start.2.AllLive := by
  rcases admitted_start s with hsame | hadmitted
  · exact h.congr hsame
  · exact fun x hx c hc => .admitted (hadmitted x hx c hc)

/-- **After a stop no client is left.** -/
theorem allLive_stop (h : s.AllLive) : s.stop.AllLive := by
  unfold stop
  split
  · exact h
  · exact fun x hx => absurd hx List.not_mem_nil

/-- A restart comes to clients that live. -/
theorem allLive_restart (h : s.AllLive) : s.restart.2.AllLive := by
  unfold restart
  dsimp only
  refine (deeds_foldl deeds_reopen _ _).allLive ?_
  exact allLive_start (allLive_stop h)

/-! ### Moves -/

/-- A command leaves the clients that are listed living. -/
theorem allLive_perform (h : s.AllLive) (active : Option Path)
    (c : Command) : (s.perform active c).AllLive := by
  cases c with
  | restart => exact allLive_restart h
  | showOutput => exact h
  | showCommands => exact h
  | autofix => exact (deeds_autofix s active).allLive h

/-- A report that is handled retires a session or leaves all as they are. -/
theorem allLive_handleReport (h : s.AllLive) (e : ServerEvent) :
    (s.handleReport e).2.AllLive := by
  unfold handleReport
  split
  · split
    · exact h
    · exact h
  · split
    · exact h
    next x _ =>
      split
      · have hput := h.put (Session.has_of_idle (Session.stop_spec x s.site).2) (x.stop s.site).2
        unfold retire
        dsimp only
        split
        · exact hput
        · exact hput
      · exact h

/-- **Whatever happens, all clients live.** -/
theorem allLive_after (h : s.AllLive) (m : Move) :
    (s.after m).AllLive := by
  cases m with
  | start => exact allLive_start h
  | stop => exact allLive_stop h
  | restart => exact allLive_restart h
  | opened path text => exact (deeds_openDocument s path text).allLive h
  | changed path text => exact (deeds_changeDocument s path text).allLive h
  | closed path => exact (deeds_closeDocument s path).allLive h
  | fixed path => exact (deeds_fixAllActions s path).allLive h
  | command active picked c =>
    have hpalette : s.openPalette.AllLive := h
    exact execute_cases hpalette (allLive_perform hpalette active) (allLive_perform h active)
  | folders paths => exact h
  | report =>
    change (s.poll 1).2.AllLive
    unfold poll
    split
    · exact h
    next e s₁ hnext => exact allLive_handleReport ((deeds_nextReport? hnext).allLive h) e
  | settle => exact allLive_settle h
  | read id frames =>
    exact (deeds_withClientOf s id fun c site => .read c site frames).allLive h
  | act id reaction =>
    exact (deeds_withClientOf s id fun c site => .server c site reaction).allLive h
  | world disk now => exact h

/-- What every move keeps, a run keeps. -/
theorem run_of_after {P : Supervisor → Prop} (hafter : ∀ s m, P s → P (s.after m)) (h : P s)
    (moves : List Move) : P (s.run moves) :=
  List.foldlRecOn moves after h fun s hs m _ => hafter s m hs

/-- **Every client lives in every run.** -/
theorem allLive_run (hs : s.Fresh) (moves : List Move) :
    (s.run moves).AllLive := by
  have hbegin : s.AllLive := fun x hx => absurd hx (hs.sessions_eq ▸ List.not_mem_nil)
  exact run_of_after (P := AllLive) (fun s m h => allLive_after h m) hbegin moves

end Supervisor
end Switchboard
