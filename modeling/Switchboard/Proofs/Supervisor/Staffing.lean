/-
# The sessions of a start

A start scans the workspace folders, keeps the manifests that declare the tool,
groups their projects by installation and looks for the executable of each
group.  What comes of that is a session for each installation with an executable,
in the order in which the installations are first met, and a place in exactly one
session for each project whose installation has one (`Supervisor.start_staffs`).

The supervisor logs between these steps, and the log's file can lie below the
folders.  Its lines change no more than what files hold, so all steps answer for
the disk that the start has found, but for what manifests hold when they are read.
-/

import Switchboard.Proofs.Supervisor.Frame
import Switchboard.Proofs.Supervisor.Routing
import Switchboard.Proofs.Workspace.Groups
import Switchboard.Proofs.Workspace.Scanned
import Switchboard.Supervisor.Startup

namespace Switchboard

/-! ### Lines in a log -/

namespace Channel

/-- A disk with lines written to a channel. -/
def logLines (c : Channel) (d : Disk) (lines : List (Level × String)) : Disk :=
  lines.foldl (fun d line => c.log d line.1 line.2) d

/-- A line in a log leaves the shape of a tidy disk. -/
theorem shape_log {d : Disk} (hd : d.Tidy) (c : Channel) (level : Level) (message : String) :
    (c.log d level message).shape = d.shape := by
  unfold log
  split
  · exact Disk.shape_append hd _ _
  · rfl

/-- Lines in a log leave the shape of a tidy disk. -/
theorem shape_logLines {d : Disk} (hd : d.Tidy) (c : Channel) (lines : List (Level × String)) :
    (c.logLines d lines).shape = d.shape := by
  induction lines generalizing d with
  | nil => rfl
  | cons line lines ih =>
    have hline := shape_log hd c line.1 line.2
    exact (ih (hd.of_shape hline)).trans hline

end Channel

namespace Supervisor

variable {s s' s'' : Supervisor}

/-- What a supervisor does that leaves no more on the disk than lines in its log. -/
structure Logs (s s' : Supervisor) : Prop where
  channel_eq : s'.channel = s.channel
  folders_eq : s'.folders = s.folders
  disk : ∃ lines, s'.site.disk = s.channel.logLines s.site.disk lines

theorem Logs.refl (s : Supervisor) : Logs s s := ⟨rfl, rfl, [], rfl⟩

theorem Logs.trans (h₁ : Logs s s') (h₂ : Logs s' s'') : Logs s s'' := by
  obtain ⟨lines₁, hlines₁⟩ := h₁.disk
  obtain ⟨lines₂, hlines₂⟩ := h₂.disk
  refine ⟨h₂.channel_eq.trans h₁.channel_eq, h₂.folders_eq.trans h₁.folders_eq,
    lines₁ ++ lines₂, ?_⟩
  rw [hlines₂, h₁.channel_eq, hlines₁, Channel.logLines, Channel.logLines, Channel.logLines,
    List.foldl_append]

/-- A line that is logged is one line. -/
theorem logs_log (s : Supervisor) (level : Level) (message : String) :
    Logs s (s.log level message) := ⟨rfl, rfl, [(level, message)], rfl⟩

/-- A row of steps that log leaves the lines of all. -/
theorem logs_foldl {α : Type} {f : Supervisor → α → Supervisor} (hf : ∀ s a, Logs s (f s a))
    (s : Supervisor) (as : List α) : Logs s (as.foldl f s) :=
  rel_foldl .refl .trans hf s as

/-- Watching lock files leaves no more than lines in the log. -/
theorem logs_watchLockFiles (s : Supervisor) : Logs s s.watchLockFiles := by
  obtain ⟨lines, watch, h⟩ := watchLockFiles_eq s
  have hlines : Logs s (s.logLines lines) := logs_foldl (fun s line => logs_log ..) s lines
  rw [h]
  exact hlines.trans ⟨rfl, rfl, [], rfl⟩

/-- Warning about loaders leaves lines in the log. -/
theorem logs_warnLoaders (s : Supervisor) : Logs s s.warnLoaders :=
  logs_foldl (fun _ _ => logs_log ..) s _

/-- Whoever leaves no more than lines in a log leaves the shape of a tidy disk. -/
theorem Logs.shape_eq (h : Logs s s') (hd : s.site.disk.Tidy) :
    s'.site.disk.shape = s.site.disk.shape := by
  obtain ⟨lines, hlines⟩ := h.disk
  rw [hlines, Channel.shape_logLines hd]

/-! ### Installations -/

/-- The installations that are discovered are those of the projects on the disk. -/
theorem discoverInstallations_eq (s : Supervisor) (ps : List Project) :
    (s.discoverInstallations ps).1 =
      (Discovery.group s.site.disk ps).map (Discovery.inspect s.site.disk) := by
  unfold discoverInstallations
  dsimp only
  split
  next hnone => exact hnone.symm
  · rfl

/-- Manifests are scanned on one disk, read from the next and resolved on a third,
with no more than lines of the log between them. -/
theorem discover_eq (s : Supervisor) : ∃ s₁ s₂, Logs s s₁ ∧ Logs s₁ s₂ ∧
    s.discover.1 = (Discovery.group s₂.site.disk (Manifest.projects s₁.site.disk
      (Scan.manifests s.site.disk s.folders))).map (Discovery.inspect s₂.site.disk) := by
  unfold discover
  dsimp only
  generalize Scan.manifests s.site.disk s.folders = manifests
  let s₁ := (s.logPhase "find all package.json" s.site.now).log .info
    ("Found " ++ toString manifests.length ++ " project folder(s) in workspaces.")
  have hs₁ : Logs s s₁ := (logs_log ..).trans (logs_log ..)
  split
  next hnone =>
    refine ⟨s₁, s₁, hs₁, .refl _, ?_⟩
    rw [hnone]
    rfl
  · refine ⟨s₁, _, hs₁, ?_, discoverInstallations_eq _ _⟩
    exact (logs_log ..).trans (logs_log ..)

end Supervisor

/-! ### Sessions and what they are made of -/

/-- A session of an installation: it has the projects that resolve to it, and its
executable is a file in the directory of the companion package for the platform of
the machine that the installation resolves to. -/
structure Session.IsOf (d : Disk) (ps : List Project) (m : Path) (x : Session) : Prop where
  projects_eq : x.projects = Discovery.users d ps m
  executable : ∃ platform companion dir, d.platform = .ok platform ∧
    Resolve.manifest d m platform.packageName = .ok companion ∧
      companion.parent = some dir ∧ x.binary = dir.child platform.binaryName ∧
      d.isFile x.binary = true

/-- What a session is made of. -/
def Session.plan (x : Session) : Plan := ⟨x.version, x.binary, x.projects⟩

/-- What a session is made of stays when it begins to start. -/
theorem Session.plan_beginStart (x : Session) (site : Site) (ctx : SessionContext) :
    (x.beginStart site ctx).1.session.plan = x.plan := by
  unfold beginStart
  dsimp only
  split <;> rfl

/-- What a session is made of stays when it has started, or has not. -/
theorem Session.Starting.plan_finish (p : Session.Starting) (site : Site) :
    (p.finish site).2.1.plan = p.session.plan := by
  unfold finish
  split
  · rfl
  · split <;> rfl

namespace Supervisor

variable {s : Supervisor} {d : Disk} {ps : List Project}

/-- Sessions are made of the plans that they are created for. -/
theorem plan_sessionsOf (next : SessionId) (plans : List Plan) :
    (sessionsOf next plans).map Session.plan = plans := by
  refine List.ext_getElem (by simp [sessionsOf]) fun i h₁ h₂ => ?_
  simp [sessionsOf, Session.ofPlan, Session.plan]

/-- Sessions that begin to start stay made of what they are. -/
theorem plan_beginStarts (ctx : SessionContext) (xs : List Session) (site : Site) :
    (beginStarts ctx xs site).1.map (fun p => p.session.plan) = xs.map Session.plan := by
  induction xs generalizing site with
  | nil => rfl
  | cons x xs ih => exact congrArg₂ List.cons (x.plan_beginStart site ctx) (ih _)

/-- Sessions that have started stay made of what they are. -/
theorem plan_finishStarts (ps : List Session.Starting) (site : Site) :
    (finishStarts ps site).1.map (fun result => result.1.plan) =
      ps.map fun p => p.session.plan := by
  induction ps generalizing site with
  | nil => rfl
  | cons p ps ih => exact congrArg₂ List.cons (p.plan_finish site) (ih _)

/-- Starting sessions keeps what they are made of. -/
theorem plan_startSessions (s : Supervisor) :
    s.startSessions.2.sessions.map Session.plan = s.sessions.map Session.plan := by
  have hbegun := plan_beginStarts s.context s.sessions s.site
  unfold startSessions
  dsimp only
  have hlogged := fun s₁ failures => (same_foldl (fun s f => same_log s .error
    (StartFailure.line f)) s₁ failures).sessions_eq
  rw [hlogged]
  dsimp only
  rw [List.map_map, ← hbegun]
  exact plan_finishStarts ..

/-- Sessions are planned for the installations that have an executable. -/
theorem plan_planSessions (s : Supervisor) :
    s.planSessions.sessions.map Session.plan = s.discover.1.filterMap Installation.plan? := by
  unfold planSessions
  exact plan_sessionsOf ..

/-- What the sessions of a start are made of. -/
theorem plan_start (hphase : s.phase = .stopped) (hnone : s.sessions = []) :
    ∃ s₀ s₁ s₂, Logs s s₀ ∧ Logs s₀ s₁ ∧ Logs s₁ s₂ ∧ s.start.2.sessions.map Session.plan =
      ((Discovery.group s₂.site.disk (Manifest.projects s₁.site.disk
        (Scan.manifests s₀.site.disk s.folders))).map
          (Discovery.inspect s₂.site.disk)).filterMap Installation.plan? := by
  let told := { s with phase := .starting }.log .info "Starting extension..."
  let begun := told.tell (.status (some .loading))
  have hbegun : Logs s begun := ⟨rfl, rfl, [(.info, "Starting extension...")], rfl⟩
  have hsessions : s.start.2.sessions = begun.launch.2.sessions := by
    rw [start, if_pos hphase]
    rfl
  have hfolders : begun.folders = s.folders := rfl
  rw [hsessions, launch, hfolders]
  split
  next hempty =>
    refine ⟨s, s, s, .refl s, .refl s, .refl s, ?_⟩
    rw [List.isEmpty_iff.1 hempty]
    change s.sessions.map Session.plan = []
    rw [hnone]
    rfl
  · obtain ⟨s₁, s₂, hs₁, hs₂, hdiscover⟩ := discover_eq begun.watchLockFiles.warnLoaders
    have hs₀ := hbegun.trans ((logs_watchLockFiles begun).trans (logs_warnLoaders _))
    refine ⟨_, s₁, s₂, hs₀, hs₁, hs₂, ?_⟩
    rw [bringUp, plan_startSessions, plan_planSessions, hdiscover, hs₀.folders_eq]

/-! ### Who works where -/

/-- Every installation with an executable has a session, and every project whose
installation has one a place. -/
structure Staffed (d : Disk) (ps : List Project) (xs : List Session) : Prop where
  inOrder : List.Forall₂ (Session.IsOf d ps) (Discovery.equipped d ps) xs
  placed : ∀ p, p ∈ xs.flatMap Session.projects ↔ p ∈ ps ∧ ∃ m b,
    Discovery.installation? d p = some m ∧ Discovery.executable d m = some b
  once : (xs.flatMap Session.projects).Pairwise fun p q => p.path.same q.path = false

/-- The projects of sessions are those that resolve to their installations. -/
theorem flatMap_projects {ms : List Path} {xs : List Session}
    (h : List.Forall₂ (Session.IsOf d ps) ms xs) :
    xs.flatMap Session.projects = ms.flatMap (Discovery.users d ps) := by
  induction h with
  | nil => rfl
  | cons hx _ ih => rw [List.flatMap_cons, List.flatMap_cons, hx.projects_eq, ih]

instance : Std.Symm fun p q : Project => p.path.same q.path = false :=
  ⟨fun p q h => by rwa [Path.same, Bool.beq_comm] at h⟩

/-- Sessions that are in order put every project in its place. -/
theorem staffed_of_inOrder {xs : List Session}
    (hps : ps.Pairwise fun p q => p.path.same q.path = false)
    (h : List.Forall₂ (Session.IsOf d ps) (Discovery.equipped d ps) xs) : Staffed d ps xs := by
  refine ⟨h, fun p => ?_, ?_⟩
  · rw [flatMap_projects h, Discovery.mem_flatMap_users]
    constructor
    · rintro ⟨hp, m, hm, hinstalled⟩
      obtain ⟨-, b, hb⟩ := Discovery.mem_equipped.1 hm
      exact ⟨hp, m, b, hinstalled, hb⟩
    · rintro ⟨hp, m, b, hinstalled, hb⟩
      exact ⟨hp, m, Discovery.mem_equipped.2 ⟨⟨p, hp, hinstalled⟩, b, hb⟩, hinstalled⟩
  · rw [flatMap_projects h]
    exact Discovery.pairwise_flatMap_users ((Discovery.nodup_met d ps).filter _) hps

/-- Plans that are made on a disk of one shape are in order on every disk of that shape. -/
theorem inOrder_of_plans {d' : Disk} (hd' : d'.Tidy) (hshape : d'.shape = d.shape)
    {xs : List Session} (h : xs.map Session.plan =
      ((Discovery.group d' ps).map (Discovery.inspect d')).filterMap Installation.plan?) :
    List.Forall₂ (Session.IsOf d ps) (Discovery.equipped d ps) xs := by
  have hplans := Discovery.forall₂_plans d' (Discovery.users d' ps) (Discovery.met d' ps)
  rw [← Discovery.group_eq hd'.cwd, ← h, List.forall₂_map_right_iff,
    Discovery.met_of_shape hshape, Discovery.users_of_shape hshape,
    Discovery.executable_of_shape hshape] at hplans
  refine hplans.imp fun m x hx => ⟨hx.1, ?_⟩
  obtain ⟨platform, hplatform, hlocated⟩ := Discovery.executable_eq_some_iff.1 hx.2
  obtain ⟨companion, dir, hcompanion, hdir, hbinary, hfile⟩ :=
    Discovery.binary_eq_some_iff.1 hlocated
  exact ⟨platform, companion, dir, hplatform, hcompanion, hdir, hbinary, hfile⟩

/-- **On a machine that the tool ships nothing for a start creates no session.** -/
theorem start_staffs_nobody (hphase : s.phase = .stopped) (hnone : s.sessions = [])
    (hd : s.site.disk.Tidy) {u : Platform.Unsupported} (hu : s.site.disk.platform = .error u) :
    s.start.2.sessions = [] := by
  obtain ⟨s₀, s₁, s₂, h₀, h₁, h₂, hplans⟩ := plan_start hphase hnone
  have hshape := (h₀.trans (h₁.trans h₂)).shape_eq hd
  have hplatform : s₂.site.disk.platform = .error u := (Disk.platform_of_shape hshape).trans hu
  rw [List.filterMap_eq_nil_iff.2] at hplans
  · exact List.map_eq_nil_iff.1 hplans
  · intro i hi
    obtain ⟨entry, -, rfl⟩ := List.mem_map.1 hi
    rw [Installation.plan?, Discovery.inspect, Discovery.executable, hplatform]
    rfl

/-- **A start creates a session for each installation that has an executable and
that a project resolves to**, in the order in which installations are first met,
and every project whose installation has an executable is in exactly one of them.
When the manifests are read, the supervisor has logged some lines. -/
theorem start_staffs (hphase : s.phase = .stopped) (hnone : s.sessions = [])
    (hd : s.site.disk.Tidy) : ∃ lines, Staffed s.site.disk
      (Manifest.projects (s.channel.logLines s.site.disk lines)
        (Scan.manifests s.site.disk s.folders)) s.start.2.sessions := by
  obtain ⟨s₀, s₁, s₂, h₀, h₁, h₂, hplans⟩ := plan_start hphase hnone
  obtain ⟨lines, hlines⟩ := (h₀.trans h₁).disk
  have hshape := (h₀.trans (h₁.trans h₂)).shape_eq hd
  rw [hlines, Scan.manifests_of_shape (h₀.shape_eq hd)] at hplans
  exact ⟨lines, staffed_of_inOrder (Manifest.pairwise_projects _ hd s.folders)
    (inOrder_of_plans (hd.of_shape hshape) hshape hplans)⟩

/-- A project that uses the installation of the one around it. -/
def sharedInstallation : Disk :=
  diskWith plainServer [(Utf8.encode "web", .directory [(Utf8.encode "package.json",
    .file (Utf8.encode "\x7b\"dependencies\":\x7b\"@biomejs/biome\":\"*\"\x7d\x7d") false)])]

/-- Two folders, one inside the other, and one session for the two projects in them. -/
theorem start_staffs_shared :
    ∃ s, make .default [Path.ofText "/w", Path.ofText "/w/web"] none 7
        (.ofDisk sharedInstallation) = .ok s ∧
      s.phase = .stopped ∧ s.sessions = [] ∧ s.site.disk.Tidy ∧
      s.start.2.sessions.map (fun x => x.projects.map Project.path) =
        [[Path.ofText "/w", Path.ofText "/w/web"]] ∧
      ∃ lines, Staffed s.site.disk
        (Manifest.projects (s.channel.logLines s.site.disk lines)
          (Scan.manifests s.site.disk s.folders)) s.start.2.sessions := by
  have hmake : make .default [Path.ofText "/w", Path.ofText "/w/web"] none 7
      (.ofDisk sharedInstallation) = .ok _ := rfl
  have htidy : sharedInstallation.Tidy := ⟨by decide +kernel, by decide⟩
  exact ⟨_, hmake, rfl, rfl, htidy, by decide +kernel, start_staffs rfl rfl htidy⟩

end Supervisor
end Switchboard
