/-
# Starts on disks that differ in programs

What a start plans depends on where files are and on what manifests hold, but not on what
any program does.  Two supervisors on disks that differ in nothing but programs
(`Disk.Alike`) log the same lines, which keeps the disks alike, and plan the same sessions
(`Supervisor.sessions_planned`).
-/

import Switchboard.Proofs.Supervisor.Results
import Switchboard.Proofs.Workspace.Groups
import Switchboard.Proofs.Workspace.Scanned

namespace Switchboard

/-! ### Disks that are alike -/

namespace Disk

variable {d d' : Disk}

/-- A disk without what programs do. -/
def muted (d : Disk) : Disk := d.redraw id fun _ => .still

/-- Two disks that differ in nothing but what programs do. -/
def Alike (d d' : Disk) : Prop := d'.muted = d.muted

/-- Disks that are alike have the same shape. -/
theorem Alike.shape_eq (h : Alike d d') : d'.shape = d.shape := by
  have hshape : ∀ d : Disk, d.muted.redraw (fun _ => []) (fun _ => .still) = d.shape :=
    fun d => d.redraw_redraw
  rw [← hshape, h, hshape]

/-- Files of disks that are alike hold the same. -/
theorem Alike.read_eq (h : Alike d d') (p : Path) : d'.read p = d.read p := by
  have hread : ∀ d : Disk, d.muted.read p = d.read p := by
    intro d
    rw [muted, read, read, node_redraw]
    cases d.node true p with
    | error fault => rfl
    | ok node => cases node <;> rfl
  rw [← hread, h, hread]

/-- Disks stay alike when the same is added to a file of both. -/
theorem Alike.append (h : Alike d d') (place : List Bytes) (bytes : Bytes) :
    Alike (d.append place bytes) (d'.append place bytes) := by
  have hmuted : ∀ d : Disk, (d.append place bytes).muted = d.muted.append place bytes := by
    intro d
    refine congrArg (Disk.mk · d.cwd d.platform) (Node.redraw_update (fun o => ?_) place d.root)
    cases o with
    | none => rfl
    | some node => cases node <;> rfl
  rw [Alike, hmuted, hmuted, h]

end Disk

namespace Discovery

variable {d d' : Disk}

/-- Disks that are alike have the same projects. -/
theorem projects_of_alike (h : d.Alike d') (manifests : List Path) :
    Manifest.projects d' manifests = Manifest.projects d manifests := by
  have hproject : Manifest.project? d' = Manifest.project? d := by
    funext m
    rw [Manifest.project?, Manifest.project?, h.read_eq]
  rw [Manifest.projects, Manifest.projects, hproject]

/-- Disks that are alike have the same installations. -/
theorem inspected_of_alike (h : d.Alike d') (ps : List Project) :
    (group d' ps).map (inspect d') = (group d ps).map (inspect d) := by
  have hplace : place d' = place d := by
    funext groups p
    unfold place
    rw [Resolve.manifest_of_shape h.shape_eq]
  have hinspect : inspect d' = inspect d := by
    funext entry
    rw [inspect, inspect, executable_of_shape h.shape_eq, Manifest.version, Manifest.version,
      h.read_eq]
  rw [group, group, hplace, hinspect]

end Discovery

/-! ### Supervisors in step -/

namespace Supervisor

variable {s s' : Supervisor}

/-- Two supervisors that plan alike: what they plan from is the same but for what programs
do. -/
structure Twins (s s' : Supervisor) : Prop where
  disk : s.site.disk.Alike s'.site.disk
  now_eq : s'.site.now = s.site.now
  settings_eq : s'.settings = s.settings
  folders_eq : s'.folders = s.folders
  channel_eq : s'.channel = s.channel
  sessions_eq : s'.sessions = s.sessions
  next_eq : s'.nextSession = s.nextSession

/-- Twins that log the same line stay twins. -/
theorem Twins.log (h : Twins s s') (level : Level) (message : String) :
    Twins (s.log level message) (s'.log level message) := by
  refine ⟨?_, h.now_eq, h.settings_eq, h.folders_eq, h.channel_eq, h.sessions_eq, h.next_eq⟩
  change Disk.Alike (s.channel.log s.site.disk level message)
    (s'.channel.log s'.site.disk level message)
  rw [h.channel_eq]
  unfold Channel.log
  split
  · exact h.disk.append ..
  · exact h.disk

/-- Twins that take the same steps one after the other stay twins if each step keeps them so. -/
theorem Twins.foldl {α : Type} {f : Supervisor → α → Supervisor}
    (hf : ∀ {s s'}, Twins s s' → ∀ a, Twins (f s a) (f s' a)) (h : Twins s s') (as : List α) :
    Twins (as.foldl f s) (as.foldl f s') := by
  induction as generalizing s s' with
  | nil => exact h
  | cons a as ih => exact ih (hf h a)

/-- Twins watch the same lock files. -/
theorem Twins.watchLockFiles (h : Twins s s') : Twins s.watchLockFiles s'.watchLockFiles := by
  have hfiles : Scan.lockFiles s'.site.disk = Scan.lockFiles s.site.disk := by
    funext roots names
    have hscan : Scan.files s'.site.disk = Scan.files s.site.disk :=
      funext fun pattern => funext (Scan.files_of_shape h.disk.shape_eq pattern)
    rw [Scan.lockFiles, Scan.lockFiles, hscan]
  unfold Supervisor.watchLockFiles
  rw [hfiles, h.folders_eq, h.settings_eq]
  cases Scan.lockFiles s.site.disk s.folders s.settings.lockFiles with
  | error e => exact (h.log ..).log ..
  | ok files =>
    dsimp only
    split
    · exact h.log ..
    · obtain ⟨hdisk, hnow, hsettings, hfolders, hchannel, hsessions, hnext⟩ := h.log .info
        ("Watching " ++ toString files.length ++ " lock file(s) for changes.")
      exact ⟨hdisk, hnow, hsettings, hfolders, hchannel, hsessions, hnext⟩

/-- Twins warn of a folder alike. -/
theorem Twins.warnLoader (h : Twins s s') (folder : Path) :
    Twins (s.warnLoader folder) (s'.warnLoader folder) := h.log ..

/-- Twins warn of their folders alike. -/
theorem Twins.warnLoaders (h : Twins s s') : Twins s.warnLoaders s'.warnLoaders := by
  have hfile : s'.site.disk.isFile = s.site.disk.isFile :=
    funext (Disk.isFile_of_shape h.disk.shape_eq)
  have hroot : PlugAndPlay.root? s'.site.disk = PlugAndPlay.root? s.site.disk := by
    funext dir
    rw [PlugAndPlay.root?, PlugAndPlay.root?, hfile]
  unfold Supervisor.warnLoaders PlugAndPlay.folders
  rw [hroot, h.folders_eq]
  exact h.foldl Twins.warnLoader _

/-- Twins log what a phase took and stay twins. -/
theorem Twins.logPhase (h : Twins s s') (label : String) (since : Nat) :
    Twins (s.logPhase label since) (s'.logPhase label since) := by
  unfold Supervisor.logPhase
  rw [h.now_eq]
  exact h.log ..

/-- Twins warn of a missing program alike. -/
theorem Twins.warnMissing (h : Twins s s') (i : Installation) :
    Twins (s.warnMissing i) (s'.warnMissing i) := by
  unfold Supervisor.warnMissing
  split
  · exact h
  · exact h.log ..

/-- Twins discover the same installations. -/
theorem Twins.discoverInstallations (h : Twins s s') (ps : List Project) :
    (s'.discoverInstallations ps).1 = (s.discoverInstallations ps).1 ∧
      Twins (s.discoverInstallations ps).2 (s'.discoverInstallations ps).2 := by
  unfold Supervisor.discoverInstallations
  dsimp only
  rw [Discovery.inspected_of_alike h.disk, h.now_eq]
  split
  · exact ⟨rfl, h.log ..⟩
  · exact ⟨rfl, (h.foldl Twins.warnMissing _).logPhase ..⟩

/-- Twins discover the same, and stay twins. -/
theorem Twins.discover (h : Twins s s') :
    s'.discover.1 = s.discover.1 ∧ Twins s.discover.2 s'.discover.2 := by
  unfold Supervisor.discover
  dsimp only
  rw [Scan.manifests_of_shape h.disk.shape_eq, h.folders_eq, h.now_eq]
  generalize Scan.manifests s.site.disk s.folders = manifests
  have hfound := (h.logPhase "find all package.json" s.site.now).log .info
    ("Found " ++ toString manifests.length ++ " project folder(s) in workspaces.")
  rw [Discovery.projects_of_alike hfound.disk, hfound.now_eq]
  split
  · exact ⟨rfl, hfound.log ..⟩
  · exact ((hfound.logPhase ..).log ..).discoverInstallations _

/-- **What programs do has no part in what is planned.** -/
theorem Twins.planSessions (h : Twins s s') : Twins s.planSessions s'.planSessions := by
  obtain ⟨hfound, hdiscover⟩ := h.discover
  unfold Supervisor.planSessions
  rw [← Prod.mk.eta (p := s.discover), ← Prod.mk.eta (p := s'.discover), hfound]
  dsimp only
  have htwins : Twins
      (if (!s.discover.1.isEmpty && (s.discover.1.filterMap Installation.plan?).isEmpty) = true then
        s.discover.2.log .warn "No usable Biome binary found. No session will be started."
      else s.discover.2)
      (if (!s.discover.1.isEmpty && (s.discover.1.filterMap Installation.plan?).isEmpty) = true then
        s'.discover.2.log .warn "No usable Biome binary found. No session will be started."
      else s'.discover.2) := by
    split
    · exact hdiscover.log ..
    · exact hdiscover
  obtain ⟨hdisk, hnow, hsettings, hfolders, hchannel, -, hnext⟩ := htwins
  exact ⟨hdisk, hnow, hsettings, hfolders, hchannel, by rw [hnext], by rw [hnext]⟩

end Supervisor
end Switchboard
