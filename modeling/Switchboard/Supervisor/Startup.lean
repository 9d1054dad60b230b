/-
# Starting

A start puts a watch on the lock files below the workspace folders, finds the
installations that the projects below them use, and starts a session for each
installation with an executable.  Sessions start side by side, and one that
fails does not keep the others from running.
-/

import Switchboard.Supervisor.Basic
import Switchboard.Workspace.Discovery
import Switchboard.Workspace.PlugAndPlay

namespace Switchboard
namespace Supervisor

/-- Watches the lock files below the workspace folders, if there are any. -/
def watchLockFiles (s : Supervisor) : Supervisor :=
  let (files, s) := match Scan.lockFiles s.site.disk s.folders s.settings.lockFiles with
    | .ok files => (files, s)
    | .error e => ([], s.log .warn ("Invalid lock file name: " ++ e.message))
  if files.isEmpty then s.log .debug "No lock files to watch."
  else
    let s := s.log .info ("Watching " ++ toString files.length ++ " lock file(s) for changes.")
    { s with watch := some (.ofFiles s.site.disk files s.settings.debounce) }

/-- Warns about a folder whose packages are not kept in directories. -/
def warnLoader (s : Supervisor) (folder : Path) : Supervisor :=
  s.log .warn (folder.display ++
    " uses Yarn Plug'n'Play. Biome can only be found through node_modules.")

/-- Warns about folders whose packages are not kept in directories. -/
def warnLoaders (s : Supervisor) : Supervisor :=
  (PlugAndPlay.folders s.site.disk s.folders).foldl warnLoader s

/-- Logs how long a phase took that began at some time. -/
def logPhase (s : Supervisor) (label : String) (since : Nat) : Supervisor :=
  s.log .info (label ++ ": " ++ toString (s.site.now - since) ++ ".00ms")

/-- Warns about an installation without an executable. -/
def warnMissing (s : Supervisor) (i : Installation) : Supervisor :=
  if i.binary.isSome then s
  else s.log .warn ("No binary found for " ++ i.manifest.display ++
    ". It appears that node_modules is not properly installed. Please reinstall it.")

/-- The installations that projects use. -/
def discoverInstallations (s : Supervisor) (projects : List Project) :
    List Installation × Supervisor :=
  let since := s.site.now
  match (Discovery.group s.site.disk projects).map (Discovery.inspect s.site.disk) with
  | [] => ([], s.log .warn "No biome package found in node_modules. Please install it.")
  | installations =>
    (installations, (installations.foldl warnMissing s).logPhase "find biome binaries" since)

/-- The installations that the projects below the workspace folders use. -/
def discover (s : Supervisor) : List Installation × Supervisor :=
  let since := s.site.now
  let manifests := Scan.manifests s.site.disk s.folders
  let s := s.logPhase "find all package.json" since
  let s := s.log .info
    ("Found " ++ toString manifests.length ++ " project folder(s) in workspaces.")
  let since := s.site.now
  match Manifest.projects s.site.disk manifests with
  | [] => ([], s.log .warn "No biome project found.")
  | projects =>
    let s := s.logPhase "find all biome projects" since
    let s := s.log .info ("Found " ++ toString projects.length ++ " biome project folder(s).")
    s.discoverInstallations projects

/-- The sessions of plans, with consecutive identities. -/
def sessionsOf (next : SessionId) (plans : List Plan) : List Session :=
  plans.mapIdx fun i plan => .ofPlan (next + i) plan

/-- Plans a session for each installation that has an executable. -/
def planSessions (s : Supervisor) : Supervisor :=
  let (installations, s) := s.discover
  let plans := installations.filterMap Installation.plan?
  let s := if !installations.isEmpty && plans.isEmpty then
      s.log .warn "No usable Biome binary found. No session will be started."
    else s
  { s with
    sessions := sessionsOf s.nextSession plans
    nextSession := s.nextSession + plans.length }

/-- What sessions are started with. -/
def context (s : Supervisor) : SessionContext :=
  ⟨s.logDir, s.settings.effectiveInitTimeout, s.settings.shutdownTimeout, s.folders, s.processId⟩

/-- The first halves of starts. -/
def beginStarts (ctx : SessionContext) : List Session → Site → List Session.Starting × Site
  | [], site => ([], site)
  | x :: rest, site =>
    let (p, site) := x.beginStart site ctx
    let (rest, site) := beginStarts ctx rest site
    (p :: rest, site)

/-- The second halves of starts: each session, with the fault if it has failed. -/
def finishStarts : List Session.Starting → Site → List (Session × Option SessionFault) × Site
  | [], site => ([], site)
  | p :: rest, site =>
    let (r, x, site) := p.finish site
    let (rest, site) := finishStarts rest site
    let failure := match r with
      | .ok () => none
      | .error e => some e
    ((x, failure) :: rest, site)

/-- The failure of a session, if it has failed. -/
def failureOf? (entry : Session × Option SessionFault) : Option StartFailure :=
  entry.2.map fun e => ⟨entry.1.version, entry.1.binary, e.message⟩

/-- The line that is logged for a failure. -/
def StartFailure.line (f : StartFailure) : String :=
  "Failed to start Biome " ++ f.version.text ++ " (" ++ f.binary.display ++ "): " ++ f.error

/-- Starts all sessions. -/
def startSessions (s : Supervisor) : StartReport × Supervisor :=
  let (starting, site) := beginStarts s.context s.sessions s.site
  let (results, site) := finishStarts starting site
  let failures := results.filterMap failureOf?
  let s := { s with sessions := results.map Prod.fst, site }
  (⟨results.length - failures.length, failures⟩,
    failures.foldl (fun s f => s.log .error (StartFailure.line f)) s)

/-- What a start does when there are workspace folders. -/
def bringUp (s : Supervisor) : StartReport × Supervisor :=
  s.watchLockFiles.warnLoaders.planSessions.startSessions

/-- What a start does between its first and its last status. -/
def launch (s : Supervisor) : StartReport × Supervisor :=
  if s.folders.isEmpty then (.nothing, s.log .error "No workspace folder found.")
  else s.bringUp

/-- The status after a start. -/
def glyphAfter (report : StartReport) : Glyph := if report.started > 0 then .ready else .idle

/-- Starts the extension, if it is stopped. -/
def start (s : Supervisor) : StartReport × Supervisor :=
  if s.phase = .stopped then
    let s := { s with phase := .starting }.log .info "Starting extension..."
    let (report, s) := (s.tell (.status (some .loading))).launch
    let s := { s.tell (.status (some (glyphAfter report))) with phase := .running }
    (report, s.log .info
      ("Extension started with " ++ toString report.started ++ " running session(s)."))
  else (.nothing, s)

end Supervisor
end Switchboard
