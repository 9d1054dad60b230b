/-
# Reports of sessions

Diagnostics count as long as their session is there.  When a server has
stopped, its session is stopped, and what it knew is dropped: what it said
about files, and that documents are open in it.
-/

import Switchboard.Supervisor.Basic

namespace Switchboard
namespace Supervisor

/-- Stops one session and drops what it knew. -/
def retire (s : Supervisor) (x : Session) (reason : StopReason) : Supervisor :=
  let running := s.phase = .running
  let (y, site) := x.stop s.site
  let s := { s.putSession y with site }
  let s := if running then
      s.log .warn ("Biome " ++ x.version.text ++ " session #" ++ toString x.id ++ " stopped: " ++
        reason.display)
    else s
  { s with
    store := s.store.clearSession x.id
    documents := s.documents.filter fun entry => entry.2 != x.id }

/-- Handles a report: whether it changed anything, and the supervisor after it. -/
def handleReport (s : Supervisor) : ServerEvent → Bool × Supervisor
  | .diagnostics session path items =>
    if (s.session? session).isSome then
      (true, { s with store := s.store.update session path items })
    else (false, s)
  | .stopped session reason => match s.session? session with
    | none => (false, s)
    | some x => if x.isRunning then (true, s.retire x reason) else (false, s)

/-- Lets sessions read on when there is room for a report that has waited. -/
def readOn (s : Supervisor) : Supervisor :=
  if s.site.events.length < Site.reportLimit then s else s.settle

/-- Takes the next report from the site. -/
def nextReport? (s : Supervisor) : Option (ServerEvent × Supervisor) :=
  match s.site.events with
  | [] => none
  | e :: rest => some (e, { s with site := { s.site with events := rest } }.readOn)

/-- Handles at most `budget` reports: how many there were. -/
def poll : Nat → Supervisor → Nat × Supervisor
  | 0, s => (0, s)
  | budget + 1, s => match s.nextReport? with
    | none => (0, s)
    | some (e, s) =>
      let (n, s) := poll budget (s.handleReport e).2
      (n + 1, s)

end Supervisor
end Switchboard
