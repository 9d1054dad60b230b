/-
# Stopping

A stop ends the watch and all sessions, side by side, and forgets what the
sessions knew: diagnostics, open documents, and their reports that nobody has
taken yet.
-/

import Switchboard.Supervisor.Basic

namespace Switchboard
namespace Supervisor

/-- The first halves of stops. -/
def beginStops : List Session → Site → List Session.Stopping × Site
  | [], site => ([], site)
  | x :: rest, site =>
    let (p, site) := x.beginStop site
    let (rest, site) := beginStops rest site
    (p :: rest, site)

/-- The second halves of stops. -/
def finishStops : List Session.Stopping → Site → Site
  | [], site => site
  | p :: rest, site => finishStops rest (p.finish site).2

/-- Stops all sessions and drops what they knew. -/
def tearDown (s : Supervisor) : Supervisor :=
  let (stopping, site) := beginStops s.sessions s.site
  let site := finishStops stopping site
  { s with
    watch := none, sessions := [], store := .empty, documents := [],
    site := { site with events := [] } }

/-- Stops the extension, unless it is stopped. -/
def stop (s : Supervisor) : Supervisor :=
  if s.phase = .stopped then s
  else
    let s := ({ s with phase := .stopping }.log .info "Stopping extension...").tearDown
    let s := (s.tell (.diagnostics s.snapshot)).tell (.status none)
    { s with phase := .stopped }.log .info "Extension stopped."

end Supervisor
end Switchboard
