/-
# Commands at work

What a command does.  The command that opens the palette does what is picked
there.
-/

import Switchboard.Supervisor.Restart

namespace Switchboard
namespace Supervisor

/-- Shows the supervisor's log. -/
def showLog (s : Supervisor) : Supervisor :=
  s.tell (.channel s.channel (s.channel.file.map fun file => s.site.disk.readText file.path))

/-- Lets the host apply all safe fixes to the active document. -/
def autofix (s : Supervisor) (active : Option Path) : Supervisor :=
  match active with
  | none => s.log .info "No active document to fix."
  | some path => match s.fixAllActions path with
    | (.ok actions, s) => s.tell (.sourceAction fixAllKind path actions)
    | (.error e, s) => s.log .warn ("Autofix failed for " ++ path.display ++ ": " ++ e.message)

/-- Does what a command on the palette does. -/
def perform (s : Supervisor) (active : Option Path) : Command → Supervisor
  | .restart => s.restart.2
  | .showOutput => s.showLog
  | .autofix => s.autofix active
  | .showCommands => s

/-- Opens the palette. -/
def openPalette (s : Supervisor) : Supervisor := s.tell (.palette Command.palette)

/-- Does what has been picked from the palette. -/
def performPicked (s : Supervisor) (active : Option Path) (picked : Option Command) : Supervisor :=
  match picked with
  | some c => s.perform active c
  | none => s

/-- Does what a command does, with what is picked if it opens the palette. -/
def execute (s : Supervisor) (active : Option Path) (picked : Option Command) (c : Command) :
    Supervisor :=
  if c = .showCommands then s.openPalette.performPicked active picked else s.perform active c

end Supervisor
end Switchboard
