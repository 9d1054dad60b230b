/-
# The host

The editor or terminal that the extension lives in.  The host is told what to
show; it is asked which document is active and which command is picked from
the palette.
-/

import Switchboard.Channel
import Switchboard.Diagnostic.Store
import Switchboard.Json.Value
import Switchboard.Supervisor.Status

namespace Switchboard

/-- What a host is told.  A channel is shown with the text of its log file, as
it is at that moment, if it has one. -/
inductive HostCall where
  | status (glyph : Option Glyph)
  | diagnostics (snapshot : Snapshot)
  | channel (channel : Channel) (content : Option (Except DiskFault String))
  | sourceAction (kind : String) (path : Path) (actions : Json)
  | palette (items : List Command.Choice)

/-- What a host answers when it is asked: the active document, and what is
picked from the palette.  While nobody has picked yet there is no answer; a
palette that is dismissed answers with no command. -/
structure HostView where
  active : Option Path
  pick : Option (Option Command)
  deriving DecidableEq, Repr

end Switchboard
