/-
# Restarting

A restart is a stop and a start.  The documents that were open are opened
again with what their files hold then; one that cannot be read is left out.
-/

import Switchboard.Supervisor.Document
import Switchboard.Supervisor.Startup
import Switchboard.Supervisor.Stop

namespace Switchboard
namespace Supervisor

/-- Opens a document again, if its file can be read. -/
def reopen (s : Supervisor) (path : Path) : Supervisor :=
  let s := s.settle
  match s.site.disk.readText path with
  | .error _ => s
  | .ok text => (s.openDocument path text).2

/-- Restarts the extension. -/
def restart (s : Supervisor) : StartReport × Supervisor :=
  let paths := s.documents.map Prod.fst
  let s := { s.log .info "Restarting extension..." with restarts := s.restarts + 1 }
  let (report, s) := s.stop.start
  (report, paths.foldl reopen s)

end Supervisor
end Switchboard
