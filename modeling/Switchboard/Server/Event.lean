/-
# What sessions report

The reports that reach the supervisor: what a server says about a file, and
that a server has stopped, with the reason.
-/

import Switchboard.Diagnostic.Store

namespace Switchboard

/-- Why a server is not heard any more. -/
inductive StopReason where
  | exited
  | failed (message : String)
  deriving DecidableEq, Repr

/-- The text for a reason. -/
def StopReason.display : StopReason → String
  | .exited => "server exited"
  | .failed message => "transport failed: " ++ message

/-- A report of a session. -/
inductive ServerEvent where
  | diagnostics (session : SessionId) (path : Path) (items : List Diagnostic)
  | stopped (session : SessionId) (reason : StopReason)
  deriving Repr

/-- The session that a report is from. -/
def ServerEvent.session : ServerEvent → SessionId
  | .diagnostics session _ _ => session
  | .stopped session _ => session

end Switchboard
