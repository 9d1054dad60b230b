/-
# Events

What reaches the supervisor from the host and from the watch on lock files.
Some events call for a restart; several of those in a row need only one.
-/

import Switchboard.Session.Description
import Switchboard.Supervisor.Command

namespace Switchboard

/-- An event. -/
inductive Event where
  | folders (paths : List Path)
  | lockFile (path : Path)
  | command (c : Command)
  | opened (path : Path) (text : String)
  | changed (path : Path) (text : String)
  | closed (path : Path)
  | shutdown
  deriving DecidableEq, Repr

namespace Event

/-- Whether an event calls for a restart. -/
def isTrigger : Event → Bool
  | .folders _ | .lockFile _ | .command .restart => true
  | _ => false

/-- The description of a document and its text. -/
def described (name : String) (path : Path) (text : String) : String :=
  name ++ " \x7b path: " ++ Quoted.path path ++ ", text: " ++ Quoted.text text ++ " \x7d"

/-- The description of an event. -/
def describe : Event → String
  | .folders paths =>
    Session.tagged "WorkspaceFoldersChanged" (Session.bracketed (paths.map Quoted.path))
  | .lockFile path => Session.tagged "LockFileChanged" (Quoted.path path)
  | .command c => Session.tagged "Command" c.traceName
  | .opened path text => described "DocumentOpened" path text
  | .changed path text => described "DocumentChanged" path text
  | .closed path => Session.tagged "DocumentClosed" (Quoted.path path)
  | .shutdown => "Shutdown"

end Event
end Switchboard
