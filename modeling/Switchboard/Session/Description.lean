/-
# Sessions described

The text that shows a session to someone who looks for a fault.
-/

import Switchboard.Session.Basic
import Switchboard.Text.Quoted

namespace Switchboard
namespace Session

/-- A name and what it holds, in parentheses. -/
def tagged (name content : String) : String := name ++ "(" ++ content ++ ")"

/-- Descriptions in brackets. -/
def bracketed (items : List String) : String := "[" ++ ", ".intercalate items ++ "]"

/-- The description of a session. -/
def describe (x : Session) : String :=
  "Session \x7b id: " ++ tagged "SessionId" (toString x.id) ++
    ", version: " ++ tagged "ToolVersion" (Quoted.text x.version.text) ++
    ", binary: " ++ tagged "BinaryLocation" (Quoted.path x.binary) ++
    ", projects: " ++ bracketed (x.projects.map fun p =>
      tagged "ProjectDirectory" (Quoted.path p.path)) ++
    ", running: " ++ toString x.isRunning ++ ", .. \x7d"

end Session
end Switchboard
