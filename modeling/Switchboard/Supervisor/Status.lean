/-
# The status item

What a host shows about the extension: its icon turns while sessions start,
and a tooltip names it when some session runs.
-/

import Switchboard.Supervisor.Command

namespace Switchboard

/-- The state that the status item shows. -/
inductive Glyph where
  | idle
  | loading
  | ready
  deriving DecidableEq, Repr

namespace Glyph

/-- The name of the extension, of its status item and of its log. -/
def extensionName : String := "Biome Monorepo"

/-- The icon. -/
def text : Glyph → String
  | .idle | .ready => "$(biome-logo)"
  | .loading => "$(loading~spin)"

/-- The tooltip. -/
def tooltip : Glyph → Option String
  | .idle => none
  | .loading => some "Loading Biome Monorepo"
  | .ready => some extensionName

/-- The command that a click runs. -/
def command (_ : Glyph) : Command := .showCommands

end Glyph
end Switchboard
