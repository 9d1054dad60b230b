/-
# The screen

How a terminal shows what the host is told, as lines of text.  A line that is
`none` is one that cannot be made: whoever prints the lines fails there.
-/

import Switchboard.Supervisor.Basic
import Switchboard.Terminal.Choice
import Switchboard.Text.Lines

namespace Switchboard
namespace Screen

/-- How many lines of a log are shown. -/
def tailLines : Nat := 40

/-- The last lines of a text. -/
def tail (text : String) : List String :=
  let lines := Lines.ofString text
  lines.drop (lines.length - tailLines)

/-- The line for a status. -/
def statusLine : Option Glyph → String
  | none => "[status] hidden"
  | some g => match g.tooltip with
    | some tooltip => "[status] " ++ g.text ++ " " ++ tooltip
    | none => "[status] " ++ g.text

/-- The lines for diagnostics. -/
def diagnosticLines (s : Snapshot) : List (Option String) :=
  if s.isEmpty then [some "[diagnostics] clean"]
  else some ("[diagnostics] " ++ s.status) ::
    s.files.flatMap fun (path, items) => items.map fun d => (d.display? path).map ("  " ++ ·)

/-- The lines for a channel and what its log file holds. -/
def channelLines (c : Channel) (content : Option (Except DiskFault String)) : List String :=
  ("==> " ++ c.name ++ " <==") :: match c.file, content with
    | some file, some (.ok text) => tail text ++ ["(full log: " ++ file.path.display ++ ")"]
    | some file, some (.error fault) =>
      ["cannot read " ++ file.path.display ++ ": " ++ fault.message]
    | _, _ => ["(channel has no log file)"]

/-- The title of an action. -/
def titleOf (action : Json) : String :=
  ((action.member? "title").bind Json.text?).getD "(untitled)"

/-- The line for actions on a document, of which the first is applied. -/
def actionLine (kind : String) (path : Path) (actions : Json) : String :=
  match actions.items?.getD [] with
  | [] => kind ++ ": nothing to fix in " ++ path.display
  | first :: _ => kind ++ " for " ++ path.display ++ ": " ++ titleOf first

/-- The lines for the palette. -/
def paletteLines (items : List Command.Choice) : List String :=
  (Command.palettePrompt ++ ":") :: items.mapIdx Choice.line

/-- The lines for what the host is told. -/
def lines : HostCall → List (Option String)
  | .status glyph => [some (statusLine glyph)]
  | .diagnostics snapshot => diagnosticLines snapshot
  | .channel c content => (channelLines c content).map some
  | .sourceAction kind path actions => [some (actionLine kind path actions)]
  | .palette items => (paletteLines items).map some

/-- The lines for the outcome of a start. -/
def reportLines (r : StartReport) : List String :=
  ("started " ++ toString r.started ++ " session(s)") :: r.failures.map fun f =>
    "failed to start Biome " ++ f.version.text ++ " (" ++ f.binary.display ++ "): " ++ f.error

end Screen
end Switchboard
