/-
# Commands

The commands that a user can give, in the order of the palette.  The command
that opens the palette is not on it.
-/

namespace Switchboard

/-- A command. -/
inductive Command where
  | restart
  | showOutput
  | autofix
  | showCommands
  deriving DecidableEq, Repr

namespace Command

/-- What the command table says about a command. -/
structure Spec where
  command : Command
  id : String
  label : Option String
  description : String

/-- The command table. -/
def specs : List Spec :=
  [⟨.autofix, "biome-monorepo.executeAutofix", some "$(wrench) Fix all auto-fixable Problems",
      "Apply every safe Biome fix to the active document"⟩,
    ⟨.restart, "biome-monorepo.restart", some "$(refresh) Restart",
      "Stop every session and rediscover installations"⟩,
    ⟨.showOutput, "biome-monorepo.showOutputChannel", some "$(output) Show Output Channel",
      "Show the extension log"⟩,
    ⟨.showCommands, "biome-monorepo.showCommands", none, "Pick a Biome Monorepo command"⟩]

/-- The identifier of a command. -/
def id : Command → String
  | .restart => "biome-monorepo.restart"
  | .showOutput => "biome-monorepo.showOutputChannel"
  | .autofix => "biome-monorepo.executeAutofix"
  | .showCommands => "biome-monorepo.showCommands"

/-- What a command does, in one line. -/
def description (c : Command) : String :=
  ((specs.find? fun s => s.command == c).map Spec.description).getD ""

/-- The command with an identifier. -/
def ofId? (id : String) : Option Command := (specs.find? fun s => s.id == id).map Spec.command

/-- An entry of the palette. -/
structure Choice where
  label : String
  command : Command
  deriving DecidableEq, Repr

/-- The palette: the commands that have a label. -/
def palette : List Choice := specs.filterMap fun s => s.label.map fun label => ⟨label, s.command⟩

/-- The line above the palette. -/
def palettePrompt : String := "Select a Biome Monorepo command"

/-- The name by which a command is told in traces. -/
def traceName : Command → String
  | .restart => "Restart"
  | .showOutput => "ShowOutputChannel"
  | .autofix => "ExecuteAutofix"
  | .showCommands => "ShowCommands"

/-- Every command has a row in the table, with its identifier. -/
example : ∀ c : Command, ofId? c.id = some c := by intro c; cases c <;> decide

end Command
end Switchboard
