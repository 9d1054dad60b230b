/-
# Choosing from the palette at the terminal

The palette is printed as numbered lines.  An answer is a number from one on,
or the identifier of a command on the palette; anything else dismisses it.
-/

import Switchboard.Supervisor.Command
import Switchboard.Text.Blank
import Switchboard.Text.Numeral

namespace Switchboard
namespace Choice

/-- The line of the palette with this index, counted from zero. -/
def line (index : Nat) (item : Command.Choice) : String :=
  "  " ++ toString (index + 1) ++ ". " ++ item.label ++ "  " ++ item.command.description

/-- The command that an answer picks from some items. -/
def read? (answer : String) (items : List Command.Choice) : Option Command :=
  let text := Blank.trim answer.toList
  match Numeral.parse? text with
  | some 0 => none
  | some (n + 1) => items[n]?.map Command.Choice.command
  | none =>
    (Command.ofId? (String.ofList text)).filter fun c => items.any fun item => item.command == c

end Choice
end Switchboard
