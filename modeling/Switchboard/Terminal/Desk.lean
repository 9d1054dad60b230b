/-
# The desk

What the terminal remembers between lines: the active document, and the
palettes that have been opened.  Only the last palette can wait for an answer;
opening another one dismisses it.
-/

import Switchboard.Path.Basic
import Switchboard.Terminal.Choice

namespace Switchboard

/-- What the terminal remembers.  Palettes are counted from zero in the order
in which they were opened; `answers` are the lines that palettes took. -/
structure Desk where
  active : Option Path
  opened : Nat
  waiting : Bool
  answers : List (Nat × String)
  deriving Repr

/-- What has become of a palette. -/
inductive Pick where
  | pending
  | picked (command : Option Command)
  deriving DecidableEq, Repr

namespace Desk

/-- A desk on which nothing has happened. -/
def empty : Desk := ⟨none, 0, false, []⟩

/-- Makes a document the active one. -/
def activate (d : Desk) (path : Path) : Desk := { d with active := some path }

/-- Opens a palette. -/
def openPalette (d : Desk) : Desk := { d with opened := d.opened + 1, waiting := true }

/-- Offers a line to the palette that waits: whether it took the line. -/
def offer (d : Desk) (line : String) : Bool × Desk :=
  if d.waiting then
    (true, { d with waiting := false, answers := (d.opened - 1, line) :: d.answers })
  else (false, d)

/-- What has become of a palette with some items. -/
def pick (d : Desk) (palette : Nat) (items : List Command.Choice) : Pick :=
  match d.answers.lookup palette with
  | some line => .picked (Choice.read? line items)
  | none => if d.waiting && palette + 1 == d.opened then .pending else .picked none

/-- What has become of the palette that was opened last. -/
def lastPick (d : Desk) : Pick := d.pick (d.opened - 1) Command.palette

end Desk
end Switchboard
