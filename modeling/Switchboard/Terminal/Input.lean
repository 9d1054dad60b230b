/-
# Lines become events

A line goes to the palette if one waits for an answer.  Otherwise it is read
as a command: most commands become one event, some are answered at once, and
one ends the input.  Paths are read from the working directory; a document is
read when the line is, and becomes the active one.
-/

import Switchboard.Disk.Lookup
import Switchboard.Supervisor.Event
import Switchboard.Terminal.Desk
import Switchboard.Terminal.Line

namespace Switchboard

/-- What a line comes to: an event, some lines in answer, or the end of the input. -/
inductive Response where
  | event (e : Event)
  | answer (lines : List String)
  | quit
  deriving Repr

namespace Input

/-- Makes an event of a document that is read from the disk. -/
def document (d : Disk) (desk : Desk) (path : Path) (make : Path → String → Event) :
    Response × Desk :=
  match d.readText path with
  | .ok text => (.event (make path text), desk.activate path)
  | .error fault => (.answer ["cannot read " ++ path.display ++ ": " ++ fault.message], desk)

/-- What a command comes to. -/
def respond (d : Disk) (cwd : Path) (desk : Desk) (line : Line) : Response × Desk :=
  let settled (raw : String) : Path := d.settlePath cwd (Path.ofText raw)
  match line with
  | .openFile raw => document d desk (settled raw) .opened
  | .changeFile raw => document d desk (settled raw) .changed
  | .closeFile raw => (.event (.closed (settled raw)), desk)
  | .fix (some raw) => (.event (.command .autofix), desk.activate (settled raw))
  | .fix none => (.event (.command .autofix), desk)
  | .restart => (.event (.command .restart), desk)
  | .output => (.event (.command .showOutput), desk)
  | .commands => (.event (.command .showCommands), desk)
  | .folders raws => (.event (.folders (raws.map settled)), desk)
  | .help => (.answer Line.helpText, desk)
  | .quit => (.quit, desk)
  | .missing usage => (.answer ["usage: " ++ usage], desk)
  | .unknown word => (.answer ["unknown command \x60" ++ word ++ "\x60, try \x60help\x60"], desk)
  | .empty => (.answer [], desk)

/-- Takes in a line; none if a palette took it. -/
def take (d : Disk) (cwd : Path) (desk : Desk) (line : String) : Option Response × Desk :=
  match desk.offer line with
  | (true, desk) => (none, desk)
  | (false, desk) =>
    let (r, desk) := respond d cwd desk (Line.read line)
    (some r, desk)

/-- Takes in all lines up to the end of the input, which is an event itself: the
events, the lines in answer, and the desk after it. -/
def takeAll (d : Disk) (cwd : Path) (desk : Desk) : List String → List Event × List String × Desk
  | [] => ([.shutdown], [], desk)
  | line :: rest => match take d cwd desk line with
    | (none, desk) => takeAll d cwd desk rest
    | (some .quit, desk) => ([.shutdown], [], desk)
    | (some (.event e), desk) =>
      let (events, lines, desk) := takeAll d cwd desk rest
      (e :: events, lines, desk)
    | (some (.answer answer), desk) =>
      let (events, lines, desk) := takeAll d cwd desk rest
      (events, answer ++ lines, desk)

end Input
end Switchboard
