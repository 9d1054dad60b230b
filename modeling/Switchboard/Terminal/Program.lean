/-
# The program at the terminal

The program starts the extension over the folders it is given and then does
two things side by side: it takes in what is typed, and it runs the control
loop.  Here they take turns: the loop handles the event of a line before the
next line is taken, and reports of sessions when no line is left.  The end of
the input shuts the program down, and so does the first interrupt.  A line that
cannot be made ends it at once.  An operation of the loop that never comes to an end
leaves only the input going: lines are answered, and events wait in the queue.
-/

import Switchboard.Supervisor.LockFiles
import Switchboard.Supervisor.Loop
import Switchboard.Terminal.Arguments
import Switchboard.Terminal.Input
import Switchboard.Terminal.ProcessLog
import Switchboard.Terminal.Screen

namespace Switchboard

/-- The program while it runs.  `unfinished` is what has been typed since the
last line feed, and `printed` are all lines that have been printed.  `crashed` says that
a line could not be made; nothing is done or printed any more once the program has found that
out, which it does when it prints what the loop has come to. -/
structure Program where
  loop : Loop
  desk : Desk
  cwd : Path
  unfinished : Bytes
  listening : Bool
  interrupted : Bool
  printed : List String
  crashed : Bool

namespace Program

/-- The settings of a run, and the warning that is printed if they cannot be loaded. -/
def settingsOf (d : Disk) (a : Arguments) (home : Path) : Settings × Option String :=
  let loaded := match a.config with
    | some path => (Settings.loadFrom d path).map some
    | none => Settings.load d home
  match loaded with
  | .ok settings => (settings.getD .default, none)
  | .error fault => (.default, some fault.warning)

/-- The line that is printed when the program is ready. -/
def readyLine : String := "type \x60help\x60 for commands"

/-- Whether the loop waits for something that never comes. -/
def isStuck (p : Program) : Bool := p.loop.supervisor.site.stuck

/-- Whether the program has ended. -/
def isOver (p : Program) : Bool := p.crashed || p.loop.ended && !p.isStuck

/-- The code that the program exits with when it has ended. -/
def exitCode (p : Program) : Nat := if p.crashed then 101 else 0

/-- Prints lines up to the first one that cannot be made. -/
def printAll (p : Program) (lines : List (Option String)) : Program :=
  if p.crashed then p
  else { p with
    printed := p.printed ++ (lines.takeWhile Option.isSome).filterMap id
    crashed := lines.contains none }

/-- Prints lines that can be made. -/
def print (p : Program) (lines : List String) : Program := p.printAll (lines.map some)

/-- Prints what the host has been told.  How much of it comes before a wait that never ends
is not told apart: nothing is printed then. -/
def refresh (p : Program) : Program :=
  let s := p.loop.supervisor
  if p.isStuck then p
  else { p.printAll (s.calls.flatMap Screen.lines) with
    loop := { p.loop with supervisor := { s with calls := [] } } }

/-- Lets the loop go on, unless the program has crashed or the loop waits for ever. -/
def proceed (p : Program) (go : Loop → HostView → Loop) : Program :=
  if p.crashed || p.isStuck then p else
  let l := go p.loop ⟨p.desk.active, none⟩
  let desk := if l.picking && !p.loop.picking then p.desk.openPalette else p.desk
  { p with loop := l, desk }.refresh

/-- Lets the loop handle all events that wait. -/
def work (p : Program) : Program := p.proceed Loop.work

/-- Lets the loop do all it can. -/
def advance (p : Program) : Program := p.proceed Loop.settle

/-- Starts the program: the warning that is printed first, if any, and the
program when it is ready. -/
def start (a : Arguments) (home : Path) (processId : Nat) (site : Site) :
    Except Supervisor.AlreadyRunning (Option String × Program) :=
  let (logs, d) := ProcessLog.openFirst site.disk (ProcessLog.candidates home)
  let (settings, warning) := settingsOf d a home
  let cwd := Disk.pathOf d.cwd
  let folders := a.folders.map (d.settlePath cwd)
  let logDir := a.logDir.or (logs.map ProcessLog.channelDirectory)
  (Supervisor.make settings folders logDir processId { site with disk := d }).map fun s =>
    let (report, s) := s.start
    let p : Program := ⟨.ofSupervisor s, .empty, cwd, [], true, false, [], false⟩
    let ready := if p.isStuck then [] else Screen.reportLines report ++ [readyLine]
    (warning, (p.refresh.print ready).advance)

/-- Sends an event to the loop. -/
def send (p : Program) (e : Event) : Program :=
  { p with loop := { p.loop with supervisor := p.loop.supervisor.enqueue e } }.work

/-- Ends the input. -/
def endInput (p : Program) : Program :=
  if p.listening then { p with listening := false }.send .shutdown else p

/-- Takes in an interrupt; only the first one counts. -/
def interrupt (p : Program) : Program :=
  if p.interrupted then p else ({ p with interrupted := true }.send .shutdown).advance

/-- What has been picked from the palette that was opened last. -/
def picked (desk : Desk) : Option Command :=
  match desk.lastPick with
  | .picked c => c
  | .pending => none

/-- Takes in a line, as long as the input and the program have not ended.  An event that finds
the queue full waits there, and so does the input: the loop has worked off what it can. -/
def takeLine (p : Program) (line : String) : Program :=
  if p.listening && !p.isOver then
    match Input.take p.loop.supervisor.site.disk p.cwd p.desk line with
    | (none, desk) => { p with desk, loop := p.loop.resume desk.active (picked desk) }.work
    | (some (.event e), desk) =>
      if p.loop.supervisor.queue.length < Loop.queueLimit then { p with desk }.send e
      else { p with desk, listening := false }
    | (some (.answer lines), desk) => { p with desk }.print lines
    | (some .quit, desk) => { p with desk }.endInput
  else p

/-- Takes in the bytes of a line; what is no text ends the input. -/
def takeBytes (p : Program) (line : Bytes) : Program :=
  match Utf8.decode? line with
  | some text => p.takeLine (String.ofList (Lines.dropReturn text.toList))
  | none => p.endInput

/-- Takes in what is typed, line by line. -/
def type (p : Program) (input : Bytes) : Program :=
  let parts := (p.unfinished ++ input).splitOn 0x0A
  let p := { p with unfinished := parts.getLast?.getD [] }
  (parts.dropLast.foldl takeBytes p).advance

/-- Takes in the end of the input; what has been typed since the last line feed is a line. -/
def finishInput (p : Program) : Program :=
  let rest := p.unfinished
  let p := { p with unfinished := [] }
  (if rest.isEmpty then p else p.takeBytes rest).endInput.advance

/-- Lets time go by. -/
def wait (p : Program) (milliseconds : Nat) : Program :=
  let s := p.loop.supervisor
  let site := { s.site with now := s.site.now + milliseconds }
  { p with loop := { p.loop with supervisor := { s with site } } }.advance

/-- Takes in that an entry is put on the disk. -/
def putEntry (p : Program) (path : Path) (node : Node) : Program :=
  { p with loop := { p.loop with supervisor := p.loop.supervisor.putEntry path node } }.advance

end Program
end Switchboard
