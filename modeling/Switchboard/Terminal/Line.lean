/-
# Lines typed at the terminal

A line is a command word and its arguments, separated by blanks.  Commands
that need an argument say so when it is missing; words after the arguments a
command takes are ignored.
-/

import Switchboard.Text.Blank

namespace Switchboard

/-- A typed line, read. -/
inductive Line where
  | openFile (path : String)
  | changeFile (path : String)
  | closeFile (path : String)
  | fix (path : Option String)
  | restart
  | output
  | commands
  | folders (paths : List String)
  | help
  | quit
  | missing (usage : String)
  | unknown (word : String)
  | empty
  deriving DecidableEq, Repr

namespace Line

/-- A command that needs one argument, or how it is used. -/
def needing (usage : String) (make : String → Line) : List String → Line
  | [] => .missing usage
  | arg :: _ => make arg

/-- Reads the words of a line. -/
def ofWords : List String → Line
  | [] => .empty
  | head :: args =>
    match head with
    | "open" | "o" => needing "open <file>" .openFile args
    | "change" => needing "change <file>" .changeFile args
    | "close" => needing "close <file>" .closeFile args
    | "fix" => .fix args.head?
    | "restart" => .restart
    | "output" => .output
    | "commands" => .commands
    | "folders" => if args.isEmpty then .missing "folders <dir>..." else .folders args
    | "help" | "?" => .help
    | "quit" | "q" | "exit" => .quit
    | other => .unknown other

/-- Reads a line. -/
def read (text : String) : Line := ofWords ((Blank.words text.toList).map String.ofList)

/-- The lines that explain the commands. -/
def helpText : List String :=
  ["Commands:",
    "  open <file>        send a document to the session that owns it",
    "  change <file>      resend a document after editing it",
    "  close <file>       close a document",
    "  fix [<file>]       apply all safe fixes to <file> or the active document",
    "  restart            stop every session and rediscover installations",
    "  output             show the extension log",
    "  commands           pick a command from the palette",
    "  folders <dir>...   replace the workspace folders",
    "  quit               stop every session and exit"]

end Line
end Switchboard
