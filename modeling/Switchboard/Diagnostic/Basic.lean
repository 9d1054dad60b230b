/-
# Diagnostics

What a server says about a place in a file.  Lines and columns count from zero
as they travel and from one as they are shown.
-/

import Switchboard.Path.Basic

namespace Switchboard

/-- How serious a diagnostic is. -/
inductive Severity where
  | error
  | warning
  | information
  | hint
  deriving DecidableEq, Repr

namespace Severity

/-- The severity with this number on the wire. -/
def ofCode? (n : Nat) : Option Severity :=
  match n with
  | 1 => some .error
  | 2 => some .warning
  | 3 => some .information
  | 4 => some .hint
  | _ => none

/-- The word for a severity. -/
def label : Severity → String
  | .error => "error"
  | .warning => "warning"
  | .information => "info"
  | .hint => "hint"

/-- Whether a severity is that of an error. -/
def isError (s : Severity) : Bool := s == .error

end Severity

/-- A diagnostic; line and column are words of 32 bits, counted from zero. -/
structure Diagnostic where
  severity : Severity
  message : String
  line : UInt32
  column : UInt32
  code : Option String
  source : String
  deriving DecidableEq, Repr

namespace Diagnostic

/-- The number after a word, counted in words of 32 bits: behind the last one there is none. -/
def shownNumber? (n : UInt32) : Option Nat :=
  if n.toNat + 1 < UInt32.size then some (n.toNat + 1) else none

/-- The line that shows a diagnostic of a file at a line and a column: place, severity, rule
and message.  The rule is the code, or the source when there is no code. -/
def displayAt (d : Diagnostic) (path : Path) (line column : Nat) : String :=
  path.display ++ ":" ++ toString line ++ ":" ++ toString column ++ ": " ++ d.severity.label ++
    ": [" ++ d.code.getD d.source ++ "] " ++ d.message

/-- The line that shows a diagnostic of a file, with its place counted from one.  There is none
when a number of the place cannot be counted on: whoever asks for the line then fails. -/
def display? (d : Diagnostic) (path : Path) : Option String := do
  return d.displayAt path (← shownNumber? d.line) (← shownNumber? d.column)

end Diagnostic
end Switchboard
