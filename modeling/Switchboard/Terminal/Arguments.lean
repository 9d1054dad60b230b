/-
# Command-line arguments

Workspace folders, an option for the configuration file and one for the log
directory.  An option takes the rest of its argument after an equals sign, or
the next argument unless that looks like an option.  Values are checked when
the argument after them begins something new, so the first fault in this order
is the one that is reported.
-/

import Switchboard.Path.Basic

namespace Switchboard

/-- What the program is asked to do. -/
structure Arguments where
  folders : List Path
  config : Option Path
  logDir : Option Path
  deriving DecidableEq, Repr

namespace Arguments

/-- Why arguments are not taken. -/
inductive Fault where
  | unknownArgument
  | invalidValue
  | argumentConflict
  | tooManyValues
  | displayHelp
  | displayVersion
  deriving DecidableEq, Repr

/-- What a value belongs to. -/
inductive Slot where
  | folders
  | config
  | logDir
  deriving DecidableEq, Repr

/-- What has been read: checked values, and those of the last slot, not yet checked. -/
structure Progress where
  folders : List Path
  config : Option Path
  logDir : Option Path
  pending : Option (Slot × List Bytes)

/-- Puts checked values into their slot; an option can be given once, with one
value, and no value is empty. -/
def fill (p : Progress) (slot : Slot) (values : List Bytes) : Except Fault Progress :=
  match slot, values with
  | _, [] => .error .invalidValue
  | .folders, values =>
    if values.contains [] then .error .invalidValue
    else .ok { p with folders := p.folders ++ values.map Path.mk }
  | .config, value :: _ =>
    if p.config.isSome then .error .argumentConflict
    else if value = [] then .error .invalidValue
    else .ok { p with config := some ⟨value⟩ }
  | .logDir, value :: _ =>
    if p.logDir.isSome then .error .argumentConflict
    else if value = [] then .error .invalidValue
    else .ok { p with logDir := some ⟨value⟩ }

/-- Checks the values that wait. -/
def settle (p : Progress) : Except Fault Progress :=
  match p.pending with
  | none => .ok p
  | some (slot, values) => fill { p with pending := none } slot values

/-- Adds a folder to those that wait. -/
def addFolder (p : Progress) (value : Bytes) : Except Fault Progress :=
  match p.pending with
  | some (.folders, values) => .ok { p with pending := some (.folders, values ++ [value]) }
  | _ => (settle p).map fun p => { p with pending := some (.folders, [value]) }

/-- An option that takes a value. -/
def takeOption (p : Progress) (slot : Slot) (attached : Option Bytes) : Except Fault Progress :=
  (settle p).bind fun p => match attached with
    | some value => fill p slot [value]
    | none => .ok { p with pending := some (slot, []) }

/-- An option that only shows something. -/
def takeShow (p : Progress) (fault : Fault) (attached : Option Bytes) : Except Fault Progress :=
  match attached with
  | some _ => .error .tooManyValues
  | none => (settle p).bind fun _ => .error fault

/-- An argument behind two dashes. -/
def takeLong (p : Progress) (text : Bytes) : Except Fault Progress :=
  let name := text.takeWhile (· != 0x3D)
  let attached := if text.contains 0x3D then some (text.drop (name.length + 1)) else none
  match Utf8.decode? name with
  | some "config" => takeOption p .config attached
  | some "log-dir" => takeOption p .logDir attached
  | some "help" => takeShow p .displayHelp attached
  | some "version" => takeShow p .displayVersion attached
  | _ => .error .unknownArgument

/-- An argument behind one dash. -/
def takeShort (p : Progress) (text : Bytes) : Except Fault Progress :=
  if text.head? == some 0x68 then takeShow p .displayHelp none
  else if text.head? == some 0x56 then takeShow p .displayVersion none
  else .error .unknownArgument

/-- An argument that does not look like an option: the value of an option that
waits for one, or a folder. -/
def takeValue (p : Progress) (value : Bytes) : Except Fault Progress :=
  match p.pending with
  | some (.config, []) => .ok { p with pending := some (.config, [value]) }
  | some (.logDir, []) => .ok { p with pending := some (.logDir, [value]) }
  | _ => addFolder p value

/-- Reads arguments; behind a `--` all of them are folders. -/
def readFrom (trailing : Bool) (p : Progress) : List Bytes → Except Fault Progress
  | [] => settle p
  | arg :: rest =>
    let next : Except Fault Progress :=
      if trailing then addFolder p arg
      else match arg with
        | 0x2D :: 0x2D :: [] => .ok p
        | 0x2D :: 0x2D :: text => takeLong p text
        | 0x2D :: b :: text => takeShort p (b :: text)
        | _ => takeValue p arg
    match next with
    | .ok p => readFrom (trailing || arg == [0x2D, 0x2D]) p rest
    | .error fault => .error fault

/-- Reads the arguments of the program; without a folder it is the current one. -/
def read (args : List Bytes) : Except Fault Arguments :=
  (readFrom false ⟨[], none, none, none⟩ args).map fun p =>
    ⟨if p.folders.isEmpty then [Path.ofText "."] else p.folders, p.config, p.logDir⟩

end Arguments
end Switchboard
