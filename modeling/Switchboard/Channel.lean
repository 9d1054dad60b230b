/-
# Output channels

A channel is a named log.  With a log directory its lines go to a file there,
named for the channel, each with its level in front; a channel whose file
cannot be opened, or that has no directory, keeps no lines.  Channels whose
names have the same slug share a file.
-/

import Switchboard.Disk.Edit
import Switchboard.Text.Slug

namespace Switchboard

/-- How much a line of a log matters. -/
inductive Level where
  | error
  | warn
  | info
  | debug
  | trace
  deriving DecidableEq, Repr

/-- The word for a level. -/
def Level.label : Level → String
  | .error => "error"
  | .warn => "warn"
  | .info => "info"
  | .debug => "debug"
  | .trace => "trace"

/-- A file that is open for appending: the path it was opened by and the place it is at. -/
structure LogFile where
  path : Path
  place : List Bytes
  deriving DecidableEq, Repr

/-- A named log. -/
structure Channel where
  name : String
  file : Option LogFile
  deriving DecidableEq, Repr

namespace Channel

/-- The name of the file that a channel's lines go to. -/
def fileName (name : String) : String := Slug.ofString name ++ ".log"

/-- Opens a file in a directory, both made if they are missing. -/
def openFile (d : Disk) (dir path : Path) : Except DiskFault (LogFile × Disk) :=
  (d.createDirAll dir).bind fun d => (d.openAppend path).map fun (place, d) => (⟨path, place⟩, d)

/-- Opens a channel.  Directories that were made stay when the file cannot be opened. -/
def make (d : Disk) (name : String) (dir : Option Path) : Channel × Disk :=
  match dir with
  | none => (⟨name, none⟩, d)
  | some dir => match openFile d dir (dir.child (fileName name)) with
    | .ok (file, d) => (⟨name, some file⟩, d)
    | .error _ => (⟨name, none⟩, (d.createDirAll dir).toOption.getD d)

/-- The line that is written for a message. -/
def line (level : Level) (message : String) : String :=
  "[" ++ level.label ++ "] " ++ message ++ "\n"

/-- Writes a message. -/
def log (c : Channel) (d : Disk) (level : Level) (message : String) : Disk :=
  match c.file with
  | some file => d.append file.place (Utf8.encode (line level message))
  | none => d

end Channel
end Switchboard
