/-
# Settings

What a configuration file can set: the names of lock files, how long a server
may take to start and to stop, and how close together changes of a lock file
count as one.  Everything has a default, every section may be left out, and
what is not known is ignored, as long as its numbers can be stored.  A section
may also be written as an array of its values in order, of which those that
are too many are not looked at; a date or a time is a section that sets
nothing.
-/

import Switchboard.Disk.Lookup
import Switchboard.Toml.Reader
import Switchboard.Workspace.Scan

namespace Switchboard

/-- What a configuration file can set; times in seconds and milliseconds. -/
structure Settings where
  lockFiles : List String
  initTimeout : Nat
  shutdownTimeout : Nat
  debounce : Nat
  deriving DecidableEq, Repr

namespace Settings

/-- The settings without a file. -/
def default : Settings := ⟨Scan.defaultLockFiles, 30, 2, 200⟩

/-- How long a server may take to start; nothing at all counts as one second. -/
def effectiveInitTimeout (s : Settings) : Nat := max s.initTimeout 1

/-- A count that fits a 64-bit word. -/
def count? : Toml.Value → Option Nat
  | .integer n => if 0 ≤ n ∧ n < (Nat.pow 2 64 : Nat) then some n.toNat else none
  | _ => none

/-- A text. -/
def text? : Toml.Value → Option String
  | .text s => some s
  | _ => none

/-- A list of texts. -/
def texts? : Toml.Value → Option (List String)
  | .array items => items.mapM text?
  | _ => none

/-- The values of a section's fields, absent ones as none. -/
def fields? (names : List String) : Toml.Value → Option (List (Option Toml.Value))
  | .table members =>
    if Toml.membersAreStorable members then some (names.map fun name => members.lookup name)
    else none
  | .array items => some ((List.range names.length).map fun i => items[i]?)
  | .moment => some []
  | _ => none

/-- A field, or its default. -/
def field {α : Type} (decode : Toml.Value → Option α) (default : α) :
    Option (Option Toml.Value) → Option α
  | some (some v) => decode v
  | _ => some default

/-- The fields of a section, none of them given if there is no section. -/
def section? (names : List String) : Option Toml.Value → Option (List (Option Toml.Value))
  | none => some []
  | some v => fields? names v

/-- The sections of a configuration file. -/
def sections : List String := ["discovery", "lsp", "watch"]

/-- The settings that the members of a document make. -/
def ofMembers? (members : List (String × Toml.Value)) : Option Settings := do
  if !Toml.membersAreStorable (members.filter fun (name, _) => !sections.contains name) then none
  let discovery ← section? ["lock_files"] (members.lookup "discovery")
  let lsp ← section? ["init_timeout_secs", "shutdown_timeout_secs"] (members.lookup "lsp")
  let watch ← section? ["debounce_ms"] (members.lookup "watch")
  some ⟨← field texts? default.lockFiles discovery[0]?, ← field count? default.initTimeout lsp[0]?,
    ← field count? default.shutdownTimeout lsp[1]?, ← field count? default.debounce watch[0]?⟩

/-- Why settings cannot be loaded. -/
inductive Fault where
  | unreadable (path : Path) (fault : DiskFault)
  | malformed (path : Path)
  deriving DecidableEq, Repr

/-- The text that reports a fault, up to what the reader of the format has to say. -/
def Fault.message : Fault → String
  | .unreadable path fault => "failed to read config at " ++ path.display ++ ": " ++ fault.message
  | .malformed path => "failed to parse config at " ++ path.display ++ ": "

/-- The warning that is printed for a fault, up to what the reader of the format has to say. -/
def Fault.warning (fault : Fault) : String :=
  match fault with
  | .unreadable _ _ => "warning: " ++ fault.message ++ "; using default settings"
  | .malformed _ => "warning: " ++ fault.message

/-- The settings in a file. -/
def loadFrom (d : Disk) (path : Path) : Except Fault Settings :=
  match d.readText path with
  | .error fault => .error (.unreadable path fault)
  | .ok text => match (Toml.read? text).bind ofMembers? with
    | some settings => .ok settings
    | none => .error (.malformed path)

/-- The directory of a user's settings and logs. -/
def directory (home : Path) : Path := home.child ".biome-monorepo"

/-- The file of a user's settings. -/
def file (home : Path) : Path := (directory home).child "config.toml"

/-- The settings of a user; none if there is no file. -/
def load (d : Disk) (home : Path) : Except Fault (Option Settings) :=
  if d.exists? (file home) then (loadFrom d (file home)).map some else .ok none

end Settings
end Switchboard
