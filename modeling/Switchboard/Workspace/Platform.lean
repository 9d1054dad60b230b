/-
# Platforms

The tool's main package has no executable of its own.  For every platform there
is a companion package that carries it, named for the operating system, the
processor and, on Linux, the C library.
-/

namespace Switchboard

/-- A platform that the tool ships an executable for, in package words. -/
structure Platform where
  os : String
  arch : String
  musl : Bool
  deriving DecidableEq, Repr

namespace Platform

/-- An operating system and a processor that the tool ships nothing for. -/
structure Unsupported where
  os : String
  arch : String
  deriving DecidableEq, Repr

/-- The text that reports such a pair. -/
def Unsupported.message (u : Unsupported) : String :=
  "Biome ships no binary for " ++ u.os ++ "/" ++ u.arch

/-- The package word for an operating system. -/
def osWord? (os : String) : Option String :=
  match os with
  | "macos" => some "darwin"
  | "linux" => some "linux"
  | "windows" => some "win32"
  | _ => none

/-- The package word for a processor. -/
def archWord? (arch : String) : Option String :=
  match arch with
  | "x86_64" => some "x64"
  | "aarch64" => some "arm64"
  | _ => none

/-- The platform with these names; the C library counts on Linux only. -/
def ofParts (os arch : String) (musl : Bool) : Except Unsupported Platform :=
  match osWord? os, archWord? arch with
  | some o, some a => .ok ⟨o, a, musl && o == "linux"⟩
  | _, _ => .error ⟨os, arch⟩

/-- What a build for Linux on an x86-64 processor with the GNU C library runs on. -/
def linux : Except Unsupported Platform := ofParts "linux" "x86_64" false

/-- What the C library adds to a name. -/
def suffix (p : Platform) : String := if p.musl then "-musl" else ""

/-- The name of a platform. -/
def display (p : Platform) : String := p.os ++ "-" ++ p.arch ++ p.suffix

/-- The name of the companion package. -/
def packageName (p : Platform) : String := "@biomejs/cli-" ++ p.display

/-- The name of the executable in the companion package. -/
def binaryName (p : Platform) : String := if p.os = "win32" then "biome.exe" else "biome"

end Platform
end Switchboard
