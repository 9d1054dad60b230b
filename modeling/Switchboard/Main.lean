/-
# The command line

The outer layer of the program: it copies the folders that the program works
in into a disk, hands over what is typed, line by line, prints what the
program prints, and writes the logs.  It starts no servers: no file of the
disk is executable, so every session reports that it may not start its own.
-/

import Switchboard.Terminal.Program

namespace Switchboard
namespace CommandLine

/-- An entry of a directory; what cannot be read is empty. -/
partial def loadEntry (e : IO.FS.DirEntry) : IO (Bytes × Node) := do
  let name := Utf8.encode e.fileName
  try
    match (← e.path.symlinkMetadata).type with
    | .dir =>
      let entries ← (← e.path.readDir).toList.mapM loadEntry
      return (name, .directory (entries.foldl (fun all (n, node) => Node.put n node all) []))
    | .file => return (name, .file (← IO.FS.readBinFile e.path).data.toList false)
    | .symlink => return (name, .link (Path.ofText (← IO.FS.realPath e.path).toString))
    | .other => return (name, .file [] false)
  catch _ => return (name, .file [] false)

/-- Copies a directory into a disk; one that cannot be read is left out. -/
def loadDirectory (d : Disk) (dir : String) : IO Disk := do
  try
    let entries ← ((← IO.currentDir) / dir).readDir
    let nodes ← entries.toList.mapM loadEntry
    return nodes.foldl (fun d (name, node) => d.put ((Path.ofText dir).join ⟨name⟩) node) d
  catch _ => return d

/-- A disk with the folders that a run needs. -/
def loadDisk (a : Arguments) (home cwd : String) : IO Disk := do
  let base := Path.ofText cwd
  let root : Disk := ⟨.emptyDirectory, base.components.filterMap fun
    | .name n => some n
    | _ => none, Platform.linux⟩
  let given := (a.folders ++ (a.config.bind Path.parent).toList).map fun p => base.join p
  let dirs := [base, Settings.directory (Path.ofText home)] ++ given
  let made := dirs.foldl (fun d dir => (d.createDirAll dir).toOption.getD d) root
  dirs.foldlM (fun d dir => loadDirectory d dir.display) made

/-- Writes the logs of a program's channels to where they belong. -/
def saveLogs (p : Program) : IO Unit := do
  let s := p.loop.supervisor
  for channel in s.channel :: s.sessions.filterMap Session.channel do
    match channel.file with
    | none => pure ()
    | some file =>
      let path := (← IO.currentDir) / file.path.display
      try
        if let some dir := path.parent then IO.FS.createDirAll dir
        if let .ok content := s.site.disk.read file.path then
          IO.FS.writeBinFile path ⟨content.toArray⟩
      catch _ => pure ()

/-- Prints the lines that a program has printed since it had printed `seen` of them. -/
def showSince (seen : Nat) (p : Program) : IO Unit := do
  for line in p.printed.drop seen do IO.println line
  saveLogs p

/-- Hands over lines until the program ends: the code that it exits with. -/
partial def converse (p : Program) : IO UInt32 := do
  if p.isOver then return p.exitCode.toUInt32
  let line ← try (← IO.getStdin).getLine catch _ => pure ""
  let next := if line.isEmpty then p.finishInput else p.type (Utf8.encode line)
  showSince p.printed.length next
  if line.isEmpty then return next.exitCode.toUInt32
  converse next

/-- The text that explains the arguments. -/
def usage : String := "Usage: biome-monorepo [--config <CONFIG>] [--log-dir <LOG_DIR>] [FOLDERS]..."

/-- Runs the program: its exit code. -/
def run (a : Arguments) : IO UInt32 := do
  let home := (← IO.getEnv "HOME").getD "/"
  let disk ← loadDisk a home (← IO.currentDir).toString
  match Program.start a (Path.ofText home) 0 (.ofDisk disk) with
  | .error e =>
    IO.eprintln e.message
    return 1
  | .ok (warning, p) =>
    if let some text := warning then IO.eprintln text
    showSince 0 p
    converse p

end CommandLine
end Switchboard

/-- Reads the arguments and runs the program. -/
def main (args : List String) : IO UInt32 := do
  match Switchboard.Arguments.read (args.map Switchboard.Utf8.encode) with
  | .ok a => Switchboard.CommandLine.run a
  | .error .displayHelp =>
    IO.println Switchboard.CommandLine.usage
    return 0
  | .error .displayVersion =>
    IO.println "biome-monorepo 0.0.0"
    return 0
  | .error _ =>
    IO.eprintln Switchboard.CommandLine.usage
    return 2
