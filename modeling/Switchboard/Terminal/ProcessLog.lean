/-
# Where the program keeps its logs

The program's own log file is the first of two candidates that can be opened:
one in the user's settings directory, one below the working directory.  The
channels' logs go to a directory next to it.
-/

import Switchboard.Channel
import Switchboard.Settings

namespace Switchboard
namespace ProcessLog

/-- The name of the log file. -/
def fileName : String := "biome-monorepo.log"

/-- Where the log file of a settings directory is. -/
def fileBelow (settings : Path) : Path := (settings.child "logs").child fileName

/-- Where the log file may be, best place first. -/
def candidates (home : Path) : List Path :=
  [fileBelow (Settings.directory home), fileBelow (Settings.directory ⟨[]⟩)]

/-- Opens the first candidate that can be opened: its directory, and the disk
with what was made on the way. -/
def openFirst (d : Disk) : List Path → Option Path × Disk
  | [] => (none, d)
  | file :: rest =>
    let dir := file.parent.getD ⟨[]⟩
    match Channel.openFile d dir file with
    | .ok (_, d) => (some dir, d)
    | .error _ => openFirst ((d.createDirAll dir).toOption.getD d) rest

/-- The directory of the channels' logs next to a log directory. -/
def channelDirectory (logs : Path) : Path := logs.child "channels"

end ProcessLog
end Switchboard
