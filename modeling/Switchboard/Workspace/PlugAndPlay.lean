/-
# Plug'n'Play

Some package managers write a loader file instead of `node_modules`.  Nothing
can be resolved below such a file, which is worth a warning.
-/

import Switchboard.Disk.Lookup

namespace Switchboard
namespace PlugAndPlay

/-- The names of loader files. -/
def loaders : List String := [".pnp.cjs", ".pnp.js"]

/-- The nearest directory at or above `dir` that holds a loader. -/
def root? (d : Disk) (dir : Path) : Option Path :=
  dir.ancestors.find? fun a => loaders.any fun name => d.isFile (a.child name)

/-- The folders that are at or below a loader. -/
def folders (d : Disk) (all : List Path) : List Path := all.filter fun f => (root? d f).isSome

end PlugAndPlay
end Switchboard
