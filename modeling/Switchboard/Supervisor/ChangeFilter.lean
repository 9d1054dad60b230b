/-
# Which changes of lock files count

Raw notifications about directories become at most one report for each lock
file in each window of time.  A notification counts when something was created
or changed, other than in its metadata, and the first of its paths that is a
target has not been reported within the window.
-/

import Switchboard.Path.Basic

namespace Switchboard
namespace ChangeFilter

/-- What happened to some paths. -/
inductive Kind where
  | create
  | modify
  | modifyMetadata
  | other
  deriving DecidableEq, Repr

/-- A notification: what happened, to which paths, and when. -/
structure Notice where
  kind : Kind
  paths : List Path
  time : Int
  deriving Repr

/-- The targets, the window, and when each target was last reported. -/
structure State where
  targets : List Path
  window : Nat
  lastSeen : List (Path × Int)
  deriving Repr

/-- A filter that has reported nothing yet. -/
def State.new (targets : List Path) (window : Nat) : State := ⟨targets, window, []⟩

/-- Whether a kind of change counts. -/
def Kind.counts : Kind → Bool
  | .create | .modify => true
  | .modifyMetadata | .other => false

/-- The first path of a notification that is a target. -/
def subject? (s : State) (n : Notice) : Option Path :=
  n.paths.find? fun p => s.targets.any fun t => t.same p

/-- When a path was last reported. -/
def State.last? (s : State) (p : Path) : Option Int :=
  (s.lastSeen.find? fun entry => entry.1.same p).map Prod.snd

/-- Remembers a report. -/
def State.remember (s : State) (p : Path) (time : Int) : State :=
  { s with lastSeen := (p, time) :: s.lastSeen.filter fun entry => !entry.1.same p }

/-- Whether a target is still within the window of its last report; time that
runs backwards counts as none gone by. -/
def State.isQuiet (s : State) (p : Path) (time : Int) : Bool :=
  match s.last? p with
  | some last => (time - last).toNat < s.window
  | none => false

/-- Takes in a notification and gives the path it reports, if any. -/
def accept (s : State) (n : Notice) : Option Path × State :=
  if n.kind.counts then
    match subject? s n with
    | some p => if s.isQuiet p n.time then (none, s) else (some p, s.remember p n.time)
    | none => (none, s)
  else (none, s)

/-- Takes in notifications in order and gives what each of them reports. -/
def acceptAll (s : State) : List Notice → List (Option Path)
  | [] => []
  | n :: rest => (accept s n).1 :: acceptAll (accept s n).2 rest

end ChangeFilter
end Switchboard
