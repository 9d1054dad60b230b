/-
# The control loop

The loop handles one thing at a time: an event, or, when no event has been set
aside, a report of a session.  An event that calls for a restart takes in all
events that are queued at that moment: those that call for a restart as well
are covered by the same restart, and the others are set aside, to be handled
first, in order, when the restart is done.  While the palette is open the loop
waits for what is picked.  It ends with a shutdown; what has been set aside
then is dropped, and what is queued stays queued.
-/

import Switchboard.Supervisor.Execute
import Switchboard.Supervisor.Reports

namespace Switchboard

/-- The control loop: the supervisor, the events set aside, whether it waits for
what is picked from the palette, and whether it has ended. -/
structure Loop where
  supervisor : Supervisor
  backlog : List Event
  picking : Bool
  ended : Bool

namespace Loop

/-- The loop at its beginning. -/
def ofSupervisor (s : Supervisor) : Loop := ⟨s, [], false, false⟩

/-- Takes in an event that calls for a restart. -/
def absorb (s : Supervisor) : Event → Supervisor
  | .folders paths =>
    { s.log .info ("Workspace folders changed (" ++ toString paths.length ++ " folder(s)).")
      with folders := paths }
  | .lockFile path => s.log .info ("Lock file changed: " ++ path.display)
  | _ => s

/-- Takes in all queued events: absorbs those that call for a restart, and gives the others. -/
def drain (s : Supervisor) : List Event × Supervisor :=
  let (triggers, others) := s.queue.partition Event.isTrigger
  (others, triggers.foldl absorb { s with queue := [] })

/-- Restarts for an event that calls for it. -/
def restartFor (l : Loop) (e : Event) : Loop :=
  let (others, s) := drain (absorb l.supervisor e)
  { l with supervisor := s.restart.2, backlog := l.backlog ++ others }

/-- Handles an event that calls for no restart. -/
def attend (l : Loop) (active : Option Path) (e : Event) : Loop :=
  let s := l.supervisor
  match e with
  | .command c =>
    if c = .showCommands then { l with supervisor := s.openPalette, picking := true }
    else { l with supervisor := s.perform active c }
  | .opened path text => { l with supervisor := (s.openDocument path text).2 }
  | .changed path text => { l with supervisor := (s.changeDocument path text).2 }
  | .closed path => { l with supervisor := (s.closeDocument path).2 }
  | .shutdown => { l with supervisor := s.stop, backlog := [], ended := true }
  | .folders _ | .lockFile _ => l

/-- Handles an event. -/
def handle (l : Loop) (active : Option Path) (e : Event) : Loop :=
  if e.isTrigger then l.restartFor e else l.attend active e

/-- Goes on with what has been picked from the palette. -/
def resume (l : Loop) (active : Option Path) (picked : Option Command) : Loop :=
  { l with supervisor := l.supervisor.performPicked active picked, picking := false }

/-- Takes the next event: one set aside, or else one from the queue. -/
def nextEvent? (l : Loop) : Option (Event × Loop) :=
  match l.backlog, l.supervisor.queue with
  | e :: rest, _ => some (e, { l with backlog := rest })
  | [], e :: rest => some (e, { l with supervisor := { l.supervisor with queue := rest } })
  | [], [] => none

/-- Handles a report; the host is told when it changes anything. -/
def handleReport (l : Loop) (e : ServerEvent) : Loop :=
  let (changed, s) := l.supervisor.handleReport e
  { l with supervisor := if changed then s.tell (.diagnostics s.snapshot) else s }

/-- The next step with an event; none when the loop has ended, or waits. -/
def step? (l : Loop) (view : HostView) : Option Loop :=
  if l.ended then none
  else if l.picking then view.pick.map (l.resume view.active)
  else l.nextEvent?.map fun (e, l) => l.handle view.active e

/-- Takes at most `fuel` steps with events. -/
def workWithin (view : HostView) : Nat → Loop → Loop
  | 0, l => l
  | fuel + 1, l => match l.step? view with
    | some l => workWithin view fuel l
    | none => l

/-- How many steps the events that wait can take: each one, and what is picked
if it opens the palette. -/
def stepsLeft (l : Loop) : Nat := 2 * (l.backlog.length + l.supervisor.queue.length) + 1

/-- Handles all events that wait. -/
def work (l : Loop) (view : HostView) : Loop := workWithin view l.stepsLeft l

/-- How many events the queue holds. -/
def queueLimit : Nat := 64

/-- Queues an event; one that finds the queue full waits until it has been worked off. -/
def offer (l : Loop) (view : HostView) (e : Event) : Loop :=
  let l := if l.supervisor.queue.length < queueLimit then l else l.work view
  { l with supervisor := l.supervisor.enqueue e }

/-- Whether the loop takes reports: it has not ended, and waits for nothing else. -/
def isOpen (l : Loop) : Bool := !l.ended && !l.picking

/-- Handles at most `fuel` reports. -/
def hearWithin : Nat → Loop → Loop
  | 0, l => l
  | fuel + 1, l => match l.supervisor.nextReport? with
    | some (e, s) => hearWithin fuel ({ l with supervisor := s }.handleReport e)
    | none => l

/-- How many reports can be handled before a session does anything new: those
that are there, and those that no session has read yet. -/
def reportsLeft (s : Supervisor) : Nat :=
  s.sessions.foldl (fun n x => n + (x.client?.map (·.unread.length)).getD 0) s.site.events.length

/-- Lets sessions do what they can do, and handles the reports that are there then. -/
def hear (l : Loop) : Loop :=
  let s := l.supervisor.settle
  hearWithin (reportsLeft s) { l with supervisor := s }

/-- Handles reports, and those that come of that, in so many rounds. -/
def hearRounds : Nat → Loop → Loop
  | 0, l => l
  | rounds + 1, l => hearRounds rounds l.hear

/-- Handles all events that wait, and then all reports; every round of reports
but the last two stops a session. -/
def settle (l : Loop) (view : HostView) : Loop :=
  let l := l.work view
  if l.isOpen then hearRounds (l.supervisor.sessions.length + 2) l else l

end Loop
end Switchboard
