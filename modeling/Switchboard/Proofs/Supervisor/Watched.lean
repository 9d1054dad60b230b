/-
# Watching the control loop

Every event that is sent is numbered, and what the loop does is written down:
that it receives an event, that it restarts and with which folders, and that it
handles an event.  The numbers and the notes are beside the loop: it takes the
same steps without them (`Kept.follows`).

Between any two steps anything can be sent, and anything can happen that leaves
the queue and the folders alone (`Reach`).  `Kept` is what holds of every state
that is reached so.
-/

import Switchboard.Proofs.History
import Switchboard.Proofs.Supervisor.Frame
import Switchboard.Supervisor.Loop

namespace Switchboard
namespace Loop

/-- An event with how many have been sent before it. -/
abbrev Entry := Event × Nat

/-- What is written down about the control loop. -/
inductive Notice where
  /-- The loop takes an event from the queue. -/
  | received (x : Entry)
  /-- A restart begins that events have called for. -/
  | restarted (folders : List Path)
  /-- The loop handles an event that calls for no restart. -/
  | handled (x : Entry)
  /-- The loop goes on with what has been picked from the palette. -/
  | picked (c : Option Command)
  deriving DecidableEq

namespace Notice

/-- The event that is received. -/
def received? : Notice → Option Entry
  | received x => some x
  | _ => none

/-- The event that is handled. -/
def handled? : Notice → Option Entry
  | handled x => some x
  | _ => none

/-- Whether a restart begins that events have called for. -/
def isRestart : Notice → Bool
  | restarted _ => true
  | _ => false

/-- Whether a restart begins that has been picked from the palette. -/
def isPickedRestart : Notice → Bool
  | picked (some .restart) => true
  | _ => false

end Notice

/-- The events that are received, in order. -/
def receivedOf (notices : List Notice) : List Entry := notices.filterMap Notice.received?

/-- The events that are handled, in order. -/
def handledOf (notices : List Notice) : List Entry := notices.filterMap Notice.handled?

/-- The events that call for no restart. -/
def others (xs : List Entry) : List Entry := xs.filter fun x => !x.1.isTrigger

/-- The workspace folders after events: those of the last event that sets them. -/
def foldersAfter (folders : List Path) : List Entry → List Path
  | [] => folders
  | (.folders paths, _) :: rest => foldersAfter paths rest
  | _ :: rest => foldersAfter folders rest

/-- The control loop with what has been sent so far, with the numbers of the
events in its queue and of those set aside, and with the notes taken so far. -/
structure Watched where
  loop : Loop
  sent : List Event
  waiting : List Entry
  aside : List Entry
  notices : List Notice

namespace Watched

/-- The loop at its beginning.  What is queued then counts as sent. -/
def ofSupervisor (s : Supervisor) : Watched := ⟨.ofSupervisor s, s.queue, s.queue.zipIdx, [], []⟩

/-- An event is sent. -/
def send (w : Watched) (e : Event) : Watched :=
  { w with
    loop := { w.loop with supervisor := w.loop.supervisor.enqueue e }
    sent := w.sent ++ [e]
    waiting := w.waiting ++ [(e, w.sent.length)] }

/-- The loop with a supervisor about which nothing else is noted. -/
def withSupervisor (w : Watched) (s : Supervisor) : Watched :=
  { w with loop := { w.loop with supervisor := s } }

/-- A note is taken. -/
def note (w : Watched) (notices : List Notice) : Watched :=
  { w with notices := w.notices ++ notices }

/-- The loop with the events in its queue and those set aside. -/
def lined (w : Watched) : Loop :=
  { w.loop with
    supervisor := { w.loop.supervisor with queue := w.waiting.map Prod.fst }
    backlog := w.aside.map Prod.fst }

/-- Goes on with what has been picked from the palette. -/
def resume (w : Watched) (active : Option Path) (c : Option Command) : Watched :=
  { w with loop := w.loop.resume active c }.note [.picked c]

/-- Handles an event that calls for no restart. -/
def attend (w : Watched) (active : Option Path) (x : Entry) : Watched :=
  { w with loop := w.lined.attend active x.1 }.note [.handled x]

/-- Restarts for an event: it and all that wait are received before, and those
that call for no restart are set aside. -/
def restartFor (w : Watched) (x : Entry) : Watched :=
  let (events, s) := Loop.drain (Loop.absorb w.lined.supervisor x.1)
  { w with
    loop := { w.loop with supervisor := s.restart.2, backlog := events }
    waiting := []
    aside := others w.waiting }.note
    ((x :: w.waiting).map Notice.received ++ [Notice.restarted s.folders])

/-- The next step with an event; none when the loop has ended, or waits. -/
def step? (w : Watched) (view : HostView) : Option Watched :=
  if w.loop.ended then none
  else if w.loop.picking then view.pick.map (w.resume view.active)
  else match w.aside, w.waiting with
    | x :: rest, _ => some ({ w with aside := rest }.attend view.active x)
    | [], x :: rest =>
      let w := { w with waiting := rest }
      if x.1.isTrigger then some (w.restartFor x)
      else some ((w.note [.received x]).attend view.active x)
    | [], [] => none

/-- Takes at most `fuel` steps with events. -/
def workWithin (view : HostView) : Nat → Watched → Watched
  | 0, w => w
  | fuel + 1, w => match w.step? view with
    | some w => workWithin view fuel w
    | none => w

/-- Handles all events that wait. -/
def work (w : Watched) (view : HostView) : Watched := workWithin view w.loop.stepsLeft w

end Watched

/-- The states of the loop that are reached from a supervisor: at any moment
something is sent, the loop takes a step, or something else happens. -/
inductive Reach (s₀ : Supervisor) : Watched → Prop where
  | start : Reach s₀ (.ofSupervisor s₀)
  | send {w : Watched} (e : Event) : Reach s₀ w → Reach s₀ (w.send e)
  | step {w w' : Watched} {view : HostView} :
    Reach s₀ w → w.step? view = some w' → Reach s₀ w'
  | beside {w : Watched} {s : Supervisor} :
    Reach s₀ w → w.loop.supervisor.Beside s → Reach s₀ (w.withSupervisor s)

/-! ### Notes -/

variable {notices new : List Notice} {x : Entry} {xs : List Entry}

/-- What has been received first comes first in the notes. -/
@[simp] theorem receivedOf_append :
    receivedOf (notices ++ new) = receivedOf notices ++ receivedOf new := List.filterMap_append

/-- What has been handled first comes first in the notes. -/
@[simp] theorem handledOf_append :
    handledOf (notices ++ new) = handledOf notices ++ handledOf new := List.filterMap_append

/-- What one more note adds to what is received. -/
theorem receivedOf_concat {n : Notice} :
    receivedOf (notices ++ [n]) = receivedOf notices ++ n.received?.toList := by
  rw [receivedOf_append]
  cases n with
  | _ => rfl

/-- What one more note adds to what is handled. -/
theorem handledOf_concat {n : Notice} :
    handledOf (notices ++ [n]) = handledOf notices ++ n.handled?.toList := by
  rw [handledOf_append]
  cases n with
  | _ => rfl

/-- Notes of entries that have been received name these. -/
@[simp] theorem receivedOf_received : receivedOf (xs.map .received) = xs := by
  rw [receivedOf, List.filterMap_map]
  exact List.filterMap_some

/-- Notes of events that are received name none that is handled. -/
@[simp] theorem handledOf_received : handledOf (xs.map .received) = [] := by
  rw [handledOf, List.filterMap_map]
  exact List.filterMap_eq_nil_iff.2 fun x _ => rfl

/-- Notes of events that are received count for nothing that no such note is. -/
theorem countP_received {p : Notice → Bool} (hp : ∀ x, p (.received x) = false) :
    (xs.map .received).countP p = 0 := by
  rw [List.countP_map]
  exact List.countP_eq_zero.2 fun x _ => by simp [hp x]

/-- An entry has been received when a note says so. -/
theorem mem_receivedOf : x ∈ receivedOf notices ↔ .received x ∈ notices := by
  rw [receivedOf, List.mem_filterMap]
  constructor
  · rintro ⟨n, hn, hx⟩
    cases n with
    | received y => exact Option.some.inj hx ▸ hn
    | restarted folders => exact absurd hx (by simp [Notice.received?])
    | handled y => exact absurd hx (by simp [Notice.received?])
    | picked c => exact absurd hx (by simp [Notice.received?])
  · exact fun hx => ⟨_, hx, rfl⟩

/-- Folders that one row of events asks for are what the next one finds. -/
theorem foldersAfter_append (folders : List Path) (xs ys : List Entry) :
    foldersAfter folders (xs ++ ys) = foldersAfter (foldersAfter folders xs) ys := by
  fun_induction foldersAfter folders xs with
  | case1 => rfl
  | case2 folders paths n rest ih => exact ih
  | case3 folders x rest hx ih =>
    rw [← ih]
    obtain ⟨e, n⟩ := x
    cases e with
    | folders paths => exact absurd rfl (hx paths n)
    | _ => rfl

/-- Behind every event that calls for a restart there is one. -/
def Covered (notices : List Notice) : Prop :=
  ∀ front x back, notices = front ++ .received x :: back → x.1.isTrigger = true →
    ∃ folders, .restarted folders ∈ back

/-- Some event has called for a restart since the last one. -/
def Caused (notices : List Notice) : Prop :=
  ∃ front x back, notices = front ++ .received x :: back ∧ x.1.isTrigger = true ∧
    ∀ folders, .restarted folders ∉ back

/-- What holds when a note is taken, with the notes that have been taken before. -/
def Justified (folders : List Path) (notices : List Notice) : Notice → Prop
  | .received _ | .picked _ => True
  | .restarted paths => Caused notices ∧ paths = foldersAfter folders (receivedOf notices)
  | .handled x => x ∈ receivedOf notices ∧ Covered notices

/-- Where the notes before and after are covered, all are. -/
theorem Covered.append (h₁ : Covered notices) (h₂ : Covered new) : Covered (notices ++ new) := by
  intro front x back heq htrigger
  rcases List.append_eq_append_iff.1 heq with ⟨mid, rfl, hnew⟩ | ⟨mid, hnotices, hback⟩
  · exact h₂ mid x back hnew htrigger
  · cases mid with
    | nil => exact h₂ [] x back hback.symm htrigger
    | cons n mid =>
      obtain ⟨rfl, rfl⟩ := List.cons.inj hback
      obtain ⟨folders, hmem⟩ := h₁ front x mid hnotices htrigger
      exact ⟨folders, List.mem_append_left _ hmem⟩

/-- A note is covered unless it is of an event that calls for a restart. -/
theorem covered_singleton {n : Notice} (h : ∀ x, n = .received x → x.1.isTrigger = false) :
    Covered [n] := by
  intro front x back heq htrigger
  have hmem : Notice.received x ∈ [n] := heq ▸ List.mem_append_right _ (List.mem_cons_self ..)
  rw [h x (List.mem_singleton.1 hmem).symm] at htrigger
  exact absurd htrigger (by simp)

/-- All that is received just before a restart is covered by it. -/
theorem covered_received (xs : List Entry) (folders : List Path) :
    Covered (xs.map .received ++ [.restarted folders]) := by
  intro front x back heq _
  refine ⟨folders, ?_⟩
  rcases List.append_eq_append_iff.1 heq with ⟨mid, -, hmid⟩ | ⟨mid, -, hback⟩
  · have hmem : Notice.received x ∈ [Notice.restarted folders] :=
      hmid ▸ List.mem_append_right _ (List.mem_cons_self ..)
    exact absurd hmem (by simp)
  · have hmem : Notice.restarted folders ∈ Notice.received x :: back :=
      hback ▸ List.mem_append_right _ (List.mem_cons_self ..)
    simpa using hmem

end Loop
end Switchboard
