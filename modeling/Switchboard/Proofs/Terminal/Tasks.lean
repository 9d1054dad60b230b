/-
# The tasks of the program

While the program runs, three tasks go on side by side: one takes in what is
typed, one waits for an interrupt, and the control loop works off the events
that the two send.  A step (`Step`) is what a task does between two moments at
which another one may come in between, so every order of steps is one in which
the tasks can run.  The two that send wait while the queue is full; the loop
waits for an event, or for an answer to its palette.  What is not a move of a
task comes from outside: the interrupt, what sessions and servers do and the
reports that the loop handles between two events, and lock files that change.

The steps are made of the definitions that run.  Left alone, a task does by its
moves what they do at once: a line is taken in as by `Input.take` (`run_take`),
and the loop handles an event as by `Loop.step?` (`run_step?`).
-/

import Mathlib.Logic.Relation
import Switchboard.Proofs.Supervisor.Faithful
import Switchboard.Terminal.Program

namespace Switchboard

/-! ### The desk -/

namespace Desk

variable {d d' : Desk} {line : String}

/-- A desk that waits takes the line as the answer to the palette. -/
theorem offer_of_waiting (h : d.waiting = true) (line : String) :
    d.offer line =
      (true, { d with waiting := false, answers := (d.opened - 1, line) :: d.answers }) :=
  if_pos h

/-- A desk that does not wait takes no line. -/
theorem offer_of_not_waiting (h : d.waiting = false) (line : String) :
    d.offer line = (false, d) := if_neg (by rw [h]; exact Bool.false_ne_true)

/-- The palette that takes a line has waited, and the line picks from it. -/
theorem of_offer_eq_true (h : d.offer line = (true, d')) :
    d.waiting = true ∧ d'.waiting = false ∧
      d'.lastPick = .picked (Choice.read? line Command.palette) := by
  cases hwaiting : d.waiting with
  | true =>
    rw [offer_of_waiting hwaiting, Prod.mk.injEq] at h
    obtain ⟨-, rfl⟩ := h
    refine ⟨rfl, rfl, ?_⟩
    rw [lastPick, pick, List.lookup_cons_self]
  | false =>
    rw [offer_of_not_waiting hwaiting, Prod.mk.injEq] at h
    exact absurd h.1 Bool.false_ne_true

/-- A line that is not taken finds a desk that does not wait, and leaves it so. -/
theorem of_offer_eq_false (h : d.offer line = (false, d')) : d.waiting = false ∧ d' = d := by
  cases hwaiting : d.waiting with
  | true =>
    rw [offer_of_waiting hwaiting, Prod.mk.injEq] at h
    exact absurd h.1.symm Bool.false_ne_true
  | false =>
    rw [offer_of_not_waiting hwaiting, Prod.mk.injEq] at h
    exact ⟨rfl, h.2.symm⟩

/-- The first palette waits when it is opened. -/
theorem lastPick_openPalette (h : d.answers = []) : d.openPalette.lastPick = .pending := by
  have hanswers : d.openPalette.answers = [] := h
  rw [lastPick, pick, hanswers, List.lookup_nil]
  refine if_pos ?_
  rw [Bool.and_eq_true, beq_iff_eq]
  exact ⟨rfl, rfl⟩

/-- While the last palette is pending the desk waits. -/
theorem waiting_of_lastPick (h : d.lastPick = .pending) : d.waiting = true := by
  rw [lastPick, pick] at h
  split at h
  · exact absurd h (by simp)
  · split_ifs at h with hwaits
    · exact (Bool.and_eq_true_iff.1 hwaits).1

end Desk

/-- A line that is read can make a document the active one, and nothing else. -/
theorem Input.exists_active_respond (disk : Disk) (cwd : Path) (d : Desk) (line : Line) :
    ∃ active, (respond disk cwd d line).2 = { d with active } := by
  have hdocument (path : Path) (make : Path → String → Event) :
      ∃ active, (document disk d path make).2 = { d with active } := by
    unfold document
    split
    · exact ⟨_, rfl⟩
    · exact ⟨_, rfl⟩
  cases line with
  | openFile raw => exact hdocument ..
  | changeFile raw => exact hdocument ..
  | fix raw =>
    cases raw with
    | none => exact ⟨_, rfl⟩
    | some raw => exact ⟨_, rfl⟩
  | _ => exact ⟨_, rfl⟩

/-- The loop with an event taken in for a restart: one that calls for a restart
is absorbed, any other is set aside. -/
def Loop.takeIn (l : Loop) (e : Event) (rest : List Event) : Loop :=
  let s := { l.supervisor with queue := rest }
  if e.isTrigger then { l with supervisor := absorb s e }
  else { l with supervisor := s, backlog := l.backlog ++ [e] }

/-! ### The state of the tasks -/

/-- Where the task is that takes in what is typed. -/
inductive Typing where
  /-- It waits for a line, or for the end of the input. -/
  | listening
  /-- It has a line that a palette may take. -/
  | holding (line : String)
  /-- It has a line that no palette has taken. -/
  | reading (line : String)
  /-- It waits for room for an event. -/
  | sending (e : Event)
  /-- It waits for room for the shutdown that ends the input. -/
  | closing
  | closed

/-- Where the task goes on with what a line has come to. -/
def Typing.ofResponse : Response → Typing
  | .event e => .sending e
  | .answer _ => .listening
  | .quit => .closing

/-- Where the task is that waits for an interrupt; only the first one counts. -/
inductive Interrupt where
  | awaited
  | sending
  | done

/-- What the loop has in hand. -/
inductive Hand where
  | nothing
  | event (e : Event)
  /-- A restart, for which it takes in what is queued. -/
  | restart

/-- The tasks of the program.  `lines` are the lines that are still to come
before the end of the input. -/
structure Tasks where
  lines : List String
  typing : Typing
  interrupt : Interrupt
  desk : Desk
  cwd : Path
  loop : Loop
  hand : Hand

namespace Tasks

/-- The tasks at their beginning. -/
def start (s : Supervisor) (cwd : Path) (lines : List String) : Tasks :=
  ⟨lines, .listening, .awaited, .empty, cwd, .ofSupervisor s, .nothing⟩

/-- The tasks with another supervisor. -/
def withSupervisor (t : Tasks) (s : Supervisor) : Tasks :=
  { t with loop := { t.loop with supervisor := s } }

/-- The tasks with one more event in the queue. -/
def queued (t : Tasks) (e : Event) : Tasks := t.withSupervisor (t.loop.supervisor.enqueue e)

/-- Whether there is room in the queue. -/
def HasRoom (t : Tasks) : Prop := t.loop.supervisor.queue.length < Loop.queueLimit

/-- What a line comes to that no palette has taken. -/
def respond (t : Tasks) (line : String) : Response × Desk :=
  Input.respond t.loop.supervisor.site.disk t.cwd t.desk (Line.read line)

/-- The tasks with the loop gone on; a palette that it opens comes to the desk. -/
def goOn (t : Tasks) (l : Loop) : Tasks :=
  { t with loop := l, desk := if l.picking && !t.loop.picking then t.desk.openPalette else t.desk }

/-! ### Steps -/

/-- A step of the task that takes in what is typed. -/
inductive InputStep (t : Tasks) : Tasks → Prop where
  | line {line : String} {rest : List String} (htyping : t.typing = .listening)
      (hlines : t.lines = line :: rest) :
      InputStep t { t with lines := rest, typing := .holding line }
  | finish (htyping : t.typing = .listening) (hlines : t.lines = []) :
      InputStep t { t with typing := .closing }
  | answer {line : String} {desk : Desk} (htyping : t.typing = .holding line)
      (hoffer : t.desk.offer line = (true, desk)) :
      InputStep t { t with typing := .listening, desk }
  | keep {line : String} {desk : Desk} (htyping : t.typing = .holding line)
      (hoffer : t.desk.offer line = (false, desk)) :
      InputStep t { t with typing := .reading line, desk }
  | respond {line : String} (htyping : t.typing = .reading line) :
      InputStep t { t with
        typing := .ofResponse (t.respond line).1
        desk := (t.respond line).2 }
  | send {e : Event} (htyping : t.typing = .sending e) (hroom : t.HasRoom) :
      InputStep t { t.queued e with typing := .listening }
  | close (htyping : t.typing = .closing) (hroom : t.HasRoom) :
      InputStep t { t.queued .shutdown with typing := .closed }

/-- A step of the control loop. -/
inductive LoopStep (t : Tasks) : Tasks → Prop where
  | take {e : Event} {l : Loop} (hhand : t.hand = .nothing) (hended : t.loop.ended = false)
      (hpicking : t.loop.picking = false) (hnext : t.loop.nextEvent? = some (e, l)) :
      LoopStep t { t with loop := l, hand := .event e }
  | attend {e : Event} (hhand : t.hand = .event e) (htrigger : e.isTrigger = false) :
      LoopStep t { t.goOn (t.loop.attend t.desk.active e) with hand := .nothing }
  | absorb {e : Event} (hhand : t.hand = .event e) (htrigger : e.isTrigger = true) :
      LoopStep t { t.withSupervisor (Loop.absorb t.loop.supervisor e) with hand := .restart }
  | takeIn {e : Event} {rest : List Event} (hhand : t.hand = .restart)
      (hqueue : t.loop.supervisor.queue = e :: rest) :
      LoopStep t { t with loop := t.loop.takeIn e rest }
  | restart (hhand : t.hand = .restart) (hqueue : t.loop.supervisor.queue = []) :
      LoopStep t { t.withSupervisor t.loop.supervisor.restart.2 with hand := .nothing }
  | resume {c : Option Command} (hhand : t.hand = .nothing) (hpicking : t.loop.picking = true)
      (hpick : t.desk.lastPick = .picked c) :
      LoopStep t { t with loop := t.loop.resume t.desk.active c }

/-- A move of one of the tasks. -/
inductive Move (t : Tasks) : Tasks → Prop where
  | input {t' : Tasks} (h : InputStep t t') : Move t t'
  | interrupt (hinterrupt : t.interrupt = .sending) (hroom : t.HasRoom) :
      Move t { t.queued .shutdown with interrupt := .done }
  | loop {t' : Tasks} (h : LoopStep t t') : Move t t'

/-- A move of one of the tasks, or what comes from outside. -/
inductive Step (t : Tasks) : Tasks → Prop where
  | move {t' : Tasks} (h : Move t t') : Step t t'
  | interrupted (hinterrupt : t.interrupt = .awaited) : Step t { t with interrupt := .sending }
  | around {s : Supervisor} (h : t.loop.supervisor.Beside s) : Step t (t.withSupervisor s)
  | changed (path : Path) (hroom : t.HasRoom) : Step t (t.queued (.lockFile path))

/-- What the tasks can come to by their own moves. -/
abbrev Run : Tasks → Tasks → Prop := Relation.ReflTransGen Move

/-- What the tasks can come to. -/
abbrev Reach : Tasks → Tasks → Prop := Relation.ReflTransGen Step

variable {t t' : Tasks} {e : Event} {l : Loop} {line : String} {lines : List String}

/-- What the tasks come to on their own they can come to. -/
theorem Run.reach (h : Run t t') : Reach t t' :=
  Relation.ReflTransGen.mono (fun _ _ => Step.move) _ _ h

/-- A step at the input is a move of the tasks. -/
theorem InputStep.run (h : InputStep t t') : Run t t' := .single (.input h)

/-- A step of the loop is a move of the tasks. -/
theorem LoopStep.run (h : LoopStep t t') : Run t t' := .single (.loop h)

/-- What a line comes to can make a document the active one, and changes nothing
else on the desk. -/
theorem exists_active_respond (t : Tasks) (line : String) :
    ∃ active, (t.respond line).2 = { t.desk with active } := Input.exists_active_respond ..

/-- What happens to the supervisor from outside can be come to. -/
theorem reach_around {s : Supervisor} (h : t.loop.supervisor.Beside s) :
    Reach t (t.withSupervisor s) := .single (.around h)

/-! ### The input left alone -/

/-- Where the task goes on with what a line is taken for. -/
def typingAfter : Option Response → Typing
  | none => .listening
  | some r => .ofResponse r

/-- Undisturbed, a line is taken in. -/
theorem run_take (htyping : t.typing = .listening) (hlines : t.lines = line :: lines) :
    Run t { t with
      lines
      typing := typingAfter (Input.take t.loop.supervisor.site.disk t.cwd t.desk line).1
      desk := (Input.take t.loop.supervisor.site.disk t.cwd t.desk line).2 } := by
  refine .trans (InputStep.line htyping hlines).run ?_
  unfold Input.take
  split
  next desk hoffer =>
    exact (InputStep.answer (t := { t with lines, typing := .holding line }) rfl hoffer).run
  next desk hoffer =>
    have hkeep := InputStep.keep (t := { t with lines, typing := .holding line }) rfl hoffer
    exact hkeep.run.trans (InputStep.respond rfl).run

/-! ### The loop left alone -/

/-- Absorbing an event does not look at the queue. -/
theorem absorb_withQueue (s : Supervisor) (e : Event) (queue : List Event) :
    Loop.absorb { s with queue } e = { Loop.absorb s e with queue } := by
  cases e with
  | _ => rfl

/-- Draining the queue absorbs what calls for a restart and sets the rest aside. -/
theorem drain_eq (s : Supervisor) :
    Loop.drain s = (s.queue.filter fun e => !e.isTrigger,
      (s.queue.filter Event.isTrigger).foldl Loop.absorb { s with queue := [] }) := by
  unfold Loop.drain
  rw [List.partition_eq_filter_filter]
  rfl

/-- From an empty queue nothing is drained. -/
theorem drain_nil {s : Supervisor} (h : s.queue = []) : Loop.drain s = ([], s) := by
  rw [drain_eq, h, List.filter_nil, List.filter_nil, List.foldl_nil, ← h]

/-- What is queued is taken in one event after the other. -/
theorem drain_cons_of_isTrigger {s : Supervisor} {rest : List Event} (h : s.queue = e :: rest)
    (he : e.isTrigger = true) :
    Loop.drain s = Loop.drain (Loop.absorb { s with queue := rest } e) := by
  rw [drain_eq, drain_eq, h, absorb_withQueue, List.filter_cons_of_neg (by simp [he]),
    List.filter_cons_of_pos he, List.foldl_cons, absorb_withQueue]

/-- What calls for no restart is set aside, and the rest is drained. -/
theorem drain_cons_of_not_isTrigger {s : Supervisor} {rest : List Event} (h : s.queue = e :: rest)
    (he : e.isTrigger = false) :
    Loop.drain s =
      (e :: (Loop.drain { s with queue := rest }).1, (Loop.drain { s with queue := rest }).2) := by
  rw [drain_eq, drain_eq, h, List.filter_cons_of_pos (by simp [he]),
    List.filter_cons_of_neg (by simp [he])]

/-- A queue that is drained is empty. -/
theorem queue_drain (s : Supervisor) : (Loop.drain s).2.queue = [] := by
  rw [drain_eq]
  exact (Supervisor.rel_foldl (R := fun s s' => s'.queue = s.queue) (fun _ => rfl)
    (fun h₁ h₂ => h₂.trans h₁) (fun s e => (Loop.absorb_spec s (e, 0)).1) _ _)

/-- Undisturbed, the loop takes in all that is queued. -/
theorem run_drain (hhand : t.hand = .restart) :
    Run t { t with loop := { t.loop with
      supervisor := (Loop.drain t.loop.supervisor).2
      backlog := t.loop.backlog ++ (Loop.drain t.loop.supervisor).1 } } := by
  induction hqueue : t.loop.supervisor.queue generalizing t with
  | nil =>
    rw [drain_nil hqueue, List.append_nil]
  | cons e rest ih =>
    refine .trans (LoopStep.takeIn hhand hqueue).run ?_
    by_cases he : e.isTrigger = true
    · rw [drain_cons_of_isTrigger hqueue he]
      rw [Loop.takeIn, if_pos he]
      exact ih hhand (by rw [absorb_withQueue])
    · rw [Bool.not_eq_true] at he
      rw [drain_cons_of_not_isTrigger hqueue he]
      rw [Loop.takeIn, if_neg (by simp [he])]
      have hrest := @ih { t with loop := { t.loop with
        supervisor := { t.loop.supervisor with queue := rest }
        backlog := t.loop.backlog ++ [e] } } hhand rfl
      rwa [List.append_assoc] at hrest

/-- A loop that does not come to a palette leaves the desk alone. -/
theorem goOn_of_picking_eq (h : l.picking = t.loop.picking) : t.goOn l = { t with loop := l } := by
  unfold goOn
  rw [h, Bool.and_not_self]
  rfl

/-- The next event is the first that is set aside, or else the first in the queue. -/
theorem nextEvent?_eq_some {l next : Loop} (h : l.nextEvent? = some (e, next)) :
    (∃ rest, l.backlog = e :: rest ∧ next = { l with backlog := rest }) ∨
      ∃ rest, l.backlog = [] ∧ l.supervisor.queue = e :: rest ∧
        next = { l with supervisor := { l.supervisor with queue := rest } } := by
  unfold Loop.nextEvent? at h
  split at h
  next rest hbacklog =>
    obtain ⟨rfl, rfl⟩ := Prod.mk.inj (Option.some.inj h)
    exact .inl ⟨rest, hbacklog, rfl⟩
  next rest hbacklog hqueue =>
    obtain ⟨rfl, rfl⟩ := Prod.mk.inj (Option.some.inj h)
    exact .inr ⟨rest, hbacklog, hqueue, rfl⟩
  · exact absurd h (by simp)

/-- With nothing set aside the next event is the first one in the queue. -/
theorem nextEvent?_of_queue {rest : List Event} (hbacklog : l.backlog = [])
    (hqueue : l.supervisor.queue = e :: rest) :
    l.nextEvent? = some (e, { l with supervisor := { l.supervisor with queue := rest } }) := by
  obtain ⟨s, backlog, picking, ended⟩ := l
  obtain rfl : backlog = [] := hbacklog
  have hqueue : s.queue = e :: rest := hqueue
  unfold Loop.nextEvent?
  dsimp only
  rw [hqueue]

/-- Where there is no next event nothing is set aside and the queue is empty. -/
theorem nextEvent?_eq_none (h : l.nextEvent? = none) :
    l.backlog = [] ∧ l.supervisor.queue = [] := by
  unfold Loop.nextEvent? at h
  split at h
  · exact absurd h (by simp)
  · exact absurd h (by simp)
  next hbacklog hqueue => exact ⟨hbacklog, hqueue⟩

/-- Undisturbed, the loop handles the event that it has in hand. -/
theorem run_hand (hhand : t.hand = .event e) :
    Run t { t.goOn (t.loop.handle t.desk.active e) with hand := .nothing } := by
  unfold Loop.handle
  by_cases he : e.isTrigger = true
  · rw [if_pos he, goOn_of_picking_eq (l := t.loop.restartFor e) rfl]
    refine .trans (LoopStep.absorb hhand he).run (.trans (run_drain rfl) ?_)
    exact (LoopStep.restart rfl (queue_drain _)).run
  · rw [Bool.not_eq_true] at he
    rw [if_neg (by simp [he])]
    exact (LoopStep.attend hhand he).run

/-- Undisturbed, the loop handles the next event. -/
theorem run_handle {next : Loop} (hhand : t.hand = .nothing) (hended : t.loop.ended = false)
    (hpicking : t.loop.picking = false) (hnext : t.loop.nextEvent? = some (e, next)) :
    Run t (t.goOn (next.handle t.desk.active e)) := by
  have hsame : next.picking = t.loop.picking := by
    rcases nextEvent?_eq_some hnext with ⟨rest, -, rfl⟩ | ⟨rest, -, -, rfl⟩
    · rfl
    · rfl
  have hhandle := run_hand (t := { t with loop := next, hand := .event e }) rfl
  refine .trans (LoopStep.take hhand hended hpicking hnext).run ?_
  unfold goOn at hhandle ⊢
  dsimp only at hhandle ⊢
  rwa [hsame, ← hhand] at hhandle

/-- A loop that waits for what is picked takes no step with an event. -/
theorem step?_of_picking (active : Option Path) (hpicking : l.picking = true) :
    l.step? ⟨active, none⟩ = none := by
  rw [Loop.step?, hpicking, if_pos rfl, Option.map_none, ite_self]

/-- While the palette has no answer the loop does no work. -/
theorem workWithin_of_picking (active : Option Path) (fuel : Nat) (hpicking : l.picking = true) :
    l.workWithin ⟨active, none⟩ fuel = l := by
  cases fuel with
  | zero => rfl
  | succ fuel => rw [Loop.workWithin, step?_of_picking active hpicking]

/-- Undisturbed, the loop takes its next step with an event. -/
theorem run_step? (hhand : t.hand = .nothing)
    (hstep : t.loop.step? ⟨t.desk.active, none⟩ = some l) : Run t (t.goOn l) := by
  unfold Loop.step? at hstep
  split_ifs at hstep with hended hpicking
  · exact absurd hstep (by simp)
  · rw [Bool.not_eq_true] at hended hpicking
    obtain ⟨⟨e, next⟩, hnext, rfl⟩ := Option.map_eq_some_iff.1 hstep
    exact run_handle hhand hended hpicking hnext

/-- Undisturbed, the loop takes its steps with events. -/
theorem run_workWithin (fuel : Nat) (hhand : t.hand = .nothing) :
    Run t (t.goOn (t.loop.workWithin ⟨t.desk.active, none⟩ fuel)) := by
  induction fuel generalizing t with
  | zero =>
    rw [Loop.workWithin, goOn_of_picking_eq rfl]
  | succ fuel ih =>
    rw [Loop.workWithin]
    split
    next l hstep =>
      refine .trans (run_step? hhand hstep) ?_
      cases hpicking : l.picking with
      | true => rw [workWithin_of_picking _ _ hpicking]
      | false =>
        -- A loop that takes a step has not waited, so the desk is as it was.
        have hwaited : t.loop.picking = false := by
          by_contra hne
          rw [Bool.not_eq_false] at hne
          rw [step?_of_picking _ hne] at hstep
          exact absurd hstep (by simp)
        rw [goOn_of_picking_eq (hpicking.trans hwaited.symm)]
        have hrest := @ih { t with loop := l } hhand
        unfold goOn at hrest ⊢
        rwa [hwaited, ← hpicking]
    · rw [goOn_of_picking_eq rfl]

end Tasks

end Switchboard
