/-
# The program line by line

The program handles the event of a line before it takes the next line.  That is
one of the orders in which its tasks can go on: what it comes to with a line,
with the end of the input and with an interrupt is reached by them
(`reach_takeLine`, `reach_endInput`, `reach_interrupt`).  Between two lines no event
waits (`Idle`), so with every line there is room for what it comes to, and what the
program comes to from its start, line by line, is reached by its tasks from theirs
(`reach_typed`).
-/

import Switchboard.Proofs.Terminal.Progress

namespace Switchboard
namespace Program

variable {p : Program} {lines : List String}

/-- The program as it stands between two lines, with the lines that are still to come. -/
def tasks (p : Program) (lines : List String) : Tasks :=
  ⟨lines, if p.listening then .listening else .closed, if p.interrupted then .done else .awaited,
    p.desk, p.cwd, p.loop, .nothing⟩

/-- What is printed is no concern of anything else. -/
theorem exists_printAll (p : Program) (out : List (Option String)) :
    ∃ printed crashed, p.printAll out = { p with printed, crashed } := by
  unfold printAll
  split
  · exact ⟨p.printed, p.crashed, rfl⟩
  · exact ⟨_, _, rfl⟩

/-- What is printed does not matter to the tasks. -/
theorem tasks_print (p : Program) (out : List String) :
    (p.print out).tasks lines = p.tasks lines := by
  obtain ⟨printed, crashed, h⟩ := p.exists_printAll (out.map some)
  rw [print, h]
  rfl

/-- The tasks come to what the program shows when it has looked again. -/
theorem reach_refresh (p : Program) (lines : List String) :
    Tasks.Reach (p.tasks lines) (p.refresh.tasks lines) := by
  unfold refresh
  dsimp only
  split
  · exact .refl
  · obtain ⟨printed, crashed, h⟩ := p.exists_printAll (p.loop.supervisor.calls.flatMap Screen.lines)
    rw [h]
    exact Tasks.reach_around ⟨rfl, rfl, rfl⟩

/-- The loop goes on, unless it cannot. -/
theorem reach_proceed {go : Loop → HostView → Loop}
    (h : Tasks.Reach (p.tasks lines) ((p.tasks lines).goOn (go p.loop ⟨p.desk.active, none⟩))) :
    Tasks.Reach (p.tasks lines) ((p.proceed go).tasks lines) := by
  let l := go p.loop ⟨p.desk.active, none⟩
  let desk := if l.picking && !p.loop.picking then p.desk.openPalette else p.desk
  unfold proceed
  split
  · exact .refl
  · exact h.trans (reach_refresh { p with loop := l, desk } lines)

/-- The tasks come to what the loop of the program has worked off. -/
theorem reach_work (p : Program) (lines : List String) :
    Tasks.Reach (p.tasks lines) (p.work.tasks lines) :=
  reach_proceed (Tasks.run_workWithin p.loop.stepsLeft rfl).reach

/-- The tasks come to what the program has advanced to. -/
theorem reach_advance (p : Program) (lines : List String) :
    Tasks.Reach (p.tasks lines) (p.advance.tasks lines) := by
  refine reach_proceed ?_
  have hwork := (Tasks.run_workWithin (t := p.tasks lines) p.loop.stepsLeft rfl).reach
  change Tasks.Reach _ ((p.tasks lines).goOn (p.loop.work ⟨p.desk.active, none⟩)) at hwork
  unfold Loop.settle
  dsimp only
  generalize p.loop.work ⟨p.desk.active, none⟩ = l at hwork ⊢
  split_ifs with hopen
  · obtain ⟨s, hs, hrounds⟩ := Loop.beside_hearRounds (l.supervisor.sessions.length + 2) l
    rw [hrounds]
    exact hwork.trans (Tasks.reach_around (t := (p.tasks lines).goOn l) hs)
  · exact hwork

/-- Whether a palette waits for an answer exactly when the loop waits for what is picked. -/
def Attentive (p : Program) : Prop := p.desk.waiting = p.loop.picking

/-- A program that prints stays attentive. -/
theorem Attentive.print (h : p.Attentive) (out : List String) : (p.print out).Attentive := by
  obtain ⟨printed, crashed, hprinted⟩ := p.exists_printAll (out.map some)
  rw [Program.print, hprinted]
  exact h

/-- A program that looks again stays attentive. -/
theorem Attentive.refresh (h : p.Attentive) : p.refresh.Attentive := by
  unfold Program.refresh
  dsimp only
  split
  · exact h
  · obtain ⟨printed, crashed, hprinted⟩ :=
      p.exists_printAll (p.loop.supervisor.calls.flatMap Screen.lines)
    rw [hprinted]
    exact h

/-- A program whose loop goes on stays attentive, if the loop stands still while it waits for a
pick. -/
theorem Attentive.proceed (h : p.Attentive) {go : Loop → HostView → Loop}
    (hstays : p.loop.picking = true → go p.loop ⟨p.desk.active, none⟩ = p.loop) :
    (p.proceed go).Attentive := by
  unfold Program.proceed
  split
  · exact h
  refine Attentive.refresh ?_
  change (if (go p.loop ⟨p.desk.active, none⟩).picking && !p.loop.picking then
    p.desk.openPalette else p.desk).waiting = (go p.loop ⟨p.desk.active, none⟩).picking
  unfold Attentive at h
  cases hpicking : p.loop.picking with
  | true =>
    rw [hstays hpicking, hpicking, if_neg (by simp)]
    exact h.trans hpicking
  | false =>
    rw [Bool.not_false, Bool.and_true]
    split_ifs with hopens
    · exact hopens.symm
    · rw [Bool.not_eq_true] at hopens
      exact h.trans (hpicking.trans hopens.symm)

/-- A program whose loop works off what there is stays attentive. -/
theorem Attentive.work (h : p.Attentive) : p.work.Attentive :=
  h.proceed fun hpicking => Tasks.workWithin_of_picking _ _ hpicking

/-- A program that advances stays attentive. -/
theorem Attentive.advance (h : p.Attentive) : p.advance.Attentive := by
  refine h.proceed fun hpicking => ?_
  have hwork : p.loop.work ⟨p.desk.active, none⟩ = p.loop :=
    Tasks.workWithin_of_picking _ _ hpicking
  have hclosed : p.loop.isOpen = false := by
    rw [Loop.isOpen, hpicking, Bool.not_true, Bool.and_false]
  unfold Loop.settle
  rw [hwork]
  exact if_neg (by simp [hclosed])

/-- A supervisor that has been made has no event in its queue. -/
theorem queue_of_make {settings : Settings} {folders : List Path} {logDir : Option Path}
    {processId : Nat} {site : Site} {s : Supervisor}
    (h : Supervisor.make settings folders logDir processId site = .ok s) : s.queue = [] := by
  unfold Supervisor.make at h
  split_ifs at h
  obtain rfl := Except.ok.inj h
  rfl

/-- An event that has been sent is worked off. -/
theorem reach_send (p : Program) (e : Event) (lines : List String) :
    Tasks.Reach ((p.tasks lines).queued e) ((p.send e).tasks lines) :=
  reach_work { p with loop := { p.loop with supervisor := p.loop.supervisor.enqueue e } } lines

/-- A line is taken when a palette takes it. -/
theorem offer_of_take {disk : Disk} {cwd : Path} {d d' : Desk} {line : String}
    (h : Input.take disk cwd d line = (none, d')) : d.offer line = (true, d') := by
  unfold Input.take at h
  split at h
  next hoffer =>
    rw [hoffer, (Prod.mk.inj h).2]
  · exact absurd (Prod.mk.inj h).1 (by simp)

/-- A line that is read as a command leaves the palette waiting or not as it was. -/
theorem waiting_of_take {disk : Disk} {cwd : Path} {d d' : Desk} {line : String} {r : Response}
    (h : Input.take disk cwd d line = (some r, d')) : d'.waiting = d.waiting := by
  unfold Input.take at h
  split at h
  · exact absurd (Prod.mk.inj h).1 (by simp)
  next d₁ hoffer =>
    obtain ⟨active, hactive⟩ := Input.exists_active_respond disk cwd d₁ (Line.read line)
    have hdesk : (Input.respond disk cwd d₁ (Line.read line)).2 = d' := (Prod.mk.inj h).2
    rw [← hdesk, hactive, (Desk.of_offer_eq_false hoffer).2]

/-- No palette waits where a line is not taken by one. -/
theorem not_waiting_of_take {disk : Disk} {cwd : Path} {d d' : Desk} {line : String}
    {r : Response} (h : Input.take disk cwd d line = (some r, d')) : d.waiting = false := by
  unfold Input.take at h
  split at h
  · exact absurd (Prod.mk.inj h).1 (by simp)
  next hoffer => exact (Desk.of_offer_eq_false hoffer).1

/-- The end of the input becomes a shutdown. -/
theorem reach_endInput_of_closing (hlistening : p.listening = true)
    (hroom : p.loop.supervisor.queue.length < Loop.queueLimit) :
    Tasks.Reach { p.tasks lines with typing := .closing } (p.endInput.tasks lines) := by
  have hclose := Tasks.InputStep.close (t := { p.tasks lines with typing := .closing }) rfl hroom
  rw [endInput, if_pos hlistening]
  exact hclose.run.reach.trans (reach_send { p with listening := false } .shutdown lines)

/-- **What the program does with a line is done by its tasks.** -/
theorem reach_takeLine (hlistening : p.listening = true) (hgoing : p.isOver = false)
    (hroom : p.loop.supervisor.queue.length < Loop.queueLimit) (hattentive : p.Attentive)
    (line : String) (lines : List String) :
    Tasks.Reach (p.tasks (line :: lines)) ((p.takeLine line).tasks lines) := by
  have htake := (Tasks.run_take (t := p.tasks (line :: lines)) (if_pos hlistening) rfl).reach
  refine htake.trans ?_
  unfold takeLine
  rw [if_pos (by rw [hlistening, hgoing]; rfl)]
  change Tasks.Reach { p.tasks lines with
    typing := Tasks.typingAfter (Input.take p.loop.supervisor.site.disk p.cwd p.desk line).1
    desk := (Input.take p.loop.supervisor.site.disk p.cwd p.desk line).2 } _
  have hback : ∀ desk, { p.tasks lines with typing := Typing.listening, desk } =
      ({ p with desk } : Program).tasks lines := by
    intro desk
    rw [tasks, tasks, hlistening]
    rfl
  split
  next desk htaken =>
    rw [htaken]
    obtain ⟨hwaiting, -, hpick⟩ := Desk.of_offer_eq_true (offer_of_take htaken)
    have hpicking : p.loop.picking = true := hattentive.symm.trans hwaiting
    have hresume := Tasks.LoopStep.resume (t := ({ p with desk } : Program).tasks lines) rfl
      hpicking hpick
    have hpicked : picked desk = Choice.read? line Command.palette := by rw [picked, hpick]
    rw [← hpicked] at hresume
    change Tasks.Reach { p.tasks lines with typing := Typing.listening, desk } _
    rw [hback]
    exact hresume.run.reach.trans
      (reach_work { p with desk, loop := p.loop.resume desk.active (picked desk) } lines)
  next e desk htaken =>
    rw [htaken]
    have hsend := Tasks.InputStep.send
      (t := { p.tasks lines with typing := .sending e, desk }) rfl hroom
    refine .trans hsend.run.reach ?_
    rw [if_pos hroom]
    have hsent := reach_send { p with desk } e lines
    rwa [← hback] at hsent
  next answer desk htaken =>
    rw [htaken]
    change Tasks.Reach { p.tasks lines with typing := Typing.listening, desk } _
    rw [hback, tasks_print]
  next desk htaken =>
    rw [htaken]
    exact reach_endInput_of_closing (p := { p with desk }) hlistening hroom

/-- A program that is sent an event stays attentive. -/
theorem Attentive.send (h : p.Attentive) (e : Event) : (p.send e).Attentive :=
  Attentive.work (p := { p with
    loop := { p.loop with supervisor := p.loop.supervisor.enqueue e } }) h

/-- Whatever line the program takes, a palette waits exactly when the loop does. -/
theorem Attentive.takeLine (h : p.Attentive) (line : String) : (p.takeLine line).Attentive := by
  unfold Program.takeLine
  split
  · split
    next desk htaken =>
      exact Attentive.work (p := { p with desk, loop := p.loop.resume desk.active (picked desk) })
        (Desk.of_offer_eq_true (offer_of_take htaken)).2.1
    next e desk htaken =>
      split
      · exact Attentive.send (p := { p with desk }) ((waiting_of_take htaken).trans h) e
      · exact (waiting_of_take htaken).trans h
    next answer desk htaken =>
      exact Attentive.print (p := { p with desk }) ((waiting_of_take htaken).trans h) answer
    next desk htaken =>
      have hdesk : Attentive { p with desk } := (waiting_of_take htaken).trans h
      unfold endInput
      split_ifs
      · exact Attentive.send (p := { p with desk, listening := false }) hdesk .shutdown
      · exact hdesk
  · exact h

/-- **What the program does at the end of the input is done by its tasks.** -/
theorem reach_endInput (hlistening : p.listening = true)
    (hroom : p.loop.supervisor.queue.length < Loop.queueLimit) :
    Tasks.Reach (p.tasks []) (p.endInput.tasks []) :=
  .trans (Tasks.InputStep.finish (t := p.tasks []) (if_pos hlistening) rfl).run.reach
    (reach_endInput_of_closing hlistening hroom)

/-- **What the program does with an interrupt is done by its tasks.** -/
theorem reach_interrupt (hroom : p.loop.supervisor.queue.length < Loop.queueLimit)
    (lines : List String) : Tasks.Reach (p.tasks lines) (p.interrupt.tasks lines) := by
  unfold interrupt
  split_ifs with hinterrupted
  · exact .refl
  · have hawaited : (p.tasks lines).interrupt = .awaited := if_neg hinterrupted
    have hinterrupt := Tasks.Step.interrupted hawaited
    have hsend := Tasks.Move.interrupt
      (t := { p.tasks lines with interrupt := .sending }) rfl hroom
    refine .head hinterrupt (.head (.move hsend) ?_)
    exact .trans (reach_send { p with interrupted := true } .shutdown lines) (reach_advance _ lines)

/-! ### All lines in order -/

/-- Whether no event waits. -/
structure Idle (p : Program) : Prop where
  queue_eq : p.loop.supervisor.queue = []
  backlog_eq : p.loop.backlog = []

/-- Where no event waits there is room in the queue. -/
theorem Idle.hasRoom (h : p.Idle) : p.loop.supervisor.queue.length < Loop.queueLimit := by
  rw [h.queue_eq]
  exact Nat.succ_pos _

/-- Where no event waits there is nothing to work off. -/
theorem Idle.workWithin_eq (h : p.Idle) (active : Option Path) (fuel : Nat) :
    Loop.workWithin ⟨active, none⟩ fuel p.loop = p.loop := by
  cases fuel with
  | zero => rfl
  | succ fuel =>
    have hstep : p.loop.step? ⟨active, none⟩ = none := by
      have hnext : p.loop.nextEvent? = none := by rw [Loop.nextEvent?, h.backlog_eq, h.queue_eq]
      unfold Loop.step?
      split
      · rfl
      · split
        · rfl
        · rw [hnext]
          rfl
    rw [Loop.workWithin, hstep]

/-- An event that is handled leaves none behind. -/
theorem Idle.handle (h : p.Idle) (active : Option Path) (e : Event) :
    Idle { p with loop := p.loop.handle active e } := by
  cases he : e.isTrigger with
  | true =>
    have hqueue : (Loop.absorb p.loop.supervisor e).queue = [] :=
      (Tasks.queue_absorb ..).trans h.queue_eq
    have hhandled : p.loop.handle active e = p.loop.restartFor e := if_pos he
    rw [hhandled, Loop.restartFor, Tasks.drain_nil hqueue]
    exact ⟨(Tasks.queue_restart _).trans hqueue, (List.append_nil _).trans h.backlog_eq⟩
  | false =>
    have hhandled : p.loop.handle active e = p.loop.attend active e := if_neg (by simp [he])
    rw [hhandled]
    refine ⟨(Loop.beside_attend p.loop active he).queue_eq.trans h.queue_eq, ?_⟩
    unfold Loop.attend
    cases e with
    | command c =>
      dsimp only
      split <;> exact h.backlog_eq
    | shutdown => rfl
    | _ => exact h.backlog_eq

/-- A program that prints stays idle. -/
theorem Idle.print (h : p.Idle) (out : List String) : (p.print out).Idle := by
  obtain ⟨printed, crashed, hprinted⟩ := p.exists_printAll (out.map some)
  rw [Program.print, hprinted]
  exact ⟨h.queue_eq, h.backlog_eq⟩

/-- A program that looks again stays idle. -/
theorem Idle.refresh (h : p.Idle) : p.refresh.Idle := by
  unfold Program.refresh
  dsimp only
  split
  · exact h
  · exact ⟨h.queue_eq, h.backlog_eq⟩

/-- The loop goes on where it stops with no event that waits. -/
theorem Idle.proceed (h : p.Idle) {go : Loop → HostView → Loop}
    (hgo : Idle { p with loop := go p.loop ⟨p.desk.active, none⟩ }) : (p.proceed go).Idle := by
  unfold Program.proceed
  split
  · exact h
  · exact Idle.refresh ⟨hgo.queue_eq, hgo.backlog_eq⟩

/-- A program that advances stays idle. -/
theorem Idle.advance (h : p.Idle) : p.advance.Idle := by
  refine h.proceed ?_
  have hwork : p.loop.work ⟨p.desk.active, none⟩ = p.loop := h.workWithin_eq ..
  unfold Loop.settle
  rw [hwork]
  dsimp only
  split
  · obtain ⟨s, hs, hrounds⟩ := Loop.beside_hearRounds (p.loop.supervisor.sessions.length + 2) p.loop
    rw [hrounds]
    exact ⟨hs.queue_eq.trans h.queue_eq, h.backlog_eq⟩
  · exact h

/-- An event that is sent while the loop goes on is worked off at once. -/
theorem Idle.send (h : p.Idle) (hgoes : p.isStuck = false) (hover : p.isOver = false)
    (hpicking : p.loop.picking = false) (e : Event) : (p.send e).Idle := by
  let sent : Loop := { p.loop with supervisor := p.loop.supervisor.enqueue e }
  obtain ⟨hcrashed, hended⟩ : p.crashed = false ∧ p.loop.ended = false := by
    simpa [isOver, hgoes] using hover
  have hqueue : sent.supervisor.queue = [e] := by
    change p.loop.supervisor.queue ++ [e] = [e]
    rw [h.queue_eq, List.nil_append]
  have hnext : sent.nextEvent? = some (e, p.loop) := by
    rw [Tasks.nextEvent?_of_queue (l := sent) h.backlog_eq hqueue]
    have hsame : ({ sent.supervisor with queue := [] } : Supervisor) = p.loop.supervisor := by
      rw [← h.queue_eq]
      rfl
    rw [hsame]
  have hstep : sent.step? ⟨p.desk.active, none⟩ = some (p.loop.handle p.desk.active e) := by
    have hgoing : sent.ended = false ∧ sent.picking = false := ⟨hended, hpicking⟩
    rw [Loop.step?, hgoing.1, hgoing.2, hnext]
    rfl
  have hhandled := h.handle p.desk.active e
  have hwork : sent.work ⟨p.desk.active, none⟩ = p.loop.handle p.desk.active e := by
    rw [Loop.work, Loop.stepsLeft, Loop.workWithin, hstep]
    exact hhandled.workWithin_eq ..
  have hgoing : ¬ (p.crashed || p.isStuck) = true := by simp [hcrashed, hgoes]
  change (Program.proceed { p with loop := sent } Loop.work).Idle
  unfold Program.proceed
  split
  next hstays => exact absurd hstays hgoing
  refine Idle.refresh ⟨?_, ?_⟩
  · exact (congrArg (fun l : Loop => l.supervisor.queue) hwork).trans hhandled.queue_eq
  · exact (congrArg Loop.backlog hwork).trans hhandled.backlog_eq

/-- **Between two lines no event waits.** -/
theorem Idle.takeLine (h : p.Idle) (hattentive : p.Attentive) (hgoes : p.isStuck = false)
    (line : String) : (p.takeLine line).Idle := by
  unfold Program.takeLine
  split
  next hgoing =>
    have hover : p.isOver = false := by
      rw [Bool.and_eq_true, Bool.not_eq_true'] at hgoing
      exact hgoing.2
    split
    next desk htaken =>
      have hresumed : Idle { p with loop := p.loop.resume desk.active (picked desk) } :=
        ⟨(Tasks.queue_performPicked ..).trans h.queue_eq, h.backlog_eq⟩
      have hwork := hresumed.workWithin_eq desk.active
      refine Idle.proceed (p := { p with desk, loop := p.loop.resume desk.active (picked desk) })
        ⟨hresumed.queue_eq, hresumed.backlog_eq⟩ ?_
      rw [Loop.work, hwork]
      exact ⟨hresumed.queue_eq, hresumed.backlog_eq⟩
    next e desk htaken =>
      rw [if_pos h.hasRoom]
      exact Idle.send (p := { p with desk }) ⟨h.queue_eq, h.backlog_eq⟩ hgoes hover
        (hattentive.symm.trans (not_waiting_of_take htaken)) e
    next answer desk htaken =>
      exact Idle.print (p := { p with desk }) ⟨h.queue_eq, h.backlog_eq⟩ answer
    next desk htaken =>
      unfold endInput
      split
      · exact Idle.send (p := { p with desk, listening := false }) ⟨h.queue_eq, h.backlog_eq⟩
          hgoes hover (hattentive.symm.trans (not_waiting_of_take htaken)) .shutdown
      · exact ⟨h.queue_eq, h.backlog_eq⟩
  · exact h

/-- **The program begins as its tasks do**, with nothing in the queue. -/
theorem reach_start {a : Arguments} {home : Path} {processId : Nat} {site : Site}
    {warning : Option String} (h : start a home processId site = .ok (warning, p))
    (lines : List String) :
    p.Attentive ∧ p.Idle ∧
      ∃ s cwd, s.queue = [] ∧ Tasks.Reach (Tasks.start s cwd lines) (p.tasks lines) := by
  unfold start at h
  dsimp only at h
  generalize hmake : Supervisor.make _ _ _ _ _ = made at h
  generalize Disk.pathOf _ = cwd at h
  cases made with
  | error fault => exact absurd h (by simp [Except.map])
  | ok s =>
    obtain ⟨-, rfl⟩ := Prod.mk.inj (Except.ok.inj h)
    let fresh : Program := ⟨.ofSupervisor s.start.2, .empty, cwd, [], true, false, [], false⟩
    let ready := if fresh.isStuck then [] else Screen.reportLines s.start.1 ++ [readyLine]
    have hqueue := (Supervisor.beside_start s).queue_eq.trans (queue_of_make hmake)
    have hattentive : fresh.Attentive := rfl
    have hidle : fresh.Idle := ⟨hqueue, rfl⟩
    refine ⟨(hattentive.refresh.print ready).advance, (hidle.refresh.print ready).advance,
      s.start.2, cwd, hqueue, ?_⟩
    have hfresh := reach_refresh fresh lines
    rw [← tasks_print fresh.refresh ready] at hfresh
    exact hfresh.trans (reach_advance _ lines)

/-- Lines that are taken no more. -/
theorem foldl_takeLine_of_over (h : (p.listening && !p.isOver) = false) (lines : List String) :
    lines.foldl takeLine p = p := by
  induction lines with
  | nil => rfl
  | cons line lines ih =>
    have hsame : p.takeLine line = p := if_neg (by simp [h])
    rw [List.foldl_cons, hsame, ih]

/-- **What the program does with lines in order is done by its tasks**, as long as what it
does comes to an end. -/
theorem reach_takeLines (hidle : p.Idle) (hattentive : p.Attentive)
    (hgoes : ∀ front, front <+: lines → (front.foldl takeLine p).isStuck = false) :
    ∃ rest, Tasks.Reach (p.tasks lines) ((lines.foldl takeLine p).tasks rest) := by
  induction lines generalizing p with
  | nil => exact ⟨[], .refl⟩
  | cons line lines ih =>
    cases hgoing : p.listening && !p.isOver with
    | false =>
      rw [foldl_takeLine_of_over hgoing]
      exact ⟨line :: lines, .refl⟩
    | true =>
      obtain ⟨hlistening, hover⟩ := Bool.and_eq_true_iff.1 hgoing
      have hfirst := reach_takeLine hlistening (Bool.not_eq_eq_eq_not.1 hover) hidle.hasRoom
        hattentive line lines
      obtain ⟨rest, hrest⟩ := ih (hidle.takeLine hattentive (hgoes [] (List.nil_prefix)) line)
        (hattentive.takeLine line) fun front hfront =>
          hgoes (line :: front) (List.cons_prefix_cons.2 ⟨rfl, hfront⟩)
      exact ⟨rest, hfirst.trans hrest⟩

/-- **What the program comes to from its start, line by line, is reached by its tasks from
theirs**, as long as what it does comes to an end. -/
theorem reach_typed {a : Arguments} {home : Path} {processId : Nat} {site : Site}
    {warning : Option String} (h : start a home processId site = .ok (warning, p))
    (hgoes : ∀ front, front <+: lines → (front.foldl takeLine p).isStuck = false) :
    ∃ s cwd rest, s.queue = [] ∧
      Tasks.Reach (Tasks.start s cwd lines) ((lines.foldl takeLine p).tasks rest) := by
  obtain ⟨hattentive, hidle, s, cwd, hqueue, hstart⟩ := reach_start h lines
  obtain ⟨rest, hlines⟩ := reach_takeLines hidle hattentive hgoes
  exact ⟨s, cwd, rest, hqueue, hstart.trans hlines⟩

end Program
end Switchboard
