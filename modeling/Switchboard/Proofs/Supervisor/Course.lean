/-
# Courses of the control loop

A course is all that happens to the control loop and to its supervisor, in order:
anything can happen around the supervisor, events are sent, the loop takes steps
with events, and it handles reports.  Nothing is said about when it does what, so
whatever the loop does until nothing is left to do is a course
(`Loop.exists_course_settle`).

Whichever way it comes about, what matters to the host is that the supervisor is
started or stopped, each a turn in its life, or that a report is handled.  What
these keep, every course keeps (`Loop.Tracks.course`).
-/

import Switchboard.Proofs.Supervisor.Told

namespace Switchboard

/-! ### Turns -/

/-- A call that starts or stops a supervisor, with the supervisor that is called. -/
inductive Turn where
  | start (s : Supervisor)
  | stop (s : Supervisor)

namespace Supervisor

/-- The turns of a restart: it stops the supervisor and starts what that comes to. -/
def turnsOfRestart (s : Supervisor) : List Turn :=
  let s := { s.log .info "Restarting extension..." with restarts := s.restarts + 1 }
  [.stop s, .start s.stop]

/-- The turns of a command on the palette. -/
def turnsOfCommand (s : Supervisor) : Command → List Turn
  | .restart => s.turnsOfRestart
  | .showOutput | .autofix | .showCommands => []

/-- The turns of what is picked from the palette. -/
def turnsOfPicked (s : Supervisor) : Option Command → List Turn
  | some c => s.turnsOfCommand c
  | none => []

/-- The turns of what happens around a supervisor. -/
def turnsOf (s : Supervisor) : Occurrence → List Turn
  | .moved .start => [.start s]
  | .moved .stop => [.stop s]
  | .moved .restart => s.turnsOfRestart
  | .moved (.command _ picked c) => (s.asked c).turnsOfPicked (chosen? picked c)
  | _ => []

end Supervisor

namespace Loop

/-- The turns of an event. -/
def turnsOfEvent (l : Loop) (e : Event) : List Turn :=
  if e.isTrigger then (drain (absorb l.supervisor e)).2.turnsOfRestart
  else match e with
    | .command c => l.supervisor.turnsOfCommand c
    | .shutdown => [.stop l.supervisor]
    | _ => []

/-- The turns of a step with an event. -/
def turnsOfStep (l : Loop) (view : HostView) : List Turn :=
  if l.ended then []
  else if l.picking then match view.pick with
    | some picked => l.supervisor.turnsOfPicked picked
    | none => []
  else match l.nextEvent? with
    | some (e, l) => l.turnsOfEvent e
    | none => []

/-! ### Courses -/

/-- What can happen to the control loop. -/
inductive Happening where
  /-- Something happens around the supervisor that the loop has no part in. -/
  | around (o : Supervisor.Occurrence)
  | sent (e : Event)
  /-- The loop takes a step with an event, if there is one to take. -/
  | stepped (view : HostView)
  /-- The loop handles the next report, if there is one. -/
  | heard

/-- Handles the next report, if there is one. -/
def hearNext (l : Loop) : Loop :=
  match l.supervisor.nextReport? with
  | some (e, s) => { l with supervisor := s }.handleReport e
  | none => l

/-- The loop after something that happens to it. -/
def after (l : Loop) : Happening → Loop
  | .around o => { l with supervisor := l.supervisor.afterwards o }
  | .sent e => { l with supervisor := l.supervisor.enqueue e }
  | .stepped view => (l.step? view).getD l
  | .heard => l.hearNext

/-- The loop after all that has happened, in order. -/
def course (l : Loop) (hs : List Happening) : Loop := hs.foldl after l

/-- The turns of what happens to the loop. -/
def turnsOf (l : Loop) : Happening → List Turn
  | .around o => l.supervisor.turnsOf o
  | .stepped view => l.turnsOfStep view
  | .sent _ | .heard => []

/-- All turns of a course, in order. -/
def turns (l : Loop) : List Happening → List Turn
  | [] => []
  | h :: hs => l.turnsOf h ++ (l.after h).turns hs

/-- A course goes on where the one before it has ended. -/
theorem course_append (l : Loop) (hs more : List Happening) :
    l.course (hs ++ more) = (l.course hs).course more := List.foldl_append

/-- Whether the loop takes no report but by itself. -/
def HeardByLoop (hs : List Happening) : Prop := .around (.moved .report) ∉ hs

/-- Two rows of happenings that only the loop hears are one. -/
theorem HeardByLoop.append {hs more : List Happening} (h : HeardByLoop hs)
    (hmore : HeardByLoop more) : HeardByLoop (hs ++ more) :=
  List.not_mem_append h hmore

/-! ### What the loop does is a course -/

/-- Working off events is a course of events and of what is picked. -/
theorem exists_course_workWithin (view : HostView) (fuel : Nat) (l : Loop) :
    ∃ hs, HeardByLoop hs ∧ workWithin view fuel l = l.course hs := by
  induction fuel generalizing l with
  | zero => exact ⟨[], List.not_mem_nil, rfl⟩
  | succ fuel ih =>
    unfold workWithin
    split
    next l' hstep =>
      obtain ⟨hs, hheard, hcourse⟩ := ih l'
      have hafter : l.after (.stepped view) = l' := by rw [after, hstep, Option.getD_some]
      refine ⟨.stepped view :: hs, by simpa [HeardByLoop] using hheard, ?_⟩
      rw [hcourse, ← hafter]
      rfl
    · exact ⟨[], List.not_mem_nil, rfl⟩

/-- Handling reports is a course of reports. -/
theorem exists_course_hearWithin (fuel : Nat) (l : Loop) :
    ∃ hs, HeardByLoop hs ∧ hearWithin fuel l = l.course hs := by
  induction fuel generalizing l with
  | zero => exact ⟨[], List.not_mem_nil, rfl⟩
  | succ fuel ih =>
    unfold hearWithin
    split
    next e s hnext =>
      obtain ⟨hs, hheard, hcourse⟩ := ih ({ l with supervisor := s }.handleReport e)
      have hafter : l.after .heard = { l with supervisor := s }.handleReport e := by
        rw [after, hearNext, hnext]
      refine ⟨.heard :: hs, by simpa [HeardByLoop] using hheard, ?_⟩
      rw [hcourse, ← hafter]
      rfl
    · exact ⟨[], List.not_mem_nil, rfl⟩

/-- Rounds in which sessions settle and their reports are handled are part of a course. -/
theorem exists_course_hearRounds (rounds : Nat) (l : Loop) :
    ∃ hs, HeardByLoop hs ∧ hearRounds rounds l = l.course hs := by
  induction rounds generalizing l with
  | zero => exact ⟨[], List.not_mem_nil, rfl⟩
  | succ rounds ih =>
    obtain ⟨hs, hheard, hcourse⟩ := exists_course_hearWithin (reportsLeft l.supervisor.settle)
      (l.after (.around (.moved .settle)))
    obtain ⟨more, hmore, hrest⟩ := ih l.hear
    refine ⟨.around (.moved .settle) :: hs ++ more, ?_, ?_⟩
    · refine HeardByLoop.append ?_ hmore
      simpa [HeardByLoop] using hheard
    · rw [hearRounds, hrest, course_append]
      exact congrArg (course · more) hcourse

/-- **Handling all events and all reports that are there is a course.** -/
theorem exists_course_settle (view : HostView) (l : Loop) :
    ∃ hs, HeardByLoop hs ∧ l.settle view = l.course hs := by
  obtain ⟨hs, hheard, hcourse⟩ := exists_course_workWithin view l.stepsLeft l
  unfold settle work
  dsimp only
  split
  · obtain ⟨more, hmore, hrest⟩ := exists_course_hearRounds
      ((workWithin view l.stepsLeft l).supervisor.sessions.length + 2)
      (workWithin view l.stepsLeft l)
    refine ⟨hs ++ more, hheard.append hmore, ?_⟩
    rw [hrest, hcourse, course_append]
  · exact ⟨hs, hheard, hcourse⟩

/-! ### What every course keeps -/

/-- What may depend on the turns so far, and is kept by every turn, by what is not told, and by
the loop when it handles a report. -/
structure Tracks (P : List Turn → Supervisor → Prop) : Prop where
  start : ∀ {ts : List Turn} {s : Supervisor}, P ts s → P (ts ++ [.start s]) s.start.2
  stop : ∀ {ts : List Turn} {s : Supervisor}, P ts s → P (ts ++ [.stop s]) s.stop
  untold : ∀ {ts : List Turn} {s s' : Supervisor}, s.Untold s' → P ts s → P ts s'
  handled : ∀ {ts : List Turn} {l : Loop} (e : ServerEvent), P ts l.supervisor →
    P ts (l.handleReport e).supervisor

namespace Tracks

variable {P : List Turn → Supervisor → Prop} {ts : List Turn} {s : Supervisor} {l : Loop}

/-- A restart is a stop and a start, so what every turn keeps it keeps. -/
theorem restart (hP : Tracks P) (h : P ts s) : P (ts ++ s.turnsOfRestart) s.restart.2 := by
  have hlogged : s.Untold
      { s.log .info "Restarting extension..." with restarts := s.restarts + 1 } :=
    ⟨⟨rfl, rfl⟩, rfl, rfl⟩
  have hstarted := hP.start (hP.stop (hP.untold hlogged h))
  rw [List.append_assoc] at hstarted
  unfold Supervisor.restart
  exact hP.untold (Supervisor.unseen_foldl Supervisor.unseen_reopen _ _).untold hstarted

/-- A command keeps it over the turns that it takes. -/
theorem perform (hP : Tracks P) (h : P ts s) (active : Option Path) (c : Command) :
    P (ts ++ s.turnsOfCommand c) (s.perform active c) := by
  by_cases hc : c = .restart
  · subst hc
    exact hP.restart h
  · have hnone : s.turnsOfCommand c = [] := by
      cases c with
      | restart => exact absurd rfl hc
      | _ => rfl
    rw [hnone, List.append_nil]
    exact hP.untold (Supervisor.untold_perform s active hc) h

/-- What each command keeps over its turns is kept by the one that has been picked, if any has been.
-/
theorem performPicked (hP : Tracks P) (h : P ts s) (active : Option Path)
    (picked : Option Command) :
    P (ts ++ s.turnsOfPicked picked) (s.performPicked active picked) := by
  cases picked with
  | none =>
    rw [Supervisor.turnsOfPicked, List.append_nil]
    exact h
  | some c => exact hP.perform h active c

/-- The report that the loop handles next keeps it. -/
theorem report (hP : Tracks P) (h : P ts l.supervisor) : P ts l.hearNext.supervisor := by
  unfold hearNext
  split
  next e s hnext => exact hP.handled e (hP.untold (Supervisor.unseen_nextReport? hnext).untold h)
  · exact h

/-- What happens around a supervisor, apart from its own handling of reports. -/
theorem afterwards (hP : Tracks P) (h : P ts s) (o : Supervisor.Occurrence)
    (hreport : o = .moved .report → P ts (s.poll 1).2) :
    P (ts ++ s.turnsOf o) (s.afterwards o) := by
  have quiet : ∀ {s'}, s.turnsOf o = [] → s.Untold s' → P (ts ++ s.turnsOf o) s' := by
    intro s' hnone huntold
    rw [hnone, List.append_nil]
    exact hP.untold huntold h
  cases o with
  | moved m =>
    cases m with
    | start => exact hP.start h
    | stop => exact hP.stop h
    | restart => exact hP.restart h
    | command active picked c =>
      have hasked := hP.untold (Supervisor.untold_asked s c) h
      have hpicked := hP.performPicked hasked active (Supervisor.chosen? picked c)
      rwa [← Supervisor.execute_eq] at hpicked
    | report => exact (List.append_nil ts).symm ▸ hreport rfl
    | opened path text => exact quiet rfl (Supervisor.unseen_openDocument s path text).untold
    | changed path text => exact quiet rfl (Supervisor.unseen_changeDocument s path text).untold
    | closed path => exact quiet rfl (Supervisor.unseen_closeDocument s path).untold
    | fixed path => exact quiet rfl (Supervisor.unseen_fixAllActions s path).untold
    | folders paths => exact quiet rfl ⟨⟨rfl, rfl⟩, rfl, rfl⟩
    | settle => exact quiet rfl (Supervisor.unseen_settle s).untold
    | read id frames =>
      exact quiet rfl (Supervisor.untold_withClientOf s id fun c site =>
        Supervisor.readSome c site frames)
    | act id reaction =>
      exact quiet rfl (Supervisor.untold_withClientOf s id fun c site =>
        (Supervisor.acted c reaction, site))
    | world disk now => exact quiet rfl (Supervisor.unseen_site s ..).untold
  | late e => exact quiet rfl (Supervisor.unseen_site s ..).untold
  | written path node => exact quiet rfl (Supervisor.untold_putEntry s path node)
  | removed path => exact quiet rfl (Supervisor.untold_withDisk s _)
  | renamed source target => exact quiet rfl (Supervisor.untold_renameEntry s source target)

/-- An event keeps it over the turns that it takes. -/
theorem handle (hP : Tracks P) (h : P ts l.supervisor) (active : Option Path) (e : Event) :
    P (ts ++ l.turnsOfEvent e) (l.handle active e).supervisor := by
  unfold Loop.handle turnsOfEvent
  split
  · have habsorbed := hP.untold (Supervisor.untold_absorb l.supervisor e) h
    exact hP.restart (hP.untold (Supervisor.untold_drain _) habsorbed)
  next htrigger =>
    have quiet : ∀ {s'}, l.supervisor.Untold s' → P (ts ++ []) s' := by
      intro s' huntold
      rw [List.append_nil]
      exact hP.untold huntold h
    cases e with
    | command c =>
      dsimp only [attend]
      split
      next hc =>
        subst hc
        exact quiet (Supervisor.untold_openPalette _)
      · exact hP.perform h active c
    | opened path text => exact quiet (Supervisor.unseen_openDocument _ path text).untold
    | changed path text => exact quiet (Supervisor.unseen_changeDocument _ path text).untold
    | closed path => exact quiet (Supervisor.unseen_closeDocument _ path).untold
    | shutdown => exact hP.stop h
    | folders paths => exact absurd rfl htrigger
    | lockFile path => exact absurd rfl htrigger

/-- A step of the loop keeps it over the turns that it takes. -/
theorem step (hP : Tracks P) (h : P ts l.supervisor) (view : HostView) :
    P (ts ++ l.turnsOfStep view) ((l.step? view).getD l).supervisor := by
  unfold step? turnsOfStep
  split
  · rw [List.append_nil]
    exact h
  · split
    · cases view.pick with
      | none =>
        rw [List.append_nil]
        exact h
      | some picked => exact hP.performPicked h view.active picked
    · cases hnext : l.nextEvent? with
      | none =>
        rw [List.append_nil]
        exact h
      | some found =>
        obtain ⟨e, l'⟩ := found
        exact hP.handle (hP.untold (Supervisor.untold_nextEvent? hnext) h) view.active e

/-- **Whatever happens keeps it**, over the turns that this takes; a report that is handled beside
the loop has to be looked at where it is used. -/
theorem after (hP : Tracks P) (h : P ts l.supervisor) (happening : Happening)
    (hreport : happening = .around (.moved .report) → P ts (l.supervisor.poll 1).2) :
    P (ts ++ l.turnsOf happening) (l.after happening).supervisor := by
  cases happening with
  | around o => exact hP.afterwards h o fun ho => hreport (congrArg _ ho)
  | stepped view => exact hP.step h view
  | sent e =>
    have hsent : l.supervisor.Untold (l.supervisor.enqueue e) := ⟨⟨rfl, rfl⟩, rfl, rfl⟩
    rw [turnsOf, List.append_nil]
    exact hP.untold hsent h
  | heard =>
    rw [turnsOf, List.append_nil]
    exact hP.report h

/-- **What every turn keeps, every course keeps**, if the supervisor keeps it when it handles
reports, or if only the loop handles them. -/
theorem course (hP : Tracks P) (ts : List Turn) (hs : List Happening)
    (hreport : .around (.moved .report) ∈ hs → ∀ {ts s}, P ts s → P ts (s.poll 1).2)
    (h : P ts l.supervisor) : P (ts ++ l.turns hs) (l.course hs).supervisor := by
  induction hs generalizing ts l with
  | nil =>
    rw [turns, List.append_nil]
    exact h
  | cons happening hs ih =>
    have hafter := hP.after h happening fun heq => hreport (heq ▸ List.mem_cons_self ..) h
    have hrest := ih _ (fun hmem => hreport (List.mem_cons_of_mem _ hmem)) hafter
    rwa [List.append_assoc] at hrest

end Tracks

end Loop
end Switchboard
