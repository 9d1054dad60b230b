/-
# Statuses come in rounds

A round of statuses begins with a start of a supervisor that is stopped: it loads,
then it is ready or idle, and a stop hides it.  A supervisor is stopped between
rounds and not stopped within one, so a start within a round does nothing, and
neither does a stop between rounds (`Supervisor.InRounds`).  Every course keeps
that (`Loop.statuses_in_rounds`).
-/

import Switchboard.Proofs.Supervisor.Course

namespace Switchboard

/-- The statuses of a round that begins with a start. -/
def StartReport.round (r : StartReport) : List (Option Glyph) :=
  [some .loading, some (if r.started > 0 then .ready else .idle), none]

namespace Turn

/-- The report of a start that takes effect: one of a supervisor that is stopped. -/
def report? : Turn → Option StartReport
  | .start s => if s.phase = .stopped then some s.start.1 else none
  | .stop _ => none

/-- Whether a turn is a stop that takes effect: one of a supervisor that is not stopped. -/
def stops : Turn → Bool
  | .start _ => false
  | .stop s => s.phase ≠ .stopped

/-- The statuses that a turn tells. -/
def statuses : Turn → List (Option Glyph)
  | .start s =>
    if s.phase = .stopped then
      [some .loading, some (if s.start.1.started > 0 then .ready else .idle)]
    else []
  | .stop s => if s.phase = .stopped then [] else [none]

/-- The status is hidden once for each stop that takes effect. -/
theorem count_statuses (t : Turn) : t.statuses.count none = if t.stops then 1 else 0 := by
  cases t with
  | start s =>
    by_cases hphase : s.phase = .stopped
    · simp [statuses, stops, hphase]
    · simp [statuses, stops, hphase]
  | stop s =>
    by_cases hphase : s.phase = .stopped
    · simp [statuses, stops, hphase]
    · simp [statuses, stops, hphase]

end Turn

/-- The rounds that turns begin, each with a start that takes effect. -/
def roundsOf (ts : List Turn) : List (Option Glyph) :=
  (ts.filterMap Turn.report?).flatMap StartReport.round

/-- One more turn begins one more round if it is a start that takes effect. -/
theorem roundsOf_concat (ts : List Turn) (t : Turn) :
    roundsOf (ts ++ [t]) = roundsOf ts ++ (t.report?.map StartReport.round).getD [] := by
  rw [roundsOf, List.filterMap_append, List.flatMap_append, roundsOf]
  congr 1
  cases h : t.report? with
  | none => rw [List.filterMap_cons_none h]; rfl
  | some r => rw [List.filterMap_cons_some h]; exact List.append_nil _

/-- The status is cleared as often as a stop takes effect. -/
theorem count_flatMap_statuses (ts : List Turn) :
    (ts.flatMap Turn.statuses).count none = ts.countP Turn.stops := by
  induction ts with
  | nil => rfl
  | cons t ts ih =>
    rw [List.flatMap_cons, List.count_append, ih, Turn.count_statuses, List.countP_cons,
      Nat.add_comm]

namespace Supervisor

variable {ts : List Turn} {s s' : Supervisor}

/-- A supervisor whose turns so far have told all of its statuses, between two rounds when it
is stopped, and else within the last. -/
structure InRounds (ts : List Turn) (s : Supervisor) : Prop where
  statuses_eq : s.statuses = ts.flatMap Turn.statuses
  between : s.phase = .stopped → s.statuses = roundsOf ts
  within : s.phase ≠ .stopped → s.statuses ++ [none] = roundsOf ts

namespace InRounds

/-- What tells no status stays within the round. -/
theorem mute (h : InRounds ts s) (hs : Mute s s') : InRounds ts s' := by
  obtain ⟨hphase, hstatuses⟩ := hs
  refine ⟨hstatuses.trans h.statuses_eq, fun hstopped => ?_, fun hstopped => ?_⟩
  · rw [hstatuses, h.between (hphase ▸ hstopped)]
  · rw [hstatuses, h.within (hphase ▸ hstopped)]

/-- A turn that does nothing tells nothing. -/
theorem idle (h : InRounds ts s) {t : Turn} (hreport : t.report? = none)
    (hstatuses : t.statuses = []) : InRounds (ts ++ [t]) s := by
  have hrounds : roundsOf (ts ++ [t]) = roundsOf ts := by
    rw [roundsOf_concat, hreport]
    exact List.append_nil _
  refine ⟨?_, fun hstopped => hrounds ▸ h.between hstopped,
    fun hstopped => hrounds ▸ h.within hstopped⟩
  rw [List.flatMap_append, List.flatMap_singleton, hstatuses, List.append_nil]
  exact h.statuses_eq

/-- A start begins a round, if there is none to end. -/
theorem start (h : InRounds ts s) : InRounds (ts ++ [.start s]) s.start.2 := by
  by_cases hphase : s.phase = .stopped
  · obtain ⟨htold, -, -⟩ := start_told hphase
    refine ⟨?_, fun hstopped => ?_, fun _ => ?_⟩
    · rw [htold, h.statuses_eq, List.flatMap_append, List.flatMap_singleton, Turn.statuses,
        if_pos hphase]
      rfl
    · exact absurd ((phase_start hphase).symm.trans hstopped) (by simp)
    · rw [htold, h.between hphase, roundsOf_concat, Turn.report?, if_pos hphase, List.append_assoc]
      rfl
  · rw [start_of_not_stopped hphase]
    exact h.idle (if_neg hphase) (if_neg hphase)

/-- A stop ends a round, if there is one. -/
theorem stop (h : InRounds ts s) : InRounds (ts ++ [.stop s]) s.stop := by
  by_cases hphase : s.phase = .stopped
  · rw [stop_of_stopped hphase]
    exact h.idle rfl (if_pos hphase)
  · obtain ⟨htold, -, -⟩ := stop_told hphase
    have hstopped : s.stop.phase = .stopped := (stop_rests fun h => absurd h hphase).1
    refine ⟨?_, fun _ => ?_, fun hrunning => absurd hstopped hrunning⟩
    · rw [htold, h.statuses_eq, List.flatMap_append, List.flatMap_singleton, Turn.statuses,
        if_neg hphase]
    · rw [htold, h.within hphase, roundsOf_concat]
      exact (List.append_nil _).symm

end InRounds

/-- Every step of the loop stays within the rounds of its turns. -/
theorem tracks_inRounds : Loop.Tracks InRounds :=
  ⟨InRounds.start, InRounds.stop, fun hs h => h.mute hs.toMute,
    fun {_ l} e h => h.mute (handleReport_told l e).1⟩

end Supervisor

namespace Loop

open Supervisor

variable {s : Supervisor}

/-- **Statuses come in rounds**, in every course of a new supervisor and its control loop.
They are those of the starts that find the supervisor stopped and of the stops that do not;
so they begin as rounds of these starts do, one behind the other, and break off at most
within the last, which is when the supervisor is not stopped; and the status is hidden as
often as such a stop occurs. -/
theorem statuses_in_rounds {settings : Settings} {folders : List Path} {logDir : Option Path}
    {processId : Nat} {site : Site} (h : make settings folders logDir processId site = .ok s)
    (hs : List Happening) :
    let statuses := ((ofSupervisor s).course hs).supervisor.statuses
    let stopped := ((ofSupervisor s).course hs).supervisor.phase = .stopped
    let turns := (ofSupervisor s).turns hs
    let rounds := roundsOf turns
    statuses = turns.flatMap Turn.statuses ∧ statuses <+: rounds ∧
      (stopped → statuses = rounds) ∧ (¬ stopped → statuses ++ [none] = rounds) ∧
      statuses.count none = turns.countP Turn.stops := by
  have hfirst : InRounds [] s := by
    unfold make at h
    split at h
    · exact absurd h (by simp)
    · obtain rfl := Except.ok.inj h
      exact ⟨rfl, fun _ => rfl, fun hphase => absurd rfl hphase⟩
  have hrounds : InRounds ([] ++ (ofSupervisor s).turns hs)
      ((ofSupervisor s).course hs).supervisor :=
    tracks_inRounds.course [] hs (fun _ _ _ h => h.mute (mute_poll 1 _)) hfirst
  rw [List.nil_append] at hrounds
  refine ⟨hrounds.statuses_eq, ?_, hrounds.between, hrounds.within, ?_⟩
  · by_cases hphase : ((ofSupervisor s).course hs).supervisor.phase = .stopped
    · exact (hrounds.between hphase) ▸ List.prefix_rfl
    · exact (hrounds.within hphase) ▸ List.prefix_append ..
  · rw [hrounds.statuses_eq]
    exact count_flatMap_statuses _

/-- A supervisor that is stopped is stopped once more and started, and then once more; it
restarts from the palette and for an event, and is shut down and stopped once more. -/
def threeRounds : List Happening :=
  let view : HostView := ⟨none, some (some .restart)⟩
  [.around (.moved .stop), .around (.moved .start), .around (.moved .start),
    .sent (.command .showCommands), .stepped view, .stepped view,
    .sent (.lockFile (Path.ofText "/w/yarn.lock")), .heard, .stepped view, .sent .shutdown,
    .stepped view, .around (.moved .stop)]

/-- Three rounds, whatever is stopped twice and restarted. -/
theorem statuses_in_rounds_three :
    ∃ s, make .default [Path.ofText "/w"] none 7 (.ofDisk nestedProjects) = .ok s ∧
      ((ofSupervisor s).course threeRounds).supervisor.statuses =
        [some .loading, some .ready, none, some .loading, some .ready, none, some .loading,
          some .ready, none] ∧
      ((ofSupervisor s).turns threeRounds).countP Turn.stops = 3 := by
  have hmake : make .default [Path.ofText "/w"] none 7 (.ofDisk nestedProjects) = .ok _ := rfl
  refine ⟨_, hmake, ?_⟩
  rw [← (statuses_in_rounds hmake threeRounds).2.2.2.2]
  decide +kernel

end Loop
end Switchboard
