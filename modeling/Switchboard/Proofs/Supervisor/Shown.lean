/-
# What the host shows

The host is told of diagnostics in two places: the loop tells it when a report has
changed anything, and a stop tells it when it has dropped them all.  That is enough
for the host to show what is said about files at every moment
(`Loop.upToDate_course`), for nothing else changes what is said: a supervisor that
starts has nothing to say until a report comes.
-/

import Switchboard.Proofs.Supervisor.Course
import Switchboard.Proofs.Supervisor.Owners

namespace Switchboard
namespace Supervisor

variable {s s' : Supervisor}

/-- Whether the host shows just what is said about files. -/
def UpToDate (s : Supervisor) : Prop := s.shown = s.snapshot

/-- Being up to date is a matter of the store and of what is shown. -/
theorem UpToDate.congr (h : s.UpToDate) (hstore : s'.store = s.store)
    (hshown : s'.shown = s.shown) : s'.UpToDate := by
  rw [UpToDate, hshown, snapshot, hstore]
  exact h

/-- A start leaves what is shown up to date. -/
theorem upToDate_start (h : s.UpToDate) : s.start.2.UpToDate := by
  by_cases hphase : s.phase = .stopped
  · obtain ⟨-, hstore, hshown⟩ := start_told hphase
    exact h.congr hstore hshown
  · rwa [start_of_not_stopped hphase]

/-- A stop leaves what is shown up to date. -/
theorem upToDate_stop (h : s.UpToDate) : s.stop.UpToDate := by
  by_cases hphase : s.phase = .stopped
  · rwa [stop_of_stopped hphase]
  · obtain ⟨-, hstore, hshown⟩ := stop_told hphase
    rw [UpToDate, hshown, snapshot, hstore]

/-- No step of the loop leaves what is shown out of date. -/
theorem tracks_upToDate : Loop.Tracks fun _ s => s.UpToDate :=
  ⟨upToDate_start, upToDate_stop, fun hs h => h.congr hs.store_eq hs.shown_eq,
    fun {_ l} e => (handleReport_told l e).2⟩

end Supervisor

namespace Loop

open Supervisor

variable {s : Supervisor}

/-- **The host always shows what is said about files**, in every course of a new supervisor
in which the control loop handles the reports: whatever happens, and also when the loop has
done all that there is to do, or has ended. -/
theorem upToDate_course {settings : Settings} {folders : List Path} {logDir : Option Path}
    {processId : Nat} {site : Site} (h : make settings folders logDir processId site = .ok s)
    {hs : List Happening} (hheard : HeardByLoop hs) :
    ((ofSupervisor s).course hs).supervisor.UpToDate ∧
      ∀ view, (((ofSupervisor s).course hs).settle view).supervisor.UpToDate := by
  have hfirst : s.UpToDate := by
    unfold make at h
    split at h
    · exact absurd h (by simp)
    · obtain rfl := Except.ok.inj h
      rfl
  have hcourse : ∀ hs, HeardByLoop hs → ((ofSupervisor s).course hs).supervisor.UpToDate :=
    fun hs hheard => tracks_upToDate.course [] hs (fun hreport => absurd hreport hheard)
      hfirst
  refine ⟨hcourse hs hheard, fun view => ?_⟩
  obtain ⟨more, hmore, hsettle⟩ := exists_course_settle view ((ofSupervisor s).course hs)
  rw [hsettle, ← course_append]
  exact hcourse _ (hheard.append hmore)

/-- A server publishes diagnostics, the loop takes them in, and the server crashes. -/
def publishedAndCrashed : List Happening :=
  [.around (.moved .start),
    .around (.moved (.act 1 ⟨Frame.write earlyDiagnostics, false, true, false⟩)),
    .around (.moved .settle), .heard]

/-- The host shows the diagnostics before the loop hears of the crash, and none after that. -/
theorem upToDate_course_crash :
    ∃ s, make .default [Path.ofText "/w"] none 7 (.ofDisk (diskWith plainServer [])) = .ok s ∧
      HeardByLoop publishedAndCrashed ∧
      ((ofSupervisor s).course publishedAndCrashed).supervisor.UpToDate ∧
      ((ofSupervisor s).course publishedAndCrashed).supervisor.shown.errorCount = 1 ∧
      (((ofSupervisor s).course publishedAndCrashed).settle ⟨none, none⟩).supervisor.UpToDate ∧
      (((ofSupervisor s).course publishedAndCrashed).settle
        ⟨none, none⟩).supervisor.shown.errorCount = 0 := by
  have hmake : make .default [Path.ofText "/w"] none 7 (.ofDisk (diskWith plainServer [])) =
    .ok _ := rfl
  have hheard : HeardByLoop publishedAndCrashed := by simp [HeardByLoop, publishedAndCrashed]
  obtain ⟨hcourse, hsettle⟩ := upToDate_course hmake hheard
  exact ⟨_, hmake, hheard, hcourse, by decide +kernel, hsettle _, by decide +kernel⟩

end Loop
end Switchboard
