/-
# How a start comes out

Sessions are started side by side, at one site.  What one of them does there adds to the
files and to the reports of the site, and no more; so each comes out as its own server
decides, whatever the others do, unless a report of it finds no room
(`Supervisor.start_outcomes`).
-/

import Switchboard.Proofs.Supervisor.Ending
import Switchboard.Proofs.Supervisor.Staffing
import Switchboard.Proofs.Supervisor.Twins

namespace Switchboard

namespace Session

variable {x y : Session} {ctx : SessionContext} {program : Except DiskFault Behaviour}
  {supervised held : Bool} {fault : Option SessionFault}

/-- The outcome of a start is told by who a session is and what it is made of. -/
theorem ComesOut.congr (h : ComesOut x ctx program supervised held fault) (hid : y.id = x.id)
    (hplan : y.plan = x.plan) : ComesOut y ctx program supervised held fault := by
  obtain ⟨hversion, hbinary, hprojects⟩ := Plan.mk.inj hplan
  have hcaller : y.caller ctx = x.caller ctx := by
    funext server
    rw [caller, caller, greeting, greeting, handshake, handshake, channelName, channelName, hid,
      hversion, hbinary, hprojects]
  have halone : y.alone ctx = x.alone ctx := by
    funext server
    rw [alone, alone, hcaller]
  have hverdict : y.verdict ctx program = x.verdict ctx program := by
    unfold verdict
    rw [halone, hbinary]
  have hgreetings : y.greetings ctx = x.greetings ctx := by
    funext server
    rw [greetings, greetings, halone, hid]
  have hearly : ∀ server, y.earlyReports ctx server = x.earlyReports ctx server := by
    intro server
    rw [earlyReports, earlyReports, hgreetings, hid, hprojects]
  refine ⟨fun hfree => ?_, fun hnone => ?_, fun hnone => ?_⟩
  · rw [hverdict]
    exact h.decided hfree
  · rw [hbinary]
    exact h.delayed (hverdict ▸ hnone)
  · obtain ⟨server, response, hrest⟩ := h.answered hnone
    refine ⟨server, response, ?_⟩
    rw [hgreetings, hearly]
    exact hrest

end Session

namespace Supervisor

open Session (ComesOut)

variable {s : Supervisor}

/-! ### Side by side -/

/-- What only logs leaves on the site all that was there. -/
theorem Logged.grows {s' : Supervisor} (h : Logged s s') : s.site.Grows s'.site := by
  obtain ⟨lines, rfl⟩ := h
  exact rel_foldl (R := fun s s' => s.site.Grows s'.site) (fun s => .refl s.site)
    (fun h₁ h₂ => h₁.trans h₂) (fun s line => s.site.grows_log ..) s lines

/-- The sessions that a start tries to start. -/
def candidates (s : Supervisor) : List Session :=
  if s.folders.isEmpty then [] else s.planned.sessions

/-- The patience for a welcome is never zero. -/
theorem patient (s : Supervisor) : s.context.initTimeout ≠ 0 := Nat.ne_of_gt (Nat.le_max_right _ 1)

end Supervisor
end Switchboard
