/-
# What a supervisor keeps

`Sound` is what holds of a supervisor at every moment: its sessions are heard,
none that it has run and that runs no more has a report left, and there is no
session while it is stopped.  What it has run so far is a parameter, and so are
the reports that it has taken from the site and not handled yet.

What is done with documents keeps more (`Keeps`): no session starts or stops
running, and nothing is said about files.
-/

import Switchboard.Proofs.Session.Heard
import Switchboard.Proofs.Supervisor.Frame

namespace Switchboard
namespace Supervisor

variable {ran : SessionId → Prop} {taken : List ServerEvent} {s s' s'' : Supervisor}

/-! ### Soundness -/

/-- The identities of the sessions, each with whether the session runs. -/
def roll (s : Supervisor) : List (SessionId × Bool) := s.sessions.map fun x => (x.id, x.isRunning)

/-- A supervisor that has run some sessions so far is sound with the reports
that it has taken and not handled. -/
structure Sound (ran : SessionId → Prop) (taken : List ServerEvent) (s : Supervisor) : Prop where
  heard : Heard s.nextSession s.sessions (taken ++ s.site.events)
  quiet : Quiet ran s.sessions (taken ++ s.site.events)
  ran_of_running : ∀ x ∈ s.sessions, x.isRunning = true → ran x.id
  lt_of_ran : ∀ id, ran id → id < s.nextSession
  idle : s.phase = .stopped → s.sessions = []

/-- What leaves a supervisor sound, its sessions running or not as they were,
and what is said about files as it was. -/
structure Keeps (ran : SessionId → Prop) (taken : List ServerEvent) (s s' : Supervisor) : Prop where
  sound : Sound ran taken s'
  store_eq : s'.store = s.store
  roll_eq : s'.roll = s.roll

theorem Keeps.refl (h : Sound ran taken s) : Keeps ran taken s s := ⟨h, rfl, rfl⟩

theorem Keeps.trans (h₁ : Keeps ran taken s s') (h₂ : Keeps ran taken s' s'') :
    Keeps ran taken s s'' :=
  ⟨h₂.sound, h₂.store_eq.trans h₁.store_eq, h₂.roll_eq.trans h₁.roll_eq⟩

/-- Soundness is a matter of the sessions, their reports and the phase. -/
theorem Sound.of_same (h : Sound ran taken s) (hs : Same s s') : Sound ran taken s' := by
  obtain ⟨-, hsessions, hevents, -, -, hnext, hphase, -, -⟩ := hs
  refine ⟨?_, ?_, ?_, ?_, ?_⟩
  · rw [hsessions, hevents, hnext]
    exact h.heard
  · rw [hsessions, hevents]
    exact h.quiet
  · rw [hsessions]
    exact h.ran_of_running
  · rw [hnext]
    exact h.lt_of_ran
  · rw [hsessions, hphase]
    exact h.idle

/-- Where these are the same, a supervisor is kept as it is. -/
theorem Keeps.of_same (h : Sound ran taken s) (hs : Same s s') : Keeps ran taken s s' :=
  ⟨h.of_same hs, hs.store_eq, by rw [roll, roll, hs.sessions_eq]⟩

/-- What the table of documents says has nothing to do with soundness. -/
theorem Keeps.withDocuments (h : Sound ran taken s) (documents : List (Path × SessionId)) :
    Keeps ran taken s { s with documents } :=
  ⟨⟨h.heard, h.quiet, h.ran_of_running, h.lt_of_ran, h.idle⟩, rfl, rfl⟩

/-! ### One session -/

/-- A session that is found is there and has the identity that is looked for. -/
theorem of_session? {id : SessionId} {x : Session} (h : s.session? id = some x) :
    x ∈ s.sessions ∧ x.id = id :=
  ⟨List.mem_of_find?_eq_some h, by simpa using List.find?_some h⟩

/-- The sessions around one of them have other identities. -/
theorem id_ne_of_split {x : Session} {front back : List Session}
    (h : (s.sessions.map Session.id).Nodup) (hsplit : s.sessions = front ++ x :: back) :
    ∀ y ∈ front ++ back, y.id ≠ x.id := by
  intro y hy heq
  rw [hsplit, List.map_append, List.map_cons, List.nodup_middle, List.nodup_cons,
    ← List.map_append] at h
  exact h.1 (heq ▸ List.mem_map_of_mem hy)

/-- Putting back a session that has gone on replaces just that session. -/
theorem putSession_split {x y : Session} {front back : List Session}
    (h : (s.sessions.map Session.id).Nodup) (hsplit : s.sessions = front ++ x :: back)
    (hid : y.id = x.id) : (s.putSession y).sessions = front ++ y :: back := by
  have hstays : ∀ z ∈ front ++ back, (if z.id == y.id then y else z) = z := by
    intro z hz
    have hne : z.id ≠ y.id := hid ▸ id_ne_of_split h hsplit z hz
    exact if_neg (by simpa using hne)
  have hside : ∀ side ⊆ front ++ back,
      side.map (fun z => if z.id == y.id then y else z) = side := by
    intro side hle
    exact (List.map_congr_left fun z hz => hstays z (hle hz)).trans (List.map_id side)
  rw [putSession, hsplit, List.map_append, List.map_cons, hside front (List.subset_append_left ..),
    hside back (List.subset_append_right ..), if_pos (by simp [hid])]

/-- Where identities differ, putting a session in replaces the one in its place. -/
theorem exists_putSession (h : (s.sessions.map Session.id).Nodup) {x y : Session}
    (hx : x ∈ s.sessions) (hid : y.id = x.id) :
    ∃ front back, s.sessions = front ++ x :: back ∧
      (s.putSession y).sessions = front ++ y :: back := by
  obtain ⟨front, back, hsplit⟩ := List.append_of_mem hx
  exact ⟨front, back, hsplit, putSession_split h hsplit hid⟩

/-- **One session that goes on as it did** leaves the supervisor sound. -/
theorem keeps_putSession (h : Sound ran taken s) {x : Session} (hx : x ∈ s.sessions)
    {p : Session × Site} (hleads : x.Leads s.site p) (hrun : p.1.isRunning = x.isRunning) :
    Keeps ran taken s ({ s with site := p.2 }.putSession p.1) := by
  have hid := hleads.id_eq
  obtain ⟨front, back, hsplit, hput⟩ :=
    exists_putSession (s := { s with site := p.2 }) h.heard.nodup hx hid
  have hheard := h.heard
  have hquiet := h.quiet
  change s.sessions = _ at hsplit
  rw [hsplit] at hheard hquiet
  refine ⟨⟨?_, ?_, fun z hz hz' => ?_, h.lt_of_ran, fun hphase => ?_⟩, rfl, ?_⟩
  · rw [hput]
    exact hheard.replace hleads
  · rw [hput]
    exact hquiet.replace hheard hleads hrun
  · rw [hput] at hz
    rcases mem_replaced hz with rfl | hz
    · rw [hid]
      exact h.ran_of_running x hx (hrun ▸ hz')
    · refine h.ran_of_running z ?_ hz'
      rw [hsplit]
      simp only [List.mem_append, List.mem_cons]
      tauto
  · rw [h.idle hphase] at hsplit
    exact absurd hsplit (by simp)
  · rw [roll, roll, hput, hsplit]
    simp only [List.map_append, List.map_cons, hid, hrun]

/-- The client of a session reports for that session. -/
theorem own_client (h : Sound ran taken s) {x : Session} (hx : x ∈ s.sessions) :
    ∀ c, x.client? = some c → c.session = x.id := fun _ => h.heard.session_eq hx

/-! ### Documents -/

/-- A document that goes to a session keeps a supervisor sound. -/
theorem keeps_syncIn (h : Sound ran taken s) {x : Session} (hx : x ∈ s.sessions) (path : Path)
    (language text : String) : Keeps ran taken s (s.syncIn x path language text).2 := by
  obtain ⟨hleads, hrun⟩ := Session.leads_sync (own_client h hx) s.site path language text
  exact keeps_putSession h hx hleads hrun

/-- Opening a document keeps a supervisor sound. -/
theorem keeps_openDocument (h : Sound ran taken s) (path : Path) (text : String) :
    Keeps ran taken s (s.openDocument path text).2 := by
  unfold openDocument
  split
  · exact .refl h
  next language _ =>
    split
    · exact .refl h
    next x hx =>
      have hsync := keeps_syncIn h (List.mem_of_find?_eq_some hx) path language text
      split
      next heq =>
        rw [heq] at hsync
        exact hsync
      next heq =>
        rw [heq] at hsync
        exact hsync.trans (.withDocuments hsync.sound _)

/-- Forgetting who serves a document keeps a supervisor sound. -/
theorem keeps_disown (h : Sound ran taken s) (path : Path) : Keeps ran taken s (s.disown path) :=
  .withDocuments h _

/-- Changing a document keeps a supervisor sound. -/
theorem keeps_changeDocument (h : Sound ran taken s) (path : Path) (text : String) :
    Keeps ran taken s (s.changeDocument path text).2 := by
  unfold changeDocument
  split
  · exact keeps_openDocument h path text
  · split
    · exact .refl h
    next language _ =>
      split
      · exact (keeps_disown h path).trans (keeps_openDocument (keeps_disown h path).sound path text)
      next x hx =>
        have hsync := keeps_syncIn h (of_session? hx).1 path language text
        split
        next heq =>
          rw [heq] at hsync
          exact hsync
        next heq =>
          rw [heq] at hsync
          exact hsync

/-- Closing a document keeps a supervisor sound. -/
theorem keeps_closeDocument (h : Sound ran taken s) (path : Path) :
    Keeps ran taken s (s.closeDocument path).2 := by
  unfold closeDocument
  split
  · exact .refl h
  · have hdisown := keeps_disown h path
    dsimp only
    split
    · exact hdisown
    next x hx =>
      obtain ⟨hleads, hrun⟩ := Session.leads_close
        (own_client hdisown.sound (of_session? hx).1) s.site path
      exact hdisown.trans (keeps_putSession hdisown.sound (of_session? hx).1 hleads hrun)

/-- Sessions that settle keep a supervisor sound: what they report is theirs. -/
theorem keeps_settle (h : Sound ran taken s) : Keeps ran taken s s.settle := by
  obtain ⟨hheard, hquiet, hroll⟩ := settleSessions_spec [] h.heard h.quiet
  refine ⟨⟨hheard, hquiet, fun x hx hrun => ?_, h.lt_of_ran, fun hphase => ?_⟩, rfl, hroll⟩
  · have hmem : (x.id, x.isRunning) ∈ s.sessions.map fun x => (x.id, x.isRunning) :=
      hroll ▸ List.mem_map_of_mem hx
    obtain ⟨z, hz, heq⟩ := List.mem_map.1 hmem
    obtain ⟨hid, hz'⟩ := Prod.mk.inj heq
    exact hid ▸ h.ran_of_running z hz (hz'.trans hrun)
  · have hnone := h.idle hphase
    change (settleSessions s.sessions s.site).1 = []
    rw [hnone]
    rfl

/-- Reading and opening a document keeps a supervisor sound. -/
theorem keeps_openFromDisk (h : Sound ran taken s) (path : Path) :
    Keeps ran taken s (s.openFromDisk path).2 := by
  unfold openFromDisk
  split
  · exact .refl h
  · have hsettle := keeps_settle h
    dsimp only
    split
    · exact hsettle
    next text _ =>
      have hopen := hsettle.trans (keeps_openDocument hsettle.sound path text)
      split
      next heq =>
        rw [heq] at hopen
        exact hopen
      next heq =>
        rw [heq] at hopen
        exact hopen

/-- Asking for actions keeps a supervisor sound. -/
theorem keeps_fixAllActions (h : Sound ran taken s) (path : Path) :
    Keeps ran taken s (s.fixAllActions path).2 := by
  have hopen := keeps_openFromDisk h path
  unfold fixAllActions
  split
  next heq =>
    rw [heq] at hopen
    exact hopen
  next s₁ heq =>
    rw [heq] at hopen
    split
    · exact hopen
    · split
      · exact hopen
      next x hx =>
        obtain ⟨hleads, hrun⟩ := Session.leads_codeActions
          (own_client hopen.sound (of_session? hx).1) s₁.site path [fixAllKind]
        exact hopen.trans (keeps_putSession hopen.sound (of_session? hx).1 hleads hrun)

/-- Opening a document again keeps a supervisor sound. -/
theorem keeps_reopen (h : Sound ran taken s) (path : Path) :
    Keeps ran taken s (s.reopen path) := by
  have hsettle := keeps_settle h
  unfold reopen
  dsimp only
  split
  · exact hsettle
  · exact hsettle.trans (keeps_openDocument hsettle.sound path _)

end Supervisor
end Switchboard
