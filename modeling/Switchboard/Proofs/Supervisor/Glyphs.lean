/-
# Whether the status is right

A status is shown when a start ends, and it is right then: ready when some session
runs, and idle when none does.  It stays right as long as no report is handled that
the server of the only session that runs has stopped.  Such a report ends the last
session without a word about the status, and from then on the status is wrong until
the supervisor is stopped or restarts (`Supervisor.statusRight_run_iff`).
-/

import Switchboard.Proofs.History
import Switchboard.Proofs.Supervisor.Clients
import Switchboard.Proofs.Supervisor.Results
import Switchboard.Proofs.Supervisor.Rounds

namespace Switchboard
namespace Supervisor

variable {ran : SessionId → Prop} {s s' : Supervisor} {gone gone' : Prop}

/-! ### Sessions that run -/

/-- Whether some session runs. -/
def Busy (s : Supervisor) : Prop := ∃ x ∈ s.sessions, x.isRunning = true

/-- A supervisor is busy if its roll has a session that runs. -/
theorem busy_iff : s.Busy ↔ ∃ id, (id, true) ∈ s.roll := by
  constructor
  · rintro ⟨x, hx, hrun⟩
    exact ⟨x.id, mem_roll_iff.2 ⟨x, hx, rfl, hrun⟩⟩
  · rintro ⟨id, hid⟩
    obtain ⟨x, hx, -, hrun⟩ := mem_roll_iff.1 hid
    exact ⟨x, hx, hrun⟩

/-- Being busy is a matter of the roll. -/
theorem busy_of_roll (h : s'.roll = s.roll) : s'.Busy ↔ s.Busy := by rw [busy_iff, busy_iff, h]

/-- Of the sessions that run, a session that is retired is not one any more. -/
theorem running_retire_iff (s : Supervisor) (x : Session) (reason : StopReason) (i : SessionId) :
    (i, true) ∈ (s.retire x reason).roll ↔ (i, true) ∈ s.roll ∧ i ≠ x.id := by
  obtain ⟨hid, hidle⟩ := x.stop_spec s.site
  have hroll : (s.retire x reason).roll = (s.putSession (x.stop s.site).1).roll := by
    unfold retire
    dsimp only
    split <;> rfl
  rw [hroll, mem_roll_iff, mem_roll_iff]
  simp only [putSession, List.mem_map]
  constructor
  · rintro ⟨_, ⟨y, hy, rfl⟩, hyid, hrun⟩
    split at hyid
    next heq =>
      rw [if_pos heq, Session.isRunning, hidle] at hrun
      exact absurd hrun (by simp)
    next hne =>
      rw [if_neg hne] at hrun
      refine ⟨⟨y, hy, hyid, hrun⟩, fun h => hne ?_⟩
      rw [beq_iff_eq, hid, hyid, h]
  · rintro ⟨⟨y, hy, hyid, hrun⟩, hne⟩
    have hother : ¬ (y.id == (x.stop s.site).1.id) = true := by
      rw [beq_iff_eq, hid, hyid]
      exact hne
    exact ⟨y, ⟨y, hy, if_neg hother⟩, hyid, hrun⟩

/-- **The sessions that run after a report** are those that ran before it, without the one whose
server it says has stopped. -/
theorem running_handleReport_iff (h : (s.sessions.map Session.id).Nodup) (e : ServerEvent)
    (i : SessionId) : (i, true) ∈ (s.handleReport e).2.roll ↔
      (i, true) ∈ s.roll ∧ ∀ reason, e ≠ .stopped i reason := by
  cases e with
  | diagnostics id path items =>
    have hroll : (s.handleReport (.diagnostics id path items)).2.roll = s.roll := by
      rw [handleReport]
      split <;> rfl
    rw [hroll]
    simp
  | stopped id reason =>
    -- A session that is not there, or does not run, is not among those that run anyway.
    have hother : ((id, true) ∉ s.roll) → ((i, true) ∈ s.roll ↔
        (i, true) ∈ s.roll ∧ ∀ r, ServerEvent.stopped id reason ≠ .stopped i r) := by
      refine fun hnot => ⟨fun hi => ⟨hi, fun r heq => ?_⟩, fun hi => hi.1⟩
      obtain ⟨rfl, -⟩ := ServerEvent.stopped.inj heq
      exact hnot hi
    rw [handleReport]
    split
    next hnone =>
      refine hother fun hmem => ?_
      obtain ⟨x, hx, rfl, -⟩ := mem_roll_iff.1 hmem
      have hfound := List.find?_eq_none.1 hnone x hx
      exact hfound (beq_self_eq_true x.id)
    next x hx =>
      obtain ⟨hmem, rfl⟩ := of_session? hx
      split
      · rw [running_retire_iff]
        refine and_congr_right fun _ => ?_
        constructor
        · rintro hne r heq
          exact hne (ServerEvent.stopped.inj heq).1.symm
        · rintro hne rfl
          exact hne reason rfl
      next hidle =>
        rw [Bool.not_eq_true] at hidle
        exact hother (not_mem_roll h (mem_roll_iff.2 ⟨x, hmem, rfl, hidle⟩))

/-! ### The status -/

/-- Whether the status tells if any session runs. -/
structure StatusRight (s : Supervisor) : Prop where
  ready_iff : s.statuses.getLast? = some (some .ready) ↔ ∃ x ∈ s.sessions, x.isRunning = true
  idle_iff : s.statuses.getLast? = some (some .idle) ↔ ∀ x ∈ s.sessions, x.isRunning = false

/-- A supervisor is not busy if none of its sessions runs. -/
theorem not_busy_iff : ¬ s.Busy ↔ ∀ x ∈ s.sessions, x.isRunning = false := by
  simp [Busy]

/-- The status is right if it says ready while busy and idle while not. -/
theorem statusRight_iff : s.StatusRight ↔
    s.Busy ∧ s.statuses.getLast? = some (some .ready) ∨
      ¬ s.Busy ∧ s.statuses.getLast? = some (some .idle) := by
  constructor
  · intro h
    by_cases hbusy : s.Busy
    · exact .inl ⟨hbusy, h.ready_iff.2 hbusy⟩
    · exact .inr ⟨hbusy, h.idle_iff.2 (not_busy_iff.1 hbusy)⟩
  · rintro (⟨hbusy, hlast⟩ | ⟨hbusy, hlast⟩)
    · refine ⟨⟨fun _ => hbusy, fun _ => hlast⟩, fun hidle => ?_, fun hnone => ?_⟩
      · exact absurd (hlast.symm.trans hidle) (by simp)
      · exact absurd hbusy (not_busy_iff.2 hnone)
    · refine ⟨⟨fun hready => ?_, fun h => absurd h hbusy⟩, fun _ => not_busy_iff.1 hbusy,
        fun _ => hlast⟩
      exact absurd (hlast.symm.trans hready) (by simp)

/-- What holds of the status of a supervisor, whether its last session is gone or not. -/
structure Shows (s : Supervisor) (gone : Prop) : Prop where
  running : gone → s.phase = .running
  right : s.phase = .running → ¬ gone → s.StatusRight
  wrong : gone → ¬ s.Busy ∧ s.statuses.getLast? = some (some .ready)

/-- What tells no status, with some session running before and after or with none. -/
structure Unmoved (s s' : Supervisor) : Prop extends Mute s s' where
  busy_iff : s'.Busy ↔ s.Busy

theorem Unmoved.refl (s : Supervisor) : Unmoved s s := ⟨.refl s, Iff.rfl⟩

/-- What keeps the roll and tells no status moves nothing. -/
theorem Keeps.unmoved {taken : List ServerEvent} (h : Keeps ran taken s s') (hs : Mute s s') :
    Unmoved s s' := ⟨hs, busy_of_roll h.roll_eq⟩

namespace Shows

/-- What the status shows is a matter of whether the last session is gone, however that is put. -/
theorem iff (h : Shows s gone) (hgone : gone' ↔ gone) : Shows s gone' := propext hgone ▸ h

/-- What moves nothing leaves the status as right or wrong as it was. -/
theorem unmoved (h : Shows s gone) (hs : Unmoved s s') : Shows s' gone := by
  have hbusy := hs.busy_iff
  refine ⟨fun hgone => hs.phase_eq.trans (h.running hgone), fun hrunning hgone => ?_,
    fun hgone => ?_⟩
  · rw [statusRight_iff, hbusy, hs.statuses_eq, ← statusRight_iff]
    exact h.right (hs.phase_eq ▸ hrunning) hgone
  · rw [hbusy, hs.statuses_eq]
    exact h.wrong hgone

end Shows

/-! ### Starting, stopping and restarting -/

/-- The status is right when a start has ended. -/
theorem shows_start (hphase : s.phase = .stopped) (hnone : s.sessions = []) :
    Shows s.start.2 False := by
  refine ⟨False.elim, fun _ _ => statusRight_iff.2 ?_, False.elim⟩
  have hpos := started_pos_iff hphase hnone
  rw [(start_told hphase).1, List.getLast?_append]
  by_cases hstarted : 0 < s.start.1.started
  · exact .inl ⟨hpos.1 hstarted, by rw [glyphAfter, if_pos hstarted]; rfl⟩
  · exact .inr ⟨fun hbusy => hstarted (hpos.2 hbusy), by rw [glyphAfter, if_neg hstarted]; rfl⟩

/-- While a supervisor is stopped no session is gone that the status still shows. -/
theorem shows_of_stopped (hphase : s.phase = .stopped) : Shows s False :=
  ⟨False.elim, fun hrunning => absurd (hphase.symm.trans hrunning) (by simp), False.elim⟩

/-- A restart shows the status anew. -/
theorem shows_restart (h : Sound ran [] s) (hsteady : s.Steady) : Shows s.restart.2 False := by
  unfold restart
  dsimp only
  generalize hs₁ : ({ s.log .info "Restarting extension..." with restarts := s.restarts + 1 } :
    Supervisor) = s₁
  have hsound : Sound ran [] s₁ := by
    rw [← hs₁]
    exact (h.of_same (same_log ..)).withRestarts _
  have hrest : s₁.phase = .stopped → s₁.AtRest := fun hphase => by
    have hatRest := hsteady.rest (by rw [← hphase, ← hs₁]; rfl)
    rw [← hs₁]
    exact ⟨hatRest.sessions_eq, hatRest.watch_eq, hatRest.documents_eq, hatRest.store_eq⟩
  obtain ⟨hphase, hstopped⟩ := stop_rests hrest
  have hreopened := keeps_reopenAll (sound_start (sound_stop hsound)) (s.documents.map Prod.fst)
  exact (shows_start hphase hstopped.sessions_eq).unmoved
    (hreopened.unmoved (unseen_foldl unseen_reopen _ _).untold.toMute)

/-! ### Moves -/

/-- Whether the status is shown anew in a move: it has a turn that tells a status. -/
def Reshows (s : Supervisor) (m : Move) : Prop := ∃ t ∈ s.turnsOf (.moved m), t.statuses ≠ []

/-- Whether the report is handled in a move that the server of the only session that runs has
stopped. -/
def LosesLast (s : Supervisor) (m : Move) : Prop :=
  m = .report ∧ ∃ id reason, s.site.events.head? = some (.stopped id reason) ∧
    (id, true) ∈ s.roll ∧ ∀ i, (i, true) ∈ s.roll → i = id

/-- Whether the last session is gone after a move. -/
def GoneAfter (s : Supervisor) (m : Move) (gone : Prop) : Prop :=
  gone ∧ ¬ s.Reshows m ∨ s.LosesLast m

/-- A move in which no turn is taken leaves the last session as gone or present as it was. -/
theorem goneAfter_iff {m : Move} (hm : m ≠ .report) (hturns : s.turnsOf (.moved m) = []) :
    s.GoneAfter m gone ↔ gone := by
  simp [GoneAfter, Reshows, LosesLast, hturns, hm]

/-- After a turn that tells a status no session is gone that it still shows. -/
theorem not_goneAfter {m : Move} (hm : m ≠ .report) {t : Turn} (ht : t ∈ s.turnsOf (.moved m))
    (hstatuses : t.statuses ≠ []) : s.GoneAfter m gone ↔ False := by
  have hreshows : s.Reshows m := ⟨t, ht, hstatuses⟩
  simp [GoneAfter, LosesLast, hreshows, hm]

/-- The start of a restart always takes effect. -/
theorem exists_turn_restart (s : Supervisor) :
    ∃ t ∈ s.turnsOfRestart, t.statuses ≠ [] := by
  refine ⟨_, List.mem_cons_of_mem _ (List.mem_cons_self ..), ?_⟩
  have hphase : ∀ s₁ : Supervisor, s₁.stop.phase = .stopped := fun s₁ => by
    by_cases hstopped : s₁.phase = .stopped
    · rwa [stop_of_stopped hstopped]
    · exact (stop_rests fun h => absurd h hstopped).1
  rw [Turn.statuses, if_pos (hphase _)]
  simp

/-- A report after which no session runs any more is the end of the last that ran. -/
theorem losesLast_report_iff (hs : Sound ran [] s) {e : ServerEvent} {s₁ : Supervisor}
    (hnext : s.nextReport? = some (e, s₁)) :
    s.LosesLast .report ↔ s.Busy ∧ ¬ (s₁.handleReport e).2.Busy := by
  obtain ⟨hsound, -, hroll, hhead⟩ := keeps_nextReport? hs hnext
  have hafter := running_handleReport_iff hsound.heard.nodup e
  rw [hroll] at hafter
  rw [LosesLast, hhead, busy_iff, busy_iff]
  constructor
  · rintro ⟨-, id, reason, he, hid, honly⟩
    refine ⟨⟨id, hid⟩, fun ⟨i, hi⟩ => ?_⟩
    obtain ⟨hi, hother⟩ := (hafter i).1 hi
    exact hother reason (honly i hi ▸ Option.some.inj he)
  · rintro ⟨⟨id, hid⟩, hnone⟩
    have hstops : ∀ i, (i, true) ∈ s.roll → ∃ reason, e = .stopped i reason := by
      intro i hi
      by_contra hother
      exact hnone ⟨i, (hafter i).2 ⟨hi, not_exists.1 hother⟩⟩
    obtain ⟨reason, rfl⟩ := hstops id hid
    refine ⟨rfl, id, reason, rfl, hid, fun i hi => ?_⟩
    obtain ⟨_, heq⟩ := hstops i hi
    exact (ServerEvent.stopped.inj heq).1.symm

/-- A supervisor that runs a session after a report has run one before it. -/
theorem Busy.of_handleReport (hs : Sound ran [] s) {e : ServerEvent} {s₁ : Supervisor}
    (hnext : s.nextReport? = some (e, s₁)) (h : (s₁.handleReport e).2.Busy) : s.Busy := by
  obtain ⟨hsound, -, hroll, -⟩ := keeps_nextReport? hs hnext
  obtain ⟨i, hi⟩ := busy_iff.1 h
  exact busy_iff.2 ⟨i, hroll ▸ ((running_handleReport_iff hsound.heard.nodup e i).1 hi).1⟩

/-- A report either leaves it at that, or is the end of the last session. -/
theorem shows_poll (hs : Sound ran [] s) (hsteady : s.Steady) (h : Shows s gone) :
    Shows (s.poll 1).2 (s.GoneAfter .report gone) := by
  have hreshows : ¬ s.Reshows .report := by simp [Reshows, turnsOf]
  unfold poll
  split
  next hnext =>
    have hevents := events_of_nextReport?_eq_none hnext
    exact h.iff (by simp [GoneAfter, hreshows, LosesLast, hevents])
  next e s₁ hnext =>
    have hmute := (unseen_nextReport? hnext).untold.toMute.trans (silent_handleReport s₁ e).mute
    have hloses := losesLast_report_iff hs hnext
    change Shows (s₁.handleReport e).2 (s.GoneAfter .report gone)
    by_cases hlost : s.LosesLast .report
    · obtain ⟨hbusy, hidle⟩ := hloses.1 hlost
      have hrunning : s.phase = .running := by
        refine hsteady.phase.resolve_left fun hstopped => ?_
        obtain ⟨x, hx, -⟩ := hbusy
        exact absurd hx (hs.idle hstopped ▸ List.not_mem_nil)
      have hlast := (h.right hrunning fun hgone => (h.wrong hgone).1 hbusy).ready_iff.2 hbusy
      exact ⟨fun _ => hmute.phase_eq.trans hrunning, fun _ hgone => absurd (.inr hlost) hgone,
        fun _ => ⟨hidle, hmute.statuses_eq ▸ hlast⟩⟩
    · have hstays : (s₁.handleReport e).2.Busy ↔ s.Busy :=
        ⟨.of_handleReport hs hnext,
          fun hbusy => by_contra fun hidle => hlost (hloses.2 ⟨hbusy, hidle⟩)⟩
      exact (h.unmoved ⟨hmute, hstays⟩).iff (by simp [GoneAfter, hreshows, hlost])

/-- What a command does to the status is what a restart does, if it is one. -/
theorem shows_perform (hs : Sound ran [] s) (hsteady : s.Steady) (h : Shows s gone)
    (active : Option Path) (c : Command) (hgone : c ≠ .restart → (gone' ↔ gone))
    (hrestart : c = .restart → ¬ gone') : Shows (s.perform active c) gone' := by
  by_cases hc : c = .restart
  · subst hc
    exact (shows_restart hs hsteady).iff (iff_false_intro (hrestart rfl))
  · have hmute := (untold_perform s active hc).toMute
    refine (h.unmoved ⟨hmute, ?_⟩).iff (hgone hc)
    cases c with
    | restart => exact absurd rfl hc
    | showOutput => exact Iff.rfl
    | autofix => exact busy_of_roll (keeps_autofix hs active).roll_eq
    | showCommands => exact Iff.rfl

/-- Being asked for a command keeps a supervisor sound and steady. -/
theorem asked_sound (hs : Sound ran [] s) (hsteady : s.Steady) (c : Command) :
    Sound ran [] (s.asked c) ∧ (s.asked c).Steady := by
  unfold asked
  split
  · exact ⟨hs.of_same (same_tell ..), hsteady.still (still_tell ..)⟩
  · exact ⟨hs, hsteady⟩

/-- Being asked for a command leaves the status as right or wrong as it was. -/
theorem shows_asked (h : Shows s gone) (c : Command) : Shows (s.asked c) gone := by
  refine h.unmoved ⟨(untold_asked s c).toMute, ?_⟩
  unfold asked
  split <;> exact Iff.rfl

/-- A start shows the status anew, unless it has no effect. -/
theorem shows_after_start (hs : Sound ran [] s) (h : Shows s gone) :
    Shows (s.after .start) (s.GoneAfter .start gone) := by
  by_cases hphase : s.phase = .stopped
  · refine (shows_start hphase (hs.idle hphase)).iff (not_goneAfter (by simp)
      (List.mem_singleton_self _) ?_)
    rw [Turn.statuses, if_pos hphase]
    simp
  · have hsame : s.after .start = s := by rw [after, start_of_not_stopped hphase]
    rw [hsame]
    refine h.iff ?_
    have hreshows : ¬ s.Reshows .start := by
      rintro ⟨t, ht, hstatuses⟩
      obtain rfl := List.mem_singleton.1 ht
      exact hstatuses (if_neg hphase)
    simp [GoneAfter, hreshows, LosesLast]

/-- After a stop there is no status that could be wrong. -/
theorem shows_after_stop (hsteady : s.Steady) (h : Shows s gone) :
    Shows (s.after .stop) (s.GoneAfter .stop gone) := by
  refine (shows_of_stopped (stop_rests hsteady.rest).1).iff ?_
  by_cases hphase : s.phase = .stopped
  · have hgone : ¬ gone := fun hgone =>
      absurd (hphase.symm.trans (h.running hgone)) (by simp)
    simp [GoneAfter, LosesLast, hgone]
  · refine not_goneAfter (by simp) (List.mem_singleton_self _) ?_
    rw [Turn.statuses, if_neg hphase]
    simp

/-- A command leaves the status to what it shows anew itself. -/
theorem shows_after_command (hs : Sound ran [] s) (hsteady : s.Steady) (h : Shows s gone)
    (active : Option Path) (picked : Option Command) (c : Command) :
    Shows (s.after (.command active picked c)) (s.GoneAfter (.command active picked c) gone) := by
  have hasked := shows_asked h c
  obtain ⟨hsound, hsteady⟩ := asked_sound hs hsteady c
  change Shows (s.execute active picked c) _
  rw [execute_eq]
  have hturns : s.turnsOf (.moved (.command active picked c)) =
    (s.asked c).turnsOfPicked (chosen? picked c) := rfl
  generalize chosen? picked c = chosen at hturns ⊢
  cases chosen with
  | none => exact hasked.iff (goneAfter_iff (by simp) hturns)
  | some c' =>
    refine shows_perform hsound hsteady hasked active c' (fun hc => ?_) (fun hc => ?_)
    · refine goneAfter_iff (by simp) (hturns.trans ?_)
      cases c' with
      | restart => exact absurd rfl hc
      | _ => rfl
    · subst hc
      obtain ⟨t, ht, hstatuses⟩ := (s.asked c).exists_turn_restart
      exact (not_goneAfter (by simp) (hturns ▸ ht) hstatuses).1

/-- **What a move does to the status**: it is shown anew, the last session goes without a word,
or nothing happens to it. -/
theorem shows_after (hs : Sound ran [] s) (hsteady : s.Steady) (h : Shows s gone) (m : Move) :
    Shows (s.after m) (s.GoneAfter m gone) := by
  have quiet : ∀ {s'}, m ≠ .report → s.turnsOf (.moved m) = [] → Keeps ran [] s s' →
      s.Untold s' → Shows s' (s.GoneAfter m gone) := fun hm hturns hkeeps huntold =>
    (h.unmoved (hkeeps.unmoved huntold.toMute)).iff (goneAfter_iff hm hturns)
  cases m with
  | start => exact shows_after_start hs h
  | stop => exact shows_after_stop hsteady h
  | restart =>
    obtain ⟨t, ht, hstatuses⟩ := s.exists_turn_restart
    exact (shows_restart hs hsteady).iff (not_goneAfter (by simp) ht hstatuses)
  | command active picked c => exact shows_after_command hs hsteady h active picked c
  | report => exact shows_poll hs hsteady h
  | opened path text =>
    exact quiet (by simp) rfl (keeps_openDocument hs path text)
      (unseen_openDocument s path text).untold
  | changed path text =>
    exact quiet (by simp) rfl (keeps_changeDocument hs path text)
      (unseen_changeDocument s path text).untold
  | closed path =>
    exact quiet (by simp) rfl (keeps_closeDocument hs path) (unseen_closeDocument s path).untold
  | fixed path =>
    exact quiet (by simp) rfl (keeps_fixAllActions hs path) (unseen_fixAllActions s path).untold
  | folders paths =>
    have hunmoved : Unmoved s (s.after (.folders paths)) := ⟨⟨rfl, rfl⟩, Iff.rfl⟩
    exact (h.unmoved hunmoved).iff (goneAfter_iff (by simp) rfl)
  | settle => exact quiet (by simp) rfl (keeps_settle hs) (unseen_settle s).untold
  | read id frames =>
    exact quiet (by simp) rfl (keeps_withClientOf hs id fun c site => leads_readSome c site frames)
      (untold_withClientOf s id fun c site => readSome c site frames)
  | act id reaction =>
    exact quiet (by simp) rfl (keeps_withClientOf hs id fun c site => leads_acted c site reaction)
      (untold_withClientOf s id fun c site => (acted c reaction, site))
  | world disk now =>
    have hunmoved : Unmoved s (s.after (.world disk now)) := ⟨⟨rfl, rfl⟩, Iff.rfl⟩
    exact (h.unmoved hunmoved).iff (goneAfter_iff (by simp) rfl)

/-! ### Runs -/

/-- Whether the last session has gone in a run, and the status has not been shown anew since. -/
def Forsaken (s : Supervisor) (moves : List Move) : Prop :=
  History.Since (fun front m => (s.run front).LosesLast m) (fun front m => (s.run front).Reshows m)
    moves

/-- Over a whole run the status is wrong exactly while the last session is gone and nothing has
shown it anew. -/
theorem shows_run (hs : s.Fresh) (hsteady : s.Steady) (hphase : s.phase = .stopped)
    (moves : List Move) : Shows (s.run moves) (s.Forsaken moves) := by
  induction moves using List.reverseRecOn with
  | nil => exact (shows_of_stopped hphase).iff (iff_false_intro History.not_since_nil)
  | append_singleton moves m ih =>
    rw [run_append]
    exact (shows_after (sound_run hs moves) (hsteady.run moves) ih m).iff History.since_concat_iff

/-- **The status of a supervisor that runs is right, until the last of its sessions has gone**:
in every run it is ready when some session runs and idle when none does, exactly as long as the
report has not been handled that the server of the only running session has stopped, or the
status has been shown anew since.  From that report on, the status is ready while no session
runs. -/
theorem statusRight_run_iff (settings : Settings) (folders : List Path) (logDir : Option Path)
    (processId : Nat) (d : Disk) :
    ∃ s, make settings folders logDir processId (.ofDisk d) = .ok s ∧
      ∀ moves : List Move, (s.run moves).phase = .running →
        ((s.run moves).StatusRight ↔ ¬ s.Forsaken moves) ∧
        (s.Forsaken moves → (s.run moves).statuses.getLast? = some (some .ready) ∧
          ∀ x ∈ (s.run moves).sessions, x.isRunning = false) := by
  obtain ⟨s, hmake, hs⟩ := exists_make settings folders logDir processId d
  have hphase : s.phase = .stopped := by
    obtain rfl := Except.ok.inj hmake
    rfl
  refine ⟨s, hmake, fun moves hrunning => ?_⟩
  have hshows := shows_run hs (steady_of_make hmake) hphase moves
  have hwrong : s.Forsaken moves → (s.run moves).statuses.getLast? = some (some .ready) ∧
      ∀ x ∈ (s.run moves).sessions, x.isRunning = false := fun hgone =>
    ⟨(hshows.wrong hgone).2, not_busy_iff.1 (hshows.wrong hgone).1⟩
  refine ⟨⟨fun hright hgone => ?_, hshows.right hrunning⟩, hwrong⟩
  exact (hshows.wrong hgone).1 (hright.ready_iff.1 (hshows.wrong hgone).2)

/-! ### A server that crashes -/

/-- A server that exits when a document is opened. -/
def fragileServer : Behaviour :=
  (Script.mk "2.0.0" [("textDocument/didOpen", [.exit])] [] false).behaviour

/-- **The status stays ready when the last server has crashed**: the report of that is handled,
and no session runs any more. -/
theorem status_ready_after_crash :
    ∃ s, make .default [Path.ofText "/w"] none 7 (.ofDisk (diskWith fragileServer [])) = .ok s ∧
      ∃ moves : List Move, moves = [.start, .opened (Path.ofText "/w/a.ts") "let a;\n", .settle,
          .report] ∧
        (s.run moves).phase = .running ∧ (s.run moves).roll = [(1, false)] ∧
        (s.run moves).statuses = [some .loading, some .ready] ∧ ¬ (s.run moves).StatusRight := by
  have hmake : make .default [Path.ofText "/w"] none 7 (.ofDisk (diskWith fragileServer [])) =
    .ok _ := rfl
  refine ⟨_, hmake, _, rfl, ?_⟩
  have hend : ∀ t : Supervisor, t.roll = [(1, false)] → t.statuses = [some .loading, some .ready] →
      ¬ t.StatusRight := by
    intro t hroll hstatuses hright
    have hbusy := hright.ready_iff.1 (by rw [hstatuses]; rfl)
    obtain ⟨id, hid⟩ := busy_iff.1 hbusy
    rw [hroll] at hid
    exact absurd hid (by simp)
  exact ⟨by decide +kernel, by decide +kernel, by decide +kernel,
    hend _ (by decide +kernel) (by decide +kernel)⟩

end Supervisor
end Switchboard
