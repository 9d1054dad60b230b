/-
# Who has said what is shown

What is shown about a file has been said by a session that is in the list and
runs, in every state of every run in which no diagnostics are handled of a
session that is in the list and does not run (`ownersRun_run_iff`).  Such a
session has never run: its server has published diagnostics and then refused to
be started.  What it has said is shown, and no report takes it away
(`failed_start_owns_file`).
-/

import Switchboard.Proofs.Diagnostic.Standing
import Switchboard.Proofs.Supervisor.Run
import Switchboard.Server.Script

namespace Switchboard

namespace Store

variable {f : Finding} {path : Path} {owner : SessionId} {items : List Diagnostic}
  {findings : List Finding}

/-- What is put under a path and an owner is there afterwards. -/
theorem exists_mem_put (path : Path) (owner : SessionId) (items : List Diagnostic)
    (findings : List Finding) : ∃ f ∈ put path owner items findings, f.owner = owner := by
  induction findings with
  | nil => exact ⟨_, List.mem_singleton_self _, rfl⟩
  | cons g rest ih =>
    unfold put
    split
    · exact ⟨_, List.mem_cons_self .., rfl⟩
    · obtain ⟨f, hf, howner⟩ := ih
      exact ⟨f, List.mem_cons_of_mem _ hf, howner⟩

/-- What is said after an update was said before or by the session that speaks. -/
theorem mem_update {s : Store} (h : f ∈ (s.update owner path items).findings) :
    f ∈ s.findings ∨ (f.owner = owner ∧ items ≠ []) := by
  unfold update at h
  split at h
  · exact .inl (List.mem_of_mem_filter h)
  next hitems =>
    refine (mem_put h).imp_right fun ⟨howner, _⟩ => ⟨howner, fun hnil => hitems ?_⟩
    rw [hnil]
    rfl

end Store

namespace Supervisor

variable {ran : SessionId → Prop} {taken : List ServerEvent} {s s' : Supervisor}

/-- Whether every file is owned by a session in the list that runs. -/
def OwnersRun (s : Supervisor) : Prop :=
  ∀ f ∈ s.store.findings, ∃ x ∈ s.sessions, x.id = f.owner ∧ x.isRunning = true

instance (s : Supervisor) : Decidable s.OwnersRun :=
  inferInstanceAs (Decidable (∀ f ∈ _, ∃ x ∈ _, _))

/-- Whether a move handles diagnostics of a session that is in the list and does not run. -/
def Stray (s : Supervisor) (m : Move) (id : SessionId) : Prop :=
  m = .report ∧
    (∃ path items, s.site.events.head? = some (.diagnostics id path items) ∧ items ≠ []) ∧
    ∃ x ∈ s.sessions, x.id = id ∧ x.isRunning = false

/-- Every owner runs if each finding's owner stands on the roll as started. -/
theorem ownersRun_iff : s.OwnersRun ↔ ∀ f ∈ s.store.findings, (f.owner, true) ∈ s.roll := by
  simp only [OwnersRun, mem_roll_iff]

/-- That every owner runs is a matter of the store and the roll. -/
theorem OwnersRun.congr (h : s.OwnersRun) (hstore : s'.store = s.store) (hroll : s'.roll = s.roll) :
    s'.OwnersRun := by
  rw [ownersRun_iff] at h ⊢
  rwa [hstore, hroll]

/-- What keeps the roll and the store keeps every owner running. -/
theorem OwnersRun.of_keeps (h : s.OwnersRun) (hs : Keeps ran taken s s') : s'.OwnersRun :=
  h.congr hs.store_eq hs.roll_eq

/-- What changes neither the store nor the sessions keeps every owner running. -/
theorem OwnersRun.of_same (h : s.OwnersRun) (hs : Same s s') : s'.OwnersRun :=
  h.congr hs.store_eq (by rw [roll, roll, hs.sessions_eq])

/-! ### Moves that handle no report -/

/-- Without sessions nothing is said about files. -/
theorem OwnersRun.findings_eq_nil (h : s.OwnersRun) (hnone : s.sessions = []) :
    s.store.findings = [] := by
  refine List.eq_nil_iff_forall_not_mem.2 fun f hf => ?_
  obtain ⟨x, hx, -⟩ := h f hf
  exact absurd hx (hnone ▸ List.not_mem_nil)

/-- After a start every owner runs. -/
theorem ownersRun_start (h : Sound ran [] s) (ho : s.OwnersRun) : s.start.2.OwnersRun := by
  by_cases hphase : s.phase = .stopped
  · have hnone := ho.findings_eq_nil (h.idle hphase)
    have hstore := (launched_start hphase (h.idle hphase) h.heard).1.store_eq
    intro f hf
    rw [hstore, hnone] at hf
    exact absurd hf List.not_mem_nil
  · rw [start, if_neg hphase]
    exact ho

/-- After a stop every owner runs, there being none. -/
theorem ownersRun_stop (ho : s.OwnersRun) : s.stop.OwnersRun := by
  unfold stop
  split
  · exact ho
  · exact fun f hf => absurd hf List.not_mem_nil

/-- How often there has been a restart does not matter to it. -/
theorem OwnersRun.withRestarts (h : s.OwnersRun) (n : Nat) :
    OwnersRun { s with restarts := n } := h

/-- After a restart every owner runs. -/
theorem ownersRun_restart (h : Sound ran [] s) (ho : s.OwnersRun) : s.restart.2.OwnersRun := by
  unfold restart
  dsimp only
  have hlog := same_log s .info "Restarting extension..."
  have hlogged := (h.of_same hlog).withRestarts (s.restarts + 1)
  have hstopped := sound_stop hlogged
  have hshown := (ho.of_same hlog).withRestarts (s.restarts + 1)
  exact (ownersRun_start hstopped (ownersRun_stop hshown)).of_keeps
    (keeps_reopenAll (sound_start hstopped) _)

/-- No command leaves an owner that does not run. -/
theorem ownersRun_perform (h : Sound ran [] s) (ho : s.OwnersRun) (active : Option Path)
    (c : Command) : (s.perform active c).OwnersRun := by
  cases c with
  | restart => exact ownersRun_restart h ho
  | showOutput => exact ho.of_same (same_tell ..)
  | autofix => exact ho.of_keeps (keeps_autofix h active)
  | showCommands => exact ho

/-! ### Reports -/

/-- A session on the roll is found in the list. -/
theorem isSome_session? {id : SessionId} {b : Bool} (h : (id, b) ∈ s.roll) :
    (s.session? id).isSome = true := by
  obtain ⟨x, hx, rfl, -⟩ := mem_roll_iff.1 h
  exact List.find?_isSome.2 ⟨x, hx, by simp⟩

/-- Diagnostics of a session that runs, or that is not in the list, leave the
files to sessions that run; and so does the end of a server. -/
theorem ownersRun_report (h : Sound ran [] s) (ho : s.OwnersRun)
    (hstray : ∀ id, ¬ s.Stray .report id) : (s.after .report).OwnersRun := by
  change (s.poll 1).2.OwnersRun
  unfold poll
  split
  · exact ho
  next e s₁ hnext =>
    obtain ⟨hs₁, hstore, hroll, hhead⟩ := keeps_nextReport? h hnext
    have ho₁ := ho.congr hstore hroll
    change (s₁.handleReport e).2.OwnersRun
    unfold handleReport
    split
    next id path items =>
      split
      next hid =>
        intro f hf
        rcases Store.mem_update hf with hf | ⟨howner, hitems⟩
        · exact ho₁ f hf
        · obtain ⟨x, hx⟩ := Option.isSome_iff_exists.1 hid
          obtain ⟨hmem, hxid⟩ := of_session? hx
          refine ⟨x, hmem, hxid.trans howner.symm, ?_⟩
          -- If the session did not run, handling its diagnostics would be stray.
          by_contra hrun
          rw [Bool.not_eq_true] at hrun
          have hentry : (id, false) ∈ s.roll := hroll ▸ mem_roll_iff.2 ⟨x, hmem, hxid, hrun⟩
          exact hstray id ⟨rfl, ⟨path, items, hhead, hitems⟩, mem_roll_iff.1 hentry⟩
      · exact ho₁
    · split
      · exact ho₁
      next x hx =>
        obtain ⟨hmem, rfl⟩ := of_session? hx
        split
        · obtain ⟨-, hretired, hothers⟩ := sound_retire hs₁ hmem
          rw [ownersRun_iff] at ho₁ ⊢
          intro f hf
          rw [hretired] at hf
          obtain ⟨hf, howner⟩ := List.mem_filter.1 hf
          exact hothers f.owner true (by simpa using howner) (ho₁ f hf)
        · exact ho₁

/-- Stray diagnostics are shown, though their session does not run. -/
theorem not_ownersRun_of_stray (h : Sound ran [] s) {m : Move} {id : SessionId}
    (hstray : s.Stray m id) : ¬ (s.after m).OwnersRun := by
  obtain ⟨rfl, ⟨path, items, hhead, hitems⟩, hx⟩ := hstray
  have hentry : (id, false) ∈ s.roll := mem_roll_iff.2 hx
  change ¬ (s.poll 1).2.OwnersRun
  unfold poll
  cases hnext : s.nextReport? with
  | none => exact absurd hhead (by simp [events_of_nextReport?_eq_none hnext])
  | some entry =>
    obtain ⟨e, s₁⟩ := entry
    obtain ⟨hs₁, -, hroll, hhead'⟩ := keeps_nextReport? h hnext
    obtain rfl := Option.some.inj (hhead'.symm.trans hhead)
    have hentry₁ : (id, false) ∈ s₁.roll := hroll ▸ hentry
    change ¬ (s₁.handleReport (.diagnostics id path items)).2.OwnersRun
    unfold handleReport
    dsimp only
    rw [if_pos (isSome_session? hentry₁), ownersRun_iff]
    intro ho
    have hempty : items.isEmpty = false := by simpa using hitems
    obtain ⟨f, hf, howner⟩ := Store.exists_mem_put path id items s₁.store.findings
    have hrun := ho f (by simp only [Store.update, hempty]; exact hf)
    rw [howner] at hrun
    exact not_mem_roll hs₁.heard.nodup hrun hentry₁

/-- The session of stray diagnostics has not been running so far. -/
theorem not_ran_of_stray (h : Sound ran [] s) {m : Move} {id : SessionId} (hstray : s.Stray m id) :
    ¬ ran id := by
  obtain ⟨-, ⟨path, items, hhead, -⟩, x, hx, rfl, hrun⟩ := hstray
  exact fun hran => h.quiet x hx hrun hran _ (List.mem_of_mem_head? hhead) rfl

/-- A move that is not stray leaves the files to sessions that run. -/
theorem ownersRun_after (h : Sound ran [] s) (ho : s.OwnersRun) {m : Move}
    (hstray : ∀ id, ¬ s.Stray m id) : (s.after m).OwnersRun := by
  cases m with
  | start => exact ownersRun_start h ho
  | stop => exact ownersRun_stop ho
  | restart => exact ownersRun_restart h ho
  | opened path text => exact ho.of_keeps (keeps_openDocument h path text)
  | changed path text => exact ho.of_keeps (keeps_changeDocument h path text)
  | closed path => exact ho.of_keeps (keeps_closeDocument h path)
  | fixed path => exact ho.of_keeps (keeps_fixAllActions h path)
  | command active picked c =>
    have hpalette := same_tell s (.palette Command.palette)
    exact execute_cases (ho.of_same hpalette)
      (ownersRun_perform (h.of_same hpalette) (ho.of_same hpalette) active)
      (ownersRun_perform h ho active)
  | folders paths => exact ho
  | report => exact ownersRun_report h ho hstray
  | settle => exact ho.of_keeps (keeps_settle h)
  | read id frames =>
    exact ho.of_keeps (keeps_withClientOf h id fun c site => leads_readSome c site frames)
  | act id reaction =>
    exact ho.of_keeps (keeps_withClientOf h id fun c site => leads_acted c site reaction)
  | world disk now => exact ho

/-- **What is shown has been said by a session that runs, exactly as long as no
stray diagnostics are handled**, in every run of a supervisor that is made where
nothing has happened; and stray diagnostics come only from a session that has
never been running. -/
theorem ownersRun_run_iff (settings : Settings) (folders : List Path) (logDir : Option Path)
    (processId : Nat) (d : Disk) :
    ∃ s, make settings folders logDir processId (.ofDisk d) = .ok s ∧ ∀ moves : List Move,
      ((∀ front, front <+: moves → (s.run front).OwnersRun) ↔
        ∀ front m, front ++ [m] <+: moves → ∀ id, ¬ (s.run front).Stray m id) ∧
      ∀ front m id, front ++ [m] <+: moves → (s.run front).Stray m id →
        ∀ earlier, earlier <+: front →
          ∀ x ∈ (s.run earlier).sessions, x.id = id → x.isRunning = false := by
  obtain ⟨s, hmake, hs⟩ := exists_make settings folders logDir processId d
  refine ⟨s, hmake, fun moves => ⟨⟨fun ho front m hfront id hstray => ?_, fun hstray front => ?_⟩,
    fun front m id _ hstray earlier hearlier x hx hid => ?_⟩⟩
  · refine not_ownersRun_of_stray (sound_run hs front) hstray ?_
    have hafter := ho _ hfront
    rwa [run_append] at hafter
  · induction front using List.reverseRecOn with
    | nil =>
      intro _ f hf
      change f ∈ s.store.findings at hf
      rw [hs.store_eq] at hf
      exact absurd hf List.not_mem_nil
    | append_singleton front m ih =>
      intro hfront
      rw [run_append]
      exact ownersRun_after (sound_run hs front) (ih ((List.prefix_append ..).trans hfront))
        (hstray front m hfront)
  · by_contra hrun
    rw [Bool.not_eq_false] at hrun
    exact not_ran_of_stray (sound_run hs front) hstray
      ⟨earlier, hearlier, mem_roll_iff.2 ⟨x, hx, hid, hrun⟩⟩

/-! ### A start that fails -/

/-- Diagnostics for a file of a project. -/
def earlyDiagnostics : Json :=
  let place (column : Int) : Json := Json.ofMembers [("line", .int 0), ("character", .int column)]
  Message.notification "textDocument/publishDiagnostics" (some (Json.ofMembers [
    ("uri", .str "file:///w/a.ts"),
    ("diagnostics", .arr [Json.ofMembers [
      ("range", Json.ofMembers [("start", place 0), ("end", place 1)]),
      ("severity", .int 1), ("message", .str "early")]])]))

/-- A server that publishes diagnostics and then refuses to be started. -/
def refusingServer : Behaviour :=
  (Script.mk "2.0.0" [("initialize", [.send earlyDiagnostics,
    .error (Json.ofMembers [("code", .int (-32603)), ("message", .str "not today")])])]
    [] false).behaviour

/-- **A start that fails can leave a file to its session**: the session is in the
list, does not run, and owns what is shown when every report has been handled. -/
theorem failed_start_owns_file :
    ∃ s, make .default [Path.ofText "/w"] none 7 (.ofDisk (diskWith refusingServer [])) = .ok s ∧
      (s.run [.start, .report, .report]).site.events.isEmpty = true ∧
      (s.run [.start, .report, .report]).roll = [(1, false)] ∧
      (s.run [.start, .report, .report]).store.findings.map (fun f => (f.path, f.owner)) =
        [(Path.ofText "/w/a.ts", 1)] ∧
      ¬ (s.run [.start, .report, .report]).OwnersRun :=
  ⟨_, rfl, by decide +kernel⟩

end Supervisor
end Switchboard
