/-
# What the host is told

Of all calls to the host two kinds matter to what it shows: statuses, and snapshots
of the diagnostics.  A start and a stop tell statuses, a stop and the control loop
tell snapshots.  Nothing else tells either: most of what a supervisor does is
`Untold`, and what changes the diagnostics is at least `Mute`.
-/

import Switchboard.Proofs.Supervisor.Rest
import Switchboard.Supervisor.Loop

namespace Switchboard

namespace HostCall

/-- The status that the host is told. -/
def status? : HostCall → Option (Option Glyph)
  | .status glyph => some glyph
  | _ => none

/-- The diagnostics that the host is told. -/
def snapshot? : HostCall → Option Snapshot
  | .diagnostics snapshot => some snapshot
  | _ => none

end HostCall

namespace Supervisor

variable {s s' s'' : Supervisor}

/-- All statuses that the host has been told, in order. -/
def statuses (s : Supervisor) : List (Option Glyph) := s.calls.filterMap HostCall.status?

/-- The diagnostics that the host has been told last, or none if it has been told nothing. -/
def shown (s : Supervisor) : Snapshot :=
  (s.calls.filterMap HostCall.snapshot?).getLast?.getD Store.empty.snapshot

/-! ### Calls -/

/-- A call tells the host its status, if it has one. -/
theorem statuses_tell (s : Supervisor) (call : HostCall) :
    (s.tell call).statuses = s.statuses ++ call.status?.toList := by
  rw [statuses, tell, List.filterMap_append]
  cases call with
  | _ => rfl

/-- Diagnostics that are told are what is shown. -/
theorem shown_tell_diagnostics (s : Supervisor) (snapshot : Snapshot) :
    (s.tell (.diagnostics snapshot)).shown = snapshot := by
  rw [shown, tell, List.filterMap_append]
  simp [HostCall.snapshot?]

/-- Any other call leaves what is shown. -/
theorem shown_tell {call : HostCall} (h : call.snapshot? = none) (s : Supervisor) :
    (s.tell call).shown = s.shown := by
  rw [shown, tell, List.filterMap_append, List.filterMap_cons_none h, List.filterMap_nil,
    List.append_nil, shown]

/-! ### What is not told -/

/-- Two supervisors in one place of their lives, with no status told between them. -/
structure Mute (s s' : Supervisor) : Prop where
  phase_eq : s'.phase = s.phase
  statuses_eq : s'.statuses = s.statuses

theorem Mute.refl (s : Supervisor) : Mute s s := ⟨rfl, rfl⟩

theorem Mute.trans (h₁ : Mute s s') (h₂ : Mute s' s'') : Mute s s'' :=
  ⟨h₂.phase_eq.trans h₁.phase_eq, h₂.statuses_eq.trans h₁.statuses_eq⟩

/-- Two such supervisors that also say the same about files, with no diagnostics told between
them either. -/
structure Untold (s s' : Supervisor) : Prop extends Mute s s' where
  store_eq : s'.store = s.store
  shown_eq : s'.shown = s.shown

theorem Untold.refl (s : Supervisor) : Untold s s := ⟨.refl s, rfl, rfl⟩

theorem Untold.trans (h₁ : Untold s s') (h₂ : Untold s' s'') : Untold s s'' :=
  ⟨h₁.toMute.trans h₂.toMute, h₂.store_eq.trans h₁.store_eq, h₂.shown_eq.trans h₁.shown_eq⟩

/-- A row of such steps is one. -/
theorem untold_foldl {α : Type} {f : Supervisor → α → Supervisor} (hf : ∀ s a, Untold s (f s a))
    (s : Supervisor) (as : List α) : Untold s (as.foldl f s) :=
  rel_foldl .refl .trans hf s as

/-- Whoever makes no call tells no status. -/
theorem Silent.mute (h : Silent s s') : Mute s s' :=
  ⟨h.phase_eq, by rw [statuses, h.calls_eq, statuses]⟩

/-- What is not seen is not told. -/
theorem Unseen.untold (h : Unseen s s') : Untold s s' :=
  ⟨h.toSilent.mute, h.store_eq, by rw [shown, h.calls_eq, shown]⟩

/-- The host may be told what is neither a status nor diagnostics. -/
theorem untold_tell {call : HostCall} (hstatus : call.status? = none)
    (hsnapshot : call.snapshot? = none) (s : Supervisor) : Untold s (s.tell call) := by
  refine ⟨⟨rfl, ?_⟩, rfl, shown_tell hsnapshot s⟩
  rw [statuses_tell, hstatus]
  exact List.append_nil _

/-- A palette that opens is told of by itself, with no status and no diagnostics. -/
theorem untold_openPalette (s : Supervisor) : Untold s s.openPalette := untold_tell rfl rfl s

/-- Asking for a command opens the palette at most. -/
theorem untold_asked (s : Supervisor) (c : Command) : Untold s (s.asked c) := by
  unfold asked
  split
  · exact untold_openPalette s
  · exact .refl s

/-- Fixing a document tells the host of actions, and not of statuses or diagnostics. -/
theorem untold_autofix (s : Supervisor) (active : Option Path) : Untold s (s.autofix active) := by
  unfold autofix
  split
  · exact (unseen_log ..).untold
  next path =>
    have hfix := (unseen_fixAllActions s path).untold
    split
    next heq =>
      rw [heq] at hfix
      exact hfix.trans (untold_tell rfl rfl _)
    next heq =>
      rw [heq] at hfix
      exact hfix.trans (unseen_log ..).untold

/-- Of the commands only a restart tells what the host shows. -/
theorem untold_perform (s : Supervisor) (active : Option Path) {c : Command} (h : c ≠ .restart) :
    Untold s (s.perform active c) := by
  cases c with
  | restart => exact absurd rfl h
  | showOutput => exact untold_tell rfl rfl s
  | autofix => exact untold_autofix s active
  | showCommands => exact .refl s

/-! ### What the control loop takes in -/

/-- Taking in an event that calls for a restart is a line of the log. -/
theorem untold_absorb (s : Supervisor) (e : Event) : Untold s (Loop.absorb s e) := by
  unfold Loop.absorb
  split
  · exact ⟨⟨rfl, rfl⟩, rfl, rfl⟩
  · exact (unseen_log ..).untold
  · exact .refl s

/-- Taking in all the events that are queued tells no status. -/
theorem untold_drain (s : Supervisor) : Untold s (Loop.drain s).2 := by
  have hcleared : Untold s { s with queue := [] } := ⟨⟨rfl, rfl⟩, rfl, rfl⟩
  exact hcleared.trans (untold_foldl untold_absorb _ _)

/-- Taking the next event tells the host nothing. -/
theorem untold_nextEvent? {l l' : Loop} {e : Event} (h : l.nextEvent? = some (e, l')) :
    Untold l.supervisor l'.supervisor := by
  unfold Loop.nextEvent? at h
  split at h
  · obtain ⟨-, rfl⟩ := Prod.mk.inj (Option.some.inj h)
    exact .refl _
  · obtain ⟨-, rfl⟩ := Prod.mk.inj (Option.some.inj h)
    exact ⟨⟨rfl, rfl⟩, rfl, rfl⟩
  · exact absurd h (by simp)

/-! ### What happens around a supervisor -/

/-- What is done with one client is not told. -/
theorem untold_withClientOf (s : Supervisor) (id : SessionId)
    (f : Client → Site → Client × Site) : Untold s (s.withClientOf id f) := by
  unfold withClientOf
  split
  · exact .refl s
  · split
    · exact .refl s
    · exact (unseen_site ..).untold

/-- A change at a place is noticed by the watch and not told. -/
theorem untold_noticeAt (s : Supervisor) (kind : ChangeFilter.Kind) (place : List Bytes) :
    Untold s (s.noticeAt kind place) := by
  unfold noticeAt
  split
  · exact .refl s
  · dsimp only
    split
    · exact ⟨⟨rfl, rfl⟩, rfl, rfl⟩
    · exact ⟨⟨rfl, rfl⟩, rfl, rfl⟩

/-- Nobody is told that the disk is another one. -/
theorem untold_withDisk (s : Supervisor) (d : Disk) : Untold s (s.withDisk d) :=
  ⟨⟨rfl, rfl⟩, rfl, rfl⟩

/-- Nobody is told of an entry that is put on the disk. -/
theorem untold_putEntry (s : Supervisor) (path : Path) (node : Node) :
    Untold s (s.putEntry path node) := by
  unfold putEntry
  dsimp only
  split
  · exact (untold_withDisk s _).trans (untold_noticeAt ..)
  · exact untold_withDisk s _

/-- Nobody is told of an entry that is renamed. -/
theorem untold_renameEntry (s : Supervisor) (source target : Path) :
    Untold s (s.renameEntry source target) :=
  (untold_withDisk s _).trans (untold_foldl (fun s place => untold_noticeAt s .modify place) _ _)

/-- A report that is said to change nothing does not change what is said about files. -/
theorem store_eq_of_unchanged (s : Supervisor) (e : ServerEvent)
    (h : (s.handleReport e).1 = false) : (s.handleReport e).2.store = s.store := by
  unfold handleReport at h ⊢
  split at h
  · split at h
    · exact absurd h (by simp)
    next hgone => rw [if_neg hgone]
  · split
    · rfl
    next x hx =>
      rw [hx] at h
      dsimp only at h
      split at h
      · exact absurd h (by simp)
      next hidle => rw [if_neg hidle]

/-- Handling reports tells no status. -/
theorem mute_poll (budget : Nat) (s : Supervisor) : Mute s (s.poll budget).2 := by
  induction budget generalizing s with
  | zero => exact .refl s
  | succ budget ih =>
    unfold poll
    split
    · exact .refl s
    next e s₁ hnext =>
      have hnext := (unseen_nextReport? hnext).untold.toMute
      have hhandled := hnext.trans (silent_handleReport s₁ e).mute
      exact hhandled.trans (ih _)

/-- The next report that the control loop handles: the host is told when it changes anything. -/
theorem handleReport_told (l : Loop) (e : ServerEvent) :
    Mute l.supervisor (l.handleReport e).supervisor ∧
      (l.supervisor.shown = l.supervisor.snapshot →
        (l.handleReport e).supervisor.shown = (l.handleReport e).supervisor.snapshot) := by
  have hsilent := silent_handleReport l.supervisor e
  have hsame := store_eq_of_unchanged l.supervisor e
  unfold Loop.handleReport
  generalize l.supervisor.handleReport e = p at hsilent hsame ⊢
  obtain ⟨changed, s⟩ := p
  dsimp only at hsilent hsame ⊢
  cases changed with
  | true =>
    rw [if_pos rfl]
    refine ⟨hsilent.mute.trans ⟨rfl, ?_⟩, fun _ => shown_tell_diagnostics s s.snapshot⟩
    exact (statuses_tell ..).trans (List.append_nil _)
  | false =>
    rw [if_neg Bool.false_ne_true]
    refine ⟨hsilent.mute, fun hshown => ?_⟩
    rw [snapshot, hsame rfl, ← snapshot, ← hshown, shown, hsilent.calls_eq, shown]

/-! ### Starting and stopping -/

/-- What a start tells: that it loads, and then whether it has started any session. -/
theorem start_told (h : s.phase = .stopped) :
    s.start.2.statuses = s.statuses ++ [some .loading, some (glyphAfter s.start.1)] ∧
      s.start.2.store = s.store ∧ s.start.2.shown = s.shown := by
  let begun := ({ s with phase := .starting }.log .info "Starting extension...").tell
    (.status (some .loading))
  have hbegun : begun.statuses = s.statuses ++ [some .loading] := statuses_tell ..
  have hlaunch := (unseen_launch begun).untold
  rw [start, if_pos h]
  refine ⟨?_, hlaunch.store_eq, ?_⟩
  · calc _ = begun.launch.2.statuses ++ [some (glyphAfter begun.launch.1)] := statuses_tell ..
      _ = _ := by rw [hlaunch.statuses_eq, hbegun, List.append_assoc, List.singleton_append]
  · calc _ = begun.launch.2.shown := shown_tell rfl _
      _ = begun.shown := hlaunch.shown_eq
      _ = s.shown := shown_tell rfl _

/-- A supervisor that is not stopped is not started: the report is empty. -/
theorem start_of_not_stopped (h : s.phase ≠ .stopped) : s.start = (.nothing, s) := by
  rw [start, if_neg h]

/-- What a stop tells: that nothing is said about files any more, and that the status is
hidden. -/
theorem stop_told (h : s.phase ≠ .stopped) :
    s.stop.statuses = s.statuses ++ [none] ∧ s.stop.store = .empty ∧
      s.stop.shown = Store.empty.snapshot := by
  let torn := ({ s with phase := .stopping }.log .info "Stopping extension...").tearDown
  have htorn : torn.statuses = s.statuses := rfl
  let cleared := torn.tell (.diagnostics torn.snapshot)
  rw [stop, if_neg h]
  refine ⟨?_, rfl, ?_⟩
  · calc _ = cleared.statuses ++ [none] := statuses_tell ..
      _ = torn.statuses ++ [] ++ [none] := congrArg (· ++ [none]) (statuses_tell ..)
      _ = s.statuses ++ [none] := by rw [List.append_nil, htorn]
  · calc _ = cleared.shown := shown_tell rfl _
      _ = torn.snapshot := shown_tell_diagnostics ..

end Supervisor
end Switchboard
