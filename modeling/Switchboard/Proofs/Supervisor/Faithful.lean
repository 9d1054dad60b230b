/-
# The control loop loses nothing

However what is sent arrives, the control loop handles every event that calls
for no restart once and in order, until the first shutdown (`Faithful.complete`),
and a restart that an event has called for comes before any later event is
handled (`Faithful.before_later`).  A loop that has been sent a shutdown ends,
if it is answered when it waits for what is picked (`ended_work`).

The states that are reached are those that the loop gets to when it works off
its events, hears its sessions and is offered more (`reach_settle`,
`reach_offer`).
-/

import Mathlib.Data.List.Basic
import Switchboard.Proofs.Supervisor.Loop

namespace Switchboard
namespace Loop

open Supervisor (make)

variable {s₀ : Supervisor} {w w' : Watched} {view : HostView}

/-! ### The loop takes the same steps without notes -/

namespace Kept

/-- None of what is set aside would trigger a restart. -/
theorem not_trigger (h : Kept s₀ w) {x : Entry} (hx : x ∈ w.aside) : x.1.isTrigger = false := by
  have hmem : x ∈ others (receivedOf w.notices) :=
    h.orderly.handled_eq ▸ List.mem_append_right _ hx
  simpa using (List.mem_filter.1 hmem).2

/-- **The loop takes the steps that are noted.** -/
theorem follows (h : Kept s₀ w) (view : HostView) :
    (w.step? view).map Watched.loop = w.loop.step? view := by
  unfold Watched.step? Loop.step?
  split
  · rfl
  next hended =>
    split
    · rw [Option.map_map]
      rfl
    · rw [← h.lined_eq (by simpa using hended)]
      have hnot := fun x hx => h.not_trigger (x := x) hx
      obtain ⟨loop, sent, waiting, aside, notices⟩ := w
      cases aside with
      | cons x rest =>
        have hx := hnot x (List.mem_cons_self ..)
        change _ = some (Loop.handle _ view.active x.1)
        rw [Loop.handle, if_neg (by simp [hx])]
        rfl
      | nil => cases waiting with
        | nil => rfl
        | cons x rest =>
          change _ = some (Loop.handle _ view.active x.1)
          dsimp only
          unfold Loop.handle
          split
          · rfl
          · rfl

/-! ### The loop ends -/

/-- A shutdown that has been sent waits, or is set aside, until the loop ends. -/
theorem shutdown_left (h : Kept s₀ w) (hended : w.loop.ended = false)
    (hsent : .shutdown ∈ w.sent) : ∃ x, x ∈ w.aside ∨ x ∈ w.waiting := by
  obtain ⟨i, hi⟩ := List.mem_iff_getElem?.1 hsent
  have hmem : (Event.shutdown, i) ∈ w.sent.zipIdx := List.mem_zipIdx_iff_getElem?.2 hi
  rw [← h.orderly.received_eq] at hmem
  refine ⟨(.shutdown, i), ?_⟩
  rcases List.mem_append.1 hmem with hreceived | hwaiting
  · have hother : (Event.shutdown, i) ∈ others (receivedOf w.notices) :=
      List.mem_filter.2 ⟨hreceived, rfl⟩
    rw [← h.orderly.handled_eq] at hother
    rcases List.mem_append.1 hother with hhandled | haside
    · exact absurd rfl (h.going hended _ hhandled)
    · exact .inl haside
  · exact .inr hwaiting

end Kept

namespace Watched

/-- How many steps what has been sent can still take. -/
def pending (w : Watched) : Nat :=
  2 * (w.aside.length + w.waiting.length) + if w.loop.picking then 1 else 0

/-- Handling an event can at most open the palette. -/
theorem pending_attend_le (w : Watched) (active : Option Path) (x : Entry) :
    (w.attend active x).pending ≤ 2 * (w.aside.length + w.waiting.length) + 1 := by
  refine Nat.add_le_add_left ?_ _
  split
  · exact Nat.le_refl 1
  · exact Nat.zero_le 1

/-- Every step leaves fewer that can be taken. -/
theorem pending_lt (h : w.step? view = some w') : w'.pending < w.pending := by
  obtain ⟨-, hstep⟩ := step_of_step? h
  cases hstep with
  | resume hpicking _ =>
    simp only [pending, resume, note, Loop.resume, hpicking]
    exact Nat.lt_succ_self _
  | @aside x rest haside =>
    have hle := pending_attend_le { w with aside := rest } view.active x
    simp only [pending, haside, List.length_cons] at hle ⊢
    omega
  | @restart x rest haside hwaiting hx =>
    have hlen : (others rest).length ≤ rest.length := List.length_filter_le ..
    have hset : ({ w with waiting := rest }.restartFor x).pending =
        2 * ((others rest).length + 0) + if w.loop.picking then 1 else 0 := rfl
    rw [hset, pending, haside, hwaiting, List.length_cons, List.length_nil]
    omega
  | @attend x rest haside hwaiting hx =>
    have hle := pending_attend_le ({ w with waiting := rest }.note [.received x]) view.active x
    simp only [pending, note, hwaiting, List.length_cons] at hle ⊢
    omega

/-- While the shutdown is on its way and the picker answers, there is a step to take. -/
theorem step?_of_shutdown (h : Kept s₀ w) (hended : w.loop.ended = false)
    (hsent : .shutdown ∈ w.sent) (hpick : view.pick.isSome = true) :
    ∃ w', w.step? view = some w' := by
  obtain ⟨c, hc⟩ := Option.isSome_iff_exists.1 hpick
  obtain ⟨x, hx⟩ := h.shutdown_left hended hsent
  unfold step?
  rw [hended, hc]
  cases haside : w.aside with
  | cons y rest => cases w.loop.picking with
    | true => exact ⟨_, rfl⟩
    | false => exact ⟨_, rfl⟩
  | nil => cases hwaiting : w.waiting with
    | nil =>
      rw [haside, hwaiting] at hx
      exact absurd hx (by simp)
    | cons y rest => cases w.loop.picking with
      | true => exact ⟨_, rfl⟩
      | false =>
        dsimp only
        cases y.1.isTrigger with
        | true => exact ⟨_, rfl⟩
        | false => exact ⟨_, rfl⟩

/-- A step sends nothing. -/
theorem sent_of_step? (h : w.step? view = some w') : w'.sent = w.sent := by
  obtain ⟨-, hstep⟩ := step_of_step? h
  cases hstep with
  | _ => rfl

/-- Working off events reaches what the loop gets to. -/
theorem reach_workWithin (fuel : Nat) (h : Reach s₀ w) :
    Reach s₀ (workWithin view fuel w) ∧ (workWithin view fuel w).sent = w.sent ∧
      (workWithin view fuel w).loop = Loop.workWithin view fuel w.loop := by
  induction fuel generalizing w with
  | zero => exact ⟨h, rfl, rfl⟩
  | succ fuel ih =>
    have hfollows := (kept_of_reach h).follows view
    rw [workWithin, Loop.workWithin]
    cases hstep : w.step? view with
    | none =>
      rw [hstep] at hfollows
      rw [← hfollows]
      exact ⟨h, rfl, rfl⟩
    | some w' =>
      rw [hstep] at hfollows
      rw [← hfollows]
      obtain ⟨hreach, hsent, hloop⟩ := ih (h.step hstep)
      exact ⟨hreach, hsent.trans (sent_of_step? hstep), hloop⟩

/-- A loop that has been sent a shutdown ends when it can take all its steps. -/
theorem ended_workWithin (hpick : view.pick.isSome = true) (fuel : Nat) (h : Reach s₀ w)
    (hsent : .shutdown ∈ w.sent) (hfuel : w.loop.ended = false → w.pending ≤ fuel) :
    (workWithin view fuel w).loop.ended = true := by
  induction fuel generalizing w with
  | zero =>
    by_contra hended
    rw [Bool.not_eq_true] at hended
    obtain ⟨w', hstep⟩ := step?_of_shutdown (kept_of_reach h) hended hsent hpick
    exact absurd (Nat.lt_of_lt_of_le (pending_lt hstep) (hfuel hended)) (Nat.not_lt_zero _)
  | succ fuel ih =>
    rw [workWithin]
    cases hstep : w.step? view with
    | none =>
      by_contra hended
      rw [Bool.not_eq_true] at hended
      obtain ⟨w', hstep'⟩ := step?_of_shutdown (kept_of_reach h) hended hsent hpick
      exact absurd (hstep.symm.trans hstep') (by simp)
    | some w' =>
      have hended := (step_of_step? hstep).1
      refine ih (h.step hstep) (sent_of_step? hstep ▸ hsent) fun _ => ?_
      exact Nat.le_of_lt_succ (Nat.lt_of_lt_of_le (pending_lt hstep) (hfuel hended))

/-- What has been sent takes no more steps than the loop has left. -/
theorem pending_le_stepsLeft (h : Kept s₀ w) (hended : w.loop.ended = false) :
    w.pending ≤ w.loop.stepsLeft := by
  rw [Loop.stepsLeft, h.backlog_eq hended, h.queue_eq, List.length_map, List.length_map]
  refine Nat.add_le_add_left ?_ _
  split
  · exact Nat.le_refl 1
  · exact Nat.zero_le 1

/-- Whatever a loop works off is reached, without anything more being sent. -/
theorem reach_work (h : Reach s₀ w) (view : HostView) :
    Reach s₀ (w.work view) ∧ (w.work view).sent = w.sent ∧
      (w.work view).loop = w.loop.work view :=
  reach_workWithin w.loop.stepsLeft h

/-- **A loop that has been sent a shutdown ends**, if it is answered when it waits. -/
theorem ended_work (h : Reach s₀ w) (hsent : .shutdown ∈ w.sent)
    (hpick : view.pick.isSome = true) : (w.work view).loop.ended = true :=
  ended_workWithin hpick w.loop.stepsLeft h hsent (pending_le_stepsLeft (kept_of_reach h))

end Watched

/-! ### What the loop gets to is reached -/

/-- Handling a report changes the supervisor only, and nothing it is watched for. -/
theorem beside_handleReport (l : Loop) (e : ServerEvent) :
    ∃ s, l.supervisor.Beside s ∧ l.handleReport e = { l with supervisor := s } := by
  have hbeside := (Supervisor.silent_handleReport l.supervisor e).toBeside
  unfold handleReport
  generalize l.supervisor.handleReport e = p at hbeside ⊢
  obtain ⟨changed, s⟩ := p
  refine ⟨_, ?_, rfl⟩
  dsimp only at hbeside ⊢
  split
  · exact hbeside.trans (Supervisor.same_tell ..).toBeside
  · exact hbeside

/-- Hearing what is there to be heard changes nothing the supervisor is watched for. -/
theorem beside_hearWithin (fuel : Nat) (l : Loop) :
    ∃ s, l.supervisor.Beside s ∧ hearWithin fuel l = { l with supervisor := s } := by
  induction fuel generalizing l with
  | zero => exact ⟨l.supervisor, .refl _, rfl⟩
  | succ fuel ih =>
    rw [hearWithin]
    split
    next e s hnext =>
      obtain ⟨s₁, hs₁, heq₁⟩ := beside_handleReport { l with supervisor := s } e
      obtain ⟨s₂, hs₂, heq₂⟩ := ih { l with supervisor := s₁ }
      exact ⟨s₂, (Supervisor.unseen_nextReport? hnext).toBeside.trans (hs₁.trans hs₂), heq₁ ▸ heq₂⟩
    · exact ⟨l.supervisor, .refl _, rfl⟩

/-- Several rounds of hearing change nothing the supervisor is watched for. -/
theorem beside_hearRounds (rounds : Nat) (l : Loop) :
    ∃ s, l.supervisor.Beside s ∧ hearRounds rounds l = { l with supervisor := s } := by
  induction rounds generalizing l with
  | zero => exact ⟨l.supervisor, .refl _, rfl⟩
  | succ rounds ih =>
    obtain ⟨s₁, hs₁, heq₁⟩ := beside_hearWithin (reportsLeft l.supervisor.settle)
      { l with supervisor := l.supervisor.settle }
    obtain ⟨s₂, hs₂, heq₂⟩ := ih { l with supervisor := s₁ }
    refine ⟨s₂, (Supervisor.unseen_settle _).toBeside.trans (hs₁.trans hs₂), ?_⟩
    rw [hearRounds, hear, heq₁]
    exact heq₂

/-- Handling all events and reports that are there reaches a state. -/
theorem reach_settle (h : Reach s₀ w) (view : HostView) :
    ∃ w', Reach s₀ w' ∧ w'.sent = w.sent ∧ w'.loop = w.loop.settle view := by
  obtain ⟨hreach, hsent, hloop⟩ := Watched.reach_work h view
  obtain ⟨s, hs, heq⟩ := Loop.beside_hearRounds
    ((w.work view).loop.supervisor.sessions.length + 2) (w.work view).loop
  unfold Loop.settle
  dsimp only
  rw [← hloop]
  split
  · exact ⟨_, hreach.beside hs, hsent, heq.symm⟩
  · exact ⟨_, hreach, hsent, rfl⟩

/-- What is offered to the loop is sent, once there is room for it. -/
theorem reach_offer (h : Reach s₀ w) (view : HostView) (e : Event) :
    ∃ w', Reach s₀ w' ∧ w'.sent = w.sent ++ [e] ∧ w'.loop = w.loop.offer view e := by
  obtain ⟨hreach, hsent, hloop⟩ := Watched.reach_work h view
  unfold Loop.offer
  split
  · exact ⟨_, h.send e, rfl, rfl⟩
  · exact ⟨_, hreach.send e, by rw [← hsent]; rfl, by rw [← hloop]; rfl⟩

/-! ### Nothing is lost, repeated or overtaken -/

/-- What holds of the control loop and its notes, however what has been sent has
arrived.

The events in the list `w.sent.zipIdx` are numbered in sending order. -/
structure Faithful (s₀ : Supervisor) (w : Watched) : Prop where
  /-- The notes are those of the loop: it takes the same steps. -/
  follows : ∀ view, (w.step? view).map Watched.loop = w.loop.step? view
  /-- Events are received in sending order. -/
  received_in_order : receivedOf w.notices <+: w.sent.zipIdx
  /-- Those that call for no restart are handled in sending order. -/
  handled_in_order : handledOf w.notices <+: others w.sent.zipIdx
  /-- When the loop has ended, all those before the first shutdown have been
  handled, each once, then the shutdown, and nothing else; and all events before
  it have been received. -/
  complete : w.loop.ended = true → ∃ front x back, w.sent.zipIdx = front ++ x :: back ∧
    x.1 = .shutdown ∧ (∀ y ∈ front, y.1 ≠ .shutdown) ∧
    handledOf w.notices = others front ++ [x] ∧ ∀ y ∈ front, .received y ∈ w.notices
  /-- A loop that has been sent a shutdown ends. -/
  ends : ∀ view, .shutdown ∈ w.sent → view.pick.isSome = true →
    ∃ w', Reach s₀ w' ∧ w'.sent = w.sent ∧ w'.loop = w.loop.work view ∧ w'.loop.ended = true
  /-- A restart begins behind every event that has called for one. -/
  restarts : ∀ front x back, w.notices = front ++ .received x :: back → x.1.isTrigger = true →
    ∃ folders, .restarted folders ∈ back
  /-- That restart begins before any event is handled that was sent later. -/
  before_later : ∀ front y, front ++ [.handled y] <+: w.notices →
    ∀ x ∈ w.sent.zipIdx, x.1.isTrigger = true → x.2 < y.2 →
      ∃ before after folders, front = before ++ .received x :: after ∧ .restarted folders ∈ after
  /-- A restart runs with the folders of the last event received that sets them. -/
  with_folders : ∀ front folders, front ++ [.restarted folders] <+: w.notices →
    folders = foldersAfter s₀.folders (receivedOf front)
  /-- Between restarts the folders are those of the last event received that sets them. -/
  folders_eq : w.loop.supervisor.folders = foldersAfter s₀.folders (receivedOf w.notices)
  /-- Since the restart before it, an event has called for a restart. -/
  caused : ∀ front folders, front ++ [.restarted folders] <+: w.notices →
    ∃ before x after, front = before ++ .received x :: after ∧ x.1.isTrigger = true ∧
      ∀ folders, .restarted folders ∉ after
  /-- There are no more restarts than events that call for one. -/
  few : w.notices.countP Notice.isRestart ≤ w.sent.countP Event.isTrigger
  /-- All restarts that the supervisor counts are noted: those that events have
  called for, and those that have been picked from the palette. -/
  counted : w.loop.supervisor.restarts = s₀.restarts + w.notices.countP Notice.isRestart +
    w.notices.countP Notice.isPickedRestart

/-- What is sent before an event is received before it. -/
theorem mem_of_prefix_zipIdx {sent : List Event} {xs : List Entry} {x y : Entry}
    (h : xs <+: sent.zipIdx) (hy : y ∈ xs) (hx : x ∈ sent.zipIdx) (hlt : x.2 < y.2) : x ∈ xs := by
  obtain ⟨rest, hrest⟩ := h
  have hsorted : sent.zipIdx.Pairwise fun a b => a.2 < b.2 := by
    rw [← List.pairwise_map, List.zipIdx_map_snd]
    exact List.pairwise_lt_range'
  rw [← hrest] at hx hsorted
  rcases List.mem_append.1 hx with hx | hx
  · exact hx
  · exact absurd hlt (Nat.lt_asymm ((List.pairwise_append.1 hsorted).2.2 y hy x hx))

namespace Kept

/-- What is received is received in sending order, without a gap. -/
theorem received_prefix (h : Kept s₀ w) : receivedOf w.notices <+: w.sent.zipIdx :=
  ⟨w.waiting, h.orderly.received_eq⟩

/-- Of what triggers no restart all is handled in sending order, without a gap. -/
theorem handled_prefix (h : Kept s₀ w) : handledOf w.notices <+: others w.sent.zipIdx :=
  List.IsPrefix.trans ⟨w.aside, h.orderly.handled_eq⟩ (h.received_prefix.filter _)

/-- What has been handled when the loop has ended. -/
theorem complete (h : Kept s₀ w) (hended : w.loop.ended = true) :
    ∃ front x back, w.sent.zipIdx = front ++ x :: back ∧ x.1 = .shutdown ∧
      (∀ y ∈ front, y.1 ≠ .shutdown) ∧ handledOf w.notices = others front ++ [x] ∧
      ∀ y ∈ front, .received y ∈ w.notices := by
  obtain ⟨early, x, hhandled, hx, hearly⟩ := h.gone hended
  have hothers := h.orderly.handled_eq.symm
  rw [hhandled, List.append_assoc] at hothers
  -- Up to the shutdown, what is received and calls for no restart is what has been handled.
  obtain ⟨front₁, rest, hreceived, hfront₁, hrest⟩ := List.filter_eq_append_iff.1 hothers
  obtain ⟨front₂, back, rfl, hfront₂, -, -⟩ := List.filter_eq_cons_iff.1 hrest
  have hfront : others (front₁ ++ front₂) = early := by
    rw [others, List.filter_append, hfront₁, List.filter_eq_nil_iff.2 hfront₂, List.append_nil]
  have hsplit : receivedOf w.notices = (front₁ ++ front₂) ++ x :: back := by
    rw [hreceived, List.append_assoc]
  refine ⟨front₁ ++ front₂, x, back ++ w.waiting, ?_, hx, fun y hy hshutdown => ?_, ?_,
    fun y hy => ?_⟩
  · rw [← h.orderly.received_eq, hsplit, List.append_assoc]
    rfl
  · refine hearly y (hfront ▸ List.mem_filter.2 ⟨hy, ?_⟩) hshutdown
    rw [hshutdown]
    rfl
  · rw [hhandled, hfront]
  · exact mem_receivedOf.1 (hsplit ▸ List.mem_append_left _ hy)

/-- An event is handled after the restarts that earlier events have called for. -/
theorem before_later (h : Kept s₀ w) {front : List Notice} {y : Entry}
    (hfront : front ++ [.handled y] <+: w.notices) {x : Entry} (hx : x ∈ w.sent.zipIdx)
    (htrigger : x.1.isTrigger = true) (hlt : x.2 < y.2) :
    ∃ before after folders, front = before ++ .received x :: after ∧
      .restarted folders ∈ after := by
  obtain ⟨hy, hcovered⟩ := h.orderly.justified front _ hfront
  have hbegins : receivedOf front <+: w.sent.zipIdx :=
    (((List.prefix_append _ _).trans hfront).filterMap _).trans h.received_prefix
  have hreceived := mem_receivedOf.1 (mem_of_prefix_zipIdx hbegins hy hx hlt)
  obtain ⟨before, after, hsplit⟩ := List.append_of_mem hreceived
  obtain ⟨folders, hmem⟩ := hcovered before x after hsplit htrigger
  exact ⟨before, after, folders, hsplit, hmem⟩

/-- There are no more restarts than events that trigger one. -/
theorem few (h : Kept s₀ w) :
    w.notices.countP Notice.isRestart ≤ w.sent.countP Event.isTrigger := by
  calc
    _ ≤ (receivedOf w.notices).countP fun x => x.1.isTrigger := h.orderly.few
    _ ≤ w.sent.zipIdx.countP fun x => x.1.isTrigger := h.received_prefix.sublist.countP_le
    _ = (w.sent.zipIdx.map Prod.fst).countP Event.isTrigger := by
      rw [List.countP_map]
      rfl
    _ = w.sent.countP Event.isTrigger := by rw [List.zipIdx_map_fst]

end Kept

/-- **However what is sent arrives, the control loop loses, repeats and overtakes
nothing**, and restarts just as often and just as early as it has to. -/
theorem faithful_of_reach (h : Reach s₀ w) : Faithful s₀ w := by
  have hkept := kept_of_reach h
  refine ⟨hkept.follows, hkept.received_prefix, hkept.handled_prefix, hkept.complete,
    fun view hsent hpick => ?_, hkept.orderly.covered, fun front y hfront x hx htrigger hlt =>
    hkept.before_later hfront hx htrigger hlt, fun front folders hfront => ?_,
    hkept.folders_eq, fun front folders hfront => ?_, hkept.few, hkept.restarts_eq⟩
  · obtain ⟨hreach, hsent', hloop⟩ := Watched.reach_work h view
    exact ⟨_, hreach, hsent', hloop, Watched.ended_work h hsent hpick⟩
  · exact (hkept.orderly.justified front _ hfront).2
  · exact (hkept.orderly.justified front _ hfront).1

/-- A run in which events of both kinds arrive before a restart and after it. -/
def twoBursts (s : Supervisor) : Watched :=
  let view : HostView := ⟨none, some none⟩
  let w := (Watched.ofSupervisor s).send (.opened (Path.ofText "/w/a.ts") "")
  let w := (w.send (.lockFile (Path.ofText "/w/yarn.lock"))).send (.closed (Path.ofText "/w/a.ts"))
  let w := (w.send (.folders [Path.ofText "/w"])).work view
  ((w.send (.command .restart)).send .shutdown).work view

/-- The run with two bursts can be reached. -/
theorem reach_twoBursts (s : Supervisor) : Reach s (twoBursts s) := by
  refine (Watched.reach_work (.send _ (.send _ ?_)) _).1
  refine (Watched.reach_work ?_ _).1
  exact .send _ (.send _ (.send _ (.send _ .start)))

/-- The run with two bursts is faithful, and its first burst brings on a single restart. -/
theorem faithful_twoBursts :
    ∃ s, make .default [] none 7 (.ofDisk ⟨.directory [], [], Platform.linux⟩) = .ok s ∧
      Reach s (twoBursts s) ∧ Faithful s (twoBursts s) ∧ (twoBursts s).loop.ended = true ∧
      (twoBursts s).notices = [.received (.opened (Path.ofText "/w/a.ts") "", 0),
        .handled (.opened (Path.ofText "/w/a.ts") "", 0),
        .received (.lockFile (Path.ofText "/w/yarn.lock"), 1),
        .received (.closed (Path.ofText "/w/a.ts"), 2),
        .received (.folders [Path.ofText "/w"], 3), .restarted [Path.ofText "/w"],
        .handled (.closed (Path.ofText "/w/a.ts"), 2),
        .received (.command .restart, 4), .received (.shutdown, 5),
        .restarted [Path.ofText "/w"], .handled (.shutdown, 5)] :=
  ⟨_, rfl, reach_twoBursts _, faithful_of_reach (reach_twoBursts _), by decide +kernel⟩

end Loop
end Switchboard
