/-
# Stuck at the palette

While a palette is open the loop takes no event, and only the task that takes in
what is typed can answer it.  So the loop waits for ever (`Stuck`) when that task
cannot come to another line: the input has ended, or the task itself waits, for
room in the queue that the loop does not empty.  Whatever else the tasks do then,
and whatever comes from outside, no answer comes any more (`Waits.step`); in any
other state in which the loop waits an answer can come (`Waits.not_stuck`).
-/

import Switchboard.Proofs.Terminal.Tasks

namespace Switchboard

namespace Tasks

variable {t t' : Tasks} {e : Event} {l : Loop} {line : String} {lines : List String}

/-! ### Waiting for ever -/

/-- The loop waits for what is picked from the palette. -/
structure Waits (t : Tasks) : Prop where
  hand_eq : t.hand = .nothing
  ended_eq : t.loop.ended = false
  picking_eq : t.loop.picking = true
  pick_eq : t.desk.lastPick = .pending

/-- The loop waits for what is picked from the palette, whatever happens. -/
def Stuck (t : Tasks) : Prop := ∀ t', Reach t t' → t'.Waits

/-- Whether the task that takes in what is typed gets back to listening while
the loop takes no event. -/
def ComesBack (t : Tasks) : Typing → Prop
  | .listening => True
  | .sending _ => t.HasRoom
  | _ => False

/-- Whether a palette that waits can still get an answer.  What a line comes to
that is being read depends on what the disk holds at that moment. -/
def CanAnswer (t : Tasks) : Prop :=
  match t.typing with
  | .holding _ => True
  | .reading line => t.lines ≠ [] ∧ ∃ disk,
    t.ComesBack (.ofResponse (Input.respond disk t.cwd t.desk (Line.read line)).1)
  | typing => t.lines ≠ [] ∧ t.ComesBack typing

/-- A loop that is stuck waits for the palette now. -/
theorem Stuck.waits (h : t.Stuck) : t.Waits := h t .refl

/-- While a line is being read, the palette can be answered if another line is to come and the task
comes back for it. -/
theorem canAnswer_ofResponse {r : Response} (h : t.typing = .ofResponse r) :
    t.CanAnswer ↔ t.lines ≠ [] ∧ t.ComesBack t.typing := by
  unfold CanAnswer
  rw [h]
  cases r with
  | _ => rfl

/-- Less room in the queue lets no palette be answered that could not be. -/
theorem CanAnswer.of_hasRoom (h : t'.CanAnswer) (htyping : t'.typing = t.typing)
    (hlines : t'.lines = t.lines) (hcwd : t'.cwd = t.cwd) (hdesk : t'.desk = t.desk)
    (hroom : t'.HasRoom → t.HasRoom) : t.CanAnswer := by
  have hback : ∀ typing, t'.ComesBack typing → t.ComesBack typing := by
    intro typing h
    cases typing with
    | sending e => exact hroom h
    | _ => exact h
  unfold CanAnswer at h ⊢
  rw [htyping, hlines, hcwd, hdesk] at h
  cases hcase : t.typing with
  | holding line => trivial
  | reading line =>
    rw [hcase] at h
    obtain ⟨hmore, disk, hdisk⟩ := h
    exact ⟨hmore, disk, hback _ hdisk⟩
  | _ =>
    rw [hcase] at h
    exact ⟨h.1, hback _ h.2⟩

/-- Where there is room after an event there was room before it. -/
theorem hasRoom_of_queued (h : (t.queued e).HasRoom) : t.HasRoom := by
  unfold HasRoom at h ⊢
  have hlength : (t.queued e).loop.supervisor.queue.length =
      t.loop.supervisor.queue.length + 1 := List.length_append
  omega

/-- A loop that waits takes no step. -/
theorem Waits.not_loopStep (h : t.Waits) : ¬ LoopStep t t' := by
  intro hloop
  cases hloop with
  | take hhand hended hpicking hnext => exact absurd (h.picking_eq.symm.trans hpicking) (by simp)
  | attend hhand htrigger => exact absurd (h.hand_eq.symm.trans hhand) (by simp)
  | absorb hhand htrigger => exact absurd (h.hand_eq.symm.trans hhand) (by simp)
  | takeIn hhand hqueue => exact absurd (h.hand_eq.symm.trans hhand) (by simp)
  | restart hhand hqueue => exact absurd (h.hand_eq.symm.trans hhand) (by simp)
  | resume hhand hpicking hpick => exact absurd (h.pick_eq.symm.trans hpick) (by simp)

/-- Where the palette can get no answer, no step at the input gives it one. -/
theorem Waits.inputStep (h : t.Waits) (hno : ¬ t.CanAnswer) (hinput : InputStep t t') :
    t'.Waits ∧ ¬ t'.CanAnswer := by
  unfold CanAnswer at hno
  cases hinput with
  | line htyping hlines =>
    rw [htyping, hlines] at hno
    exact absurd ⟨List.cons_ne_nil _ _, trivial⟩ hno
  | finish htyping hlines =>
    exact ⟨⟨h.hand_eq, h.ended_eq, h.picking_eq, h.pick_eq⟩, fun hcan => hcan.2⟩
  | answer htyping hoffer =>
    rw [htyping] at hno
    exact absurd trivial hno
  | keep htyping hoffer =>
    rw [htyping] at hno
    exact absurd trivial hno
  | @respond line htyping =>
    rw [htyping] at hno
    refine ⟨⟨h.hand_eq, h.ended_eq, h.picking_eq, ?_⟩, fun hcan => hno ?_⟩
    · obtain ⟨active, hactive⟩ := t.exists_active_respond line
      change (t.respond line).2.lastPick = .pending
      rw [hactive]
      exact h.pick_eq
    · obtain ⟨hmore, hback⟩ := (canAnswer_ofResponse rfl).1 hcan
      exact ⟨hmore, t.loop.supervisor.site.disk, hback⟩
  | send htyping hroom =>
    rw [htyping] at hno
    refine ⟨⟨h.hand_eq, h.ended_eq, h.picking_eq, h.pick_eq⟩, fun hcan => hno ?_⟩
    exact ⟨hcan.1, hroom⟩
  | close htyping hroom =>
    exact ⟨⟨h.hand_eq, h.ended_eq, h.picking_eq, h.pick_eq⟩, fun hcan => hcan.2⟩

/-- A palette that waits and cannot get an answer waits on, whatever the next step is. -/
theorem Waits.step (h : t.Waits) (hno : ¬ t.CanAnswer) (hstep : Step t t') :
    t'.Waits ∧ ¬ t'.CanAnswer := by
  cases hstep with
  | move hmove =>
    cases hmove with
    | input hinput => exact h.inputStep hno hinput
    | interrupt hinterrupt hroom =>
      refine ⟨⟨h.hand_eq, h.ended_eq, h.picking_eq, h.pick_eq⟩, fun hcan => hno ?_⟩
      exact hcan.of_hasRoom rfl rfl rfl rfl hasRoom_of_queued
    | loop hloop => exact absurd hloop h.not_loopStep
  | interrupted hinterrupt =>
    exact ⟨⟨h.hand_eq, h.ended_eq, h.picking_eq, h.pick_eq⟩, hno⟩
  | around hs =>
    refine ⟨⟨h.hand_eq, h.ended_eq, h.picking_eq, h.pick_eq⟩, fun hcan => hno ?_⟩
    refine hcan.of_hasRoom rfl rfl rfl rfl fun hroom => ?_
    unfold HasRoom at hroom ⊢
    rwa [← hs.queue_eq]
  | changed path hroom =>
    refine ⟨⟨h.hand_eq, h.ended_eq, h.picking_eq, h.pick_eq⟩, fun hcan => hno ?_⟩
    exact hcan.of_hasRoom rfl rfl rfl rfl hasRoom_of_queued

/-- A palette that waits and cannot get an answer waits for ever. -/
theorem Waits.stuck (h : t.Waits) (hno : ¬ t.CanAnswer) : t.Stuck := by
  have hrun : ∀ t', Reach t t' → t'.Waits ∧ ¬ t'.CanAnswer := by
    intro t' hreach
    induction hreach with
    | refl => exact ⟨h, hno⟩
    | tail _ hstep ih => exact ih.1.step ih.2 hstep
  exact fun t' hreach => (hrun t' hreach).1

/-- A palette is answered by a line that the task holds. -/
theorem Waits.not_stuck_of_holding (h : t.Waits) (htyping : t.typing = .holding line) :
    ¬ t.Stuck := by
  intro hstuck
  have hoffer := Desk.offer_of_waiting (Desk.waiting_of_lastPick h.pick_eq) line
  have hwaits := hstuck _ (InputStep.answer htyping hoffer).run.reach
  exact absurd ((Desk.of_offer_eq_true hoffer).2.2.symm.trans hwaits.pick_eq) (by simp)

/-- A loop is not stuck if there is one more line and the task comes back for it. -/
theorem Waits.not_stuck_of_comesBack (h : t.Waits) (hmore : t.lines ≠ [])
    (hback : t.ComesBack t.typing) : ¬ t.Stuck := by
  have hlistening : ∀ {t : Tasks}, t.Waits → t.lines ≠ [] → t.typing = .listening → ¬ t.Stuck := by
    intro t h hmore htyping hstuck
    obtain ⟨line, rest, hlines⟩ := List.exists_cons_of_ne_nil hmore
    have hline := (InputStep.line htyping hlines).run.reach
    exact (hstuck _ hline).not_stuck_of_holding rfl fun t' ht' => hstuck t' (hline.trans ht')
  intro hstuck
  cases htyping : t.typing with
  | listening => exact hlistening h hmore htyping hstuck
  | sending e =>
    rw [htyping] at hback
    have hsend := (InputStep.send htyping hback).run.reach
    exact hlistening (hstuck _ hsend) hmore rfl fun t' ht' => hstuck t' (hsend.trans ht')
  | _ =>
    rw [htyping] at hback
    exact hback

/-- A loop is not stuck while the palette can get an answer. -/
theorem Waits.not_stuck (h : t.Waits) (hcan : t.CanAnswer) : ¬ t.Stuck := by
  unfold CanAnswer at hcan
  cases htyping : t.typing with
  | holding line => exact h.not_stuck_of_holding htyping
  | reading line =>
    rw [htyping] at hcan
    obtain ⟨hmore, disk, hback⟩ := hcan
    intro hstuck
    -- The disk can be as the answer needs it when the line is read.
    let s := { t.loop.supervisor with site := { t.loop.supervisor.site with disk } }
    have hdisk : Reach t (t.withSupervisor s) := reach_around ⟨rfl, rfl, rfl⟩
    have hrespond := hdisk.trans
      (InputStep.respond (t := t.withSupervisor s) htyping).run.reach
    refine (hstuck _ hrespond).not_stuck_of_comesBack hmore hback ?_
    exact fun t' ht' => hstuck t' (hrespond.trans ht')
  | _ =>
    rw [htyping] at hcan
    exact h.not_stuck_of_comesBack hcan.1 (htyping ▸ hcan.2)

/-- **The loop waits for ever when it waits for a palette that cannot get an answer.** -/
theorem stuck_iff : t.Stuck ↔ t.Waits ∧ ¬ t.CanAnswer := by
  refine ⟨fun h => ⟨h.waits, fun hcan => h.waits.not_stuck hcan h⟩, ?_⟩
  rintro ⟨h, hno⟩
  exact h.stuck hno

end Tasks
end Switchboard
