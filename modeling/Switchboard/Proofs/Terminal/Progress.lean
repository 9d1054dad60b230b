/-
# Progress of the tasks

In every state some task can move, unless the loop has ended or is stuck at the
palette (`Announced.exists_move`): as long as nothing is stuck, the shutdown that the end of
the input sends waits for the loop (`Announced`).  No task moves for ever
(`Move.toDo_lt`), so when nothing comes from outside the program comes to its end
or gets stuck (`Announced.exists_run_ended_or_stuck`).
-/

import Switchboard.Proofs.Terminal.Stuck

namespace Switchboard

/-! ### What is left to do -/

/-- What is left to do for the task that takes in what is typed, but for the
lines that are still to come. -/
def Typing.toDo : Typing → Nat
  | .listening => 6
  | .holding _ => 13
  | .reading _ => 12
  | .sending _ => 11
  | .closing => 5
  | .closed => 0

/-- What is left to do for an interrupt that has come. -/
def Interrupt.toDo : Interrupt → Nat
  | .sending => 5
  | .awaited | .done => 0

/-- What is left to do with what the loop has in hand. -/
def Hand.toDo : Hand → Nat
  | .nothing => 0
  | .event _ => 2
  | .restart => 1

/-- The event that the loop has in hand. -/
def Hand.events : Hand → List Event
  | .event e => [e]
  | .nothing | .restart => []

namespace Tasks

variable {t t' : Tasks} {e : Event} {l : Loop} {line : String} {lines : List String}

/-- What is left to do for all tasks, so that every move makes it less. -/
def toDo (t : Tasks) : Nat :=
  8 * t.lines.length + t.typing.toDo + t.interrupt.toDo + 4 * t.loop.supervisor.queue.length +
    3 * t.loop.backlog.length + t.hand.toDo + t.loop.picking.toNat

/-- An event that is queued makes the queue longer by one. -/
theorem length_queued (t : Tasks) (e : Event) :
    (t.queued e).loop.supervisor.queue.length = t.loop.supervisor.queue.length + 1 :=
  List.length_append

/-- An event that calls for a restart is absorbed without a change to the queue. -/
theorem queue_absorb (s : Supervisor) (e : Event) : (Loop.absorb s e).queue = s.queue :=
  (Loop.absorb_spec s (e, 0)).1

/-- A restart leaves the queue alone. -/
theorem queue_restart (s : Supervisor) : s.restart.2.queue = s.queue :=
  (Supervisor.beside_restart s).queue_eq

/-- The command that has been picked leaves the queue as it is. -/
theorem queue_performPicked (s : Supervisor) (active : Option Path) (c : Option Command) :
    (s.performPicked active c).queue = s.queue := by
  cases c with
  | none => rfl
  | some c =>
    by_cases hc : c = .restart
    · rw [hc]
      exact queue_restart s
    · exact (Supervisor.beside_perform s active hc).queue_eq

/-- Events that have been set aside are kept in order or dropped. -/
theorem backlog_attend_sublist (l : Loop) (active : Option Path) (e : Event) :
    (l.attend active e).backlog.Sublist l.backlog := by
  by_cases he : e = .shutdown
  · rw [he]
    exact List.nil_sublist _
  · rw [Loop.backlog_attend l active he]

/-- **A step of the input leaves less to do.** -/
theorem InputStep.toDo_lt (h : InputStep t t') : t'.toDo < t.toDo := by
  unfold toDo
  cases h with
  | line htyping hlines =>
    rw [htyping, hlines, List.length_cons]
    simp only [Typing.toDo]
    omega
  | finish htyping hlines =>
    rw [htyping]
    simp only [Typing.toDo]
    omega
  | answer htyping hoffer =>
    rw [htyping]
    simp only [Typing.toDo]
    omega
  | keep htyping hoffer =>
    rw [htyping]
    simp only [Typing.toDo]
    omega
  | @respond line htyping =>
    have hbefore : (Typing.reading line).toDo = 12 := rfl
    have hafter : (Typing.ofResponse (t.respond line).1).toDo < 12 := by
      cases (t.respond line).1 with
      | _ => simp [Typing.ofResponse, Typing.toDo]
    rw [htyping]
    dsimp only
    omega
  | @send e htyping hroom =>
    rw [htyping]
    dsimp only
    rw [length_queued]
    simp only [queued, withSupervisor, Typing.toDo]
    omega
  | close htyping hroom =>
    rw [htyping]
    dsimp only
    rw [length_queued]
    simp only [queued, withSupervisor, Typing.toDo]
    omega

/-- **A step of the loop leaves less to do.** -/
theorem LoopStep.toDo_lt (h : LoopStep t t') : t'.toDo < t.toDo := by
  unfold toDo
  cases h with
  | take hhand hended hpicking hnext =>
    rw [hhand]
    rcases nextEvent?_eq_some hnext with ⟨rest, hbacklog, rfl⟩ | ⟨rest, -, hqueue, rfl⟩
    · rw [hbacklog, List.length_cons]
      simp only [Hand.toDo]
      omega
    · rw [hqueue, List.length_cons]
      simp only [Hand.toDo]
      omega
  | @attend e hhand htrigger =>
    have hqueue := (Loop.beside_attend t.loop t.desk.active htrigger).queue_eq
    have hbacklog := (backlog_attend_sublist t.loop t.desk.active e).length_le
    have hpicking := Bool.toNat_le (t.loop.attend t.desk.active e).picking
    rw [hhand]
    simp only [goOn, hqueue, Hand.toDo]
    omega
  | @absorb e hhand htrigger =>
    rw [hhand]
    simp only [withSupervisor, queue_absorb, Hand.toDo]
    omega
  | @takeIn e rest hhand hqueue =>
    rw [hqueue, List.length_cons]
    unfold Loop.takeIn
    split_ifs with he
    · simp only [queue_absorb]
      omega
    · simp only [List.length_append, List.length_singleton]
      omega
  | restart hhand hqueue =>
    rw [hhand]
    simp only [withSupervisor, queue_restart, Hand.toDo]
    omega
  | @resume c hhand hpicking hpick =>
    rw [hpicking]
    simp only [Loop.resume, queue_performPicked, Bool.toNat_true, Bool.toNat_false]
    omega

/-- **No task moves for ever.** -/
theorem Move.toDo_lt (h : Move t t') : t'.toDo < t.toDo := by
  cases h with
  | input hinput => exact hinput.toDo_lt
  | interrupt hinterrupt hroom =>
    unfold toDo
    rw [hinterrupt]
    dsimp only
    rw [length_queued]
    simp only [queued, withSupervisor, Interrupt.toDo]
    omega
  | loop hloop => exact hloop.toDo_lt

/-! ### The end of the input is not lost -/

/-- The events that have been sent and not yet handled, in the order in which
they are handled. -/
def pending (t : Tasks) : List Event :=
  t.hand.events ++ t.loop.backlog ++ t.loop.supervisor.queue

/-- An event that is queued is the last of those that are pending. -/
theorem pending_queued (t : Tasks) (e : Event) : (t.queued e).pending = t.pending ++ [e] :=
  (List.append_assoc ..).symm

/-- What is pending stays so when an event is queued. -/
theorem mem_pending_queued {sent : Event} (h : sent ∈ t.pending) :
    sent ∈ (t.queued e).pending := by
  rw [pending_queued]
  exact List.mem_append_left _ h

/-- An event that the loop takes in hand stays pending. -/
theorem pending_take {next : Loop} (hhand : t.hand = .nothing)
    (hnext : t.loop.nextEvent? = some (e, next)) :
    ({ t with loop := next, hand := .event e } : Tasks).pending = t.pending := by
  unfold pending
  rw [hhand]
  rcases nextEvent?_eq_some hnext with ⟨rest, hbacklog, rfl⟩ | ⟨rest, hbacklog, hqueue, rfl⟩
  · rw [hbacklog]
    rfl
  · rw [hbacklog, hqueue]
    rfl

/-- The loop handles a shutdown, or leaves it where it waits. -/
theorem LoopStep.shutdown_mem_pending (h : LoopStep t t') (hmem : .shutdown ∈ t.pending) :
    .shutdown ∈ t'.pending ∨ t'.loop.ended = true := by
  cases h with
  | take hhand hended hpicking hnext => exact .inl (pending_take hhand hnext ▸ hmem)
  | @attend e hhand htrigger =>
    by_cases he : e = .shutdown
    · right
      change (t.loop.attend t.desk.active e).ended = true
      rw [Loop.ended_attend, decide_eq_true he, Bool.or_true]
    · left
      have hqueue := (Loop.beside_attend t.loop t.desk.active htrigger).queue_eq
      rw [pending, hhand] at hmem
      change .shutdown ∈ [] ++ (t.loop.attend t.desk.active e).backlog ++
        (t.loop.attend t.desk.active e).supervisor.queue
      rw [Loop.backlog_attend _ _ he, hqueue]
      simpa [Hand.events, Ne.symm he] using hmem
  | @absorb e hhand htrigger =>
    left
    have he : .shutdown ≠ e := fun he => by simp [← he, Event.isTrigger] at htrigger
    rw [pending, hhand] at hmem
    change .shutdown ∈ [] ++ t.loop.backlog ++ (Loop.absorb t.loop.supervisor e).queue
    rw [queue_absorb]
    simpa [Hand.events, he] using hmem
  | @takeIn e rest hhand hqueue =>
    left
    rw [pending, hhand, hqueue] at hmem
    unfold Loop.takeIn
    split_ifs with he
    · have hne : .shutdown ≠ e := fun hne => by simp [← hne, Event.isTrigger] at he
      rw [pending, hhand, queue_absorb]
      simpa [Hand.events, hne] using hmem
    · rw [pending, hhand]
      simpa [Hand.events] using hmem
  | restart hhand hqueue =>
    left
    rw [pending, hhand] at hmem
    change .shutdown ∈ [] ++ t.loop.backlog ++ t.loop.supervisor.restart.2.queue
    rwa [queue_restart]
  | @resume c hhand hpicking hpick =>
    left
    change .shutdown ∈ t.hand.events ++ t.loop.backlog ++
      (t.loop.supervisor.performPicked t.desk.active c).queue
    rwa [queue_performPicked]

/-- The loop does not touch where the input is. -/
theorem LoopStep.typing_eq (h : LoopStep t t') : t'.typing = t.typing := by
  cases h with
  | _ => rfl

/-- A step of the loop leaves the lines that are still to come. -/
theorem LoopStep.lines_eq (h : LoopStep t t') : t'.lines = t.lines := by
  cases h with
  | _ => rfl

/-- A loop that has ended stays ended. -/
theorem LoopStep.ended (h : LoopStep t t') (hended : t.loop.ended = true) :
    t'.loop.ended = true := by
  cases h with
  | take hhand hgoing hpicking hnext => exact absurd (hended.symm.trans hgoing) (by simp)
  | attend hhand htrigger =>
    change (t.loop.attend t.desk.active _).ended = true
    rw [Loop.ended_attend, hended, Bool.true_or]
  | @takeIn e rest hhand hqueue =>
    unfold Loop.takeIn
    split_ifs
    · exact hended
    · exact hended
  | _ => exact hended

/-- When the input has ended, its shutdown waits until the loop has ended. -/
def Announced (t : Tasks) : Prop :=
  t.typing = .closed → t.loop.ended = false → .shutdown ∈ t.pending

/-- **A shutdown that is announced stays so in every step**, until it is handled. -/
theorem Announced.step (h : t.Announced) (hstep : Step t t') : t'.Announced := by
  intro hclosed hended
  cases hstep with
  | move hmove =>
    cases hmove with
    | input hinput =>
      cases hinput with
      | @respond line htyping =>
        change Typing.ofResponse (t.respond line).1 = .closed at hclosed
        cases hresponse : (t.respond line).1 with
        | _ => simp [hresponse, Typing.ofResponse] at hclosed
      | close htyping hroom =>
        change .shutdown ∈ (t.queued .shutdown).pending
        rw [pending_queued]
        exact List.mem_append_right _ (List.mem_singleton_self _)
      | _ => exact absurd hclosed (by simp)
    | interrupt hinterrupt hroom =>
      exact mem_pending_queued (e := .shutdown) (h hclosed hended)
    | loop hloop =>
      have hgoing : t.loop.ended = false := by
        by_contra hne
        rw [Bool.not_eq_false] at hne
        exact absurd ((hloop.ended hne).symm.trans hended) (by simp)
      have hmem := h (hloop.typing_eq.symm.trans hclosed) hgoing
      refine (hloop.shutdown_mem_pending hmem).resolve_right ?_
      exact fun hne => absurd (hne.symm.trans hended) (by simp)
  | interrupted hinterrupt => exact h hclosed hended
  | around hs =>
    have hmem := h hclosed hended
    rw [pending] at hmem ⊢
    rwa [withSupervisor, hs.queue_eq]
  | changed path hroom => exact mem_pending_queued (h hclosed hended)

/-- The shutdown stays announced whatever the tasks come to. -/
theorem announced_of_reach (ht : t.Announced) (h : Reach t t') : t'.Announced := by
  induction h with
  | refl => exact ht
  | tail _ hstep ih => exact ih.step hstep

/-! ### The program ends or gets stuck -/

/-- Whether the task that takes in what is typed can move on only when there is room. -/
def Blocked (t : Tasks) : Prop :=
  match t.typing with
  | .sending _ | .closing => ¬ t.HasRoom
  | .closed => True
  | _ => False

/-- The task of the input can move unless it is blocked. -/
theorem exists_inputStep (h : ¬ t.Blocked) : ∃ t', InputStep t t' := by
  unfold Blocked at h
  cases htyping : t.typing with
  | listening =>
    cases hlines : t.lines with
    | nil => exact ⟨_, .finish htyping hlines⟩
    | cons line rest => exact ⟨_, .line htyping hlines⟩
  | holding line =>
    cases hwaiting : t.desk.waiting with
    | true => exact ⟨_, .answer htyping (Desk.offer_of_waiting hwaiting line)⟩
    | false => exact ⟨_, .keep htyping (Desk.offer_of_not_waiting hwaiting line)⟩
  | reading line => exact ⟨_, .respond htyping⟩
  | sending e =>
    rw [htyping] at h
    exact ⟨_, .send htyping (not_not.1 h)⟩
  | closing =>
    rw [htyping] at h
    exact ⟨_, .close htyping (not_not.1 h)⟩
  | closed =>
    rw [htyping] at h
    exact absurd trivial h

/-- A task that is blocked does not come to an answer. -/
theorem Blocked.not_canAnswer (h : t.Blocked) : ¬ t.CanAnswer := by
  unfold Blocked at h
  unfold CanAnswer
  cases htyping : t.typing with
  | sending e =>
    rw [htyping] at h
    exact fun hcan => h hcan.2
  | closing => exact fun hcan => hcan.2
  | closed => exact fun hcan => hcan.2
  | _ =>
    rw [htyping] at h
    exact h.elim

/-- Where there is room, only a task that has come to its end is blocked. -/
theorem Blocked.closed (h : t.Blocked) (hroom : t.HasRoom) : t.typing = .closed := by
  unfold Blocked at h
  cases htyping : t.typing with
  | closed => rfl
  | sending e =>
    rw [htyping] at h
    exact absurd hroom h
  | closing =>
    rw [htyping] at h
    exact absurd hroom h
  | _ =>
    rw [htyping] at h
    exact h.elim

/-- **Some task can move**, unless the loop has ended or is stuck. -/
theorem Announced.exists_move (h : t.Announced) (hended : t.loop.ended = false)
    (hstuck : ¬ t.Stuck) : ∃ t', Move t t' := by
  by_cases hblocked : t.Blocked
  · suffices hloop : ∃ t', LoopStep t t' by
      obtain ⟨t', ht'⟩ := hloop
      exact ⟨t', .loop ht'⟩
    cases hhand : t.hand with
    | event e =>
      cases he : e.isTrigger with
      | true => exact ⟨_, .absorb hhand he⟩
      | false => exact ⟨_, .attend hhand he⟩
    | restart =>
      cases hqueue : t.loop.supervisor.queue with
      | nil => exact ⟨_, .restart hhand hqueue⟩
      | cons e rest => exact ⟨_, .takeIn hhand hqueue⟩
    | nothing =>
      cases hpicking : t.loop.picking with
      | true =>
        cases hpick : t.desk.lastPick with
        | picked c => exact ⟨_, .resume hhand hpicking hpick⟩
        | pending =>
          have hwaits : t.Waits := ⟨hhand, hended, hpicking, hpick⟩
          exact absurd (hwaits.stuck hblocked.not_canAnswer) hstuck
      | false =>
        cases hnext : t.loop.nextEvent? with
        | some p => exact ⟨_, .take hhand hended hpicking hnext⟩
        | none =>
          -- Nothing waits, so there is room, and the shutdown of the input is missing.
          obtain ⟨hbacklog, hqueue⟩ := nextEvent?_eq_none hnext
          have hclosed := hblocked.closed (by rw [HasRoom, hqueue]; decide)
          have hmem := h hclosed hended
          rw [pending, hhand, hbacklog, hqueue] at hmem
          exact absurd hmem List.not_mem_nil
  · obtain ⟨t', ht'⟩ := exists_inputStep hblocked
    exact ⟨t', .input ht'⟩

/-- **The program comes to its end or gets stuck** when nothing comes from outside. -/
theorem Announced.exists_run_ended_or_stuck (h : t.Announced) :
    ∃ t', Run t t' ∧ (t'.loop.ended = true ∨ t'.Stuck) := by
  induction hn : t.toDo using Nat.strongRecOn generalizing t with
  | _ n ih =>
    cases hended : t.loop.ended with
    | true => exact ⟨t, .refl, .inl hended⟩
    | false =>
      by_cases hstuck : t.Stuck
      · exact ⟨t, .refl, .inr hstuck⟩
      · obtain ⟨t₁, hmove⟩ := h.exists_move hended hstuck
        obtain ⟨t', hrun, hend⟩ := ih t₁.toDo (hn ▸ hmove.toDo_lt) (h.step (.move hmove)) rfl
        exact ⟨t', .head hmove hrun, hend⟩

end Tasks
end Switchboard
