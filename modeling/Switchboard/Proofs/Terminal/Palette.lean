/-
# Lines that open the palette

Whether the program can get stuck depends on the input alone.  When a line opens
the palette before the input ends (`OpensPalette`), the tasks can go on so that it
does, whatever lines follow: the loop takes the event of that line, the input goes
on until it ends or the queue is full, and only then the loop opens the palette
(`exists_run_stuck`).  Otherwise no palette is ever opened (`Quiet`), and whatever
happens the program can come to its end (`stuck_iff_opensPalette`).
-/

import Switchboard.Proofs.Terminal.Progress

namespace Switchboard

/-! ### What lines come to -/

/-- Whether a line opens the palette before one ends the input. -/
def OpensPalette (lines : List String) : Prop :=
  .commands ∈ (lines.map Line.read).takeWhile (· != .quit)

instance (lines : List String) : Decidable (OpensPalette lines) :=
  inferInstanceAs (Decidable (_ ∈ _))

/-- Where there is no line none opens the palette. -/
theorem not_opensPalette_nil : ¬ OpensPalette [] := List.not_mem_nil

/-- The first line opens the palette, or it does not end the input and a later one does. -/
theorem opensPalette_cons {line : String} {lines : List String} :
    OpensPalette (line :: lines) ↔
      Line.read line ≠ .quit ∧ (Line.read line = .commands ∨ OpensPalette lines) := by
  unfold OpensPalette
  rw [List.map_cons, List.takeWhile_cons]
  split_ifs with hquit
  · rw [bne_iff_ne] at hquit
    rw [List.mem_cons, eq_comm]
    exact (and_iff_right hquit).symm
  · rw [bne_iff_ne, not_not] at hquit
    exact ⟨fun h => absurd h List.not_mem_nil, fun h => absurd hquit h.1⟩

/-- What neither opens the palette nor ends the input. -/
def Response.Plain : Response → Prop
  | .event e => e ≠ .command .showCommands ∧ e ≠ .shutdown
  | .answer _ => True
  | .quit => False

namespace Input

variable {disk : Disk} {cwd : Path} {d : Desk} {line : Line}

/-- Two lines have effects of their own, and all others are plain. -/
theorem plain_respond (hcommands : line ≠ .commands) (hquit : line ≠ .quit) :
    (respond disk cwd d line).1.Plain := by
  have hdocument (path : Path) (make : Path → String → Event)
      (hmake : ∀ text, make path text ≠ .command .showCommands ∧ make path text ≠ .shutdown) :
      (document disk d path make).1.Plain := by
    unfold document
    split
    next text _ => exact hmake text
    · trivial
  cases line with
  | commands => exact absurd rfl hcommands
  | quit => exact absurd rfl hquit
  | openFile raw => exact hdocument _ .opened fun text => ⟨by simp, by simp⟩
  | changeFile raw => exact hdocument _ .changed fun text => ⟨by simp, by simp⟩
  | fix raw =>
    cases raw with
    | _ => exact ⟨by simp, by simp⟩
  | closeFile raw => exact ⟨by simp, by simp⟩
  | restart => exact ⟨by simp, by simp⟩
  | output => exact ⟨by simp, by simp⟩
  | folders raws => exact ⟨by simp, by simp⟩
  | _ => trivial

end Input

namespace Tasks

variable {t t' : Tasks} {e : Event} {l : Loop} {line : String} {lines : List String}

/-! ### Without a palette -/

/-- A step of the loop brings no event in that was not on its way. -/
theorem LoopStep.pending_sublist (h : LoopStep t t') : t'.pending.Sublist t.pending := by
  cases h with
  | take hhand hended hpicking hnext => rw [pending_take hhand hnext]
  | @attend e hhand htrigger =>
    have hqueue := (Loop.beside_attend t.loop t.desk.active htrigger).queue_eq
    have hbacklog := backlog_attend_sublist t.loop t.desk.active e
    change ([] ++ (t.loop.attend t.desk.active e).backlog ++
      (t.loop.attend t.desk.active e).supervisor.queue).Sublist _
    rw [hqueue]
    exact ((List.nil_sublist _).append hbacklog).append (.refl _)
  | @absorb e hhand htrigger =>
    change ([] ++ t.loop.backlog ++ (Loop.absorb t.loop.supervisor e).queue).Sublist _
    rw [queue_absorb]
    exact ((List.nil_sublist _).append (.refl _)).append (.refl _)
  | @takeIn e rest hhand hqueue =>
    unfold Loop.takeIn
    split_ifs with he
    · rw [pending, pending, hqueue, queue_absorb]
      exact (List.Sublist.refl _).append (List.sublist_cons_self e rest)
    · rw [pending, pending, hqueue]
      simp
  | restart hhand hqueue =>
    change ([] ++ t.loop.backlog ++ t.loop.supervisor.restart.2.queue).Sublist _
    rw [queue_restart]
    exact ((List.nil_sublist _).append (.refl _)).append (.refl _)
  | @resume c hhand hpicking hpick =>
    change (t.hand.events ++ t.loop.backlog ++
      (t.loop.supervisor.performPicked t.desk.active c).queue).Sublist _
    rw [queue_performPicked]
    exact .refl _

/-- The lines that can still be read as commands. -/
def upcoming (t : Tasks) : List String :=
  match t.typing with
  | .listening | .sending _ => t.lines
  | .holding line | .reading line => line :: t.lines
  | .closing | .closed => []

/-- No palette is open, and none is on its way. -/
structure Quiet (t : Tasks) : Prop where
  upcoming : ¬ OpensPalette t.upcoming
  sending : t.typing ≠ .sending (.command .showCommands)
  pending : .command .showCommands ∉ t.pending
  picking : t.loop.picking = false
  waiting : t.desk.waiting = false

/-- An event that asks for no palette may be queued in quiet. -/
theorem Quiet.queued (h : t.Quiet) (he : e ≠ .command .showCommands) : (t.queued e).Quiet := by
  refine ⟨h.upcoming, h.sending, ?_, h.picking, h.waiting⟩
  rw [pending_queued, List.mem_append, List.mem_singleton]
  exact not_or.2 ⟨h.pending, he.symm⟩

/-- What is typed keeps the quiet as long as it asks for no palette. -/
theorem Quiet.inputStep (h : t.Quiet) (hinput : InputStep t t') : t'.Quiet := by
  have hup := h.upcoming
  unfold Tasks.upcoming at hup
  cases hinput with
  | line htyping hlines =>
    rw [htyping, hlines] at hup
    exact ⟨hup, by simp, h.pending, h.picking, h.waiting⟩
  | finish htyping hlines => exact ⟨not_opensPalette_nil, by simp, h.pending, h.picking, h.waiting⟩
  | answer htyping hoffer =>
    exact absurd ((Desk.of_offer_eq_true hoffer).1.symm.trans h.waiting) (by simp)
  | keep htyping hoffer =>
    rw [htyping] at hup
    obtain ⟨-, rfl⟩ := Desk.of_offer_eq_false hoffer
    exact ⟨hup, by simp, h.pending, h.picking, h.waiting⟩
  | @respond line htyping =>
    rw [htyping, opensPalette_cons] at hup
    have hwaiting : (t.respond line).2.waiting = false := by
      obtain ⟨active, hactive⟩ := t.exists_active_respond line
      rw [hactive]
      exact h.waiting
    by_cases hquit : Line.read line = .quit
    · have hresponse : (t.respond line).1 = .quit := by
        rw [respond, hquit]
        rfl
      rw [hresponse]
      exact ⟨not_opensPalette_nil, by simp [Typing.ofResponse], h.pending, h.picking, hwaiting⟩
    · obtain ⟨hcommands, hrest⟩ := not_or.1 fun hopens => hup ⟨hquit, hopens⟩
      have hplain : (t.respond line).1.Plain := Input.plain_respond hcommands hquit
      generalize t.respond line = p at hwaiting hplain ⊢
      obtain ⟨r, desk⟩ := p
      cases r with
      | event e =>
        refine ⟨hrest, fun heq => hplain.1 ?_, h.pending, h.picking, hwaiting⟩
        exact Typing.sending.inj heq
      | answer lines => exact ⟨hrest, by simp [Typing.ofResponse], h.pending, h.picking, hwaiting⟩
      | quit => exact hplain.elim
  | @send e htyping hroom =>
    rw [htyping] at hup
    have hne : e ≠ .command .showCommands := fun he => h.sending (he ▸ htyping)
    exact ⟨hup, by simp, (h.queued hne).pending, h.picking, h.waiting⟩
  | close htyping hroom =>
    have hqueued : (t.queued .shutdown).Quiet := h.queued (by simp)
    exact ⟨not_opensPalette_nil, by simp, hqueued.pending, h.picking, h.waiting⟩

/-- Only the event that asks for it opens the palette. -/
theorem picking_attend (l : Loop) (active : Option Path) (he : e ≠ .command .showCommands) :
    (l.attend active e).picking = l.picking := by
  cases e with
  | command c =>
    have hc : c ≠ .showCommands := fun hc => he (hc ▸ rfl)
    unfold Loop.attend
    dsimp only
    rw [if_neg hc]
  | _ => rfl

/-- A step of the loop keeps the quiet. -/
theorem Quiet.loopStep (h : t.Quiet) (hloop : LoopStep t t') : t'.Quiet := by
  have hpending : .command .showCommands ∉ t'.pending :=
    fun hmem => h.pending (hloop.pending_sublist.subset hmem)
  have hup : t'.upcoming = t.upcoming := by
    unfold Tasks.upcoming
    rw [hloop.typing_eq, hloop.lines_eq]
  have hsending : t'.typing ≠ .sending (.command .showCommands) := hloop.typing_eq ▸ h.sending
  suffices hdesk : t'.loop.picking = false ∧ t'.desk.waiting = false from
    ⟨hup ▸ h.upcoming, hsending, hpending, hdesk.1, hdesk.2⟩
  cases hloop with
  | take hhand hended hpicking hnext =>
    refine ⟨?_, h.waiting⟩
    rcases nextEvent?_eq_some hnext with ⟨rest, -, rfl⟩ | ⟨rest, -, -, rfl⟩
    · exact h.picking
    · exact h.picking
  | @attend e hhand htrigger =>
    have he : e ≠ .command .showCommands := by
      rintro rfl
      refine h.pending ?_
      rw [Tasks.pending, hhand]
      exact List.mem_cons_self ..
    have hpicking := picking_attend t.loop t.desk.active he
    rw [goOn_of_picking_eq hpicking]
    exact ⟨hpicking.trans h.picking, h.waiting⟩
  | @takeIn e rest hhand hqueue =>
    refine ⟨?_, h.waiting⟩
    unfold Loop.takeIn
    split_ifs
    · exact h.picking
    · exact h.picking
  | resume hhand hpicking hpick => exact absurd (hpicking.symm.trans h.picking) (by simp)
  | _ => exact ⟨h.picking, h.waiting⟩

/-- No palette comes up but by a line that opens it. -/
theorem Quiet.step (h : t.Quiet) (hstep : Step t t') : t'.Quiet := by
  cases hstep with
  | move hmove =>
    cases hmove with
    | input hinput => exact h.inputStep hinput
    | interrupt hinterrupt hroom =>
      have hqueued : (t.queued .shutdown).Quiet := h.queued (by simp)
      exact ⟨hqueued.upcoming, hqueued.sending, hqueued.pending, hqueued.picking, hqueued.waiting⟩
    | loop hloop => exact h.loopStep hloop
  | interrupted hinterrupt => exact ⟨h.upcoming, h.sending, h.pending, h.picking, h.waiting⟩
  | around hs =>
    refine ⟨h.upcoming, h.sending, ?_, h.picking, h.waiting⟩
    rw [Tasks.pending, withSupervisor, hs.queue_eq]
    exact h.pending
  | changed path hroom => exact h.queued (by simp)

/-- Where it is quiet it stays quiet. -/
theorem quiet_of_reach (ht : t.Quiet) (h : Reach t t') : t'.Quiet := by
  induction h with
  | refl => exact ht
  | tail _ hstep ih => exact ih.step hstep

/-- Where it is quiet nothing is stuck. -/
theorem Quiet.not_stuck (h : t.Quiet) : ¬ t.Stuck :=
  fun hstuck => absurd (h.picking.symm.trans hstuck.waits.picking_eq) (by simp)

/-! ### With a palette -/

/-- Nothing is under way, and there has been no palette. -/
structure Calm (t : Tasks) : Prop where
  hand_eq : t.hand = .nothing
  ended_eq : t.loop.ended = false
  picking_eq : t.loop.picking = false
  backlog_eq : t.loop.backlog = []
  queue_eq : t.loop.supervisor.queue = []
  waiting_eq : t.desk.waiting = false
  answers_eq : t.desk.answers = []

/-- The loop has the event in hand that opens the first palette. -/
structure Opening (t : Tasks) : Prop where
  hand_eq : t.hand = .event (.command .showCommands)
  ended_eq : t.loop.ended = false
  picking_eq : t.loop.picking = false
  waiting_eq : t.desk.waiting = false
  answers_eq : t.desk.answers = []

/-- In the calm there is room in the queue. -/
theorem Calm.hasRoom (h : t.Calm) : t.HasRoom := by
  rw [HasRoom, h.queue_eq]
  decide

/-- What the loop keeps when it handles a plain event and nothing else waits. -/
theorem handle_calm (l : Loop) (active : Option Path) (hbacklog : l.backlog = [])
    (hqueue : l.supervisor.queue = []) (hplain : (Response.event e).Plain) :
    (l.handle active e).backlog = [] ∧ (l.handle active e).supervisor.queue = [] ∧
      (l.handle active e).ended = l.ended ∧ (l.handle active e).picking = l.picking := by
  obtain ⟨hshow, hshut⟩ := hplain
  unfold Loop.handle
  split_ifs with he
  · have hdrain := drain_nil ((queue_absorb l.supervisor e).trans hqueue)
    unfold Loop.restartFor
    rw [hdrain]
    refine ⟨(List.append_nil _).trans hbacklog, ?_, rfl, rfl⟩
    exact (queue_restart _).trans ((queue_absorb _ e).trans hqueue)
  · rw [Bool.not_eq_true] at he
    have hbacklog' := (Loop.backlog_attend l active hshut).trans hbacklog
    refine ⟨hbacklog', ?_, ?_, picking_attend l active hshow⟩
    · exact (Loop.beside_attend l active he).queue_eq.trans hqueue
    · rw [Loop.ended_attend, decide_eq_false hshut, Bool.or_false]

/-- An event that is sent while nothing is under way can be taken at once. -/
theorem Calm.run_take (h : t.Calm) (htyping : t.typing = .sending e) :
    Run t { t with typing := .listening, hand := .event e } := by
  have hone : (t.queued e).loop.supervisor.queue = [e] := congrArg (· ++ [e]) h.queue_eq
  have hnext := nextEvent?_of_queue (l := (t.queued e).loop) h.backlog_eq hone
  have htake := (LoopStep.take (t := { t.queued e with typing := .listening })
    h.hand_eq h.ended_eq h.picking_eq hnext).run
  have hqueue : { t.loop.supervisor with queue := [] } = t.loop.supervisor := by rw [← h.queue_eq]
  refine .trans (InputStep.send htyping h.hasRoom).run ?_
  unfold queued withSupervisor Supervisor.enqueue at htake
  dsimp only at htake
  rwa [hqueue] at htake

/-- A plain event that is sent while nothing is under way can be handled at once. -/
theorem Calm.exists_run_handle (h : t.Calm) (htyping : t.typing = .sending e)
    (hplain : (Response.event e).Plain) :
    ∃ t', Run t t' ∧ t'.Calm ∧ t'.typing = .listening ∧ t'.lines = t.lines := by
  obtain ⟨hbacklog, hqueue, hended, hpicking⟩ :=
    handle_calm t.loop t.desk.active h.backlog_eq h.queue_eq hplain
  let t₁ : Tasks := { t with typing := .listening, hand := .event e }
  have hgoOn : t₁.goOn (t.loop.handle t.desk.active e) =
      { t₁ with loop := t.loop.handle t.desk.active e } := goOn_of_picking_eq hpicking
  have hhand : Run t₁ { t₁.goOn (t.loop.handle t.desk.active e) with hand := .nothing } :=
    run_hand rfl
  rw [hgoOn] at hhand
  refine ⟨_, (h.run_take htyping).trans hhand, ?_, rfl, rfl⟩
  exact ⟨rfl, hended.trans h.ended_eq, hpicking.trans h.picking_eq, hbacklog, hqueue,
    h.waiting_eq, h.answers_eq⟩

/-- A line that no palette takes is read. -/
theorem Calm.exists_run_respond (h : t.Calm) (htyping : t.typing = .listening)
    (hlines : t.lines = line :: lines) :
    ∃ t', Run t t' ∧ t'.Calm ∧ t'.lines = lines ∧ t'.typing = .ofResponse (t.respond line).1 := by
  have hline := (InputStep.line htyping hlines).run
  have hoffer := Desk.offer_of_not_waiting h.waiting_eq line
  have hkeep := (InputStep.keep (t := { t with lines, typing := .holding line }) rfl hoffer).run
  have hrespond := (InputStep.respond (t := { t with lines, typing := .reading line }) rfl).run
  obtain ⟨active, hdesk⟩ := t.exists_active_respond line
  refine ⟨_, (hline.trans hkeep).trans hrespond, ?_, rfl, rfl⟩
  refine ⟨h.hand_eq, h.ended_eq, h.picking_eq, h.backlog_eq, h.queue_eq, ?_, ?_⟩
  · change (t.respond line).2.waiting = false
    rw [hdesk]
    exact h.waiting_eq
  · change (t.respond line).2.answers = []
    rw [hdesk]
    exact h.answers_eq

/-- The loop can take the event of the first line that opens the palette. -/
theorem Calm.exists_run_opening (h : t.Calm) (htyping : t.typing = .listening)
    (hopens : OpensPalette t.lines) : ∃ t', Run t t' ∧ t'.Opening := by
  induction hlines : t.lines generalizing t with
  | nil => exact absurd (hlines ▸ hopens) not_opensPalette_nil
  | cons line lines ih =>
    rw [hlines, opensPalette_cons] at hopens
    obtain ⟨hquit, hopens⟩ := hopens
    obtain ⟨t₁, hrun, hcalm, hlines₁, htyping₁⟩ := h.exists_run_respond htyping hlines
    by_cases hcommands : Line.read line = .commands
    · have hsending : t₁.typing = .sending (.command .showCommands) := by
        rw [htyping₁, respond, hcommands]
        rfl
      refine ⟨_, hrun.trans (hcalm.run_take hsending), ?_⟩
      exact ⟨rfl, hcalm.ended_eq, hcalm.picking_eq, hcalm.waiting_eq, hcalm.answers_eq⟩
    · have hrest := hopens.resolve_left hcommands
      have hplain : (t.respond line).1.Plain := Input.plain_respond hcommands hquit
      cases hresponse : (t.respond line).1 with
      | event e =>
        rw [hresponse] at htyping₁ hplain
        obtain ⟨t₂, hrun₂, hcalm₂, htyping₂, hlines₂⟩ := hcalm.exists_run_handle htyping₁ hplain
        have hlines := hlines₂.trans hlines₁
        obtain ⟨t', hrun', hopening⟩ := ih hcalm₂ htyping₂ (hlines ▸ hrest) hlines
        exact ⟨t', (hrun.trans hrun₂).trans hrun', hopening⟩
      | answer answer =>
        rw [hresponse] at htyping₁
        obtain ⟨t', hrun', hopening⟩ := ih hcalm htyping₁ (hlines₁ ▸ hrest) hlines₁
        exact ⟨t', hrun.trans hrun', hopening⟩
      | quit => exact (hresponse ▸ hplain).elim

/-- A step at the input leaves the event in hand that opens the first palette. -/
theorem Opening.inputStep (h : t.Opening) (hinput : InputStep t t') : t'.Opening := by
  cases hinput with
  | answer htyping hoffer =>
    exact absurd ((Desk.of_offer_eq_true hoffer).1.symm.trans h.waiting_eq) (by simp)
  | keep htyping hoffer =>
    obtain ⟨-, rfl⟩ := Desk.of_offer_eq_false hoffer
    exact ⟨h.hand_eq, h.ended_eq, h.picking_eq, h.waiting_eq, h.answers_eq⟩
  | @respond line htyping =>
    obtain ⟨active, hdesk⟩ := t.exists_active_respond line
    rw [hdesk]
    exact ⟨h.hand_eq, h.ended_eq, h.picking_eq, h.waiting_eq, h.answers_eq⟩
  | _ => exact ⟨h.hand_eq, h.ended_eq, h.picking_eq, h.waiting_eq, h.answers_eq⟩

/-- While the loop has that event in hand, the input can go on until it ends or waits. -/
theorem Opening.exists_run_blocked (h : t.Opening) : ∃ t', Run t t' ∧ t'.Opening ∧ t'.Blocked := by
  induction hn : t.toDo using Nat.strongRecOn generalizing t with
  | _ n ih =>
    by_cases hblocked : t.Blocked
    · exact ⟨t, .refl, h, hblocked⟩
    · obtain ⟨t₁, hinput⟩ := exists_inputStep hblocked
      obtain ⟨t', hrun, hopening, hend⟩ :=
        ih t₁.toDo (hn ▸ hinput.toDo_lt) (h.inputStep hinput) rfl
      exact ⟨t', hinput.run.trans hrun, hopening, hend⟩

/-- A palette that is opened while the input waits, or when it has ended, is stuck. -/
theorem Opening.exists_run_stuck (h : t.Opening) (hblocked : t.Blocked) :
    ∃ t', Run t t' ∧ t'.Stuck ∧ t'.typing = t.typing ∧
      t'.loop.supervisor.queue = t.loop.supervisor.queue := by
  have hattend := LoopStep.attend h.hand_eq rfl
  refine ⟨_, hattend.run, ?_, rfl, rfl⟩
  refine Waits.stuck ⟨rfl, h.ended_eq, rfl, ?_⟩ (Blocked.not_canAnswer ?_)
  · change (if true && !t.loop.picking then t.desk.openPalette else t.desk).lastPick = .pending
    rw [h.picking_eq, if_pos (by decide)]
    exact Desk.lastPick_openPalette h.answers_eq
  · exact hblocked

/-- **The program can get stuck** when a line opens the palette, whatever lines follow. -/
theorem Calm.exists_run_stuck (h : t.Calm) (htyping : t.typing = .listening)
    (hopens : OpensPalette t.lines) : ∃ t', Run t t' ∧ t'.Stuck := by
  obtain ⟨t₁, hrun₁, hopening₁⟩ := h.exists_run_opening htyping hopens
  obtain ⟨t₂, hrun₂, hopening₂, hblocked⟩ := hopening₁.exists_run_blocked
  obtain ⟨t', hrun', hstuck, -⟩ := hopening₂.exists_run_stuck hblocked
  exact ⟨t', (hrun₁.trans hrun₂).trans hrun', hstuck⟩

/-! ### The input decides -/

variable {s : Supervisor}

/-- The tasks begin in the calm. -/
theorem calm_start (hqueue : s.queue = []) (cwd : Path) (lines : List String) :
    (start s cwd lines).Calm := ⟨rfl, rfl, rfl, rfl, hqueue, rfl, rfl⟩

/-- The tasks begin in quiet if no line opens the palette. -/
theorem quiet_start (hqueue : s.queue = []) (cwd : Path) (hlines : ¬ OpensPalette lines) :
    (start s cwd lines).Quiet := by
  refine ⟨hlines, by simp [start], ?_, rfl, rfl⟩
  change _ ∉ [] ++ [] ++ s.queue
  rw [hqueue]
  exact List.not_mem_nil

/-- The input has not ended at the beginning, so nothing has to be announced. -/
theorem announced_start (s : Supervisor) (cwd : Path) (lines : List String) :
    (start s cwd lines).Announced := fun hclosed => absurd hclosed (by simp [start])

/-- **The program gets stuck at the palette or not at all**, and whether it can
depends on the lines alone.  When one of them opens the palette before the input
ends, the tasks can by themselves go on so that the loop waits for ever.
Otherwise they cannot, whatever comes from outside: from every state that is
reached the program can come to its end.  Stuck is exactly a loop that waits for a
palette that cannot get an answer. -/
theorem stuck_iff_opensPalette (s : Supervisor) (hqueue : s.queue = []) (cwd : Path)
    (lines : List String) :
    (OpensPalette lines → ∃ t, Run (start s cwd lines) t ∧ t.Stuck) ∧
      ∀ t, Reach (start s cwd lines) t → (t.Stuck → OpensPalette lines) ∧
        (t.Stuck ↔ t.Waits ∧ ¬ t.CanAnswer) ∧
        ∃ t', Run t t' ∧ (t'.loop.ended = true ∨ t'.Stuck) := by
  refine ⟨fun hopens => (calm_start hqueue cwd lines).exists_run_stuck rfl hopens, ?_⟩
  intro t hreach
  refine ⟨fun hstuck => ?_, stuck_iff, ?_⟩
  · by_contra hlines
    exact (quiet_of_reach (quiet_start hqueue cwd hlines) hreach).not_stuck hstuck
  · exact (announced_of_reach (announced_start s cwd lines) hreach).exists_run_ended_or_stuck

/-- The line `commands` gets the program stuck. -/
theorem stuck_iff_opensPalette_commands :
    ∃ s, Supervisor.make .default [] none 7 (.ofDisk ⟨.directory [], [], Platform.linux⟩) = .ok s ∧
      s.start.2.queue = [] ∧ OpensPalette ["help", "commands", "1"] ∧
      ∃ t, Run (start s.start.2 ⟨[]⟩ ["help", "commands", "1"]) t ∧ t.Stuck := by
  refine ⟨_, rfl, rfl, by decide, ?_⟩
  exact (stuck_iff_opensPalette _ rfl ⟨[]⟩ ["help", "commands", "1"]).1 (by decide)

/-- The palette is open, and the input has ended. -/
theorem exists_run_shutdown_waits (hqueue : s.queue = []) (cwd : Path) :
    ∃ t, Run (start s cwd ["commands"]) t ∧ t.typing = .closed ∧
      t.loop.supervisor.queue = [.shutdown] ∧ t.Stuck := by
  obtain ⟨t₁, hrun₁, hcalm₁, hlines₁, htyping₁⟩ :=
    (calm_start hqueue cwd ["commands"]).exists_run_respond rfl rfl
  -- The loop takes the event, the input ends, and only then the palette is opened.
  let taken : Tasks := { t₁ with typing := .listening, hand := .event (.command .showCommands) }
  have htaken : Run t₁ taken := hcalm₁.run_take htyping₁
  have hfinish : Run taken { taken with typing := .closing } :=
    (InputStep.finish (t := taken) rfl hlines₁).run
  have hclose := (InputStep.close (t := { taken with typing := .closing }) rfl hcalm₁.hasRoom).run
  have hopening : Opening { taken.queued .shutdown with typing := .closed } :=
    ⟨rfl, hcalm₁.ended_eq, hcalm₁.picking_eq, hcalm₁.waiting_eq, hcalm₁.answers_eq⟩
  obtain ⟨t, hrun, hstuck, htyping, hwaits⟩ := hopening.exists_run_stuck trivial
  have hbefore := (hrun₁.trans htaken).trans (hfinish.trans hclose)
  refine ⟨t, hbefore.trans hrun, htyping, hwaits.trans ?_, hstuck⟩
  exact congrArg (· ++ [.shutdown]) hcalm₁.queue_eq

/-- **A shutdown can wait for ever**: one line opens the palette, and the input
ends.  So it is with the tasks, and so it is when the program runs line by line. -/
theorem shutdown_waits_for_ever :
    (∃ s, Supervisor.make .default [] none 7 (.ofDisk ⟨.directory [], [], Platform.linux⟩) = .ok s ∧
      ∃ t, Run (start s.start.2 ⟨[]⟩ ["commands"]) t ∧ t.typing = .closed ∧
        t.loop.supervisor.queue = [.shutdown] ∧ t.Stuck) ∧
    ∃ w p, Program.start ⟨[.ofText "."], none, none⟩ (.ofText "/home") 7
        (.ofDisk ⟨.directory [], [], Platform.linux⟩) = .ok (w, p) ∧
      (p.type (Utf8.encode "commands\n")).finishInput.loop.supervisor.queue = [.shutdown] ∧
      (p.type (Utf8.encode "commands\n")).finishInput.isOver = false := by
  refine ⟨⟨_, rfl, ?_⟩, _, _, rfl, by decide +kernel⟩
  exact exists_run_shutdown_waits (Supervisor.beside_start _).queue_eq ⟨[]⟩

end Tasks
end Switchboard
