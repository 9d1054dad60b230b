/-
# Every line once

What is typed is taken in while the loop opens its palettes, and a line goes to a
palette or is read as a command by what the desk is like when the line comes to
it.  `Course` follows the task that takes in what is typed through anything that
may happen around it (`Elsewhere`): it notes which way each line has gone
(`Spent`), and the events that the task has put into the queue.  Whatever that
order is, the lines that have been spent are the first ones typed, each once and
in their order, and the events are those of the commands among them, in that
order, with one shutdown at the end (`TakenIn`).

One step adds to what has been spent, answered and sent what it takes away from
what is in hand (`InputStep.spends`); all else is summed up over the steps.
-/

import Switchboard.Proofs.Terminal.Progress

namespace Switchboard

/-! ### Commands and their events -/

/-- The event that a command stands for.  A document has one only if it can be read
as text. -/
def Line.event? (disk : Disk) (cwd : Path) : Line → Option Event
  | .openFile raw =>
    let path := disk.settlePath cwd (Path.ofText raw)
    (disk.readText path).toOption.map (.opened path)
  | .changeFile raw =>
    let path := disk.settlePath cwd (Path.ofText raw)
    (disk.readText path).toOption.map (.changed path)
  | .closeFile raw => some (.closed (disk.settlePath cwd (Path.ofText raw)))
  | .fix _ => some (.command .autofix)
  | .restart => some (.command .restart)
  | .output => some (.command .showOutput)
  | .commands => some (.command .showCommands)
  | .folders raws => some (.folders (raws.map fun raw => disk.settlePath cwd (Path.ofText raw)))
  | .help | .quit | .missing _ | .unknown _ | .empty => none

/-- The event that a line comes to, if it comes to one. -/
def Response.event? : Response → Option Event
  | .event e => some e
  | .answer _ | .quit => none

namespace Input

variable {disk : Disk} {cwd : Path} {desk : Desk} {line : Line}

/-- A document comes to an event exactly if it can be read. -/
theorem event?_document (path : Path) (make : Path → String → Event) :
    (document disk desk path make).1.event? = (disk.readText path).toOption.map (make path) := by
  unfold document
  cases disk.readText path with
  | ok text => rfl
  | error fault => rfl

/-- A command for a document never ends the input. -/
theorem document_ne_quit (path : Path) (make : Path → String → Event) :
    (document disk desk path make).1 ≠ .quit := by
  unfold document
  cases disk.readText path with
  | ok text => simp
  | error fault => simp

/-- **A line comes to the event that its command stands for**, whatever is on the desk. -/
theorem event?_respond : (respond disk cwd desk line).1.event? = line.event? disk cwd := by
  cases line with
  | openFile raw => exact event?_document _ .opened
  | changeFile raw => exact event?_document _ .changed
  | fix raw =>
    cases raw with
    | none => rfl
    | some raw => rfl
  | _ => rfl

/-- Of the commands only `quit` ends the input. -/
theorem respond_eq_quit_iff : (respond disk cwd desk line).1 = .quit ↔ line = .quit := by
  cases line with
  | openFile raw => simp [respond, document_ne_quit]
  | changeFile raw => simp [respond, document_ne_quit]
  | fix raw =>
    cases raw with
    | none => simp [respond]
    | some raw => simp [respond]
  | _ => simp [respond]

/-- No command stands for the shutdown. -/
theorem event?_ne_shutdown : line.event? disk cwd ≠ some .shutdown := by
  have hdocument (path : Path) (make : Path → String → Event)
      (hmake : ∀ text, make path text ≠ .shutdown) :
      (disk.readText path).toOption.map (make path) ≠ some .shutdown := by
    intro h
    obtain ⟨text, -, htext⟩ := Option.map_eq_some_iff.1 h
    exact hmake text htext
  cases line with
  | openFile raw => exact hdocument _ .opened fun text => by simp
  | changeFile raw => exact hdocument _ .changed fun text => by simp
  | _ => simp [Line.event?]

end Input

/-! ### Palettes -/

namespace Desk

variable {d : Desk} {line : String}

/-- The first number of a palette that has not been done with. -/
def free (d : Desk) : Nat := if d.waiting then d.opened - 1 else d.opened

/-- Whether every palette has taken one line at most, later palettes later lines. -/
structure Orderly (d : Desk) : Prop where
  opened : d.waiting = true → 0 < d.opened
  below : ∀ a ∈ d.answers, a.1 < d.free
  ascending : d.answers.reverse.Pairwise fun a b => a.1 < b.1

/-- No palette has been done with that has not been opened. -/
theorem free_le_opened (d : Desk) : d.free ≤ d.opened := by
  unfold free
  split_ifs <;> omega

/-- A desk without a palette is orderly. -/
theorem orderly_empty : empty.Orderly := by
  constructor
  · exact fun h => absurd h (by decide)
  · exact fun a ha => absurd ha List.not_mem_nil
  · exact .nil

/-- One more palette leaves a desk orderly. -/
theorem Orderly.openPalette (h : d.Orderly) : d.openPalette.Orderly := by
  constructor
  · exact fun _ => Nat.succ_pos d.opened
  · intro a ha
    show a.1 < d.opened + 1 - 1
    have hbelow := h.below a ha
    have hfree := d.free_le_opened
    omega
  · exact h.ascending

/-- A palette that takes a line is done with. -/
theorem Orderly.offer (h : d.Orderly) (hwaiting : d.waiting = true) (line : String) :
    (d.offer line).2.Orderly := by
  have hopened := h.opened hwaiting
  have hfree : d.free = d.opened - 1 := if_pos hwaiting
  rw [offer_of_waiting hwaiting]
  constructor
  · exact fun hstill => absurd hstill Bool.false_ne_true
  · intro a ha
    show a.1 < d.opened
    rcases List.mem_cons.1 ha with rfl | ha
    · show d.opened - 1 < d.opened
      omega
    · have hbelow := h.below a ha
      omega
  · show ((d.opened - 1, line) :: d.answers).reverse.Pairwise _
    rw [List.reverse_cons, List.pairwise_append]
    refine ⟨h.ascending, List.pairwise_singleton _ _, fun a ha b hb => ?_⟩
    rw [List.mem_singleton.1 hb]
    have hbelow := h.below a (List.mem_reverse.1 ha)
    show a.1 < d.opened - 1
    omega

end Desk

/-! ### What becomes of a line -/

/-- The way a line has gone. -/
inductive Fate where
  /-- The palette with this number has taken it. -/
  | answer (palette : Nat)
  /-- It has been read as a command, with the disk as it was then. -/
  | command (disk : Disk)

/-- A line that has been taken in. -/
structure Spent where
  line : String
  fate : Fate

namespace Spent

/-- The event that a line stands for if it was taken as a command. -/
def event? (cwd : Path) (x : Spent) : Option Event :=
  match x.fate with
  | .answer _ => none
  | .command disk => (Line.read x.line).event? disk cwd

/-- The answer that a line was taken for, with the number of the palette. -/
def answer? (x : Spent) : Option (Nat × String) :=
  match x.fate with
  | .answer palette => some (palette, x.line)
  | .command _ => none

/-- Whether a line was taken as a command, and as the one that ends the input. -/
def EndsInput (x : Spent) : Prop := (∃ disk, x.fate = .command disk) ∧ Line.read x.line = .quit

/-- No line that is taken in stands for the shutdown. -/
theorem event?_ne_shutdown (cwd : Path) (x : Spent) : x.event? cwd ≠ some .shutdown := by
  unfold event?
  split
  · simp
  · exact Input.event?_ne_shutdown

end Spent

namespace Typing

/-- The line that the task has in hand. -/
@[simp] def inHand : Typing → List String
  | .holding line | .reading line => [line]
  | _ => []

/-- The event that waits for room. -/
@[simp] def unsent : Typing → List Event
  | .sending e => [e]
  | .closing => [.shutdown]
  | _ => []

/-- The event that ends the input, once it has ended. -/
@[simp] def ending : Typing → List Event
  | .closing | .closed => [.shutdown]
  | _ => []

/-- Whether no further line is taken in. -/
@[simp] def HasEnded (typing : Typing) : Prop := typing = .closing ∨ typing = .closed

variable {r : Response}

/-- What a line has come to is not in hand any more. -/
theorem inHand_ofResponse : (ofResponse r).inHand = [] := by
  cases r with
  | _ => rfl

/-- The input has ended after a line exactly if the line was to end it. -/
theorem hasEnded_ofResponse : (ofResponse r).HasEnded ↔ r = .quit := by
  cases r with
  | _ => simp [ofResponse]

/-- What waits for room is the event that the line has come to, or the end of the input. -/
theorem unsent_ofResponse : (ofResponse r).unsent = r.event?.toList ++ (ofResponse r).ending := by
  cases r with
  | _ => rfl

end Typing

namespace Tasks

variable {t t' t₀ : Tasks} {line : String} {spent : List Spent} {events sent : List Event}

/-- What the next step of the task makes of the line that it has in hand. -/
def spending (t : Tasks) : List Spent :=
  match t.typing with
  | .holding line => if t.desk.waiting then [⟨line, .answer (t.desk.opened - 1)⟩] else []
  | .reading line => [⟨line, .command t.loop.supervisor.site.disk⟩]
  | _ => []

/-- What can happen around the task that takes in what is typed.  A palette can be
opened, and with the loop and the rest of the world anything can happen. -/
structure Elsewhere (t t' : Tasks) : Prop where
  lines : t'.lines = t.lines
  typing : t'.typing = t.typing
  cwd : t'.cwd = t.cwd
  desk : t'.desk = t.desk ∨ t'.desk = t.desk.openPalette

/-- The course of the task that takes in what is typed: the lines that it has taken
in, and the events that it has put into the queue. -/
inductive Course (t₀ : Tasks) : List Spent → List Event → Tasks → Prop where
  | start : Course t₀ [] [] t₀
  | own {spent : List Spent} {events sent : List Event} {t t' : Tasks}
      (h : Course t₀ spent events t) (hstep : InputStep t t')
      (hsent : t'.loop.supervisor.queue = t.loop.supervisor.queue ++ sent) :
      Course t₀ (spent ++ t.spending) (events ++ sent) t'
  | elsewhere {spent : List Spent} {events : List Event} {t t' : Tasks}
      (h : Course t₀ spent events t) (haround : Elsewhere t t') : Course t₀ spent events t'

/-! ### One step -/

/-- What a step of the task takes from what is in hand is what it adds to what has
been spent, answered and sent. -/
structure Spends (t t' : Tasks) : Prop where
  lines : t.typing.inHand ++ t.lines =
    t.spending.map Spent.line ++ (t'.typing.inHand ++ t'.lines)
  answers : t'.desk.answers = (t.spending.filterMap Spent.answer?).reverse ++ t.desk.answers
  queue : t'.loop.supervisor.queue = t.loop.supervisor.queue ++ t.typing.unsent
  events : t.typing.ending ++ t'.typing.unsent =
    t.spending.filterMap (Spent.event? t.cwd) ++ t'.typing.ending
  cwd : t'.cwd = t.cwd
  /-- The input ends with its last line, or by a command that ends it. -/
  ends : t'.typing.HasEnded → t.typing.HasEnded ∨ t'.lines = [] ∨
    ∃ x, t.spending = [x] ∧ x.EndsInput
  /-- A command that ends the input does so. -/
  ended : ∀ x ∈ t.spending, x.EndsInput → t'.typing.HasEnded
  /-- Behind the end of the input nothing is taken in. -/
  rest : t.typing.HasEnded → t.spending = [] ∧ t'.typing.HasEnded ∧ t'.lines = t.lines

/-- A line in hand is spent on the palette that waits. -/
theorem spending_of_waiting (htyping : t.typing = .holding line)
    (hwaiting : t.desk.waiting = true) :
    t.spending = [⟨line, .answer (t.desk.opened - 1)⟩] := by
  rw [spending, htyping]
  exact if_pos hwaiting

/-- While no palette waits a line in hand is not spent yet. -/
theorem spending_of_not_waiting (htyping : t.typing = .holding line)
    (hwaiting : t.desk.waiting = false) : t.spending = [] := by
  rw [spending, htyping]
  exact if_neg (by rw [hwaiting]; exact Bool.false_ne_true)

/-- A line that no palette has taken is spent as a command. -/
theorem spending_of_reading (htyping : t.typing = .reading line) :
    t.spending = [⟨line, .command t.loop.supervisor.site.disk⟩] := by
  rw [spending, htyping]

/-- A step spends one line at most. -/
theorem spending_cases (t : Tasks) : t.spending = [] ∨ ∃ x, t.spending = [x] := by
  unfold spending
  split
  · split_ifs
    · exact .inr ⟨_, rfl⟩
    · exact .inl rfl
  · exact .inr ⟨_, rfl⟩
  · exact .inl rfl

/-- A line taken as a command ends the input if it is read as `quit`. -/
theorem endsInput_command {disk : Disk} :
    (⟨line, .command disk⟩ : Spent).EndsInput ↔ Line.read line = .quit := by
  constructor
  · exact fun h => h.2
  · exact fun h => ⟨⟨disk, rfl⟩, h⟩

/-- A line that is read as a command is sent as its event, answered, or ends the input. -/
theorem spends_respond (htyping : t.typing = .reading line) :
    Spends t { t with
      typing := .ofResponse (t.respond line).1
      desk := (t.respond line).2 } := by
  have hspending := spending_of_reading htyping
  have hevent : (t.respond line).1.event? =
      (Line.read line).event? t.loop.supervisor.site.disk t.cwd := Input.event?_respond
  have hquit : (t.respond line).1 = .quit ↔ Line.read line = .quit := Input.respond_eq_quit_iff
  have hdesk : (t.respond line).2.answers = t.desk.answers := by
    obtain ⟨active, hactive⟩ := t.exists_active_respond line
    rw [hactive]
  constructor
  · show t.typing.inHand ++ t.lines = _
    rw [hspending, htyping]
    show [line] ++ t.lines = [line] ++ ((Typing.ofResponse (t.respond line).1).inHand ++ t.lines)
    rw [Typing.inHand_ofResponse]
    rfl
  · rw [hspending]
    exact hdesk
  · rw [htyping]
    exact (List.append_nil _).symm
  · rw [hspending, htyping]
    show (Typing.ofResponse (t.respond line).1).unsent = _
    rw [Typing.unsent_ofResponse, hevent]
    simp only [List.filterMap_cons, List.filterMap_nil, Spent.event?]
    cases (Line.read line).event? t.loop.supervisor.site.disk t.cwd with
    | _ => rfl
  · rfl
  · intro hended
    have hresponse : (t.respond line).1 = .quit := Typing.hasEnded_ofResponse.1 hended
    exact .inr (.inr ⟨_, hspending, endsInput_command.2 (hquit.1 hresponse)⟩)
  · intro x hx hends
    rw [hspending, List.mem_singleton] at hx
    subst hx
    exact Typing.hasEnded_ofResponse.2 (hquit.2 (endsInput_command.1 hends))
  · intro hended
    rw [htyping] at hended
    exact absurd hended (by simp)

/-- **What a step takes away it adds elsewhere.** -/
theorem InputStep.spends (h : InputStep t t') : Spends t t' := by
  cases h with
  | line htyping hlines => constructor <;> simp [spending, htyping, hlines]
  | finish htyping hlines => constructor <;> simp [spending, htyping, hlines]
  | @answer line desk htyping hoffer =>
    have hwaiting := (Desk.of_offer_eq_true hoffer).1
    have hspending := spending_of_waiting htyping hwaiting
    rw [Desk.offer_of_waiting hwaiting, Prod.mk.injEq] at hoffer
    obtain ⟨-, rfl⟩ := hoffer
    constructor <;> simp [hspending, htyping, Spent.answer?, Spent.event?, Spent.EndsInput]
  | @keep line desk htyping hoffer =>
    obtain ⟨hwaiting, rfl⟩ := Desk.of_offer_eq_false hoffer
    have hspending := spending_of_not_waiting htyping hwaiting
    constructor <;> simp [hspending, htyping]
  | respond htyping => exact spends_respond htyping
  | send htyping hroom =>
    constructor <;> simp [spending, htyping, queued, withSupervisor, Supervisor.enqueue]
  | close htyping hroom =>
    constructor <;> simp [spending, htyping, queued, withSupervisor, Supervisor.enqueue]

/-- What is put into the queue by a step is the event that waited for room. -/
theorem InputStep.sent_eq (h : InputStep t t')
    (hsent : t'.loop.supervisor.queue = t.loop.supervisor.queue ++ sent) :
    sent = t.typing.unsent := by
  rw [h.spends.queue, List.append_cancel_left_eq] at hsent
  exact hsent.symm

/-- A course goes on with any step of the task. -/
theorem Course.next (h : Course t₀ spent events t) (hstep : InputStep t t') :
    Course t₀ (spent ++ t.spending) (events ++ t.typing.unsent) t' :=
  h.own hstep hstep.spends.queue

/-- A step that spends and sends nothing. -/
theorem Course.pass (h : Course t₀ spent events t) (hstep : InputStep t t')
    (hspending : t.spending = []) (hunsent : t.typing.unsent = []) :
    Course t₀ spent events t' := by
  have hnext := h.next hstep
  rwa [hspending, hunsent, List.append_nil, List.append_nil] at hnext

/-- A step that spends a line and sends nothing. -/
theorem Course.spend (h : Course t₀ spent events t) (hstep : InputStep t t') {x : Spent}
    (hspending : t.spending = [x]) (hunsent : t.typing.unsent = []) :
    Course t₀ (spent ++ [x]) events t' := by
  have hnext := h.next hstep
  rwa [hspending, hunsent, List.append_nil] at hnext

/-- The line that comes next is held. -/
theorem Course.held {rest : List String} (h : Course t₀ spent events t)
    (htyping : t.typing = .listening) (hlines : t.lines = line :: rest) :
    Course t₀ spent events { t with lines := rest, typing := .holding line } := by
  refine h.pass (.line htyping hlines) ?_ ?_
  · rw [spending, htyping]
  · rw [htyping]
    rfl

/-- **A line that comes to a palette that waits is its answer.** -/
theorem Course.answered {rest : List String} (h : Course t₀ spent events t)
    (htyping : t.typing = .listening) (hlines : t.lines = line :: rest)
    (hwaiting : t.desk.waiting = true) :
    Course t₀ (spent ++ [⟨line, .answer (t.desk.opened - 1)⟩]) events { t with
      lines := rest
      typing := .listening
      desk := (t.desk.offer line).2 } := by
  have hoffer : t.desk.offer line = (true, (t.desk.offer line).2) := by
    rw [Desk.offer_of_waiting hwaiting]
  exact (h.held htyping hlines).spend (.answer rfl hoffer) (spending_of_waiting rfl hwaiting) rfl

/-- **A line that comes when no palette waits is read as a command.** -/
theorem Course.commanded {rest : List String} {r : Response} {desk : Desk}
    (h : Course t₀ spent events t) (htyping : t.typing = .listening)
    (hlines : t.lines = line :: rest) (hwaiting : t.desk.waiting = false)
    (hresponse : t.respond line = (r, desk)) :
    Course t₀ (spent ++ [⟨line, .command t.loop.supervisor.site.disk⟩]) events
      { t with lines := rest, typing := .ofResponse r, desk } := by
  let reading : Tasks := { t with lines := rest, typing := .reading line }
  have hreading : Course t₀ spent events reading :=
    (h.held htyping hlines).pass (.keep rfl (Desk.offer_of_not_waiting hwaiting line))
      (spending_of_not_waiting rfl hwaiting) rfl
  have hresponded := hreading.spend (.respond rfl) (spending_of_reading rfl) rfl
  have hsame : reading.respond line = (r, desk) := hresponse
  rw [hsame] at hresponded
  exact hresponded

/-! ### The whole course -/

/-- What holds of a course.  The lines that have been spent are the first ones that
were typed, each once and in their order; the palettes have the ones that they took;
and what has been sent, or waits for room, are the events of the commands among them
in that order, with the shutdown behind them when the input has ended.  It ends with
the last line, or at the first command that ends it, and no line is taken behind that. -/
structure TakenIn (t₀ : Tasks) (spent : List Spent) (events : List Event) (t : Tasks) : Prop where
  lines : t₀.lines = spent.map Spent.line ++ (t.typing.inHand ++ t.lines)
  answers : t.desk.answers = (spent.filterMap Spent.answer?).reverse ++ t₀.desk.answers
  events : events ++ t.typing.unsent =
    spent.filterMap (Spent.event? t₀.cwd) ++ t.typing.ending
  cwd : t.cwd = t₀.cwd
  going : ∀ x ∈ spent.dropLast, ¬ x.EndsInput
  ended : ∀ x ∈ spent, x.EndsInput → t.typing.HasEnded
  ends : t.typing.HasEnded → t.lines = [] ∨ ∃ x, spent.getLast? = some x ∧ x.EndsInput

/-- At the start nothing has been taken in. -/
theorem takenIn_start (htyping : t₀.typing = .listening) : TakenIn t₀ [] [] t₀ := by
  constructor <;> simp [htyping]

/-- What happens elsewhere takes no line in. -/
theorem TakenIn.elsewhere (h : TakenIn t₀ spent events t) (haround : Elsewhere t t') :
    TakenIn t₀ spent events t' := by
  have hanswers : t'.desk.answers = t.desk.answers := by
    rcases haround.desk with hdesk | hdesk
    · rw [hdesk]
    · rw [hdesk]
      rfl
  constructor
  · rw [haround.typing, haround.lines]
    exact h.lines
  · rw [hanswers]
    exact h.answers
  · rw [haround.typing]
    exact h.events
  · rw [haround.cwd]
    exact h.cwd
  · exact h.going
  · rw [haround.typing]
    exact h.ended
  · rw [haround.typing, haround.lines]
    exact h.ends

/-- A step of the task takes in what it spends, and sends what was waiting for room. -/
theorem TakenIn.own (h : TakenIn t₀ spent events t) (hstep : Spends t t') :
    TakenIn t₀ (spent ++ t.spending) (events ++ t.typing.unsent) t' := by
  constructor
  · rw [h.lines, hstep.lines, List.map_append, List.append_assoc]
  · rw [hstep.answers, h.answers, List.filterMap_append, List.reverse_append, List.append_assoc]
  · rw [h.events, List.append_assoc, hstep.events, h.cwd, List.filterMap_append, List.append_assoc]
  · rw [hstep.cwd, h.cwd]
  · intro x hx hends
    rcases t.spending_cases with hnil | ⟨y, hy⟩
    · rw [hnil, List.append_nil] at hx
      exact h.going x hx hends
    · -- A further line has been spent, so none before it has ended the input.
      rw [hy, List.dropLast_concat] at hx
      have hnil := (hstep.rest (h.ended x hx hends)).1
      exact absurd (hy.symm.trans hnil) (List.cons_ne_nil y [])
  · intro x hx hends
    rcases List.mem_append.1 hx with hx | hx
    · exact (hstep.rest (h.ended x hx hends)).2.1
    · exact hstep.ended x hx hends
  · intro hended
    rcases hstep.ends hended with hbefore | hlines | ⟨x, hspending, hends⟩
    · obtain ⟨hnil, -, hlines⟩ := hstep.rest hbefore
      rw [hnil, List.append_nil, hlines]
      exact h.ends hbefore
    · exact .inl hlines
    · right
      rw [hspending, List.getLast?_concat]
      exact ⟨x, rfl, hends⟩

/-- **Every line is taken in once, and every command is sent once.** -/
theorem Course.takenIn (htyping : t₀.typing = .listening) (h : Course t₀ spent events t) :
    TakenIn t₀ spent events t := by
  induction h with
  | start => exact takenIn_start htyping
  | own _ hstep hsent ih =>
    rw [hstep.sent_eq hsent]
    exact ih.own hstep.spends
  | elsewhere _ haround ih => exact ih.elsewhere haround

/-- A step at the input leaves the desk orderly. -/
theorem InputStep.orderly (h : InputStep t t') (hdesk : t.desk.Orderly) : t'.desk.Orderly := by
  cases h with
  | @answer line desk htyping hoffer =>
    have hafter := hdesk.offer (Desk.of_offer_eq_true hoffer).1 line
    rw [hoffer] at hafter
    exact hafter
  | keep htyping hoffer =>
    obtain ⟨-, rfl⟩ := Desk.of_offer_eq_false hoffer
    exact hdesk
  | @respond line htyping =>
    obtain ⟨active, hactive⟩ := t.exists_active_respond line
    show (t.respond line).2.Orderly
    rw [hactive]
    exact ⟨hdesk.opened, hdesk.below, hdesk.ascending⟩
  | line htyping hlines => exact hdesk
  | finish htyping hlines => exact hdesk
  | send htyping hroom => exact hdesk
  | close htyping hroom => exact hdesk

/-- **A palette takes one line at most.** -/
theorem Course.orderly (hdesk : t₀.desk.Orderly) (h : Course t₀ spent events t) :
    t.desk.Orderly := by
  induction h with
  | start => exact hdesk
  | own _ hstep _ ih => exact hstep.orderly ih
  | elsewhere _ haround ih =>
    rcases haround.desk with hsame | hopened
    · rw [hsame]
      exact ih
    · rw [hopened]
      exact ih.openPalette

/-! ### The program's own courses -/

/-- A step of the loop happens elsewhere. -/
theorem LoopStep.elsewhere (h : LoopStep t t') : Elsewhere t t' := by
  cases h with
  | @attend e hhand htrigger =>
    refine ⟨rfl, rfl, rfl, ?_⟩
    show (t.goOn (t.loop.attend t.desk.active e)).desk = t.desk ∨ _
    unfold goOn
    split_ifs
    · exact .inr rfl
    · exact .inl rfl
  | _ => exact ⟨rfl, rfl, rfl, .inl rfl⟩

/-- **Whatever the program does is a step of this task or happens around it.** -/
theorem Step.own_or_elsewhere (h : Step t t') : InputStep t t' ∨ Elsewhere t t' := by
  cases h with
  | move hmove =>
    cases hmove with
    | input hinput => exact .inl hinput
    | interrupt hinterrupt hroom => exact .inr ⟨rfl, rfl, rfl, .inl rfl⟩
    | loop hloop => exact .inr hloop.elsewhere
  | interrupted hinterrupt => exact .inr ⟨rfl, rfl, rfl, .inl rfl⟩
  | around hs => exact .inr ⟨rfl, rfl, rfl, .inl rfl⟩
  | changed path hroom => exact .inr ⟨rfl, rfl, rfl, .inl rfl⟩

/-- Whatever the program comes to, the task has come there on a course. -/
theorem exists_course_of_reach (h : Reach t₀ t) : ∃ spent events, Course t₀ spent events t := by
  induction h with
  | refl => exact ⟨[], [], .start⟩
  | tail _ hstep ih =>
    obtain ⟨spent, events, hcourse⟩ := ih
    rcases hstep.own_or_elsewhere with hown | haround
    · exact ⟨_, _, hcourse.next hown⟩
    · exact ⟨_, _, hcourse.elsewhere haround⟩

/-! ### The end of the input -/

/-- What is left to do for the task that takes in what is typed. -/
def ahead (t : Tasks) : Nat := 8 * t.lines.length + t.typing.toDo

/-- Every step at the input leaves less to do. -/
theorem InputStep.ahead_lt (h : InputStep t t') : t'.ahead < t.ahead := by
  have hless := h.toDo_lt
  have hqueue := congrArg List.length h.spends.queue
  have hinterrupt : t'.interrupt = t.interrupt := by cases h <;> rfl
  have hhand : t'.hand = t.hand := by cases h <;> rfl
  have hbacklog : t'.loop.backlog = t.loop.backlog := by cases h <;> rfl
  have hpicking : t'.loop.picking = t.loop.picking := by cases h <;> rfl
  rw [List.length_append] at hqueue
  unfold toDo at hless
  unfold ahead
  rw [hinterrupt, hhand, hbacklog, hpicking] at hless
  omega

/-- What happens elsewhere leaves as much to do as there was. -/
theorem Elsewhere.ahead_eq (h : Elsewhere t t') : t'.ahead = t.ahead := by
  rw [ahead, ahead, h.lines, h.typing]

/-- Only for want of room the task waits, until it has closed the input. -/
theorem exists_inputStep_of_hasRoom (hroom : t.HasRoom) (hopen : t.typing ≠ .closed) :
    ∃ t', InputStep t t' := exists_inputStep fun hblocked => hopen (hblocked.closed hroom)

/-- **The input is closed**, if the task goes on as long as it is not. -/
theorem exists_closed {σ : Nat → Tasks}
    (hsteps : ∀ n, InputStep (σ n) (σ (n + 1)) ∨ Elsewhere (σ n) (σ (n + 1)))
    (hgoes : ∀ n, (σ n).typing ≠ .closed → ∃ m, n ≤ m ∧ InputStep (σ m) (σ (m + 1))) :
    ∃ n, (σ n).typing = .closed := by
  have hle : ∀ n, (σ (n + 1)).ahead ≤ (σ n).ahead := by
    intro n
    rcases hsteps n with hown | haround
    · exact hown.ahead_lt.le
    · exact haround.ahead_eq.le
  have hmono : Antitone fun n => (σ n).ahead := antitone_nat_of_succ_le hle
  have hclosed : ∀ k n, (σ n).ahead = k → ∃ m, (σ m).typing = .closed := by
    intro k
    induction k using Nat.strongRecOn with
    | _ k ih =>
      intro n hn
      by_cases hopen : (σ n).typing = .closed
      · exact ⟨n, hopen⟩
      · obtain ⟨m, hnm, hown⟩ := hgoes n hopen
        have hless : (σ (m + 1)).ahead < k := by
          have hbefore : (σ m).ahead ≤ (σ n).ahead := hmono hnm
          have hstep := hown.ahead_lt
          omega
        exact ih _ hless (m + 1) rfl
  exact hclosed _ 0 rfl

/-- Every course can be followed to the end of the input. -/
theorem Course.exists_closed (h : Course t₀ spent events t) :
    ∃ more sent t', Course t₀ (spent ++ more) (events ++ sent) t' ∧ t'.typing = .closed := by
  induction hn : t.ahead using Nat.strongRecOn generalizing t spent events with
  | _ n ih =>
    by_cases hopen : t.typing = .closed
    · exact ⟨[], [], t, by rwa [List.append_nil, List.append_nil], hopen⟩
    · -- The loop makes room, so the task can go on.
      let room := t.withSupervisor { t.loop.supervisor with queue := [] }
      have haround : Elsewhere t room := ⟨rfl, rfl, rfl, .inl rfl⟩
      have hroom : room.HasRoom := by
        show 0 < Loop.queueLimit
        decide
      obtain ⟨t₁, hstep⟩ := exists_inputStep_of_hasRoom hroom hopen
      have hcourse := (h.elsewhere haround).next hstep
      have hless : t₁.ahead < n := by
        have hstep := hstep.ahead_lt
        rw [haround.ahead_eq, hn] at hstep
        exact hstep
      obtain ⟨more, sent, t', hcourse', hclosed⟩ := ih _ hless hcourse rfl
      rw [List.append_assoc, List.append_assoc] at hcourse'
      exact ⟨_, _, t', hcourse', hclosed⟩

/-- **Every line counts once.**  However the loop opens its palettes and the world goes on
between the steps, the lines that have been taken in are the first that were typed, each once:
as the answer of a palette that waited for it, and of no other line, or as a command.  The
events that have been sent, with the one that waits for room, are those of the commands in the
order of their lines, a document's only if it could be read.  Behind a line that was taken for
`quit` no line is taken.  The shutdown is none of these events; it is sent last, and once, when
the input has ended.  And it does end: only for want of room the task ever waits, there is a
way to the end from everywhere, and if the task is let go on as long as the input is open, the
input is closed. -/
theorem every_line_once (s : Supervisor) (cwd : Path) (lines : List String) {spent : List Spent}
    {events : List Event} {t : Tasks} (h : Course (start s cwd lines) spent events t) :
    TakenIn (start s cwd lines) spent events t ∧
      (spent.filterMap Spent.answer?).Pairwise (fun a b => a.1 < b.1) ∧
      .shutdown ∉ spent.filterMap (Spent.event? cwd) ∧
      (t.typing = .closed →
        events = spent.filterMap (Spent.event? cwd) ++ [.shutdown] ∧
          (spent.map Spent.line = lines ∨ ∃ x, spent.getLast? = some x ∧ x.EndsInput)) ∧
      (t.HasRoom → t.typing ≠ .closed → ∃ t', InputStep t t') ∧
      (∃ more sent t', Course (start s cwd lines) (spent ++ more) (events ++ sent) t' ∧
        t'.typing = .closed) ∧
      ∀ σ : Nat → Tasks, σ 0 = t →
        (∀ n, InputStep (σ n) (σ (n + 1)) ∨ Elsewhere (σ n) (σ (n + 1))) →
        (∀ n, (σ n).typing ≠ .closed → ∃ m, n ≤ m ∧ InputStep (σ m) (σ (m + 1))) →
          ∃ n, (σ n).typing = .closed := by
  have htaken : TakenIn (start s cwd lines) spent events t := h.takenIn rfl
  refine ⟨htaken, ?_, ?_, ?_, exists_inputStep_of_hasRoom, h.exists_closed, ?_⟩
  · have horderly : t.desk.Orderly := h.orderly Desk.orderly_empty
    have hanswers : t.desk.answers = (spent.filterMap Spent.answer?).reverse ++ [] := htaken.answers
    have hascending := horderly.ascending
    rwa [hanswers, List.append_nil, List.reverse_reverse] at hascending
  · intro hmem
    obtain ⟨x, -, hx⟩ := List.mem_filterMap.1 hmem
    exact x.event?_ne_shutdown cwd hx
  · intro hclosed
    constructor
    · have hevents := htaken.events
      rw [hclosed] at hevents
      exact (List.append_nil events).symm.trans hevents
    · refine (htaken.ends (.inr hclosed)).imp_left fun hnone => ?_
      have hlines := htaken.lines
      rw [hclosed, hnone] at hlines
      exact (hlines.trans (List.append_nil _)).symm
  · intro σ _ hsteps hgoes
    exact exists_closed hsteps hgoes

/-- A palette that is opened before the first line takes it, and the line behind `q` is
left. -/
theorem every_line_once_answered :
    ∃ s, Supervisor.make .default [] none 7 (.ofDisk ⟨.directory [], [], Platform.linux⟩) = .ok s ∧
      ∃ spent events t, Course (start s ⟨[]⟩ ["1", "commands", "q", "help"]) spent events t ∧
        t.typing = .closed ∧ t.lines = ["help"] ∧
        spent = [⟨"1", .answer 0⟩, ⟨"commands", .command s.site.disk⟩,
          ⟨"q", .command s.site.disk⟩] ∧
        events = [.command .showCommands, .shutdown] ∧
        TakenIn (start s ⟨[]⟩ ["1", "commands", "q", "help"]) spent events t := by
  refine ⟨_, rfl, ?_⟩
  generalize hs : Supervisor.mk _ _ _ _ _ _ _ _ _ _ _ _ _ _ _ = s
  have hqueue : s.queue = [] := by rw [← hs]
  let begin := start s ⟨[]⟩ ["1", "commands", "q", "help"]
  let opened : Tasks := { begin with desk := Desk.empty.openPalette }
  let picked : Tasks := { opened with
    lines := ["commands", "q", "help"], desk := (opened.desk.offer "1").2 }
  let asking : Tasks := { picked with
    lines := ["q", "help"], typing := .sending (.command .showCommands) }
  have hopened : Course begin [] [] opened := Course.start.elsewhere ⟨rfl, rfl, rfl, .inr rfl⟩
  have hpicked : Course begin [⟨"1", .answer 0⟩] [] picked := hopened.answered rfl rfl rfl
  have hcommands : picked.respond "commands" = (.event (.command .showCommands), picked.desk) := by
    have hread : Line.read "commands" = .commands := by decide
    rw [respond, hread]
    rfl
  have hasking := hpicked.commanded rfl rfl rfl hcommands
  have hroom : asking.HasRoom := by
    show s.queue.length < Loop.queueLimit
    rw [hqueue]
    decide
  let listening : Tasks := { asking.queued (.command .showCommands) with typing := .listening }
  have hlistening : Course begin [⟨"1", .answer 0⟩, ⟨"commands", .command s.site.disk⟩]
      [.command .showCommands] listening := hasking.next (.send rfl hroom)
  have hquit : listening.respond "q" = (.quit, listening.desk) := by
    have hread : Line.read "q" = .quit := by decide
    rw [respond, hread]
    rfl
  have hclosing := hlistening.commanded rfl rfl rfl hquit
  have hspace : listening.HasRoom := by
    show (s.queue ++ [Event.command .showCommands]).length < Loop.queueLimit
    rw [hqueue]
    decide
  have hclosed := hclosing.next (.close rfl hspace)
  exact ⟨_, _, _, hclosed, rfl, rfl, rfl, rfl,
    (every_line_once s ⟨[]⟩ ["1", "commands", "q", "help"] hclosed).1⟩

end Tasks
end Switchboard
