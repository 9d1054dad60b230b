/-
# What a client reads

A client reads what its server has written frame by frame.  Whatever it and its server do
besides, what it has come to is told by the frames that it has read: what was delivered,
what was reported, and that there was room before each of them (`Client.Moves.hasRead`).
The only request that waits gets the first response to it
(`Receiver.delivered_of_waiting`).
-/

import Switchboard.Proofs.Client.Answers
import Switchboard.Proofs.Client.Exchange
import Switchboard.Proofs.Client.Growth

namespace Switchboard

/-- What is delivered, and to which request. -/
def Outcome.delivered? : Outcome → Option (Nat × Json)
  | .delivered id body => some (id, body)
  | _ => none

/-- What is reported. -/
def Outcome.published? : Outcome → Option ServerEvent
  | .published event => some event
  | _ => none

namespace Receiver

variable {r : Receiver} {frame : Json} {frames : List Json} {id : Nat}

/-! ### Responses -/

/-- Whether a frame is a response to a request. -/
def isReply (id : Nat) (frame : Json) : Bool :=
  match Incoming.classify frame with
  | some (.response n _) => n == id
  | _ => false

/-- What becomes of the only request that waits when a frame comes in. -/
theorem handle_of_waiting (h : r.pending = [id]) (frame : Json) :
    (isReply id frame = true ∧ (r.handle frame).1.delivered? = some (id, frame) ∧
        (r.handle frame).2.pending = []) ∨
      isReply id frame = false ∧ (r.handle frame).1.delivered? = none ∧
        (r.handle frame).2.pending = [id] := by
  unfold isReply handle
  cases hclass : Incoming.classify frame with
  | none => exact .inr ⟨rfl, rfl, h⟩
  | some incoming =>
    cases incoming with
    | response n body =>
      obtain rfl := (classify_response_iff.1 hclass).1
      by_cases hn : n = id
      · subst hn
        simp [h, forget, Outcome.delivered?]
      · simp [h, hn, Outcome.delivered?]
    | request id' method params => exact .inr ⟨rfl, rfl, h⟩
    | notification method params =>
      cases params with
      | none => exact .inr ⟨rfl, rfl, h⟩
      | some params =>
        refine .inr ⟨rfl, ?_, h⟩
        change (r.notified method params).delivered? = none
        cases ho : r.notified method params with
        | delivered n body => exact absurd ho ((r.notified_ne method params).1 n body)
        | _ => rfl

/-- A receiver that waits for nothing delivers nothing and goes on waiting for nothing. -/
theorem handle_of_idle (h : r.pending = []) (frame : Json) :
    (r.handle frame).1.delivered? = none ∧ (r.handle frame).2.pending = [] := by
  have hnone : ∀ id, id ∉ (r.handle frame).2.pending := fun id hid =>
    absurd (mem_pending_handle.1 hid).1 (h ▸ List.not_mem_nil)
  refine ⟨?_, List.eq_nil_iff_forall_not_mem.2 hnone⟩
  cases ho : (r.handle frame).1 with
  | delivered id body =>
    exact absurd (handle_delivered_iff.1 ho).2.2 (h ▸ List.not_mem_nil)
  | _ => rfl

/-! ### Frames in a row -/

/-- What becomes of some frames is what becomes of the first, and of the others after it. -/
theorem filterMap_handleAll_cons {α : Type} (f : Outcome → Option α) (r : Receiver) (frame : Json)
    (frames : List Json) : (r.handleAll (frame :: frames)).1.filterMap f =
      (f (r.handle frame).1).toList ++ ((r.handle frame).2.handleAll frames).1.filterMap f := by
  rw [handleAll]
  dsimp only
  rw [List.filterMap_cons]
  cases f (r.handle frame).1 <;> rfl

/-- A receiver that waits for nothing delivers none of the frames. -/
theorem delivered_of_idle (h : r.pending = []) (frames : List Json) :
    (r.handleAll frames).1.filterMap Outcome.delivered? = [] := by
  induction frames generalizing r with
  | nil => rfl
  | cons frame frames ih =>
    obtain ⟨hnone, hidle⟩ := handle_of_idle h frame
    rw [filterMap_handleAll_cons, hnone, ih hidle]
    rfl

/-- **The only request that waits gets the first response to it**, and nothing else
is delivered. -/
theorem delivered_of_waiting (h : r.pending = [id]) (frames : List Json) :
    (r.handleAll frames).1.filterMap Outcome.delivered? =
      ((frames.find? (isReply id)).map fun frame => (id, frame)).toList := by
  induction frames generalizing r with
  | nil => rfl
  | cons frame frames ih =>
    rw [filterMap_handleAll_cons]
    obtain ⟨hreply, hdelivered, hidle⟩ | ⟨hreply, hnone, hwaiting⟩ := handle_of_waiting h frame
    · rw [hdelivered, delivered_of_idle hidle, List.find?_cons_of_pos hreply]
      rfl
    · rw [hnone, ih hwaiting, List.find?_cons_of_neg (by simp [hreply])]
      rfl

/-- What frames lead to that come in after others. -/
theorem handleAll_concat (r : Receiver) (frames : List Json) (frame : Json) :
    r.handleAll (frames ++ [frame]) =
      ((r.handleAll frames).1 ++ [((r.handleAll frames).2.handle frame).1],
        ((r.handleAll frames).2.handle frame).2) := by
  induction frames generalizing r with
  | nil => rfl
  | cons first frames ih => simp only [List.cons_append, handleAll, ih]

/-- What is reported of frames. -/
def reports (r : Receiver) (frames : List Json) : List ServerEvent :=
  (r.handleAll frames).1.filterMap Outcome.published?

end Receiver

namespace Site

/-- Whether a session is left without room by reports, of which there are some of its own
behind those that are kept. -/
def isFull (events : List ServerEvent) (session : SessionId) : Bool :=
  (events.drop reportLimit).any fun e => e.session == session

/-- A report has no room if somebody takes reports and the session is full. -/
theorem holds_eq (s : Site) (session : SessionId) :
    s.holds session = (s.supervised && isFull s.events session) := rfl

end Site

/-! ### Reading on -/

namespace Exchange

/-- The frame that a client reads. -/
def read? : Note → Option Json
  | .read frame => some frame
  | _ => none

/-- The frames that a client reads. -/
def frames (t : List Note) : List Json := t.filterMap read?

/-- Where nothing passes no frame is read. -/
@[simp] theorem frames_nil : frames [] = [] := rfl

/-- A message to the server is no frame that is read. -/
@[simp] theorem frames_heard (m : Json) : frames [.heard m] = [] := rfl

/-- A frame that is read is one. -/
@[simp] theorem frames_read (frame : Json) : frames [.read frame] = [frame] := rfl

/-- The frames of two stretches are those of the one and then those of the other. -/
@[simp] theorem frames_append (t u : List Note) : frames (t ++ u) = frames t ++ frames u :=
  List.filterMap_append

end Exchange

namespace Client

open Exchange

variable {c : Client} {s : Site} {t : List Note} {p q : Client × Site}

/-- What a client and its site have become when `t` has passed between the client and its
server. -/
structure HasRead (c : Client) (s : Site) (t : List Note) (p : Client × Site) : Prop where
  session_eq : p.1.session = c.session
  supervised_eq : p.2.supervised = s.supervised
  passages_eq : p.2.passages c.session = s.passages c.session ++ t
  delivered_eq : p.1.delivered =
    c.delivered ++ (c.receiver.handleAll (frames t)).1.filterMap Outcome.delivered?
  room : s.supervised = true → ∀ front frame back, frames t = front ++ frame :: back →
    Site.isFull (s.events ++ c.receiver.reports front) c.session = false
  /-- As long as the reading side goes on. -/
  receiver_eq : p.1.ended = none → p.1.receiver = (c.receiver.handleAll (frames t)).2
  events_eq : p.1.ended = none → p.2.events = s.events ++ c.receiver.reports (frames t)

theorem HasRead.refl (c : Client) (s : Site) : c.HasRead s [] (c, s) := by
  refine ⟨rfl, rfl, (List.append_nil _).symm, (List.append_nil _).symm,
    fun _ front frame back h => absurd h (by simp), fun _ => rfl, fun _ => (List.append_nil _).symm⟩

/-- Nothing is read. -/
theorem HasRead.still {u : List Note} (h : c.HasRead s t p) (hu : frames u = [])
    (hsession : q.1.session = p.1.session) (hsupervised : q.2.supervised = p.2.supervised)
    (hpassages : q.2.passages c.session = p.2.passages c.session ++ u)
    (hdelivered : q.1.delivered = p.1.delivered)
    (hended : q.1.ended = none →
      p.1.ended = none ∧ q.1.receiver = p.1.receiver ∧ q.2.events = p.2.events) :
    c.HasRead s (t ++ u) q := by
  have hframes : frames (t ++ u) = frames t := by rw [frames_append, hu, List.append_nil]
  refine ⟨hsession.trans h.session_eq, hsupervised.trans h.supervised_eq, ?_, ?_, ?_,
    fun hnone => ?_, fun hnone => ?_⟩
  · rw [hpassages, h.passages_eq, List.append_assoc]
  · rw [hdelivered, hframes]
    exact h.delivered_eq
  · rw [hframes]
    exact h.room
  · obtain ⟨hp, hreceiver, -⟩ := hended hnone
    rw [hreceiver, hframes]
    exact h.receiver_eq hp
  · obtain ⟨hp, -, hevents⟩ := hended hnone
    rw [hevents, hframes]
    exact h.events_eq hp

/-- What acting on a frame adds. -/
theorem act_adds (c : Client) (s : Site) (o : Outcome) :
    (c.act s o).1.delivered = c.delivered ++ o.delivered?.toList ∧
      (c.act s o).1.receiver = c.receiver ∧
      (c.act s o).2.events = s.events ++ o.published?.toList ∧
      (c.act s o).2.supervised = s.supervised ∧ (c.act s o).2.journal = s.journal := by
  cases o with
  | answered answer =>
    have hpush : (c.push answer).delivered = c.delivered ∧
        (c.push answer).receiver = c.receiver := by
      unfold push
      split
      · exact ⟨rfl, rfl⟩
      · exact ⟨rfl, rfl⟩
    exact ⟨hpush.1.trans (List.append_nil _).symm, hpush.2, (List.append_nil _).symm, rfl, rfl⟩
  | delivered id body => exact ⟨rfl, rfl, (List.append_nil _).symm, rfl, rfl⟩
  | published e => exact ⟨(List.append_nil _).symm, rfl, rfl, rfl, rfl⟩
  | logged level message =>
    exact ⟨(List.append_nil _).symm, rfl, (List.append_nil _).symm, rfl, rfl⟩
  | ignored => exact ⟨(List.append_nil _).symm, rfl, (List.append_nil _).symm, rfl, rfl⟩

/-- A client that reads a frame stays of its session and notes the frame, whatever it comes to. -/
theorem act_read (c : Client) (s : Site) (frame : Json) (rest : Bytes) {p : Client × Site}
    (hp : p = act { c with receiver := (c.receiver.handle frame).2, unread := rest }
      (s.note c.session c.process.program (.read frame)) (c.receiver.handle frame).1) :
    p.1.session = c.session ∧ p.2.supervised = s.supervised ∧
      p.2.passages c.session = s.passages c.session ++ [.read frame] := by
  subst hp
  obtain ⟨-, hreceiver, -, hsupervised, hjournal⟩ :=
    act_adds { c with receiver := (c.receiver.handle frame).2, unread := rest }
      (s.note c.session c.process.program (.read frame)) (c.receiver.handle frame).1
  refine ⟨?_, hsupervised, ?_⟩
  · exact (congrArg Receiver.session hreceiver).trans (c.receiver.handle_scope frame).1
  · exact (Site.passages_congr hjournal _).trans Site.passages_note_self

/-- One more frame is read. -/
theorem HasRead.receive {c₁ : Client} {s₁ : Site} {frame : Json} {rest : Bytes}
    (h : c.HasRead s t (c₁, s₁)) (hended : c₁.ended = none)
    (hheld : s₁.holds c₁.session = false) :
    c.HasRead s (t ++ [.read frame])
      (act { c₁ with receiver := (c₁.receiver.handle frame).2, unread := rest }
        (s₁.note c₁.session c₁.process.program (.read frame)) (c₁.receiver.handle frame).1) := by
  have hreceiver := h.receiver_eq hended
  have hevents := h.events_eq hended
  have hsession := h.session_eq
  dsimp only at hreceiver hevents hsession
  have hall : c.receiver.handleAll (frames (t ++ [.read frame])) =
      ((c.receiver.handleAll (frames t)).1 ++ [(c₁.receiver.handle frame).1],
        (c₁.receiver.handle frame).2) := by
    rw [frames_append, frames_read, Receiver.handleAll_concat, hreceiver]
  let c₂ : Client := { c₁ with receiver := (c₁.receiver.handle frame).2, unread := rest }
  let s₂ : Site := s₁.note c₁.session c₁.process.program (.read frame)
  obtain ⟨hdelivered, hreceiver', hevents', hsupervised', hjournal⟩ :=
    act_adds c₂ s₂ (c₁.receiver.handle frame).1
  have hpublished : c.receiver.reports (frames (t ++ [.read frame])) =
      c.receiver.reports (frames t) ++ (c₁.receiver.handle frame).1.published?.toList := by
    rw [Receiver.reports, hall, List.filterMap_append, Receiver.reports]
    cases ho : (c₁.receiver.handle frame).1.published? <;> simp [ho]
  refine ⟨?_, hsupervised'.trans h.supervised_eq, ?_, ?_, fun hs front other back hsplit => ?_,
    fun _ => ?_, fun _ => ?_⟩
  · exact (congrArg Receiver.session hreceiver').trans
      ((c₁.receiver.handle_scope frame).1.trans hsession)
  · have hnoted : s₂.passages c.session = s₁.passages c.session ++ [.read frame] :=
      hsession ▸ Site.passages_note_self
    rw [Site.passages_congr hjournal, hnoted, ← List.append_assoc]
    exact congrArg (· ++ _) h.passages_eq
  · refine hdelivered.trans ?_
    rw [hall, List.filterMap_append, ← List.append_assoc]
    refine congrArg₂ _ h.delivered_eq ?_
    cases ho : (c₁.receiver.handle frame).1.delivered? <;> simp [ho]
  · rw [frames_append, frames_read] at hsplit
    rcases History.split_concat hsplit with ⟨rfl, rfl, -⟩ | ⟨rest', hrest, -⟩
    · rw [Site.holds_eq, h.supervised_eq, hs, Bool.true_and, hevents, hsession] at hheld
      exact hheld
    · exact h.room hs front other rest' hrest
  · exact hreceiver'.trans (congrArg Prod.snd hall).symm
  · refine hevents'.trans ?_
    rw [hpublished, ← List.append_assoc]
    exact congrArg (· ++ _) hevents

/-- **What a client has come to is told by the frames that it has read.** -/
theorem Moves.hasRead (h : Moves (c, s) p) : ∃ t, c.HasRead s t p := by
  induction h with
  | refl => exact ⟨[], .refl c s⟩
  | @tail p q _ h ih =>
    obtain ⟨t, ht⟩ := ih
    cases h with
    | complain c₁ s₁ =>
      have hjournal := Site.journal_logAll s₁ c₁.channel .trace
        (c₁.complaints.flatMap fun text => Lines.ofString (text ++ "\n"))
      refine ⟨t ++ [], ht.still rfl rfl ?_ ?_ rfl fun hnone => ⟨hnone, rfl, ?_⟩⟩
      · exact (Site.grows_logAll ..).supervised_eq
      · exact (Site.passages_congr hjournal c.session).trans (List.append_nil _).symm
      · exact Site.events_logAll ..
    | @tell c₁ s₁ m rest houtbox hheard =>
      refine ⟨t ++ [.heard m], ht.still rfl rfl rfl ?_ rfl fun hnone => ⟨hnone, rfl, rfl⟩⟩
      have hsession : c₁.session = c.session := ht.session_eq
      rw [← hsession]
      exact Site.passages_note_self
    | lose =>
      exact ⟨t ++ [], ht.still rfl rfl rfl (List.append_nil _).symm rfl
        fun hnone => ⟨hnone, rfl, rfl⟩⟩
    | receive hended hheld => exact ⟨_, ht.receive hended hheld⟩
    | finish =>
      exact ⟨t ++ [], ht.still rfl rfl rfl (List.append_nil _).symm rfl
        fun hnone => absurd hnone (by simp [finish])⟩
    | halt =>
      exact ⟨t ++ [], ht.still rfl rfl rfl (List.append_nil _).symm rfl
        fun hnone => ⟨hnone, rfl, rfl⟩⟩

end Client
end Switchboard
