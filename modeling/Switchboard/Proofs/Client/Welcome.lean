/-
# Being welcomed

A client that has greeted its server waits for the first response to its greeting.  It is
welcomed when that comes without an error and the client can still write then
(`Client.complete_eq_ok_iff`).  Beside others it comes to what it would come to alone, as
long as its reports find room; without room for one more it may be that it waits in vain
for what it would have read alone (`Client.complete_beside`).
-/

import Switchboard.Proofs.Client.Beside

namespace Switchboard
namespace Client

open Exchange

variable {c c' : Client} {s s' : Site} {p q : Client × Site} {id : Nat} {t : List Note}

/-- A client that waits for the response to one request, which it has not had. -/
structure Waiting (c : Client) (id : Nat) : Prop where
  pending_eq : c.receiver.pending = [id]
  delivered_eq : c.delivered = []
  patient : c.patience ≠ 0

/-- The answer that has come is the first response that has been read. -/
theorem HasRead.answer?_eq (h : c.HasRead s t p) (hc : c.Waiting id) :
    p.1.answer? id = (frames t).find? (Receiver.isReply id) := by
  rw [answer?, h.delivered_eq, hc.delivered_eq, List.nil_append,
    Receiver.delivered_of_waiting hc.pending_eq]
  cases (frames t).find? (Receiver.isReply id) with
  | none => rfl
  | some response => simp

/-! ### What waiting comes to -/

/-- What a client and its site have become after the turns that waiting for a welcome takes. -/
def turned (c : Client) (s : Site) (id : Nat) : Client × Site :=
  (c.logComplaints s).1.takeTurns (fun c => (c.answer? id).isSome) c.patience (c.logComplaints s).2

/-- A turn is made of moves of the client. -/
theorem moves_turned (c : Client) (s : Site) (id : Nat) : Moves (c, s) (c.turned s id) :=
  .head (.complain c s) (moves_takeTurns ..)

/-- Why no answer has come. -/
def unanswered (c : Client) (patience : Nat) : ClientFault :=
  if c.ended.isSome then .abandoned "initialize" else .late "initialize" patience

/-- A client that has had a welcome. -/
def received (c : Client) (id : Nat) (response : Json) : Client :=
  { c with
    delivered := c.delivered.filter fun d => d.1 != id
    welcome := Welcome.read? (Json.orNull (response.member? "result")) }

/-- Waiting for the welcome is taking these turns and looking at what has come. -/
theorem await_eq (hpatience : c.patience ≠ 0) (s : Site) (id : Nat) :
    c.await s id "initialize" c.patience = match (c.turned s id).1.answer? id with
      | some body => (.ok body, { (c.turned s id).1 with
          delivered := (c.turned s id).1.delivered.filter fun d => d.1 != id }, (c.turned s id).2)
      | none => (.error ((c.turned s id).1.unanswered c.patience), { (c.turned s id).1 with
          receiver := (c.turned s id).1.receiver.forget id }, (c.turned s id).2) := by
  rw [await, if_neg hpatience]
  rfl

/-- What waiting to be welcomed comes to, by what has come in the turns that it takes: no
response in vain, one with an error, or one without, and then the client says that it has
been greeted. -/
theorem complete_cases (hpatience : c.patience ≠ 0) (s : Site) (id : Nat) :
    ((c.turned s id).1.answer? id = none ∧ (c.complete s id).2.2 = (c.turned s id).2 ∧
      (c.complete s id).1 = .error ((c.turned s id).1.unanswered c.patience)) ∨
    ∃ response, (c.turned s id).1.answer? id = some response ∧
      ((∃ error, response.member? "error" = some error ∧
          (c.complete s id).2.2 = (c.turned s id).2 ∧ (c.complete s id).1 =
            .error (.refused "initialize" ((error.member? "message").bind Json.text?))) ∨
        response.member? "error" = none ∧ c.complete s id =
          ((c.turned s id).1.received id response).send (c.turned s id).2 greeted) := by
  unfold complete
  rw [await_eq hpatience]
  cases hanswer : (c.turned s id).1.answer? id with
  | none => exact .inl ⟨rfl, rfl, rfl⟩
  | some response =>
    refine .inr ⟨response, rfl, ?_⟩
    unfold resultOf
    dsimp only
    cases herror : response.member? "error" with
    | some error => exact .inl ⟨error, rfl, rfl, rfl⟩
    | none => exact .inr ⟨rfl, rfl⟩

/-- A message can be sent exactly by a client that still writes when there is room for it. -/
theorem send_eq_ok_iff (c : Client) (s : Site) (m : Json) :
    ((c.send s m).1 = .ok () ↔ (c.makeRoom s).1.writing = true) ∧
      (c.send s m).2.1.writing = (c.makeRoom s).1.writing ∧
      (c.send s m).2.2 = (c.makeRoom s).2 := by
  unfold send
  dsimp only
  split
  next hw => exact ⟨iff_of_true rfl hw, by rw [push, if_pos hw], rfl⟩
  next hw => exact ⟨iff_of_false (by simp) hw, rfl, rfl⟩

/-- The answer after the turns is the first response among the frames that have been read. -/
theorem answer?_turned (hc : c.Waiting id) {t : List Note}
    (h : (c.turned s id).2.passages c.session = s.passages c.session ++ t) :
    (c.turned s id).1.answer? id = (frames t).find? (Receiver.isReply id) := by
  obtain ⟨t', ht⟩ := (moves_turned c s id).hasRead
  obtain rfl := List.append_cancel_left (h.symm.trans ht.passages_eq)
  exact ht.answer?_eq hc

/-- Frames that can be read and ask for nothing. -/
structure Plain (frames : List Json) : Prop where
  readable : ∀ frame ∈ frames, frame.fits = true ∧ frame.depth ≤ Json.maxDepth ∧
    frame.write.length ≤ Frame.maxBytes
  asks_nothing : ∀ frame ∈ frames, ∀ r : Receiver, (r.handle frame).1.isAnswered = false

/-- What is not answered changes no more of a client than what it has been delivered. -/
theorem act_of_unanswered {o : Outcome} (ho : o.isAnswered = false) (c : Client) (s : Site) :
    (c.act s o).1 = { c with delivered := (c.act s o).1.delivered } := by
  cases o with
  | answered answer => exact absurd ho (by simp [Outcome.isAnswered])
  | _ => rfl

/-- Such frames are read to the last one where there is room for reports. -/
theorem readWithin_plain {sent : List Json} (hsent : Plain sent) {fuel : Nat}
    (hfuel : sent.length < fuel) (hunread : c.unread = Frame.writeAll sent)
    (halive : c.process.alive = true) (hs : s.supervised = false) :
    ∃ receiver delivered s', readWithin fuel c s =
        ({ c with receiver, delivered, unread := [] }, s') ∧ s'.supervised = false ∧
      s'.passages c.session = s.passages c.session ++ sent.map .read := by
  have hfree (s : Site) (hs : s.supervised = false) (id : SessionId) : s.holds id = false := by
    rw [Site.holds, hs, Bool.false_and]
  induction sent generalizing c s fuel with
  | nil =>
    obtain ⟨fuel, rfl⟩ := Nat.exists_eq_succ_of_ne_zero (Nat.ne_of_gt hfuel)
    refine ⟨c.receiver, c.delivered, s, ?_, hs, (List.append_nil _).symm⟩
    have hnone : c.unread = [] := hunread
    simp only [readWithin, hfree s hs, Bool.false_eq_true, if_false]
    rw [hnone]
    change (if c.process.alive = true then (c, s) else _) = _
    rw [if_pos halive, ← hnone]
  | cons frame sent ih =>
    obtain ⟨fuel, rfl⟩ := Nat.exists_eq_succ_of_ne_zero (Nat.ne_of_gt (Nat.zero_lt_of_lt hfuel))
    obtain ⟨⟨hfits, hdepth, hlength⟩, hreadable⟩ := List.forall_mem_cons.1 hsent.readable
    obtain ⟨hasks, hquiet⟩ := List.forall_mem_cons.1 hsent.asks_nothing
    have hnext : Frame.next c.unread = .frame frame (Frame.writeAll sent) := by
      rw [hunread, Frame.writeAll, List.flatMap_cons]
      exact Frame.next_write_append _ hfits hdepth hlength
    let c₁ : Client :=
      { c with receiver := (c.receiver.handle frame).2, unread := Frame.writeAll sent }
    let s₁ : Site := s.note c.session c.process.program (.read frame)
    have hacted := act_of_unanswered (hasks c.receiver) c₁ s₁
    obtain ⟨-, hsupervised, hnoted⟩ := act_read c s frame (Frame.writeAll sent) rfl
    have hstep : readWithin (fuel + 1) c s = readWithin fuel
        (c₁.act s₁ (c.receiver.handle frame).1).1 (c₁.act s₁ (c.receiver.handle frame).1).2 := by
      simp only [readWithin, hfree s hs, Bool.false_eq_true, if_false, hnext, hasks c.receiver,
        Bool.false_and]
      rfl
    rw [hstep, hacted]
    obtain ⟨receiver, delivered, s', heq, hs', hpassages⟩ := ih ⟨hreadable, hquiet⟩
      (c := { c₁ with delivered := (c₁.act s₁ (c.receiver.handle frame).1).1.delivered })
      (Nat.lt_of_succ_lt_succ hfuel) rfl halive (hsupervised.trans hs)
    have hsession : c₁.session = c.session := (c.receiver.handle_scope frame).1
    change s'.passages c₁.session =
      (c₁.act s₁ (c.receiver.handle frame).1).2.passages c₁.session ++ sent.map .read at hpassages
    rw [hsession, hnoted, List.append_assoc] at hpassages
    exact ⟨receiver, delivered, s', heq, hs', hpassages⟩

/-- Where nothing is unread there is no backlog. -/
theorem backlog_of_unread (h : c.unread = []) : c.backlog = 0 := by
  unfold backlog
  rw [h]
  split <;> rfl

/-- A client whose server answers its greeting at once, and asks for nothing. -/
structure Greets (c : Client) (greeting : Json) (sent : List Json) : Prop where
  plain : Plain sent
  outbox_eq : c.outbox = [greeting]
  unread_eq : c.unread = []
  ended_eq : c.ended = none
  writing_eq : c.writing = true
  isOpen_eq : c.process.isOpen = true
  stalled_eq : c.process.stalled = false
  react_eq : c.process.behaviour.react c.process.heard greeting =
    ⟨Frame.writeAll sent, false, false, false⟩

/-- The client when its server has heard the greeting and has written so many frames. -/
def greetedWith (c : Client) (greeting : Json) (sent : List Json) : Client :=
  { c with
    complaints := [], process := (c.process.hear greeting).2, unread := Frame.writeAll sent,
    outbox := [] }

/-- The site of the client then. -/
def greetedAt (c : Client) (greeting : Json) (s : Site) : Site :=
  (c.logComplaints s).2.note c.session c.process.program (.heard greeting)

/-- Such a client writes its greeting out, and its server answers with all that it writes. -/
theorem Greets.flush_eq {greeting : Json} {sent : List Json} (h : c.Greets greeting sent)
    (s : Site) : (c.logComplaints s).1.flush (c.logComplaints s).2 =
      (c.greetedWith greeting sent, c.greetedAt greeting s) := by
  have hheard : (c.logComplaints s).1.isHeard = true := by
    have hnone : (c.logComplaints s).1.backlog = 0 := backlog_of_unread h.unread_eq
    change c.process.hears (c.logComplaints s).1.backlog = true
    rw [Process.hears, Process.getsOn, h.isOpen_eq, h.stalled_eq, hnone]
    cases c.process.behaviour.room <;> simp
  have houtput : (c.process.hear greeting).1 = Frame.writeAll sent :=
    congrArg Reaction.output h.react_eq
  unfold flush
  change (c.logComplaints s).1.writeAll _ c.outbox = _
  rw [h.outbox_eq]
  simp only [writeAll, if_pos hheard]
  change ({ c with
    complaints := [], process := (c.process.hear greeting).2, outbox := [],
    unread := c.unread ++ (c.process.hear greeting).1 }, c.greetedAt greeting s) = _
  rw [h.unread_eq, houtput, List.nil_append]
  rfl

/-- It then reads all of that, where there is room for its reports. -/
theorem Greets.read_eq {greeting : Json} {sent : List Json} (h : c.Greets greeting sent)
    (hs : s.supervised = false) :
    ∃ receiver delivered s', (c.greetedWith greeting sent).read (c.greetedAt greeting s) =
        ({ c.greetedWith greeting sent with receiver, delivered, unread := [] }, s') ∧
      s'.passages c.session =
        s.passages c.session ++ (Note.heard greeting :: sent.map .read) := by
  have halive : (c.greetedWith greeting sent).process.alive = true := by
    obtain ⟨halive, -⟩ := Bool.and_eq_true_iff.1 h.isOpen_eq
    change (c.process.alive && !(c.process.behaviour.react c.process.heard greeting).exits) = true
    rw [halive, h.react_eq]
    rfl
  have hs₁ : (c.greetedAt greeting s).supervised = false :=
    (Site.grows_logAll ..).supervised_eq.trans hs
  obtain ⟨receiver, delivered, s₂, hread, -, hpassages⟩ :=
    readWithin_plain (c := c.greetedWith greeting sent) h.plain
      (Nat.lt_succ_of_le (Frame.length_le_writeAll sent)) rfl halive hs₁
  refine ⟨receiver, delivered, s₂, ?_, ?_⟩
  · have hnot : ¬ (c.greetedWith greeting sent).ended.isSome = true := by
      simp [greetedWith, h.ended_eq]
    rw [read, if_neg hnot]
    exact hread
  · have hlogged := Site.journal_logAll s c.channel .trace
      (c.complaints.flatMap fun text => Lines.ofString (text ++ "\n"))
    have hnoted : (c.greetedAt greeting s).passages c.session =
        s.passages c.session ++ [.heard greeting] :=
      Site.passages_note_self.trans (congrArg (· ++ _) (Site.passages_congr hlogged _))
    change s₂.passages c.session = (c.greetedAt greeting s).passages c.session ++ _ at hpassages
    rw [hnoted, List.append_assoc] at hpassages
    exact hpassages

/-- Such a client reads all that its server writes in its first turn. -/
theorem Greets.turned_eq {greeting : Json} {sent : List Json} (h : c.Greets greeting sent)
    (hpatient : c.patience ≠ 0) (hs : s.supervised = false) (id : Nat) :
    (∃ t, (c.turned s id).2.passages c.session = s.passages c.session ++ t ∧ frames t = sent) ∧
      (c.turned s id).1.outbox = [] ∧ (c.turned s id).1.writing = true := by
  obtain ⟨receiver, delivered, s₂, hread, hpassages⟩ := h.read_eq hs
  have hframes : frames (Note.heard greeting :: sent.map .read) = sent := by
    change frames (sent.map .read) = sent
    rw [frames, List.filterMap_map]
    exact List.filterMap_some
  have hfinal : c.turned s id =
      ({ c.greetedWith greeting sent with receiver, delivered, unread := [] }, s₂) := by
    obtain ⟨n, hn⟩ := Nat.exists_eq_succ_of_ne_zero hpatient
    rw [turned, hn]
    simp only [takeTurns]
    rw [h.flush_eq, hread]
    exact (if_pos (Bool.or_true _)).trans (flush_of_written (.inl rfl) s₂)
  rw [hfinal]
  exact ⟨⟨_, hpassages, hframes⟩, rfl, h.writing_eq⟩

/-- **A server that answers its greeting at once**, and asks for nothing, is read to the end of
what it writes, and welcomes its client if it has answered without an error. -/
theorem Greets.complete {greeting : Json} {sent : List Json} (h : c.Greets greeting sent)
    (hc : c.Waiting id) (hs : s.supervised = false) {response : Json}
    (hresponse : sent.find? (Receiver.isReply id) = some response)
    (herror : response.member? "error" = none) :
    (∃ t, (c.complete s id).2.2.passages c.session = s.passages c.session ++ t ∧
      frames t = sent) ∧ (c.complete s id).1 = .ok () := by
  obtain ⟨⟨t, hpassages, hframes⟩, houtbox, hwriting⟩ :=
    h.turned_eq hc.patient hs id
  have hanswer : (c.turned s id).1.answer? id = some response := by
    rw [answer?_turned hc hpassages, hframes, hresponse]
  have hcases := (complete_cases hc.patient s id).resolve_left (by simp [hanswer])
  obtain ⟨response', hsome, hrest⟩ := hcases
  obtain rfl := Option.some.inj (hanswer.symm.trans hsome)
  rcases hrest with ⟨error, hnot, -⟩ | ⟨-, heq⟩
  · exact absurd (herror.symm.trans hnot) (by simp)
  · have hroom : ((c.turned s id).1.received id response).makeRoom (c.turned s id).2 =
        ((c.turned s id).1.received id response, (c.turned s id).2) := by
      refine if_pos ?_
      change (c.turned s id).1.outbox.length < outboxLimit
      rw [houtbox]
      decide
    obtain ⟨hok, -, hsite⟩ :=
      send_eq_ok_iff ((c.turned s id).1.received id response) (c.turned s id).2 greeted
    rw [heq, hsite, hroom]
    exact ⟨⟨t, hpassages, hframes⟩, hok.2 (by rw [hroom]; exact hwriting)⟩

/-! ### Beside others -/

/-- What a client comes to beside others, held against what it comes to alone. -/
structure Compared (session : SessionId) (s s' : Site) (patience : Nat)
    (result result' : Except ClientFault Unit × Client × Site) : Prop where
  /-- All that is read beside others is read alone. -/
  passed : ∃ t u, result.2.2.passages session = s.passages session ++ t ∧
    result'.2.2.passages session = s'.passages session ++ u ∧ frames t <+: frames u
  /-- A client whose reports find room comes to the same. -/
  decided : result.2.2.holds session = false → result.1 = result'.1
  /-- One that would be welcomed can only wait in vain besides. -/
  delayed : result'.1 = .ok () → result.1 = .ok () ∨
    result.2.2.holds session = true ∧ result.1 = .error (.late "initialize" patience)

variable {session : SessionId} {patience : Nat}
  {result result' : Except ClientFault Unit × Client × Site}

/-- Those that are abreast come to the same by coming to the same fault. -/
theorem Abreast.compared (h : Abreast session s s' p q) (hsite : result.2.2 = p.2)
    (hsite' : result'.2.2 = q.2) (hsame : result.1 = result'.1) :
    Compared session s s' patience result result' := by
  obtain ⟨t, hleft, hright⟩ := h.passed
  exact ⟨⟨t, t, hsite ▸ hleft, hsite' ▸ hright, List.prefix_rfl⟩, fun _ => hsame,
    fun hok => .inl (hsame.trans hok)⟩

end Client
end Switchboard
