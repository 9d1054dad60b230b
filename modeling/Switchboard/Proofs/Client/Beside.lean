/-
# A client beside others

What passes between a client and its server depends on the rest of the site in one thing:
whether a report finds room there.  So a client at a site that others use does what it
would do where nobody else is (`Client.Abreast`), until a report of its session finds no
room; from then on it reads nothing more and is behind (`Client.Behind`), but it goes on
to write where it would do so alone.  Both are shown for a row of turns
(`Client.takeTurns_beside`), and from that for what waits for an answer and for room.
-/

import Switchboard.Proofs.Client.Reading

namespace Switchboard

/-! ### Servers that behave alike -/

/-- Two servers that differ in no more than where their executables are. -/
structure Process.Alike (p p' : Process) : Prop where
  behaviour_eq : p'.behaviour = p.behaviour
  heard_eq : p'.heard = p.heard
  alive_eq : p'.alive = p.alive
  reading_eq : p'.reading = p.reading
  stalled_eq : p'.stalled = p.stalled

namespace Process

variable {p p' p'' : Process}

theorem Alike.refl (p : Process) : Alike p p := ⟨rfl, rfl, rfl, rfl, rfl⟩

/-- Equal processes are alike. -/
theorem Alike.of_eq (h : p' = p) : Alike p p' := h ▸ .refl p

theorem Alike.trans (h₁ : Alike p p') (h₂ : Alike p' p'') : Alike p p'' :=
  ⟨h₂.behaviour_eq.trans h₁.behaviour_eq, h₂.heard_eq.trans h₁.heard_eq,
    h₂.alive_eq.trans h₁.alive_eq, h₂.reading_eq.trans h₁.reading_eq,
    h₂.stalled_eq.trans h₁.stalled_eq⟩

/-- Of alike processes both have their input open or neither. -/
theorem Alike.isOpen_eq (h : Alike p p') : p'.isOpen = p.isOpen := by
  rw [isOpen, h.alive_eq, h.reading_eq, isOpen]

/-- Alike processes get on with what is unread alike. -/
theorem Alike.getsOn_eq (h : Alike p p') (unread : Nat) : p'.getsOn unread = p.getsOn unread := by
  rw [getsOn, h.stalled_eq, h.behaviour_eq, getsOn]

/-- Alike processes react to a message alike and stay alike. -/
theorem Alike.hear (h : Alike p p') (m : Json) :
    (p'.hear m).1 = (p.hear m).1 ∧ Alike (p.hear m).2 (p'.hear m).2 := by
  obtain ⟨hbehaviour, hheard, halive, hreading, -⟩ := h
  unfold Process.hear
  rw [hbehaviour, hheard]
  exact ⟨rfl, rfl, rfl, congrArg (· && _) halive, congrArg (· && _) hreading, rfl⟩

/-- With less of its output unread a server gets on sooner. -/
theorem getsOn_mono (p : Process) {few many : Nat} (h : few ≤ many)
    (hmany : p.getsOn many = true) : p.getsOn few = true := by
  unfold getsOn at hmany ⊢
  obtain ⟨hstalled, hroom⟩ := Bool.and_eq_true_iff.1 hmany
  refine Bool.and_eq_true_iff.2 ⟨hstalled, ?_⟩
  cases hsize : p.behaviour.room with
  | none => rfl
  | some size =>
    rw [hsize, Option.all_some, decide_eq_true_iff] at hroom
    rw [Option.all_some, decide_eq_true_iff]
    omega

end Process

namespace Client

open Exchange

variable {c c' : Client} {s s' : Site} {p q : Client × Site} {id : SessionId}

/-! ### Clients that talk alike -/

/-- Two clients that differ in nothing on which the talk with their servers depends. -/
structure Alike (c c' : Client) : Prop where
  process : c.process.Alike c'.process
  receiver_eq : c'.receiver = c.receiver
  outbox_eq : c'.outbox = c.outbox
  writing_eq : c'.writing = c.writing
  unread_eq : c'.unread = c.unread
  ended_eq : c'.ended = c.ended
  delivered_eq : c'.delivered = c.delivered

/-- Alike clients are of one session. -/
theorem Alike.session_eq (h : Alike c c') : c'.session = c.session :=
  congrArg Receiver.session h.receiver_eq

/-- Alike clients have the same messages waiting. -/
theorem Alike.backlog_eq (h : Alike c c') : c'.backlog = c.backlog := by
  rw [backlog, h.ended_eq, h.unread_eq, backlog]

/-- Alike clients have both a full channel or neither has. -/
theorem Alike.isFull_eq (h : Alike c c') : c'.isFull = c.isFull := by
  rw [isFull, h.outbox_eq, isFull]

/-- Alike clients hold the same answers. -/
theorem Alike.answer?_eq (h : Alike c c') (id : Nat) : c'.answer? id = c.answer? id := by
  rw [answer?, h.delivered_eq, answer?]

/-- Clients that send the same message stay alike. -/
theorem Alike.push (h : Alike c c') (m : Json) : Alike (c.push m) (c'.push m) := by
  unfold Client.push
  by_cases hw : c.writing = true
  · rw [if_pos hw, if_pos (h.writing_eq.trans hw)]
    exact { h with outbox_eq := congrArg (· ++ [m]) h.outbox_eq }
  · rw [if_neg hw, if_neg fun hw' => hw (h.writing_eq.symm.trans hw')]
    exact h

/-- Clients whose servers do the same stay alike, whatever the sites are. -/
theorem Alike.act (h : Alike c c') (s s' : Site) (o : Outcome) :
    Alike (c.act s o).1 (c'.act s' o).1 := by
  cases o with
  | delivered id body =>
    exact { h with delivered_eq := congrArg (· ++ [(id, body)]) h.delivered_eq }
  | answered answer => exact h.push answer
  | published | logged | ignored => exact h

/-- Two clients abreast: they are alike, and the same has passed in their session. -/
structure Abreast (id : SessionId) (s s' : Site) (p q : Client × Site) : Prop where
  alike : Alike p.1 q.1
  passed : ∃ t, p.2.passages id = s.passages id ++ t ∧ q.2.passages id = s'.passages id ++ t

theorem Abreast.refl (h : Alike c c') : Abreast id s s' (c, s) (c', s') :=
  ⟨h, [], (List.append_nil _).symm, (List.append_nil _).symm⟩

theorem Abreast.trans {p' q' : Client × Site} (h₁ : Abreast id s s' p q)
    (h₂ : Abreast id p.2 q.2 p' q') : Abreast id s s' p' q' := by
  obtain ⟨t, hleft, hright⟩ := h₁.passed
  obtain ⟨u, hleft', hright'⟩ := h₂.passed
  refine ⟨h₂.alike, t ++ u, ?_, ?_⟩
  · rw [hleft', hleft, List.append_assoc]
  · rw [hright', hright, List.append_assoc]

/-- A client has read as much as another one or more of the same output. -/
def Ahead (c c' : Client) : Prop :=
  c'.ended.isSome = true ∨ c.ended = none ∧ (c'.unread = c.unread ∨
    ∃ frame rest, Frame.next c.unread = .frame frame rest ∧ c'.unread.length ≤ c.unread.length)

theorem Ahead.refl (c : Client) : Ahead c c := by
  cases hended : c.ended with
  | some reason => exact .inl (by rw [hended]; rfl)
  | none => exact .inr ⟨hended, .inl rfl⟩

/-- What has been read waits no more. -/
theorem Ahead.backlog_le (h : Ahead c c') : c'.backlog ≤ c.backlog := by
  unfold backlog
  split
  · exact Nat.zero_le _
  next hgoes =>
    obtain ⟨hended, hread⟩ := h.resolve_left hgoes
    rw [hended, Option.isSome_none, if_neg Bool.false_ne_true]
    rcases hread with hsame | ⟨frame, rest, hnext, hle⟩
    · rw [hsame]
    · rw [hnext]
      split
      · exact Nat.zero_le _
      · exact hle

/-- What the server writes next comes behind what is unread. -/
theorem Ahead.hear (h : Ahead c c') (p p' : Process) (output : Bytes) :
    Ahead { c with process := p, unread := c.unread ++ output }
      { c' with process := p', unread := c'.unread ++ output } := by
  refine h.imp_right fun hread => ⟨hread.1, ?_⟩
  rcases hread.2 with hsame | ⟨frame, rest, hnext, hle⟩
  · exact .inl (congrArg (· ++ output) hsame)
  · refine .inr ⟨frame, rest ++ output, Frame.next_append output hnext, ?_⟩
    change (c'.unread ++ output).length ≤ (c.unread ++ output).length
    rw [List.length_append, List.length_append]
    omega

/-- A client that has read on where the other one could not: nothing has been written since. -/
structure Further (c c' : Client) : Prop where
  process : c.process.Alike c'.process
  outbox_prefix : c.outbox <+: c'.outbox
  writing_eq : c'.writing = c.writing
  ahead : Ahead c c'

/-- The one that is behind goes on to write if the other one does: its server hears less, but
what it hears is the same, and what has not been read only makes it wait. -/
theorem writing_of_further {ms more : List Json} (hprocess : c.process.Alike c'.process)
    (hwriting : c'.writing = c.writing) (hahead : Ahead c c') (s s' : Site)
    (h : (c'.writeAll s' (ms ++ more)).1.writing = true) : (c.writeAll s ms).1.writing = true := by
  induction ms generalizing c c' s s' with
  | nil =>
    have hgoes := (moves_writeAll c' s' more).goes
    exact hwriting ▸ hgoes.writing_of h
  | cons m ms ih =>
    rw [List.cons_append] at h
    unfold writeAll at h ⊢
    by_cases hopen : c.process.isOpen = true
    · by_cases hon : c.process.getsOn c.backlog = true
      · have hheard : c.isHeard = true := by rw [isHeard, Process.hears, hopen, hon]; rfl
        have hheard' : c'.isHeard = true := by
          rw [isHeard, Process.hears, hprocess.isOpen_eq, hopen, hprocess.getsOn_eq,
            c.process.getsOn_mono hahead.backlog_le hon]
          rfl
        obtain ⟨houtput, hprocess'⟩ := hprocess.hear m
        rw [if_pos hheard'] at h
        rw [if_pos hheard]
        have hfurther : Ahead
            { c with process := (c.process.hear m).2, unread := c.unread ++ (c.process.hear m).1 }
            { c' with
              process := (c'.process.hear m).2, unread := c'.unread ++ (c'.process.hear m).1 } := by
          rw [houtput]
          exact hahead.hear ..
        refine ih ?_ ?_ hfurther _ _ h
        · exact hprocess'
        · exact hwriting
      · have hblocked : c.isBlocked = true := by
          rw [isBlocked, Process.blocks, hopen, Bool.eq_false_iff.2 hon]
          rfl
        have hheard : c.isHeard = false := by
          rw [isHeard, Process.hears, Bool.eq_false_iff.2 hon, Bool.and_false]
        rw [hheard, if_neg Bool.false_ne_true, if_pos hblocked]
        have hgoes := (moves_writeAll c' s' (m :: (ms ++ more))).goes
        refine hwriting ▸ hgoes.writing_of ?_
        rw [writeAll]
        exact h
    · have hdeaf : c'.process.isOpen = false := by
        rw [hprocess.isOpen_eq, Bool.eq_false_iff.2 hopen]
      rw [isHeard, Process.hears, isBlocked, Process.blocks, hdeaf] at h
      exact absurd h (by simp)

/-- A client whose session has no room, beside one that has it all to itself: it reads no more
and has read a first part of what that one has, and it goes on to write if that one does. -/
structure Behind (id : SessionId) (s s' : Site) (p q : Client × Site) : Prop where
  held : p.2.holds id = true
  ended_eq : p.1.ended = none
  written : p.1.Written
  writing_of : q.1.writing = true → p.1.writing = true
  passed : ∃ t u, p.2.passages id = s.passages id ++ t ∧ q.2.passages id = s'.passages id ++ u ∧
    frames t <+: frames u

/-- One that has read a first part of what the other one has, and has written nothing since. -/
structure Stranded (id : SessionId) (s s' : Site) (p q : Client × Site) : Prop where
  held : p.2.holds id = true
  ended_eq : p.1.ended = none
  further : Further p.1 q.1
  passed : ∃ t u, p.2.passages id = s.passages id ++ t ∧ q.2.passages id = s'.passages id ++ u ∧
    t <+: u

/-- What happens in a session that has read all it can adds to what has passed there. -/
theorem exists_passages (h : Moves (c, s) p) :
    ∃ t, p.2.passages c.session = s.passages c.session ++ t := by
  obtain ⟨t, ht⟩ := h.hasRead
  exact ⟨t, ht.passages_eq⟩

/-- Writing reads nothing. -/
theorem unread_flush (c : Client) (s : Site) : (c.flush s).1.ended = c.ended ∧
    ∃ t, (c.flush s).2.passages c.session = s.passages c.session ++ t ∧ frames t = [] := by
  suffices h : ∀ ms, (c.writeAll s ms).1.ended = c.ended ∧ ∃ t,
      (c.writeAll s ms).2.passages c.session = s.passages c.session ++ t ∧ frames t = [] from
    h c.outbox
  intro ms
  induction ms generalizing c s with
  | nil => exact ⟨rfl, [], (List.append_nil _).symm, rfl⟩
  | cons m ms ih =>
    simp only [writeAll]
    split
    · obtain ⟨hended, t, ht, hnone⟩ := ih { c with
        process := (c.process.hear m).2, unread := c.unread ++ (c.process.hear m).1 }
        (s.note c.session c.process.program (.heard m))
      refine ⟨hended, [.heard m] ++ t, ht.trans ?_, hnone⟩
      rw [← List.append_assoc]
      exact congrArg (· ++ t) Site.passages_note_self
    · split
      · exact ⟨rfl, [], (List.append_nil _).symm, rfl⟩
      · exact ⟨rfl, [], (List.append_nil _).symm, rfl⟩

/-- One that is stranded writes what is in its outbox, and is behind whatever the other one
does once it has written. -/
theorem Stranded.behind (h : Stranded id s s' p q) (hp : p.1.session = id)
    (hq : q.1.session = id) {q' : Client × Site} (hmoves : Moves (q.1.flush q.2) q') :
    Behind id s s' (p.1.flush p.2) q' := by
  have hflush := moves_flush p.1 p.2
  obtain ⟨t, u, hleft, hright, hbefore⟩ := h.passed
  obtain ⟨hended, v, hv, hnone⟩ := unread_flush p.1 p.2
  obtain ⟨w, hw⟩ := exists_passages ((moves_flush q.1 q.2).trans hmoves)
  rw [hp] at hv
  rw [hq] at hw
  have hframes : frames (t ++ v) <+: frames (u ++ w) := by
    rw [frames_append, hnone, List.append_nil, frames_append]
    exact (hbefore.filterMap _).trans (List.prefix_append ..)
  refine ⟨Site.holds_of_grows hflush.grows h.held, hended.trans h.ended_eq,
    written_writeAll .., fun hw => ?_, t ++ v, u ++ w, ?_, ?_, hframes⟩
  · obtain ⟨more, hmore⟩ := h.further.outbox_prefix
    have hwritten : (q.1.writeAll q.2 (p.1.outbox ++ more)).1.writing = true := by
      rw [hmore]
      exact hmoves.goes.writing_of hw
    exact writing_of_further h.further.process h.further.writing_eq h.further.ahead p.2 q.2 hwritten
  · rw [hv, hleft, List.append_assoc]
  · rw [hw, hright, List.append_assoc]

end Client
end Switchboard
