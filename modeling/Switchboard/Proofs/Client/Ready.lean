/-
# Servers that nobody waits for

Somebody waits for ever only when a server that is there does not read, and there is no room
left in its pipe and behind it.  A server that is attentive, that is, that never stalls and
never waits for a reader of its own, reads whatever it is sent; and one that is gone refuses
it.  So whatever a client of such a server does comes to an end (`Client.Acts.ready`).
-/

import Switchboard.Proofs.Client.Growth

namespace Switchboard

/-- Whether a program reads whatever it is sent: it never stalls, and never waits for a reader. -/
structure Behaviour.Attentive (b : Behaviour) : Prop where
  room_eq : b.room = none
  never_stalls : ∀ heard message, (b.react heard message).stalls = false

namespace Process

variable {p : Process}

/-- Nobody waits for a server that is ready: it takes no more messages, or reads them all. -/
def Ready (p : Process) : Prop :=
  p.isOpen = false ∨ p.behaviour.Attentive ∧ p.stalled = false

/-- Nobody waits for a server that is dead. -/
theorem ready_of_dead (h : p.alive = false) : p.Ready := .inl (by rw [isOpen, h, Bool.false_and])

/-- No write to a server that is ready blocks. -/
theorem Ready.blocks (h : p.Ready) (unread : Nat) : p.blocks unread = false := by
  unfold Process.blocks
  rcases h with hshut | ⟨hattentive, hstalled⟩
  · rw [hshut, Bool.false_and]
  · have hon : p.getsOn unread = true := by
      rw [getsOn, hstalled, hattentive.room_eq]
      rfl
    rw [hon, Bool.not_true, Bool.and_false]

/-- Nothing that a server does opens its input again. -/
theorem Ready.hear (h : p.Ready) (m : Json) : (p.hear m).2.Ready := by
  rcases h with hshut | ⟨hattentive, -⟩
  · refine .inl ?_
    unfold isOpen at hshut ⊢
    change (p.alive && _ && (p.reading && _)) = false
    cases halive : p.alive with
    | false => rfl
    | true =>
      rw [halive, Bool.true_and] at hshut
      rw [hshut, Bool.false_and, Bool.and_false]
  · exact .inr ⟨hattentive, hattentive.never_stalls p.heard m⟩

/-- A server that is ready stays so when its input is closed. -/
theorem Ready.closeInput (h : p.Ready) (unread : Nat) : (p.closeInput unread).Ready := by
  rcases h with hshut | hattentive
  · refine .inl ?_
    unfold isOpen at hshut ⊢
    change (p.alive && _ && p.reading) = false
    rw [Bool.and_right_comm, hshut, Bool.false_and]
  · exact .inr hattentive

end Process

namespace Client

variable {p q : Client × Site}

/-- Putting a message into the outbox leaves the process as it is. -/
theorem process_push (c : Client) (m : Json) : (c.push m).process = c.process := by
  unfold push
  split <;> rfl

/-- Acting on a frame leaves the process as it is, and holds nobody up. -/
theorem process_act (c : Client) (s : Site) (o : Outcome) :
    (c.act s o).1.process = c.process ∧ (c.act s o).2.stuck = s.stuck := by
  cases o with
  | answered answer => exact ⟨process_push .., rfl⟩
  | _ => exact ⟨rfl, rfl⟩

/-- Logging holds nobody up. -/
theorem stuck_logAll (s : Site) (channel : Channel) (level : Level) (lines : List String) :
    (s.logAll channel level lines).stuck = s.stuck := by
  induction lines generalizing s with
  | nil => rfl
  | cons line lines ih => exact ih (s.log channel level line)

/-- Nothing that happens between a client and a server that is ready makes anybody wait. -/
theorem Move.ready (h : Move p q) (hp : p.1.process.Ready) :
    q.1.process.Ready ∧ q.2.stuck = p.2.stuck := by
  cases h with
  | complain c s => exact ⟨hp, stuck_logAll ..⟩
  | @tell c s m => exact ⟨hp.hear m, rfl⟩
  | lose => exact ⟨hp, rfl⟩
  | @receive c s frame rest =>
    obtain ⟨hprocess, hstuck⟩ :=
      process_act { c with receiver := (c.receiver.handle frame).2, unread := rest }
        (s.note c.session c.process.program (.read frame)) (c.receiver.handle frame).1
    refine ⟨?_, hstuck⟩
    rw [hprocess]
    exact hp
  | finish => exact ⟨hp, rfl⟩
  | halt s hblocked => exact absurd ((hp.blocks _).symm.trans hblocked) (by simp)

/-- A server that is ready stays so whatever its client does, and nobody is held up. -/
theorem Act.ready (h : Act p q) (hp : p.1.process.Ready) :
    q.1.process.Ready ∧ q.2.stuck = p.2.stuck := by
  cases h with
  | move h => exact h.ready hp
  | push c s m => exact ⟨(process_push c m).symm ▸ hp, rfl⟩
  | closeInput c s => exact ⟨hp.closeInput _, rfl⟩
  | _ => exact ⟨hp, rfl⟩

/-- **Whatever a client of a server that is ready does, nobody waits for ever.** -/
theorem Acts.ready (h : Acts p q) (hp : p.1.process.Ready) :
    q.1.process.Ready ∧ q.2.stuck = p.2.stuck := by
  induction h with
  | refl => exact ⟨hp, rfl⟩
  | tail _ h ih =>
    obtain ⟨hready, hstuck⟩ := h.ready ih.1
    exact ⟨hready, hstuck.trans ih.2⟩

/-- A server that has just been started has been told nothing. -/
theorem idle_of_spawn {s s' : Site} {receiver : Receiver} {channel : Channel} {binary : Path}
    {patience stopPatience : Nat} {c : Client}
    (h : spawn s receiver channel binary patience stopPatience = .ok (c, s')) :
    c.outbox = [] ∧ s'.stuck = s.stuck := by
  unfold spawn at h
  cases hprogram : s.disk.program binary with
  | error fault =>
    rw [hprogram] at h
    exact absurd h (by simp [Except.map])
  | ok behaviour =>
    rw [hprogram] at h
    obtain ⟨rfl, rfl⟩ := Prod.mk.inj (Except.ok.inj h)
    exact ⟨rfl, rfl⟩

/-- Nobody waits for a client that is dropped. -/
theorem stuck_drop (c : Client) (s : Site) : (c.drop s).stuck = s.stuck :=
  ((Acts.of_moves (moves_read { c with process := c.process.kill, writing := false, outbox := [] }
    { s with supervised := false })).ready (Process.ready_of_dead rfl)).2

end Client
end Switchboard
