/-
# The reports of a client

Whatever a client does, it stays in charge of the same files for the same session
(`Client.charge`), the reports that it leaves at the site are its session's own,
the one that its server has stopped is the last of them, and once it has left that
one it leaves none (`Client.Leads`).  This is shown for each thing that a client
does and holds for what it does one after the other.
-/

import Mathlib.Tactic
import Switchboard.Proofs.Client.Moves

namespace Switchboard

namespace ServerEvent

/-- Whether a report says that a server has stopped. -/
def isStopped : ServerEvent → Bool
  | .diagnostics _ _ _ => false
  | .stopped _ _ => true

/-- Nothing of a session stands behind the report that its server has stopped. -/
def Precedes (e f : ServerEvent) : Prop := e.isStopped = true → f.session ≠ e.session

end ServerEvent

namespace Receiver

/-- Whatever a frame leads to, the session and its scope stay. -/
theorem handle_scope (r : Receiver) (frame : Json) :
    (r.handle frame).2.session = r.session ∧ (r.handle frame).2.scope = r.scope := by
  unfold handle
  split
  · split <;> exact ⟨rfl, rfl⟩
  all_goals exact ⟨rfl, rfl⟩

/-- A frame leads to diagnostics of the receiver's session or to no report at all. -/
theorem handle_spec (r : Receiver) (frame : Json) {e : ServerEvent}
    (he : (r.handle frame).1 = .published e) : e.session = r.session ∧ e.isStopped = false := by
  have hpublish : ∀ p e, r.publish p = .published e →
      e.session = r.session ∧ e.isStopped = false := by
    intro p e h
    unfold publish at h
    split at h
    · exact absurd h (by simp)
    · split at h
      · obtain rfl := Outcome.published.inj h
        exact ⟨rfl, rfl⟩
      · exact absurd h (by simp)
  have hnotified : ∀ method params e, r.notified method params = .published e →
      e.session = r.session ∧ e.isStopped = false := by
    intro method params e h
    unfold notified at h
    split at h
    · split at h
      · exact hpublish _ e h
      · exact absurd h (by simp)
    · split at h <;> exact absurd h (by simp)
    · split at h <;> exact absurd h (by simp)
    · exact absurd h (by simp)
  unfold handle at he
  split at he
  · split at he <;> exact absurd he (by simp)
  · exact absurd he (by simp)
  · exact hnotified _ _ e he
  · exact absurd he (by simp)
  · exact absurd he (by simp)

end Receiver

namespace Site

/-- Logging reports nothing. -/
theorem events_logAll (s : Site) (channel : Channel) (level : Level)
    (messages : List String) : (s.logAll channel level messages).events = s.events := by
  induction messages generalizing s with
  | nil => rfl
  | cons m messages ih => exact ih (s.log channel level m)

end Site

namespace Client

variable {c : Client} {s : Site} {p q : Client × Site} {d e : List ServerEvent}

/-- The session of a client, and the directories of the files that it reports on. -/
def charge (c : Client) : SessionId × List Path := (c.receiver.session, c.receiver.scope)

/-- A client leaves reports and becomes another client at another site. -/
structure Leaves (c : Client) (s : Site) (p : Client × Site) (left : List ServerEvent) : Prop where
  charge_eq : p.1.charge = c.charge
  events_eq : p.2.events = s.events ++ left
  own : ∀ e ∈ left, e.session = c.session
  ordered : left.Pairwise ServerEvent.Precedes
  silent : c.ended.isSome = true → left = []
  ended : (c.ended.isSome = true ∨ ∃ e ∈ left, e.isStopped = true) → p.1.ended.isSome = true

/-- A client in the same charge is of the same session. -/
theorem session_eq_of_charge {c' : Client} (h : c'.charge = c.charge) : c'.session = c.session :=
  congrArg Prod.fst h

/-- A client becomes another client at another site with whatever reports it leaves. -/
def Leads (c : Client) (s : Site) (p : Client × Site) : Prop := ∃ left, c.Leaves s p left

/-- What concerns no report leads on. -/
theorem Leads.still (hcharge : p.1.charge = c.charge) (hended : p.1.ended = c.ended)
    (hevents : p.2.events = s.events) : c.Leads s p := by
  refine ⟨[], hcharge, by rw [hevents, List.append_nil], by simp, .nil, fun _ => rfl, ?_⟩
  rintro (h | ⟨e, he, -⟩)
  · rwa [hended]
  · exact absurd he List.not_mem_nil

theorem Leads.refl (c : Client) (s : Site) : c.Leads s (c, s) := .still rfl rfl rfl

/-- One thing after the other leads on. -/
theorem Leads.trans (h₁ : c.Leads s p) (h₂ : p.1.Leads p.2 q) : c.Leads s q := by
  obtain ⟨d, h₁⟩ := h₁
  obtain ⟨e, h₂⟩ := h₂
  refine ⟨d ++ e, h₂.charge_eq.trans h₁.charge_eq, ?_, ?_, ?_, ?_, ?_⟩
  · rw [h₂.events_eq, h₁.events_eq, List.append_assoc]
  · intro x hx
    rcases List.mem_append.1 hx with hx | hx
    · exact h₁.own x hx
    · exact (h₂.own x hx).trans (session_eq_of_charge h₁.charge_eq)
  · refine List.pairwise_append.2 ⟨h₁.ordered, h₂.ordered, fun x hx y hy hstopped => ?_⟩
    -- A client that has said that its server has stopped leaves nothing more.
    have hnone := h₂.silent (h₁.ended (.inr ⟨x, hx, hstopped⟩))
    exact absurd hy (hnone ▸ List.not_mem_nil)
  · intro h
    rw [h₁.silent h, h₂.silent (h₁.ended (.inl h)), List.append_nil]
  · rintro (h | ⟨x, hx, hstopped⟩)
    · exact h₂.ended (.inl (h₁.ended (.inl h)))
    · rcases List.mem_append.1 hx with hx | hx
      · exact h₂.ended (.inl (h₁.ended (.inr ⟨x, hx, hstopped⟩)))
      · exact h₂.ended (.inr ⟨x, hx, hstopped⟩)

/-- What a client leads to, one that differs in other things leads to. -/
theorem Leads.from {c₀ : Client} {s₀ : Site} (h : c.Leads s p) (hcharge : c.charge = c₀.charge)
    (hended : c.ended = c₀.ended) (hevents : s.events = s₀.events) : c₀.Leads s₀ p :=
  .trans (.still (p := (c, s)) hcharge hended hevents) h

/-! ### Each thing that a client does -/

/-- Putting a message into the outbox reports nothing. -/
theorem leads_push (c : Client) (s : Site) (m : Json) : c.Leads s (c.push m, s) := by
  unfold push
  split <;> exact .still rfl rfl rfl

/-- Acting on a frame reports what was published, and no stop. -/
theorem leads_act (c : Client) (s : Site) (hc : c.ended = none) (o : Outcome)
    (ho : ∀ e, o = .published e → e.session = c.session ∧ e.isStopped = false) :
    c.Leads s (c.act s o) := by
  cases o with
  | answered answer => exact leads_push ..
  | published e =>
    obtain ⟨hsession, hstopped⟩ := ho e rfl
    refine ⟨[e], rfl, rfl, ?_, List.pairwise_singleton _ _, ?_, ?_⟩
    · exact fun x hx => List.mem_singleton.1 hx ▸ hsession
    · exact fun h => absurd h (by rw [hc]; simp)
    · rintro (h | ⟨x, hx, h⟩)
      · exact h
      · rw [List.mem_singleton.1 hx, hstopped] at h
        exact absurd h (by simp)
  | delivered | logged | ignored => exact .still rfl rfl rfl

/-- A client that ends reports its stop. -/
theorem leads_finish (c : Client) (s : Site) (hc : c.ended = none) (reason : StopReason) :
    c.Leads s (c.finish s reason) := by
  refine ⟨[.stopped c.session reason], rfl, rfl, ?_, List.pairwise_singleton _ _, ?_, fun _ => rfl⟩
  · exact fun x hx => List.mem_singleton.1 hx ▸ rfl
  · exact fun h => absurd h (by rw [hc]; simp)

/-- A single move of a client reports for its session only, and nothing after its stop. -/
theorem Move.leads (h : Move p q) : p.1.Leads p.2 q := by
  cases h with
  | complain c s => exact .still rfl rfl (Site.events_logAll ..)
  | @receive c s frame rest hended =>
    obtain ⟨hsession, hscope⟩ := c.receiver.handle_scope frame
    exact (leads_act { c with receiver := (c.receiver.handle frame).2, unread := rest }
      (s.note c.session c.process.program (.read frame)) hended (c.receiver.handle frame).1
      fun e he => ⟨(c.receiver.handle_spec frame he).1.trans hsession.symm,
        (c.receiver.handle_spec frame he).2⟩).from (Prod.ext hsession hscope) rfl rfl
  | finish hended _ _ reason => exact leads_finish _ _ hended reason
  | tell | lose | halt => exact .still rfl rfl rfl

/-- A single thing a client does reports for its session only, and nothing after its stop. -/
theorem Act.leads (h : Act p q) : p.1.Leads p.2 q := by
  cases h with
  | move h => exact h.leads
  | push c s m => exact leads_push c s m
  | _ => exact .still rfl rfl rfl

/-- A row of things a client does reports for its session only, and nothing after its stop. -/
theorem Acts.leads (h : Acts p q) : p.1.Leads p.2 q := by
  induction h with
  | refl => exact .refl ..
  | tail _ h ih => exact ih.trans h.leads

/-- A row of moves of a client reports for its session only, and nothing after its stop. -/
theorem Moves.leads (h : Moves p q) : p.1.Leads p.2 q := (Acts.of_moves h).leads

/-! ### The life of a client -/

/-- The client of a server that has just been started has left no report. -/
theorem spawn_spec {s' : Site} {receiver : Receiver} {channel : Channel} {binary : Path}
    {patience stopPatience : Nat}
    (h : spawn s receiver channel binary patience stopPatience = .ok (c, s')) :
    c.charge = (receiver.session, receiver.scope) ∧ c.ended = none ∧ s'.events = s.events := by
  unfold spawn at h
  cases hprogram : s.disk.program binary with
  | error fault => rw [hprogram] at h; cases h
  | ok behaviour => rw [hprogram] at h; cases h; exact ⟨rfl, rfl, rfl⟩

/-- Bringing a document up to date reports for the client's session only. -/
theorem leads_sync (c : Client) (s : Site) (uri language text : String) :
    c.Leads s (c.sync s uri language text).2 :=
  (acts_send { c with documents := (c.documents.sync uri language text).2 } s _).leads.from
    rfl rfl rfl

/-- Closing a document reports for the client's session only. -/
theorem leads_close (c : Client) (s : Site) (uri : String) : c.Leads s (c.close s uri).2 := by
  unfold close
  split
  · exact .refl c s
  · exact (acts_send ..).leads.from rfl rfl rfl

/-- A client that is dropped leaves its reports like any other. -/
theorem leads_drop (c : Client) (s : Site) : ∃ c', c.Leads s (c', c.drop s) := by
  have hread := (moves_read { c with process := c.process.kill, writing := false, outbox := [] }
    { s with supervised := false }).leads
  obtain ⟨left, h⟩ := hread
  exact ⟨_, left, h.charge_eq, h.events_eq, h.own, h.ordered, h.silent, h.ended⟩

end Client
end Switchboard
