/-
# What clients add to a site

Clients share a site: the disk, and the reports that wait.  Whatever a client does
there, files grow and reports line up behind the others; nothing is taken away
(`Site.Grows`).  So a session that waits for room goes on waiting until somebody takes
a report (`Site.holds_of_grows`).
-/

import Switchboard.Proofs.Client.Moves
import Switchboard.Proofs.Disk.Growth

namespace Switchboard

namespace Site

variable {s s' s'' : Site}

/-- A site on which files and reports have been added. -/
structure Grows (s s' : Site) : Prop where
  disk : s.disk.Grows s'.disk
  events : s.events <+: s'.events
  supervised_eq : s'.supervised = s.supervised

theorem Grows.refl (s : Site) : Grows s s := ⟨.refl _, List.prefix_rfl, rfl⟩

theorem Grows.trans (h₁ : Grows s s') (h₂ : Grows s' s'') : Grows s s'' :=
  ⟨h₁.disk.trans h₂.disk, h₁.events.trans h₂.events, h₂.supervised_eq.trans h₁.supervised_eq⟩

/-- A line of a log makes a site grow. -/
theorem grows_log (s : Site) (channel : Channel) (level : Level) (message : String) :
    Grows s (s.log channel level message) := ⟨channel.grows_log .., List.prefix_rfl, rfl⟩

/-- Lines of a log make a site grow. -/
theorem grows_logAll (s : Site) (channel : Channel) (level : Level) (messages : List String) :
    Grows s (s.logAll channel level messages) := by
  induction messages generalizing s with
  | nil => exact .refl s
  | cons m messages ih => exact (s.grows_log channel level m).trans (ih _)

/-- A note makes a site grow. -/
theorem grows_note (s : Site) (session : SessionId) (program : Path) (n : Note) :
    Grows s (s.note session program n) :=
  ⟨.refl _, List.prefix_rfl, rfl⟩

/-- A report makes a site grow. -/
theorem grows_report (s : Site) (e : ServerEvent) : Grows s (s.report e) :=
  ⟨.refl _, List.prefix_append .., rfl⟩

/-- **A session that waits for room waits until a report is taken.** -/
theorem holds_of_grows (h : Grows s s') {session : SessionId} (hs : s.holds session = true) :
    s'.holds session = true := by
  obtain ⟨more, hmore⟩ := h.events
  rw [holds, Bool.and_eq_true, List.any_eq_true] at hs ⊢
  obtain ⟨hsupervised, e, he, hsession⟩ := hs
  refine ⟨h.supervised_eq.trans hsupervised, e, ?_, hsession⟩
  rw [← hmore, List.drop_append]
  exact List.mem_append_left _ he

end Site

namespace Client

open Site (Grows)

variable {c : Client} {s : Site} {p q : Client × Site}

/-- What comes of a frame makes a site grow. -/
theorem grows_act (c : Client) (s : Site) (o : Outcome) : Grows s (c.act s o).2 := by
  cases o with
  | published e => exact s.grows_report e
  | logged level message => exact s.grows_log ..
  | delivered | answered | ignored => exact .refl s

/-- A move makes a site grow. -/
theorem Move.grows (h : Move p q) : Grows p.2 q.2 := by
  cases h with
  | complain c s => exact s.grows_logAll ..
  | tell s => exact s.grows_note ..
  | lose s => exact s.grows_log ..
  | receive => exact (Site.grows_note ..).trans (grows_act ..)
  | finish => exact (Site.grows_log ..).trans (Site.grows_report ..)
  | halt => exact ⟨.refl _, List.prefix_rfl, rfl⟩

/-- **Whatever a client does makes a site grow.** -/
theorem Act.grows (h : Act p q) : Grows p.2 q.2 := by
  cases h with
  | move h => exact h.grows
  | log c s => exact s.grows_log ..
  | _ => exact .refl _

/-- Whatever a client does, it only adds to the site. -/
theorem Acts.grows (h : Acts p q) : Grows p.2 q.2 := by
  induction h with
  | refl => exact .refl _
  | tail _ h ih => exact ih.trans h.grows

/-- Moves make a site grow. -/
theorem Moves.grows (h : Moves p q) : Grows p.2 q.2 := (Acts.of_moves h).grows

end Client
end Switchboard
