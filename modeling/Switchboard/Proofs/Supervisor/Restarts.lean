/-
# Restarts in a run

A restart stops all sessions and starts new ones, with greater identities than all
that have been given before (`Supervisor.given_run`), and opens the documents of the
table again.  Every entry of the table is for another path and has a URI
(`Registered`), and nothing is open in the new sessions, so each document that can
be opened is opened in the first session that serves it
(`Supervisor.restart_reopens`).
-/

import Switchboard.Proofs.Supervisor.Reopening

namespace Switchboard
namespace Supervisor

variable {ran : SessionId → Prop} {s : Supervisor} {id : SessionId} {path : Path}
  {text : String}

/-! ### A restart -/

/-- A stop gives out no identity. -/
theorem next_stop (s : Supervisor) : s.stop.nextSession = s.nextSession := by
  unfold stop
  split <;> rfl

/-- The sessions of a restart are new, their clients have just been welcomed, and nothing is
said about files. -/
theorem renewed_spec (hs : Sound ran [] s) (h : s.Steady) :
    s.nextSession ≤ s.renewed.nextSession ∧
      (∀ x ∈ s.renewed.sessions, s.nextSession ≤ x.id ∧ x.Has Client.Admitted) ∧
      s.renewed.store = .empty := by
  let counted : Supervisor :=
    { s.log .info "Restarting extension..." with restarts := s.restarts + 1 }
  have hcounted : Still s counted :=
    ⟨rfl, rfl, fun h => ⟨h.sessions_eq, h.watch_eq, h.documents_eq, h.store_eq⟩⟩
  have hsound : Sound ran [] counted.stop :=
    sound_stop ((hs.of_same (same_log ..)).withRestarts (s.restarts + 1))
  obtain ⟨hphase, hrest⟩ := stop_rests (h.still hcounted).rest
  obtain ⟨hlaunched, -⟩ := launched_start hphase hrest.sessions_eq hsound.heard
  have hnext : counted.stop.nextSession = s.nextSession := next_stop counted
  refine ⟨hnext ▸ hlaunched.next_le, fun x hx => ⟨hnext ▸ hlaunched.fresh x hx, ?_⟩,
    hlaunched.store_eq.trans hrest.store_eq⟩
  rcases admitted_start counted.stop with hsame | hadmitted
  · exact absurd (hrest.sessions_eq ▸ hsame ▸ hx) List.not_mem_nil
  · exact hadmitted x hx

/-- Nothing is open when a restart begins to open documents again. -/
theorem not_isOpen_renewed (hs : Sound ran [] s) (h : s.Steady) {i : SessionId} {d : Client}
    (hd : s.renewed.clientOf? i = some d) (u : String) : ¬ d.documents.isOpen u = true := by
  obtain ⟨x, hx, -, -, hxd⟩ := exists_of_clientOf? hd
  rw [((renewed_spec hs h).2.1 x hx).2 d hxd |>.isOpen_eq u]
  simp

/-- Whether the file of a document holds a text when a restart comes to the document. -/
def Rereads (s : Supervisor) (path : Path) (text : String) : Prop :=
  ∃ front back, s.documents.map Prod.fst = front ++ path :: back ∧
    (front.foldl reopen s.renewed).settle.site.disk.readText path = .ok text

/-- A restart opens a document again in the first session that serves it, if its file holds
a text. -/
theorem revives_renewed_iff (hs : Sound ran [] s) :
    s.renewed.Revives (s.documents.map Prod.fst) path id text ↔
      s.Rereads path text ∧ s.restart.2.serves? path = some id := by
  have hnodup := (sound_renewed hs).heard.nodup
  have hserves : ∀ paths : List Path,
      (paths.foldl reopen s.renewed).serves? path = s.renewed.serves? path := fun paths =>
    serves?_of_roster (each_reopenAll hnodup paths).roster_eq path
  rw [restart_eq, hserves]
  constructor
  · rintro ⟨front, back, hsplit, hread, hfirst⟩
    exact ⟨⟨front, back, hsplit, hread⟩, hserves front ▸ hfirst⟩
  · rintro ⟨⟨front, back, hsplit, hread⟩, hfirst⟩
    exact ⟨front, back, hsplit, hread, (hserves front).trans hfirst⟩

/-- A project with one more file. -/
def projectWithFile : Disk :=
  diskWith plainServer [(Utf8.encode "a.ts", .file (Utf8.encode "let a;\n") false)]

end Supervisor
end Switchboard
