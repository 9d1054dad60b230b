/-
# Opening documents again

Documents are opened again one after the other, each with what its file holds when
its turn comes (`Supervisor.Revives`).  When none of them is open before, and no two
are for the same path, every document that can be opened is opened in the first
session that serves it, whatever becomes of the others (`isOpen_reopenAll`,
`mem_documents_reopenAll_iff`), and its server is told so as of a new document
(`means_reopenAll`).

What a client means to say it still means to say whatever it does
(`Client.Carries`), so what it has been told to say of one document reaches the
server after all the others, unless a write fails or the server does not read.
-/

import Switchboard.Proofs.Supervisor.Conversations
import Switchboard.Proofs.Supervisor.Registry

namespace Switchboard

/-! ### What a client means to say -/

namespace Client

variable {c c' c'' : Client} {m : Json}

/-- Whether a client means to say something: its server has heard it, or it waits to be
written, unless a write has failed. -/
def Means (c : Client) (m : Json) : Prop := ∃ v, Held c v ∧ m ∈ v

/-- A client carries on: it means to say all that it meant to say, and takes up no writing. -/
structure Carries (c c' : Client) : Prop where
  writing_of : c'.writing = true → c.writing = true
  means : ∀ m, c.Means m → c'.Means m

theorem Carries.refl (c : Client) : Carries c c := ⟨fun h => h, fun _ h => h⟩

theorem Carries.trans (h₁ : Carries c c') (h₂ : Carries c' c'') : Carries c c'' :=
  ⟨fun h => h₁.writing_of (h₂.writing_of h), fun m h => h₂.means m (h₁.means m h)⟩

/-- A client carries on while it settles. -/
theorem carries_settle (c : Client) (s : Site) : Carries c (c.settle s).1 := by
  have hmoves := moves_settle c s
  refine ⟨hmoves.goes.writing_of, fun m ⟨v, hheld, hm⟩ => ⟨v, hmoves.held hheld, hm⟩⟩

/-- A client that takes in a text means to say it besides. -/
theorem held_sync (s : Site) (uri language text : String) {v : List Json} (h : Held c v) :
    Held (c.sync s uri language text).2.1 (v ++ [(c.documents.sync uri language text).1]) := by
  have hword : Message.isNamed (c.documents.sync uri language text).1 = true := by
    obtain ⟨-, hsays⟩ | ⟨-, hsays⟩ := sync_says c.documents uri language text
    · exact (due_document [] hsays rfl).1
    · exact (due_document [] hsays rfl).1
  have h₀ : Held { c with documents := (c.documents.sync uri language text).2 } v :=
    h.congr rfl rfl rfl
  have hsent := held_send h₀ s (c.documents.sync uri language text).1
  rwa [Exchange.words_named hword] at hsent

/-- A client carries on while it brings a document up to date. -/
theorem carries_sync (c : Client) (s : Site) (uri language text : String) :
    Carries c (c.sync s uri language text).2.1 := by
  refine ⟨fun hw => ((c.sync_spec s uri language text).2 hw).1, fun m ⟨v, hheld, hm⟩ => ?_⟩
  exact ⟨_, held_sync s uri language text hheld, List.mem_append_left _ hm⟩

/-- The notification that opens a document at a server. -/
def opening (uri language text : String) : Json :=
  Message.notification "textDocument/didOpen" (some (Message.didOpen uri language 1 text))

/-- Taking in the text of a document that is not open is to say that it opens. -/
theorem sync_eq_opening {d : Documents} {uri : String} (hclosed : ¬ d.isOpen uri = true)
    (language text : String) : (d.sync uri language text).1 = opening uri language text := by
  unfold Documents.sync
  split
  next doc hdoc =>
    rw [Documents.isOpen, hdoc] at hclosed
    exact absurd rfl hclosed
  · rfl

end Client

namespace Supervisor

variable {ran : SessionId → Prop} {s s' : Supervisor} {id : SessionId} {path p : Path}
  {text : String} {paths : List Path}

/-! ### One document -/

/-- Whether a document can be opened again now: its file holds a text, and a session serves it
first. -/
def Revivable (s : Supervisor) (path : Path) (id : SessionId) (text : String) : Prop :=
  s.settle.site.disk.readText path = .ok text ∧ s.serves? path = some id

/-- Who serves a path is a matter of the roster. -/
theorem serves?_of_roster (h : s'.roster = s.roster) (path : Path) :
    s'.serves? path = s.serves? path := by
  simp only [serves?, first?_eq, h]

/-- All that opening a document again can come to. -/
theorem reopen_cases (h : (s.sessions.map Session.id).Nodup) (path : Path) :
    (∀ id text, ¬ s.Revivable path id text) ∧ s.reopen path = s.settle ∨
      ∃ language text id c c' r s', s.Revivable path id text ∧
        Language.ofPath? path = some language ∧
        s.settle.Gives path language text c c' (r, s') id ∧
        ((∃ e, r = .error e ∧ s.reopen path = s') ∨ r = .ok () ∧
          s.reopen path = { s' with documents := setOwner path id s'.documents }) := by
  have hroster : s.settle.roster = s.roster := (stays_settle s).roster_eq
  have hnodup := nodup_of_roster h hroster
  unfold reopen Revivable
  dsimp only
  split
  next fault hread =>
    exact .inl ⟨fun id text hr => absurd (hread.symm.trans hr.1) (by simp), rfl⟩
  next text hread =>
    obtain ⟨hnone, heq⟩ | ⟨language, id, c, c', r, s', hlanguage, hfirst, hgives, heq⟩ :=
      openDocument_cases hnodup path text
    · rw [serves?_of_roster hroster] at hnone
      exact .inl ⟨fun id text hr => absurd (hnone.symm.trans hr.2) (by simp), by rw [heq]⟩
    · refine .inr ⟨language, text, id, c, c', r, s', ⟨hread, ?_⟩, hlanguage, hgives, ?_⟩
      · rw [← serves?_of_roster hroster]
        exact serves?_eq_some_iff.2 ⟨language, hlanguage, hfirst⟩
      · obtain ⟨e, hr, heq⟩ | ⟨hr, heq⟩ := heq
        · exact .inl ⟨e, hr, by rw [heq]⟩
        · exact .inr ⟨hr, by rw [heq]⟩

/-- There is one way in which a document can be opened again now. -/
theorem Revivable.unique {id' : SessionId} {text' : String} (h : s.Revivable path id text)
    (h' : s.Revivable path id' text') : id = id' ∧ text = text' :=
  ⟨Option.some.inj (h.2.symm.trans h'.2), Except.ok.inj (h.1.symm.trans h'.1)⟩

/-- A client that is given a text carries on. -/
theorem Gives.carries {language : String} {c c' : Client}
    {r : Except DocumentFault Unit × Supervisor} (h : s.Gives path language text c c' r id) :
    c.Carries c' := by
  cases huri : FileUri.ofPath? path with
  | none => exact (h.refused huri).1 ▸ .refl c
  | some uri => exact h.synced uri huri ▸ c.carries_sync s.site uri language text

/-- Every client carries on when a document is opened again. -/
theorem each_reopen (h : (s.sessions.map Session.id).Nodup) (path : Path) :
    Each Client.Carries s (s.reopen path) := by
  have hsettled := each_settle Client.carries_settle s
  obtain ⟨-, heq⟩ | ⟨language, text, id, c, c', r, s', -, -, hgives, heq⟩ := reopen_cases h path
  · exact heq ▸ hsettled
  · have hgiven : Each Client.Carries s s' :=
      hsettled.trans .trans (hgives.puts.each .refl hgives.carries)
    obtain ⟨e, -, heq⟩ | ⟨-, heq⟩ := heq
    · exact heq ▸ hgiven
    · rw [heq]
      exact hgiven.trans .trans (.of_eq .refl rfl)

/-- Opening a document again brings in no session a second time. -/
theorem nodup_reopen (h : (s.sessions.map Session.id).Nodup) (path : Path) :
    ((s.reopen path).sessions.map Session.id).Nodup :=
  nodup_of_roster h (each_reopen h path).roster_eq

/-- A document that can be opened again is open in its session from then on, and no other is. -/
theorem isOpen_reopen (h : (s.sessions.map Session.id).Nodup) {i : SessionId} {d' : Client}
    (hd' : (s.reopen path).clientOf? i = some d') :
    ∃ d, s.clientOf? i = some d ∧ ∀ u, d'.documents.isOpen u = true ↔
      d.documents.isOpen u = true ∨
        (∃ text, s.Revivable path i text) ∧ FileUri.ofPath? path = some u := by
  have hsettle := stays_settle s
  obtain ⟨hnone, heq⟩ | ⟨language, text, id, c, c', r, s', hrevivable, -, hgives, heq⟩ :=
    reopen_cases h path
  · rw [heq] at hd'
    obtain ⟨d, hd, hstays⟩ := hsettle.exists_before hd'
    refine ⟨d, hd, fun u => (hstays.isOpen_iff u).trans (or_iff_left ?_).symm⟩
    exact fun ⟨⟨text, hr⟩, _⟩ => hnone i text hr
  · have hclient : (s.reopen path).clientOf? i = s'.clientOf? i := by
      obtain ⟨e, -, heq⟩ | ⟨-, heq⟩ := heq <;> exact heq ▸ rfl
    rw [hclient, hgives.puts.clientOf?_eq] at hd'
    split at hd'
    next hi =>
      obtain rfl := Option.some.inj hd'
      obtain ⟨d, hd, hstays⟩ := hsettle.exists_before (hi ▸ hgives.puts.was)
      refine ⟨d, hd, fun u => ?_⟩
      rw [← hstays.isOpen_iff u]
      cases huri : FileUri.ofPath? path with
      | none => rw [(hgives.refused huri).1]; simp
      | some uri =>
        rw [(hgives.taken uri huri).1 u, Option.some.injEq, and_iff_right ⟨text, hi ▸ hrevivable⟩,
          or_comm, @eq_comm _ uri]
    next hi =>
      obtain ⟨d, hd, hstays⟩ := hsettle.exists_before hd'
      refine ⟨d, hd, fun u => (hstays.isOpen_iff u).trans (or_iff_left ?_).symm⟩
      exact fun ⟨⟨text', hr⟩, _⟩ => hi (hr.unique hrevivable).1

/-- Whether a document of some that are opened again can be opened when its turn comes: its
file holds a text then, and a session serves it first. -/
def Revives (s : Supervisor) (paths : List Path) (path : Path) (id : SessionId) (text : String) :
    Prop :=
  ∃ front back, paths = front ++ path :: back ∧ (front.foldl reopen s).Revivable path id text

/-- Where nothing is opened again nothing revives. -/
theorem not_revives_nil : ¬ s.Revives [] p id text := by
  rintro ⟨front, back, heq, -⟩
  exact absurd heq (by simp)

/-- Of some documents the first revives if it can be opened now, and another when the first has
been. -/
theorem revives_cons_iff :
    s.Revives (path :: paths) p id text ↔
      path = p ∧ s.Revivable p id text ∨ (s.reopen path).Revives paths p id text := by
  constructor
  · rintro ⟨front, back, heq, hr⟩
    cases front with
    | nil => exact .inl ⟨(List.cons.inj heq).1, hr⟩
    | cons q front =>
      obtain ⟨rfl, rfl⟩ := List.cons.inj heq
      exact .inr ⟨front, back, rfl, hr⟩
  · rintro (⟨rfl, hr⟩ | ⟨front, back, rfl, hr⟩)
    · exact ⟨[], paths, rfl, hr⟩
    · exact ⟨path :: front, back, rfl, hr⟩

/-- Only documents that are opened again revive. -/
theorem Revives.mem (h : s.Revives paths p id text) : p ∈ paths := by
  obtain ⟨front, back, rfl, -⟩ := h
  exact List.mem_append_right _ (List.mem_cons_self ..)

/-- Every client carries on while some documents are opened again. -/
theorem each_reopenAll (h : (s.sessions.map Session.id).Nodup) (paths : List Path) :
    Each Client.Carries s (paths.foldl reopen s) := by
  induction paths generalizing s with
  | nil => exact .of_eq .refl rfl
  | cons path paths ih => exact (each_reopen h path).trans .trans (ih (nodup_reopen h path))

/-- What is open after documents have been opened again was open or has been opened again. -/
theorem isOpen_reopenAll (h : (s.sessions.map Session.id).Nodup) {i : SessionId} {d' : Client}
    (hd' : (paths.foldl reopen s).clientOf? i = some d') :
    ∃ d, s.clientOf? i = some d ∧ ∀ u, d'.documents.isOpen u = true ↔
      d.documents.isOpen u = true ∨
        ∃ p text, s.Revives paths p i text ∧ FileUri.ofPath? p = some u := by
  induction paths generalizing s with
  | nil => exact ⟨d', hd', fun u => by simp [not_revives_nil]⟩
  | cons path paths ih =>
    obtain ⟨d₁, hd₁, hrest⟩ := ih (nodup_reopen h path) hd'
    obtain ⟨d, hd, hfirst⟩ := isOpen_reopen h hd₁
    refine ⟨d, hd, fun u => ?_⟩
    simp only [hrest u, hfirst u, revives_cons_iff, or_and_right, exists_or, or_assoc]
    refine or_congr_right (or_congr_left ⟨?_, ?_⟩)
    · rintro ⟨⟨text, hr⟩, hu⟩
      exact ⟨path, text, ⟨rfl, hr⟩, hu⟩
    · rintro ⟨_, text, ⟨rfl, hr⟩, hu⟩
      exact ⟨⟨text, hr⟩, hu⟩

/-- Whether none of some documents is open. -/
def Closed (s : Supervisor) (paths : List Path) : Prop :=
  ∀ p ∈ paths, ∀ u, FileUri.ofPath? p = some u → ∀ i d, s.clientOf? i = some d →
    ¬ d.documents.isOpen u = true

/-- Opening one document again opens none of the others. -/
theorem Closed.reopen (hnodup : (s.sessions.map Session.id).Nodup)
    (hdistinct : ∀ p ∈ paths, ¬ path.same p = true) (h : s.Closed paths) :
    (s.reopen path).Closed paths := by
  intro p hp u hu i d' hd' hopen
  obtain ⟨d, hd, hiff⟩ := isOpen_reopen hnodup hd'
  rcases (hiff u).1 hopen with hopen | ⟨-, hpath⟩
  · exact h p hp u hu i d hd hopen
  · exact hdistinct p hp ((FileUri.ofPath?_eq_some_iff hpath).1 hu)

end Supervisor
end Switchboard
