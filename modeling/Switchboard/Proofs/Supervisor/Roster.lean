/-
# The roster of sessions

Which session serves a file first depends on no more than the roster: the
identities of the sessions in order, each with the selector that it has while it
runs.  Only starts, stops and the end of a server change the roster; what is
done with one document puts back one session with another client
(`Supervisor.Puts`), and most of what happens leaves every client with the
documents that it has open (`Supervisor.Stays`).
-/

import Switchboard.Proofs.Client.Documents
import Switchboard.Proofs.Supervisor.Clients

namespace Switchboard

/-! ### One client -/

namespace Client

/-- A client that has just been started knows no document. -/
theorem Started.documents_eq {c : Client} (h : c.Started) : c.documents = .empty := by
  obtain ⟨_, _, _, _, _, _, _, rfl⟩ := h
  rfl

/-- A client that has just been welcomed has nothing open. -/
theorem Admitted.isOpen_eq {c : Client} (h : c.Admitted) (u : String) :
    c.documents.isOpen u = false := by
  cases h with
  | @welcomed c₀ hc s s' h id hgreet hcomplete =>
    have hgreeted := (acts_greet c₀ s h).goes
    have hcompleted := hgreeted.trans (acts_complete (c₀.greet s h).2.1 s' id).goes
    rw [hcompleted.documents_eq, hc.documents_eq]
    exact Documents.isOpen_empty u

end Client

/-! ### One session -/

namespace Session

variable {x : Session} {c : Client}

/-- The identity of a session, and its selector while it runs. -/
def face (x : Session) : SessionId × Option Selector := (x.id, x.connection.map Connection.selector)

/-- Whether a session serves a document is a matter of its face. -/
theorem isMatch_eq (x : Session) (language : String) (path : Path) :
    x.isMatch language path = x.face.2.any fun selector => selector.isMatch language path := by
  unfold isMatch face
  cases x.connection <;> rfl

/-- A session with its own client put in is the session. -/
theorem withClient_self (h : x.client? = some c) : x.withClient c = x := by
  obtain ⟨connection, hconnection, rfl⟩ := exists_of_client? h
  unfold withClient
  rw [hconnection, Option.map_some, ← hconnection]

/-- The client that is put into a session with a client is found in it. -/
theorem client?_withClient (h : x.client? = some c) (c' : Client) :
    (x.withClient c').client? = some c' := by
  obtain ⟨connection, hconnection, -⟩ := exists_of_client? h
  simp [withClient, client?, hconnection]

/-- Another client leaves a session its face. -/
theorem face_withClient (c' : Client) : (x.withClient c').face = x.face := by
  unfold withClient face
  cases x.connection <;> rfl

/-- Asking for code actions leaves a session with the documents that it has open. -/
theorem codeActions_stays (h : x.client? = some c) (s : Site) (path : Path) (only : List String) :
    ∃ c', c.Stays c' ∧ (x.codeActions s path only).2.1 = x.withClient c' := by
  unfold codeActions
  split
  · exact ⟨c, .refl c, (withClient_self h).symm⟩
  · rw [h]
    exact ⟨_, (c.acts_codeActions s _ only).goes.stays, rfl⟩

/-- When a session settles, its client does. -/
theorem settle_rel {R : Client → Client → Prop} (hR : ∀ c s, R c (Client.settle c s).1)
    (x : Session) (s : Site) :
    (x.settle s).1.face = x.face ∧ Option.Rel R x.client? (x.settle s).1.client? := by
  unfold settle
  cases hc : x.client? with
  | none => exact ⟨rfl, by rw [hc]; exact .none⟩
  | some c =>
    refine ⟨face_withClient _, ?_⟩
    dsimp only
    rw [client?_withClient hc]
    exact .some (hR c s)

end Session

/-! ### The roster -/

namespace Supervisor

variable {s s' s'' : Supervisor} {id : SessionId} {c c' : Client}

/-- The identities of the sessions in order, each with its selector while it runs. -/
def roster (s : Supervisor) : List (SessionId × Option Selector) := s.sessions.map Session.face

/-- The roster names the sessions in their order. -/
theorem map_fst_roster (s : Supervisor) : s.roster.map Prod.fst = s.sessions.map Session.id := by
  rw [roster, List.map_map]
  rfl

/-- The identity of the first session that serves a file. -/
def first? (s : Supervisor) (language : String) (path : Path) : Option SessionId :=
  (s.serving? language path).map Session.id

/-- Whether someone on the roster serves a file. -/
def offers (language : String) (path : Path) (entry : SessionId × Option Selector) : Bool :=
  entry.2.any fun selector => selector.isMatch language path

/-- The first one on a roster who serves a file. -/
def firstOf (roster : List (SessionId × Option Selector)) (language : String) (path : Path) :
    Option SessionId := (roster.find? (offers language path)).map Prod.fst

/-- The first session for a document is the first one for it on the roster. -/
theorem first?_eq (s : Supervisor) (language : String) (path : Path) :
    s.first? language path = firstOf s.roster language path := by
  unfold first? firstOf serving? roster
  rw [List.find?_map, Option.map_map]
  simp only [Session.isMatch_eq]
  rfl

/-- The client of a session, if the session is there and runs. -/
def clientOf? (s : Supervisor) (id : SessionId) : Option Client :=
  (s.session? id).bind Session.client?

/-- A session is found by its identity if no other one has that. -/
theorem session?_of_mem (h : (s.sessions.map Session.id).Nodup) {x : Session}
    (hx : x ∈ s.sessions) : s.session? x.id = some x := by
  obtain ⟨y, hy⟩ := Option.isSome_iff_exists.1
    (List.find?_isSome (p := fun y : Session => y.id == x.id).2 ⟨x, hx, by simp⟩)
  obtain ⟨hmem, hid⟩ := of_session? (s := s) hy
  obtain rfl := List.inj_on_of_nodup_map h hmem hx hid
  exact hy

/-- A client that is found belongs to a session that is there. -/
theorem exists_of_clientOf? (h : s.clientOf? id = some c) :
    ∃ x ∈ s.sessions, x.id = id ∧ s.session? id = some x ∧ x.client? = some c := by
  obtain ⟨x, hx, hc⟩ := Option.bind_eq_some_iff.1 h
  exact ⟨x, (of_session? hx).1, (of_session? hx).2, hx, hc⟩

/-- The client of a session is found by the identity of the session. -/
theorem clientOf?_of_mem (h : (s.sessions.map Session.id).Nodup) {x : Session}
    (hx : x ∈ s.sessions) (hc : x.client? = some c) : s.clientOf? x.id = some c := by
  rw [clientOf?, session?_of_mem h hx]
  exact hc

/-- Putting a session in replaces the one with its identity, and no other. -/
theorem session?_putSession (s : Supervisor) (y : Session) (id : SessionId) :
    (s.putSession y).session? id =
      (s.session? id).map fun x => if x.id == y.id then y else x := by
  have hid : ∀ x : Session, (if x.id == y.id then y else x).id = x.id := by
    intro x
    split
    next heq => exact (beq_iff_eq.1 heq).symm
    · rfl
  unfold session? putSession
  rw [List.find?_map]
  simp only [Function.comp_def, hid]

/-! ### Putting back one session -/

/-- A supervisor that has put back one session with another client. -/
structure Puts (s s' : Supervisor) (id : SessionId) (c c' : Client) : Prop where
  was : s.clientOf? id = some c
  roster_eq : s'.roster = s.roster
  documents_eq : s'.documents = s.documents
  clientOf?_eq : ∀ i, s'.clientOf? i = if i = id then some c' else s.clientOf? i

/-- Another client in a session changes what is found of that session alone. -/
theorem puts_putSession (h : (s.sessions.map Session.id).Nodup) {x : Session}
    (hx : s.session? id = some x) (hc : x.client? = some c) (site : Site) (c' : Client) :
    Puts s ({ s with site }.putSession (x.withClient c')) id c c' := by
  obtain ⟨hmem, rfl⟩ := of_session? hx
  refine ⟨by rw [clientOf?, hx]; exact hc, ?_, rfl, fun i => ?_⟩
  · change (s.sessions.map fun z => if z.id == x.id then x.withClient c' else z).map Session.face =
      s.sessions.map Session.face
    rw [List.map_map]
    refine List.map_congr_left fun z hz => ?_
    rw [Function.comp_apply]
    split
    next heq =>
      obtain rfl := List.inj_on_of_nodup_map h hz hmem (beq_iff_eq.1 heq)
      exact Session.face_withClient c'
    · rfl
  · have hput := session?_putSession { s with site } (x.withClient c') i
    rw [clientOf?, hput]
    change (Option.map _ (s.session? i)).bind _ = _
    split
    next heq =>
      rw [heq, hx, Option.map_some, Option.bind_some, if_pos (by simp [Session.withClient])]
      exact Session.client?_withClient hc c'
    next hne =>
      rw [clientOf?]
      cases hz : s.session? i with
      | none => rfl
      | some z =>
        obtain ⟨-, hzid⟩ := of_session? hz
        rw [Option.map_some, Option.bind_some, Option.bind_some, if_neg]
        simpa [Session.withClient, hzid] using hne

/-! ### What becomes of every client -/

/-- What leaves the roster as it is, and makes of each client one that is in a relation to it. -/
structure Each (R : Client → Client → Prop) (s s' : Supervisor) : Prop where
  roster_eq : s'.roster = s.roster
  clients : ∀ id, Option.Rel R (s.clientOf? id) (s'.clientOf? id)

section Each

variable {R : Client → Client → Prop}

/-- Where the sessions are the same, so is each client. -/
theorem Each.of_eq (hR : ∀ c, R c c) (hsessions : s'.sessions = s.sessions) : Each R s s' := by
  refine ⟨by rw [roster, roster, hsessions], fun id => ?_⟩
  rw [clientOf?, clientOf?, session?, session?, hsessions]
  cases (s.sessions.find? fun x => x.id == id).bind Session.client? with
  | none => exact .none
  | some c => exact .some (hR c)

theorem Each.trans (hR : ∀ {c₁ c₂ c₃}, R c₁ c₂ → R c₂ c₃ → R c₁ c₃) (h₁ : Each R s s')
    (h₂ : Each R s' s'') : Each R s s'' := by
  refine ⟨h₂.roster_eq.trans h₁.roster_eq, fun id => ?_⟩
  have hfirst := h₁.clients id
  have hsecond := h₂.clients id
  revert hfirst hsecond
  generalize s.clientOf? id = a
  generalize s'.clientOf? id = b
  generalize s''.clientOf? id = d
  rintro (hc | _) (hc' | _)
  · exact .some (hR hc hc')
  · exact .none

/-- A client that is there before is there afterwards. -/
theorem Each.exists_after (h : Each R s s') (hc : s.clientOf? id = some c) :
    ∃ c', s'.clientOf? id = some c' ∧ R c c' := by
  have hclient := h.clients id
  rw [hc] at hclient
  generalize s'.clientOf? id = b at hclient
  cases hclient with
  | some hcc' => exact ⟨_, rfl, hcc'⟩

/-- A client that is there afterwards has been there before. -/
theorem Each.exists_before (h : Each R s s') (hc' : s'.clientOf? id = some c') :
    ∃ c, s.clientOf? id = some c ∧ R c c' := by
  have hclient := h.clients id
  rw [hc'] at hclient
  generalize s.clientOf? id = a at hclient
  cases hclient with
  | some hcc' => exact ⟨_, rfl, hcc'⟩

/-- Where one client is replaced by what it may come to, each client comes to what it may. -/
theorem Puts.each (hR : ∀ c, R c c) (h : Puts s s' id c c') (hc : R c c') : Each R s s' := by
  refine ⟨h.roster_eq, fun i => ?_⟩
  rw [h.clientOf?_eq]
  split
  next heq =>
    rw [heq, h.was]
    exact .some hc
  · exact (Each.of_eq hR rfl).clients i

/-- Sessions that settle keep their faces, and of each the client comes to what a client does that
settles. -/
theorem settleSessions_rel (hR : ∀ c site, R c (Client.settle c site).1) (xs : List Session)
    (site : Site) :
    (settleSessions xs site).1.map Session.face = xs.map Session.face ∧
      ∀ id, Option.Rel R ((xs.find? fun x => x.id == id).bind Session.client?)
        (((settleSessions xs site).1.find? fun x => x.id == id).bind Session.client?) := by
  induction xs generalizing site with
  | nil => exact ⟨rfl, fun id => .none⟩
  | cons x xs ih =>
    obtain ⟨hface, hclient⟩ := x.settle_rel hR site
    obtain ⟨hfaces, hclients⟩ := ih (x.settle site).2
    have hid : (x.settle site).1.id = x.id := congrArg Prod.fst hface
    refine ⟨congrArg₂ List.cons hface hfaces, fun id => ?_⟩
    simp only [settleSessions, List.find?_cons, hid]
    split
    · exact hclient
    · exact hclients id

/-- Each client comes to what a client does that settles. -/
theorem each_settle (hR : ∀ c site, R c (Client.settle c site).1) (s : Supervisor) :
    Each R s s.settle :=
  ⟨(settleSessions_rel hR s.sessions s.site).1, (settleSessions_rel hR s.sessions s.site).2⟩

end Each

/-! ### What leaves documents alone -/

/-- What leaves the roster, the table of documents and what clients have open as they are. -/
structure Stays (s s' : Supervisor) : Prop extends Each Client.Stays s s' where
  documents_eq : s'.documents = s.documents

/-- Where sessions and documents are the same, what is known of documents stays. -/
theorem Stays.of_eq (hsessions : s'.sessions = s.sessions)
    (hdocuments : s'.documents = s.documents) : Stays s s' :=
  ⟨.of_eq Client.Stays.refl hsessions, hdocuments⟩

/-- What changes neither sessions nor documents changes nothing about those that are known. -/
theorem Same.stays (h : Same s s') : Stays s s' := .of_eq h.sessions_eq h.documents_eq

theorem Stays.refl (s : Supervisor) : Stays s s := .of_eq rfl rfl

theorem Stays.trans (h₁ : Stays s s') (h₂ : Stays s' s'') : Stays s s'' :=
  ⟨h₁.toEach.trans Client.Stays.trans h₂.toEach, h₂.documents_eq.trans h₁.documents_eq⟩

/-- What one client comes to that keeps its documents changes none of the others. -/
theorem Puts.stays (h : Puts s s' id c c') (hc : c.Stays c') : Stays s s' :=
  ⟨h.each Client.Stays.refl hc, h.documents_eq⟩

/-- Settling changes nothing about the documents that are known. -/
theorem stays_settle (s : Supervisor) : Stays s s.settle :=
  ⟨each_settle (fun c site => (c.moves_settle site).goes.stays) s, rfl⟩

/-- A client that reads some frames makes moves of its own. -/
theorem moves_readSome (c : Client) (site : Site) (frames : Nat) :
    Client.Moves (c, site) (readSome c site frames) := by
  unfold readSome
  cases hc : c.ended with
  | some reason => exact .refl
  | none => exact Client.moves_readWithin frames site hc

/-- Whatever a server does on its own, its client goes on with its documents. -/
theorem goes_acted (c : Client) (r : Reaction) : c.Goes (acted c r) := ⟨rfl, le_rfl, id⟩

/-- What is done with a client that keeps its documents keeps them everywhere. -/
theorem stays_withClientOf (h : (s.sessions.map Session.id).Nodup) (id : SessionId)
    {f : Client → Site → Client × Site} (hf : ∀ (c : Client) site, c.Stays (f c site).1) :
    Stays s (s.withClientOf id f) := by
  unfold withClientOf
  split
  · exact .refl s
  next x hx =>
    split
    · exact .refl s
    next c hc => exact (puts_putSession h hx hc _ _).stays (hf c s.site)

/-- Frames that are read change nothing about the documents that are known. -/
theorem stays_read (h : (s.sessions.map Session.id).Nodup) (id : SessionId) (frames : Nat) :
    Stays s (s.after (.read id frames)) :=
  stays_withClientOf h id fun c site => (moves_readSome c site frames).goes.stays

/-- What a server does on its own changes nothing about the documents that are known. -/
theorem stays_act (h : (s.sessions.map Session.id).Nodup) (id : SessionId) (reaction : Reaction) :
    Stays s (s.after (.act id reaction)) :=
  stays_withClientOf h id fun c _ => (goes_acted c reaction).stays

/-- Sessions that read on keep their documents. -/
theorem stays_readOn (s : Supervisor) : Stays s s.readOn := by
  unfold readOn
  split
  · exact .refl s
  · exact stays_settle s

/-- Taking the next report changes nothing about the documents that are known. -/
theorem stays_nextReport? {e : ServerEvent} (h : s.nextReport? = some (e, s')) : Stays s s' := by
  obtain ⟨rest, -, rfl⟩ := nextReport?_eq_some h
  have htaken : Stays s { s with site := { s.site with events := rest } } := .of_eq rfl rfl
  exact htaken.trans (stays_readOn _)

end Supervisor
end Switchboard
