/-
# Documents that take turns

A client takes texts and closings of many documents in any order, and in between it asks,
reads and settles, while its server is at work beside it (`Client.After`).  Every client
that lives is one (`Client.Lives.exists_after`).  Unless a write fails, all that it tells
its server about one document, heard or waiting to be written, comes in rounds made by the
calls for that document (`Client.notices_in_rounds`).
-/

import Switchboard.Proofs.Client.Notices
import Switchboard.Proofs.Supervisor.Reopening

namespace Switchboard

open Exchange Utterance DocumentCall

namespace Client

variable {c : Client} {calls : List DocumentCall}

/-- A client that has not been called on for any document yet: its server has been started,
it may have been greeted, and the answer may have been waited for. -/
inductive Fresh : Client → Prop
  | started {c : Client} (hc : c.Started) : Fresh c
  | greeted {c : Client} (hc : c.Started) (s : Site) (h : Handshake) : Fresh (c.greet s h).2.1
  | completed {c : Client} (hc : c.Started) (s s' : Site) (h : Handshake) {id : Nat}
      (hgreet : (c.greet s h).1 = .ok id) : Fresh ((c.greet s h).2.1.complete s' id).2.1

/-- A client and the calls for documents that it has taken, the first one first, whatever it
and its server have done besides. -/
inductive After : Client → List DocumentCall → Prop
  | fresh {c : Client} (hc : c.Fresh) : After c []
  | synced {c : Client} {calls : List DocumentCall} (h : After c calls) (s : Site)
      (uri language text : String) :
    After (c.sync s uri language text).2.1 (calls ++ [.sync uri language text])
  | closed {c : Client} {calls : List DocumentCall} (h : After c calls) (s : Site)
      (uri : String) : After (c.close s uri).2.1 (calls ++ [.close uri])
  | asked {c : Client} {calls : List DocumentCall} (h : After c calls) (s : Site)
      (uri : String) (only : List String) : After (c.codeActions s uri only).2.1 calls
  | settled {c : Client} {calls : List DocumentCall} (h : After c calls) (s : Site) :
    After (c.settle s).1 calls
  | reads {c : Client} {calls : List DocumentCall} (h : After c calls) (s : Site)
      (frames : Nat) : After (Supervisor.readSome c s frames).1 calls
  | acted {c : Client} {calls : List DocumentCall} (h : After c calls) (r : Reaction) :
    After (Supervisor.acted c r) calls

/-- A client takes calls, one after the other. -/
def takeAll (c : Client) (s : Site) : List DocumentCall → Client × Site
  | [] => (c, s)
  | .sync uri language text :: rest =>
    takeAll (c.sync s uri language text).2.1 (c.sync s uri language text).2.2 rest
  | .close uri :: rest => takeAll (c.close s uri).2.1 (c.close s uri).2.2 rest

/-- Whatever calls there are can be taken. -/
theorem After.takeAll (h : c.After calls) (s : Site) (more : List DocumentCall) :
    (c.takeAll s more).1.After (calls ++ more) := by
  induction more generalizing c s calls with
  | nil => rwa [List.append_nil]
  | cons call more ih =>
    rw [List.append_cons]
    cases call with
    | sync uri language text => exact ih (h.synced s uri language text) _
    | close uri => exact ih (h.closed s uri) _

/-- Every client that lives has taken some calls. -/
theorem Lives.exists_after (h : c.Lives) : ∃ calls, c.After calls := by
  induction h with
  | admitted hc =>
    obtain ⟨hc, s, s', h, hgreet, -⟩ := hc
    exact ⟨[], .fresh (.completed hc s s' h hgreet)⟩
  | deed _ h ih =>
    obtain ⟨calls, hafter⟩ := ih
    cases h with
    | sync c s uri language text => exact ⟨_, hafter.synced s uri language text⟩
    | close c s uri => exact ⟨_, hafter.closed s uri⟩
    | ask c s uri only => exact ⟨_, hafter.asked s uri only⟩
    | settle c s => exact ⟨_, hafter.settled s⟩
    | read c s frames => exact ⟨_, hafter.reads s frames⟩
    | server c s r => exact ⟨_, hafter.acted r⟩

/-! ### Before the first call -/

/-- A fresh client has no document open and has said no more than the greeting. -/
theorem Fresh.talking (h : c.Fresh) :
    c.documents = .empty ∧ ∃ us, us <+: [.greeting 1, .greeted] ∧ c.Talking us := by
  cases h with
  | started hc => exact ⟨hc.documents_eq, [], List.nil_prefix, hc.talking.1⟩
  | @greeted c₀ hc s h =>
    obtain ⟨htalking, hnext⟩ := hc.talking
    obtain ⟨us, hus, hgreeted⟩ := (talking_greet htalking hnext s h).1
    exact ⟨(acts_greet c₀ s h).goes.documents_eq.trans hc.documents_eq, us,
      hus.trans ⟨[.greeted], rfl⟩, hgreeted⟩
  | @completed c₀ hc s s' h id hgreet =>
    obtain ⟨htalking, hnext⟩ := hc.talking
    obtain ⟨us, hus, hcompleted, -⟩ :=
      talking_complete ((talking_greet htalking hnext s h).2 id hgreet) s'
    have hgoes := (acts_greet c₀ s h).goes.trans (acts_complete (c₀.greet s h).2.1 s' id).goes
    exact ⟨hgoes.documents_eq.trans hc.documents_eq, us, hus, hcompleted⟩

/-- The handshake is not about a document. -/
theorem subject?_of_handshake {us : List Utterance} {v : List Json}
    (h : List.Forall₂ Says us v) (hus : us ⊆ [.greeting 1, .greeted]) :
    ∀ m ∈ v, Message.subject? m = none := by
  induction h with
  | nil => exact fun m hm => absurd hm List.not_mem_nil
  | cons hsays _ ih =>
    obtain ⟨hu, hus⟩ := List.cons_subset.1 hus
    refine List.forall_mem_cons.2 ⟨?_, ih hus⟩
    cases hsays with
    | greeting => exact Message.subject?_request ..
    | greeted => simp [Message.subject?, Json.member?_ofMembers]
    | _ => simp at hu

/-! ### What a call makes a client say -/

/-- A relation of the open documents, what has been said and the calls that have been taken
lasts when it holds once the server has been greeted and is kept by all that is said then. -/
structure Lasting (R : Documents → List Json → List DocumentCall → Prop) : Prop where
  handshake : ∀ {us v}, List.Forall₂ Says us v → us ⊆ [.greeting 1, .greeted] → R .empty v []
  sync : ∀ {d v calls}, R d v calls → ∀ uri language text,
    R (d.sync uri language text).2 (v ++ [(d.sync uri language text).1])
      (calls ++ [.sync uri language text])
  close : ∀ {d v calls uri}, R d v calls → d.isOpen uri = true →
    R (d.close uri).2 (v ++ [closing uri]) (calls ++ [.close uri])
  pass : ∀ {d v calls uri}, R d v calls → ¬ d.isOpen uri = true → R d v (calls ++ [.close uri])
  ask : ∀ {d v calls uri doc}, R d v calls → d.find? uri = some doc → ∀ id only,
    R d (v ++ [Message.request id "textDocument/codeAction"
      (some (Message.codeAction uri doc.lines only))]) calls

/-- A client means to say what is in a relation to its documents and the calls. -/
def Upholds (R : Documents → List Json → List DocumentCall → Prop) (c : Client)
    (calls : List DocumentCall) : Prop :=
  ∃ v, Held c v ∧ R c.documents v calls

section Upholds

variable {R : Documents → List Json → List DocumentCall → Prop}

/-- What lasts is upheld when a document is brought up to date. -/
theorem upholds_sync (hR : Lasting R) (h : c.Upholds R calls) (s : Site)
    (uri language text : String) :
    (c.sync s uri language text).2.1.Upholds R (calls ++ [.sync uri language text]) := by
  obtain ⟨v, hheld, hrelated⟩ := h
  have hgoes := (acts_send { c with documents := (c.documents.sync uri language text).2 } s
    (c.documents.sync uri language text).1).goes
  have hdocuments : (c.sync s uri language text).2.1.documents =
      (c.documents.sync uri language text).2 := hgoes.documents_eq
  refine ⟨_, held_sync s uri language text hheld, ?_⟩
  rw [hdocuments]
  exact hR.sync hrelated uri language text

/-- What lasts is upheld when a document is closed. -/
theorem upholds_close (hR : Lasting R) (h : c.Upholds R calls) (s : Site) (uri : String) :
    (c.close s uri).2.1.Upholds R (calls ++ [.close uri]) := by
  obtain ⟨v, hheld, hrelated⟩ := h
  by_cases hopen : c.documents.isOpen uri = true
  · rw [close_of_isOpen s hopen]
    have h₀ : Held { c with documents := (c.documents.close uri).2 } v := hheld.congr rfl rfl rfl
    have hnamed : Message.isNamed (closing uri) = true := (due_document [] (.closed uri) rfl).1
    have hsent := held_send h₀ s (closing uri)
    rw [words_named hnamed] at hsent
    have hgoes := (acts_send { c with documents := (c.documents.close uri).2 } s (closing uri)).goes
    exact ⟨_, hsent, hgoes.documents_eq ▸ hR.close hrelated hopen⟩
  · rw [close_of_not_isOpen s hopen]
    exact ⟨v, hheld, hR.pass hrelated hopen⟩

/-- What happens between a client and its server changes nothing. -/
theorem Upholds.moves {s : Site} {p : Client × Site} (h : c.Upholds R calls)
    (hmoves : Moves (c, s) p) : p.1.Upholds R calls := by
  obtain ⟨v, hv, hrelated⟩ := h
  exact ⟨v, hmoves.held hv, hmoves.goes.documents_eq ▸ hrelated⟩

/-- What lasts is upheld when code actions are asked for. -/
theorem upholds_codeActions (hR : Lasting R) (h : c.Upholds R calls) (s : Site) (uri : String)
    (only : List String) : (c.codeActions s uri only).2.1.Upholds R calls := by
  obtain ⟨v, hheld, hrelated⟩ := h
  unfold codeActions
  split
  · exact ⟨v, hheld, hrelated⟩
  next doc hfind =>
    have hrequest := held_request hheld s "textDocument/codeAction"
      (some (Message.codeAction uri doc.lines only)) c.patience
    dsimp only
    generalize c.request s "textDocument/codeAction"
      (some (Message.codeAction uri doc.lines only)) c.patience = p at hrequest ⊢
    have hdone : p.2.1.Upholds R calls := by
      rcases hrequest with ⟨fault, rfl⟩ | hrequested
      · exact ⟨v, hheld, hrelated⟩
      · exact ⟨_, hrequested.held, hrequested.documents_eq ▸ hR.ask hrelated hfind _ only⟩
    split
    · exact hdone
    · exact hdone

/-- **What lasts holds of every client**, whatever it has done. -/
theorem After.upholds (hR : Lasting R) (h : c.After calls) : c.Upholds R calls := by
  induction h with
  | fresh hc =>
    obtain ⟨hempty, us, hus, htalking⟩ := hc.talking
    obtain ⟨v, hheld, hspoken⟩ := htalking.held
    exact ⟨v, hheld, hempty ▸ hR.handshake hspoken hus.subset⟩
  | synced _ s uri language text ih => exact upholds_sync hR ih s uri language text
  | closed _ s uri ih => exact upholds_close hR ih s uri
  | asked _ s uri only ih => exact upholds_codeActions hR ih s uri only
  | settled _ s ih => exact ih.moves (moves_settle _ s)
  | reads _ s frames ih => exact ih.moves (Supervisor.moves_readSome _ s frames)
  | acted _ r ih =>
    obtain ⟨v, hv, hrelated⟩ := ih
    exact ⟨v, hv.congr rfl rfl rfl, hrelated⟩

end Upholds

/-- That documents keep to the calls lasts. -/
theorem lasting_keeps : Lasting Documents.Keeps := by
  constructor
  · intro us v hspoken hus
    exact Documents.keeps_empty (subject?_of_handshake hspoken hus)
  · intro d v calls hkeeps uri language text
    exact hkeeps.sync uri language text
  · intro d v calls uri hkeeps hopen
    exact hkeeps.close hopen
  · intro d v calls uri hkeeps hclosed
    exact hkeeps.pass hclosed
  · intro d v calls uri doc hkeeps hfind id only
    exact hkeeps.say (Message.subject?_request ..)

/-- **What a server is told of a document comes in rounds**, whatever its client is asked to do
with other documents in between, and with this one, as long as no write fails.  Each round opens
the document with version one and changes it with the versions that follow without a gap; all
but the one that is going on end with its being closed, and each has some text.  The texts are
those of the calls, all of them and in their order.  The document is open when the last
notification about it is not the one that closes it, and closing it when it is not open says
nothing. -/
theorem notices_in_rounds (h : c.After calls) (hw : c.writing = true) (uri : String) :
    Message.notices uri (c.process.heard ++ c.outbox) = (rounds uri calls).notices uri ∧
      [] ∉ (rounds uri calls).ended ∧
      (Message.notices uri (c.process.heard ++ c.outbox)).filterMap Message.text? =
        texts uri calls ∧
      (c.documents.isOpen uri = true ↔
        ∃ m, (Message.notices uri (c.process.heard ++ c.outbox)).getLast? = some m ∧
          m.member? "method" ≠ some (.str "textDocument/didClose")) ∧
      (¬ c.documents.isOpen uri = true → ∀ s, c.close s uri = (.ok (), c, s)) := by
  obtain ⟨v, hheld, hkeeps⟩ := h.upholds lasting_keeps
  obtain ⟨hended, htexts⟩ := rounds_spec uri calls
  have hnotices : Message.notices uri (c.process.heard ++ c.outbox) =
      (rounds uri calls).notices uri := by
    rw [← Message.notices_words, hheld.meant hw, hkeeps.notices_eq]
  refine ⟨hnotices, hended, ?_, ?_, fun hclosed s => close_of_not_isOpen s hclosed⟩
  · rw [hnotices, Rounds.filterMap_text?_notices, htexts]
  · rw [hnotices, hkeeps.isOpen_iff]
    exact Rounds.current_ne_nil_iff uri _

/-- Two documents take turns. -/
def turns : List DocumentCall :=
  [.sync "file:///a.ts" "typescript" "1", .sync "file:///b.ts" "typescript" "2",
    .close "file:///c.ts", .sync "file:///a.ts" "typescript" "3", .close "file:///b.ts",
    .sync "file:///a.ts" "typescript" "4", .close "file:///a.ts", .close "file:///a.ts",
    .sync "file:///b.ts" "typescript" "5", .sync "file:///a.ts" "typescript" "6"]

/-- A server that has welcomed its client is told of one of them in two rounds. -/
theorem notices_of_turns :
    ∃ c : Client, c.After turns ∧ c.writing = true ∧
      Message.notices "file:///a.ts" (c.process.heard ++ c.outbox) =
        [revision "file:///a.ts" 0 ⟨"typescript", "1"⟩,
          revision "file:///a.ts" 1 ⟨"typescript", "3"⟩,
          revision "file:///a.ts" 2 ⟨"typescript", "4"⟩, closing "file:///a.ts",
          revision "file:///a.ts" 0 ⟨"typescript", "6"⟩] := by
  let site : Site := .ofDisk (Supervisor.diskWith Supervisor.plainServer [])
  let c₀ : Client := ofProcess (.ofProjects 1 []) ⟨"", none⟩
    (.start Path.root Supervisor.plainServer) 1000 1000
  have hstarted : c₀.Started := ⟨_, _, _, _, _, _, _, rfl⟩
  have hgreet : (c₀.greet site .blank).1 = .ok 1 := rfl
  have hafter := (After.fresh (.completed hstarted site site .blank hgreet)).takeAll site turns
  have hw : (((c₀.greet site .blank).2.1.complete site 1).2.1.takeAll site turns).1.writing =
      true := by decide +kernel
  exact ⟨_, hafter, hw, (notices_in_rounds hafter hw "file:///a.ts").1⟩

end Client
end Switchboard
