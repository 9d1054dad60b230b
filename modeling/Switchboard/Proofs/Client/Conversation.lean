/-
# The order of a conversation

What a client says to its server, its answers left out, follows a script: it
greets the server, speaks of documents and at last asks it to shut down and to
exit (`Orderly`).  Whatever a client does keeps to the script (`Client.Talking`),
and nothing is said before it is due (`recorded_complete`, `recorded_leave`).  So
what passes between the two is proper at any time (`Talking.proper`).
-/

import Switchboard.Proofs.Client.Documents
import Switchboard.Proofs.Client.Exchange

namespace Switchboard

/-! ### The script -/

/-- What a client says to its server. -/
inductive Utterance where
  | greeting (id : Nat)
  | greeted
  | opened (uri : String)
  | changed (uri : String)
  | closed (uri : String)
  | asked (id : Nat) (uri : String)
  | shutdown (id : Nat)
  | exit
  deriving DecidableEq, Repr

namespace Utterance

/-- The messages that say something. -/
inductive Says : Utterance → Json → Prop
  | greeting (id : Nat) (params : Json) :
    Says (.greeting id) (Message.request id "initialize" (some params))
  | greeted : Says .greeted (Message.notification "initialized" (some (Json.ofMembers [])))
  | opened (uri language : String) (version : Int) (text : String) :
    Says (.opened uri) (Message.notification "textDocument/didOpen"
      (some (Message.didOpen uri language version text)))
  | changed (uri : String) (version : Int) (text : String) :
    Says (.changed uri) (Message.notification "textDocument/didChange"
      (some (Message.didChange uri version text)))
  | closed (uri : String) :
    Says (.closed uri) (Message.notification "textDocument/didClose" (some (Message.didClose uri)))
  | asked (id : Nat) (uri : String) (endLine : Nat) (only : List String) :
    Says (.asked id uri) (Message.request id "textDocument/codeAction"
      (some (Message.codeAction uri endLine only)))
  | shutdown (id : Nat) : Says (.shutdown id) (Message.request id "shutdown" none)
  | exit : Says .exit (Message.notification "exit" none)

/-- The id of a request. -/
def id? : Utterance → Option Nat
  | .greeting id | .asked id _ | .shutdown id => some id
  | _ => none

/-- The document that has to be open for something to be said. -/
def needed? : Utterance → Option String
  | .changed uri | .closed uri | .asked _ uri => some uri
  | _ => none

/-- Whether something is said about a document. -/
def isOnDocument : Utterance → Bool
  | .opened _ | .changed _ | .closed _ | .asked _ _ => true
  | _ => false

/-- A document is open when it has been opened and not been closed since. -/
def IsOpen (us : List Utterance) (uri : String) : Prop :=
  ∃ front back, us = front ++ .opened uri :: back ∧ .closed uri ∉ back

/-- What may follow on what has been said: requests are numbered, a document is
opened when it is not open, and what needs an open document is said when it is. -/
structure Follows (us : List Utterance) (u : Utterance) : Prop where
  id_gt : ∀ id, u.id? = some id → ∀ i ∈ us.filterMap id?, i < id
  needs : ∀ uri, u.needed? = some uri → IsOpen us uri
  once : ∀ uri, u = .opened uri → ¬ IsOpen us uri

/-- What is said is a first part of the script, and each part of it follows on
what has been said before. -/
structure Orderly (us : List Utterance) : Prop where
  scripted : ∃ middle id, (∀ u ∈ middle, u.isOnDocument = true) ∧
    us <+: [.greeting 1, .greeted] ++ middle ++ [.shutdown id, .exit]
  follows : ∀ front u, front ++ [u] <+: us → Follows front u

variable {us : List Utterance} {u : Utterance} {uri : String}

/-- After one more thing is said a document is open if that opened it, or if it was open and that
did not close it. -/
theorem isOpen_concat :
    IsOpen (us ++ [u]) uri ↔ u = .opened uri ∨ IsOpen us uri ∧ u ≠ .closed uri := by
  constructor
  · rintro ⟨front, back, hsplit, hback⟩
    rcases History.split_concat hsplit with ⟨-, rfl, -⟩ | ⟨rest, rfl, rfl⟩
    · exact .inl rfl
    · rw [List.mem_append, List.mem_singleton, not_or] at hback
      exact .inr ⟨⟨front, rest, rfl, hback.1⟩, fun h => hback.2 h.symm⟩
  · rintro (rfl | ⟨⟨front, back, rfl, hback⟩, hu⟩)
    · exact ⟨us, [], rfl, List.not_mem_nil⟩
    · refine ⟨front, back ++ [u], by simp, fun h => ?_⟩
      rcases List.mem_append.1 h with h | h
      · exact hback h
      · exact hu (List.mem_singleton.1 h).symm

/-- The first part of what is orderly is orderly. -/
theorem Orderly.of_prefix {us' : List Utterance} (h : Orderly us) (hle : us' <+: us) :
    Orderly us' := by
  obtain ⟨middle, id, hmiddle, hscript⟩ := h.scripted
  exact ⟨⟨middle, id, hmiddle, hle.trans hscript⟩,
    fun front u hu => h.follows front u (hu.trans hle)⟩

/-- What has been said up to the documents. -/
def Welcomed (us : List Utterance) : Prop :=
  ∃ middle, us = [.greeting 1, .greeted] ++ middle ∧ ∀ u ∈ middle, u.isOnDocument = true

/-- Who has been welcomed may talk about documents. -/
theorem Welcomed.concat (h : Welcomed us) (hu : u.isOnDocument = true) : Welcomed (us ++ [u]) := by
  obtain ⟨middle, rfl, hmiddle⟩ := h
  refine ⟨middle ++ [u], List.append_assoc .., fun w hw => ?_⟩
  rcases List.mem_append.1 hw with hw | hw
  · exact hmiddle w hw
  · exact List.mem_singleton.1 hw ▸ hu

/-- Once the server has welcomed its client it may be spoken to about documents,
and asked to shut down and to exit. -/
theorem Welcomed.orderly {us' : List Utterance} (id : Nat) (h : Welcomed us)
    (hle : us' <+: us ++ [.shutdown id, .exit])
    (hfollows : ∀ front u, front ++ [u] <+: us' → Follows front u) : Orderly us' := by
  obtain ⟨middle, rfl, hmiddle⟩ := h
  exact ⟨⟨middle, id, hmiddle, hle⟩, hfollows⟩

end Utterance

open Utterance Exchange

/-- What passes between a client and its server is proper when what the server hears, answers
left out, is orderly, and each message was due when it was heard. -/
structure Exchange.Proper (t : List Note) : Prop where
  spoken : ∃ us, List.Forall₂ Says us (words (messages t)) ∧ Orderly us
  grounded : Grounded t

namespace Client

variable {c : Client} {s : Site} {us : List Utterance} {v : List Json}

/-- A client that means to say `us`, numbers its requests and knows which
documents are open. -/
structure Talking (c : Client) (us : List Utterance) : Prop where
  held : ∃ v, Held c v ∧ List.Forall₂ Says us v
  orderly : Orderly us
  id_lt : ∀ id ∈ us.filterMap id?, id < c.nextId
  isOpen_iff : ∀ uri, c.documents.isOpen uri = true ↔ IsOpen us uri

/-- What a client says next, it means, in order. -/
theorem Talking.concat {c' : Client} {u : Utterance} {m : Json} (h : c.Talking us)
    (hspoken : List.Forall₂ Says us v) (hheld : Held c' (v ++ [m])) (hmeans : Says u m)
    (horderly : Orderly (us ++ [u])) (hid : ∀ id, u.id? = some id → id < c'.nextId)
    (hnext : c.nextId ≤ c'.nextId)
    (hopen : ∀ uri, c'.documents.isOpen uri = true ↔
      u = .opened uri ∨ c.documents.isOpen uri = true ∧ u ≠ .closed uri) :
    c'.Talking (us ++ [u]) := by
  refine ⟨⟨v ++ [m], hheld, List.rel_append hspoken (.cons hmeans .nil)⟩, horderly,
    fun id hmem => ?_, fun uri => ?_⟩
  · rw [List.filterMap_append, List.mem_append] at hmem
    rcases hmem with hmem | hmem
    · exact lt_of_lt_of_le (h.id_lt id hmem) hnext
    · obtain ⟨w, hw, hwid⟩ := List.mem_filterMap.1 hmem
      exact hid id (List.mem_singleton.1 hw ▸ hwid)
  · rw [hopen, isOpen_concat, h.isOpen_iff]

/-- A request is meant, and its id is used up. -/
theorem Talking.requested {c' : Client} {u : Utterance} {method : String} {params : Option Json}
    (h : c.Talking us) (hspoken : List.Forall₂ Says us v)
    (hrequested : Requested c v method params c')
    (hmeans : Says u (Message.request c.nextId method params)) (hid : u.id? = some c.nextId)
    (horderly : Orderly (us ++ [u])) : c'.Talking (us ++ [u]) := by
  refine h.concat hspoken hrequested.held hmeans horderly (fun id hu => ?_) ?_
    fun uri => ?_
  · exact Option.some.inj (hid.symm.trans hu) ▸ hrequested.nextId_lt
  · exact hrequested.nextId_lt.le
  · rw [hrequested.documents_eq]
    cases u with
    | opened | closed => exact absurd hid (by simp [id?])
    | _ => simp

/-- What is neither said nor about documents or requests changes nothing. -/
theorem Talking.still {c' : Client} (h : c.Talking us) (hspoken : List.Forall₂ Says us v)
    (hheld : Held c' v) (hgoes : Goes c c') : c'.Talking us :=
  ⟨⟨v, hheld, hspoken⟩, h.orderly, fun id hid => (h.id_lt id hid).trans_le hgoes.nextId_le,
    hgoes.documents_eq ▸ h.isOpen_iff⟩

/-! ### Documents -/

/-- A client that its server has welcomed and that has not left. -/
def Underway (c : Client) : Prop := ∃ us, Welcomed us ∧ c.Talking us

/-- A text that is taken in opens its document, or changes one that is open. -/
theorem sync_says (d : Documents) (uri language text : String) :
    d.isOpen uri = true ∧ Says (.changed uri) (d.sync uri language text).1 ∨
      ¬ d.isOpen uri = true ∧ Says (.opened uri) (d.sync uri language text).1 := by
  unfold Documents.sync Documents.isOpen
  split
  next doc hfind => exact .inl ⟨by rw [hfind]; rfl, .changed ..⟩
  next hfind => exact .inr ⟨by rw [hfind]; simp, .opened ..⟩

/-- What is said about a document waits for nothing. -/
theorem due_document {u : Utterance} {m : Json} (t : List Note) (h : Says u m)
    (hdocument : u.isOnDocument = true) : Message.isNamed m = true ∧ Due t m := by
  cases h with
  | opened => exact ⟨by simp, due_word t (Message.method_notification ..) (by decide)⟩
  | changed => exact ⟨by simp, due_word t (Message.method_notification ..) (by decide)⟩
  | closed => exact ⟨by simp, due_word t (Message.method_notification ..) (by decide)⟩
  | asked => exact ⟨by simp, due_word t (Message.method_request ..) (by decide)⟩
  | greeting | greeted | shutdown | exit => exact absurd hdocument (by simp [isOnDocument])

/-- Something is said about a document. -/
theorem underway_send (h : c.Talking us) (hwelcomed : Welcomed us) (s : Site) {u : Utterance}
    {m : Json} (hmeans : Says u m) (hdocument : u.isOnDocument = true) (hfollows : Follows us u)
    (hid : u.id? = none) {d : Documents}
    (hopen : ∀ uri, d.isOpen uri = true ↔
      u = .opened uri ∨ c.documents.isOpen uri = true ∧ u ≠ .closed uri) :
    (send { c with documents := d } s m).2.1.Underway := by
  obtain ⟨v, hv, hspoken⟩ := h.held
  have hv' : Held { c with documents := d } v := hv.congr rfl rfl rfl
  have hheld := held_send hv' s m
  rw [words_named (due_document [] hmeans hdocument).1] at hheld
  have hgoes := (acts_send { c with documents := d } s m).goes
  have hwelcomed' := hwelcomed.concat hdocument
  have horderly := hwelcomed'.orderly 0 (List.prefix_append ..)
    (History.forall_concat h.orderly.follows hfollows)
  refine ⟨us ++ [u], hwelcomed', h.concat hspoken hheld hmeans horderly
    (fun id h => absurd (hid.symm.trans h) (by simp)) hgoes.nextId_le ?_⟩
  rw [hgoes.documents_eq]
  exact hopen

/-- A client underway may bring a document up to date. -/
theorem underway_sync (h : c.Underway) (s : Site) (uri language text : String) :
    (c.sync s uri language text).2.1.Underway := by
  obtain ⟨us, hwelcomed, htalking⟩ := h
  have hsync : c.sync s uri language text =
      send { c with documents := (c.documents.sync uri language text).2 } s
        (c.documents.sync uri language text).1 := rfl
  rw [hsync]
  rcases sync_says c.documents uri language text with ⟨hopen, hmeans⟩ | ⟨hclosed, hmeans⟩
  · refine underway_send htalking hwelcomed s hmeans rfl ⟨by simp [id?], fun uri' h => ?_, by simp⟩
      rfl fun uri' => ?_
    · obtain rfl : uri = uri' := by simpa [needed?] using h
      exact (htalking.isOpen_iff uri).1 hopen
    · rw [Documents.isOpen_sync_iff]
      constructor
      · rintro (rfl | h)
        · exact .inr ⟨hopen, by simp⟩
        · exact .inr ⟨h, by simp⟩
      · rintro (h | h)
        · exact absurd h (by simp)
        · exact .inr h.1
  · refine underway_send htalking hwelcomed s hmeans rfl ⟨by simp [id?], by simp [needed?],
      fun uri' h => ?_⟩ rfl fun uri' => ?_
    · obtain rfl : uri = uri' := by simpa using h
      exact fun h => hclosed ((htalking.isOpen_iff uri).2 h)
    · rw [Documents.isOpen_sync_iff]
      constructor
      · rintro (rfl | h)
        · exact .inl rfl
        · exact .inr ⟨h, by simp⟩
      · rintro (h | h)
        · exact .inl (by simpa [eq_comm] using h)
        · exact .inr h.1

/-- A client underway may close a document. -/
theorem underway_close (h : c.Underway) (s : Site) (uri : String) :
    (c.close s uri).2.1.Underway := by
  by_cases hopen : c.documents.isOpen uri = true
  · obtain ⟨us, hwelcomed, htalking⟩ := h
    rw [close_of_isOpen s hopen]
    refine underway_send htalking hwelcomed s (.closed uri) rfl ⟨by simp [id?], fun uri' h => ?_,
      by simp⟩ rfl fun uri' => ?_
    · obtain rfl : uri = uri' := by simpa [needed?] using h
      exact (htalking.isOpen_iff uri).1 hopen
    · rw [Documents.isOpen_close_iff]
      constructor
      · exact fun h => .inr ⟨h.2, by simpa [eq_comm] using h.1⟩
      · rintro (h | h)
        · exact absurd h (by simp)
        · exact ⟨by simpa [eq_comm] using h.2, h.1⟩
  · rw [close_of_not_isOpen s hopen]
    exact h

/-- A client underway may ask for code actions. -/
theorem underway_codeActions (h : c.Underway) (s : Site) (uri : String) (only : List String) :
    (c.codeActions s uri only).2.1.Underway := by
  obtain ⟨us, hwelcomed, htalking⟩ := h
  obtain ⟨v, hv, hspoken⟩ := htalking.held
  unfold codeActions
  split
  · exact ⟨us, hwelcomed, htalking⟩
  next doc hfind =>
    have hopen : c.documents.isOpen uri = true := by rw [Documents.isOpen, hfind]; rfl
    have hrequest := held_request hv s "textDocument/codeAction"
      (some (Message.codeAction uri doc.lines only)) c.patience
    dsimp only
    generalize c.request s "textDocument/codeAction"
      (some (Message.codeAction uri doc.lines only)) c.patience = p at hrequest
    have hdone : p.2.1.Underway := by
      rcases hrequest with ⟨fault, rfl⟩ | hrequested
      · exact ⟨us, hwelcomed, htalking⟩
      · have hwelcomed' := hwelcomed.concat (u := .asked c.nextId uri) rfl
        refine ⟨_, hwelcomed', htalking.requested hspoken hrequested (.asked ..) rfl
          (hwelcomed'.orderly 0 (List.prefix_append ..)
            (History.forall_concat htalking.orderly.follows
              ⟨fun id h i hi => ?_, fun uri' h => ?_, by simp⟩))⟩
        · obtain rfl : c.nextId = id := by simpa [id?] using h
          exact htalking.id_lt i hi
        · obtain rfl : uri = uri' := by simpa [needed?] using h
          exact (htalking.isOpen_iff uri).1 hopen
    split
    · exact hdone
    · exact hdone

/-! ### The handshake -/

/-- A client that has greeted its server and has not been answered yet. -/
structure Greeting (c : Client) (id : Nat) : Prop where
  talking : c.Talking [.greeting 1]
  id_eq : id = 1

/-- Before anything is said no document is open. -/
theorem not_isOpen_nil (uri : String) : ¬ IsOpen [] uri := by
  rintro ⟨front, back, h, -⟩
  exact absurd h (by simp)

/-- A client of a process that has just been started has said nothing. -/
theorem talking_ofProcess (session : SessionId) (projects : List Project) (channel : Channel)
    (program : Path) (behaviour : Behaviour) (patience stopPatience : Nat) :
    (ofProcess (.ofProjects session projects) channel (.start program behaviour) patience
      stopPatience).Talking [] := by
  have hheld : Held (ofProcess (.ofProjects session projects) channel (.start program behaviour)
      patience stopPatience) [] := ⟨fun _ => rfl, List.nil_prefix, fun _ => rfl⟩
  refine ⟨⟨[], hheld, .nil⟩, ⟨⟨[], 0, by simp, List.nil_prefix⟩, fun front u h => ?_⟩, by simp,
    fun uri => ⟨fun h => absurd h (by simp [ofProcess, Documents.isOpen_empty]),
      fun h => absurd h (not_isOpen_nil uri)⟩⟩
  exact absurd (List.prefix_nil.1 h) (by simp)

/-- A client that has just been started greets its server, if it says anything. -/
theorem talking_greet (h : c.Talking []) (hnext : c.nextId = 1) (s : Site) (hs : Handshake) :
    (∃ us, us <+: [.greeting 1] ∧ (c.greet s hs).2.1.Talking us) ∧
      ∀ id, (c.greet s hs).1 = .ok id → (c.greet s hs).2.1.Greeting id := by
  obtain ⟨v, hv, hspoken⟩ := h.held
  obtain rfl := List.forall₂_nil_left_iff.1 hspoken
  have hask := held_ask hv (s.log c.channel .debug (advertised hs)) "initialize" (some hs.toJson)
  have hgreet : c.greet s hs =
      c.ask (s.log c.channel .debug (advertised hs)) "initialize" (some hs.toJson) := rfl
  rw [hgreet]
  generalize c.ask (s.log c.channel .debug (advertised hs)) "initialize" (some hs.toJson) = p
    at hask ⊢
  rcases hask with ⟨fault, rfl⟩ | ⟨hrequested, hok⟩
  · exact ⟨⟨[], List.nil_prefix, h⟩, fun id hid => absurd hid (by simp)⟩
  · have htalking : p.2.1.Talking ([] ++ [.greeting 1]) :=
      h.requested .nil hrequested (hnext ▸ .greeting 1 hs.toJson) (hnext ▸ rfl)
        ⟨⟨[], 0, by simp, by simp⟩, History.forall_singleton ⟨by simp, by simp [needed?], by simp⟩⟩
    refine ⟨⟨_, List.prefix_rfl, htalking⟩, fun id hid => ?_⟩
    obtain rfl := hok id hid
    exact ⟨htalking, hnext⟩

/-- A response that has a result has no error. -/
theorem error_of_resultOf {method : String} {response result : Json}
    (h : resultOf method response = .ok result) : response.member? "error" = none := by
  unfold resultOf at h
  split at h
  · exact absurd h (by simp)
  next hnone => exact hnone

/-- Something is said that is neither a request nor about a document. -/
theorem Talking.noted {c' : Client} {u : Utterance} {m : Json} (h : c.Talking us)
    (hspoken : List.Forall₂ Says us v) (hheld : Held c' (v ++ [m])) (hmeans : Says u m)
    (hu : u.id? = none ∧ u.isOnDocument = false) (horderly : Orderly (us ++ [u]))
    (hgoes : Goes c c') : c'.Talking (us ++ [u]) := by
  refine h.concat hspoken hheld hmeans horderly
    (fun id hid => absurd (hu.1.symm.trans hid) (by simp)) hgoes.nextId_le
    fun uri => ?_
  rw [hgoes.documents_eq]
  cases u with
  | opened | closed => exact absurd hu.2 (by simp [isOnDocument])
  | _ => simp

/-- The server has been greeted and has welcomed its client. -/
theorem orderly_greeted : Orderly [.greeting 1, .greeted] := by
  have hwelcomed : Welcomed [.greeting 1, .greeted] := ⟨[], rfl, by simp⟩
  refine hwelcomed.orderly 0 (List.prefix_append ..) ?_
  have hgreeting : ∀ front u, front ++ [u] <+: [.greeting 1] → Follows front u :=
    History.forall_singleton ⟨by simp, by simp [needed?], by simp⟩
  exact History.forall_concat hgreeting ⟨by simp [id?], by simp [needed?], by simp⟩

/-- A client that waits to be welcomed says no more than that it has been. -/
theorem talking_complete {id : Nat} (h : c.Greeting id) (s : Site) :
    ∃ us, us <+: [.greeting 1, .greeted] ∧ (c.complete s id).2.1.Talking us ∧
      ((c.complete s id).1 = .ok () → us = [.greeting 1, .greeted]) := by
  obtain ⟨htalking, rfl⟩ := h
  obtain ⟨v, hv, hspoken⟩ := htalking.held
  have hheld := held_await hv s 1 "initialize" c.patience
  have hgoes := (acts_await c s 1 "initialize" c.patience).goes
  unfold complete
  generalize c.await s 1 "initialize" c.patience = p at hheld hgoes ⊢
  obtain ⟨r, c', s'⟩ := p
  dsimp only at hheld hgoes
  have hgreeting : c'.Talking [.greeting 1] := htalking.still hspoken hheld hgoes
  have hfirst : [Utterance.greeting 1] <+: [.greeting 1, .greeted] := ⟨[.greeted], rfl⟩
  cases r with
  | error fault => exact ⟨_, hfirst, hgreeting, fun h => absurd h (by simp)⟩
  | ok response =>
    dsimp only
    split
    · exact ⟨_, hfirst, hgreeting, fun h => absurd h (by simp)⟩
    next result hresult =>
      let welcomed : Client := { c' with welcome := Welcome.read? result }
      have hwelcome : Held welcomed v := hheld.congr rfl rfl rfl
      have hnamed : Message.isNamed greeted = true := Message.isNamed_notification ..
      have hsent := held_send hwelcome s' greeted
      rw [words_named hnamed] at hsent
      have hgoes' := (acts_send welcomed s' greeted).goes.from c' rfl le_rfl rfl
      have htalking' := hgreeting.noted hspoken hsent .greeted ⟨rfl, rfl⟩ orderly_greeted hgoes'
      exact ⟨_, List.prefix_rfl, htalking', fun _ => rfl⟩

/-- A client is welcomed when its server has answered the greeting without an error. -/
theorem complete_spec {id : Nat} (h : c.Greeting id) (s : Site) :
    (∃ us, (c.complete s id).2.1.Talking us) ∧
      ((c.complete s id).1 = .ok () → (c.complete s id).2.1.Underway) := by
  obtain ⟨us, -, htalking, hok⟩ := talking_complete h s
  exact ⟨⟨us, htalking⟩, fun h => ⟨us, ⟨[], hok h, by simp⟩, htalking⟩⟩

/-! ### Reading and settling -/

/-- A client means to say over its moves what it meant to say. -/
theorem Talking.moves {p : Client × Site} (h : c.Talking us) (hmoves : Moves (c, s) p) :
    p.1.Talking us := by
  obtain ⟨v, hv, hspoken⟩ := h.held
  exact h.still hspoken (hmoves.held hv) hmoves.goes

/-- A client stays underway over its moves. -/
theorem Underway.moves {p : Client × Site} (h : c.Underway) (hmoves : Moves (c, s) p) :
    p.1.Underway := by
  obtain ⟨us, hwelcomed, htalking⟩ := h
  exact ⟨us, hwelcomed, htalking.moves hmoves⟩

/-! ### The end -/

/-- A client that says goodbye says no more than the script has. -/
theorem talking_sayGoodbye (hwelcomed : Welcomed us) (h : c.Talking us) (s : Site) :
    ∃ us', (c.sayGoodbye s).1.Talking us' := by
  obtain ⟨v, hv, hspoken⟩ := h.held
  have hrequest := held_request hv s "shutdown" none c.stopPatience
  unfold sayGoodbye
  split
  · generalize c.request s "shutdown" none c.stopPatience = p at hrequest ⊢
    obtain ⟨r, c', s'⟩ := p
    rcases hrequest with ⟨fault, heq⟩ | hrequested
    · cases heq
      exact ⟨us, h⟩
    · dsimp only at hrequested
      have hfollows := History.forall_concat h.orderly.follows (x := .shutdown c.nextId)
        ⟨fun id hid i hi => Option.some.inj hid ▸ h.id_lt i hi, by simp [needed?], by simp⟩
      have hasked : c'.Talking (us ++ [.shutdown c.nextId]) :=
        h.requested hspoken hrequested (.shutdown _) rfl (hwelcomed.orderly c.nextId
          (by simp) hfollows)
      cases r with
      | error fault => exact ⟨_, hasked⟩
      | ok response =>
        dsimp only
        split
        next hgood =>
          have hsent := held_send hrequested.held s' (Message.notification "exit" none)
          rw [words_named (Message.isNamed_notification ..)] at hsent
          have hspoken' := List.rel_append hspoken (.cons (Says.shutdown c.nextId) .nil)
          refine ⟨_, hasked.noted hspoken' hsent .exit ⟨rfl, rfl⟩
            (hwelcomed.orderly c.nextId (by simp) (History.forall_concat hfollows ?_))
            (acts_send ..).goes⟩
          exact ⟨by simp [id?], by simp [needed?], by simp⟩
        · exact ⟨_, hasked⟩
  · exact ⟨us, h⟩

/-- A client that closes the input of its server has said what it has said. -/
theorem Talking.closeInput (h : c.Talking us) (houtbox : c.outbox = []) :
    Talking { c with process := c.process.closeInput c.backlog, writing := false } us := by
  obtain ⟨v, hv, hspoken⟩ := h.held
  exact h.still hspoken (hv.stopWriting rfl houtbox rfl)
    ⟨rfl, le_rfl, fun hw => absurd hw (by simp)⟩

/-- A client that leaves says nothing more than its goodbye. -/
theorem talking_leave (h : c.Underway) (s : Site) : ∃ us, (c.leave s).1.Talking us := by
  obtain ⟨us, hwelcomed, htalking⟩ := h
  obtain ⟨us', hbye⟩ := talking_sayGoodbye hwelcomed htalking s
  refine ⟨us', ?_⟩
  unfold leave
  generalize c.sayGoodbye s = p at hbye ⊢
  have hdone := hbye.moves (s := p.2) ((moves_makeRoom ..).trans (moves_flush ..))
  dsimp only
  split
  next hempty =>
    exact (hdone.closeInput (List.isEmpty_iff.1 hempty)).moves (moves_read ..)
  · exact hdone.moves (moves_read ..)

/-! ### What is recorded -/

/-- **What passes between a client that talks and its server is proper**, as far as it is
recorded. -/
theorem Talking.proper (h : c.Talking us) (hrecorded : c.Recorded s) :
    Proper (s.passages c.session) := by
  obtain ⟨v, hv, hspoken⟩ := h.held
  have hsaid : words c.process.heard <+: v := by
    have hsaid := hv.said
    rw [words_append] at hsaid
    exact (List.prefix_append ..).trans hsaid
  obtain ⟨rest, rfl⟩ := hsaid
  have htake := List.forall₂_take (words c.process.heard).length hspoken
  rw [List.take_left, hrecorded.heard_eq] at htake
  exact ⟨⟨_, htake, h.orderly.of_prefix (List.take_prefix ..)⟩, hrecorded.grounded⟩

/-- The client of a server that has just been started. -/
theorem recorded_spawn {receiver : Receiver} {channel : Channel} {binary : Path}
    {patience stopPatience : Nat} {s' : Site}
    (h : spawn s receiver channel binary patience stopPatience = .ok (c, s'))
    (hblank : s.passages receiver.session = []) : c.Recorded s' := by
  unfold spawn at h
  cases hprogram : s.disk.program binary with
  | error fault => rw [hprogram] at h; cases h
  | ok behaviour =>
    rw [hprogram] at h
    cases h
    refine ⟨?_, ?_, fun front m back h => ?_, fun d hd => absurd hd List.not_mem_nil⟩
    · rw [session, ofProcess, Site.passages_note_self, hblank]
      rfl
    · rw [session, ofProcess, Site.passages_note_self, hblank]
      exact grounded_nil.concat (by simp)
    · exact absurd h (by simp [ofProcess])

/-- A server that is started is noted in its own session. -/
theorem adds_spawn {receiver : Receiver} {channel : Channel} {binary : Path}
    {patience stopPatience : Nat} {s' : Site}
    (h : spawn s receiver channel binary patience stopPatience = .ok (c, s')) :
    Site.Adds receiver.session s s' := by
  unfold spawn at h
  cases hprogram : s.disk.program binary with
  | error fault => rw [hprogram] at h; cases h
  | ok behaviour =>
    rw [hprogram] at h
    cases h
    exact Site.adds_note ..

/-- Greeting the server is recorded. -/
theorem recorded_greet (h : c.Recorded s) (hs : Handshake) :
    (c.greet s hs).2.1.Recorded (c.greet s hs).2.2 :=
  recorded_ask (s := s.log c.channel .debug (advertised hs))
    (h.congr rfl rfl rfl (List.Subset.refl _) rfl) _ (by decide)

/-- To have said no more than the greeting is to have sent one `initialize`. -/
theorem eq_of_says_greeting {id : Nat} (h : List.Forall₂ Says [.greeting id] v) :
    ∃ params, Message.request id "initialize" (some params) ∈ v := by
  cases h with
  | cons hmeans hrest =>
    cases hmeans
    exact ⟨_, List.mem_cons_self ..⟩

/-- The server is told that its client has been welcomed when its answer without an error has
been read. -/
theorem recorded_complete {id : Nat} (hgreeting : c.Greeting id) (h : c.Recorded s) :
    (c.complete s id).2.1.Recorded (c.complete s id).2.2 := by
  obtain ⟨htalking, rfl⟩ := hgreeting
  obtain ⟨v, hv, hspoken⟩ := htalking.held
  obtain ⟨params, hrequest⟩ := eq_of_says_greeting hspoken
  have hheld := held_await hv s 1 "initialize" c.patience
  have hsession := (acts_await c s 1 "initialize" c.patience).session_eq
  obtain ⟨hrecorded, hread⟩ := recorded_await h 1 "initialize" c.patience
  unfold complete
  generalize c.await s 1 "initialize" c.patience = p at hheld hsession hrecorded hread ⊢
  obtain ⟨r, c', s'⟩ := p
  dsimp only at hheld hsession hrecorded hread
  cases r with
  | error fault => exact hrecorded
  | ok response =>
    dsimp only
    split
    · exact hrecorded
    next result hresult =>
      obtain ⟨hresponse, hanswers⟩ := hread response rfl
      let welcomed : Client := { c' with welcome := Welcome.read? result }
      have hwelcomed : welcomed.Recorded s' := hrecorded.congr rfl rfl rfl (List.Subset.refl _) rfl
      have hroom := moves_makeRoom welcomed s'
      have hsession' : (welcomed.makeRoom s').1.session = welcomed.session :=
        (Acts.of_moves hroom).session_eq
      refine recorded_send hwelcomed fun hw => due_greeted ?_
      rw [← hsession']
      refine granted_of_read (hroom.held (hheld.congr rfl rfl rfl)) (hroom.recorded hwelcomed) hw
        hrequest ?_ hanswers (error_of_resultOf hresult)
      rw [hsession']
      refine ((Acts.of_moves hroom).adds.passages_prefix _).subset ?_
      change Note.read response ∈ s'.passages c'.session
      rwa [hsession]

/-- Something is said about a document. -/
theorem recorded_document (h : c.Recorded s) {u : Utterance} {m : Json} (hmeans : Says u m)
    (hdocument : u.isOnDocument = true) (d : Documents) :
    (send { c with documents := d } s m).2.1.Recorded (send { c with documents := d } s m).2.2 :=
  recorded_send (h.congr rfl rfl rfl (List.Subset.refl _) rfl)
    fun _ => (due_document _ hmeans hdocument).2

/-- Bringing a document up to date is recorded. -/
theorem recorded_sync (h : c.Recorded s) (uri language text : String) :
    (c.sync s uri language text).2.1.Recorded (c.sync s uri language text).2.2 := by
  obtain ⟨-, hmeans⟩ | ⟨-, hmeans⟩ := sync_says c.documents uri language text
  · exact recorded_document h hmeans rfl _
  · exact recorded_document h hmeans rfl _

/-- Closing a document is recorded. -/
theorem recorded_close (h : c.Recorded s) (uri : String) :
    (c.close s uri).2.1.Recorded (c.close s uri).2.2 := by
  by_cases hopen : c.documents.isOpen uri = true
  · rw [close_of_isOpen s hopen]
    exact recorded_document h (.closed uri) rfl _
  · rwa [close_of_not_isOpen s hopen]

/-- Asking for code actions is recorded. -/
theorem recorded_codeActions (h : c.Recorded s) (uri : String) (only : List String) :
    (c.codeActions s uri only).2.1.Recorded (c.codeActions s uri only).2.2 := by
  unfold codeActions
  split
  · exact h
  next doc _ =>
    have hmethod : "textDocument/codeAction" ≠ "initialized" ∧
        "textDocument/codeAction" ≠ "exit" := by decide
    have hrequest := (recorded_request h (some (Message.codeAction uri doc.lines only)) c.patience
      hmethod).1
    dsimp only
    split
    next heq =>
      rw [heq] at hrequest
      exact hrequest
    next heq =>
      rw [heq] at hrequest
      exact hrequest

/-- The server is told to exit when its answer without an error to being shut down has been
read. -/
theorem recorded_sayGoodbye (htalking : c.Talking us) (h : c.Recorded s) :
    (c.sayGoodbye s).1.Recorded (c.sayGoodbye s).2 := by
  obtain ⟨v, hv, -⟩ := htalking.held
  have hrequest := held_request hv s "shutdown" none c.stopPatience
  have hsession := (acts_request c s "shutdown" none c.stopPatience).session_eq
  have hmethod : "shutdown" ≠ "initialized" ∧ "shutdown" ≠ "exit" := by decide
  obtain ⟨hrecorded, hread⟩ := recorded_request h none c.stopPatience hmethod
  unfold sayGoodbye
  split
  · generalize c.request s "shutdown" none c.stopPatience = p at *
    obtain ⟨r, c', s'⟩ := p
    cases r with
    | error fault => exact hrecorded
    | ok response =>
      dsimp only at hrecorded hsession hread ⊢
      split
      next hgood =>
        obtain ⟨fault, heq⟩ | hrequested := hrequest
        · exact absurd (congrArg Prod.fst heq) (by simp)
        obtain ⟨hresponse, hanswers⟩ := hread response rfl
        have hroom := moves_makeRoom c' s'
        have hsession' : (c'.makeRoom s').1.session = c'.session :=
          (Acts.of_moves hroom).session_eq
        refine recorded_send hrecorded fun hw => due_exit ?_
        rw [← hsession']
        refine granted_of_read (hroom.held hrequested.held) (hroom.recorded hrecorded) hw
          (List.mem_append_right _ (List.mem_singleton_self _)) ?_ hanswers
          (Option.isNone_iff_eq_none.1 hgood)
        rw [hsession', hsession]
        exact ((Acts.of_moves hroom).adds.passages_prefix _).subset hresponse
      · exact hrecorded
  · exact h

/-- **Whatever is said when a client leaves is due.** -/
theorem recorded_leave (htalking : c.Talking us) (h : c.Recorded s) :
    (c.leave s).1.Recorded (c.leave s).2 := by
  have hbye := recorded_sayGoodbye htalking h
  unfold leave
  generalize c.sayGoodbye s = p at hbye ⊢
  have hdone := Moves.recorded ((moves_makeRoom p.1 p.2).trans (moves_flush ..)) hbye
  dsimp only
  split
  · refine (moves_read _ _).recorded ?_
    exact hdone.congr rfl rfl rfl (List.Subset.refl _) rfl
  · exact (moves_read _ _).recorded hdone

/-- What has passed when a client is dropped is proper, and more passes in no other session. -/
theorem proper_drop (htalking : c.Talking us) (h : c.Recorded s) :
    Proper ((c.drop s).passages c.session) ∧ Site.Adds c.session s (c.drop s) := by
  obtain ⟨v, hv, hspoken⟩ := htalking.held
  let dropped : Client := { c with process := c.process.kill, writing := false, outbox := [] }
  let alone : Site := { s with supervised := false }
  have hmoves : Moves (dropped, alone) (dropped.read alone) := moves_read ..
  have htalking' : dropped.Talking us := htalking.still hspoken (hv.stopWriting rfl rfl rfl)
    ⟨rfl, le_rfl, fun hw => absurd hw (by simp)⟩
  have hrecorded : dropped.Recorded alone :=
    ⟨h.heard_eq, h.grounded, fun front m back h => absurd h (by simp [dropped]), h.delivered⟩
  have hsession := (Acts.of_moves hmoves).session_eq
  have hproper := (htalking'.moves hmoves).proper (hmoves.recorded hrecorded)
  rw [hsession] at hproper
  exact ⟨hproper, (Acts.of_moves hmoves).adds⟩

end Client
end Switchboard
