/-
# Which documents are open

A text that is taken in opens its document and no other, and a document that is
closed is the only one that is open no more.  Nothing else that a client does
opens or closes any, and no client takes up writing again (`Client.Goes`).
-/

import Mathlib.Tactic
import Switchboard.Proofs.Client.Moves

namespace Switchboard
namespace Documents

/-- The first entry is found by its URI, and the others behind it. -/
theorem lookup_cons_eq (u v : String) (doc : OpenDocument)
    (entries : List (String × OpenDocument)) :
    ((v, doc) :: entries).lookup u = if u = v then some doc else entries.lookup u := by
  rw [List.lookup_cons]
  split
  next heq => rw [if_pos (beq_iff_eq.1 heq)]
  next hne => rw [if_neg (beq_eq_false_iff_ne.1 hne)]

/-- What is put under a URI is found there, and the others stay. -/
theorem lookup_put (uri u : String) (doc : OpenDocument)
    (entries : List (String × OpenDocument)) :
    (put uri doc entries).lookup u = if u = uri then some doc else entries.lookup u := by
  induction entries with
  | nil => exact lookup_cons_eq ..
  | cons entry entries ih =>
    obtain ⟨v, old⟩ := entry
    unfold put
    split
    next hv =>
      rw [lookup_cons_eq, lookup_cons_eq, hv]
      split <;> rfl
    next hv =>
      rw [lookup_cons_eq, ih, lookup_cons_eq]
      by_cases hu : u = v
      · rw [if_pos hu, if_neg (hu ▸ hv), if_pos hu]
      · rw [if_neg hu, if_neg hu]

/-- In an empty store nothing is open. -/
theorem isOpen_empty (u : String) : empty.isOpen u = false := rfl

/-- A text puts its document at the next version, and at the first one if it was not open. -/
theorem find?_sync (d : Documents) (uri language text u : String) :
    (d.sync uri language text).2.find? u =
      if u = uri then
        some ⟨(d.find? uri).elim 1 fun doc => doc.version + 1, lineCount text⟩
      else d.find? u := by
  unfold sync
  split
  next doc hdoc =>
    rw [hdoc, find?, lookup_put]
    rfl
  next hnone =>
    rw [hnone, find?, lookup_put]
    rfl

/-- A text opens its document if it is not open. -/
theorem isOpen_sync_iff (d : Documents) (uri language text u : String) :
    (d.sync uri language text).2.isOpen u = true ↔ u = uri ∨ d.isOpen u = true := by
  rw [isOpen, find?_sync, isOpen]
  split <;> simp_all

/-- What is taken out under a URI is no longer found there, and the others stay. -/
theorem lookup_filter_ne (uri u : String) (entries : List (String × OpenDocument)) :
    (entries.filter fun entry => entry.1 != uri).lookup u =
      if u = uri then none else entries.lookup u := by
  induction entries with
  | nil => split <;> rfl
  | cons entry entries ih =>
    obtain ⟨v, doc⟩ := entry
    rw [List.filter_cons]
    by_cases hv : v = uri
    · rw [if_neg (by simp [hv]), ih, lookup_cons_eq]
      split
      · rfl
      next hu => rw [if_neg (hv ▸ hu)]
    · rw [if_pos (by simp [hv]), lookup_cons_eq, ih, lookup_cons_eq]
      by_cases hu : u = v
      · rw [if_pos hu, if_neg (hu ▸ hv), if_pos hu]
      · rw [if_neg hu, if_neg hu]

/-- A document that is closed is not there any more. -/
theorem find?_close (d : Documents) (uri u : String) :
    (d.close uri).2.find? u = if u = uri then none else d.find? u := by
  unfold close
  split
  · exact lookup_filter_ne ..
  next hclosed =>
    split
    next h => simpa [isOpen, h] using hclosed
    next => rfl

/-- A document that is closed is open no more. -/
theorem isOpen_close_iff (d : Documents) (uri u : String) :
    (d.close uri).2.isOpen u = true ↔ u ≠ uri ∧ d.isOpen u = true := by
  rw [isOpen, find?_close, isOpen]
  split <;> simp_all

end Documents

namespace Client

variable {c c' c'' : Client} {p q : Client × Site}

/-- A client goes on with the documents that it has open; it does not number its
requests anew, nor take up writing again. -/
structure Goes (c c' : Client) : Prop where
  documents_eq : c'.documents = c.documents
  nextId_le : c.nextId ≤ c'.nextId
  writing_of : c'.writing = true → c.writing = true

theorem Goes.refl (c : Client) : Goes c c := ⟨rfl, le_rfl, id⟩

theorem Goes.trans (h₁ : Goes c c') (h₂ : Goes c' c'') : Goes c c'' :=
  ⟨h₂.documents_eq.trans h₁.documents_eq, h₁.nextId_le.trans h₂.nextId_le,
    fun hw => h₁.writing_of (h₂.writing_of hw)⟩

/-- What becomes of a client becomes of one that differs in other things. -/
theorem Goes.from (c₀ : Client) (h : Goes c c') (hdocuments : c.documents = c₀.documents)
    (hnext : c₀.nextId ≤ c.nextId) (hwriting : c.writing = c₀.writing) : Goes c₀ c' :=
  .trans ⟨hdocuments, hnext, fun hw => hwriting ▸ hw⟩ h

/-- Putting a message into the outbox leaves the documents as they are. -/
theorem goes_push (c : Client) (m : Json) : Goes c (c.push m) := by
  unfold push
  split
  · exact ⟨rfl, le_rfl, id⟩
  · exact .refl c

/-- Acting on a frame leaves the documents as they are. -/
theorem goes_act (c : Client) (s : Site) (o : Outcome) : Goes c (c.act s o).1 := by
  cases o with
  | answered answer => exact goes_push c answer
  | _ => exact ⟨rfl, le_rfl, id⟩

/-- No move of a client changes its documents. -/
theorem Move.goes (h : Move p q) : Goes p.1 q.1 := by
  cases h with
  | receive => exact (goes_act ..).from _ rfl le_rfl rfl
  | lose => exact ⟨rfl, le_rfl, fun hw => absurd hw (by simp)⟩
  | _ => exact ⟨rfl, le_rfl, id⟩

/-- Nothing a client does on its own changes its documents. -/
theorem Act.goes (h : Act p q) : Goes p.1 q.1 := by
  cases h with
  | move h => exact h.goes
  | push c s m => exact goes_push c m
  | count => exact ⟨rfl, Nat.le_succ _, id⟩
  | closeInput => exact ⟨rfl, le_rfl, fun hw => absurd hw (by simp)⟩
  | _ => exact ⟨rfl, le_rfl, id⟩

/-- A row of things a client does on its own changes none of its documents. -/
theorem Acts.goes (h : Acts p q) : Goes p.1 q.1 := by
  induction h with
  | refl => exact .refl _
  | tail _ h ih => exact ih.trans h.goes

/-- A row of moves of a client changes none of its documents. -/
theorem Moves.goes (h : Moves p q) : Goes p.1 q.1 := (Acts.of_moves h).goes

/-! ### Documents that stay -/

/-- A client stays with what it has open, and takes up no writing. -/
structure Stays (c c' : Client) : Prop where
  isOpen_iff : ∀ u, c'.documents.isOpen u = true ↔ c.documents.isOpen u = true
  writing_of : c'.writing = true → c.writing = true

/-- A client that goes on with its documents keeps them. -/
theorem Goes.stays (h : Goes c c') : Stays c c' :=
  ⟨fun _ => by rw [h.documents_eq], h.writing_of⟩

theorem Stays.refl (c : Client) : Stays c c := (Goes.refl c).stays

theorem Stays.trans (h₁ : Stays c c') (h₂ : Stays c' c'') : Stays c c'' :=
  ⟨fun u => (h₂.isOpen_iff u).trans (h₁.isOpen_iff u), fun hw => h₁.writing_of (h₂.writing_of hw)⟩

/-- A message is refused by a client that writes no more. -/
theorem send_of_writing {s : Site} {m : Json} (h : (c.send s m).2.1.writing = true) :
    (c.send s m).1 = .ok () := by
  unfold send at h ⊢
  dsimp only at h ⊢
  split
  · rfl
  next hw =>
    rw [if_neg hw] at h
    exact absurd h hw

/-- A client that takes in a text has its document open from then on, and writes
no more if the text is refused. -/
theorem sync_spec (c : Client) (s : Site) (uri language text : String) :
    (∀ u, (c.sync s uri language text).2.1.documents.isOpen u = true ↔
      u = uri ∨ c.documents.isOpen u = true) ∧
    ((c.sync s uri language text).2.1.writing = true →
      c.writing = true ∧ (c.sync s uri language text).1 = .ok ()) := by
  have hgoes := (acts_send { c with documents := (c.documents.sync uri language text).2 } s
    (c.documents.sync uri language text).1).goes
  refine ⟨fun u => ?_, fun hw => ⟨hgoes.writing_of hw, send_of_writing hw⟩⟩
  rw [← Documents.isOpen_sync_iff c.documents uri language text u]
  exact (hgoes.stays.isOpen_iff u)

/-- Closing a document that is open is to say so. -/
theorem close_of_isOpen (s : Site) {uri : String} (h : c.documents.isOpen uri = true) :
    c.close s uri = send { c with documents := (c.documents.close uri).2 } s
      (Message.notification "textDocument/didClose" (some (Message.didClose uri))) := by
  rw [close, Documents.close, if_pos h]

/-- Closing a document that is not open does nothing. -/
theorem close_of_not_isOpen (s : Site) {uri : String} (h : ¬ c.documents.isOpen uri = true) :
    c.close s uri = (.ok (), c, s) := by
  rw [close, Documents.close, if_neg h]

/-- A client that closes a document has it open no more. -/
theorem close_spec (c : Client) (s : Site) (uri : String) :
    (∀ u, (c.close s uri).2.1.documents.isOpen u = true ↔
      u ≠ uri ∧ c.documents.isOpen u = true) ∧
    ((c.close s uri).2.1.writing = true → c.writing = true) := by
  by_cases hopen : c.documents.isOpen uri = true
  · rw [close_of_isOpen s hopen]
    have hgoes := (acts_send { c with documents := (c.documents.close uri).2 } s
      (Message.notification "textDocument/didClose" (some (Message.didClose uri)))).goes
    exact ⟨fun u => (hgoes.stays.isOpen_iff u).trans (c.documents.isOpen_close_iff uri u),
      hgoes.writing_of⟩
  · rw [close_of_not_isOpen s hopen]
    exact ⟨fun u => ⟨fun hu => ⟨fun h => hopen (h ▸ hu), hu⟩, fun hu => hu.2⟩, id⟩

end Client
end Switchboard
