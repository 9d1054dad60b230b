/-
# What passes between a client and its server

A message that the server hears and a frame that the client reads are noted in the
journal of the site.  What a client means to say goes through its outbox: the server
hears a first part of it in order, and all but what still waits, as long as writing goes
on (`Client.Held`).  A message is due when what it waits for has been read; and as what
waits in the outbox is due behind the messages ahead of it, every message in the journal
was due when the server heard it (`Client.Recorded`).  Both are kept by whatever happens
between a client and its server (`Move.held`, `Move.recorded`), so a client has to see to
them only where it puts a message into the outbox.
-/

import Mathlib.Tactic
import Switchboard.Proofs.Client.Documents
import Switchboard.Proofs.Client.Pending
import Switchboard.Proofs.Client.Reports
import Switchboard.Proofs.Json.Members

namespace Switchboard

/-! ### Messages that name a method -/

/-- Whether a message names a method; only answers do not. -/
def Message.isNamed (m : Json) : Bool := (m.member? "method").isSome

/-- A request names a method. -/
@[simp] theorem Message.isNamed_request (id : Nat) (method : String) (params : Option Json) :
    isNamed (request id method params) = true := by simp [isNamed]

/-- A notification names a method. -/
@[simp] theorem Message.isNamed_notification (method : String) (params : Option Json) :
    isNamed (notification method params) = true := by simp [isNamed]

/-- An answer names no method. -/
theorem Receiver.isNamed_answerTo (id : Json) (method : String) (params : Option Json) :
    Message.isNamed (answerTo id method params) = false := by
  unfold answerTo
  split
  · simp [Message.isNamed]
  · split <;> simp [Message.isNamed]

/-! ### Exchanges -/

namespace Exchange

/-- The message that a server hears. -/
def heard? : Note → Option Json
  | .heard message => some message
  | _ => none

/-- The messages that a server hears. -/
def messages (t : List Note) : List Json := t.filterMap heard?

variable {t u : List Note} {m : Json} {method : String}

/-- What is heard over two stretches is what is heard over the one and then the other. -/
@[simp] theorem messages_append (t u : List Note) :
    messages (t ++ u) = messages t ++ messages u := List.filterMap_append

/-- A message that is noted as heard has been heard. -/
@[simp] theorem messages_heard (m : Json) : messages [.heard m] = [m] := rfl

/-- A frame that is read is nothing the server hears. -/
@[simp] theorem messages_read (frame : Json) : messages [.read frame] = [] := rfl

/-- The start is nothing the server hears. -/
@[simp] theorem messages_started : messages [.started] = [] := rfl

/-- What is among the messages has been noted as heard. -/
theorem heard_mem (h : m ∈ messages t) : Note.heard m ∈ t := by
  obtain ⟨n, hn, hm⟩ := List.mem_filterMap.1 h
  cases n with
  | heard m' => exact Option.some.inj hm ▸ hn
  | started => exact absurd hm (by simp [heard?])
  | read frame => exact absurd hm (by simp [heard?])

/-- The messages that are no answers. -/
def words (ms : List Json) : List Json := ms.filter Message.isNamed

/-- The words among two rows of messages are those of the one and then those of the other. -/
theorem words_append (ms ns : List Json) : words (ms ++ ns) = words ms ++ words ns :=
  List.filter_append ..

/-- A message that names a method is a word. -/
theorem words_named {m : Json} (h : Message.isNamed m = true) : words [m] = [m] := by
  simp [words, h]

/-- An answer is no word. -/
theorem words_answer {m : Json} (h : Message.isNamed m = false) : words [m] = [] := by
  simp [words, h]

/-! ### What a message waits for -/

/-- A request has been heard, and a response without an error to it has been read. -/
def Granted (t : List Note) (method : String) : Prop :=
  ∃ id params frame, Note.heard (Message.request id method params) ∈ t ∧ Note.read frame ∈ t ∧
    Receiver.Answers frame id ∧ frame.member? "error" = none

/-- A request has been read that a message answers. -/
def Asked (t : List Note) (m : Json) : Prop :=
  ∃ frame id method params, Note.read frame ∈ t ∧
    Incoming.classify frame = some (.request id method params) ∧
    m = Receiver.answerTo id method params

/-- What a message waits for has come: an answer waits for the request of the
server, the notification that follows the handshake for the welcome, and the one
that ends a server for its consent to be shut down. -/
structure Due (t : List Note) (m : Json) : Prop where
  asked : Message.isNamed m = false → Asked t m
  welcomed : m.member? "method" = some (.str "initialized") → Granted t "initialize"
  released : m.member? "method" = some (.str "exit") → Granted t "shutdown"

/-- An answer is due as soon as the request has been read. -/
theorem due_answer {frame id : Json} {params : Option Json} (hread : Note.read frame ∈ t)
    (hclass : Incoming.classify frame = some (.request id method params)) :
    Due t (Receiver.answerTo id method params) := by
  have hnone : (Receiver.answerTo id method params).member? "method" = none := by
    simpa [Message.isNamed] using Receiver.isNamed_answerTo id method params
  refine ⟨fun _ => ⟨frame, id, method, params, hread, hclass, rfl⟩, fun h => ?_, fun h => ?_⟩
  · exact absurd (hnone.symm.trans h) (by simp)
  · exact absurd (hnone.symm.trans h) (by simp)

/-- Nothing waits for anything but answers and the notifications of the handshake
and the end. -/
theorem due_word (t : List Note) (hm : m.member? "method" = some (.str method))
    (h : method ≠ "initialized" ∧ method ≠ "exit") : Due t m := by
  refine ⟨fun hnamed => ?_, fun heq => ?_, fun heq => ?_⟩
  · rw [Message.isNamed, hm] at hnamed
    exact absurd hnamed (by simp)
  · rw [hm] at heq
    exact absurd (by simpa using heq) h.1
  · rw [hm] at heq
    exact absurd (by simpa using heq) h.2

/-- The notifications of the handshake and the end are due when they are granted. -/
theorem due_greeted (h : Granted t "initialize") : Due t Client.greeted := by
  have hmethod : Client.greeted.member? "method" = some (.str "initialized") :=
    Message.method_notification ..
  refine ⟨fun hm => ?_, fun _ => h, fun hm => ?_⟩
  · rw [Message.isNamed, hmethod] at hm
    exact absurd hm (by simp)
  · rw [hmethod] at hm
    exact absurd hm (by simp)

/-- Once the shutdown is granted, the exit is due. -/
theorem due_exit (h : Granted t "shutdown") :
    Due t (Message.notification "exit" none) := by
  refine ⟨fun hm => absurd hm (by simp), fun hm => absurd hm (by simp), fun _ => h⟩

/-- What is due stays due when more has passed. -/
theorem Due.mono (h : Due t m) (hle : t ⊆ u) : Due u m := by
  have hgranted : ∀ method, Granted t method → Granted u method := by
    rintro method ⟨id, params, frame, hheard, hread, hrest⟩
    exact ⟨id, params, frame, hle hheard, hle hread, hrest⟩
  refine ⟨fun hm => ?_, fun hm => hgranted _ (h.welcomed hm), fun hm => hgranted _ (h.released hm)⟩
  obtain ⟨frame, id, method, params, hread, hrest⟩ := h.asked hm
  exact ⟨frame, id, method, params, hle hread, hrest⟩

/-- Every message of an exchange was due when it was heard. -/
def Grounded (t : List Note) : Prop :=
  ∀ front n, front ++ [n] <+: t → ∀ m, n = .heard m → Due front m

/-- Where nothing is noted everything noted is due. -/
theorem grounded_nil : Grounded [] := fun front n h => absurd (List.prefix_nil.1 h) (by simp)

/-- One more note leaves all due if it was due itself. -/
theorem Grounded.concat {n : Note} (h : Grounded t) (hn : ∀ m, n = .heard m → Due t m) :
    Grounded (t ++ [n]) := History.forall_concat h hn

end Exchange

/-! ### The journal -/

namespace Site

variable {s : Site} {session : SessionId} {program : Path} {n : Note}

/-- A note about a session is one more of its passages. -/
theorem passages_note_self : (s.note session program n).passages session =
    s.passages session ++ [n] := by
  simp [passages, note]

/-- The passages of a session are a matter of the journal. -/
theorem passages_congr {s' : Site} (h : s'.journal = s.journal) (session : SessionId) :
    s'.passages session = s.passages session := by
  rw [passages, passages, h]

/-- The journal has grown by what has passed between one session and its server. -/
def Adds (session : SessionId) (s s' : Site) : Prop :=
  ∃ entries, s'.journal = s.journal ++ entries ∧ ∀ e ∈ entries, e.session = session

/-- A journal that stays as it is has been added to. -/
theorem Adds.of_eq {s' : Site} (h : s'.journal = s.journal) : Adds session s s' :=
  ⟨[], by rw [h, List.append_nil], by simp⟩

theorem Adds.trans {s' s'' : Site} (h₁ : Adds session s s') (h₂ : Adds session s' s'') :
    Adds session s s'' := by
  obtain ⟨es, hes, hown⟩ := h₁
  obtain ⟨fs, hfs, hown'⟩ := h₂
  refine ⟨es ++ fs, by rw [hfs, hes, List.append_assoc], fun e he => ?_⟩
  exact (List.mem_append.1 he).elim (hown e) (hown' e)

/-- A note adds to the journal of its session. -/
theorem adds_note (s : Site) (session : SessionId) (program : Path) (n : Note) :
    Adds session s (s.note session program n) := ⟨_, rfl, by simp⟩

/-- What has passed in a session is there as before, with more behind it. -/
theorem Adds.passages_prefix {s' : Site} (h : Adds session s s') (session' : SessionId) :
    s.passages session' <+: s'.passages session' := by
  obtain ⟨entries, heq, -⟩ := h
  rw [passages, passages, heq, List.filterMap_append]
  exact List.prefix_append ..

/-- Nothing passes in the other sessions. -/
theorem Adds.passages_ne {s' : Site} (h : Adds session s s') (hne : session' ≠ session) :
    s'.passages session' = s.passages session' := by
  obtain ⟨entries, heq, hown⟩ := h
  have hnone : entries.filterMap (fun e => if e.session = session' then some e.note else none) =
      [] := List.filterMap_eq_nil_iff.2 fun e he => if_neg fun h => hne (h.symm.trans (hown e he))
  rw [passages, passages, heq, List.filterMap_append, hnone, List.append_nil]

/-- Log lines leave the journal as it is. -/
theorem journal_logAll (s : Site) (channel : Channel) (level : Level) (lines : List String) :
    (s.logAll channel level lines).journal = s.journal := by
  induction lines generalizing s with
  | nil => rfl
  | cons line lines ih => exact ih (s.log channel level line)

end Site

namespace Client

open Exchange

variable {c c' : Client} {s : Site} {p q : Client × Site} {v : List Json} {m : Json}

/-! ### What a client means to say -/

/-- A client has meant to say `v`: its server has heard a first part of it, answers left out,
and all but what waits if writing goes on. -/
structure Held (c : Client) (v : List Json) : Prop where
  silent : c.writing = false → c.outbox = []
  said : words (c.process.heard ++ c.outbox) <+: v
  meant : c.writing = true → words (c.process.heard ++ c.outbox) = v

/-- What a client means to say depends on no more of it than these. -/
theorem Held.congr (h : Held c v) (hheard : c'.process.heard = c.process.heard)
    (houtbox : c'.outbox = c.outbox) (hwriting : c'.writing = c.writing) : Held c' v := by
  refine ⟨fun hw => ?_, ?_, fun hw => ?_⟩
  · exact houtbox.trans (h.silent (hwriting ▸ hw))
  · exact hheard ▸ houtbox ▸ h.said
  · exact hheard ▸ houtbox ▸ h.meant (hwriting ▸ hw)

/-- A client that stops writing drops what waits. -/
theorem Held.stopWriting (h : Held c v) (hheard : c'.process.heard = c.process.heard)
    (houtbox : c'.outbox = []) (hwriting : c'.writing = false) : Held c' v := by
  refine ⟨fun _ => houtbox, ?_, fun hw => absurd (hwriting.symm.trans hw) (by simp)⟩
  have hsaid := h.said
  rw [words_append] at hsaid
  rw [hheard, houtbox, List.append_nil]
  exact (List.prefix_append ..).trans hsaid

/-- A message is put into the outbox as long as the client writes. -/
theorem Held.push (h : Held c v) (m : Json) : Held (c.push m) (v ++ words [m]) := by
  unfold Client.push
  split
  next hw =>
    have hmeant : words (c.process.heard ++ (c.outbox ++ [m])) = v ++ words [m] := by
      rw [← List.append_assoc, words_append, h.meant hw]
    exact ⟨fun hw' => absurd (hw.symm.trans hw') (by simp), hmeant ▸ List.prefix_rfl,
      fun _ => hmeant⟩
  next hw =>
    exact ⟨h.silent, h.said.trans (List.prefix_append ..), fun hw' => absurd hw' hw⟩

/-- An answer put into the outbox leaves the words as they are. -/
theorem Held.push_answer (h : Held c v) (hm : Message.isNamed m = false) : Held (c.push m) v := by
  have hpush := h.push m
  rwa [words_answer hm, List.append_nil] at hpush

/-- Acting on a frame adds answers only. -/
theorem Held.act (h : Held c v) (s : Site) {o : Outcome}
    (ho : ∀ answer, o = .answered answer → Message.isNamed answer = false) :
    Held (c.act s o).1 v := by
  cases o with
  | answered answer => exact h.push_answer (ho answer rfl)
  | _ => exact h.congr rfl rfl rfl

/-- What a frame is answered with names no method. -/
theorem isNamed_of_answered {r : Receiver} {frame answer : Json}
    (h : (r.handle frame).1 = .answered answer) : Message.isNamed answer = false := by
  obtain ⟨id, method, params, -, rfl⟩ := Receiver.handle_answered_iff.1 h
  exact Receiver.isNamed_answerTo ..

/-- **Whatever happens between a client and its server, the client means to say the same.** -/
theorem Move.held (h : Move p q) (hp : Held p.1 v) : Held q.1 v := by
  cases h with
  | tell s houtbox =>
    refine ⟨fun hw => absurd (houtbox ▸ hp.silent hw) (by simp), ?_, fun hw => ?_⟩
    · simpa [houtbox, Process.hear] using hp.said
    · simpa [houtbox, Process.hear] using hp.meant hw
  | lose => exact hp.stopWriting rfl rfl rfl
  | @receive c s frame rest =>
    exact Held.act (c := { c with receiver := (c.receiver.handle frame).2, unread := rest })
      (hp.congr rfl rfl rfl) _ fun answer => isNamed_of_answered
  | complain | finish | halt => exact hp.congr rfl rfl rfl

/-- Moves of a client leave the words it has sent as they are. -/
theorem Moves.held (h : Moves p q) (hp : Held p.1 v) : Held q.1 v := by
  induction h with
  | refl => exact hp
  | tail _ h ih => exact h.held ih

/-! ### What is in the journal -/

/-- What has passed between a client and its server is in the journal, each message that has
been heard was due, and each that waits is due behind those ahead of it.  Each delivery is a
response that has been read. -/
structure Recorded (c : Client) (s : Site) : Prop where
  heard_eq : c.process.heard = messages (s.passages c.session)
  grounded : Grounded (s.passages c.session)
  due : ∀ front m back, c.outbox = front ++ m :: back →
    Due (s.passages c.session ++ front.map .heard) m
  delivered : ∀ d ∈ c.delivered,
    Note.read d.2 ∈ s.passages c.session ∧ Receiver.Answers d.2 d.1

/-- What is recorded of a client depends on no more than these. -/
theorem Recorded.congr {s' : Site} (h : c.Recorded s) (hsession : c'.session = c.session)
    (hheard : c'.process.heard = c.process.heard) (houtbox : c'.outbox = c.outbox)
    (hdelivered : c'.delivered ⊆ c.delivered)
    (hpassages : s'.passages c.session = s.passages c.session) : c'.Recorded s' := by
  obtain ⟨hheard', hgrounded, hdue, hdeliveries⟩ := h
  rw [← hpassages, ← hsession] at hheard' hgrounded hdue hdeliveries
  exact ⟨hheard.trans hheard', hgrounded, fun front m back h => hdue front m back (houtbox ▸ h),
    fun d hd => hdeliveries d (hdelivered hd)⟩

/-- A message that is due may be put into the outbox. -/
theorem Recorded.push (h : c.Recorded s)
    (hdue : c.writing = true → Due (s.passages c.session ++ c.outbox.map .heard) m) :
    (c.push m).Recorded s := by
  unfold Client.push
  split
  next hw =>
    refine ⟨h.heard_eq, h.grounded, fun front m' back hsplit => ?_, h.delivered⟩
    rcases History.split_concat hsplit with ⟨rfl, rfl, -⟩ | ⟨rest, hrest, -⟩
    · exact hdue hw
    · exact h.due front m' rest hrest
  · exact h

/-- A frame has been read and is acted on. -/
theorem Recorded.act (h : c.Recorded s) {frame : Json} {rest : Bytes} :
    (act { c with receiver := (c.receiver.handle frame).2, unread := rest }
        (s.note c.session c.process.program (.read frame)) (c.receiver.handle frame).1).1.Recorded
      (act { c with receiver := (c.receiver.handle frame).2, unread := rest }
        (s.note c.session c.process.program (.read frame)) (c.receiver.handle frame).1).2 := by
  have hsession := (c.receiver.handle_scope frame).1
  let c₁ : Client := { c with receiver := (c.receiver.handle frame).2, unread := rest }
  let s₁ : Site := s.note c.session c.process.program (.read frame)
  have hpassages : s₁.passages c₁.session = s.passages c.session ++ [.read frame] :=
    (congrArg s₁.passages hsession).trans Site.passages_note_self
  have hread : Note.read frame ∈ s₁.passages c₁.session := hpassages ▸ by simp
  have h₁ : c₁.Recorded s₁ := by
    refine ⟨?_, ?_, fun front m back hsplit => ?_, fun d hd => ?_⟩
    · rw [hpassages, messages_append, messages_read, List.append_nil]
      exact h.heard_eq
    · rw [hpassages]
      exact h.grounded.concat (by simp)
    · rw [hpassages]
      exact (h.due front m back hsplit).mono (by simp [List.subset_def]; tauto)
    · obtain ⟨hmem, hanswers⟩ := h.delivered d hd
      exact ⟨hpassages ▸ List.mem_append_left _ hmem, hanswers⟩
  change (c₁.act s₁ (c.receiver.handle frame).1).1.Recorded
    (c₁.act s₁ (c.receiver.handle frame).1).2
  cases ho : (c.receiver.handle frame).1 with
  | delivered id body =>
    obtain ⟨rfl, hanswers, -⟩ := Receiver.handle_delivered_iff.1 ho
    refine ⟨h₁.heard_eq, h₁.grounded, h₁.due, fun d hd => ?_⟩
    rcases List.mem_append.1 hd with hd | hd
    · exact h₁.delivered d hd
    · exact List.mem_singleton.1 hd ▸ ⟨hread, hanswers⟩
  | answered answer =>
    obtain ⟨id, method, params, hclass, rfl⟩ := Receiver.handle_answered_iff.1 ho
    exact h₁.push fun _ => due_answer (List.mem_append_left _ hread) hclass
  | published e => exact h₁.congr rfl rfl rfl (List.Subset.refl _) rfl
  | logged level message => exact h₁.congr rfl rfl rfl (List.Subset.refl _) rfl
  | ignored => exact h₁

/-- **Whatever happens between a client and its server is recorded.** -/
theorem Move.recorded (h : Move p q) (hp : p.1.Recorded p.2) : q.1.Recorded q.2 := by
  cases h with
  | complain c s =>
    exact hp.congr rfl rfl rfl (List.Subset.refl _) (Site.passages_congr (Site.journal_logAll ..) _)
  | @tell c s m rest houtbox =>
    have hpassages : (s.note c.session c.process.program (.heard m)).passages c.session =
        s.passages c.session ++ [.heard m] := s.passages_note_self
    refine ⟨?_, ?_, fun front m' back hsplit => ?_, fun d hd => ?_⟩
    · change c.process.heard ++ [m] = _
      rw [hp.heard_eq]
      exact (congrArg messages hpassages).symm ▸ by simp
    · refine hpassages ▸ hp.grounded.concat fun m' hm' => ?_
      have hdue := hp.due [] m rest houtbox
      rw [List.map_nil, List.append_nil] at hdue
      exact Note.heard.inj hm' ▸ hdue
    · have hdue := hp.due (m :: front) m' back (by rw [houtbox]; exact congrArg (m :: ·) hsplit)
      exact hdue.mono (hpassages ▸ by simp)
    · obtain ⟨hmem, hanswers⟩ := hp.delivered d hd
      exact ⟨hpassages ▸ List.mem_append_left _ hmem, hanswers⟩
  | lose => exact ⟨hp.heard_eq, hp.grounded, fun front m back h => absurd h (by simp), hp.delivered⟩
  | receive => exact hp.act
  | finish | halt => exact hp.congr rfl rfl rfl (List.Subset.refl _) rfl

/-- What a client hears and is sent stays due over its moves. -/
theorem Moves.recorded (h : Moves p q) (hp : p.1.Recorded p.2) : q.1.Recorded q.2 := by
  induction h with
  | refl => exact hp
  | tail _ h ih => exact h.recorded ih

/-- Whatever a client does, the journal grows by what passes in its own session. -/
theorem Act.adds (h : Act p q) : Site.Adds p.1.session p.2 q.2 := by
  cases h with
  | move h =>
    cases h with
    | complain c s => exact .of_eq (Site.journal_logAll ..)
    | tell s => exact Site.adds_note ..
    | @receive c s frame rest =>
      refine (Site.adds_note s c.session c.process.program (.read frame)).trans (.of_eq ?_)
      cases (c.receiver.handle frame).1 <;> rfl
    | lose | finish | halt => exact .of_eq rfl
  | _ => exact .of_eq rfl

/-- Whatever a client does, it stays of its session. -/
theorem Acts.session_eq (h : Acts p q) : q.1.session = p.1.session := by
  obtain ⟨left, hleaves⟩ := h.leads
  exact session_eq_of_charge hleaves.charge_eq

/-- Whatever a client does adds to the journal of its session alone. -/
theorem Acts.adds (h : Acts p q) : Site.Adds p.1.session p.2 q.2 := by
  induction h with
  | refl => exact .of_eq rfl
  | tail hfirst h ih => exact ih.trans (Acts.session_eq hfirst ▸ h.adds)

/-! ### Requests -/

variable {method : String} {params : Option Json} {id patience : Nat}

/-- A message is said: it is heard some time, if writing goes on until then. -/
theorem held_send (h : Held c v) (s : Site) (m : Json) :
    Held (c.send s m).2.1 (v ++ words [m]) := by
  have hpush := ((moves_makeRoom c s).held h).push m
  unfold send
  dsimp only
  split
  · exact hpush
  next hw =>
    rw [Client.push, if_neg hw] at hpush
    exact hpush

/-- A message that is due when there is room for it may be sent. -/
theorem recorded_send (h : c.Recorded s)
    (hdue : (c.makeRoom s).1.writing = true →
      Due ((c.makeRoom s).2.passages c.session ++ (c.makeRoom s).1.outbox.map .heard) m) :
    (c.send s m).2.1.Recorded (c.send s m).2.2 := by
  have hroom := moves_makeRoom c s
  have hsession : (c.makeRoom s).1.session = c.session := (Acts.of_moves hroom).session_eq
  have hrecorded := hroom.recorded h
  unfold send
  dsimp only
  split
  · exact hrecorded.push (hsession.symm ▸ hdue)
  · exact hrecorded

/-- A client has asked something of its server and counted the request. -/
structure Requested (c : Client) (v : List Json) (method : String) (params : Option Json)
    (c' : Client) : Prop where
  held : Held c' (v ++ [Message.request c.nextId method params])
  documents_eq : c'.documents = c.documents
  nextId_lt : c.nextId < c'.nextId

/-- A request is counted, and asked if the client has not ended. -/
theorem held_ask (h : Held c v) (s : Site) (method : String) (params : Option Json) :
    (∃ fault, c.ask s method params = (.error fault, c, s)) ∨
      Requested c v method params (c.ask s method params).2.1 ∧
        ∀ id, (c.ask s method params).1 = .ok id → id = c.nextId := by
  unfold ask
  split
  · exact .inl ⟨_, rfl⟩
  refine .inr ?_
  let counted : Client :=
    { c with nextId := c.nextId + 1, receiver := c.receiver.expect c.nextId }
  have hcounted : Held counted v := h.congr rfl rfl rfl
  have hheld := held_send hcounted s (Message.request c.nextId method params)
  rw [words_named (Message.isNamed_request ..)] at hheld
  have hgoes := (acts_send counted s (Message.request c.nextId method params)).goes
  dsimp only
  split
  next heq =>
    rw [heq] at hheld hgoes
    exact ⟨⟨hheld, hgoes.documents_eq, hgoes.nextId_le⟩, fun i hi => (Except.ok.inj hi).symm⟩
  next heq =>
    rw [heq] at hheld hgoes
    exact ⟨⟨hheld.congr rfl rfl rfl, hgoes.documents_eq, hgoes.nextId_le⟩,
      fun i hi => absurd hi (by simp)⟩

/-- A request of any method may be sent, those that end or open the talk apart. -/
theorem recorded_ask (h : c.Recorded s) (params : Option Json)
    (hmethod : method ≠ "initialized" ∧ method ≠ "exit") :
    (c.ask s method params).2.1.Recorded (c.ask s method params).2.2 := by
  unfold ask
  split
  · exact h
  have hsend := recorded_send (c := { c with
      nextId := c.nextId + 1, receiver := c.receiver.expect c.nextId })
    (h.congr rfl rfl rfl (List.Subset.refl _) rfl)
    fun _ => due_word _ (Message.method_request c.nextId method params) hmethod
  dsimp only
  split
  next heq =>
    rw [heq] at hsend
    exact hsend
  next heq =>
    rw [heq] at hsend
    exact hsend.congr rfl rfl rfl (List.Subset.refl _) rfl

/-- Waiting for an answer adds no word. -/
theorem held_await (h : Held c v) (s : Site) (id : Nat) (method : String) (patience : Nat) :
    Held (c.await s id method patience).2.1 v := by
  unfold await
  split
  · exact h.congr rfl rfl rfl
  have hturns := (moves_takeTurns (fun c => (c.answer? id).isSome) patience _ _).held
    ((Move.complain c s).held h)
  dsimp only
  split
  · exact hturns.congr rfl rfl rfl
  · exact hturns.congr rfl rfl rfl

/-- An answer that is found has been delivered. -/
theorem mem_of_answer? {body : Json} (h : c.answer? id = some body) :
    (id, body) ∈ c.delivered := by
  obtain ⟨front, back, hsplit, -⟩ := List.lookup_eq_some_iff.1 h
  exact hsplit ▸ List.mem_append_right _ (List.mem_cons_self ..)

/-- An answer that a client has waited for has been read. -/
theorem recorded_await (h : c.Recorded s) (id : Nat) (method : String) (patience : Nat) :
    (c.await s id method patience).2.1.Recorded (c.await s id method patience).2.2 ∧
      ∀ response, (c.await s id method patience).1 = .ok response →
        Note.read response ∈ (c.await s id method patience).2.2.passages c.session ∧
          Receiver.Answers response id := by
  have hsession := (acts_await c s id method patience).session_eq
  rw [← hsession]
  unfold await
  split
  · exact ⟨h.congr rfl rfl rfl (List.Subset.refl _) rfl, fun response hr => absurd hr (by simp)⟩
  have hturns := (moves_takeTurns (fun c => (c.answer? id).isSome) patience _ _).recorded
    ((Move.complain c s).recorded h)
  dsimp only
  split
  next body hbody =>
    refine ⟨hturns.congr rfl rfl rfl (fun d hd => List.mem_of_mem_filter hd) rfl,
      fun response hr => ?_⟩
    obtain rfl := Except.ok.inj hr
    exact hturns.delivered _ (mem_of_answer? hbody)
  · exact ⟨hturns.congr rfl rfl rfl (List.Subset.refl _) rfl,
      fun response hr => absurd hr (by simp)⟩

/-- A request that is waited for. -/
theorem held_request (h : Held c v) (s : Site) (method : String) (params : Option Json)
    (patience : Nat) :
    (∃ fault, c.request s method params patience = (.error fault, c, s)) ∨
      Requested c v method params (c.request s method params patience).2.1 := by
  unfold request
  rcases held_ask h s method params with ⟨fault, hask⟩ | ⟨hrequested, hok⟩
  · rw [hask]
    exact .inl ⟨fault, rfl⟩
  · refine .inr ?_
    generalize c.ask s method params = p at *
    obtain ⟨r, c', s'⟩ := p
    cases r with
    | error fault => exact hrequested
    | ok id =>
      have hgoes := (acts_await c' s' id method patience).goes
      exact ⟨held_await hrequested.held s' id method patience,
        hgoes.documents_eq.trans hrequested.documents_eq,
        hrequested.nextId_lt.trans_le hgoes.nextId_le⟩

/-- A request that comes back with an answer has had that answer read. -/
theorem recorded_request (h : c.Recorded s) (params : Option Json) (patience : Nat)
    (hmethod : method ≠ "initialized" ∧ method ≠ "exit") :
    (c.request s method params patience).2.1.Recorded (c.request s method params patience).2.2 ∧
      ∀ response, (c.request s method params patience).1 = .ok response →
        Note.read response ∈ (c.request s method params patience).2.2.passages c.session ∧
          Receiver.Answers response c.nextId := by
  have hrecorded := recorded_ask h params hmethod
  have hsession := (acts_ask c s method params).session_eq
  have hid : ∀ id, (c.ask s method params).1 = .ok id → id = c.nextId := by
    intro id hok
    unfold ask at hok
    dsimp only at hok
    split at hok
    · exact absurd hok (by simp)
    · split at hok
      · exact (Except.ok.inj hok).symm
      · exact absurd hok (by simp)
  unfold request
  generalize c.ask s method params = p at *
  obtain ⟨r, c', s'⟩ := p
  cases r with
  | error fault => exact ⟨hrecorded, fun response hr => absurd hr (by simp)⟩
  | ok id =>
    obtain rfl := hid id rfl
    dsimp only at hsession
    rw [← hsession]
    exact recorded_await hrecorded c.nextId method patience

/-- What a client has asked for and been granted. -/
theorem granted_of_read (hheld : Held c v) (hrecorded : c.Recorded s) (hw : c.writing = true)
    (hrequest : Message.request id method params ∈ v) {response : Json}
    (hread : Note.read response ∈ s.passages c.session) (hanswers : Receiver.Answers response id)
    (hgood : response.member? "error" = none) :
    Granted (s.passages c.session ++ c.outbox.map .heard) method := by
  have hmem : Message.request id method params ∈ c.process.heard ++ c.outbox :=
    (List.mem_filter.1 (hheld.meant hw ▸ hrequest)).1
  refine ⟨id, params, response, ?_, List.mem_append_left _ hread, hanswers, hgood⟩
  rcases List.mem_append.1 hmem with hmem | hmem
  · exact List.mem_append_left _ (heard_mem (hrecorded.heard_eq ▸ hmem))
  · exact List.mem_append_right _ (List.mem_map_of_mem hmem)

end Client
end Switchboard
