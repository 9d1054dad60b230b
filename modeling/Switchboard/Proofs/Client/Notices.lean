/-
# What a server is told of one document

Texts and closings come for many documents in any order.  What the server is told of one
of them comes in rounds (`DocumentCall.Rounds.notices`): the first text of a round opens
the document with version one, each further text changes it with the next version, and
closing the document ends the round.  Closing it when no round is going on is passed over
in silence.  The rounds of a document are told from the calls for it alone
(`DocumentCall.rounds`), and the open documents agree with them (`Documents.Keeps`).
-/

import Switchboard.Proofs.Client.Conversation

namespace Switchboard

/-! ### Notifications about a document -/

namespace Message

/-- The document that a notification is about.  A notification names a method and has no id. -/
def subject? (m : Json) : Option String :=
  if isNamed m && (m.member? "id").isNone then
    (((m.member? "params").bind (Json.member? "textDocument")).bind (Json.member? "uri")).bind
      Json.text?
  else none

/-- The text that a notification about a document carries. -/
def text? (m : Json) : Option String :=
  match (m.member? "params").bind (Json.member? "contentChanges") with
  | some (.arr [change]) => (change.member? "text").bind Json.text?
  | _ => (((m.member? "params").bind (Json.member? "textDocument")).bind
      (Json.member? "text")).bind Json.text?

/-- The notifications about a document among messages. -/
def notices (uri : String) (ms : List Json) : List Json :=
  ms.filter fun m => subject? m == some uri

/-- The notices among two rows of messages are those among the one and those among the other. -/
theorem notices_append (uri : String) (ms ns : List Json) :
    notices uri (ms ++ ns) = notices uri ms ++ notices uri ns := List.filter_append ..

/-- Answers are no notifications. -/
theorem notices_words (uri : String) (ms : List Json) :
    notices uri (Exchange.words ms) = notices uri ms := by
  unfold notices Exchange.words
  rw [List.filter_filter]
  refine List.filter_congr fun m _ => ?_
  cases h : isNamed m with
  | true => rw [Bool.and_true]
  | false => rw [Bool.and_false, subject?, h]; rfl

/-- A message about a URI is a notice for that URI and for no other. -/
theorem notices_of_subject {uri uri' : String} {m : Json} (h : subject? m = some uri') :
    notices uri [m] = if uri' = uri then [m] else [] := by
  rw [notices, List.filter_singleton, h]
  simp

/-- A message about no URI is a notice for none. -/
theorem notices_of_none {m : Json} (uri : String) (h : subject? m = none) :
    notices uri [m] = [] := by
  rw [notices, List.filter_singleton, h]
  rfl

/-- An open is about the URI it names. -/
@[simp] theorem subject?_didOpen (uri language : String) (version : Int) (text : String) :
    subject? (notification "textDocument/didOpen" (some (didOpen uri language version text))) =
      some uri := by
  simp [subject?, didOpen, Json.member?_ofMembers, Json.text?]

/-- A change is about the URI it names. -/
@[simp] theorem subject?_didChange (uri : String) (version : Int) (text : String) :
    subject? (notification "textDocument/didChange" (some (didChange uri version text))) =
      some uri := by
  simp [subject?, didChange, Json.member?_ofMembers, Json.text?]

/-- A close is about the URI it names. -/
@[simp] theorem subject?_didClose (uri : String) :
    subject? (notification "textDocument/didClose" (some (didClose uri))) = some uri := by
  simp [subject?, didClose, Json.member?_ofMembers, Json.text?]

/-- An open carries the text. -/
@[simp] theorem text?_didOpen (uri language : String) (version : Int) (text : String) :
    text? (notification "textDocument/didOpen" (some (didOpen uri language version text))) =
      some text := by
  simp [text?, didOpen, Json.member?_ofMembers, Json.text?]

/-- A change carries the text. -/
@[simp] theorem text?_didChange (uri : String) (version : Int) (text : String) :
    text? (notification "textDocument/didChange" (some (didChange uri version text))) =
      some text := by
  simp [text?, didChange, Json.member?_ofMembers, Json.text?]

/-- A close carries no text. -/
@[simp] theorem text?_didClose (uri : String) :
    text? (notification "textDocument/didClose" (some (didClose uri))) = none := by
  simp [text?, didClose, Json.member?_ofMembers]

/-- Requests are no notifications. -/
theorem subject?_request (id : Nat) (method : String) (params : Option Json) :
    subject? (request id method params) = none := by
  simp [subject?]

end Message

/-! ### Calls and rounds -/

/-- Something that a client is asked to do with a document. -/
inductive DocumentCall where
  | sync (uri language text : String)
  | close (uri : String)
  deriving DecidableEq, Repr

namespace DocumentCall

/-- The document of a call. -/
def uri : DocumentCall → String
  | .sync uri _ _ => uri
  | .close uri => uri

/-- The text that a call brings. -/
def text? : DocumentCall → Option String
  | .sync _ _ text => some text
  | .close _ => none

/-- A text and its language. -/
structure Draft where
  language : String
  text : String
  deriving DecidableEq, Repr

/-- The notification about text number `i` of a round, counted from zero. -/
def revision (uri : String) (i : Nat) (d : Draft) : Json :=
  if i = 0 then
    Message.notification "textDocument/didOpen" (some (Message.didOpen uri d.language 1 d.text))
  else Message.notification "textDocument/didChange"
    (some (Message.didChange uri (i + 1 : Nat) d.text))

/-- The notification that ends a round. -/
def closing (uri : String) : Json :=
  Message.notification "textDocument/didClose" (some (Message.didClose uri))

/-- The notifications about the texts of a round. -/
def round (uri : String) (drafts : List Draft) : List Json := drafts.mapIdx (revision uri)

/-- The rounds of a document: those that have ended, and the texts of the one that is going
on, none if there is none. -/
structure Rounds where
  ended : List (List Draft)
  current : List Draft
  deriving DecidableEq, Repr

namespace Rounds

/-- A text joins the round that is going on, and closing the document ends it. -/
def take (r : Rounds) : DocumentCall → Rounds
  | .sync _ language text => { r with current := r.current ++ [⟨language, text⟩] }
  | .close _ => if r.current = [] then r else ⟨r.ended ++ [r.current], []⟩

/-- The notifications about a document in rounds. -/
def notices (uri : String) (r : Rounds) : List Json :=
  r.ended.flatMap (fun drafts => round uri drafts ++ [closing uri]) ++ round uri r.current

/-- The version of the last text of the round that is going on. -/
def version? (r : Rounds) : Option Nat :=
  if r.current = [] then none else some r.current.length

end Rounds

/-- A draft more is a version more. -/
theorem Rounds.version?_sync (r : Rounds) (uri language text : String) :
    (r.take (.sync uri language text)).version? = some (r.current.length + 1) := by
  rw [version?, take, if_neg (by simp), List.length_append, List.length_singleton]

/-- After a close there is no version. -/
theorem Rounds.version?_close (r : Rounds) (uri : String) :
    (r.take (.close uri)).version? = none := by
  rw [take]
  split
  next h => rw [version?, if_pos h]
  next => rfl

/-- The rounds that calls make of a document. -/
def rounds (uri : String) (calls : List DocumentCall) : Rounds :=
  (calls.filter fun call => call.uri == uri).foldl Rounds.take ⟨[], []⟩

/-- The texts that calls bring for a document. -/
def texts (uri : String) (calls : List DocumentCall) : List String :=
  (calls.filter fun call => call.uri == uri).filterMap text?

variable {uri : String} {calls : List DocumentCall} {call : DocumentCall}

/-- A call goes on with the rounds of its own URI only. -/
theorem rounds_concat (uri : String) (calls : List DocumentCall) (call : DocumentCall) :
    rounds uri (calls ++ [call]) =
      if call.uri = uri then (rounds uri calls).take call else rounds uri calls := by
  unfold rounds
  rw [List.filter_append, List.foldl_append, List.filter_singleton]
  split
  next h => rw [beq_iff_eq.2 h]; rfl
  next h => rw [beq_eq_false_iff_ne.2 h]; rfl

/-- Rounds hold some text, and together all texts in their order. -/
theorem rounds_spec (uri : String) (calls : List DocumentCall) :
    [] ∉ (rounds uri calls).ended ∧
      ((rounds uri calls).ended.flatten ++ (rounds uri calls).current).map Draft.text =
        texts uri calls := by
  unfold rounds texts
  generalize calls.filter (fun call => call.uri == uri) = calls
  induction calls using List.reverseRecOn with
  | nil => exact ⟨List.not_mem_nil, rfl⟩
  | append_singleton calls call ih =>
    obtain ⟨hended, htexts⟩ := ih
    rw [List.foldl_append, List.filterMap_append, ← htexts]
    generalize calls.foldl Rounds.take ⟨[], []⟩ = r at hended
    cases call with
    | sync _ language text =>
      refine ⟨hended, ?_⟩
      simp [Rounds.take, text?]
    | close _ =>
      simp only [List.foldl_cons, List.foldl_nil, Rounds.take]
      split
      · exact ⟨hended, by simp [text?]⟩
      next hcurrent =>
        refine ⟨fun h => ?_, by simp [text?]⟩
        rcases List.mem_append.1 h with h | h
        · exact hended h
        · exact hcurrent (List.mem_singleton.1 h).symm

/-! ### What the notifications say -/

/-- A revision carries the text of its draft. -/
theorem text?_revision (uri : String) (i : Nat) (d : Draft) :
    Message.text? (revision uri i d) = some d.text := by
  unfold revision
  split <;> simp

/-- The texts of a round are those of its drafts, in order. -/
theorem filterMap_text?_round (uri : String) (drafts : List Draft) :
    (round uri drafts).filterMap Message.text? = drafts.map Draft.text := by
  induction drafts using List.reverseRecOn with
  | nil => rfl
  | append_singleton drafts d ih =>
    rw [round, List.mapIdx_concat, List.filterMap_append, List.map_append]
    exact congrArg₂ _ ih (by simp [text?_revision])

/-- The texts of notifications in rounds are those of the rounds. -/
theorem Rounds.filterMap_text?_notices (uri : String) (r : Rounds) :
    (r.notices uri).filterMap Message.text? = (r.ended.flatten ++ r.current).map Draft.text := by
  unfold notices
  rw [List.filterMap_append, filterMap_text?_round, List.map_append, List.map_flatten,
    List.filterMap_flatMap, List.flatMap_def]
  simp [filterMap_text?_round, closing]

/-- What closes a round is a close. -/
theorem method_closing (uri : String) :
    (closing uri).member? "method" = some (.str "textDocument/didClose") :=
  Message.method_notification ..

/-- No revision is a close. -/
theorem method_revision_ne (uri : String) (i : Nat) (d : Draft) :
    (revision uri i d).member? "method" ≠ some (.str "textDocument/didClose") := by
  unfold revision
  split <;> simp

/-- A round is going on when the last notification is there and does not close the document. -/
theorem Rounds.current_ne_nil_iff (uri : String) (r : Rounds) :
    r.current ≠ [] ↔ ∃ m, (r.notices uri).getLast? = some m ∧
      m.member? "method" ≠ some (.str "textDocument/didClose") := by
  obtain ⟨ended, current⟩ := r
  unfold notices
  dsimp only
  rcases List.eq_nil_or_concat current with rfl | ⟨drafts, d, rfl⟩
  · rw [round, List.mapIdx_nil, List.append_nil]
    refine iff_of_false (fun h => h rfl) ?_
    rintro ⟨m, hm, hmethod⟩
    rcases List.eq_nil_or_concat ended with rfl | ⟨earlier, drafts, rfl⟩
    · exact absurd hm (by simp)
    · simp only [List.concat_eq_append, List.flatMap_append, List.flatMap_singleton,
        ← List.append_assoc, List.getLast?_concat, Option.some.injEq] at hm
      exact hmethod (hm ▸ method_closing uri)
  · rw [List.concat_eq_append, round, List.mapIdx_concat, ← List.append_assoc]
    exact iff_of_true (by simp) ⟨_, List.getLast?_concat .., method_revision_ne uri drafts.length d⟩

/-! ### One more call -/

/-- One more synchronisation is one more revision, for its own URI. -/
theorem notices_sync (uri u language text : String) (calls : List DocumentCall) :
    (rounds u (calls ++ [.sync uri language text])).notices u = (rounds u calls).notices u ++
      if uri = u then [revision u (rounds u calls).current.length ⟨language, text⟩] else [] := by
  rw [rounds_concat, DocumentCall.uri]
  split
  · rw [Rounds.notices, Rounds.take, round, List.mapIdx_concat, ← List.append_assoc]
    rfl
  · rw [List.append_nil]

/-- A close ends the round of its own URI if one is open, and says nothing otherwise. -/
theorem notices_close (uri u : String) (calls : List DocumentCall) :
    (rounds u (calls ++ [.close uri])).notices u = (rounds u calls).notices u ++
      if uri = u ∧ (rounds u calls).current ≠ [] then [closing u] else [] := by
  rw [rounds_concat, DocumentCall.uri]
  split
  next h =>
    rw [Rounds.take]
    split
    next hcurrent => rw [if_neg fun h => h.2 hcurrent, List.append_nil]
    next hcurrent =>
      rw [if_pos ⟨h, hcurrent⟩, Rounds.notices, Rounds.notices, List.flatMap_append,
        List.flatMap_singleton, ← List.append_assoc]
      exact List.append_nil _
  next h => rw [if_neg fun hu => h hu.1, List.append_nil]

end DocumentCall

/-! ### The documents that are open -/

open DocumentCall

namespace Documents

variable {d : Documents} {v : List Json} {calls : List DocumentCall} {uri : String}

/-- Documents keep to calls: what has been said of each comes in its rounds, and it is open at
the version of the last text of the round that is going on. -/
structure Keeps (d : Documents) (v : List Json) (calls : List DocumentCall) : Prop where
  notices_eq : ∀ uri, Message.notices uri v = (rounds uri calls).notices uri
  version_eq : ∀ uri, (d.find? uri).map OpenDocument.version = (rounds uri calls).version?

/-- A document is open when a round is going on. -/
theorem Keeps.isOpen_iff (h : d.Keeps v calls) (uri : String) :
    d.isOpen uri = true ↔ (rounds uri calls).current ≠ [] := by
  rw [isOpen, ← Option.isSome_map (f := OpenDocument.version), h.version_eq, Rounds.version?]
  split <;> simp_all

/-- A document is not open, or at the version of the last text. -/
theorem Keeps.find?_cases (h : d.Keeps v calls) (uri : String) :
    d.find? uri = none ∧ (rounds uri calls).current = [] ∨
      ∃ doc, d.find? uri = some doc ∧ (rounds uri calls).current.length ≠ 0 ∧
        doc.version = (rounds uri calls).current.length := by
  have hversion := h.version_eq uri
  rw [Rounds.version?] at hversion
  split at hversion
  next hcurrent => exact .inl ⟨Option.map_eq_none_iff.1 hversion, hcurrent⟩
  next hcurrent =>
    obtain ⟨doc, hdoc, heq⟩ := Option.map_eq_some_iff.1 hversion
    exact .inr ⟨doc, hdoc, fun hlen => hcurrent (List.length_eq_zero_iff.1 hlen), heq⟩

/-- What is said about a text is the next notification of its round. -/
theorem Keeps.sync_eq (h : d.Keeps v calls) (uri language text : String) :
    (d.sync uri language text).1 =
      revision uri (rounds uri calls).current.length ⟨language, text⟩ := by
  unfold sync revision
  obtain ⟨hnone, hcurrent⟩ | ⟨doc, hdoc, hlen, heq⟩ := h.find?_cases uri
  · rw [hnone, hcurrent]
    rfl
  · rw [hdoc, if_neg hlen, ← heq]

/-- With no document open and no notice sent there is nothing to keep to. -/
theorem keeps_empty (h : ∀ m ∈ v, Message.subject? m = none) : empty.Keeps v [] := by
  refine ⟨fun uri => List.filter_eq_nil_iff.2 fun m hm => ?_, fun _ => rfl⟩
  rw [h m hm]
  simp

/-- Saying something that is no notification about a document. -/
theorem Keeps.say {m : Json} (h : d.Keeps v calls) (hm : Message.subject? m = none) :
    d.Keeps (v ++ [m]) calls := by
  refine ⟨fun uri => ?_, h.version_eq⟩
  rw [Message.notices_append, Message.notices_of_none uri hm, List.append_nil, h.notices_eq]

/-- A synchronisation keeps the versions to the rounds. -/
theorem Keeps.sync (h : d.Keeps v calls) (uri language text : String) :
    (d.sync uri language text).2.Keeps (v ++ [(d.sync uri language text).1])
      (calls ++ [.sync uri language text]) := by
  refine ⟨fun u => ?_, fun u => ?_⟩
  · have hsubject : Message.subject? (d.sync uri language text).1 = some uri := by
      rw [h.sync_eq, revision]
      split <;> simp
    rw [Message.notices_append, h.notices_eq, notices_sync, Message.notices_of_subject hsubject]
    split
    next heq => rw [← heq, h.sync_eq]
    next => rfl
  · by_cases heq : uri = u
    · subst heq
      rw [find?_sync, if_pos rfl, rounds_concat, DocumentCall.uri, if_pos rfl,
        Rounds.version?_sync, Option.map_some]
      obtain ⟨hnone, hcurrent⟩ | ⟨doc, hdoc, -, hversion⟩ := h.find?_cases uri
      · rw [hnone, hcurrent]
        rfl
      · rw [hdoc, ← hversion]
        rfl
    · rw [find?_sync, if_neg (Ne.symm heq), rounds_concat, DocumentCall.uri, if_neg heq,
        h.version_eq]

/-- After a close the version held is the one the rounds tell. -/
theorem Keeps.version_close (h : d.Keeps v calls) (uri u : String) :
    ((d.close uri).2.find? u).map OpenDocument.version =
      (rounds u (calls ++ [.close uri])).version? := by
  by_cases heq : uri = u
  · subst heq
    rw [find?_close, if_pos rfl, rounds_concat, DocumentCall.uri, if_pos rfl,
      Rounds.version?_close]
    rfl
  · rw [find?_close, if_neg (Ne.symm heq), rounds_concat, DocumentCall.uri, if_neg heq,
      h.version_eq]

/-- A document that is open is closed with a notification. -/
theorem Keeps.close (h : d.Keeps v calls) (hopen : d.isOpen uri = true) :
    (d.close uri).2.Keeps (v ++ [closing uri]) (calls ++ [.close uri]) := by
  refine ⟨fun u => ?_, h.version_close uri⟩
  have hsubject : Message.subject? (closing uri) = some uri := Message.subject?_didClose uri
  rw [Message.notices_append, h.notices_eq, notices_close, Message.notices_of_subject hsubject]
  by_cases heq : uri = u
  · subst heq
    rw [if_pos rfl, if_pos ⟨rfl, (h.isOpen_iff uri).1 hopen⟩]
  · rw [if_neg heq, if_neg fun hu => heq hu.1]

/-- A document that is not open is closed in silence. -/
theorem Keeps.pass (h : d.Keeps v calls) (hclosed : ¬ d.isOpen uri = true) :
    d.Keeps v (calls ++ [.close uri]) := by
  refine ⟨fun u => ?_, fun u => ?_⟩
  · rw [h.notices_eq, notices_close, if_neg, List.append_nil]
    rintro ⟨rfl, hcurrent⟩
    exact hclosed ((h.isOpen_iff uri).2 hcurrent)
  · have hsame : (d.close uri).2 = d := by rw [Documents.close, if_neg hclosed]
    rw [← h.version_close, hsame]

end Documents
end Switchboard
