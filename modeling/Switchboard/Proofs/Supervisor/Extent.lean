/-
# How far a request for code actions reaches

Who asks for code actions over all of a document names a range: from the first place of
the document to the start of the line whose number was kept from the last text that the
server has been told (`Client.codeAction_reaches`).  That number is one more than the lines
that line feeds make of the text.  So the range takes in the whole text as long as at most
one carriage return stands alone in it, and also when there are two and the text ends with
one of them (`Place.within_lineCount_iff`); with more of them its end is left out
(`Client.codeAction_falls_short`).
-/

import Switchboard.Proofs.Client.Answers
import Switchboard.Proofs.Supervisor.Notified
import Switchboard.Proofs.Text.Places

namespace Switchboard

open Exchange Utterance DocumentCall

/-! ### A text and the number that is kept of it -/

namespace Place

/-- No place comes before the origin. -/
theorem origin_le (p : Place) : origin ≤ p := by
  rw [le_iff]
  dsimp only [origin]
  omega

/-- The number of lines of a text, the one that has not ended among them. -/
def lines (text : String) : Nat := (origin.stop text.toList).line + 1

/-- Whether a text can be spanned by the number of its line feeds alone: there is at most one
carriage return that stands alone, or there are two and the text ends with one of them. -/
def FewReturns (text : String) : Prop :=
  loneReturns text.toList ≤ 1 ∨
    loneReturns text.toList = 2 ∧ text.toList.getLast? = some '\r'

instance (text : String) : Decidable (FewReturns text) := inferInstanceAs (Decidable (_ ∨ _))

/-- **The start of the line with the number that is kept of a text lies behind the text**
exactly when few carriage returns stand alone in it, as long as its lines can be counted. -/
theorem within_lineCount_iff (text : String) (h : lines text ≤ Documents.maxLines) :
    (∀ p ∈ ofText text, p ≤ ⟨Documents.lineCount text, 0⟩) ↔ FewReturns text := by
  rw [ofText, forall_along_le_iff, le_iff, Documents.lineCount, Lines.ofString, List.length_map,
    FewReturns]
  rw [lines] at h
  generalize text.toList = cs at h ⊢
  have hmax : Documents.maxLines = 4294967295 := rfl
  have hline : (origin.stop cs).line = 0 + cs.count '\n' + loneReturns cs := line_stop origin cs
  have hcharacter : (origin.stop cs).character = 0 ↔ _ := character_stop_eq_zero_iff rfl
  have hlength := Lines.length_ofText cs
  rcases List.eq_nil_or_concat cs with rfl | ⟨front, last, rfl⟩
  · simp [loneReturns, stop, origin, hmax, Lines.ofText, Lines.segments]
  · rw [List.concat_eq_append] at *
    simp only [List.getLast?_concat, Option.some.injEq, forall_eq'] at hcharacter hlength ⊢
    -- With a line feed at its end a text has one line fewer, and stops at the start of a line.
    by_cases hfeed : last = '\n'
    · simp [hfeed] at hcharacter hlength hline h ⊢
      omega
    · by_cases hreturn : last = '\r'
      · simp [hreturn] at hcharacter hlength hline h ⊢
        omega
      · simp [hfeed, hreturn] at hcharacter hlength hline h ⊢
        omega

end Place

/-! ### Reading what was said -/

namespace Message

/-- A place in a message. -/
def place? (j : Json) : Option Place :=
  ((j.member? "line").bind (Json.word? 32)).bind fun line =>
    ((j.member? "character").bind (Json.word? 32)).map fun character => ⟨line, character⟩

/-- Where the range begins that a request is about, and where it ends. -/
def range? (m : Json) : Option (Place × Place) :=
  ((m.member? "params").bind (Json.member? "range")).bind fun range =>
    ((range.member? "start").bind place?).bind fun start =>
      ((range.member? "end").bind place?).map fun stop => (start, stop)

/-- The document that a request is about. -/
def target? (m : Json) : Option String :=
  (((m.member? "params").bind (Json.member? "textDocument")).bind (Json.member? "uri")).bind
    Json.text?

/-- The last text of a document among messages. -/
def lastText? (uri : String) (ms : List Json) : Option String :=
  ((notices uri ms).filterMap text?).getLast?

/-- Whether a message is a request for code actions. -/
def AsksForActions (m : Json) : Prop :=
  m.member? "method" = some (.str "textDocument/codeAction")

/-- A number up to the bound is a word. -/
theorem word?_ofNat {n : Nat} (h : n ≤ Documents.maxLines) : (Json.ofNat n).word? 32 = some n := by
  have hmax : Documents.maxLines = 4294967295 := rfl
  have hlimit : Json.wordLimit 32 = 4294967296 := rfl
  have hword : 0 ≤ (n : Int) ∧ (n : Int) < Json.wordLimit 32 := by omega
  rw [Json.ofNat, Json.word?, if_pos hword, Int.toNat_natCast]

/-- A position up to the bounds is read as that place. -/
theorem place?_position {line character : Nat} (hline : line ≤ Documents.maxLines)
    (hcharacter : character ≤ Documents.maxLines) :
    place? (position line character) = some ⟨line, character⟩ := by
  have hline' : (position line character).member? "line" = some (.ofNat line) := by
    simp [position, Json.member?_ofMembers]
  have hcharacter' : (position line character).member? "character" = some (.ofNat character) := by
    simp [position, Json.member?_ofMembers]
  rw [place?, hline', Option.bind_some, word?_ofNat hline, Option.bind_some, hcharacter',
    Option.bind_some, word?_ofNat hcharacter, Option.map_some]

/-- A request for code actions spans a document up to the start of a line. -/
theorem range?_codeAction (id : Nat) (uri : String) {endLine : Nat} (only : List String)
    (h : endLine ≤ Documents.maxLines) :
    range? (request id "textDocument/codeAction" (some (codeAction uri endLine only))) =
      some (.origin, ⟨endLine, 0⟩) := by
  let range := Json.ofMembers [("start", position 0 0), ("end", position endLine 0)]
  have hrange : ((request id "textDocument/codeAction" (some (codeAction uri endLine only))).member?
      "params").bind (Json.member? "range") = some range := by
    simp [codeAction, Json.member?_ofMembers, range]
  have hstart : range.member? "start" = some (position 0 0) := by
    simp [range, Json.member?_ofMembers]
  have hstop : range.member? "end" = some (position endLine 0) := by
    simp [range, Json.member?_ofMembers]
  have hzero : 0 ≤ Documents.maxLines := Nat.zero_le _
  rw [range?, hrange, Option.bind_some, hstart, Option.bind_some, place?_position hzero hzero,
    Option.bind_some, hstop, Option.bind_some, place?_position h hzero, Option.map_some,
    Place.origin]

/-- A request for code actions is about the document that it names. -/
theorem target?_codeAction (id : Nat) (uri : String) (endLine : Nat) (only : List String) :
    target? (request id "textDocument/codeAction" (some (codeAction uri endLine only))) =
      some uri := by
  simp [target?, codeAction, Json.member?_ofMembers, Json.text?]

/-- Answers carry no text. -/
theorem lastText?_words (uri : String) (ms : List Json) :
    lastText? uri (words ms) = lastText? uri ms := by
  rw [lastText?, notices_words, lastText?]

variable {uri : String} {v : List Json} {m : Json}

/-- A message with a text of a document carries its last text. -/
theorem lastText?_of_text {text : String} (hsubject : subject? m = some uri)
    (htext : text? m = some text) : lastText? uri (v ++ [m]) = some text := by
  rw [lastText?, notices_append, notices_of_subject hsubject, if_pos rfl, List.filterMap_append,
    List.filterMap_cons_some htext, List.filterMap_nil, List.getLast?_concat]

/-- Any other message leaves its last text as it is. -/
theorem lastText?_of_other (h : subject? m ≠ some uri ∨ text? m = none) :
    lastText? uri (v ++ [m]) = lastText? uri v := by
  have hnothing : (notices uri [m]).filterMap text? = [] := by
    rw [notices, List.filter_singleton]
    rcases h with h | h
    · rw [beq_eq_false_iff_ne.2 h]
      rfl
    · cases subject? m == some uri with
      | true => exact List.filterMap_cons_none h
      | false => rfl
  rw [lastText?, notices_append, List.filterMap_append, hnothing, List.append_nil, lastText?]

end Message

/-! ### What is kept of each document -/

namespace Documents

variable {d : Documents} {v : List Json} {uri : String}

/-- Of each document that is open the number is kept that its last text gives, and each
request for code actions has been made with the number of the last text before it. -/
structure Spans (d : Documents) (v : List Json) : Prop where
  kept : ∀ uri doc, d.find? uri = some doc →
    ∃ text, Message.lastText? uri v = some text ∧ doc.lines = lineCount text
  asked : ∀ front m, front ++ [m] <+: v → Message.AsksForActions m →
    ∃ id uri only text, Message.lastText? uri front = some text ∧
      m = Message.request id "textDocument/codeAction"
        (some (Message.codeAction uri (lineCount text) only))

/-- Something is said that is no request for code actions. -/
theorem Spans.say {d' : Documents} {m : Json} (h : d.Spans v) (hm : ¬ Message.AsksForActions m)
    (hkept : ∀ uri doc, d'.find? uri = some doc →
      ∃ text, Message.lastText? uri (v ++ [m]) = some text ∧ doc.lines = lineCount text) :
    d'.Spans (v ++ [m]) :=
  ⟨hkept, History.forall_concat h.asked fun hasks => absurd hasks hm⟩

/-- What is said about a text is about its document, and carries it. -/
theorem sync_tells (d : Documents) (uri language text : String) :
    Message.subject? (d.sync uri language text).1 = some uri ∧
      Message.text? (d.sync uri language text).1 = some text ∧
      ¬ Message.AsksForActions (d.sync uri language text).1 := by
  unfold sync Message.AsksForActions
  split
  · simp
  · simp

/-- A synchronisation counts the lines of its text. -/
theorem Spans.sync (h : d.Spans v) (uri language text : String) :
    (d.sync uri language text).2.Spans (v ++ [(d.sync uri language text).1]) := by
  obtain ⟨hsubject, htext, hasks⟩ := sync_tells d uri language text
  refine h.say hasks fun u doc hdoc => ?_
  rw [find?_sync] at hdoc
  split at hdoc
  next heq =>
    subst heq
    exact ⟨text, Message.lastText?_of_text hsubject htext, by rw [← Option.some.inj hdoc]⟩
  next hne =>
    rw [Message.lastText?_of_other (.inl (by rw [hsubject]; simpa [eq_comm] using hne))]
    exact h.kept u doc hdoc

/-- A close leaves the other documents with their lines. -/
theorem Spans.close (h : d.Spans v) (uri : String) :
    (d.close uri).2.Spans (v ++ [closing uri]) := by
  refine h.say (by simp [Message.AsksForActions, closing]) fun u doc hdoc => ?_
  rw [find?_close] at hdoc
  split at hdoc
  · exact absurd hdoc (by simp)
  · rw [Message.lastText?_of_other (.inr (by simp [closing]))]
    exact h.kept u doc hdoc

/-- A request for code actions spans the last text. -/
theorem Spans.ask {doc : OpenDocument} (h : d.Spans v) (hfind : d.find? uri = some doc) (id : Nat)
    (only : List String) :
    d.Spans (v ++ [Message.request id "textDocument/codeAction"
      (some (Message.codeAction uri doc.lines only))]) := by
  constructor
  · intro u other hother
    rw [Message.lastText?_of_other (.inl (by rw [Message.subject?_request]; simp))]
    exact h.kept u other hother
  · refine History.forall_concat h.asked fun _ => ?_
    obtain ⟨text, htext, hlines⟩ := h.kept uri doc hfind
    exact ⟨id, uri, only, text, htext, by rw [hlines]⟩

/-- The handshake asks for no code actions. -/
theorem spans_handshake {us : List Utterance} (h : List.Forall₂ Says us v)
    (hus : us ⊆ [.greeting 1, .greeted]) : empty.Spans v := by
  have hquiet : ∀ m ∈ v, ¬ Message.AsksForActions m := by
    induction h with
    | nil => exact fun m hm => absurd hm List.not_mem_nil
    | cons hsays _ ih =>
      obtain ⟨hu, hus⟩ := List.cons_subset.1 hus
      refine List.forall_mem_cons.2 ⟨?_, ih hus⟩
      cases hsays with
      | greeting => simp [Message.AsksForActions]
      | greeted => simp [Message.AsksForActions]
      | _ => simp at hu
  constructor
  · intro uri doc hdoc
    exact absurd hdoc (by simp [find?, empty])
  · intro front m hm hasks
    exact absurd hasks (hquiet m (hm.subset (List.mem_append_right _ (List.mem_singleton_self m))))

end Documents

namespace Client

variable {c : Client} {calls : List DocumentCall} {front : List Json} {m : Json}

/-- Documents span their texts whatever the client does. -/
theorem lasting_spans : Lasting fun d v _ => Documents.Spans d v := by
  constructor
  · intro us v hspoken hus
    exact Documents.spans_handshake hspoken hus
  · intro d v _ hspans uri language text
    exact hspans.sync uri language text
  · intro d v _ uri hspans _
    exact hspans.close uri
  · intro d v _ uri hspans _
    exact hspans
  · intro d v _ uri doc hspans hfind id only
    exact hspans.ask hfind id only

/-- Each request that a client has sent, or that waits to be written, spans a document from its
first place to the line whose number comes from the last text before it. -/
theorem After.asks (h : c.After calls) (hm : front ++ [m] <+: c.process.heard ++ c.outbox)
    (hasks : Message.AsksForActions m) :
    ∃ uri text, Message.target? m = some uri ∧ Message.lastText? uri front = some text ∧
      Message.range? m = some (.origin, ⟨Documents.lineCount text, 0⟩) := by
  obtain ⟨v, hheld, hspans⟩ := h.upholds lasting_spans
  have hnamed : Message.isNamed m = true := by rw [Message.isNamed, hasks]; rfl
  have hsaid : words front ++ [m] <+: v := by
    obtain ⟨rest, hrest⟩ := hm
    have hwords := hheld.said
    rw [← hrest, words_append, words_append, words_named hnamed] at hwords
    exact (List.prefix_append ..).trans hwords
  obtain ⟨id, uri, only, text, htext, rfl⟩ := hspans.asked _ _ hsaid hasks
  rw [Message.lastText?_words] at htext
  exact ⟨uri, text, Message.target?_codeAction .., htext,
    Message.range?_codeAction id uri only (Nat.min_le_right ..)⟩

/-- When code actions come back, a request for them has been written, and heard if the server
reads. -/
theorem After.asked_codeActions (h : c.After calls) {s : Site} {uri : String}
    {only : List String} {actions : Json} (hok : (c.codeActions s uri only).1 = .ok actions)
    (hw : (c.codeActions s uri only).2.1.writing = true) :
    ∃ m ∈ (c.codeActions s uri only).2.1.process.heard ++ (c.codeActions s uri only).2.1.outbox,
      ((c.codeActions s uri only).2.1.isBlocked = false →
        m ∈ (c.codeActions s uri only).2.1.process.heard) ∧
      Message.AsksForActions m ∧ Message.target? m = some uri ∧
      m.member? "id" = some (.int c.nextId) := by
  obtain ⟨v, hheld, -⟩ := h.upholds lasting_spans
  unfold codeActions at hok hw ⊢
  cases hfind : c.documents.find? uri with
  | none =>
    rw [hfind] at hok
    exact absurd hok (by simp)
  | some doc =>
    rw [hfind] at hok hw
    let m := Message.request c.nextId "textDocument/codeAction"
      (some (Message.codeAction uri doc.lines only))
    have hrequest := held_request hheld s "textDocument/codeAction"
      (some (Message.codeAction uri doc.lines only)) c.patience
    have hwritten {response : Json} (h : (c.request s "textDocument/codeAction"
        (some (Message.codeAction uri doc.lines only)) c.patience).1 = .ok response) :=
      written_request h
    dsimp only at hok hw ⊢
    generalize c.request s "textDocument/codeAction"
      (some (Message.codeAction uri doc.lines only)) c.patience = p at *
    obtain ⟨result, c', s'⟩ := p
    cases result with
    | error fault => exact absurd hok (by simp)
    | ok response =>
      rcases hrequest with ⟨fault, hfault⟩ | hrequested
      · exact absurd (Prod.mk.inj hfault).1 (by simp)
      · have hmem : m ∈ c'.process.heard ++ c'.outbox :=
          (List.mem_filter.1 (hrequested.held.meant hw ▸
            List.mem_append_right v (List.mem_singleton_self m))).1
        refine ⟨m, hmem, fun hfree => ?_, Message.method_request .., Message.target?_codeAction ..,
          Message.id_request ..⟩
        exact (hwritten rfl).mem_of_free hmem hfree

/-- **A request for code actions reaches to the end of the text exactly when few carriage returns
stand alone in it.**  Whatever a client has done, each request that it has sent, or that waits to
be written, names a document whose text it has told before, and a range from the first place of
that document on.  As long as the lines of the text can be counted, every place of it is in the
range if and only if at most one carriage return stands alone in the text, or two do and it ends
with one of them.  Whenever code actions come back, and no write has failed, there has been such a
request; it waits to be written only while the server does not read. -/
theorem codeAction_reaches (h : c.After calls) :
    (∀ front m, front ++ [m] <+: c.process.heard ++ c.outbox → Message.AsksForActions m →
      ∃ uri text, Message.target? m = some uri ∧ Message.lastText? uri front = some text ∧
        Message.range? m = some (.origin, ⟨Documents.lineCount text, 0⟩) ∧
        (Place.lines text ≤ Documents.maxLines →
          ((∀ p ∈ Place.ofText text, .origin ≤ p ∧ p ≤ ⟨Documents.lineCount text, 0⟩) ↔
            Place.FewReturns text))) ∧
    ∀ s uri only actions, (c.codeActions s uri only).1 = .ok actions →
      (c.codeActions s uri only).2.1.writing = true →
      ∃ m ∈ (c.codeActions s uri only).2.1.process.heard ++ (c.codeActions s uri only).2.1.outbox,
        ((c.codeActions s uri only).2.1.isBlocked = false →
          m ∈ (c.codeActions s uri only).2.1.process.heard) ∧
        Message.AsksForActions m ∧ Message.target? m = some uri ∧
        m.member? "id" = some (.int c.nextId) := by
  refine ⟨fun front m hm hasks => ?_, fun s uri only actions hok hw => h.asked_codeActions hok hw⟩
  obtain ⟨uri, text, htarget, htext, hrange⟩ := h.asks hm hasks
  refine ⟨uri, text, htarget, htext, hrange, fun hlines => ?_⟩
  rw [← Place.within_lineCount_iff text hlines]
  exact forall₂_congr fun p _ => and_iff_right (Place.origin_le p)

/-- A site with one project. -/
def oneProject : Site := .ofDisk (Supervisor.diskWith Supervisor.plainServer [])

/-- A client that its server has welcomed there. -/
def welcomed : Client :=
  let started : Client := ofProcess (.ofProjects 1 []) ⟨"", none⟩
    (.start Path.root Supervisor.plainServer) 1000 1000
  ((started.greet oneProject .blank).2.1.complete oneProject 1).2.1

/-- The client that is welcomed has had no call. -/
theorem after_welcomed : welcomed.After [] := by
  have hstarted : Started (ofProcess (.ofProjects 1 []) ⟨"", none⟩
    (.start Path.root Supervisor.plainServer) 1000 1000) := ⟨_, _, _, _, _, _, _, rfl⟩
  exact .fresh (.completed hstarted oneProject oneProject .blank rfl)

/-- The client takes in a text and asks for code actions over it. -/
def asking (text : String) : Client :=
  ((welcomed.sync oneProject "file:///a.ts" "typescript" text).2.1.codeActions oneProject
    "file:///a.ts" ["source.fixAll.biome"]).2.1

/-- The client that asks has had its one document brought up to date. -/
theorem after_asking (text : String) :
    (asking text).After [.sync "file:///a.ts" "typescript" text] :=
  (after_welcomed.synced oneProject _ _ text).asked oneProject _ _

/-- The last message of a list, with what comes before it. -/
theorem exists_last_of_bind {α : Type} {ms : List Json} {f : Json → Option α} {a : α}
    (h : ms.getLast?.bind f = some a) : ∃ m, ms.dropLast ++ [m] = ms ∧ f m = some a := by
  obtain ⟨m, hm, hf⟩ := Option.bind_eq_some_iff.1 h
  exact ⟨m, List.dropLast_append_getLast? m hm, hf⟩

/-- A carriage return that stands alone is made good by the line that is counted in addition. -/
theorem codeAction_reaches_end :
    let told := (asking "a;\r\nb;\rc;").process.heard ++ (asking "a;\r\nb;\rc;").outbox
    told.getLast?.bind Message.range? = some (.origin, ⟨3, 0⟩) ∧
      ∀ p ∈ Place.ofText "a;\r\nb;\rc;", .origin ≤ p ∧ p ≤ ⟨3, 0⟩ := by
  intro told
  have hmethod : told.getLast?.bind (fun m => (m.member? "method").bind Json.text?) =
    some "textDocument/codeAction" := by decide +kernel
  have htarget : told.getLast?.bind Message.target? = some "file:///a.ts" := by decide +kernel
  have htext : Message.lastText? "file:///a.ts" told.dropLast = some "a;\r\nb;\rc;" := by
    decide +kernel
  obtain ⟨m, hm, hasks⟩ := exists_last_of_bind hmethod
  rw [← hm, List.getLast?_concat, Option.bind_some] at htarget ⊢
  obtain ⟨uri, text, huri, htext', hrange, hreaches⟩ :=
    (codeAction_reaches (after_asking "a;\r\nb;\rc;")).1 told.dropLast m
      ⟨[], (List.append_nil _).trans hm⟩ (Receiver.text?_eq_some_iff.1 hasks)
  obtain rfl := Option.some.inj (huri.symm.trans htarget)
  obtain rfl := Option.some.inj (htext'.symm.trans htext)
  exact ⟨hrange, (hreaches (by decide)).2 (by decide)⟩

/-- **A request for code actions can leave the end of a document out**: two carriage returns stand
alone in the text that the server has been told, and its last place lies behind the range. -/
theorem codeAction_falls_short :
    let told := (asking "a\rb\rc").process.heard ++ (asking "a\rb\rc").outbox
    told.getLast?.bind (fun m => (m.member? "method").bind Json.text?) =
        some "textDocument/codeAction" ∧
      told.getLast?.bind Message.target? = some "file:///a.ts" ∧
      Message.lastText? "file:///a.ts" told.dropLast = some "a\rb\rc" ∧
      told.getLast?.bind Message.range? = some (.origin, ⟨2, 0⟩) ∧
      Place.lines "a\rb\rc" ≤ Documents.maxLines ∧
      ⟨2, 1⟩ ∈ Place.ofText "a\rb\rc" ∧ ¬ (⟨2, 1⟩ : Place) ≤ ⟨2, 0⟩ := by
  decide +kernel

end Client
end Switchboard
