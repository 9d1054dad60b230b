/-
# Keeping the table of open documents

Every operation keeps the table right (`Supervisor.Tabled`), but for a document
that is opened again in another session than the one that it is open in
(`Supervisor.tabled_openDocument`).  What opening can come to is said once, in
`openDocument_cases`.  A change asks the table first, and stays with the owner; a
server that has stopped takes its entries with it, and sessions that served a
path after it move up; a restart opens each document of the table once.
-/

import Switchboard.Proofs.Supervisor.Table

namespace Switchboard

/-! ### Opening, changing and closing -/

namespace Supervisor

variable {ran : SessionId → Prop} {s s' : Supervisor}
  {id : SessionId} {c c' : Client} {path : Path} {uri language text : String}

/-- What giving a text to a session comes to: its client takes the text in, has the
document open from then on, and can write no more if the text is refused; without
a URI nothing is given. -/
structure Gives (s : Supervisor) (path : Path) (language text : String) (c c' : Client)
    (p : Except DocumentFault Unit × Supervisor) (id : SessionId) : Prop where
  puts : Puts s p.2 id c c'
  refused : FileUri.ofPath? path = none → c = c' ∧ p.1 ≠ .ok ()
  synced : ∀ uri, FileUri.ofPath? path = some uri → c' = (c.sync s.site uri language text).2.1
  taken : ∀ uri, FileUri.ofPath? path = some uri →
    (∀ u, c'.documents.isOpen u = true ↔ u = uri ∨ c.documents.isOpen u = true) ∧
      (c'.writing = true → c.writing = true ∧ p.1 = .ok ())

/-- A session with a client that is brought up to date on a document gives it that text. -/
theorem gives_syncIn (h : (s.sessions.map Session.id).Nodup) {x : Session} (hx : x ∈ s.sessions)
    (hc : x.client? = some c) (path : Path) (language text : String) :
    ∃ c', s.Gives path language text c c' (s.syncIn x path language text) x.id := by
  have hsession := session?_of_mem h hx
  cases huri : FileUri.ofPath? path with
  | none =>
    have hsync : x.sync s.site path language text = (.error (.noUri path), x, s.site) := by
      rw [Session.sync, huri]
    have hputs := puts_putSession h hsession hc s.site c
    have hnone : ∀ uri, FileUri.ofPath? path ≠ some uri := fun uri h =>
      absurd (huri.symm.trans h) (by simp)
    rw [Session.withClient_self hc] at hputs
    rw [syncIn, hsync]
    exact ⟨c, hputs, fun _ => ⟨rfl, by simp [Except.mapError]⟩,
      fun uri h => absurd h (hnone uri), fun uri h => absurd h (hnone uri)⟩
  | some uri =>
    obtain ⟨hopen, hw⟩ := c.sync_spec s.site uri language text
    have hsync : x.sync s.site path language text =
        ((c.sync s.site uri language text).1.mapError .client,
          x.withClient (c.sync s.site uri language text).2.1,
          (c.sync s.site uri language text).2.2) := by
      rw [Session.sync, huri, hc]
    have huniq : ∀ uri', FileUri.ofPath? path = some uri' → uri = uri' := fun uri' h =>
      Option.some.inj (huri.symm.trans h)
    rw [syncIn, hsync]
    refine ⟨_, puts_putSession h hsession hc _ _,
      fun hnone => absurd (huri.symm.trans hnone) (by simp), fun uri' huri' => ?_,
      fun uri' huri' => ?_⟩
    · rw [huniq uri' huri']
    · obtain rfl := huniq uri' huri'
      refine ⟨hopen, fun hwriting => ⟨(hw hwriting).1, ?_⟩⟩
      dsimp only
      rw [(hw hwriting).2]
      rfl

/-- A text for a document that the session has open opens nothing. -/
theorem Gives.stays {p : Except DocumentFault Unit × Supervisor}
    (h : s.Gives path language text c c' p id)
    (huri : FileUri.ofPath? path = some uri) (hopen : c.documents.isOpen uri = true) :
    s.Stays p.2 := by
  obtain ⟨hopen', hw⟩ := h.taken uri huri
  refine h.puts.stays ⟨fun u => ?_, fun hwriting => (hw hwriting).1⟩
  rw [hopen' u, or_iff_right_of_imp]
  exact fun hu => hu ▸ hopen

/-- A session that is serving a document has a client. -/
theorem exists_client_of_serving? {x : Session} (h : s.serving? language path = some x) :
    x ∈ s.sessions ∧ ∃ c, x.client? = some c := by
  have hmatch := List.find?_some h
  refine ⟨List.mem_of_find?_eq_some h, ?_⟩
  unfold Session.isMatch at hmatch
  split at hmatch
  next connection hconnection => exact ⟨_, Session.client?_eq_some hconnection⟩
  · exact absurd hmatch (by simp)

/-- The first session that serves a file in the language that its name stands for. -/
def serves? (s : Supervisor) (path : Path) : Option SessionId :=
  (Language.ofPath? path).bind fun language => s.first? language path

/-- The session that serves a path is the first one for it in the language of its extension. -/
theorem serves?_eq_some_iff :
    s.serves? path = some id ↔
      ∃ language, Language.ofPath? path = some language ∧ s.first? language path = some id :=
  Option.bind_eq_some_iff

/-- All that opening a document can come to: nothing, when no session serves it;
else its text is given to the first session that serves it, which is the owner from
then on unless it refuses. -/
theorem openDocument_cases (h : (s.sessions.map Session.id).Nodup) (path : Path) (text : String) :
    s.serves? path = none ∧ s.openDocument path text = (.ok none, s) ∨
      ∃ language id c c' r s', Language.ofPath? path = some language ∧
        s.first? language path = some id ∧ s.Gives path language text c c' (r, s') id ∧
        ((∃ e, r = .error e ∧ s.openDocument path text = (.error e, s')) ∨
          r = .ok () ∧ s.openDocument path text =
            (.ok (some id), { s' with documents := setOwner path id s'.documents })) := by
  unfold openDocument
  split
  next hlanguage => exact .inl ⟨by rw [serves?, hlanguage]; rfl, rfl⟩
  next language hlanguage =>
    split
    next hnone => exact .inl ⟨by rw [serves?, hlanguage, Option.bind_some, first?, hnone]; rfl, rfl⟩
    next x hx =>
      obtain ⟨hmem, c, hc⟩ := exists_client_of_serving? hx
      obtain ⟨c', hgives⟩ := gives_syncIn h hmem hc path language text
      have hfirst : s.first? language path = some x.id := by rw [first?, hx]; rfl
      obtain ⟨r, s', hsync⟩ : ∃ r s', s.syncIn x path language text = (r, s') := ⟨_, _, rfl⟩
      rw [hsync] at hgives ⊢
      refine .inr ⟨language, x.id, c, c', r, s', hlanguage, hfirst, hgives, ?_⟩
      cases r with
      | error e => exact .inl ⟨e, rfl, rfl⟩
      | ok => exact .inr ⟨rfl, rfl⟩

/-- An answer that names a session names the first one that serves the path, which
is the owner from then on. -/
theorem openDocument_of_some (h : (s.sessions.map Session.id).Nodup)
    (hopened : (s.openDocument path text).1.toOption = some (some id)) :
    ∃ language, Language.ofPath? path = some language ∧ s.first? language path = some id ∧
      (s.openDocument path text).2.roster = s.roster ∧
      (s.openDocument path text).2.documents = setOwner path id s.documents := by
  obtain ⟨-, heq⟩ | ⟨language, id', c, c', r, s', hlanguage, hfirst, hgives, heq⟩ :=
    openDocument_cases h path text
  · rw [heq] at hopened
    exact absurd hopened (by simp [Except.toOption])
  obtain ⟨e, -, heq⟩ | ⟨-, heq⟩ := heq
  · rw [heq] at hopened
    exact absurd hopened (by simp [Except.toOption])
  · rw [heq] at hopened ⊢
    obtain rfl := Option.some.inj (Option.some.inj hopened)
    exact ⟨language, hlanguage, hfirst, hgives.puts.roster_eq,
      congrArg (setOwner path id') hgives.puts.documents_eq⟩

/-- Opening a document that is not open adds no entry but its own. -/
theorem mem_documents_openDocument (h : (s.sessions.map Session.id).Nodup)
    (hnone : s.ownerOf? path = none) {e : Path × SessionId}
    (he : e ∈ (s.openDocument path text).2.documents) : e ∈ s.documents ∨ e.1 = path := by
  obtain ⟨-, heq⟩ | ⟨language, id, c, c', r, s', -, -, hgives, heq⟩ :=
    openDocument_cases h path text
  · exact .inl (by rwa [heq] at he)
  have hdocuments : s'.documents = s.documents := hgives.puts.documents_eq
  obtain ⟨_, -, heq⟩ | ⟨-, heq⟩ := heq
  · rw [heq] at he
    exact .inl (hdocuments ▸ he)
  · rw [heq] at he
    dsimp only at he
    rw [hdocuments, setOwner_of_none (ownerOf?_eq_none_iff.1 hnone), List.mem_append] at he
    exact he.imp_right fun he => congrArg Prod.fst (List.mem_singleton.1 he)

/-- **Opening a document keeps the table right**, unless the document is open and
goes to another session. -/
theorem tabled_openDocument (h : s.Tabled) (path : Path) (text : String)
    (hroute : ∀ id id', s.ownerOf? path = some id →
      (s.openDocument path text).1.toOption = some (some id') → id' = id) :
    (s.openDocument path text).2.Tabled := by
  obtain ⟨-, heq⟩ | ⟨language, id, c, c', r, s', hlanguage, hfirst, hgives, heq⟩ :=
    openDocument_cases h.nodup path text
  · rw [heq]
    exact h
  have hputs : Puts s s' id c c' := hgives.puts
  obtain ⟨e, rfl, heq⟩ | ⟨rfl, heq⟩ := heq
  · rw [heq]
    cases huri : FileUri.ofPath? path with
    | none => exact h.stays (hputs.stays ((hgives.refused huri).1 ▸ .refl c))
    | some uri =>
      obtain ⟨hopen, hw⟩ := hgives.taken uri huri
      exact h.refused hputs (fun u hu => (hopen u).2 (.inr hu))
        fun hwriting => absurd (hw hwriting).2 (by simp)
  · rw [heq] at hroute ⊢
    cases huri : FileUri.ofPath? path with
    | none => exact absurd rfl (hgives.refused huri).2
    | some uri =>
      cases hown : s.ownerOf? path with
      | none =>
        obtain ⟨hopen, hw⟩ := hgives.taken uri huri
        exact h.opened hputs hlanguage hfirst huri hopen (fun hw' => (hw hw').1) hown
      | some owner =>
        -- The owner is given the text again: the table and what is open stay as they are.
        obtain rfl := hroute owner id hown rfl
        rw [setOwner_self (by rw [hputs.documents_eq]; exact hown)]
        obtain ⟨uri', d, huri', hd, hopen⟩ := h.open_of_ownerOf? hown
        obtain rfl := Option.some.inj (hd.symm.trans hputs.was)
        exact h.stays (hgives.stays huri' hopen)

/-- Opening a document that is not open keeps the table right. -/
theorem tabled_openDocument_of_none (h : s.Tabled) {path : Path} (hnone : s.ownerOf? path = none)
    (text : String) : (s.openDocument path text).2.Tabled :=
  tabled_openDocument h path text fun _ _ hown => absurd (hnone.symm.trans hown) (by simp)

/-- A change leaves every document in the table known to its owner. -/
theorem tabled_changeDocument (h : s.Tabled) (path : Path) (text : String) :
    (s.changeDocument path text).2.Tabled := by
  unfold changeDocument
  split
  next hnone => exact tabled_openDocument_of_none h hnone text
  next id hown =>
    obtain ⟨uri, c, huri, hc, hopen⟩ := h.open_of_ownerOf? hown
    obtain ⟨x, hmem, rfl, hx, hxc⟩ := exists_of_clientOf? hc
    split
    · exact h
    next language hlanguage =>
      rw [hx]
      dsimp only
      obtain ⟨c', hgives⟩ := gives_syncIn h.nodup hmem hxc path language text
      have hstays : s.Stays (s.syncIn x path language text).2 := hgives.stays huri hopen
      split
      next heq =>
        rw [heq] at hstays
        exact h.stays hstays
      next heq =>
        rw [heq] at hstays
        exact h.stays hstays

/-- A close leaves every document in the table known to its owner. -/
theorem tabled_closeDocument (h : s.Tabled) (path : Path) : (s.closeDocument path).2.Tabled := by
  unfold closeDocument
  split
  · exact h
  next id hown =>
    obtain ⟨uri, c, huri, hc, -⟩ := h.open_of_ownerOf? hown
    obtain ⟨x, -, rfl, hx, hxc⟩ := exists_of_clientOf? hc
    have hx' : (s.disown path).session? x.id = some x := hx
    have hputs := puts_putSession (s := s.disown path) h.nodup hx' hxc
    dsimp only
    rw [hx']
    dsimp only
    unfold Session.close
    rw [huri, hxc]
    obtain ⟨hopen, hw⟩ := c.close_spec s.site uri
    exact h.closed hown (hputs _ _) huri hopen hw

/-- Asking a session for actions changes nothing about the documents that are known. -/
theorem stays_codeActions (h : (s.sessions.map Session.id).Nodup) {x : Session}
    (hx : s.session? id = some x) (hc : x.client? = some c) (path : Path) (only : List String) :
    s.Stays ({ s with site := (x.codeActions s.site path only).2.2 }.putSession
      (x.codeActions s.site path only).2.1) := by
  obtain ⟨c', hstays, heq⟩ := Session.codeActions_stays hc s.site path only
  rw [heq]
  exact (puts_putSession h hx hc _ c').stays hstays

/-- Opening from disk leaves every document in the table known to its owner. -/
theorem tabled_openFromDisk (h : s.Tabled) (path : Path) : (s.openFromDisk path).2.Tabled := by
  unfold openFromDisk
  split
  · exact h
  next hown =>
    have hsettled := h.stays (stays_settle s)
    dsimp only
    split
    · exact hsettled
    next text _ =>
      have hnone : s.settle.ownerOf? path = none := Option.not_isSome_iff_eq_none.1 hown
      have hopened := tabled_openDocument_of_none hsettled hnone text
      split
      next heq =>
        rw [heq] at hopened
        exact hopened
      next heq =>
        rw [heq] at hopened
        exact hopened

/-- Asking for fixes leaves every document in the table known to its owner. -/
theorem tabled_fixAllActions (h : s.Tabled) (path : Path) : (s.fixAllActions path).2.Tabled := by
  have hopened := tabled_openFromDisk h path
  unfold fixAllActions
  split
  next heq =>
    rw [heq] at hopened
    exact hopened
  next s₁ heq =>
    rw [heq] at hopened
    split
    · exact hopened
    next id hown =>
      obtain ⟨uri, c, -, hc, -⟩ := hopened.open_of_ownerOf? hown
      obtain ⟨x, -, rfl, hx, hxc⟩ := exists_of_clientOf? hc
      rw [hx]
      exact hopened.stays (stays_codeActions hopened.nodup hx hxc path [fixAllKind])

/-! ### The end of a server -/

/-- A session that goes off the roster leaves first those that were first and are others. -/
theorem firstOf_map {roster : List (SessionId × Option Selector)} {i : SessionId}
    (h : firstOf roster language path = some i) (hne : i ≠ id) :
    firstOf (roster.map fun e => if e.1 = id then (e.1, none) else e) language path = some i := by
  induction roster with
  | nil => exact absurd h (by simp [firstOf])
  | cons e roster ih =>
    unfold firstOf at h ih ⊢
    rw [List.map_cons]
    cases hmatch : offers language path e with
    | true =>
      rw [List.find?_cons_of_pos hmatch] at h
      have hi : e.1 ≠ id := fun heq => hne ((Option.some.inj h).symm.trans heq)
      rw [if_neg hi, List.find?_cons_of_pos hmatch]
      exact h
    | false =>
      rw [List.find?_cons_of_neg (by simp [hmatch])] at h
      have hgone : offers language path (if e.1 = id then (e.1, none) else e) = false := by
        split
        · rfl
        · exact hmatch
      rw [List.find?_cons_of_neg (by simp [hgone])]
      exact ih h

/-- A session put in without a client has none, and the others keep theirs. -/
theorem clientOf?_putSession_of_idle {x y : Session} (hx : s.session? x.id = some x)
    (hid : y.id = x.id) (hidle : y.connection = none) (i : SessionId) :
    (s.putSession y).clientOf? i = if i = x.id then none else s.clientOf? i := by
  rw [clientOf?, session?_putSession, hid]
  split
  next heq =>
    rw [heq, hx, Option.map_some, if_pos (beq_self_eq_true _), Option.bind_some, Session.client?,
      hidle]
    rfl
  next hne =>
    rw [clientOf?]
    cases hz : s.session? i with
    | none => rfl
    | some z =>
      obtain ⟨-, hzid⟩ := of_session? hz
      rw [Option.map_some, Option.bind_some, Option.bind_some, if_neg (by simp [hzid, hne])]

/-- On the roster a session put in without a client stands without one. -/
theorem roster_putSession_of_idle {x y : Session} (hid : y.id = x.id)
    (hidle : y.connection = none) :
    (s.putSession y).roster = s.roster.map fun e => if e.1 = x.id then (e.1, none) else e := by
  unfold roster putSession
  rw [List.map_map, List.map_map]
  refine List.map_congr_left fun z _ => ?_
  rw [Function.comp_apply, Function.comp_apply, hid]
  split
  next heq =>
    rw [if_pos (show z.face.1 = x.id from beq_iff_eq.1 heq), Session.face, hid, hidle]
    exact congrArg (·, none) (beq_iff_eq.1 heq).symm
  next hne => rw [if_neg (show ¬ z.face.1 = x.id from fun heq => hne (beq_iff_eq.2 heq))]

/-- A server that has stopped takes its entries with it, and leaves the others first. -/
theorem tabled_retire (h : s.Tabled) {x : Session} (hx : s.session? x.id = some x)
    (reason : StopReason) : (s.retire x reason).Tabled := by
  obtain ⟨hid, hidle⟩ := Session.stop_spec x s.site
  have hclient := clientOf?_putSession_of_idle hx hid hidle
  have hroster := roster_putSession_of_idle (s := s) hid hidle
  have hnodup : ((s.putSession (x.stop s.site).1).sessions.map Session.id).Nodup := by
    have hfst : (s.putSession (x.stop s.site).1).roster.map Prod.fst = s.roster.map Prod.fst := by
      rw [hroster, List.map_map]
      refine List.map_congr_left fun e _ => ?_
      rw [Function.comp_apply]
      split <;> rfl
    rw [← map_fst_roster, hfst, map_fst_roster]
    exact h.nodup
  have htabled : Tabled { s.putSession (x.stop s.site).1 with
      documents := s.documents.filter fun entry => entry.2 != x.id } := by
    refine ⟨hnodup, fun e he => ?_, fun i c u hc hw hopen => ?_, h.distinct.filter _⟩
    · obtain ⟨he, hne⟩ := List.mem_filter.1 he
      have hne : e.2 ≠ x.id := by simpa using hne
      obtain ⟨language, u, c, hlanguage, hfirst, huri, hc, hopen⟩ := h.serves e he
      rw [first?_eq] at hfirst
      refine ⟨language, u, c, hlanguage, ?_, huri, ?_, hopen⟩
      · rw [first?_eq]
        exact hroster ▸ firstOf_map hfirst hne
      · exact (hclient e.2).trans (by rw [if_neg hne, hc])
    · have hc := (hclient i).symm.trans hc
      split at hc
      · exact absurd hc (by simp)
      next hne =>
        obtain ⟨e, he, hei, hu⟩ := h.listed i c u hc hw hopen
        exact ⟨e, List.mem_filter.2 ⟨he, by simpa [hei] using hne⟩, hei, hu⟩
  unfold retire
  dsimp only
  split
  · exact htabled.stays (.of_eq rfl rfl)
  · exact htabled.stays (.of_eq rfl rfl)

/-- Whatever a session reports, the table keeps to what the owners know. -/
theorem tabled_handleReport (h : s.Tabled) (e : ServerEvent) : (s.handleReport e).2.Tabled := by
  unfold handleReport
  split
  · split
    · exact h.stays (.of_eq rfl rfl)
    · exact h
  · split
    · exact h
    next x hx =>
      split
      · obtain ⟨-, rfl⟩ := of_session? hx
        exact tabled_retire h hx _
      · exact h

/-- A round of polling that hands one report on leaves the table to what the owners know. -/
theorem tabled_report (h : s.Tabled) : (s.poll 1).2.Tabled := by
  unfold poll
  split
  · exact h
  next e s₁ hnext => exact tabled_handleReport (h.stays (stays_nextReport? hnext)) e

/-! ### Starting and stopping -/

/-- Planning the sessions leaves the table as it is. -/
theorem documents_planSessions (s : Supervisor) : s.planSessions.documents = s.documents := by
  have hdiscover := (same_discover s).documents_eq
  unfold planSessions
  generalize s.discover = found at hdiscover ⊢
  dsimp only
  split
  · exact hdiscover
  · exact hdiscover

/-- Starting the sessions leaves the table as it is. -/
theorem documents_startSessions (s : Supervisor) : s.startSessions.2.documents = s.documents := by
  unfold startSessions
  dsimp only
  exact (same_foldl (fun _ _ => same_log ..) _ _).documents_eq

/-- Launching leaves the table as it is. -/
theorem documents_launch (s : Supervisor) : s.launch.2.documents = s.documents := by
  unfold launch
  split
  · rfl
  · have hsame := (same_watchLockFiles s).trans (same_warnLoaders _)
    rw [bringUp, documents_startSessions, documents_planSessions, hsame.documents_eq]

/-- A start opens no document and closes none. -/
theorem documents_start (s : Supervisor) : s.start.2.documents = s.documents := by
  unfold start
  split
  · exact documents_launch (({ s with phase := .starting }.log .info
      "Starting extension...").tell (.status (some .loading)))
  · rfl

/-- A start from the beginning finds an empty table, and gives sessions clients
that have nothing open. -/
theorem tabled_start (hs : Sound ran [] s) (h : s.Tabled) : s.start.2.Tabled := by
  by_cases hphase : s.phase = .stopped
  · have hnone := hs.idle hphase
    have hdocuments := (documents_start s).trans (h.documents_eq_nil hnone)
    refine tabled_of_nil (sound_start hs).heard.nodup hdocuments fun x hx c hc u => ?_
    rcases admitted_start s with hsame | hadmitted
    · exact absurd hx (hsame ▸ hnone ▸ List.not_mem_nil)
    · rw [(hadmitted x hx c hc).isOpen_eq u]
      simp
  · rw [start, if_neg hphase]
    exact h

/-- After a stop the table is empty. -/
theorem tabled_stop (hs : Sound ran [] s) (h : s.Tabled) :
    s.stop.Tabled ∧ s.stop.documents = [] := by
  unfold stop
  split
  next hphase => exact ⟨h, h.documents_eq_nil (hs.idle hphase)⟩
  · have hnone : Tabled { s with sessions := [], documents := [] } :=
      tabled_of_nil List.nodup_nil rfl fun x hx => absurd hx List.not_mem_nil
    exact ⟨hnone.stays (.of_eq rfl rfl), rfl⟩

/-! ### Restarting -/

/-- A document that is opened again takes no other one's place. -/
theorem tabled_reopen (h : s.Tabled) (hnone : s.ownerOf? path = none) :
    (s.reopen path).Tabled ∧ ∀ q : Path, ¬ path.same q = true → s.ownerOf? q = none →
      (s.reopen path).ownerOf? q = none := by
  have hsettled := h.stays (stays_settle s)
  unfold reopen
  dsimp only
  split
  · exact ⟨hsettled, fun q _ hq => hq⟩
  next text _ =>
    have hnone' : s.settle.ownerOf? path = none := hnone
    refine ⟨tabled_openDocument_of_none hsettled hnone' text, fun q hne hq => ?_⟩
    rw [ownerOf?_eq_none_iff] at hq ⊢
    intro e he
    rcases mem_documents_openDocument hsettled.nodup hnone' he with he | rfl
    · exact hq e he
    · exact hne

/-- Documents of different files with no owner are opened again, each with the owner it is then
given. -/
theorem tabled_reopenAll (h : s.Tabled) {paths : List Path}
    (hdistinct : paths.Pairwise fun p q => ¬ p.same q = true)
    (hnone : ∀ p ∈ paths, s.ownerOf? p = none) : (paths.foldl reopen s).Tabled := by
  induction paths generalizing s with
  | nil => exact h
  | cons path paths ih =>
    obtain ⟨hfirst, hrest⟩ := List.pairwise_cons.1 hdistinct
    obtain ⟨hpath, hpaths⟩ := List.forall_mem_cons.1 hnone
    obtain ⟨hreopened, hothers⟩ := tabled_reopen h hpath
    exact ih hreopened hrest fun q hq => hothers q (hfirst q hq) (hpaths q hq)

/-- A restart leaves every document in the table known to its owner. -/
theorem tabled_restart (hs : Sound ran [] s) (h : s.Tabled) : s.restart.2.Tabled := by
  unfold restart
  dsimp only
  have hlogged := (hs.of_same (same_log s .info "Restarting extension...")).withRestarts
    (s.restarts + 1)
  obtain ⟨hstopped, hempty⟩ := tabled_stop hlogged (h.stays (.of_eq rfl rfl))
  have hstarted := tabled_start (sound_stop hlogged) hstopped
  have hdocuments := (documents_start _).trans hempty
  refine tabled_reopenAll hstarted (List.pairwise_map.2 h.distinct) fun p _ => ?_
  rw [ownerOf?, hdocuments]
  rfl

/-- The command for fixes leaves every document in the table known to its owner. -/
theorem tabled_autofix (h : s.Tabled) (active : Option Path) : (s.autofix active).Tabled := by
  unfold autofix
  split
  · exact h.stays (same_log ..).stays
  next path =>
    have hfixed := tabled_fixAllActions h path
    split
    next heq =>
      rw [heq] at hfixed
      exact hfixed.stays (same_tell ..).stays
    next heq =>
      rw [heq] at hfixed
      exact hfixed.stays (same_log ..).stays

/-- Every command leaves every document in the table known to its owner. -/
theorem tabled_perform (hs : Sound ran [] s) (h : s.Tabled) (active : Option Path) (m : Command) :
    (s.perform active m).Tabled := by
  cases m with
  | restart => exact tabled_restart hs h
  | showOutput => exact h.stays (same_tell ..).stays
  | autofix => exact tabled_autofix h active
  | showCommands => exact h

end Supervisor
end Switchboard
