/-
# Conversations in every run

The journal of a site has all that has passed in every session, also in one that has been
stopped or could not be started.  Whatever is done in a session adds to what has passed in
that session only (`Session.Deed.adds`, `Supervisor.pass_spec`), and keeps it proper: a client
that lives has been welcomed and speaks of documents (`Client.Deed.underway`), one that is left
says its goodbye (`Session.proper_beginStop`), and one that is not welcomed is dropped
(`Session.proper_giveUp`).  So the conversations of a run are proper at any time
(`Supervisor.conversations_orderly`).
-/

import Switchboard.Proofs.Client.Conversation
import Switchboard.Proofs.Supervisor.Roster
import Switchboard.Server.Script

namespace Switchboard

open Exchange

/-! ### What clients do -/

namespace Client

variable {c : Client} {id : SessionId} {s : Site} {p q : Client × Site} {us : List Utterance}

/-- A client that has been started talks, and its next request is the first. -/
theorem Started.talking (h : c.Started) : c.Talking [] ∧ c.nextId = 1 := by
  obtain ⟨session, projects, channel, program, behaviour, patience, stopPatience, rfl⟩ := h
  exact ⟨talking_ofProcess .., rfl⟩

/-- Whatever a client does once it has been welcomed, it stays underway. -/
theorem Deed.underway (h : Deed p q) (hp : p.1.Underway) : q.1.Underway := by
  cases h with
  | sync c s uri language text => exact underway_sync hp s uri language text
  | close c s uri => exact underway_close hp s uri
  | ask c s uri only => exact underway_codeActions hp s uri only
  | settle c s => exact hp.moves (moves_settle c s)
  | read c s frames => exact hp.moves (Supervisor.moves_readSome c s frames)
  | server c s r =>
    obtain ⟨us, hwelcomed, htalking⟩ := hp
    obtain ⟨v, hv, hspoken⟩ := htalking.held
    exact ⟨us, hwelcomed, htalking.still hspoken (hv.congr rfl rfl rfl) ⟨rfl, le_rfl, id⟩⟩

/-- What it does is recorded. -/
theorem Deed.recorded (h : Deed p q) (hp : p.1.Recorded p.2) : q.1.Recorded q.2 := by
  cases h with
  | sync c s uri language text => exact recorded_sync hp uri language text
  | close c s uri => exact recorded_close hp uri
  | ask c s uri only => exact recorded_codeActions hp uri only
  | settle c s => exact (moves_settle c s).recorded hp
  | read c s frames => exact (Supervisor.moves_readSome c s frames).recorded hp
  | server c s r => exact hp.congr rfl rfl rfl (List.Subset.refl _) rfl

/-- What a client does passes in its own session. -/
theorem Deed.adds (h : Deed p q) : Site.Adds p.1.session p.2 q.2 ∧ q.1.session = p.1.session := by
  cases h with
  | sync c s uri language text =>
    have hacts := acts_send { c with documents := (c.documents.sync uri language text).2 } s
      (c.documents.sync uri language text).1
    exact ⟨hacts.adds, hacts.session_eq⟩
  | close c s uri =>
    by_cases hopen : c.documents.isOpen uri = true
    · rw [close_of_isOpen s hopen]
      exact ⟨(acts_send ..).adds, (acts_send ..).session_eq⟩
    · rw [close_of_not_isOpen s hopen]
      exact ⟨.of_eq rfl, rfl⟩
  | ask c s uri only =>
    exact ⟨(acts_codeActions c s uri only).adds, (acts_codeActions c s uri only).session_eq⟩
  | settle c s =>
    have hacts := Acts.of_moves (moves_settle c s)
    exact ⟨hacts.adds, hacts.session_eq⟩
  | read c s frames =>
    have hacts := Acts.of_moves (Supervisor.moves_readSome c s frames)
    exact ⟨hacts.adds, hacts.session_eq⟩
  | server c s r => exact ⟨.of_eq rfl, rfl⟩

/-- A client that lives is underway. -/
theorem Lives.underway (h : c.Lives) : c.Underway := by
  induction h with
  | admitted hc =>
    obtain ⟨hc, s, s', hs, hgreet, hcomplete⟩ := hc
    obtain ⟨htalking, hnext⟩ := hc.talking
    exact (complete_spec ((talking_greet htalking hnext s hs).2 _ hgreet) s').2 hcomplete
  | deed _ h ih => exact h.underway ih

/-- A client talks, and what passes in its session is recorded. -/
structure Noted (c : Client) (id : SessionId) (s : Site) : Prop where
  session_eq : c.session = id
  talking : ∃ us, c.Talking us
  recorded : c.Recorded s

/-- What is noted of a client is proper. -/
theorem Noted.proper (h : c.Noted id s) : Proper (s.passages id) := by
  obtain ⟨us, htalking⟩ := h.talking
  exact h.session_eq ▸ htalking.proper h.recorded

/-- What is noted of a client is a matter of its own passages. -/
theorem Noted.congr {s' : Site} (h : c.Noted id s) (hs : s'.passages id = s.passages id) :
    c.Noted id s' :=
  ⟨h.session_eq, h.talking, h.recorded.congr rfl rfl rfl (List.Subset.refl _)
    (h.session_eq.symm ▸ hs)⟩

end Client

/-! ### Sessions -/

namespace Session

variable {x : Session} {s s' : Site}

/-- What has passed in a session is proper, and its client, if it has one, is underway with
all of that recorded. -/
structure Chronicled (x : Session) (s : Site) : Prop where
  proper : Proper (s.passages x.id)
  client : ∀ c, x.client? = some c → c.session = x.id ∧ c.Underway ∧ c.Recorded s

/-- A session without a client is chronicled if what has passed in it is proper. -/
theorem chronicled_of_idle (h : Proper (s.passages x.id)) (hx : x.connection = none) :
    x.Chronicled s := ⟨h, has_of_idle hx⟩

/-- Whether a session is chronicled is a matter of its own passages. -/
theorem Chronicled.congr (h : x.Chronicled s) (hs : s'.passages x.id = s.passages x.id) :
    x.Chronicled s' := by
  refine ⟨hs ▸ h.proper, fun c hc => ?_⟩
  obtain ⟨hsession, hunderway, hrecorded⟩ := h.client c hc
  exact ⟨hsession, hunderway,
    hrecorded.congr rfl rfl rfl (List.Subset.refl _) (hsession.symm ▸ hs)⟩

/-- **Whatever a session does with its client, what passes is proper**, and passes in that
session. -/
theorem Deed.chronicled {p q : Session × Site} (h : Deed p q) (hp : p.1.Chronicled p.2) :
    q.1.Chronicled q.2 ∧ q.1.id = p.1.id ∧ Site.Adds p.1.id p.2 q.2 := by
  cases h with
  | idle => exact ⟨hp, rfl, .of_eq rfl⟩
  | @client x c hc s q h =>
    obtain ⟨hsession, hunderway, hrecorded⟩ := hp.client c hc
    obtain ⟨hadds, hsession'⟩ := h.adds
    change q.1.session = c.session at hsession'
    have hq : q.1.session = x.id := hsession'.trans hsession
    obtain ⟨us, hwelcomed, htalking⟩ := h.underway hunderway
    have hrecorded' := h.recorded hrecorded
    refine ⟨⟨hq ▸ htalking.proper hrecorded', fun c' hc' => ?_⟩, rfl, hsession ▸ hadds⟩
    obtain rfl := Option.some.inj ((client?_withClient hc q.1).symm.trans hc')
    exact ⟨hq, ⟨us, hwelcomed, htalking⟩, hrecorded'⟩

/-! ### Starts -/

/-- What has passed in the session of a start that has failed is proper, and is recorded of
the client that is dropped. -/
structure FailedStart.Chronicled (failed : FailedStart) (id : SessionId) (s : Site) : Prop where
  proper : Proper (s.passages id)
  client : ∀ c, failed.client = some c → c.Noted id s

/-- What has passed in the session of a start is proper, and its client, if there is one, has
greeted the server. -/
structure Starting.Chronicled (p : Starting) (s : Site) : Prop where
  idle : p.session.connection = none
  proper : Proper (s.passages p.session.id)
  greeted : ∀ selector c id, p.progress = .ok (selector, c, id) →
    c.session = p.session.id ∧ c.Greeting id ∧ c.Recorded s

/-- Whether a start is chronicled is a matter of the passages of its session. -/
theorem Starting.Chronicled.congr {p : Starting} (h : p.Chronicled s)
    (hs : s'.passages p.session.id = s.passages p.session.id) : p.Chronicled s' := by
  refine ⟨h.idle, hs ▸ h.proper, fun selector c id hp => ?_⟩
  obtain ⟨hsession, hgreeting, hrecorded⟩ := h.greeted selector c id hp
  exact ⟨hsession, hgreeting,
    hrecorded.congr rfl rfl rfl (List.Subset.refl _) (hsession.symm ▸ hs)⟩

/-- Nothing that has passed is proper. -/
theorem proper_nil : Proper [] :=
  ⟨⟨[], .nil, ⟨[], 0, by simp, by simp⟩, fun _ _ h => absurd (List.prefix_nil.1 h) (by simp)⟩,
    grounded_nil⟩

/-- A session whose server is started has a client that greets it, or has failed. -/
theorem chronicled_launch (ctx : SessionContext) (channel : Channel)
    (hblank : s.passages x.id = []) :
    Site.Adds x.id s (x.launch s ctx channel).2 ∧
      (∀ failed, (x.launch s ctx channel).1 = .error failed →
        failed.Chronicled x.id (x.launch s ctx channel).2) ∧
      ∀ selector c id, (x.launch s ctx channel).1 = .ok (selector, c, id) →
        c.session = x.id ∧ c.Greeting id ∧ c.Recorded (x.launch s ctx channel).2 := by
  have hnone (failed : FailedStart) (hfailed : failed.client = none) {s' : Site}
      (hs : s'.passages x.id = []) : failed.Chronicled x.id s' :=
    ⟨hs ▸ proper_nil, fun c hc => absurd (hfailed.symm.trans hc) (by simp)⟩
  unfold launch
  split
  next e _ =>
    refine ⟨.of_eq rfl, fun failed h => ?_, fun selector c id h => absurd h (by simp)⟩
    exact Except.error.inj h ▸ hnone _ rfl hblank
  next selector _ =>
    dsimp only
    split
    next fault _ =>
      refine ⟨.of_eq rfl, fun failed h => ?_, fun selector c id h => absurd h (by simp)⟩
      exact Except.error.inj h ▸ hnone _ rfl hblank
    next c₀ s₀ hspawn =>
      obtain ⟨htalking, hnext⟩ := (Client.started_of_spawn hspawn).talking
      have hrecorded := Client.recorded_greet
        (Client.recorded_spawn hspawn hblank) (x.handshake ctx)
      have hsession₀ : c₀.session = x.id := Client.session_of_spawn hspawn
      obtain ⟨⟨us, -, htalks⟩, hgreeting⟩ :=
        Client.talking_greet htalking hnext s₀ (x.handshake ctx)
      have hacts := Client.acts_greet c₀ s₀ (x.handshake ctx)
      have hsession := hacts.session_eq.trans hsession₀
      have hadds := (Client.adds_spawn hspawn).trans (hsession₀ ▸ hacts.adds)
      generalize c₀.greet s₀ (x.handshake ctx) = p at *
      obtain ⟨r, c, s'⟩ := p
      have hnoted : c.Noted x.id s' := ⟨hsession, ⟨us, htalks⟩, hrecorded⟩
      cases r with
      | error fault =>
        refine ⟨hadds, fun failed h => ?_, fun selector c id h => absurd h (by simp)⟩
        exact Except.error.inj h ▸ ⟨hnoted.proper, fun c' hc' => Option.some.inj hc' ▸ hnoted⟩
      | ok id =>
        refine ⟨hadds, fun failed h => absurd h (by simp), fun selector' c' id' h => ?_⟩
        cases h
        exact ⟨hsession, hgreeting id rfl, hrecorded⟩

/-- A client whose session cannot be started is dropped. -/
theorem proper_giveUp (channel : Channel) {failed : FailedStart} (h : failed.Chronicled x.id s) :
    Proper ((x.giveUp s channel failed).passages x.id) ∧
      Site.Adds x.id s (x.giveUp s channel failed) := by
  obtain ⟨fault, client⟩ := failed
  cases client with
  | none => exact ⟨h.proper, .of_eq rfl⟩
  | some c =>
    have hnoted := h.client c rfl
    obtain ⟨us, htalking⟩ := hnoted.talking
    have hrecorded : c.Recorded (s.log channel .error (x.failureLine fault)) :=
      hnoted.recorded.congr rfl rfl rfl (List.Subset.refl _) rfl
    obtain ⟨hproper, hadds⟩ := Client.proper_drop htalking hrecorded
    rw [hnoted.session_eq] at hproper hadds
    exact ⟨hproper, hadds⟩

/-- The first half of a start is chronicled, and notes nothing about other sessions. -/
theorem chronicled_beginStart (ctx : SessionContext) (hidle : x.connection = none)
    (hblank : s.passages x.id = []) :
    (x.beginStart s ctx).1.Chronicled (x.beginStart s ctx).2 ∧
      (x.beginStart s ctx).1.session.id = x.id ∧ Site.Adds x.id s (x.beginStart s ctx).2 := by
  have hjournal : (x.openChannel s ctx).2.journal = s.journal := by
    unfold openChannel
    split
    · rfl
    · rfl
  unfold beginStart
  generalize x.openChannel s ctx = opened at hjournal ⊢
  obtain ⟨channel, s₀⟩ := opened
  obtain ⟨hadds, hfailed, hgreeted⟩ := chronicled_launch (x := { x with channel := some channel })
    ctx channel ((Site.passages_congr hjournal x.id).trans hblank)
  have hadds' := (Site.Adds.of_eq hjournal).trans hadds
  dsimp only
  generalize launch { x with channel := some channel } s₀ ctx channel = p at *
  obtain ⟨r, s₁⟩ := p
  cases r with
  | error failed =>
    obtain ⟨hproper, hgiven⟩ := proper_giveUp channel (hfailed failed rfl)
    exact ⟨⟨hidle, hproper, fun selector c id h => absurd h (by simp)⟩, rfl, hadds'.trans hgiven⟩
  | ok greeted =>
    obtain ⟨selector, c, id⟩ := greeted
    obtain ⟨hsession, hgreeting, hrecorded⟩ := hgreeted selector c id rfl
    have hnoted : c.Noted x.id s₁ := ⟨hsession, ⟨_, hgreeting.talking⟩, hrecorded⟩
    refine ⟨⟨hidle, hnoted.proper, fun selector' c' id' h => ?_⟩, rfl, hadds'⟩
    cases h
    exact ⟨hsession, hgreeting, hrecorded⟩

/-- A session whose client has been welcomed goes on with it; the others are given up. -/
theorem chronicled_finish {p : Starting} (h : p.Chronicled s) :
    (p.finish s).2.1.Chronicled (p.finish s).2.2 ∧ (p.finish s).2.1.id = p.session.id ∧
      Site.Adds p.session.id s (p.finish s).2.2 := by
  obtain ⟨x, channel, progress⟩ := p
  cases progress with
  | error fault => exact ⟨chronicled_of_idle h.proper h.idle, rfl, .of_eq rfl⟩
  | ok greeted =>
    obtain ⟨selector, c, id⟩ := greeted
    obtain ⟨hsession, hgreeting, hrecorded⟩ := h.greeted selector c id rfl
    obtain ⟨us, -, htalking, hok⟩ := Client.talking_complete hgreeting s
    have hrecorded' := Client.recorded_complete hgreeting hrecorded
    have hacts := Client.acts_complete c s id
    have hadds := hacts.adds
    have hsession' : (c.complete s id).2.1.session = x.id := hacts.session_eq.trans hsession
    change Site.Adds c.session s _ at hadds
    rw [hsession] at hadds
    unfold Starting.finish connect
    dsimp only
    generalize c.complete s id = completed at *
    obtain ⟨r, c', s'⟩ := completed
    have hnoted : c'.Noted x.id s' := ⟨hsession', ⟨us, htalking⟩, hrecorded'⟩
    cases r with
    | error fault =>
      have hfailed : FailedStart.Chronicled ⟨.handshake x.binary fault, some c'⟩ x.id s' :=
        ⟨hnoted.proper, fun c hc => Option.some.inj hc ▸ hnoted⟩
      obtain ⟨hproper, hgiven⟩ := proper_giveUp channel hfailed
      exact ⟨chronicled_of_idle hproper h.idle, rfl, hadds.trans hgiven⟩
    | ok =>
      have hunderway : c'.Underway := ⟨us, ⟨[], hok rfl, by simp⟩, htalking⟩
      refine ⟨⟨hnoted.proper, fun c hc => ?_⟩, rfl, hadds⟩
      obtain rfl : c' = c := Option.some.inj hc
      exact ⟨hsession', hunderway, hrecorded'.congr rfl rfl rfl (List.Subset.refl _) rfl⟩

/-! ### Stops -/

/-- A session that stops says goodbye in its own session. -/
theorem proper_beginStop (h : x.Chronicled s) :
    Proper ((x.beginStop s).2.passages x.id) ∧ (x.beginStop s).1.session.id = x.id ∧
      Site.Adds x.id s (x.beginStop s).2 := by
  obtain ⟨xid, version, binary, projects, channel, connection⟩ := x
  cases connection with
  | none => exact ⟨h.proper, rfl, .of_eq rfl⟩
  | some connection =>
    obtain ⟨hsession, hunderway, hrecorded⟩ := h.client connection.client rfl
    change connection.client.session = xid at hsession
    obtain ⟨us, htalking⟩ := Client.talking_leave hunderway s
    obtain ⟨us₀, -, htalking₀⟩ := hunderway
    have hleft := Client.recorded_leave htalking₀ hrecorded
    have hacts := Client.acts_leave connection.client s
    have hadds := hacts.adds
    change Site.Adds connection.client.session s _ at hadds
    rw [hsession] at hadds
    have hproper := htalking.proper hleft
    rw [hacts.session_eq, hsession] at hproper
    have hstopped (y : Session) (s' : Site) : (y.logStopped s').journal = s'.journal := by
      unfold logStopped
      split
      · rfl
      · rfl
    unfold beginStop
    dsimp only
    split
    · refine ⟨?_, rfl, hadds.trans (.of_eq (hstopped ..))⟩
      rwa [Site.passages_congr (hstopped ..)]
    · exact ⟨hproper, rfl, hadds⟩

/-- The end of a stop is not noted. -/
theorem journal_finish (p : Stopping) (s : Site) : (p.finish s).2.journal = s.journal := by
  unfold Stopping.finish
  split
  · rfl
  · dsimp only
    unfold logStopped
    split
    · rfl
    · rfl

end Session

namespace Supervisor

variable {s s' : Supervisor}

/-! ### Passes over sessions -/

/-- Does something with the entries of a list in order, at one site. -/
def pass {α β : Type} (f : α → Site → β × Site) : List α → Site → List β × Site
  | [], site => ([], site)
  | a :: rest, site =>
    let (b, site) := f a site
    let (rest, site) := pass f rest site
    (b :: rest, site)

/-- Sessions settle in order, at one site. -/
theorem settleSessions_eq_pass (xs : List Session) (site : Site) :
    settleSessions xs site = pass Session.settle xs site := by
  induction xs generalizing site with
  | nil => rfl
  | cons x xs ih => simp only [settleSessions, pass, ih]

/-- Sessions begin their starts in order, at one site. -/
theorem beginStarts_eq_pass (ctx : SessionContext) (xs : List Session) (site : Site) :
    beginStarts ctx xs site = pass (fun x site => x.beginStart site ctx) xs site := by
  induction xs generalizing site with
  | nil => rfl
  | cons x xs ih => simp only [beginStarts, pass, ih]

/-- A start that comes to its end, with the session and the fault if it has failed. -/
def finished (p : Session.Starting) (site : Site) : (Session × Option SessionFault) × Site :=
  let (r, x, site) := p.finish site
  ((x, match r with
    | .ok () => none
    | .error e => some e), site)

/-- Starts come to their ends in order, at one site. -/
theorem finishStarts_eq_pass (ps : List Session.Starting) (site : Site) :
    finishStarts ps site = pass finished ps site := by
  induction ps generalizing site with
  | nil => rfl
  | cons p ps ih =>
    unfold finishStarts pass finished
    generalize p.finish site = q
    obtain ⟨r, x, s⟩ := q
    cases r with
    | ok => exact congrArg (fun r : List (Session × Option SessionFault) × Site =>
        ((x, none) :: r.1, r.2)) (ih s)
    | error e => exact congrArg (fun r : List (Session × Option SessionFault) × Site =>
        ((x, some e) :: r.1, r.2)) (ih s)

/-- Sessions begin their stops in order, at one site. -/
theorem beginStops_eq_pass (xs : List Session) (site : Site) :
    beginStops xs site = pass Session.beginStop xs site := by
  induction xs generalizing site with
  | nil => rfl
  | cons x xs ih => simp only [beginStops, pass, ih]

/-- What is said of an entry depends on no more than what has passed in its session. -/
def Own {α : Type} (key : α → SessionId) (P : α → Site → Prop) : Prop :=
  ∀ a site site', Site.passages site' (key a) = Site.passages site (key a) → P a site → P a site'

/-- **What is done with one session leaves the others alone.**  If what is done with an entry
adds to what has passed in its own session only, then after a pass over entries of different
sessions each of them is as it should be, and nothing has passed in other sessions. -/
theorem pass_spec {α β : Type} {k : α → SessionId} {l : β → SessionId}
    {P : α → Site → Prop} {Q : β → Site → Prop} {f : α → Site → β × Site} (hP : Own k P)
    (hQ : Own l Q)
    (hf : ∀ a site, P a site → Q (f a site).1 (f a site).2 ∧ l (f a site).1 = k a ∧
      Site.Adds (k a) site (f a site).2)
    (as : List α) (site : Site) (hnodup : (as.map k).Nodup) (h : ∀ a ∈ as, P a site) :
    (∀ b ∈ (pass f as site).1, Q b (pass f as site).2) ∧
      (pass f as site).1.map l = as.map k ∧
      ∀ id ∉ as.map k, (pass f as site).2.passages id = site.passages id := by
  induction as generalizing site with
  | nil => exact ⟨by simp [pass], rfl, fun _ _ => rfl⟩
  | cons a as ih =>
    obtain ⟨ha, has⟩ := List.forall_mem_cons.1 h
    obtain ⟨hfresh, hnodup'⟩ := List.nodup_cons.1 hnodup
    obtain ⟨hfirst, hkey, hadds⟩ := hf a site ha
    obtain ⟨hrest, hkeys, hothers⟩ := ih (f a site).2 hnodup' fun b hb =>
      hP b site _ (hadds.passages_ne fun heq => hfresh (heq ▸ List.mem_map_of_mem hb)) (has b hb)
    have hlater := hothers (k a) hfresh
    refine ⟨List.forall_mem_cons.2 ⟨hQ _ _ _ (hkey.symm ▸ hlater) hfirst, hrest⟩, ?_,
      fun id hid => ?_⟩
    · exact congrArg₂ List.cons hkey hkeys
    · rw [List.map_cons, List.mem_cons, not_or] at hid
      exact (hothers id hid.2).trans (hadds.passages_ne hid.1)

/-! ### Supervisors -/

/-- What has passed in any session is proper, and the sessions that are there have it recorded;
nothing has passed in sessions that there have not been yet. -/
structure Chronicled (s : Supervisor) : Prop where
  nodup : (s.sessions.map Session.id).Nodup
  lt : ∀ x ∈ s.sessions, x.id < s.nextSession
  blank : ∀ id, s.nextSession ≤ id → s.site.passages id = []
  proper : ∀ id, Proper (s.site.passages id)
  sessions : ∀ x ∈ s.sessions, x.Chronicled s.site

/-- Where nothing passes and sessions stay as they are. -/
theorem Chronicled.of_still (h : s.Chronicled) (hsessions : s'.sessions = s.sessions)
    (hnext : s'.nextSession = s.nextSession) (hjournal : s'.site.journal = s.site.journal) :
    s'.Chronicled := by
  have hpassages := Site.passages_congr hjournal
  refine ⟨hsessions ▸ h.nodup, fun x hx => ?_, fun id hid => ?_, fun id => ?_, fun x hx => ?_⟩
  · exact hnext ▸ h.lt x (hsessions ▸ hx)
  · exact (hpassages id).trans (h.blank id (hnext ▸ hid))
  · exact hpassages id ▸ h.proper id
  · exact (h.sessions x (hsessions ▸ hx)).congr (hpassages x.id)

/-- What changes neither sessions nor journal leaves a supervisor chronicled. -/
theorem Chronicled.of_same (h : s.Chronicled) (hs : Same s s') : s'.Chronicled :=
  h.of_still hs.sessions_eq hs.next_eq hs.journal_eq

/-- One session goes on in its own way. -/
theorem Chronicled.put (h : s.Chronicled) {x y : Session} (hx : x ∈ s.sessions) {site : Site}
    (hy : y.Chronicled site) (hid : y.id = x.id) (hadds : Site.Adds x.id s.site site) :
    Chronicled ({ s with site }.putSession y) := by
  have hothers (id : SessionId) (hne : id ≠ x.id) := hadds.passages_ne hne
  have hids : ({ s with site }.putSession y).sessions.map Session.id =
      s.sessions.map Session.id := by
    rw [putSession, List.map_map]
    refine List.map_congr_left fun z _ => ?_
    dsimp only [Function.comp]
    split
    next heq => exact (beq_iff_eq.1 heq).symm
    · rfl
  refine ⟨hids ▸ h.nodup, fun z hz => ?_, fun id hle => ?_, fun id => ?_, fun z hz => ?_⟩
  · obtain ⟨w, hw, hwid⟩ := List.mem_map.1 (hids ▸ List.mem_map_of_mem hz)
    exact hwid ▸ h.lt w hw
  · refine (hothers id ?_).trans (h.blank id hle)
    exact (lt_of_lt_of_le (h.lt x hx) hle).ne'
  · by_cases hne : id = x.id
    · exact hne ▸ hid ▸ hy.proper
    · exact (hothers id hne).symm ▸ h.proper id
  · obtain ⟨w, hw, rfl⟩ := List.mem_map.1 hz
    split
    · exact hy
    next hne =>
      refine (h.sessions w hw).congr (hothers w.id fun heq => hne ?_)
      exact beq_iff_eq.2 (heq.trans hid.symm)

/-- Whether a session is chronicled is its own matter. -/
theorem own_session : Own Session.id Session.Chronicled := fun _ _ _ hs h => h.congr hs

/-- A supervisor that settles stays chronicled. -/
theorem chronicled_settle (h : s.Chronicled) : s.settle.Chronicled := by
  obtain ⟨hsessions, hids, hothers⟩ := pass_spec own_session own_session
    (f := Session.settle) (fun x site hx => (Session.deed_settle x site).chronicled hx)
    s.sessions s.site h.nodup h.sessions
  rw [← settleSessions_eq_pass] at hsessions hids hothers
  have hmem (x : Session) (hx : x ∈ s.settle.sessions) : x.id ∈ s.sessions.map Session.id :=
    hids ▸ List.mem_map_of_mem hx
  refine ⟨hids ▸ h.nodup, fun x hx => ?_, fun id hle => ?_, fun id => ?_, hsessions⟩
  · obtain ⟨w, hw, hwid⟩ := List.mem_map.1 (hmem x hx)
    exact hwid ▸ h.lt w hw
  · refine (hothers id fun hid => ?_).trans (h.blank id hle)
    obtain ⟨w, hw, rfl⟩ := List.mem_map.1 hid
    exact absurd (h.lt w hw) hle.not_gt
  · by_cases hid : id ∈ s.sessions.map Session.id
    · obtain ⟨x, hx, rfl⟩ := List.mem_map.1 (hids ▸ hid)
      exact (hsessions x hx).proper
    · exact (hothers id hid).symm ▸ h.proper id

/-- **Whatever sessions do with their clients, what passes is proper.** -/
theorem Deeds.chronicled (h : Deeds s s') (hs : s.Chronicled) : s'.Chronicled := by
  induction h with
  | refl => exact hs
  | tail _ h ih =>
    cases h with
    | still hsessions hnext hjournal => exact ih.of_still hsessions hnext hjournal
    | put hx h =>
      obtain ⟨hq, hid, hadds⟩ := h.chronicled (ih.sessions _ hx)
      exact ih.put hx hq hid hadds
    | settle => exact chronicled_settle ih

/-! ### Starting and stopping -/

/-- Sessions that have just been planned start: what passes is proper, whether they come through
or fail. -/
theorem chronicled_startSessions (hidle : ∀ x ∈ s.sessions, x.connection = none)
    (hblank : ∀ x ∈ s.sessions, s.site.passages x.id = [])
    (hnodup : (s.sessions.map Session.id).Nodup) (hlt : ∀ x ∈ s.sessions, x.id < s.nextSession)
    (hnext : ∀ id, s.nextSession ≤ id → s.site.passages id = [])
    (hproper : ∀ id, Proper (s.site.passages id)) : s.startSessions.2.Chronicled := by
  obtain ⟨hbegun, hids, hothers⟩ := pass_spec (k := Session.id)
    (l := fun p : Session.Starting => p.session.id)
    (P := fun x site => x.connection = none ∧ site.passages x.id = [])
    (Q := Session.Starting.Chronicled) (fun x site site' hs h => ⟨h.1, hs.trans h.2⟩)
    (fun p site site' hs h => h.congr hs)
    (fun x site h => Session.chronicled_beginStart s.context h.1 h.2)
    s.sessions s.site hnodup fun x hx => ⟨hidle x hx, hblank x hx⟩
  rw [← beginStarts_eq_pass] at hbegun hids hothers
  generalize hstarting : beginStarts s.context s.sessions s.site = begun at hbegun hids hothers
  obtain ⟨hfinished, hids', hothers'⟩ := pass_spec (f := finished)
    (k := fun p : Session.Starting => p.session.id) (l := fun r => r.1.id)
    (P := Session.Starting.Chronicled) (Q := fun r => Session.Chronicled r.1)
    (fun p site site' hs h => h.congr hs) (fun r site site' hs h => h.congr hs)
    (fun p site h => Session.chronicled_finish h) begun.1 begun.2 (hids ▸ hnodup) hbegun
  rw [← finishStarts_eq_pass] at hfinished hids' hothers'
  rw [hids] at hids' hothers'
  unfold startSessions
  rw [hstarting]
  dsimp only
  generalize finishStarts begun.1 begun.2 = p at hfinished hids' hothers' ⊢
  obtain ⟨results, site⟩ := p
  dsimp only at hfinished hids' hothers' ⊢
  have hmem {r : Session × Option SessionFault} (hr : r ∈ results) :
      r.1.id ∈ s.sessions.map Session.id := hids' ▸ List.mem_map_of_mem hr
  have hsame (id : SessionId) (hid : id ∉ s.sessions.map Session.id) :
      site.passages id = s.site.passages id := (hothers' id hid).trans (hothers id hid)
  refine Chronicled.of_same (s := { s with sessions := results.map Prod.fst, site })
    ⟨?_, fun x hx => ?_, fun id hle => ?_, fun id => ?_, fun x hx => ?_⟩
    (same_foldl (fun _ _ => same_log ..) _ _)
  · rw [List.map_map]
    exact hids' ▸ hnodup
  · obtain ⟨r, hr, rfl⟩ := List.mem_map.1 hx
    obtain ⟨w, hw, hwid⟩ := List.mem_map.1 (hmem hr)
    exact hwid ▸ hlt w hw
  · refine (hsame id fun hid => ?_).trans (hnext id hle)
    obtain ⟨w, hw, rfl⟩ := List.mem_map.1 hid
    exact absurd (hlt w hw) hle.not_gt
  · by_cases hid : id ∈ s.sessions.map Session.id
    · obtain ⟨r, hr, rfl⟩ := List.mem_map.1 (hids' ▸ hid)
      exact (hfinished r hr).proper
    · exact (hsame id hid).symm ▸ hproper id
  · obtain ⟨r, hr, rfl⟩ := List.mem_map.1 hx
    exact hfinished r hr

/-- A supervisor that launches its sessions stays chronicled. -/
theorem chronicled_launch (h : s.Chronicled) : s.launch.2.Chronicled := by
  unfold launch
  split
  · exact h.of_same (same_log ..)
  · have hready := (same_watchLockFiles s).trans (same_warnLoaders s.watchLockFiles)
    have h := h.of_same hready
    unfold bringUp
    generalize s.watchLockFiles.warnLoaders = s at h ⊢
    obtain ⟨plans, hsessions, hnext, -, -, hjournal⟩ := planSessions_spec s
    obtain ⟨hids, hidle⟩ := sessionsOf_eq s.nextSession plans
    have hpassages := Site.passages_congr hjournal
    have hbounds : ∀ x ∈ s.planSessions.sessions,
        s.nextSession ≤ x.id ∧ x.id < s.planSessions.nextSession := by
      intro x hx
      have hmem : x.id ∈ List.range' s.nextSession plans.length :=
        hids ▸ List.mem_map_of_mem (hsessions ▸ hx)
      rw [List.mem_range'_1] at hmem
      exact ⟨hmem.1, hnext ▸ hmem.2⟩
    refine chronicled_startSessions (hsessions ▸ hidle) (fun x hx => ?_) ?_ (fun x hx => ?_)
      (fun id hle => ?_) fun id => ?_
    · exact (hpassages x.id).trans (h.blank x.id (hbounds x hx).1)
    · rw [hsessions, hids]
      exact List.nodup_range'
    · exact (hbounds x hx).2
    · rw [hnext] at hle
      exact (hpassages id).trans (h.blank id ((Nat.le_add_right ..).trans hle))
    · exact hpassages id ▸ h.proper id

/-- A supervisor that starts stays chronicled. -/
theorem chronicled_start (h : s.Chronicled) : s.start.2.Chronicled := by
  unfold start
  split
  · have hbegun : Chronicled (({ s with phase := .starting }.log .info
        "Starting extension...").tell (.status (some .loading))) := h.of_still rfl rfl rfl
    exact (chronicled_launch hbegun).of_still rfl rfl rfl
  · exact h

/-- A supervisor that stops stays chronicled. -/
theorem chronicled_stop (h : s.Chronicled) : s.stop.Chronicled := by
  have hjournal (ps : List Session.Stopping) (site : Site) :
      (finishStops ps site).journal = site.journal := by
    induction ps generalizing site with
    | nil => rfl
    | cons p ps ih => exact (ih (p.finish site).2).trans (Session.journal_finish p site)
  unfold stop
  split
  · exact h
  · let begun : Supervisor := { s with phase := .stopping }.log .info "Stopping extension..."
    have hbegun : begun.Chronicled := h.of_still rfl rfl rfl
    obtain ⟨hstopped, hids, hothers⟩ := pass_spec (f := Session.beginStop) own_session
      (l := fun p : Session.Stopping => p.session.id)
      (Q := fun p site => Proper (site.passages p.session.id))
      (fun p site site' hs h => (congrArg Proper hs).mpr h)
      (fun x site hx => by
        obtain ⟨hproper, hid, hadds⟩ := Session.proper_beginStop hx
        exact ⟨hid.symm ▸ hproper, hid, hadds⟩)
      begun.sessions begun.site hbegun.nodup hbegun.sessions
    rw [← beginStops_eq_pass] at hstopped hids hothers
    have hdown : begun.tearDown.Chronicled := by
      have hpassages (id : SessionId) : begun.tearDown.site.passages id =
          (beginStops begun.sessions begun.site).2.passages id :=
        Site.passages_congr (hjournal ..) id
      refine ⟨List.nodup_nil, fun x hx => absurd hx List.not_mem_nil, fun id hle => ?_,
        fun id => ?_, fun x hx => absurd hx List.not_mem_nil⟩
      · refine ((hpassages id).trans (hothers id fun hid => ?_)).trans (hbegun.blank id hle)
        obtain ⟨w, hw, rfl⟩ := List.mem_map.1 hid
        exact absurd (hbegun.lt w hw) (Nat.not_lt.2 hle)
      · rw [hpassages]
        by_cases hid : id ∈ begun.sessions.map Session.id
        · obtain ⟨p, hp, rfl⟩ := List.mem_map.1 (hids ▸ hid)
          exact hstopped p hp
        · exact (hothers id hid).symm ▸ hbegun.proper id
    exact hdown.of_still rfl rfl rfl

/-- A supervisor that restarts stays chronicled. -/
theorem chronicled_restart (h : s.Chronicled) : s.restart.2.Chronicled := by
  unfold restart
  dsimp only
  refine (deeds_foldl deeds_reopen _ _).chronicled (chronicled_start (chronicled_stop ?_))
  exact h.of_still rfl rfl rfl

/-! ### Moves -/

/-- A supervisor that performs a command stays chronicled. -/
theorem chronicled_perform (h : s.Chronicled) (active : Option Path) (c : Command) :
    (s.perform active c).Chronicled := by
  cases c with
  | restart => exact chronicled_restart h
  | showOutput => exact h.of_same (same_tell ..)
  | showCommands => exact h
  | autofix => exact (deeds_autofix s active).chronicled h

/-- A session whose server has stopped says goodbye like the others. -/
theorem chronicled_retire (h : s.Chronicled) {x : Session} (hx : x ∈ s.sessions)
    (reason : StopReason) : (s.retire x reason).Chronicled := by
  obtain ⟨hproper, hid, hadds⟩ := Session.proper_beginStop (h.sessions x hx)
  have hjournal : (x.stop s.site).2.journal = (x.beginStop s.site).2.journal :=
    Session.journal_finish ..
  have hstopped : (x.stop s.site).1.Chronicled (x.stop s.site).2 := by
    refine Session.chronicled_of_idle ?_ (Session.stop_spec x s.site).2
    rw [(Session.stop_spec x s.site).1, Site.passages_congr hjournal]
    exact hproper
  have hput := h.put hx hstopped (Session.stop_spec x s.site).1
    (hadds.trans (.of_eq hjournal))
  unfold retire
  dsimp only
  split
  · exact hput.of_still rfl rfl rfl
  · exact hput.of_still rfl rfl rfl

/-- A supervisor that handles a report stays chronicled. -/
theorem chronicled_handleReport (h : s.Chronicled) (e : ServerEvent) :
    (s.handleReport e).2.Chronicled := by
  unfold handleReport
  split
  · split
    · exact h.of_still rfl rfl rfl
    · exact h
  · split
    · exact h
    next x hx =>
      split
      · exact chronicled_retire h (of_session? hx).1 _
      · exact h

/-- **Every move keeps the conversations proper.** -/
theorem chronicled_after (h : s.Chronicled) (m : Move) : (s.after m).Chronicled := by
  cases m with
  | start => exact chronicled_start h
  | stop => exact chronicled_stop h
  | restart => exact chronicled_restart h
  | opened path text => exact (deeds_openDocument s path text).chronicled h
  | changed path text => exact (deeds_changeDocument s path text).chronicled h
  | closed path => exact (deeds_closeDocument s path).chronicled h
  | fixed path => exact (deeds_fixAllActions s path).chronicled h
  | command active picked c =>
    have hpalette := h.of_same (same_tell s (.palette Command.palette))
    exact execute_cases hpalette (chronicled_perform hpalette active) (chronicled_perform h active)
  | folders paths => exact h.of_still rfl rfl rfl
  | report =>
    change (s.poll 1).2.Chronicled
    unfold poll
    split
    · exact h
    next e s₁ hnext => exact chronicled_handleReport ((deeds_nextReport? hnext).chronicled h) e
  | settle => exact chronicled_settle h
  | read id frames =>
    exact (deeds_withClientOf s id fun c site => .read c site frames).chronicled h
  | act id reaction =>
    exact (deeds_withClientOf s id fun c site => .server c site reaction).chronicled h
  | world disk now => exact h.of_still rfl rfl rfl

/-- Where nothing has passed all is proper. -/
theorem chronicled_of_fresh (h : s.Fresh) : s.Chronicled := by
  have hnothing (id : SessionId) : s.site.passages id = [] := by
    rw [Site.passages, h.journal_eq]
    rfl
  refine ⟨?_, fun x hx => ?_, fun id _ => hnothing id, fun id => ?_, fun x hx => ?_⟩
  · rw [h.sessions_eq]
    exact List.nodup_nil
  · exact absurd hx (h.sessions_eq ▸ List.not_mem_nil)
  · exact hnothing id ▸ Session.proper_nil
  · exact absurd hx (h.sessions_eq ▸ List.not_mem_nil)

/-- **Conversations are proper in every run**, whatever the servers and the supervisor do.
What has passed at any moment in any session that there has been, one that has been stopped, has
lost its server or could not be started among them, is proper: what the server has heard,
answers left out, follows the script, and each message was due when the server heard it.  And
the servers of the sessions that run have heard just what the journal has. -/
theorem conversations_orderly (settings : Settings) (folders : List Path) (logDir : Option Path)
    (processId : Nat) (d : Disk) :
    ∃ s, make settings folders logDir processId (.ofDisk d) = .ok s ∧
      ∀ (moves : List Move) (id : SessionId),
        Proper ((s.run moves).site.passages id) ∧
        ∀ x ∈ (s.run moves).sessions, x.id = id → ∀ c, x.client? = some c →
          c.process.heard = messages ((s.run moves).site.passages id) := by
  obtain ⟨s, hmake, hs⟩ := exists_make settings folders logDir processId d
  have hbegin : s.Chronicled := chronicled_of_fresh hs
  refine ⟨s, hmake, fun moves id => ?_⟩
  have hrun : (s.run moves).Chronicled :=
    run_of_after (P := Chronicled) (fun s m h => chronicled_after h m) hbegin moves
  refine ⟨hrun.proper id, fun x hx hid c hc => ?_⟩
  obtain ⟨hsession, -, hrecorded⟩ := (hrun.sessions x hx).client c hc
  exact hid ▸ hsession ▸ hrecorded.heard_eq

/-- A server hears the whole conversation of a session that has been stopped. -/
theorem whole_conversation_orderly : ∃ s, make .default [Path.ofText "/w"] none 7
      (.ofDisk (diskWith (Script.mk "2.0.0" [] [] false).behaviour [])) = .ok s ∧
    let passages := (s.run [.start, .opened (Path.ofText "/w/a.ts") "let a;",
      .changed (Path.ofText "/w/a.ts") "let b;", .fixed (Path.ofText "/w/a.ts"),
      .closed (Path.ofText "/w/a.ts"), .stop]).site.passages 1
    Proper passages ∧
      (messages passages).filterMap (fun m => (m.member? "method").bind Json.text?) =
      ["initialize", "initialized", "textDocument/didOpen", "textDocument/didChange",
        "textDocument/codeAction", "textDocument/didClose", "shutdown", "exit"] := by
  obtain ⟨s, hmake, h⟩ := conversations_orderly .default [Path.ofText "/w"] none 7
    (diskWith (Script.mk "2.0.0" [] [] false).behaviour [])
  refine ⟨s, hmake, (h _ 1).1, ?_⟩
  obtain rfl := Except.ok.inj hmake
  decide +kernel

end Supervisor
end Switchboard
