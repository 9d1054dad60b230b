/-
# Which session a document goes to

A session that runs claims the files below its projects
(`Session.isMatch_iff`), and a document that is opened goes to the first
session in the list that claims it (`Supervisor.openDocument_routes`).  How
deep a project lies does not count: a session whose project is nested inside
that of another session gets its files only if it stands before the other one,
and the sessions stand in the order of their executables
(`Supervisor.nested_project_shadowed`).
-/

import Switchboard.Proofs.Client.Documents
import Switchboard.Proofs.Glob.Directory
import Switchboard.Proofs.Path.Spelling
import Switchboard.Proofs.Path.Uri
import Switchboard.Proofs.Supervisor.Run
import Switchboard.Server.Script

namespace Switchboard

/-! ### Which files a session claims -/

/-- The language of an extension is one that is supported. -/
theorem Language.isSupported_of_ofExtension? {extension language : String}
    (h : ofExtension? extension = some language) : language ∈ supported := by
  unfold ofExtension? at h
  split at h <;> cases h <;> decide

/-- The language of a path is one that is supported. -/
theorem Language.mem_supported_of_ofPath? {p : Path} {language : String}
    (h : ofPath? p = some language) : language ∈ supported := by
  obtain ⟨_, -, h⟩ := Option.bind_eq_some_iff.1 h
  obtain ⟨_, -, h⟩ := Option.bind_eq_some_iff.1 h
  exact isSupported_of_ofExtension? h

namespace Selector

/-- In a slashed path there is no backslash. -/
theorem not_mem_slashed (p : Path) : '\\' ∉ (slashed p).toList := by
  rw [slashed, String.toList_ofList]
  intro h
  obtain ⟨c, -, hc⟩ := List.mem_map.1 h
  split at hc
  · exact absurd hc (by decide)
  · exact absurd hc ‹_›

/-- A map whose every step succeeds is a plain map. -/
theorem mapM_eq_ok {α β ε : Type} {f : α → Except ε β} {g : α → β} (h : ∀ x, f x = .ok (g x))
    (xs : List α) : xs.mapM f = .ok (xs.map g) := by
  have hf : f = fun x => pure (g x) := funext h
  rw [hf, List.mapM_pure]
  rfl

/-- The filters of some projects with their patterns. -/
def below (projects : List Project) : Selector :=
  ⟨(Language.supported.flatMap fun l => projects.map fun p => (l, p)).map fun entry =>
    (filterOf entry.1 entry.2, Glob.below (slashed entry.2.path))⟩

/-- **Projects always have a selector.** -/
theorem ofProjects_eq (projects : List Project) : ofProjects projects = .ok (below projects) := by
  have hpattern (p : Project) : patternOf p = .ok (Glob.below (slashed p.path)) :=
    Glob.compile_below (not_mem_slashed _)
  rw [ofProjects, mapM_eq_ok (g := fun entry : String × Project =>
    (filterOf entry.1 entry.2, Glob.below (slashed entry.2.path)))]
  · rfl
  · rintro ⟨language, project⟩
    dsimp only
    rw [hpattern]
    rfl

/-- Nothing matches in a language that is not supported. -/
theorem mem_supported_of_isMatch_below {projects : List Project} {language : String} {path : Path}
    (h : (below projects).isMatch language path = true) : language ∈ Language.supported := by
  simp only [isMatch, below, List.any_eq_true, List.mem_map, List.mem_flatMap, Bool.and_eq_true,
    beq_iff_eq] at h
  obtain ⟨-, ⟨-, ⟨_, hsupported, p, -, rfl⟩, rfl⟩, rfl, -⟩ := h
  exact hsupported

/-- A file in a supported language matches where one of the projects covers it. -/
theorem isMatch_below_iff {projects : List Project} {language : String} {path : Path}
    (h : language ∈ Language.supported) :
    (below projects).isMatch language path = true ↔ ∃ p ∈ projects, p.Covers path := by
  simp only [isMatch, below, List.any_eq_true, List.mem_map, List.mem_flatMap, Bool.and_eq_true,
    beq_iff_eq]
  constructor
  · rintro ⟨-, ⟨-, ⟨_, -, p, hp, rfl⟩, rfl⟩, -, hmatch⟩
    exact ⟨p, hp, (Glob.isMatch_below_iff _ _).1 hmatch⟩
  · rintro ⟨p, hp, hcovers⟩
    exact ⟨_, ⟨(language, p), ⟨language, h, p, hp, rfl⟩, rfl⟩, rfl,
      (Glob.isMatch_below_iff _ _).2 hcovers⟩

end Selector

namespace Session

/-- A session claims a file when it runs and one of its projects covers the file. -/
def Claims (x : Session) (path : Path) : Prop :=
  x.isRunning = true ∧ ∃ p ∈ x.projects, p.Covers path

instance (x : Session) (path : Path) : Decidable (x.Claims path) :=
  inferInstanceAs (Decidable (_ ∧ _))

/-- **A session serves the files that it claims**, in any language that is served. -/
theorem isMatch_iff {x : Session} (hx : x.Equipped) {language : String}
    (h : language ∈ Language.supported) (path : Path) :
    x.isMatch language path = true ↔ x.Claims path := by
  unfold isMatch Claims isRunning
  cases hc : x.connection with
  | none => simp
  | some connection =>
    have hselector := hx connection hc
    rw [Selector.ofProjects_eq] at hselector
    change connection.selector.isMatch language path = true ↔ true = true ∧ _
    rw [← Except.ok.inj hselector, Selector.isMatch_below_iff h]
    simp

end Session

/-! ### Giving a text to a session -/

namespace Client

/-- Writing has nothing to do with the documents that are open. -/
theorem writeAll_documents (c : Client) (s : Site) (ms : List Json) (d : Documents) :
    writeAll { c with documents := d } s ms =
      ({ (writeAll c s ms).1 with documents := d }, (writeAll c s ms).2) := by
  induction ms generalizing c s with
  | nil => rfl
  | cons m ms ih =>
    have hheard : isHeard { c with documents := d } = c.isHeard := rfl
    have hblocked : isBlocked { c with documents := d } = c.isBlocked := rfl
    simp only [writeAll, hheard, hblocked]
    split
    · exact ih { c with
        process := (c.process.hear m).2, unread := c.unread ++ (c.process.hear m).1 } _
    · split <;> rfl

/-- How a client acts on a frame does not depend on its documents. -/
theorem act_documents (c : Client) (s : Site) (o : Outcome) (d : Documents) :
    act { c with documents := d } s o =
      ({ (c.act s o).1 with documents := d }, (c.act s o).2) := by
  cases o with
  | answered answer =>
    simp only [act, push]
    split <;> rfl
  | _ => rfl

/-- What a client reads within a bound does not depend on its documents. -/
theorem readWithin_documents (fuel : Nat) (c : Client) (s : Site) (d : Documents) :
    readWithin fuel { c with documents := d } s =
      ({ (readWithin fuel c s).1 with documents := d }, (readWithin fuel c s).2) := by
  induction fuel generalizing c s with
  | zero => rfl
  | succ fuel ih =>
    have hsession : session { c with documents := d } = c.session := rfl
    have hfull : isFull { c with documents := d } = c.isFull := rfl
    simp only [readWithin, hsession, hfull]
    split
    · rfl
    cases Frame.next c.unread with
    | frame value rest =>
      dsimp only
      split
      · rfl
      have hact := act_documents { c with receiver := (c.receiver.handle value).2, unread := rest }
        (s.note c.session c.process.program (.read value)) (c.receiver.handle value).1 d
      exact (congrArg (fun p => readWithin fuel p.1 p.2) hact).trans (ih ..)
    | failed fault => rfl
    | starved atEnd =>
      dsimp only
      split <;> rfl

/-- What a client reads does not depend on its documents. -/
theorem read_documents (c : Client) (s : Site) (d : Documents) :
    read { c with documents := d } s = ({ (c.read s).1 with documents := d }, (c.read s).2) := by
  unfold read
  dsimp only
  split
  · rfl
  · exact readWithin_documents ..

/-- The turns a client takes with its server do not depend on its documents. -/
theorem takeTurns_documents (turns : Nat) (c : Client) (s : Site) (d : Documents) :
    takeTurns (fun _ => false) turns { c with documents := d } s =
      ({ (takeTurns (fun _ => false) turns c s).1 with documents := d },
        (takeTurns (fun _ => false) turns c s).2) := by
  have hflush (c : Client) (s : Site) : flush { c with documents := d } s =
      ({ (c.flush s).1 with documents := d }, (c.flush s).2) :=
    writeAll_documents c s c.outbox d
  induction turns generalizing c s with
  | zero => exact hflush c s
  | succ turns ih =>
    have hquiet : ∀ c : Client, isQuiet { c with documents := d } = c.isQuiet := fun _ => rfl
    simp only [takeTurns, hflush, read_documents, hquiet]
    split
    · rfl
    · exact ih ..

/-- How a client makes room does not depend on its documents. -/
theorem makeRoom_documents (c : Client) (s : Site) (d : Documents) :
    makeRoom { c with documents := d } s =
      ({ (c.makeRoom s).1 with documents := d }, (c.makeRoom s).2) := by
  have hsettle : settle { c with documents := d } s =
      ({ (c.settle s).1 with documents := d }, (c.settle s).2) :=
    takeTurns_documents turnLimit (c.logComplaints s).1 (c.logComplaints s).2 d
  unfold makeRoom
  dsimp only
  rw [hsettle]
  generalize c.settle s = p
  split <;> rfl

/-- To send is to make room and then to put the message into the outbox if writing goes on. -/
theorem send_eq (c : Client) (s : Site) (m : Json) :
    c.send s m = if (c.makeRoom s).1.writing then
        (.ok (), (c.makeRoom s).1.push m, (c.makeRoom s).2)
      else (.error .closed, c.makeRoom s) := rfl

/-- A text is taken as long as writing goes on, and the document is open from then on. -/
theorem sync_eq (c : Client) (s : Site) (uri language text : String) :
    (c.sync s uri language text).1 =
        (if (c.makeRoom s).1.writing then .ok () else .error .closed) ∧
      (c.sync s uri language text).2.1.documents.isOpen uri = true := by
  have hopen := (Documents.isOpen_sync_iff c.documents uri language text uri).2 (.inl rfl)
  have hsync : c.sync s uri language text =
      send { c with documents := (c.documents.sync uri language text).2 } s
        (c.documents.sync uri language text).1 := rfl
  rw [hsync, send_eq, makeRoom_documents]
  split
  · exact ⟨rfl, by rw [(goes_push ..).documents_eq]; exact hopen⟩
  · exact ⟨rfl, hopen⟩

end Client

namespace Session

/-- Whether the client of a session can still write once it has made room. -/
def Writes (x : Session) (s : Site) : Prop :=
  ∃ c, x.client? = some c ∧ (c.makeRoom s).1.writing = true

/-- What becomes of a text that a session which runs is given. -/
theorem sync_spec {x : Session} (hx : x.isRunning = true) (s : Site) {path : Path}
    (hpath : path.isAbsolute = true) (language text : String) :
    (x.sync s path language text).2.1.id = x.id ∧
      (x.Writes s → (x.sync s path language text).1.toOption = some () ∧
        (x.sync s path language text).2.1.hasOpen path = true) ∧
      (¬ x.Writes s → (x.sync s path language text).1 = .error (.client .closed)) := by
  obtain ⟨connection, hc⟩ := Option.isSome_iff_exists.1 hx
  obtain ⟨uri, huri⟩ := Option.isSome_iff_exists.1 (FileUri.isSome_ofPath? hpath)
  have hclient : x.client? = some connection.client := by rw [client?, hc]; rfl
  obtain ⟨hresult, hopen⟩ := connection.client.sync_eq s uri language text
  have hwrites : x.Writes s ↔ (connection.client.makeRoom s).1.writing = true := by
    simp [Writes, hclient]
  have heq : x.sync s path language text =
      ((connection.client.sync s uri language text).1.mapError .client,
        x.withClient (connection.client.sync s uri language text).2.1,
        (connection.client.sync s uri language text).2.2) := by
    rw [sync, huri, hclient]
  rw [heq, hwrites]
  refine ⟨rfl, fun h => ⟨?_, ?_⟩, fun h => ?_⟩
  · rw [hresult, if_pos h]
    rfl
  · simp [hasOpen, withClient, client?, hc, huri, hopen]
  · rw [hresult, if_neg h]
    rfl

end Session

namespace Supervisor

/-! ### Routing -/

/-- Opening a document is the business of one session: if its client still
writes, it has the document open from then on and is its owner, if not, the
fault is the answer and nobody owns what nobody owned; the other sessions are
left as they are. -/
structure Routed (s : Supervisor) (path : Path) (text : String) (x : Session) : Prop where
  kept : x.Writes s.site →
    (s.openDocument path text).1.toOption = some (some x.id) ∧
      (s.openDocument path text).2.ownerOf? path = some x.id ∧
      ∃ y ∈ (s.openDocument path text).2.sessions, y.id = x.id ∧ y.hasOpen path = true
  refused : ¬ x.Writes s.site →
    (s.openDocument path text).1 = .error (.session (.client .closed)) ∧
      (s.openDocument path text).2.documents = s.documents
  others : ∀ y ∈ s.sessions, y.id ≠ x.id → y ∈ (s.openDocument path text).2.sessions

/-- The owner that is set is found. -/
theorem find?_setOwner (path : Path) (id : SessionId) (documents : List (Path × SessionId)) :
    ((setOwner path id documents).find? fun entry => entry.1.same path).map Prod.snd =
      some id := by
  induction documents with
  | nil => simp [setOwner, Path.same]
  | cons entry documents ih =>
    obtain ⟨p, old⟩ := entry
    by_cases hp : p.same path = true
    · simp [setOwner, hp]
    · simp [setOwner, hp, ih]

/-- Putting a session in leaves those of other identities in the list. -/
theorem mem_putSession {s : Supervisor} {x y : Session} (hy : y ∈ s.sessions) (h : y.id ≠ x.id) :
    y ∈ (s.putSession x).sessions :=
  List.mem_map.2 ⟨y, hy, by simp [h]⟩

/-- The session that is put in takes the place of the one with its identity. -/
theorem mem_putSession_self {s : Supervisor} {x y : Session} (hy : y ∈ s.sessions)
    (h : y.id = x.id) : x ∈ (s.putSession x).sessions :=
  List.mem_map.2 ⟨y, hy, by simp [h]⟩

section Found

variable {s s' : Supervisor} {path : Path} {language text : String} {x : Session}

/-- A document is kept by the session that has taken its text. -/
theorem openDocument_of_sync (hlanguage : Language.ofPath? path = some language)
    (hx : s.serving? language path = some x)
    (hsync : s.syncIn x path language text = (.ok (), s')) :
    s.openDocument path text =
      (.ok (some x.id), { s' with documents := setOwner path x.id s'.documents }) := by
  rw [openDocument, hlanguage]
  dsimp only
  rw [hx]
  dsimp only
  rw [hsync]

/-- If the session that serves a document cannot be brought up to date, its fault is the answer. -/
theorem openDocument_of_fault (hlanguage : Language.ofPath? path = some language)
    (hx : s.serving? language path = some x) {e : DocumentFault}
    (hsync : s.syncIn x path language text = (.error e, s')) :
    s.openDocument path text = (.error e, s') := by
  rw [openDocument, hlanguage]
  dsimp only
  rw [hx]
  dsimp only
  rw [hsync]

end Found

/-- A document goes to the session that is found to serve it. -/
theorem routed_of_serving {s : Supervisor} {path : Path} {language : String} {x : Session}
    (habs : path.isAbsolute = true) (hlanguage : Language.ofPath? path = some language)
    (hx : s.serving? language path = some x) (hrun : x.isRunning = true) (text : String) :
    s.Routed path text x := by
  have hmem : x ∈ s.sessions := List.mem_of_find?_eq_some hx
  obtain ⟨hid, hok, hfault⟩ := Session.sync_spec hrun s.site habs language text
  rcases hsync : x.sync s.site path language text with ⟨r, y, site⟩
  have hsyncIn : s.syncIn x path language text =
      (r.mapError .session, { s with site }.putSession y) := by
    unfold syncIn
    rw [hsync]
  rw [hsync] at hid hok hfault
  by_cases hw : x.Writes s.site
  · obtain ⟨hr, hhas⟩ := hok hw
    cases r with
    | error => exact absurd hr (by simp [Except.toOption])
    | ok =>
      have hopen := openDocument_of_sync hlanguage hx hsyncIn
      refine ⟨fun _ => ?_, fun h => absurd hw h, fun z hz hne => ?_⟩
      · rw [hopen]
        exact ⟨rfl, find?_setOwner .., y, mem_putSession_self hmem hid.symm, hid, hhas⟩
      · rw [hopen]
        exact mem_putSession hz (fun h => hne (h.trans hid))
  · obtain rfl := hfault hw
    have hopen := openDocument_of_fault hlanguage hx hsyncIn
    refine ⟨fun h => absurd h hw, fun _ => ?_, fun z hz hne => ?_⟩
    · rw [hopen]
      exact ⟨rfl, rfl⟩
    · rw [hopen]
      exact mem_putSession hz (fun h => hne (h.trans hid))

/-- The first session that claims a file is the one that serves it. -/
theorem serving?_eq_of_first {s : Supervisor} (hs : ∀ x ∈ s.sessions, x.Equipped) {path : Path}
    {language : String} (h : language ∈ Language.supported) {before after : List Session}
    {x : Session} (hsplit : s.sessions = before ++ x :: after) (hx : x.Claims path)
    (hbefore : ∀ y ∈ before, ¬ y.Claims path) : s.serving? language path = some x := by
  have hmem : ∀ y, y ∈ before ∨ y = x → y ∈ s.sessions := by
    rintro y (hy | rfl)
    · exact hsplit ▸ List.mem_append_left _ hy
    · exact hsplit ▸ List.mem_append_right _ (List.mem_cons_self ..)
  have hmatch := (Session.isMatch_iff (hs x (hmem x (.inr rfl))) h path).2 hx
  have hnone : before.find? (fun y => y.isMatch language path) = none := by
    refine List.find?_eq_none.2 fun y hy hy' => hbefore y hy ?_
    exact (Session.isMatch_iff (hs y (hmem y (.inl hy))) h path).1 hy'
  rw [serving?, hsplit, List.find?_append, hnone, Option.none_or]
  exact List.find?_cons_of_pos hmatch

/-- Where a session claims a file, one claims it first. -/
theorem exists_first_of_claims {path : Path} {sessions : List Session}
    (h : ∃ x ∈ sessions, x.Claims path) :
    ∃ before x after, sessions = before ++ x :: after ∧ x.Claims path ∧
      ∀ y ∈ before, ¬ y.Claims path := by
  classical
  obtain ⟨z, hz, hclaims⟩ := h
  obtain ⟨x, hx⟩ := Option.isSome_iff_exists.1
    (List.find?_isSome (p := fun y => decide (Session.Claims y path)).2 ⟨z, hz, by simpa⟩)
  obtain ⟨hclaims, before, after, hsplit, hbefore⟩ := List.find?_eq_some_iff_append.1 hx
  exact ⟨before, x, after, hsplit, by simpa using hclaims, by simpa using hbefore⟩

/-- **A document goes to the first session in the list that claims it**, however
deep the projects lie: a session that claims the file, be it the owner of the
innermost project, has the document if no session before it claims the file,
and otherwise is passed over.  Projects are compared with the file as texts,
which for paths that are written out is containment. -/
theorem openDocument_routes {s : Supervisor} (hs : ∀ x ∈ s.sessions, x.Equipped)
    (hids : (s.sessions.map Session.id).Nodup) {path : Path} (habs : path.isAbsolute = true)
    (hlanguage : (Language.ofPath? path).isSome = true)
    (hclaimed : ∃ x ∈ s.sessions, x.Claims path) (text : String) :
    (∃ before x after, s.sessions = before ++ x :: after ∧ x.Claims path ∧
      (∀ y ∈ before, ¬ y.Claims path) ∧ s.Routed path text x) ∧
    (∀ front z back, s.sessions = front ++ z :: back → z.Claims path →
      ((∀ y ∈ front, ¬ y.Claims path) → s.Routed path text z) ∧
      ((∃ y ∈ front, y.Claims path) →
        (s.openDocument path text).1.toOption ≠ some (some z.id) ∧
          z ∈ (s.openDocument path text).2.sessions)) ∧
    (∀ (p : Project) (ds ns : List Bytes), p.path.WrittenOut ds → path.WrittenOut ns →
      (p.Covers path ↔ p.contains path = true)) := by
  obtain ⟨language, hlanguage⟩ := Option.isSome_iff_exists.1 hlanguage
  have hsupported := Language.mem_supported_of_ofPath? hlanguage
  have hrouted : ∀ before x after, s.sessions = before ++ x :: after → x.Claims path →
      (∀ y ∈ before, ¬ y.Claims path) → s.Routed path text x :=
    fun before x after hsplit hx hbefore => routed_of_serving habs hlanguage
      (serving?_eq_of_first hs hsupported hsplit hx hbefore) hx.1 text
  refine ⟨?_, fun front z back hsplit hz => ⟨hrouted front z back hsplit hz, fun hfront => ?_⟩,
    fun p ds ns hp hpath => Project.covers_iff_contains hp hpath⟩
  · obtain ⟨before, x, after, hsplit, hx, hbefore⟩ := exists_first_of_claims hclaimed
    exact ⟨before, x, after, hsplit, hx, hbefore, hrouted before x after hsplit hx hbefore⟩
  · -- The first session that claims the file stands before `z`, so it is another one.
    obtain ⟨before, x, after, rfl, hx, hbefore⟩ := exists_first_of_claims hfront
    have hroute := hrouted before x (after ++ z :: back) (by rw [hsplit]; simp) hx hbefore
    have hne : z.id ≠ x.id := by
      rw [hsplit] at hids
      simp only [List.map_append, List.map_cons, List.append_assoc, List.cons_append,
        List.nodup_append, List.nodup_cons, List.mem_append, List.mem_cons] at hids
      exact fun h => hids.2.1.1 (.inr (.inl h.symm))
    have hmem : z ∈ s.sessions := hsplit ▸ List.mem_append_right _ (List.mem_cons_self ..)
    refine ⟨fun h => ?_, hroute.others z hmem hne⟩
    by_cases hw : x.Writes s.site
    · rw [(hroute.kept hw).1] at h
      exact hne (Option.some.inj (Option.some.inj h)).symm
    · rw [(hroute.refused hw).1] at h
      exact absurd h (by simp [Except.toOption])

/-! ### A nested project -/

/-- A server that does what servers do. -/
def plainServer : Behaviour := (Script.mk "2.0.0" [] [] false).behaviour

/-- A project with its own installation inside another one. -/
def nestedProjects : Disk :=
  diskWith plainServer [(Utf8.encode "web", .directory (projectEntries plainServer))]

/-- A file of the nested project goes somewhere. -/
theorem openDocument_routes_nested :
    ∃ s, make .default [Path.ofText "/w"] none 7 (.ofDisk nestedProjects) = .ok s ∧
      (Language.ofPath? (Path.ofText "/w/web/a.ts")).isSome = true ∧
      ∃ before x after, (s.run [.start]).sessions = before ++ x :: after ∧
        x.Claims (Path.ofText "/w/web/a.ts") ∧
        (∀ y ∈ before, ¬ y.Claims (Path.ofText "/w/web/a.ts")) ∧
        (s.run [.start]).Routed (Path.ofText "/w/web/a.ts") "let a;\n" x := by
  have hmake : make .default [Path.ofText "/w"] none 7 (.ofDisk nestedProjects) = .ok _ := rfl
  obtain ⟨hequipped, hids⟩ := equipped_run (fresh_of_make hmake) [.start]
  exact ⟨_, hmake, by decide, (openDocument_routes hequipped hids (by decide) (by decide)
    (by decide +kernel) "let a;\n").1⟩

/-- **A nested project can be passed over**: two sessions run, the second one
owns the innermost project that contains the file, and the file goes to the
first one. -/
theorem nested_project_shadowed :
    ∃ s, make .default [Path.ofText "/w"] none 7 (.ofDisk nestedProjects) = .ok s ∧
      (s.run [.start]).sessions.map (fun x => (x.id, x.isRunning, x.projects.map Project.path)) =
        [(1, true, [Path.ofText "/w"]), (2, true, [Path.ofText "/w/web"])] ∧
      (Project.mk (Path.ofText "/w/web")).contains (Path.ofText "/w/web/a.ts") = true ∧
      Language.ofPath? (Path.ofText "/w/web/a.ts") = some "typescript" ∧
      ((s.run [.start]).openDocument (Path.ofText "/w/web/a.ts") "let a;\n").1.toOption =
        some (some 1) ∧
      (s.run [.start, .opened (Path.ofText "/w/web/a.ts") "let a;\n"]).ownerOf?
        (Path.ofText "/w/web/a.ts") = some 1 :=
  ⟨_, rfl, by decide +kernel⟩

end Supervisor
end Switchboard
