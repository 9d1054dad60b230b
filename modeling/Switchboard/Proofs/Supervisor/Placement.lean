/-
# Where documents are open

In every run each open document is open in the first session that serves it and
in no other (`Supervisor.Placed`), exactly as long as no document that is open
is opened again in another session (`placed_run_iff`).  That happens only when
the document is opened under another spelling of its path: the table takes both
spellings for one path, sessions compare them as texts, and opening does not ask
the table (`two_spellings_open_twice`).
-/

import Switchboard.Proofs.Supervisor.Routing
import Switchboard.Proofs.Supervisor.Upkeep

namespace Switchboard
namespace Supervisor

variable {ran : SessionId → Prop} {s : Supervisor}

/-! ### Moves and runs -/

/-- Whether a move opens a document that is open, and it goes to another session
than the one that it is open in. -/
def Reroutes (s : Supervisor) (m : Move) : Prop :=
  ∃ path text id id', m = .opened path text ∧ s.ownerOf? path = some id ∧
    (s.openDocument path text).1.toOption = some (some id') ∧ id' ≠ id

/-- A move that does not give an open document to another session keeps the table right. -/
theorem tabled_after (hs : Sound ran [] s) (h : s.Tabled) {m : Move} (hm : ¬ s.Reroutes m) :
    (s.after m).Tabled := by
  cases m with
  | start => exact tabled_start hs h
  | stop => exact (tabled_stop hs h).1
  | restart => exact tabled_restart hs h
  | opened path text =>
    refine tabled_openDocument h path text fun id id' hown hopened => ?_
    by_contra hne
    exact hm ⟨path, text, id, id', rfl, hown, hopened, hne⟩
  | changed path text => exact tabled_changeDocument h path text
  | closed path => exact tabled_closeDocument h path
  | fixed path => exact tabled_fixAllActions h path
  | command active picked m =>
    have hsame := same_tell s (.palette Command.palette)
    have hpalette : s.openPalette.Tabled := h.stays hsame.stays
    exact execute_cases hpalette (tabled_perform (hs.of_same hsame) hpalette active)
      (tabled_perform hs h active)
  | folders paths => exact h.stays (.of_eq rfl rfl)
  | report => exact tabled_report h
  | settle => exact h.stays (stays_settle s)
  | read id frames => exact h.stays (stays_read h.nodup id frames)
  | act id reaction => exact h.stays (stays_act h.nodup id reaction)
  | world disk now => exact h.stays (.of_eq rfl rfl)

/-- Whether every open document is in its place: an entry of the table names a
session that runs, is the first one in the list that serves the path, and has it
open; what a client has open that can write stands in the table for its session;
and no two such clients have the same document open. -/
structure Placed (s : Supervisor) : Prop where
  served : ∀ e ∈ s.documents, ∃ before x after language, s.sessions = before ++ x :: after ∧
    x.id = e.2 ∧ x.isRunning = true ∧ Language.ofPath? e.1 = some language ∧
    x.isMatch language e.1 = true ∧ (∀ y ∈ before, y.isMatch language e.1 = false) ∧
    x.hasOpen e.1 = true
  listed : ∀ x ∈ s.sessions, ∀ c uri, x.client? = some c → c.writing = true →
    c.documents.isOpen uri = true →
      ∃ e ∈ s.documents, e.2 = x.id ∧ FileUri.ofPath? e.1 = some uri
  once : ∀ x ∈ s.sessions, ∀ y ∈ s.sessions, ∀ c d uri, x.client? = some c → y.client? = some d →
    c.writing = true → d.writing = true → c.documents.isOpen uri = true →
      d.documents.isOpen uri = true → x = y

/-- Where the table is right every document is placed. -/
theorem Tabled.placed (h : s.Tabled) : s.Placed := by
  refine ⟨fun e he => ?_, fun x hx c uri hc => ?_,
    fun x hx y hy c d uri hc hd hcw hdw hco hdo => ?_⟩
  · obtain ⟨language, uri, c, hlanguage, hfirst, huri, hc, hopen⟩ := h.serves e he
    obtain ⟨x, hx, hid⟩ := Option.map_eq_some_iff.1 hfirst
    obtain ⟨hmatch, before, after, hsplit, hbefore⟩ := List.find?_eq_some_iff_append.1 hx
    obtain ⟨y, hy, hyid, -, hyc⟩ := exists_of_clientOf? hc
    obtain rfl := List.inj_on_of_nodup_map h.nodup (List.mem_of_find?_eq_some hx) hy
      (hid.trans hyid.symm)
    obtain ⟨connection, hconnection, rfl⟩ := Session.exists_of_client? hyc
    refine ⟨before, x, after, language, hsplit, hid, ?_, hlanguage, hmatch,
      fun y hy => by simpa using hbefore y hy, ?_⟩
    · rw [Session.isRunning, hconnection]
      rfl
    · simpa [Session.hasOpen, hyc, huri] using hopen
  · exact h.listed x.id c uri (clientOf?_of_mem h.nodup hx hc)
  · obtain ⟨e, he, hex, heuri⟩ := h.listed x.id c uri (clientOf?_of_mem h.nodup hx hc) hcw hco
    obtain ⟨f, hf, hfy, hfuri⟩ := h.listed y.id d uri (clientOf?_of_mem h.nodup hy hd) hdw hdo
    have heq := h.eq_of_same he hf ((FileUri.ofPath?_eq_some_iff heuri).1 hfuri)
    have hid : x.id = y.id := hex.symm.trans ((congrArg Prod.snd heq).trans hfy)
    exact List.inj_on_of_nodup_map h.nodup hx hy hid

/-- In its place a document is served by its session first. -/
theorem Placed.first?_eq (h : s.Placed) {e : Path × SessionId} (he : e ∈ s.documents)
    (hlanguage : Language.ofPath? e.1 = some language) : s.first? language e.1 = some e.2 := by
  obtain ⟨before, x, after, language', hsplit, hid, -, hlanguage', hmatch, hbefore, -⟩ :=
    h.served e he
  obtain rfl := Option.some.inj (hlanguage.symm.trans hlanguage')
  have hfind : s.serving? language e.1 = some x := by
    refine List.find?_eq_some_iff_append.2 ⟨hmatch, before, after, hsplit, fun y hy => ?_⟩
    rw [hbefore y hy]
    rfl
  rw [first?, hfind, Option.map_some, hid]

/-- A document that goes to another session is not in its place any more. -/
theorem not_placed_of_reroutes (h : s.Placed) (hnodup : (s.sessions.map Session.id).Nodup)
    {m : Move} (hm : s.Reroutes m) : ¬ (s.after m).Placed := by
  obtain ⟨path, text, id, id', rfl, hown, hopened, hne⟩ := hm
  intro hafter
  change (s.openDocument path text).2.Placed at hafter
  obtain ⟨language, hlanguage, -, hroster, hdocuments⟩ := openDocument_of_some hnodup hopened
  obtain ⟨e, he, rfl⟩ := Option.map_eq_some_iff.1 hown
  have hsame : e.1.same path = true := by simpa using List.find?_some he
  rw [← Language.ofPath?_of_same hsame] at hlanguage
  have hbefore := h.first?_eq (List.mem_of_find?_eq_some he) hlanguage
  have hentry : (e.1, id') ∈ (s.openDocument path text).2.documents := hdocuments ▸ mem_setOwner he
  have hthen := hafter.first?_eq hentry hlanguage
  rw [first?_eq, hroster, ← first?_eq, hbefore] at hthen
  exact hne (Option.some.inj hthen).symm

/-- Only another spelling of its path takes a document to another session. -/
theorem respelled_of_reroutes (h : s.Tabled) {m : Move} (hm : s.Reroutes m) :
    ∃ path text p id, m = .opened path text ∧ (p, id) ∈ s.documents ∧ p.same path = true ∧
      p ≠ path := by
  obtain ⟨path, text, id, id', rfl, hown, hopened, hne⟩ := hm
  obtain ⟨p, hp, hsame⟩ := exists_of_ownerOf? hown
  refine ⟨path, text, p, id, rfl, hp, hsame, ?_⟩
  rintro rfl
  obtain ⟨language, hlanguage, hfirst, -⟩ := openDocument_of_some h.nodup hopened
  have hplaced := h.placed.first?_eq hp hlanguage
  exact hne (Option.some.inj (hfirst.symm.trans hplaced))

/-- Over a run that reroutes no document the table stays right. -/
theorem tabled_run (hs : s.Fresh) (hnone : s.documents = []) {moves : List Move}
    (h : ∀ front m, front ++ [m] <+: moves → ¬ (s.run front).Reroutes m) :
    (s.run moves).Tabled := by
  induction moves using List.reverseRecOn with
  | nil =>
    refine tabled_of_nil (sound_run hs []).heard.nodup hnone fun x hx => ?_
    change x ∈ s.sessions at hx
    exact absurd hx (hs.sessions_eq ▸ List.not_mem_nil)
  | append_singleton moves m ih =>
    rw [run_append]
    have hearlier := ih fun front m' hfront => h front m' (hfront.trans (List.prefix_append ..))
    exact tabled_after (sound_run hs moves) hearlier (h moves m (List.prefix_refl _))

/-- **Every open document is in its place, exactly as long as none that is open is
opened again in another session**, in every run of a supervisor that is made where
nothing has happened; and the first time this happens the document is opened
under another spelling of its path. -/
theorem placed_run_iff (settings : Settings) (folders : List Path) (logDir : Option Path)
    (processId : Nat) (d : Disk) :
    ∃ s, make settings folders logDir processId (.ofDisk d) = .ok s ∧ ∀ moves : List Move,
      ((∀ front, front <+: moves → (s.run front).Placed) ↔
        ∀ front m, front ++ [m] <+: moves → ¬ (s.run front).Reroutes m) ∧
      ∀ m, (s.run moves).Reroutes m → (∀ front, front <+: moves → (s.run front).Placed) →
        ∃ path text p id, m = .opened path text ∧ (p, id) ∈ (s.run moves).documents ∧
          p.same path = true ∧ p ≠ path := by
  obtain ⟨s, hmake, hs⟩ := exists_make settings folders logDir processId d
  have hnone : s.documents = [] := by
    obtain rfl := Except.ok.inj hmake
    rfl
  have hiff : ∀ moves : List Move, (∀ front, front <+: moves → (s.run front).Placed) ↔
      ∀ front m, front ++ [m] <+: moves → ¬ (s.run front).Reroutes m := by
    intro moves
    constructor
    · intro hplaced front m hfront hm
      refine not_placed_of_reroutes (hplaced front ((List.prefix_append ..).trans hfront))
        (sound_run hs front).heard.nodup hm ?_
      have hafter := hplaced _ hfront
      rwa [run_append] at hafter
    · intro h front hfront
      exact (tabled_run hs hnone fun front' m hfront' => h front' m (hfront'.trans hfront)).placed
  refine ⟨s, hmake, fun moves => ⟨hiff moves, fun m hm hplaced => ?_⟩⟩
  exact respelled_of_reroutes (tabled_run hs hnone ((hiff moves).1 hplaced)) hm

/-! ### Two spellings of a path -/

/-- A project with its own installation inside another one, found before it. -/
def innerProject : Disk :=
  ⟨.directory [(Utf8.encode "w", .directory
    ((Utf8.encode "a", .directory (projectEntries plainServer)) :: projectEntries plainServer))],
    [], Platform.linux⟩

/-- A document that is opened under one spelling of its path and again under another. -/
def spelledTwice : List Move :=
  [.start, .opened (Path.ofText "/w/a/x.ts") "let a;", .opened (Path.ofText "/w/./a/x.ts") "let a;"]

/-- **A document can be open twice**: both sessions have it open and can write, and
the table names the second one, though the first one serves the path that stands
in the table; it does not serve the path as it is spelled the second time. -/
theorem two_spellings_open_twice :
    ∃ s, make .default [Path.ofText "/w"] none 7 (.ofDisk innerProject) = .ok s ∧
      (s.run spelledTwice).documents = [(Path.ofText "/w/a/x.ts", 2)] ∧
      (s.run spelledTwice).first? "typescript" (Path.ofText "/w/a/x.ts") = some 1 ∧
      (s.run spelledTwice).sessions.map (fun x =>
        (x.id, x.hasOpen (Path.ofText "/w/a/x.ts"), x.client?.map Client.writing)) =
        [(1, true, some true), (2, true, some true)] ∧
      ¬ (s.run spelledTwice).Placed := by
  have hrun : ∃ s, make .default [Path.ofText "/w"] none 7 (.ofDisk innerProject) = .ok s ∧
      (s.run spelledTwice).documents = [(Path.ofText "/w/a/x.ts", 2)] ∧
      (s.run spelledTwice).first? "typescript" (Path.ofText "/w/a/x.ts") = some 1 ∧
      (s.run spelledTwice).sessions.map (fun x =>
        (x.id, x.hasOpen (Path.ofText "/w/a/x.ts"), x.client?.map Client.writing)) =
        [(1, true, some true), (2, true, some true)] := ⟨_, rfl, by decide +kernel⟩
  obtain ⟨s, hmake, hdocuments, hfirst, hopen⟩ := hrun
  refine ⟨s, hmake, hdocuments, hfirst, hopen, fun hplaced => ?_⟩
  have hlanguage : Language.ofPath? (Path.ofText "/w/a/x.ts") = some "typescript" := by
    decide +kernel
  have hentry : (Path.ofText "/w/a/x.ts", 2) ∈ (s.run spelledTwice).documents :=
    hdocuments ▸ List.mem_singleton_self _
  have hserved := hplaced.first?_eq hentry hlanguage
  exact absurd (hfirst.symm.trans hserved) (by decide)

end Supervisor
end Switchboard
