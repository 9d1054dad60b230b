/-
# Which documents a restart remembers

A restart opens the documents of the table again, and a document gets into the table
only when it is given to a session.  So what a restart remembers depends on the whole
run (`Supervisor.Remembers`): a session has taken the document in when it was opened,
changed or fixed, and since then it has not been closed, the supervisor has not been
stopped, no restart has failed to open it again, and its server has not stopped.

Hence a restart does not open a document that was opened when no session served it,
nor one whose server has crashed, though it is open for the user all the time
(`Supervisor.restart_forgets`).
-/

import Switchboard.Proofs.History
import Switchboard.Proofs.Supervisor.Restarts

namespace Switchboard
namespace Supervisor

variable {ran : SessionId → Prop} {taken : List ServerEvent} {s : Supervisor}
  {id : SessionId} {path p : Path} {paths : List Path}

/-! ### What a restart takes over -/

/-- Opening one document of the table again adds at most that one to those held. -/
theorem holds_reopen_iff (hs : Sound ran taken s) :
    (s.reopen path).Holds p ↔ s.Holds p ∨ path.same p = true ∧ s.OpensFromDisk path := by
  unfold reopen
  dsimp only
  split
  next fault hread => exact (or_iff_left fun h => not_opensFromDisk hread h.2).symm
  next text hread =>
    rw [holds_openDocument_iff (keeps_settle hs).sound.heard.nodup, opensFromDisk_iff hread]
    rfl

/-- Whether one of some documents that are opened again is given to a session, when its turn
comes, and is this one. -/
def Resumes (s : Supervisor) (paths : List Path) (p : Path) : Prop :=
  ∃ front path back, paths = front ++ path :: back ∧ path.same p = true ∧
    (front.foldl reopen s).OpensFromDisk path

/-- Where nothing is opened again nothing resumes. -/
theorem not_resumes_nil : ¬ s.Resumes [] p := by
  rintro ⟨front, path, back, heq, -⟩
  exact absurd heq (by simp)

/-- Of some documents the first resumes if it is given to a session now, and another when the first
has been. -/
theorem resumes_cons_iff :
    s.Resumes (path :: paths) p ↔
      path.same p = true ∧ s.OpensFromDisk path ∨ (s.reopen path).Resumes paths p := by
  constructor
  · rintro ⟨front, q, back, heq, hsame, hopens⟩
    cases front with
    | nil =>
      obtain ⟨rfl, -⟩ := List.cons.inj heq
      exact .inl ⟨hsame, hopens⟩
    | cons q' front =>
      obtain ⟨rfl, rfl⟩ := List.cons.inj heq
      exact .inr ⟨front, q, back, rfl, hsame, hopens⟩
  · rintro (⟨hsame, hopens⟩ | ⟨front, q, back, rfl, hsame, hopens⟩)
    · exact ⟨[], path, paths, rfl, hsame, hopens⟩
    · exact ⟨path :: front, q, back, rfl, hsame, hopens⟩

/-- After some documents are opened again those are held that were before and those that resume. -/
theorem holds_reopenAll_iff (hs : Sound ran taken s) :
    (paths.foldl reopen s).Holds p ↔ s.Holds p ∨ s.Resumes paths p := by
  induction paths generalizing s with
  | nil => simp [not_resumes_nil]
  | cons path paths ih =>
    rw [List.foldl_cons, ih (keeps_reopen hs path).sound, holds_reopen_iff hs, resumes_cons_iff,
      or_assoc]

/-- Whether a restart opens a document of the table again. -/
def TakesOver (s : Supervisor) (p : Path) : Prop :=
  s.renewed.Resumes (s.documents.map Prod.fst) p

/-- A restart leaves of the documents held exactly those that it opens again. -/
theorem holds_restart_iff (hs : Sound ran [] s) (h : s.Registered) :
    s.restart.2.Holds p ↔ s.Holds p ∧ s.TakesOver p := by
  have hnone : ¬ s.renewed.Holds p := by simp [Holds, documents_renewed hs h]
  rw [restart_eq, holds_reopenAll_iff (sound_renewed hs), or_iff_right hnone]
  refine ⟨fun hover => ⟨?_, hover⟩, fun hover => hover.2⟩
  obtain ⟨front, path, back, heq, hsame, -⟩ := hover
  have hmem : path ∈ s.documents.map Prod.fst :=
    heq ▸ List.mem_append_right _ (List.mem_cons_self ..)
  obtain ⟨e, he, rfl⟩ := List.mem_map.1 hmem
  exact ⟨e, he, hsame⟩

/-! ### Commands -/

/-- Being asked for a command leaves the documents held as they are. -/
theorem asked_spec (hs : Sound ran [] s) (h : s.Registered) (c : Command) :
    Sound ran [] (s.asked c) ∧ (s.asked c).Registered ∧ ((s.asked c).Holds p ↔ s.Holds p) := by
  unfold asked
  split
  · exact ⟨hs.of_same (same_tell ..), h.of_eq rfl rfl, Iff.rfl⟩
  · exact ⟨hs, h, Iff.rfl⟩

/-- Whether a command gives a document to a session. -/
def TakesBy (s : Supervisor) (p : Path) (active : Option Path) : Command → Prop
  | .autofix => ∃ path, active = some path ∧ path.same p = true ∧ s.OpensFromDisk path
  | _ => False

/-- Whether a command loses a document. -/
def LosesBy (s : Supervisor) (p : Path) : Command → Prop
  | .restart => ¬ s.TakesOver p
  | _ => False

/-- What leaves the table as it is gives no document to a session and loses none. -/
theorem holds_iff_of_eq {s' : Supervisor} (h : s'.documents = s.documents) :
    s'.Holds p ↔ s.Holds p ∧ ¬ False ∨ False := by
  rw [holds_of_eq h, not_false_eq_true, and_true, or_false]

/-- A command leaves the documents held that it does not lose, and those that it gives to a session.
-/
theorem holds_perform_iff (hs : Sound ran [] s) (h : s.Registered) (active : Option Path)
    (c : Command) :
    (s.perform active c).Holds p ↔ s.Holds p ∧ ¬ s.LosesBy p c ∨ s.TakesBy p active c := by
  cases c with
  | restart =>
    change s.restart.2.Holds p ↔ s.Holds p ∧ ¬ ¬ s.TakesOver p ∨ False
    rw [holds_restart_iff hs h, not_not, or_false]
  | showOutput => exact holds_iff_of_eq rfl
  | autofix =>
    have hdocuments := documents_autofix s active
    change (s.autofix active).Holds p ↔ s.Holds p ∧ ¬ False ∨
      ∃ path, active = some path ∧ path.same p = true ∧ s.OpensFromDisk path
    cases active with
    | none => simp [holds_of_eq hdocuments]
    | some path => simp [holds_of_eq hdocuments, holds_fixAllActions_iff hs]
  | showCommands => exact holds_iff_of_eq rfl

/-! ### Moves -/

/-- Whether a move gives a document to a session. -/
def Takes (s : Supervisor) (p : Path) : Move → Prop
  | .opened path text =>
    path.same p = true ∧ ∃ id, (s.openDocument path text).1.toOption = some (some id)
  | .changed path text =>
    path.same p = true ∧ ∃ id, (s.changeDocument path text).1.toOption = some (some id)
  | .fixed path => path.same p = true ∧ s.OpensFromDisk path
  | .command active picked c =>
    ∃ c', chosen? picked c = some c' ∧ (s.asked c).TakesBy p active c'
  | _ => False

/-- Whether a move loses a document: the document is closed, all are, it is not opened again by
a restart, or its server has stopped. -/
def Loses (s : Supervisor) (p : Path) : Move → Prop
  | .stop => True
  | .restart => ¬ s.TakesOver p
  | .closed path => path.same p = true
  | .command _ picked c => ∃ c', chosen? picked c = some c' ∧ (s.asked c).LosesBy p c'
  | .report => ∃ id, s.ownerOf? p = some id ∧ s.Ends id
  | _ => False

/-- The entry of a path is the only one for it. -/
theorem Registered.ownerOf?_eq (h : s.Registered) {e : Path × SessionId} (he : e ∈ s.documents)
    (hsame : e.1.same p = true) : s.ownerOf? p = some e.2 := by
  obtain ⟨id, hown⟩ := holds_iff_ownerOf?.1 ⟨e, he, hsame⟩
  obtain ⟨q, hq, hqp⟩ := exists_of_ownerOf? hown
  have hsymm : Std.Symm fun e f : Path × SessionId => ¬ e.1.same f.1 = true :=
    ⟨fun _ _ hn hs => hn (Path.same_symm hs)⟩
  have heq : e = (q, id) := by
    by_contra hne
    exact h.distinct.forall he hq hne (Path.same_trans hsame (Path.same_symm hqp))
  rw [hown, heq]

/-- A report costs the documents of the session that it ends, and no others. -/
theorem holds_report_iff (hs : Sound ran [] s) (h : s.Registered) :
    (s.poll 1).2.Holds p ↔ s.Holds p ∧ ¬ ∃ id, s.ownerOf? p = some id ∧ s.Ends id := by
  have hdocuments := (documents_report hs h).1
  constructor
  · rintro ⟨e, he, hsame⟩
    obtain ⟨he, hlives⟩ := (hdocuments e).1 he
    refine ⟨⟨e, he, hsame⟩, fun ⟨id, hown, hends⟩ => hlives ?_⟩
    rwa [Option.some.inj ((h.ownerOf?_eq he hsame).symm.trans hown)]
  · rintro ⟨⟨e, he, hsame⟩, hlives⟩
    exact ⟨e, (hdocuments e).2 ⟨he, fun hends => hlives ⟨e.2, h.ownerOf?_eq he hsame, hends⟩⟩,
      hsame⟩

/-- **A document is in the table after a move if the move gives it to a session, or if it was
before and the move does not lose it.** -/
theorem holds_after_iff (hs : Sound ran [] s) (h : s.Registered) (m : Move) :
    (s.after m).Holds p ↔ s.Holds p ∧ ¬ s.Loses p m ∨ s.Takes p m := by
  cases m with
  | start => exact holds_iff_of_eq (documents_start s)
  | stop =>
    have hnone : ¬ s.stop.Holds p := by simp [Holds, documents_stop hs h]
    exact ⟨fun hp => absurd hp hnone, fun hp => hp.elim (fun hp => absurd trivial hp.2) False.elim⟩
  | restart =>
    change s.restart.2.Holds p ↔ s.Holds p ∧ ¬ ¬ s.TakesOver p ∨ False
    rw [holds_restart_iff hs h, not_not, or_false]
  | opened path text =>
    change (s.openDocument path text).2.Holds p ↔ s.Holds p ∧ ¬ False ∨ _
    rw [holds_openDocument_iff hs.heard.nodup, not_false_eq_true, and_true]
    rfl
  | changed path text =>
    change (s.changeDocument path text).2.Holds p ↔ s.Holds p ∧ ¬ False ∨ _
    rw [holds_changeDocument_iff hs.heard.nodup h, not_false_eq_true, and_true]
    rfl
  | closed path =>
    change (s.closeDocument path).2.Holds p ↔ s.Holds p ∧ ¬ path.same p = true ∨ False
    rw [holds_closeDocument_iff, or_false]
  | fixed path =>
    change (s.fixAllActions path).2.Holds p ↔ s.Holds p ∧ ¬ False ∨ _
    rw [holds_fixAllActions_iff hs, not_false_eq_true, and_true]
    rfl
  | command active picked c =>
    obtain ⟨hsound, hregistered, hholds⟩ := asked_spec (p := p) hs h c
    change (s.execute active picked c).Holds p ↔ s.Holds p ∧
      ¬ (∃ c', chosen? picked c = some c' ∧ (s.asked c).LosesBy p c') ∨
        ∃ c', chosen? picked c = some c' ∧ (s.asked c).TakesBy p active c'
    rw [execute_eq]
    cases chosen? picked c with
    | none => simp [performPicked, hholds]
    | some c' => simp [performPicked, holds_perform_iff hsound hregistered, hholds]
  | folders paths => exact holds_iff_of_eq rfl
  | report =>
    change (s.poll 1).2.Holds p ↔ s.Holds p ∧ ¬ (∃ id, s.ownerOf? p = some id ∧ s.Ends id) ∨ False
    rw [holds_report_iff hs h, or_false]
  | settle => exact holds_iff_of_eq rfl
  | read id frames => exact holds_iff_of_eq (stays_read hs.heard.nodup id frames).documents_eq
  | act id reaction => exact holds_iff_of_eq (stays_act hs.heard.nodup id reaction).documents_eq
  | world disk now => exact holds_iff_of_eq rfl

/-! ### Runs -/

/-- Whether a supervisor remembers a document after moves: one of them has given it to a session,
and none since has lost it. -/
def Remembers (s : Supervisor) (moves : List Move) (p : Path) : Prop :=
  History.Since (fun front m => (s.run front).Takes p m) (fun front m => (s.run front).Loses p m)
    moves

/-- The table holds what is remembered. -/
theorem holds_run_iff (hs : s.Fresh) (h : s.Registered) (hnone : s.documents = [])
    (moves : List Move) : (s.run moves).Holds p ↔ s.Remembers moves p := by
  induction moves using List.reverseRecOn with
  | nil =>
    have hempty : ¬ s.Holds p := by simp [Holds, hnone]
    exact ⟨fun hp => absurd hp hempty, fun hp => absurd hp History.not_since_nil⟩
  | append_singleton moves m ih =>
    rw [Remembers, History.since_concat_iff, ← Remembers, ← ih, run_append]
    exact holds_after_iff (sound_run hs moves) (registered_run hs h moves) m

/-- After a restart those documents are open that the table held before, whose files hold a text
when their turn comes, and that a session serves. -/
theorem hasOpen_restart_iff (hs : Sound ran [] s) (hsteady : s.Steady) (h : s.Registered) :
    (∃ x ∈ s.restart.2.sessions, x.hasOpen p = true) ↔
      ∃ e ∈ s.documents, e.1.same p = true ∧ (∃ text, s.Rereads e.1 text) ∧
        (s.restart.2.serves? e.1).isSome = true := by
  have hnodup := (sound_renewed hs).heard.nodup
  have hnodup' : (s.restart.2.sessions.map Session.id).Nodup :=
    (keeps_reopenAll (sound_renewed hs) _).sound.heard.nodup
  have hiff : ∀ {i d'}, s.restart.2.clientOf? i = some d' → ∀ u,
      d'.documents.isOpen u = true ↔ ∃ q text,
        s.renewed.Revives (s.documents.map Prod.fst) q i text ∧ FileUri.ofPath? q = some u := by
    intro i d' hd' u
    obtain ⟨d, hd, hopen⟩ := isOpen_reopenAll hnodup hd'
    rw [hopen u, or_iff_right (not_isOpen_renewed hs hsteady hd u)]
  constructor
  · rintro ⟨x, hx, hopen⟩
    unfold Session.hasOpen at hopen
    split at hopen
    next c uri hc huri =>
      obtain ⟨q, text, hrevives, hq⟩ := (hiff (clientOf?_of_mem hnodup' hx hc) uri).1 hopen
      obtain ⟨e, he, rfl⟩ := List.mem_map.1 hrevives.mem
      obtain ⟨hread, hfirst⟩ := (revives_renewed_iff hs).1 hrevives
      exact ⟨e, he, (FileUri.ofPath?_eq_some_iff hq).1 huri, ⟨text, hread⟩,
        Option.isSome_iff_exists.2 ⟨x.id, hfirst⟩⟩
    · exact absurd hopen (by simp)
  · rintro ⟨e, he, hsame, ⟨text, hread⟩, hserved⟩
    obtain ⟨id, hfirst⟩ := Option.isSome_iff_exists.1 hserved
    obtain ⟨uri, huri⟩ := Option.isSome_iff_exists.1 (h.hasUri e he)
    obtain ⟨language, -, hlanguage⟩ := serves?_eq_some_iff.1 hfirst
    obtain ⟨x, hx, rfl⟩ := Option.map_eq_some_iff.1 hlanguage
    obtain ⟨hmem, c, hc⟩ := exists_client_of_serving? hx
    have hrevives := (revives_renewed_iff hs).2 ⟨hread, hfirst⟩
    have hopen := (hiff (clientOf?_of_mem hnodup' hmem hc) uri).2 ⟨e.1, text, hrevives, huri⟩
    refine ⟨x, hmem, ?_⟩
    simpa [Session.hasOpen, hc, (FileUri.ofPath?_eq_some_iff huri).2 hsame] using hopen

/-- **A restart opens the documents that are remembered again**, in every run: those that a
session has taken in and that have not been lost since.  The table says which ones these are;
each is open in a session after the restart exactly when its file holds a text when its turn
comes and a session serves it, under the path that stands in the table. -/
theorem restart_opens_remembered (settings : Settings) (folders : List Path)
    (logDir : Option Path) (processId : Nat) (d : Disk) :
    ∃ s, make settings folders logDir processId (.ofDisk d) = .ok s ∧
      ∀ (moves : List Move) (p : Path),
        (s.Remembers moves p ↔ ∃ e ∈ (s.run moves).documents, e.1.same p = true) ∧
        ((∃ x ∈ (s.run moves).restart.2.sessions, x.hasOpen p = true) ↔
          ∃ e ∈ (s.run moves).documents, e.1.same p = true ∧
            (∃ text, (s.run moves).Rereads e.1 text) ∧
            ((s.run moves).restart.2.serves? e.1).isSome = true) := by
  obtain ⟨s, hmake, hs⟩ := exists_make settings folders logDir processId d
  have hnone := documents_of_make hmake
  have hregistered := registered_of_nil hnone
  refine ⟨s, hmake, fun moves p => ⟨(holds_run_iff hs hregistered hnone moves).symm, ?_⟩⟩
  exact hasOpen_restart_iff (sound_run hs moves) ((steady_of_make hmake).run moves)
    (registered_run hs hregistered moves)

/-- The project of `projectWithFile` before its packages are installed. -/
def projectWithoutPackages : Disk :=
  ⟨.directory [(Utf8.encode "w", .directory
    ((projectEntries plainServer).filter (fun entry => entry.1 != Utf8.encode "node_modules") ++
      [(Utf8.encode "a.ts", .file (Utf8.encode "let a;\n") false)]))], [], Platform.linux⟩

/-- A document is opened, and then the packages are installed. -/
def openedTooEarly : List Move :=
  [.start, .opened (.ofText "/w/a.ts") "let a;\n", .world projectWithFile 0]

/-- A document is opened, and then its server exits. -/
def openedAndCrashed : List Move :=
  [.start, .opened (.ofText "/w/a.ts") "let a;\n", .act 1 ⟨[], false, true, false⟩, .settle,
    .report]

/-- **A restart can forget a document that has not been closed**, though its file holds a text and
a session of the restart claims it: no session served it when it was opened, or its server has
crashed since. -/
theorem restart_forgets :
    (∃ s, make .default [Path.ofText "/w"] none 7 (.ofDisk projectWithoutPackages) = .ok s ∧
      (s.run openedTooEarly).restart.2.site.disk.readText (.ofText "/w/a.ts") = .ok "let a;\n" ∧
      (s.run openedTooEarly).restart.2.serves? (.ofText "/w/a.ts") = some 1 ∧
      ((s.run openedTooEarly).restart.2.sessions.any fun x => x.hasOpen (.ofText "/w/a.ts")) =
        false) ∧
    ∃ s, make .default [Path.ofText "/w"] none 7 (.ofDisk projectWithFile) = .ok s ∧
      (s.run openedAndCrashed).restart.2.site.disk.readText (.ofText "/w/a.ts") = .ok "let a;\n" ∧
      (s.run openedAndCrashed).restart.2.serves? (.ofText "/w/a.ts") = some 2 ∧
      ((s.run openedAndCrashed).restart.2.sessions.any fun x => x.hasOpen (.ofText "/w/a.ts")) =
        false :=
  ⟨⟨_, rfl, by decide +kernel⟩, _, rfl, by decide +kernel⟩

end Supervisor
end Switchboard
