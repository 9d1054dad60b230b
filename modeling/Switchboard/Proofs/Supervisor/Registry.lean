/-
# What the table of documents holds

In every run the table has at most one entry for a path, the path has a URI, and
the session of an entry runs (`Supervisor.registered_run`).  Unlike `Tabled`, this
does not depend on how the paths are spelled.  With it, each operation has one
effect on the table: opening and changing add the path that is given to a session,
closing takes it out, a server that has stopped takes its entries with it, and
nothing else does anything (`Supervisor.Holds`).
-/

import Switchboard.Proofs.Supervisor.Rest
import Switchboard.Proofs.Supervisor.Upkeep

namespace Switchboard
namespace Supervisor

variable {ran : SessionId → Prop} {taken : List ServerEvent} {s s' : Supervisor}
  {id : SessionId} {path p : Path} {text : String}

/-! ### Entries -/

/-- Whether the table has an entry for a path. -/
def Holds (s : Supervisor) (path : Path) : Prop := ∃ e ∈ s.documents, e.1.same path = true

/-- A document is held exactly if the table has an owner for it. -/
theorem holds_iff_ownerOf? : s.Holds path ↔ ∃ id, s.ownerOf? path = some id := by
  rw [Holds, ← Option.isSome_iff_exists, ownerOf?, Option.isSome_map, List.find?_isSome]

/-- The table has an entry for a path if it has one for a path that is the same. -/
theorem Holds.of_same (h : s.Holds path) (hsame : path.same p = true) : s.Holds p := by
  obtain ⟨e, he, hpath⟩ := h
  exact ⟨e, he, Path.same_trans hpath hsame⟩

/-- What is held is a matter of the table alone. -/
theorem holds_of_eq (h : s'.documents = s.documents) : s'.Holds p ↔ s.Holds p := by
  rw [Holds, Holds, h]

/-- What a table with a new owner has an entry for. -/
theorem exists_mem_setOwner_iff {documents : List (Path × SessionId)} :
    (∃ e ∈ setOwner path id documents, e.1.same p = true) ↔
      (∃ e ∈ documents, e.1.same p = true) ∨ path.same p = true := by
  induction documents with
  | nil => simp [setOwner]
  | cons e documents ih =>
    obtain ⟨q, old⟩ := e
    rw [setOwner]
    split
    next hq =>
      simp only [List.mem_cons, exists_eq_or_imp]
      exact (or_iff_left_of_imp fun h => .inl (Path.same_trans hq h)).symm
    · simp only [List.mem_cons, exists_eq_or_imp, ih, or_assoc]

/-- An entry of the table after an owner is set stood there before or is the one for that path. -/
theorem mem_of_mem_setOwner {documents : List (Path × SessionId)} {e : Path × SessionId}
    (h : e ∈ setOwner path id documents) :
    e ∈ documents ∨ e.2 = id ∧ (e.1 = path ∨ e.1.same path = true) := by
  induction documents with
  | nil =>
    obtain rfl := List.mem_singleton.1 h
    exact .inr ⟨rfl, .inl rfl⟩
  | cons f documents ih =>
    obtain ⟨q, old⟩ := f
    rw [setOwner] at h
    split at h
    next hq =>
      rcases List.mem_cons.1 h with rfl | h
      · exact .inr ⟨rfl, .inr hq⟩
      · exact .inl (List.mem_cons_of_mem _ h)
    · rcases List.mem_cons.1 h with rfl | h
      · exact .inl (List.mem_cons_self ..)
      · exact (ih h).imp_left (List.mem_cons_of_mem _)

/-- Setting an owner leaves one entry for a path. -/
theorem distinct_setOwner {documents : List (Path × SessionId)}
    (h : documents.Pairwise fun e f => ¬ e.1.same f.1 = true) :
    (setOwner path id documents).Pairwise fun e f => ¬ e.1.same f.1 = true := by
  induction documents with
  | nil => exact List.pairwise_singleton ..
  | cons e documents ih =>
    obtain ⟨q, old⟩ := e
    obtain ⟨hq, hdocuments⟩ := List.pairwise_cons.1 h
    rw [setOwner]
    split
    · exact List.pairwise_cons.2 ⟨hq, hdocuments⟩
    next hne =>
      refine List.pairwise_cons.2 ⟨fun f hf hsame => ?_, ih hdocuments⟩
      rcases (exists_mem_setOwner_iff (p := q)).1 ⟨f, hf, Path.same_symm hsame⟩ with
        ⟨e, he, heq⟩ | hpath
      · exact hq e he (Path.same_symm heq)
      · exact hne (Path.same_symm hpath)

/-! ### The invariant -/

/-- No two entries are for the same path, every entry's path has a URI, and its
session runs. -/
structure Registered (s : Supervisor) : Prop where
  distinct : s.documents.Pairwise fun e f => ¬ e.1.same f.1 = true
  hasUri : ∀ e ∈ s.documents, (FileUri.ofPath? e.1).isSome = true
  running : ∀ e ∈ s.documents, (e.2, true) ∈ s.roll

/-- With no document in the table nothing has to be on the roll. -/
theorem registered_of_nil (h : s.documents = []) : s.Registered :=
  ⟨by simp [h], by simp [h], by simp [h]⟩

/-- A table stays right when its entries become fewer and their sessions go on. -/
theorem Registered.sublist (h : s.Registered) (hdocuments : s'.documents.Sublist s.documents)
    (hrunning : ∀ e ∈ s'.documents, (e.2, true) ∈ s.roll → (e.2, true) ∈ s'.roll) :
    s'.Registered :=
  ⟨h.distinct.sublist hdocuments, fun e he => h.hasUri e (hdocuments.subset he),
    fun e he => hrunning e he (h.running e (hdocuments.subset he))⟩

/-- Being registered is a matter of the table and the roll. -/
theorem Registered.of_eq (h : s.Registered) (hdocuments : s'.documents = s.documents)
    (hroll : s'.roll = s.roll) : s'.Registered :=
  h.sublist (hdocuments ▸ List.Sublist.refl _) fun _ _ hrun => hroll ▸ hrun

/-- A path that has a URI may be given an owner that is on the roll as started. -/
theorem Registered.own (h : s.Registered) (huri : (FileUri.ofPath? path).isSome = true)
    (hid : (id, true) ∈ s.roll) (hdocuments : s'.documents = setOwner path id s.documents)
    (hroll : s'.roll = s.roll) : s'.Registered := by
  have hsame : ∀ q : Path, q.same path = true → (FileUri.ofPath? q).isSome = true := by
    intro q hq
    obtain ⟨uri, huri⟩ := Option.isSome_iff_exists.1 huri
    rw [(FileUri.ofPath?_eq_some_iff huri).2 (Path.same_symm hq)]
    rfl
  refine ⟨?_, fun e he => ?_, fun e he => ?_⟩
  · rw [hdocuments]
    exact distinct_setOwner h.distinct
  · rcases mem_of_mem_setOwner (hdocuments ▸ he) with he | ⟨-, rfl | he⟩
    · exact h.hasUri e he
    · exact huri
    · exact hsame _ he
  · rw [hroll]
    rcases mem_of_mem_setOwner (hdocuments ▸ he) with he | ⟨hid', -⟩
    · exact h.running e he
    · exact hid' ▸ hid

/-- The owner of a document is in the list and runs. -/
theorem Registered.exists_owner (h : s.Registered) (hnodup : (s.sessions.map Session.id).Nodup)
    (hown : s.ownerOf? path = some id) :
    ∃ x ∈ s.sessions, x.id = id ∧ s.session? id = some x ∧ x.isRunning = true := by
  obtain ⟨q, hq, -⟩ := exists_of_ownerOf? hown
  obtain ⟨x, hx, rfl, hrun⟩ := mem_roll_iff.1 (h.running _ hq)
  exact ⟨x, hx, rfl, session?_of_mem hnodup hx, hrun⟩

/-! ### Opening, changing and closing -/

/-- A session with a client stands on the roll as started. -/
theorem mem_roll_of_clientOf? {c : Client} (h : s.clientOf? id = some c) : (id, true) ∈ s.roll := by
  obtain ⟨x, hx, rfl, -, hc⟩ := exists_of_clientOf? h
  obtain ⟨connection, hconnection, -⟩ := Session.exists_of_client? hc
  exact mem_roll_iff.2 ⟨x, hx, rfl, by rw [Session.isRunning, hconnection]; rfl⟩

/-- Opening a document sets its owner if it is given to a session, and else leaves the table. -/
theorem documents_openDocument (h : (s.sessions.map Session.id).Nodup) (path : Path)
    (text : String) :
    (∀ id, (s.openDocument path text).1.toOption ≠ some (some id)) ∧
        (s.openDocument path text).2.documents = s.documents ∨
      ∃ id, (s.openDocument path text).1.toOption = some (some id) ∧
        (s.openDocument path text).2.documents = setOwner path id s.documents ∧
        (FileUri.ofPath? path).isSome = true ∧ (id, true) ∈ s.roll := by
  obtain ⟨-, heq⟩ | ⟨language, id, c, c', r, s', -, -, hgives, heq⟩ :=
    openDocument_cases h path text
  · rw [heq]
    exact .inl ⟨fun id hid => absurd hid (by simp [Except.toOption]), rfl⟩
  have hdocuments : s'.documents = s.documents := hgives.puts.documents_eq
  obtain ⟨e, -, heq⟩ | ⟨rfl, heq⟩ := heq
  · rw [heq]
    exact .inl ⟨fun id hid => absurd hid (by simp [Except.toOption]), hdocuments⟩
  · rw [heq]
    refine .inr ⟨id, rfl, congrArg (setOwner path id) hdocuments, ?_,
      mem_roll_of_clientOf? hgives.puts.was⟩
    cases huri : FileUri.ofPath? path with
    | none => exact absurd rfl (hgives.refused huri).2
    | some uri => rfl

/-- Opening a document keeps the table registered. -/
theorem registered_openDocument (hs : Sound ran taken s) (h : s.Registered) (path : Path)
    (text : String) : (s.openDocument path text).2.Registered := by
  have hroll := (keeps_openDocument hs path text).roll_eq
  rcases documents_openDocument hs.heard.nodup path text with
    ⟨-, hdocuments⟩ | ⟨id, -, hdocuments, huri, hid⟩
  · exact h.of_eq hdocuments hroll
  · exact h.own huri hid hdocuments hroll

/-- An open adds the document to those held if it finds a session for it, and drops none. -/
theorem holds_openDocument_iff (hnodup : (s.sessions.map Session.id).Nodup) :
    (s.openDocument path text).2.Holds p ↔ s.Holds p ∨ path.same p = true ∧
      ∃ id, (s.openDocument path text).1.toOption = some (some id) := by
  rcases documents_openDocument hnodup path text with ⟨hnone, hdocuments⟩ | ⟨id, hid, hdocuments, -⟩
  · rw [holds_of_eq hdocuments]
    exact (or_iff_left fun ⟨_, id, hid⟩ => hnone id hid).symm
  · rw [Holds, hdocuments, exists_mem_setOwner_iff, and_iff_left ⟨id, hid⟩]
    rfl

/-- A change leaves the table when the document is in it. -/
theorem documents_changeDocument (hnodup : (s.sessions.map Session.id).Nodup) (h : s.Registered)
    (hheld : s.Holds path) (text : String) :
    (s.changeDocument path text).2.documents = s.documents := by
  obtain ⟨id, hown⟩ := holds_iff_ownerOf?.1 hheld
  obtain ⟨x, -, -, hx, -⟩ := h.exists_owner hnodup hown
  unfold changeDocument
  rw [hown]
  dsimp only
  split
  · rfl
  · rw [hx]
    dsimp only
    split
    next heq => exact congrArg (fun p => p.2.documents) heq.symm
    next heq => exact congrArg (fun p => p.2.documents) heq.symm

/-- A change to a document nobody holds is an open of it. -/
theorem changeDocument_of_not_holds (h : ¬ s.Holds path) (text : String) :
    s.changeDocument path text = s.openDocument path text := by
  have hnone : s.ownerOf? path = none := by
    rw [Option.eq_none_iff_forall_ne_some]
    exact fun id hid => h (holds_iff_ownerOf?.2 ⟨id, hid⟩)
  rw [changeDocument, hnone]

/-- Changing a document keeps the table registered. -/
theorem registered_changeDocument (hs : Sound ran taken s) (h : s.Registered) (path : Path)
    (text : String) : (s.changeDocument path text).2.Registered := by
  by_cases hheld : s.Holds path
  · exact h.of_eq (documents_changeDocument hs.heard.nodup h hheld text)
      (keeps_changeDocument hs path text).roll_eq
  · rw [changeDocument_of_not_holds hheld]
    exact registered_openDocument hs h path text

/-- A change adds the document to those held if it finds a session for it, and drops none. -/
theorem holds_changeDocument_iff (hnodup : (s.sessions.map Session.id).Nodup) (h : s.Registered) :
    (s.changeDocument path text).2.Holds p ↔ s.Holds p ∨ path.same p = true ∧
      ∃ id, (s.changeDocument path text).1.toOption = some (some id) := by
  by_cases hheld : s.Holds path
  · rw [holds_of_eq (documents_changeDocument hnodup h hheld text)]
    exact (or_iff_left_of_imp fun hp => hheld.of_same hp.1).symm
  · rw [changeDocument_of_not_holds hheld]
    exact holds_openDocument_iff hnodup

/-- Closing a document takes it out of the table. -/
theorem documents_closeDocument (s : Supervisor) (path : Path) :
    (s.closeDocument path).2.documents = s.documents.filter fun e => !e.1.same path := by
  unfold closeDocument
  split
  next hnone =>
    refine (List.filter_eq_self.2 fun e he => ?_).symm
    simpa using ownerOf?_eq_none_iff.1 hnone e he
  · dsimp only
    split <;> rfl

/-- Closing a document keeps the table registered. -/
theorem registered_closeDocument (hs : Sound ran taken s) (h : s.Registered) (path : Path) :
    (s.closeDocument path).2.Registered := by
  refine h.sublist ?_ fun e _ hrun => (keeps_closeDocument hs path).roll_eq ▸ hrun
  rw [documents_closeDocument]
  exact List.filter_sublist

/-- A close drops the document and no other. -/
theorem holds_closeDocument_iff :
    (s.closeDocument path).2.Holds p ↔ s.Holds p ∧ ¬ path.same p = true := by
  simp only [Holds, documents_closeDocument, List.mem_filter, Bool.not_eq_true', Bool.not_eq_true]
  constructor
  · rintro ⟨e, ⟨he, hne⟩, hp⟩
    refine ⟨⟨e, he, hp⟩, ?_⟩
    rw [← Bool.not_eq_true] at hne ⊢
    exact fun hpath => hne (Path.same_trans hp (Path.same_symm hpath))
  · rintro ⟨⟨e, he, hp⟩, hne⟩
    refine ⟨e, ⟨he, ?_⟩, hp⟩
    rw [← Bool.not_eq_true] at hne ⊢
    exact fun hpath => hne (Path.same_trans (Path.same_symm hpath) hp)

/-- Whether a document would be given to a session with what its file holds. -/
def OpensFromDisk (s : Supervisor) (path : Path) : Prop :=
  ∃ text id, s.settle.site.disk.readText path = .ok text ∧
    (s.settle.openDocument path text).1.toOption = some (some id)

/-- A document that can be read is opened from disk exactly if the open of its text finds a session.
-/
theorem opensFromDisk_iff (hread : s.settle.site.disk.readText path = .ok text) :
    s.OpensFromDisk path ↔
      ∃ id, (s.settle.openDocument path text).1.toOption = some (some id) := by
  refine ⟨fun ⟨text', id, htext, hid⟩ => ?_, fun ⟨id, hid⟩ => ⟨text, id, hread, hid⟩⟩
  obtain rfl := Except.ok.inj (hread.symm.trans htext)
  exact ⟨id, hid⟩

/-- A document that cannot be read is not opened from disk. -/
theorem not_opensFromDisk {fault : DiskFault}
    (hread : s.settle.site.disk.readText path = .error fault) : ¬ s.OpensFromDisk path :=
  fun ⟨_, _, htext, _⟩ => absurd (hread.symm.trans htext) (by simp)

/-- A document that is held already is not opened a second time. -/
theorem documents_openFromDisk_of_holds (h : s.Holds path) :
    (s.openFromDisk path).2.documents = s.documents := by
  have hsome : (s.ownerOf? path).isSome = true :=
    Option.isSome_iff_exists.2 (holds_iff_ownerOf?.1 h)
  rw [openFromDisk, if_pos hsome]

/-- A document that is not in the table is opened with what its file holds. -/
theorem documents_openFromDisk_of_not_holds (h : ¬ s.Holds path) :
    (∃ fault, s.settle.site.disk.readText path = .error fault) ∧
        (s.openFromDisk path).2.documents = s.documents ∨
      ∃ text, s.settle.site.disk.readText path = .ok text ∧
        (s.openFromDisk path).2.documents = (s.settle.openDocument path text).2.documents := by
  have hnone : ¬ (s.ownerOf? path).isSome = true := by
    rw [Option.isSome_iff_exists]
    exact fun hown => h (holds_iff_ownerOf?.2 hown)
  rw [openFromDisk, if_neg hnone]
  dsimp only
  split
  next fault hread => exact .inl ⟨⟨fault, hread⟩, rfl⟩
  next text hread =>
    refine .inr ⟨text, hread, ?_⟩
    split
    next heq => rw [heq]
    next heq => rw [heq]

/-- Opening from disk keeps the table registered. -/
theorem registered_openFromDisk (hs : Sound ran taken s) (h : s.Registered) (path : Path) :
    (s.openFromDisk path).2.Registered := by
  have hroll := (keeps_openFromDisk hs path).roll_eq
  by_cases hheld : s.Holds path
  · exact h.of_eq (documents_openFromDisk_of_holds hheld) hroll
  · have hsettle := keeps_settle hs
    rcases documents_openFromDisk_of_not_holds hheld with ⟨-, hdocuments⟩ | ⟨text, -, hdocuments⟩
    · exact h.of_eq hdocuments hroll
    · have hsettled : s.settle.Registered := h.of_eq rfl hsettle.roll_eq
      have hopened := registered_openDocument hsettle.sound hsettled path text
      refine hopened.of_eq hdocuments ?_
      rw [hroll, (keeps_openDocument hsettle.sound path text).roll_eq, hsettle.roll_eq]

/-- Of the documents, opening one from disk adds that one at most. -/
theorem holds_openFromDisk_iff (hs : Sound ran taken s) :
    (s.openFromDisk path).2.Holds p ↔ s.Holds p ∨ path.same p = true ∧ s.OpensFromDisk path := by
  by_cases hheld : s.Holds path
  · rw [holds_of_eq (documents_openFromDisk_of_holds hheld)]
    exact (or_iff_left_of_imp fun hp => hheld.of_same hp.1).symm
  · rcases documents_openFromDisk_of_not_holds hheld with
      ⟨⟨fault, hread⟩, hdocuments⟩ | ⟨text, hread, hdocuments⟩
    · rw [holds_of_eq hdocuments, or_iff_left fun hp => not_opensFromDisk hread hp.2]
    · rw [holds_of_eq hdocuments, opensFromDisk_iff hread,
        holds_openDocument_iff (keeps_settle hs).sound.heard.nodup]
      rfl

/-- Asking for fixes changes the table as opening the document from disk does, and no further. -/
theorem documents_fixAllActions (s : Supervisor) (path : Path) :
    (s.fixAllActions path).2.documents = (s.openFromDisk path).2.documents := by
  unfold fixAllActions
  split
  next heq => rw [heq]
  next heq =>
    rw [heq]
    split
    · rfl
    · split <;> rfl

/-- Asking for fixes keeps the table registered. -/
theorem registered_fixAllActions (hs : Sound ran taken s) (h : s.Registered) (path : Path) :
    (s.fixAllActions path).2.Registered := by
  refine (registered_openFromDisk hs h path).of_eq (documents_fixAllActions s path) ?_
  rw [(keeps_fixAllActions hs path).roll_eq, (keeps_openFromDisk hs path).roll_eq]

/-- Asking for the fixes of a document adds that one to those held at most. -/
theorem holds_fixAllActions_iff (hs : Sound ran taken s) :
    (s.fixAllActions path).2.Holds p ↔ s.Holds p ∨ path.same p = true ∧ s.OpensFromDisk path := by
  rw [holds_of_eq (documents_fixAllActions s path), holds_openFromDisk_iff hs]

/-- The command for fixes changes the table for the active document, and not at all without one. -/
theorem documents_autofix (s : Supervisor) (active : Option Path) :
    (s.autofix active).documents = match active with
      | some path => (s.fixAllActions path).2.documents
      | none => s.documents := by
  unfold autofix
  split
  · rfl
  · dsimp only
    split
    next heq => rw [heq]; rfl
    next heq => rw [heq]; rfl

/-- The command for fixes keeps the table registered. -/
theorem registered_autofix (hs : Sound ran taken s) (h : s.Registered) (active : Option Path) :
    (s.autofix active).Registered := by
  have hdocuments := documents_autofix s active
  have hroll := (keeps_autofix hs active).roll_eq
  cases active with
  | none => exact h.of_eq hdocuments hroll
  | some path =>
    refine (registered_fixAllActions hs h path).of_eq hdocuments ?_
    rw [hroll, (keeps_fixAllActions hs path).roll_eq]

/-! ### Reports -/

/-- Whether the next report says that the server of a session has stopped. -/
def Ends (s : Supervisor) (id : SessionId) : Prop :=
  ∃ reason, s.site.events.head? = some (.stopped id reason)

/-- A session that is retired takes the documents it owns out of the table. -/
theorem documents_retire (s : Supervisor) (x : Session) (reason : StopReason) :
    (s.retire x reason).documents = s.documents.filter fun e => e.2 != x.id := by
  unfold retire
  dsimp only
  split <;> rfl

/-- Diagnostics do nothing to the table. -/
theorem documents_handle_diagnostics (s : Supervisor) (id : SessionId) (path : Path)
    (items : List Diagnostic) :
    (s.handleReport (.diagnostics id path items)).2.documents = s.documents ∧
      (s.handleReport (.diagnostics id path items)).2.roll = s.roll := by
  unfold handleReport
  dsimp only
  split <;> exact ⟨rfl, rfl⟩

/-- When a server has stopped, the entries of its session go, and no others. -/
theorem documents_handle_stopped {reason : StopReason} (hs : Sound ran [.stopped id reason] s)
    (h : s.Registered) :
    (∀ e, e ∈ (s.handleReport (.stopped id reason)).2.documents ↔ e ∈ s.documents ∧ ¬ e.2 = id) ∧
      (s.handleReport (.stopped id reason)).2.Registered := by
  -- A session that is not there, or does not run, has no entry.
  have hidle : ((id, true) ∉ s.roll) → ∀ e, e ∈ s.documents ↔ e ∈ s.documents ∧ ¬ e.2 = id := by
    intro hnot e
    refine ⟨fun he => ⟨he, fun heq => hnot ?_⟩, fun he => he.1⟩
    exact heq ▸ h.running e he
  unfold handleReport
  dsimp only
  split
  next hnone =>
    refine ⟨hidle fun hmem => ?_, h⟩
    obtain ⟨x, hx, rfl, -⟩ := mem_roll_iff.1 hmem
    rw [session?_of_mem hs.heard.nodup hx] at hnone
    exact absurd hnone (by simp)
  next x hx =>
    obtain ⟨hmem, rfl⟩ := of_session? hx
    split
    next hrun =>
      obtain ⟨-, -, hothers⟩ := sound_retire hs hmem
      have hfilter := documents_retire s x reason
      refine ⟨fun e => ?_, h.sublist (hfilter ▸ List.filter_sublist) fun e he hrun' => ?_⟩
      · rw [hfilter, List.mem_filter, bne_iff_ne]
      · rw [hfilter, List.mem_filter, bne_iff_ne] at he
        exact hothers e.2 true he.2 hrun'
    next hstopped =>
      refine ⟨hidle fun hmem' => ?_, h⟩
      exact not_mem_roll hs.heard.nodup hmem'
        (mem_roll_iff.2 ⟨x, hmem, rfl, by simpa using hstopped⟩)

/-- A report takes the entries of a session whose server has stopped out of the table, and
leaves the others with sessions that run. -/
theorem documents_report (hs : Sound ran [] s) (h : s.Registered) :
    (∀ e, e ∈ (s.poll 1).2.documents ↔ e ∈ s.documents ∧ ¬ s.Ends e.2) ∧
      (s.poll 1).2.Registered := by
  unfold poll
  split
  next hnone =>
    refine ⟨fun e => ⟨fun he => ⟨he, fun ⟨reason, hreason⟩ => ?_⟩, fun he => he.1⟩, h⟩
    rw [events_of_nextReport?_eq_none hnone] at hreason
    exact absurd hreason (by simp)
  next e s₁ hnext =>
    obtain ⟨hsound, -, hroll, hhead⟩ := keeps_nextReport? hs hnext
    have hdocuments : s₁.documents = s.documents := (stays_nextReport? hnext).documents_eq
    have h₁ : s₁.Registered := h.of_eq hdocuments hroll
    change (∀ f, f ∈ (s₁.handleReport e).2.documents ↔ _) ∧ (s₁.handleReport e).2.Registered
    rw [← hdocuments]
    cases e with
    | diagnostics session path items =>
      have hnot : ∀ id, ¬ s.Ends id := fun id ⟨reason, hreason⟩ =>
        absurd (hhead.symm.trans hreason) (by simp)
      obtain ⟨hsame, hroll⟩ := documents_handle_diagnostics s₁ session path items
      exact ⟨fun f => by rw [hsame, and_iff_left (hnot f.2)], h₁.of_eq hsame hroll⟩
    | stopped session reason =>
      have hends : ∀ id, s.Ends id ↔ id = session := by
        intro id
        constructor
        · rintro ⟨reason', hreason⟩
          have heq := Option.some.inj (hhead.symm.trans hreason)
          exact (ServerEvent.stopped.inj heq).1.symm
        · rintro rfl
          exact ⟨reason, hhead⟩
      simp only [hends]
      exact documents_handle_stopped hsound h₁

/-! ### Starting, stopping and restarting -/

/-- Without sessions the table is empty. -/
theorem Registered.documents_eq_nil (h : s.Registered) (hnone : s.sessions = []) :
    s.documents = [] := by
  refine List.eq_nil_iff_forall_not_mem.2 fun e he => ?_
  have hrun := h.running e he
  rw [roll, hnone] at hrun
  exact absurd hrun List.not_mem_nil

/-- A start keeps the table registered, whoever of the sessions starts. -/
theorem registered_start (hs : Sound ran taken s) (h : s.Registered) : s.start.2.Registered := by
  by_cases hphase : s.phase = .stopped
  · exact registered_of_nil ((documents_start s).trans (h.documents_eq_nil (hs.idle hphase)))
  · rwa [start, if_neg hphase]

/-- A stop empties the table. -/
theorem documents_stop (hs : Sound ran taken s) (h : s.Registered) : s.stop.documents = [] := by
  unfold stop
  split
  next hphase => exact h.documents_eq_nil (hs.idle hphase)
  · rfl

/-- A document opened again after a restart keeps the table registered. -/
theorem registered_reopen (hs : Sound ran taken s) (h : s.Registered) (path : Path) :
    (s.reopen path).Registered := by
  have hsettle := keeps_settle hs
  have hsettled : s.settle.Registered := h.of_eq rfl hsettle.roll_eq
  unfold reopen
  dsimp only
  split
  · exact hsettled
  · exact registered_openDocument hsettle.sound hsettled path _

/-- Documents that are opened again after a restart keep the table registered. -/
theorem registered_reopenAll (hs : Sound ran taken s) (h : s.Registered) (paths : List Path) :
    (paths.foldl reopen s).Registered := by
  induction paths generalizing s with
  | nil => exact h
  | cons path paths ih => exact ih (keeps_reopen hs path).sound (registered_reopen hs h path)

/-- What a restart has started when it has not opened any document again. -/
def renewed (s : Supervisor) : Supervisor :=
  ({ s.log .info "Restarting extension..." with restarts := s.restarts + 1 }).stop.start.2

/-- A restart opens the documents of the old table again, one after the other. -/
theorem restart_eq (s : Supervisor) :
    s.restart.2 = (s.documents.map Prod.fst).foldl reopen s.renewed := rfl

/-- What a restart has before it opens anything again is sound. -/
theorem sound_renewed (hs : Sound ran [] s) : Sound (Also ran s.renewed) [] s.renewed :=
  sound_start (sound_stop ((hs.of_same (same_log ..)).withRestarts (s.restarts + 1)))

/-- A restart starts over with an empty table. -/
theorem documents_renewed (hs : Sound ran [] s) (h : s.Registered) : s.renewed.documents = [] := by
  have hcounted := (hs.of_same (same_log s .info "Restarting extension...")).withRestarts
    (s.restarts + 1)
  exact (documents_start _).trans (documents_stop hcounted (h.of_eq rfl rfl))

/-- A restart keeps the table registered. -/
theorem registered_restart (hs : Sound ran [] s) (h : s.Registered) : s.restart.2.Registered := by
  rw [restart_eq]
  exact registered_reopenAll (sound_renewed hs) (registered_of_nil (documents_renewed hs h)) _

/-- Every command keeps the table registered. -/
theorem registered_perform (hs : Sound ran [] s) (h : s.Registered) (active : Option Path)
    (c : Command) : (s.perform active c).Registered := by
  cases c with
  | restart => exact registered_restart hs h
  | showOutput => exact h.of_eq rfl rfl
  | autofix => exact registered_autofix hs h active
  | showCommands => exact h

/-! ### Runs -/

/-- Every move leaves the entries of the table with sessions that run. -/
theorem registered_after (hs : Sound ran [] s) (h : s.Registered) (m : Move) :
    (s.after m).Registered := by
  cases m with
  | start => exact registered_start hs h
  | stop => exact registered_of_nil (documents_stop hs h)
  | restart => exact registered_restart hs h
  | opened path text => exact registered_openDocument hs h path text
  | changed path text => exact registered_changeDocument hs h path text
  | closed path => exact registered_closeDocument hs h path
  | fixed path => exact registered_fixAllActions hs h path
  | command active picked c =>
    have hpalette : s.openPalette.Registered := h.of_eq rfl rfl
    exact execute_cases hpalette
      (registered_perform (hs.of_same (same_tell ..)) hpalette active)
      (registered_perform hs h active)
  | folders paths => exact h.of_eq rfl rfl
  | report => exact (documents_report hs h).2
  | settle => exact h.of_eq rfl (keeps_settle hs).roll_eq
  | read id frames =>
    have hkeeps := keeps_withClientOf hs id fun c site => leads_readSome c site frames
    exact h.of_eq (stays_read hs.heard.nodup id frames).documents_eq hkeeps.roll_eq
  | act id reaction =>
    have hkeeps := keeps_withClientOf hs id fun c site => leads_acted c site reaction
    exact h.of_eq (stays_act hs.heard.nodup id reaction).documents_eq hkeeps.roll_eq
  | world disk now => exact h.of_eq rfl rfl

/-- A new supervisor has an empty table. -/
theorem documents_of_make {settings : Settings} {folders : List Path} {logDir : Option Path}
    {processId : Nat} {site : Site} (h : make settings folders logDir processId site = .ok s) :
    s.documents = [] := by
  unfold make at h
  split at h
  · exact absurd h (by simp)
  · obtain rfl := Except.ok.inj h
    rfl

/-- **In every run the entries of the table are for different paths, and their
sessions run.** -/
theorem registered_run (hs : s.Fresh) (h : s.Registered) (moves : List Move) :
    (s.run moves).Registered := by
  induction moves using List.reverseRecOn with
  | nil => exact h
  | append_singleton moves m ih =>
    rw [run_append]
    exact registered_after (sound_run hs moves) ih m

end Supervisor
end Switchboard
