/-
# The table of open documents

The supervisor's table says of each open document which session serves it, and
every client knows what it has open.  `Tabled` is how the two go together: an
entry names the first session that serves its path, and that session has the
path's URI open; what a client has open stands in the table as long as it can
write; and no two entries are for the same path.  Whatever happens keeps that,
but for a document that is opened again and goes to another session than before
(`Supervisor.tabled_openDocument`).
-/

import Switchboard.Proofs.Path.Uri
import Switchboard.Proofs.Supervisor.Roster

namespace Switchboard
namespace Supervisor

variable {ran : SessionId → Prop} {s s' : Supervisor}
  {id : SessionId} {c c' : Client} {path : Path} {uri language : String}

/-! ### Owners -/

/-- A path has no owner if no entry is for it. -/
theorem ownerOf?_eq_none_iff :
    s.ownerOf? path = none ↔ ∀ e ∈ s.documents, ¬ e.1.same path = true := by
  rw [ownerOf?, Option.map_eq_none_iff, List.find?_eq_none]

/-- An owner stands in an entry for the path. -/
theorem exists_of_ownerOf? (h : s.ownerOf? path = some id) :
    ∃ p, (p, id) ∈ s.documents ∧ p.same path = true := by
  obtain ⟨e, he, rfl⟩ := Option.map_eq_some_iff.1 h
  have hsame := List.find?_some he
  exact ⟨e.1, List.mem_of_find?_eq_some he, hsame⟩

/-- The entry that is found takes the new owner, in the spelling that it has. -/
theorem mem_setOwner {documents : List (Path × SessionId)} {e : Path × SessionId}
    (h : documents.find? (fun e => e.1.same path) = some e) :
    (e.1, id) ∈ setOwner path id documents := by
  induction documents with
  | nil => exact absurd h (by simp)
  | cons f documents ih =>
    obtain ⟨p, old⟩ := f
    rw [List.find?_cons] at h
    rw [setOwner]
    split at h
    next hp =>
      rw [if_pos hp, ← Option.some.inj h]
      exact List.mem_cons_self ..
    next hp =>
      rw [if_neg (by simp [hp])]
      exact List.mem_cons_of_mem _ (ih h)

/-- Where no entry is for the path, one is added at the end. -/
theorem setOwner_of_none {documents : List (Path × SessionId)}
    (h : ∀ e ∈ documents, ¬ e.1.same path = true) :
    setOwner path id documents = documents ++ [(path, id)] := by
  induction documents with
  | nil => rfl
  | cons e documents ih =>
    obtain ⟨p, old⟩ := e
    obtain ⟨hp, hrest⟩ := List.forall_mem_cons.1 h
    rw [setOwner, if_neg hp, ih hrest, List.cons_append]

/-- Setting the owner that is there changes nothing. -/
theorem setOwner_self {documents : List (Path × SessionId)}
    (h : (documents.find? fun e => e.1.same path).map Prod.snd = some id) :
    setOwner path id documents = documents := by
  induction documents with
  | nil => exact absurd h (by simp)
  | cons e documents ih =>
    obtain ⟨p, old⟩ := e
    rw [List.find?_cons] at h
    rw [setOwner]
    split at h
    next hp =>
      rw [if_pos hp, ← Option.some.inj h]
    next hp => rw [if_neg (by simp [hp]), ih h]

/-! ### The table and the clients -/

/-- An entry is right when its session is the first one that serves the path, and
has the path's URI open. -/
def Serves (s : Supervisor) (path : Path) (id : SessionId) : Prop :=
  ∃ language uri c, Language.ofPath? path = some language ∧ s.first? language path = some id ∧
    FileUri.ofPath? path = some uri ∧ s.clientOf? id = some c ∧ c.documents.isOpen uri = true

/-- The table is right, all that clients which can write have open stands in it,
and no two entries are for the same path. -/
structure Tabled (s : Supervisor) : Prop where
  nodup : (s.sessions.map Session.id).Nodup
  serves : ∀ e ∈ s.documents, s.Serves e.1 e.2
  listed : ∀ id c uri, s.clientOf? id = some c → c.writing = true →
    c.documents.isOpen uri = true →
      ∃ e ∈ s.documents, e.2 = id ∧ FileUri.ofPath? e.1 = some uri
  distinct : s.documents.Pairwise fun e f => ¬ e.1.same f.1 = true

/-- Two entries for the same path are one. -/
theorem Tabled.eq_of_same (h : s.Tabled) {e f : Path × SessionId} (he : e ∈ s.documents)
    (hf : f ∈ s.documents) (hsame : e.1.same f.1 = true) : e = f := by
  by_contra hne
  have hsymm : Std.Symm fun e f : Path × SessionId => ¬ e.1.same f.1 = true :=
    ⟨fun _ _ hn hs => hn (Path.same_symm hs)⟩
  exact h.distinct.forall he hf hne hsame

/-- The entry of a path has the path's URI open in its session. -/
theorem Tabled.open_of_ownerOf? (h : s.Tabled) (hown : s.ownerOf? path = some id) :
    ∃ uri c, FileUri.ofPath? path = some uri ∧ s.clientOf? id = some c ∧
      c.documents.isOpen uri = true := by
  obtain ⟨p, hp, hsame⟩ := exists_of_ownerOf? hown
  obtain ⟨_, uri, c, -, -, huri, hc, hopen⟩ := h.serves _ hp
  exact ⟨uri, c, (FileUri.ofPath?_eq_some_iff huri).2 hsame, hc, hopen⟩

/-- Without sessions the table is empty. -/
theorem Tabled.documents_eq_nil (h : s.Tabled) (hnone : s.sessions = []) : s.documents = [] := by
  refine List.eq_nil_iff_forall_not_mem.2 fun e he => ?_
  obtain ⟨_, _, c, -, -, -, hc, -⟩ := h.serves e he
  obtain ⟨x, hx, -⟩ := exists_of_clientOf? hc
  exact absurd hx (hnone ▸ List.not_mem_nil)

/-- An empty table is right when no client has anything open. -/
theorem tabled_of_nil (hnodup : (s.sessions.map Session.id).Nodup) (hnone : s.documents = [])
    (h : ∀ x ∈ s.sessions, x.Has fun c => ∀ u, ¬ c.documents.isOpen u = true) : s.Tabled := by
  refine ⟨hnodup, by simp [hnone], fun id c u hc _ hopen => ?_, by simp [hnone]⟩
  obtain ⟨x, hx, -, -, hxc⟩ := exists_of_clientOf? hc
  exact absurd hopen (h x hx c hxc u)

/-! ### What leaves documents alone -/

/-- Whether identities are distinct is a matter of the roster. -/
theorem nodup_of_roster (h : (s.sessions.map Session.id).Nodup) (hr : s'.roster = s.roster) :
    (s'.sessions.map Session.id).Nodup := by
  rwa [← map_fst_roster, hr, map_fst_roster]

/-- The table stays right as long as what is known of documents stays. -/
theorem Tabled.stays (h : s.Tabled) (hs : s.Stays s') : s'.Tabled := by
  refine ⟨nodup_of_roster h.nodup hs.roster_eq, fun e he => ?_, fun i c' u hc' hw hopen => ?_, ?_⟩
  · obtain ⟨language, u, c, hlanguage, hfirst, huri, hc, hopen⟩ := h.serves e (hs.documents_eq ▸ he)
    obtain ⟨c', hc', hcc'⟩ := hs.exists_after hc
    refine ⟨language, u, c', hlanguage, ?_, huri, hc', (hcc'.isOpen_iff u).2 hopen⟩
    rw [first?_eq, hs.roster_eq, ← first?_eq, hfirst]
  · obtain ⟨c, hc, hcc'⟩ := hs.exists_before hc'
    rw [hs.documents_eq]
    exact h.listed i c u hc (hcc'.writing_of hw) ((hcc'.isOpen_iff u).1 hopen)
  · rw [hs.documents_eq]
    exact h.distinct

/-! ### One document -/

/-- An entry stays right when its session keeps the document open. -/
theorem Serves.puts {i : SessionId} {p : Path} (h : s.Serves p i) (hp : Puts s s' id c c')
    (hopen : i = id → ∀ u, FileUri.ofPath? p = some u → c.documents.isOpen u = true →
      c'.documents.isOpen u = true) : s'.Serves p i := by
  obtain ⟨language, u, d, hlanguage, hfirst, huri, hd, hdopen⟩ := h
  have hfirst' : s'.first? language p = some i := by
    rw [first?_eq, hp.roster_eq, ← first?_eq, hfirst]
  by_cases hi : i = id
  · have hdc : d = c := Option.some.inj (hd.symm.trans (hi ▸ hp.was))
    refine ⟨language, u, c', hlanguage, hfirst', huri, ?_, hopen hi u huri (hdc ▸ hdopen)⟩
    rw [hp.clientOf?_eq, if_pos hi]
  · refine ⟨language, u, d, hlanguage, hfirst', huri, ?_, hdopen⟩
    rw [hp.clientOf?_eq, if_neg hi, hd]

/-- A client that can write no more may have anything open. -/
theorem Tabled.refused (h : s.Tabled) (hp : Puts s s' id c c')
    (hopen : ∀ u, c.documents.isOpen u = true → c'.documents.isOpen u = true)
    (hw : ¬ c'.writing = true) : s'.Tabled := by
  refine ⟨nodup_of_roster h.nodup hp.roster_eq, fun e he => ?_, fun i d u hd hdw hdopen => ?_, ?_⟩
  · exact (h.serves e (hp.documents_eq ▸ he)).puts hp fun _ u _ => hopen u
  · rw [hp.clientOf?_eq] at hd
    split at hd
    · exact absurd (Option.some.inj hd ▸ hdw) hw
    · rw [hp.documents_eq]
      exact h.listed i d u hd hdw hdopen
  · rw [hp.documents_eq]
    exact h.distinct

/-- A document that was not open gets an entry. -/
theorem Tabled.opened (h : s.Tabled) (hp : Puts s s' id c c')
    (hlanguage : Language.ofPath? path = some language)
    (hfirst : s.first? language path = some id) (huri : FileUri.ofPath? path = some uri)
    (hopen : ∀ u, c'.documents.isOpen u = true ↔ u = uri ∨ c.documents.isOpen u = true)
    (hw : c'.writing = true → c.writing = true) (hnone : s.ownerOf? path = none) :
    Tabled { s' with documents := setOwner path id s'.documents } := by
  have hnone := ownerOf?_eq_none_iff.1 hnone
  have hdocuments : setOwner path id s'.documents = s.documents ++ [(path, id)] := by
    rw [hp.documents_eq, setOwner_of_none hnone]
  have hserves : ∀ e ∈ s.documents ++ [(path, id)], s'.Serves e.1 e.2 := by
    intro e he
    rcases List.mem_append.1 he with he | he
    · exact (h.serves e he).puts hp fun _ u _ hu => (hopen u).2 (.inr hu)
    · obtain rfl := List.mem_singleton.1 he
      refine ⟨language, uri, c', hlanguage, ?_, huri, ?_, (hopen uri).2 (.inl rfl)⟩
      · rw [first?_eq, hp.roster_eq, ← first?_eq, hfirst]
      · rw [hp.clientOf?_eq, if_pos rfl]
  rw [hdocuments]
  refine ⟨nodup_of_roster h.nodup hp.roster_eq, hserves, fun i d u hd hdw hdopen => ?_, ?_⟩
  · change s'.clientOf? i = some d at hd
    rw [hp.clientOf?_eq] at hd
    have hold : ∀ d', s.clientOf? i = some d' → d'.writing = true → d'.documents.isOpen u = true →
        ∃ e ∈ s.documents ++ [(path, id)], e.2 = i ∧ FileUri.ofPath? e.1 = some u := by
      intro d' hd' hdw' hdopen'
      obtain ⟨e, he, hrest⟩ := h.listed i d' u hd' hdw' hdopen'
      exact ⟨e, List.mem_append_left _ he, hrest⟩
    split at hd
    next hi =>
      obtain rfl := Option.some.inj hd
      rcases (hopen u).1 hdopen with rfl | hu
      · exact ⟨(path, id), List.mem_append_right _ (List.mem_singleton_self _), hi.symm, huri⟩
      · exact hold c (hi ▸ hp.was) (hw hdw) hu
    · exact hold d hd hdw hdopen
  · refine List.pairwise_append.2 ⟨h.distinct, List.pairwise_singleton .., fun e he f hf => ?_⟩
    rw [List.mem_singleton.1 hf]
    exact hnone e he

/-- A document that is closed loses its entry. -/
theorem Tabled.closed (h : s.Tabled) (hown : s.ownerOf? path = some id)
    (hp : Puts (s.disown path) s' id c c') (huri : FileUri.ofPath? path = some uri)
    (hopen : ∀ u, c'.documents.isOpen u = true ↔ u ≠ uri ∧ c.documents.isOpen u = true)
    (hw : c'.writing = true → c.writing = true) : s'.Tabled := by
  have hmem : ∀ e, e ∈ s'.documents ↔ e ∈ s.documents ∧ ¬ e.1.same path = true := by
    intro e
    rw [hp.documents_eq, disown, List.mem_filter, Bool.not_eq_true', Bool.not_eq_true]
  obtain ⟨p, hentry, hsame⟩ := exists_of_ownerOf? hown
  refine ⟨nodup_of_roster h.nodup hp.roster_eq, fun e he => ?_, fun i d u hd hdw hdopen => ?_, ?_⟩
  · obtain ⟨he, hne⟩ := (hmem e).1 he
    have hserves : (s.disown path).Serves e.1 e.2 := h.serves e he
    refine hserves.puts hp fun _ u hu huopen => (hopen u).2 ⟨?_, huopen⟩
    rintro rfl
    exact hne ((FileUri.ofPath?_eq_some_iff hu).1 huri)
  · rw [hp.clientOf?_eq] at hd
    have hold : ∀ d', s.clientOf? i = some d' → d'.writing = true → d'.documents.isOpen u = true →
        (i = id → u ≠ uri) → ∃ e ∈ s'.documents, e.2 = i ∧ FileUri.ofPath? e.1 = some u := by
      intro d' hd' hdw' hdopen' hne
      obtain ⟨e, he, hei, hu⟩ := h.listed i d' u hd' hdw' hdopen'
      refine ⟨e, (hmem e).2 ⟨he, fun hes => ?_⟩, hei, hu⟩
      -- The entry of the path that is closed is the only one for it.
      have heq := h.eq_of_same he hentry (Path.same_trans hes (Path.same_symm hsame))
      refine hne (hei.symm.trans (congrArg Prod.snd heq)) ?_
      exact Option.some.inj (hu.symm.trans ((FileUri.ofPath?_eq_some_iff huri).2
        (Path.same_symm hes)))
    split at hd
    next hi =>
      obtain rfl := Option.some.inj hd
      obtain ⟨hne, hu⟩ := (hopen u).1 hdopen
      exact hold c (hi ▸ hp.was) (hw hdw) hu fun _ => hne
    next hi => exact hold d hd hdw hdopen fun h => absurd h hi
  · rw [hp.documents_eq]
    exact h.distinct.filter _

end Supervisor
end Switchboard
