/-
# What stands in the store

The store is told what sessions say, that a session is gone, and that all are.
What it holds about a file is what was said last, by whichever session, as long
as that session has not been cleared since: exactly that is held, and exactly
that is shown, once (`Store.lists_what_stands`).

One edit at a time: a file that an edit is about is held as the edit says, and
every other file as before (`holds_update_iff`, `holds_clearSession_iff`).  Both
need that a file is held once however its path is spelled (`Tidy`).
-/

import Mathlib.Data.List.Sort
import Switchboard.Diagnostic.Store
import Switchboard.Proofs.History
import Switchboard.Proofs.Path.Uri

namespace Switchboard

/-- What a snapshot says about a file, once for each time that it lists the file. -/
def Snapshot.about (s : Snapshot) (path : Path) : List (List Diagnostic) :=
  (s.files.filter fun file => file.1.same path).map Prod.snd

namespace Store

/-- What a store can be told. -/
inductive Edit where
  | update (owner : SessionId) (path : Path) (items : List Diagnostic)
  | clearSession (owner : SessionId)
  | clear

namespace Edit

/-- Tells a store. -/
def apply (s : Store) : Edit → Store
  | update owner path items => s.update owner path items
  | clearSession owner => s.clearSession owner
  | clear => .empty

/-- Whether an edit ends what a session has said about a file: someone says
something about the file, or the session is cleared, or everything is. -/
def Ends (owner : SessionId) (path : Path) : Edit → Prop
  | update _ q _ => q.same path = true
  | clearSession id => id = owner
  | clear => True

end Edit

/-- The store that has been told so much. -/
def after (edits : List Edit) : Store := edits.foldl Edit.apply .empty

/-- Whether a store holds that a session has said something about a file. -/
def Holds (s : Store) (path : Path) (owner : SessionId) (items : List Diagnostic) : Prop :=
  ∃ f ∈ s.findings, f.path.same path = true ∧ f.owner = owner ∧ f.items = items

/-- Whether a session has said something about a file that nothing has ended since. -/
def Stands (edits : List Edit) (path : Path) (owner : SessionId) (items : List Diagnostic) :
    Prop :=
  ∃ front q back, edits = front ++ .update owner q items :: back ∧ q.same path = true ∧
    ∀ e ∈ back, ¬ e.Ends owner path

/-- Every file is held once, with something to say about it. -/
structure Tidy (findings : List Finding) : Prop where
  distinct : findings.Pairwise fun f g => ¬ f.path.same g.path = true
  nonempty : ∀ f ∈ findings, f.items ≠ []

variable {findings : List Finding} {f : Finding} {s : Store} {path q : Path}
  {owner id : SessionId} {items said : List Diagnostic} {edits : List Edit}

/-! ### Putting -/

/-- What is held after putting: what is put in the place of what was held about the file. -/
theorem exists_mem_put_iff (h : findings.Pairwise fun f g => ¬ f.path.same g.path = true) :
    (∃ f ∈ put q owner said findings, f.path.same path = true ∧ f.owner = id ∧ f.items = items) ↔
      if q.same path then owner = id ∧ said = items
      else ∃ f ∈ findings, f.path.same path = true ∧ f.owner = id ∧ f.items = items := by
  induction findings with
  | nil =>
    simp only [put, List.mem_singleton, exists_eq_left, List.not_mem_nil, false_and, exists_false]
    split
    next hq => simp only [hq, true_and]
    next hq => simp only [hq, Bool.false_eq_true, false_and]
  | cons g rest ih =>
    obtain ⟨hg, hrest⟩ := List.pairwise_cons.1 h
    rw [put]
    split
    next hgq =>
      -- The file is held first here, and no more behind it.
      simp only [List.mem_cons, exists_eq_or_imp]
      split
      next hqp =>
        have hnone : ∀ f ∈ rest, ¬ f.path.same path = true := fun f hf hfp =>
          hg f hf (Path.same_trans hgq (Path.same_trans hqp (Path.same_symm hfp)))
        constructor
        · rintro (⟨-, howner, hitems⟩ | ⟨f, hf, hfp, -⟩)
          · exact ⟨howner, hitems⟩
          · exact absurd hfp (hnone f hf)
        · exact fun ⟨howner, hitems⟩ => .inl ⟨Path.same_trans hgq hqp, howner, hitems⟩
      next hqp =>
        have hgp : ¬ g.path.same path = true := fun hgp =>
          hqp (Path.same_trans (Path.same_symm hgq) hgp)
        simp only [hgp, false_and, false_or, Bool.false_eq_true]
    next hgq =>
      simp only [List.mem_cons, exists_eq_or_imp, ih hrest]
      split
      next hqp =>
        have hgp : ¬ g.path.same path = true := fun hgp =>
          hgq (Path.same_trans hgp (Path.same_symm hqp))
        simp only [hgp, false_and, false_or, Bool.false_eq_true]
      · rfl

/-- Putting adds no file but the one that is put. -/
theorem same_of_mem_put (h : f ∈ put q owner said findings) :
    (∃ g ∈ findings, g.path = f.path) ∨ f.path = q := by
  induction findings with
  | nil => exact .inr (congrArg Finding.path (List.mem_singleton.1 h))
  | cons g rest ih =>
    rw [put] at h
    split at h
    · rcases List.mem_cons.1 h with rfl | h
      · exact .inl ⟨g, List.mem_cons_self .., rfl⟩
      · exact .inl ⟨f, List.mem_cons_of_mem _ h, rfl⟩
    · rcases List.mem_cons.1 h with rfl | h
      · exact .inl ⟨f, List.mem_cons_self .., rfl⟩
      · exact (ih h).imp_left fun ⟨g, hg, hpath⟩ => ⟨g, List.mem_cons_of_mem _ hg, hpath⟩

/-- What is put in leaves every file held once. -/
theorem distinct_put (h : findings.Pairwise fun f g => ¬ f.path.same g.path = true) :
    (put q owner said findings).Pairwise fun f g => ¬ f.path.same g.path = true := by
  induction findings with
  | nil => exact List.pairwise_singleton ..
  | cons g rest ih =>
    obtain ⟨hg, hrest⟩ := List.pairwise_cons.1 h
    rw [put]
    split
    · exact List.pairwise_cons.2 ⟨hg, hrest⟩
    next hgq =>
      refine List.pairwise_cons.2 ⟨fun f hf hsame => ?_, ih hrest⟩
      rcases same_of_mem_put hf with ⟨f', hf', hpath⟩ | hpath
      · exact hg f' hf' (hpath ▸ hsame)
      · exact hgq (hpath ▸ hsame)

/-- What is held after putting was held before, or is what is put. -/
theorem mem_put (h : f ∈ put q owner said findings) :
    f ∈ findings ∨ f.owner = owner ∧ f.items = said := by
  induction findings with
  | nil => exact .inr (List.mem_singleton.1 h ▸ ⟨rfl, rfl⟩)
  | cons g rest ih =>
    rw [put] at h
    split at h
    · rcases List.mem_cons.1 h with rfl | h
      · exact .inr ⟨rfl, rfl⟩
      · exact .inl (List.mem_cons_of_mem _ h)
    · rcases List.mem_cons.1 h with rfl | h
      · exact .inl (List.mem_cons_self ..)
      · exact (ih h).imp_left (List.mem_cons_of_mem _)

/-! ### One edit -/

/-- Findings that are left of tidy ones are tidy. -/
theorem Tidy.sublist {findings' : List Finding} (h : Tidy findings)
    (hsub : findings'.Sublist findings) : Tidy findings' :=
  ⟨h.distinct.sublist hsub, fun f hf => h.nonempty f (hsub.subset hf)⟩

/-- Every edit leaves a store in which every file is held once. -/
theorem Tidy.apply (h : Tidy s.findings) (e : Edit) : Tidy (e.apply s).findings := by
  cases e with
  | update owner path items =>
    change Tidy (s.update owner path items).findings
    unfold Store.update
    split
    · exact h.sublist List.filter_sublist
    next hitems =>
      refine ⟨distinct_put h.distinct, fun f hf hnil => ?_⟩
      rcases mem_put hf with hf | ⟨-, rfl⟩
      · exact h.nonempty f hf hnil
      · exact hitems (List.isEmpty_iff.2 hnil)
  | clearSession owner => exact h.sublist List.filter_sublist
  | clear => exact ⟨List.Pairwise.nil, fun f hf => absurd hf List.not_mem_nil⟩

/-- **What someone says about a file is what is held about it**, if it is
anything, and other files are held as before. -/
theorem holds_update_iff (h : Tidy s.findings) :
    (s.update owner q said).Holds path id items ↔
      if q.same path then said ≠ [] ∧ owner = id ∧ said = items else s.Holds path id items := by
  unfold Store.update
  split
  next hsaid =>
    rw [List.isEmpty_iff.1 hsaid]
    simp only [Holds, List.mem_filter, Bool.not_eq_true', ne_eq, not_true_eq_false, false_and]
    split
    next hqp =>
      refine iff_of_false ?_ not_false
      rintro ⟨f, ⟨-, hfq⟩, hfp, -⟩
      rw [Path.same_trans hfp (Path.same_symm hqp)] at hfq
      exact Bool.noConfusion hfq
    next hqp =>
      constructor
      · exact fun ⟨f, ⟨hf, _⟩, hf'⟩ => ⟨f, hf, hf'⟩
      · rintro ⟨f, hf, hfp, hf'⟩
        refine ⟨f, ⟨hf, Bool.eq_false_iff.2 fun hfq => ?_⟩, hfp, hf'⟩
        exact hqp (Path.same_trans (Path.same_symm hfq) hfp)
  next hsaid =>
    have hne : said ≠ [] := fun hnil => hsaid (List.isEmpty_iff.2 hnil)
    rw [Holds, exists_mem_put_iff h.distinct]
    simp only [ne_eq, hne, not_false_eq_true, true_and, Holds]

/-- **Clearing a session ends what it has said**, and nothing that another has. -/
theorem holds_clearSession_iff :
    (s.clearSession owner).Holds path id items ↔ s.Holds path id items ∧ id ≠ owner := by
  simp only [Holds, clearSession, List.mem_filter, bne_iff_ne]
  constructor
  · rintro ⟨f, ⟨hf, howner⟩, hpath, rfl, hitems⟩
    exact ⟨⟨f, hf, hpath, rfl, hitems⟩, howner⟩
  · rintro ⟨⟨f, hf, hpath, rfl, hitems⟩, howner⟩
    exact ⟨f, ⟨hf, howner⟩, hpath, rfl, hitems⟩

/-- An empty store holds nothing. -/
theorem not_holds_empty : ¬ Store.empty.Holds path id items :=
  fun ⟨_, hf, _⟩ => absurd hf List.not_mem_nil

/-- What is held after one more edit: what the edit says, or what was held and
is not ended. -/
theorem holds_apply_iff (h : Tidy s.findings) (e : Edit) :
    (e.apply s).Holds path id items ↔ s.Holds path id items ∧ ¬ e.Ends id path ∨
      items ≠ [] ∧ ∃ q, e = .update id q items ∧ q.same path = true := by
  cases e with
  | update owner q said =>
    refine (holds_update_iff h).trans ?_
    simp only [Edit.Ends, Edit.update.injEq]
    split
    next hq =>
      simp only [hq, not_true_eq_false, and_false, false_or]
      constructor
      · rintro ⟨hne, rfl, rfl⟩
        exact ⟨hne, q, ⟨rfl, rfl, rfl⟩, hq⟩
      · rintro ⟨hne, q', ⟨rfl, -, rfl⟩, -⟩
        exact ⟨hne, rfl, rfl⟩
    next hq =>
      refine ⟨fun hold => .inl ⟨hold, hq⟩, ?_⟩
      rintro (⟨hold, -⟩ | ⟨-, q', ⟨-, rfl, -⟩, hq'⟩)
      · exact hold
      · exact absurd hq' hq
  | clearSession owner =>
    refine holds_clearSession_iff.trans ?_
    simp only [Edit.Ends, reduceCtorEq, false_and, exists_false, and_false, or_false]
    exact and_congr_right fun _ => ne_comm
  | clear =>
    simp only [Edit.Ends, not_true_eq_false, and_false, reduceCtorEq, false_and, exists_false,
      or_false, iff_false]
    exact not_holds_empty

/-! ### All edits -/

/-- To be told one more thing is to be told it after the others. -/
theorem after_concat (edits : List Edit) (e : Edit) :
    after (edits ++ [e]) = e.apply (after edits) := List.foldl_concat ..

/-- A store that has been told something is tidy. -/
theorem tidy_after (edits : List Edit) : Tidy (after edits).findings := by
  induction edits using List.reverseRecOn with
  | nil => exact ⟨List.Pairwise.nil, fun f hf => absurd hf List.not_mem_nil⟩
  | append_singleton edits e ih =>
    rw [after_concat]
    exact ih.apply e

/-- Whether something stands is a question about a history. -/
theorem stands_iff_since :
    items ≠ [] ∧ Stands edits path id items ↔
      History.Since (fun _ e => items ≠ [] ∧ ∃ q, e = .update id q items ∧ q.same path = true)
        (fun _ e => e.Ends id path) edits := by
  rw [History.since_iff_mem]
  constructor
  · rintro ⟨hne, front, q, back, heq, hq, hback⟩
    exact ⟨front, _, back, heq, ⟨hne, q, rfl, hq⟩, hback⟩
  · rintro ⟨front, _, back, heq, ⟨hne, q, rfl, hq⟩, hback⟩
    exact ⟨hne, front, q, back, heq, hq, hback⟩

/-- **What is held is what stands.** -/
theorem holds_iff_stands :
    (after edits).Holds path id items ↔ items ≠ [] ∧ Stands edits path id items := by
  rw [stands_iff_since]
  induction edits using List.reverseRecOn with
  | nil => exact iff_of_false not_holds_empty History.not_since_nil
  | append_singleton edits e ih =>
    rw [after_concat, holds_apply_iff (tidy_after edits), History.since_concat_iff, ih]

/-! ### The snapshot -/

/-- A file that is held is the only one with its path. -/
theorem filter_same_of_mem (h : findings.Pairwise fun f g => ¬ f.path.same g.path = true)
    (hf : f ∈ findings) (hpath : f.path.same path = true) :
    (findings.filter fun g => g.path.same path) = [f] := by
  induction findings with
  | nil => exact absurd hf List.not_mem_nil
  | cons g rest ih =>
    obtain ⟨hg, hrest⟩ := List.pairwise_cons.1 h
    rcases List.mem_cons.1 hf with rfl | hf
    · rw [List.filter_cons_of_pos (by exact hpath), List.filter_eq_nil_iff.2]
      exact fun g' hg' hsame => hg g' hg' (Path.same_trans hpath (Path.same_symm hsame))
    · rw [List.filter_cons_of_neg, ih hrest hf]
      exact fun hsame => hg f hf (Path.same_trans hsame (Path.same_symm hpath))

/-- What a snapshot shows of a file is what the store holds. -/
theorem about_snapshot_perm (s : Store) (path : Path) :
    (s.snapshot.about path).Perm ((s.findings.filter fun f => f.path.same path).map
      Finding.items) := by
  have hperm := List.mergeSort_perm (s.findings.map fun f => (f.path, f.items)) Snapshot.fileLE
  refine ((hperm.filter _).map Prod.snd).trans ?_
  rw [List.filter_map, List.map_map]
  exact .refl _

/-- Of a file that is held the snapshot says what is held. -/
theorem about_eq_of_holds (h : Tidy s.findings) (hold : s.Holds path id items) :
    s.snapshot.about path = [items] := by
  obtain ⟨f, hf, hpath, -, rfl⟩ := hold
  have hperm := about_snapshot_perm s path
  rw [filter_same_of_mem h.distinct hf hpath] at hperm
  exact List.perm_singleton.1 hperm

/-- Of a file that is not held the snapshot says nothing. -/
theorem about_eq_nil (h : ∀ id items, ¬ s.Holds path id items) : s.snapshot.about path = [] := by
  have hperm := about_snapshot_perm s path
  rw [List.filter_eq_nil_iff.2 fun f hf hpath => h _ _ ⟨f, hf, hpath, rfl, rfl⟩] at hperm
  exact hperm.eq_nil

/-- The snapshot lists no file without diagnostics. -/
theorem items_ne_nil_of_mem_snapshot (h : Tidy s.findings) {file : Path × List Diagnostic}
    (hfile : file ∈ s.snapshot.files) : file.2 ≠ [] := by
  obtain ⟨f, hf, rfl⟩ := List.mem_map.1 (List.mem_mergeSort.1 hfile)
  exact h.nonempty f hf

/-- **What is shown about a file is what was said last about it.**  After any
edits, however paths are spelled: the store holds something that a session has
said about a file, and the snapshot lists the file once and with that, exactly
when it is not nothing and the session has said it, and since then nobody has
said anything about the file, the session has not been cleared, and neither has
the store.  When there is no such thing, the file is not held and not listed.
Clearing a session takes nothing away but what is held of that session, and
every file that is listed has something to it. -/
theorem lists_what_stands (edits : List Edit) (path : Path) (owner : SessionId)
    (items : List Diagnostic) :
    ((after edits).Holds path owner items ∧ (after edits).snapshot.about path = [items] ↔
      items ≠ [] ∧ Stands edits path owner items) ∧
    ((∀ id said, ¬ (said ≠ [] ∧ Stands edits path id said)) →
      (∀ id said, ¬ (after edits).Holds path id said) ∧
        (after edits).snapshot.about path = []) ∧
    (∀ id, (after (edits ++ [.clearSession id])).Holds path owner items ↔
      (after edits).Holds path owner items ∧ owner ≠ id) ∧
    ∀ file ∈ (after edits).snapshot.files, file.2 ≠ [] := by
  have htidy := tidy_after edits
  refine ⟨⟨fun h => holds_iff_stands.1 h.1, fun h => ?_⟩, fun hnone => ?_, fun id => ?_,
    fun file hfile => items_ne_nil_of_mem_snapshot htidy hfile⟩
  · have hold := holds_iff_stands.2 h
    exact ⟨hold, about_eq_of_holds htidy hold⟩
  · have hold : ∀ id said, ¬ (after edits).Holds path id said := fun id said h =>
      hnone id said (holds_iff_stands.1 h)
    exact ⟨hold, about_eq_nil hold⟩
  · rw [after_concat]
    exact holds_clearSession_iff

end Store
end Switchboard
