/-
# One snapshot of what is held

In whatever order a store yields what it holds, its snapshot is the same
(`Store.snapshot_canonical`): files with errors come before files without, and each
group ascends in the order of paths.

That order tells any two paths apart that differ in their components
(`Path.order_eq_eq_iff`), and of a store that has only been told things every
file is held once (`Store.tidy_after`).  So no two files of a snapshot tie, and
there is only one way to put them in order.
-/

import Mathlib.Data.List.Sort
import Mathlib.Data.Prod.Lex
import Switchboard.Proofs.Diagnostic.Standing

namespace Switchboard

/-! ### The order of paths -/

namespace Path

/-- Components are told apart by their keys. -/
theorem Component.key_injective : Function.Injective Component.key := by
  intro a b h
  cases a <;> cases b <;> simp [key] at h ⊢
  exact List.map_injective_iff.2 (fun _ _ h => UInt8.toNat_inj.1 h) h

instance : Std.TransCmp order := inferInstanceAs (Std.TransCmp (compareOn key))

/-- **The order of paths tells paths apart that differ in their components**, and no others. -/
theorem order_eq_eq_iff {p q : Path} : p.order q = .eq ↔ p.same q = true := by
  rw [order, Std.LawfulEqCmp.compare_eq_iff_eq, key, key, same_iff]
  exact (List.map_injective_iff.2 Component.key_injective).eq_iff

end Path

namespace Snapshot

variable {a b : Path × List Diagnostic} {files : List (Path × List Diagnostic)}

/-! ### The order of files -/

/-- Files by whether they have errors, those that have first, and then by their paths. -/
def fileOrder : Path × List Diagnostic → Path × List Diagnostic → Ordering :=
  compareLex (compareOn fun file => !hasErrors file.2) fun a b => a.1.order b.1

instance : Std.TransCmp fileOrder :=
  haveI : Std.TransCmp fun a b : Path × List Diagnostic => a.1.order b.1 :=
    inferInstanceAs (Std.TransCmp (compareOn fun file : Path × List Diagnostic => file.1.key))
  inferInstanceAs (Std.TransCmp (compareLex _ _))

/-- Two files are in order if they do not compare the other way. -/
theorem fileLE_eq (a b : Path × List Diagnostic) : fileLE a b = (fileOrder a b).isLE := by
  simp only [fileLE, fileOrder, compareLex, compareOn]
  cases hasErrors a.2 <;> cases hasErrors b.2 <;> rfl

/-- The files of a snapshot are in order. -/
theorem pairwise_files (s : Store) :
    s.snapshot.files.Pairwise fun a b => fileLE a b = true := by
  refine List.pairwise_mergeSort (fun a b c hab hbc => ?_) (fun a b => ?_) _
  · rw [fileLE_eq] at hab hbc ⊢
    exact Std.TransCmp.isLE_trans hab hbc
  · have hswap : fileOrder b a = (fileOrder a b).swap := Std.OrientedCmp.eq_swap
    rw [fileLE_eq, fileLE_eq, hswap]
    cases fileOrder a b <;> rfl

/-- Files that tie are the same file. -/
theorem same_of_fileLE (hab : fileLE a b = true) (hba : fileLE b a = true) :
    a.1.same b.1 = true := by
  rw [fileLE_eq] at hab hba
  have htie := Std.OrientedCmp.isLE_antisymm hab hba
  exact Path.order_eq_eq_iff.1 (compareLex_eq_eq.1 htie).2

/-- A file has errors if one of its diagnostics is one. -/
theorem hasErrors_iff {items : List Diagnostic} :
    hasErrors items = true ↔ ∃ d ∈ items, d.severity = .error := by
  simp [hasErrors, Severity.isError]

/-- No file with errors stands behind one without. -/
theorem hasErrors_of_fileLE (hab : fileLE a b = true) (hb : hasErrors b.2 = true) :
    hasErrors a.2 = true := by
  cases ha : hasErrors a.2 with
  | true => rfl
  | false => simp [fileLE, ha, hb] at hab

/-- Files in order are those with errors, and then those without. -/
theorem eq_append_of_pairwise (h : files.Pairwise fun a b => fileLE a b = true) :
    files = files.filter (fun file => hasErrors file.2) ++
      files.filter fun file => !hasErrors file.2 := by
  induction files with
  | nil => rfl
  | cons file files ih =>
    obtain ⟨hfirst, hfiles⟩ := List.pairwise_cons.1 h
    cases herrors : hasErrors file.2 with
    | true =>
      rw [List.filter_cons_of_pos (by exact herrors), List.filter_cons_of_neg (by simp [herrors]),
        List.cons_append, ← ih hfiles]
    | false =>
      have hclean : ∀ other ∈ files, ¬ hasErrors other.2 = true := fun other hother hsome => by
        simp [hasErrors_of_fileLE (hfirst other hother) hsome] at herrors
      have hnone : files.filter (fun file => hasErrors file.2) = [] :=
        List.filter_eq_nil_iff.2 hclean
      have hall : files.filter (fun file => !hasErrors file.2) = files :=
        List.filter_eq_self.2 fun other hother => by simp [hclean other hother]
      rw [List.filter_cons_of_neg (by simp [herrors]), List.filter_cons_of_pos (by simp [herrors]),
        hnone, hall, List.nil_append]

/-- Some file has errors exactly when the first one has. -/
theorem exists_hasErrors_iff_head? (h : files.Pairwise fun a b => fileLE a b = true) :
    (∃ file ∈ files, hasErrors file.2 = true) ↔
      ∃ file ∈ files.head?, hasErrors file.2 = true := by
  cases files with
  | nil => simp
  | cons first files =>
    have hfirst := (List.pairwise_cons.1 h).1
    simp only [List.mem_cons, exists_eq_or_imp, List.head?_cons, Option.mem_some_iff,
      exists_eq_left']
    refine ⟨?_, .inl⟩
    rintro (herrors | ⟨file, hfile, herrors⟩)
    · exact herrors
    · exact hasErrors_of_fileLE (hfirst file hfile) herrors

/-- Of files that both have errors, or both have none, the first one has the lesser path. -/
theorem order_lt_of_fileLE (hab : fileLE a b = true) (herrors : hasErrors a.2 = hasErrors b.2)
    (hne : ¬ a.1.same b.1 = true) : a.1.order b.1 = .lt := by
  have hle : (a.1.order b.1).isLE = true := by
    unfold fileLE at hab
    rw [herrors] at hab
    cases hb : hasErrors b.2 <;> simpa [hb] using hab
  rw [← Path.order_eq_eq_iff] at hne
  cases horder : a.1.order b.1 with
  | lt => rfl
  | eq => exact absurd horder hne
  | gt => rw [horder] at hle; exact absurd hle (by decide)

/-- Files that all have errors, or all have none, ascend strictly if none is there twice. -/
theorem pairwise_order_lt (h : files.Pairwise fun a b => fileLE a b = true)
    (hdistinct : files.Pairwise fun a b => ¬ a.1.same b.1 = true) {errors : Bool}
    (hfiles : ∀ file ∈ files, hasErrors file.2 = errors) :
    files.Pairwise fun a b => a.1.order b.1 = .lt :=
  (h.and hdistinct).imp_of_mem fun ha hb hab =>
    order_lt_of_fileLE hab.1 ((hfiles _ ha).trans (hfiles _ hb).symm) hab.2

/-! ### Counts -/

variable {s : Snapshot}

/-- The total is the sum of what is listed for each file. -/
theorem totalCount_eq_sum (s : Snapshot) :
    s.totalCount = (s.files.map fun file => file.2.length).sum := List.length_flatMap

/-- No item is both an error and a warning. -/
theorem errorCount_add_warningCount_le (s : Snapshot) :
    s.errorCount + s.warningCount ≤ s.totalCount := by
  have hwarnings : s.warningCount ≤ s.items.countP fun d => ¬ (d.severity == .error) = true :=
    List.countP_mono_left fun d _ hd => by simp_all
  have htotal : s.totalCount = s.errorCount + s.items.countP fun d =>
      ¬ (d.severity == .error) = true := List.length_eq_countP_add_countP _
  omega

/-- A snapshot whose files are not empty is empty itself exactly if its total is zero. -/
theorem isEmpty_iff_totalCount (h : ∀ file ∈ s.files, file.2 ≠ []) :
    s.isEmpty = true ↔ s.totalCount = 0 := by
  rw [isEmpty, List.isEmpty_iff, totalCount, List.length_eq_zero_iff, items,
    List.flatMap_eq_nil_iff, List.eq_nil_iff_forall_not_mem]
  exact forall₂_congr fun file hfile => (iff_false_intro (h file hfile)).symm

/-- There is an error in the count exactly if some file has errors. -/
theorem errorCount_pos_iff :
    0 < s.errorCount ↔ ∃ file ∈ s.files, hasErrors file.2 = true := by
  simp only [errorCount, count, List.countP_pos_iff, items, List.mem_flatMap, hasErrors_iff,
    beq_iff_eq]
  constructor
  · rintro ⟨d, ⟨file, hfile, hd⟩, herror⟩
    exact ⟨file, hfile, d, hd, herror⟩
  · rintro ⟨file, hfile, d, hd, herror⟩
    exact ⟨d, ⟨file, hfile, hd⟩, herror⟩

end Snapshot

namespace Store

open Snapshot

variable {fs gs : List Finding}

/-- The files that findings are about, each with what is said about it. -/
def entries (fs : List Finding) : List (Path × List Diagnostic) := fs.map fun f => (f.path, f.items)

/-- The snapshot of a tidy store lists no file twice. -/
theorem pairwise_snapshot (h : Tidy fs) :
    (Store.mk fs).snapshot.files.Pairwise fun a b => ¬ a.1.same b.1 = true := by
  have hfiles : (entries fs).Pairwise fun a b => ¬ a.1.same b.1 = true :=
    List.pairwise_map.2 h.distinct
  refine (List.mergeSort_perm (entries fs) fileLE).symm.pairwise hfiles fun {a b} hab hba => ?_
  exact hab (Path.same_symm hba)

/-- **What is held has one snapshot**, in whatever order it is held. -/
theorem snapshot_eq_of_perm (h : Tidy gs) (hperm : fs.Perm gs) :
    (Store.mk fs).snapshot = (Store.mk gs).snapshot := by
  have hfiles : (entries fs).Perm (entries gs) := hperm.map _
  have hsorted : (Store.mk fs).snapshot.files.Perm (Store.mk gs).snapshot.files :=
    (List.mergeSort_perm _ _).trans (hfiles.trans (List.mergeSort_perm _ _).symm)
  refine congrArg Snapshot.mk (hsorted.eq_of_pairwise (fun a b ha hb hab hba => ?_)
    (pairwise_files _) (pairwise_files _))
  -- Files that tie are the same, and no file is there twice.
  have : Std.Symm fun a b : Path × List Diagnostic => ¬ a.1.same b.1 = true :=
    ⟨fun _ _ hne hsame => hne (Path.same_symm hsame)⟩
  by_contra hne
  exact (pairwise_snapshot h).forall (hsorted.subset ha) hb hne (same_of_fileLE hab hba)

/-- **A store has one snapshot**, in whatever order it yields what it holds after any edits.
That snapshot lists what is held and nothing else, first the files with errors and then
those without, each group strictly ascending in the order of paths.  Its counts belong
together: the items of all files are the total, no item is both an error and a warning,
there is no file exactly when the total is zero, and there are errors exactly when the
first file has one. -/
theorem snapshot_canonical (edits : List Edit) (hperm : fs.Perm (after edits).findings) :
    let shown := (Store.mk fs).snapshot
    shown = (after edits).snapshot ∧
    shown.files.Perm (entries (after edits).findings) ∧
    (∃ failing clean, shown.files = failing ++ clean ∧
      (∀ file ∈ failing, ∃ d ∈ file.2, d.severity = .error) ∧
      (∀ file ∈ clean, ∀ d ∈ file.2, d.severity ≠ .error) ∧
      failing.Pairwise (fun a b => a.1.order b.1 = .lt) ∧
      clean.Pairwise fun a b => a.1.order b.1 = .lt) ∧
    shown.totalCount = (shown.files.map fun file => file.2.length).sum ∧
    shown.errorCount + shown.warningCount ≤ shown.totalCount ∧
    (shown.isEmpty = true ↔ shown.totalCount = 0) ∧
    (0 < shown.errorCount ↔ ∃ file ∈ shown.files.head?, ∃ d ∈ file.2, d.severity = .error) := by
  have htidy := tidy_after edits
  intro shown
  have hshown : shown = (after edits).snapshot := snapshot_eq_of_perm htidy hperm
  rw [hshown]
  have hsplit := eq_append_of_pairwise (pairwise_files (after edits))
  set failing := (after edits).snapshot.files.filter fun file => hasErrors file.2
  set clean := (after edits).snapshot.files.filter fun file => !hasErrors file.2
  have hfailing : ∀ file ∈ failing, hasErrors file.2 = true := fun file hfile =>
    (List.mem_filter.1 hfile).2
  have hclean : ∀ file ∈ clean, hasErrors file.2 = false := fun file hfile => by
    simpa using (List.mem_filter.1 hfile).2
  have hordered : ∀ {group : List (Path × List Diagnostic)} {errors : Bool},
      group.Sublist (after edits).snapshot.files → (∀ file ∈ group, hasErrors file.2 = errors) →
      group.Pairwise fun a b => a.1.order b.1 = .lt := fun hgroup =>
    pairwise_order_lt ((pairwise_files _).sublist hgroup) ((pairwise_snapshot htidy).sublist hgroup)
  refine ⟨rfl, List.mergeSort_perm _ _, ⟨failing, clean, hsplit, fun file hfile => ?_,
    fun file hfile d hd herror => ?_, hordered List.filter_sublist hfailing,
    hordered List.filter_sublist hclean⟩, totalCount_eq_sum _, errorCount_add_warningCount_le _,
    isEmpty_iff_totalCount fun file => items_ne_nil_of_mem_snapshot htidy, ?_⟩
  · exact hasErrors_iff.1 (hfailing file hfile)
  · exact absurd (hasErrors_iff.2 ⟨d, hd, herror⟩) (by simp [hclean file hfile])
  · rw [errorCount_pos_iff, exists_hasErrors_iff_head? (pairwise_files _)]
    simp only [hasErrors_iff]

/-- Two files yielded in reverse are shown as they would be otherwise. -/
theorem snapshot_canonical_reversed :
    let edits := [Edit.update 1 (.ofText "a.ts") [⟨.warning, "unused", 0, 4, none, "biome"⟩],
      .update 2 (.ofText "b.ts") [⟨.error, "expected", 2, 0, none, "biome"⟩]]
    (after edits).findings.reverse.Perm (after edits).findings ∧
      (Store.mk (after edits).findings.reverse).snapshot = (after edits).snapshot :=
  ⟨List.reverse_perm _, (snapshot_canonical _ (List.reverse_perm _)).1⟩

end Store
end Switchboard
