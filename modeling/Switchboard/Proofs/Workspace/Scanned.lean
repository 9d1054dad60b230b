/-
# What a scan finds

A scanned path is the folder's with names behind it (`Scan.components_of_matching`),
and a scan finds no path twice (`Scan.pairwise_distinct`).  Every manifest it
finds is called one, so two manifests in one directory would be the same: the
projects of a scan are in different directories (`Manifest.pairwise_projects`).
-/

import Switchboard.Proofs.Disk.Shape
import Switchboard.Proofs.Glob.Anywhere
import Switchboard.Proofs.Path.Parent
import Switchboard.Workspace.Manifest

namespace Switchboard
namespace Scan

variable {d d' : Disk} {p root : Path} {roots : List Path}

/-! ### Names on the way to a file -/

mutual

/-- The names that lead to a file of a tidy tree. -/
theorem isName_of_filesOf {node : Node} (h : node.tidy = true) :
    ∀ names ∈ filesOf node, ∀ n ∈ names, Path.IsName n := by
  cases node with
  | directory entries => exact isName_of_filesIn h
  | file | program => simp [filesOf]
  | link => simp [filesOf]

/-- The files in tidy entries are reached by names. -/
theorem isName_of_filesIn {entries : List (Bytes × Node)} (h : Node.tidyIn entries = true) :
    ∀ names ∈ filesIn entries, ∀ n ∈ names, Path.IsName n := by
  cases entries with
  | nil => simp [filesIn]
  | cons entry entries =>
    obtain ⟨name, node⟩ := entry
    obtain ⟨hname, hnode, -, hentries⟩ := Node.tidyIn_cons.1 h
    intro names hnames
    rw [filesIn, List.mem_append] at hnames
    rcases hnames with hnames | hnames
    · split at hnames
      · exact absurd hnames List.not_mem_nil
      · obtain ⟨below, hbelow, rfl⟩ := List.mem_map.1 hnames
        exact List.forall_mem_cons.2 ⟨hname, isName_of_filesOf hnode below hbelow⟩
    · exact isName_of_filesIn hentries names hnames

end

/-- The files below a root of a tidy disk are reached by names. -/
theorem isName_of_filesBelow (hd : d.Tidy) {names : List Bytes} (h : names ∈ filesBelow d root) :
    ∀ n ∈ names, Path.IsName n := by
  unfold filesBelow at h
  split at h
  · exact absurd h List.not_mem_nil
  · split at h
    next node hnode => exact isName_of_filesOf (Disk.tidy_of_node hd hnode) names h
    · exact absurd h List.not_mem_nil

/-! ### Found paths -/

/-- Names that are joined to a path are added to its components. -/
theorem components_foldl_join {names : List Bytes} (h : ∀ n ∈ names, Path.IsName n) (p : Path) :
    (names.foldl (fun p name => p.join ⟨name⟩) p).components =
      p.components ++ names.map .name := by
  induction names generalizing p with
  | nil => exact (List.append_nil _).symm
  | cons n names ih =>
    obtain ⟨hn, hnames⟩ := List.forall_mem_cons.1 h
    rw [List.foldl_cons, ih hnames, Path.components_join p hn, List.append_assoc]
    rfl

/-- A path that a scan finds has the names that lead to it behind the folder's components. -/
theorem components_of_matching (hd : d.Tidy) {pattern : Glob.Pattern}
    (h : p ∈ matching d pattern root) :
    ∃ names, (∀ n ∈ names, Path.IsName n) ∧ pattern.isMatch (relative names) = true ∧
      p.components = root.components ++ names.map .name := by
  obtain ⟨names, hnames, rfl⟩ := List.mem_map.1 h
  obtain ⟨hbelow, hmatch⟩ := List.mem_filter.1 hnames
  have hname := isName_of_filesBelow hd hbelow
  exact ⟨names, hname, hmatch, components_foldl_join hname root⟩

/-- Leaving out what stands there twice brings nothing in. -/
theorem mem_of_mem_distinct {ps : List Path} (h : p ∈ distinct ps) : p ∈ ps := by
  induction ps with
  | nil => exact h
  | cons q ps ih =>
    rcases List.mem_cons.1 h with rfl | h
    · exact List.mem_cons_self ..
    · exact List.mem_cons_of_mem _ (ih (List.mem_filter.1 h).1)

/-- No two paths are the same once only the first of those that are is kept. -/
theorem pairwise_distinct (ps : List Path) :
    (distinct ps).Pairwise fun p q => q.same p = false := by
  induction ps with
  | nil => exact .nil
  | cons p ps ih =>
    refine .cons (fun q hq => ?_) (ih.filter _)
    have hne := (List.mem_filter.1 hq).2
    exact Bool.not_eq_true' _ ▸ hne

/-- A manifest that a scan finds is called one. -/
theorem components_of_manifests (hd : d.Tidy) (h : p ∈ manifests d roots) :
    ∃ front, p.components = front ++ [.name (Utf8.encode Project.manifestName)] := by
  obtain ⟨root, -, hp⟩ := List.mem_flatMap.1 (mem_of_mem_distinct h)
  obtain ⟨names, hnames, hmatch, hcomponents⟩ := components_of_matching hd hp
  obtain ⟨init, rfl⟩ := List.getLast?_eq_some_iff.1 ((isMatch_manifestPattern_iff hnames).1 hmatch)
  refine ⟨root.components ++ init.map .name, ?_⟩
  rw [hcomponents, List.map_append, List.append_assoc]
  rfl

/-- What a scan finds is a matter of shape. -/
theorem files_of_shape (h : d'.shape = d.shape) (pattern : Glob.Pattern) (roots : List Path) :
    files d' pattern roots = files d pattern roots := by
  have hfiles : filesBelow d' = filesBelow d := funext (Disk.filesBelow_of_shape h)
  have hmatching : matching d' pattern = matching d pattern := by
    funext root
    rw [matching, matching, hfiles]
  rw [files, files, hmatching]

/-- Disks of one shape have the same manifests. -/
theorem manifests_of_shape (h : d'.shape = d.shape) (roots : List Path) :
    manifests d' roots = manifests d roots := files_of_shape h manifestPattern roots

end Scan

namespace Manifest

variable {d : Disk} {m : Path} {p : Project}

/-- The path of a project is the directory of its manifest. -/
theorem parent_of_project? (h : project? d m = some p) : m.parent = some p.path := by
  unfold project? at h
  split at h
  · split at h
    · obtain ⟨dir, hdir, rfl⟩ := Option.map_eq_some_iff.1 h
      exact (Option.filter_eq_some_iff.1 hdir).1
    · exact absurd h (by simp)
  · exact absurd h (by simp)

/-- **The projects that a scan finds are in different directories.** -/
theorem pairwise_projects (d : Disk) {d' : Disk} (hd : d'.Tidy) (roots : List Path) :
    (projects d (Scan.manifests d' roots)).Pairwise fun p q => p.path.same q.path = false := by
  rw [projects, List.pairwise_filterMap]
  refine (Scan.pairwise_distinct _).imp_of_mem fun {m m'} hm hm' hne p hp q hq => ?_
  obtain ⟨front, hfront⟩ := Scan.components_of_manifests hd hm
  obtain ⟨front', hfront'⟩ := Scan.components_of_manifests hd hm'
  obtain ⟨c, hc⟩ := Path.components_of_parent (parent_of_project? hp)
  obtain ⟨c', hc'⟩ := Path.components_of_parent (parent_of_project? hq)
  rw [← Bool.not_eq_true]
  intro hsame
  have hdirs : p.path.components = q.path.components := beq_iff_eq.1 hsame
  have hlast := (List.append_inj' (hc.symm.trans hfront) rfl).2
  have hlast' := (List.append_inj' (hc'.symm.trans hfront') rfl).2
  have hmanifests : m'.same m = true := by
    rw [Path.same, beq_iff_eq, hc, hc', hlast, hlast', hdirs]
  exact absurd (hne.symm.trans hmanifests) (by simp)

end Manifest
end Switchboard
