/-
# Projects by installation

Going through the projects one by one and adding each to the group of its
installation gives every installation that is met one group, in the order in
which they are first met, with all projects that resolve to it in their order
(`Discovery.group_eq`).  Groups are found by comparing paths component by
component; as installations are known by their canonical paths, that is
comparing them as they are.
-/

import Switchboard.Proofs.Disk.Resolved
import Switchboard.Proofs.Disk.Shape
import Switchboard.Workspace.Discovery

namespace Switchboard

namespace Resolve

variable {d d' : Disk} {source m : Path} {package : String}

/-- What a package is resolved to is the canonical path of a file. -/
theorem exists_of_manifest (h : manifest d source package = .ok m) :
    ∃ found, d.isFile found = true ∧ d.canonical found = .ok m := by
  unfold manifest at h
  dsimp only at h
  split at h
  next found hfound =>
    have hfile := List.find?_some hfound
    obtain ⟨q, hq⟩ := Disk.exists_canonical_of_isFile hfile
    obtain rfl : q = m := by
      rw [hq] at h
      exact Except.ok.inj h
    exact ⟨found, hfile, hq⟩
  · exact absurd h (by simp)

/-- Installations that are equal component by component are the same. -/
theorem eq_of_same (hd : ∀ n ∈ d.cwd, Path.IsName n) {source' m' : Path} {package' : String}
    (h : manifest d source package = .ok m) (h' : manifest d source' package' = .ok m')
    (hsame : m.same m' = true) : m = m' := by
  obtain ⟨found, -, hm⟩ := exists_of_manifest h
  obtain ⟨found', -, hm'⟩ := exists_of_manifest h'
  exact Disk.canonical_eq_of_same hd hm hm' hsame

/-- What a package is resolved to is a matter of shape. -/
theorem manifest_of_shape (h : d'.shape = d.shape) (source : Path) (package : String) :
    manifest d' source package = manifest d source package := by
  have hfile : d'.isFile = d.isFile := funext (Disk.isFile_of_shape h)
  have hcanonical : d'.canonical = d.canonical := funext (Disk.canonical_of_shape h)
  unfold manifest
  rw [hfile, hcanonical]

end Resolve

namespace Discovery

variable {d d' : Disk} {p : Project} {ps : List Project} {m : Path}

/-! ### Installations -/

/-- The manifest of the installation that a project resolves to. -/
def installation? (d : Disk) (p : Project) : Option Path :=
  (Resolve.manifest d p.manifest Manifest.toolPackage).toOption

/-- The installations that projects resolve to, in the order in which they are first met. -/
def met (d : Disk) (ps : List Project) : List Path := (ps.filterMap (installation? d)).eraseDups

/-- The projects that resolve to an installation. -/
def users (d : Disk) (ps : List Project) (m : Path) : List Project :=
  ps.filter fun p => installation? d p == some m

/-- The installation of a project is the manifest of the tool that is found from its own. -/
theorem installation?_eq_some_iff : installation? d p = some m ↔
    Resolve.manifest d p.manifest Manifest.toolPackage = .ok m := by
  unfold installation?
  cases Resolve.manifest d p.manifest Manifest.toolPackage <;> simp [Except.toOption]

/-- A project is placed with its installation, and nowhere if it has none. -/
theorem place_eq (groups : Groups) : place d groups p = match installation? d p with
    | some m => add m p groups
    | none => groups := by
  unfold place installation?
  cases Resolve.manifest d p.manifest Manifest.toolPackage <;> rfl

/-- The installations met are those of the projects. -/
theorem mem_met : m ∈ met d ps ↔ ∃ p ∈ ps, installation? d p = some m := by
  rw [met, List.mem_eraseDups, List.mem_filterMap]

/-- A project without an installation brings none to those met. -/
theorem met_concat_of_none (h : installation? d p = none) : met d (ps ++ [p]) = met d ps := by
  rw [met, met, List.filterMap_append, List.filterMap_cons_none h, List.filterMap_nil,
    List.append_nil]

/-- One more element is kept if it has not been there before. -/
theorem eraseDups_concat (l : List Path) (m : Path) :
    (l ++ [m]).eraseDups = if m ∈ l.eraseDups then l.eraseDups else l.eraseDups ++ [m] := by
  rw [List.eraseDups_append]
  by_cases h : m ∈ l
  · simp [List.removeAll, h, List.mem_eraseDups]
  · simp [List.removeAll, h, List.mem_eraseDups, List.eraseDups_cons]

/-- A project brings its installation to those met unless it has been met before. -/
theorem met_concat_of_some (h : installation? d p = some m) :
    met d (ps ++ [p]) = if m ∈ met d ps then met d ps else met d ps ++ [m] := by
  rw [met, List.filterMap_append, List.filterMap_cons_some h, List.filterMap_nil]
  exact eraseDups_concat ..

/-- No installation is met twice. -/
theorem nodup_met (d : Disk) (ps : List Project) : (met d ps).Nodup := by
  induction ps using List.reverseRecOn with
  | nil => exact List.nodup_nil
  | append_singleton ps p ih =>
    cases hp : installation? d p with
    | none => rwa [met_concat_of_none hp]
    | some m =>
      rw [met_concat_of_some hp]
      split
      · exact ih
      next hnew => exact List.nodup_append_comm.1 (List.nodup_cons.2 ⟨hnew, ih⟩)

/-! ### Groups -/

/-- A manifest that is met for the first time opens a group at the end. -/
theorem add_of_not_mem {groups : Groups} (h : ∀ g ∈ groups, g.1.same m = false) :
    add m p groups = groups ++ [(m, [p])] := by
  induction groups with
  | nil => rfl
  | cons g groups ih =>
    obtain ⟨hg, hgroups⟩ := List.forall_mem_cons.1 h
    obtain ⟨k, projects⟩ := g
    rw [add, if_neg (by simp [hg]), ih hgroups, List.cons_append]

/-- A project is added to the one group whose key is the path of its installation. -/
theorem add_of_mem {keys : List Path} {f : Path → List Project} {k₀ : Path} (hmem : k₀ ∈ keys)
    (hkeys : ∀ k ∈ keys, k.same m = true ↔ k = k₀) (hnodup : keys.Nodup) :
    add m p (keys.map fun k => (k, f k)) =
      keys.map fun k => (k, if k = k₀ then f k ++ [p] else f k) := by
  induction keys with
  | nil => exact absurd hmem List.not_mem_nil
  | cons k keys ih =>
    obtain ⟨hk, hkeys⟩ := List.forall_mem_cons.1 hkeys
    obtain ⟨hfirst, hnodup⟩ := List.nodup_cons.1 hnodup
    rw [List.map_cons, List.map_cons, add]
    by_cases heq : k = k₀
    · subst heq
      have hrest : keys.map (fun k' => (k', f k')) =
          keys.map fun k' => (k', if k' = k then f k' ++ [p] else f k') := by
        refine List.map_congr_left fun k' hk' => ?_
        rw [if_neg (ne_of_mem_of_not_mem hk' hfirst)]
      rw [if_pos (hk.2 rfl), if_pos rfl, hrest]
    · rw [if_neg fun h => heq (hk.1 h), if_neg heq,
        ih ((List.mem_cons.1 hmem).resolve_left fun h => heq h.symm) hkeys hnodup]

/-- One more project is one more user of its own installation. -/
theorem users_concat : users d (ps ++ [p]) m =
    if installation? d p = some m then users d ps m ++ [p] else users d ps m := by
  rw [users, users, List.filter_append]
  split <;> simp [*]

/-- **Projects are grouped by their installations**: one group for each that is
met, in the order in which they are first met, with all projects that resolve to
it in their order. -/
theorem group_eq (hd : ∀ n ∈ d.cwd, Path.IsName n) (ps : List Project) :
    group d ps = (met d ps).map fun m => (m, users d ps m) := by
  induction ps using List.reverseRecOn with
  | nil => rfl
  | append_singleton ps p ih =>
    rw [group, List.foldl_concat, ← group, ih, place_eq]
    cases hp : installation? d p with
    | none =>
      rw [met_concat_of_none hp]
      refine List.map_congr_left fun k _ => ?_
      rw [users_concat, if_neg (by simp [hp])]
    | some m =>
      have hkeys : ∀ k ∈ met d ps, k.same m = true → k = m := by
        intro k hk hsame
        obtain ⟨q, -, hq⟩ := mem_met.1 hk
        exact Resolve.eq_of_same hd (installation?_eq_some_iff.1 hq)
          (installation?_eq_some_iff.1 hp) hsame
      rw [met_concat_of_some hp]
      dsimp only
      split
      next hold =>
        have hkey : ∀ k ∈ met d ps, k.same m = true ↔ k = m := fun k hk =>
          ⟨hkeys k hk, fun h => h ▸ beq_self_eq_true _⟩
        rw [add_of_mem hold hkey (nodup_met d ps)]
        refine List.map_congr_left fun k _ => ?_
        rw [users_concat, hp]
        simp only [Option.some_inj, eq_comm]
      next hnew =>
        have hsame : ∀ g ∈ (met d ps).map fun k => (k, users d ps k), g.1.same m = false := by
          intro g hg
          obtain ⟨k, hk, rfl⟩ := List.mem_map.1 hg
          rw [← Bool.not_eq_true]
          exact fun h => hnew (hkeys k hk h ▸ hk)
        have hnone : users d ps m = [] := List.filter_eq_nil_iff.2 fun q hq h =>
          hnew (mem_met.2 ⟨q, hq, beq_iff_eq.1 h⟩)
        rw [add_of_not_mem hsame, List.map_append, List.map_singleton, users_concat, if_pos hp,
          hnone]
        refine congrArg (· ++ _) (List.map_congr_left fun k hk => ?_)
        have hother : some m ≠ some k := fun h => hnew (Option.some.inj h ▸ hk)
        rw [users_concat, hp, if_neg hother]

/-! ### Executables -/

/-- **The executable of an installation** is a file in the directory of the
companion package that the installation resolves to. -/
theorem binary_eq_some_iff {platform : Platform} {b : Path} : binary d m platform = some b ↔
    ∃ companion dir, Resolve.manifest d m platform.packageName = .ok companion ∧
      companion.parent = some dir ∧ b = dir.child platform.binaryName ∧ d.isFile b = true := by
  unfold binary
  constructor
  · intro h
    split at h
    · exact absurd h (by simp)
    next companion hcompanion =>
      obtain ⟨dir, hdir, h⟩ := Option.bind_eq_some_iff.1 h
      dsimp only at h
      split at h
      next hfile =>
        obtain rfl := Option.some.inj h
        exact ⟨companion, dir, hcompanion, hdir, rfl, hfile⟩
      · exact absurd h (by simp)
  · rintro ⟨companion, dir, hcompanion, hdir, rfl, hfile⟩
    rw [hcompanion]
    dsimp only
    rw [hdir, Option.bind_some, if_pos hfile]

/-- An executable is for the platform of the machine, so that the tool ships something for it. -/
theorem executable_eq_some_iff {b : Path} : executable d m = some b ↔
    ∃ platform, d.platform = .ok platform ∧ binary d m platform = some b := by
  unfold executable
  cases d.platform with
  | error unsupported => simp
  | ok platform => simp

/-- The installations that projects resolve to and that have an executable for this machine. -/
def equipped (d : Disk) (ps : List Project) : List Path :=
  (met d ps).filter fun m => (executable d m).isSome

/-- The installations equipped are those met for which there is a program. -/
theorem mem_equipped : m ∈ equipped d ps ↔
    (∃ p ∈ ps, installation? d p = some m) ∧ ∃ b, executable d m = some b := by
  rw [equipped, List.mem_filter, mem_met, Option.isSome_iff_exists]

/-- What is planned for groups: one plan for each installation with an executable. -/
theorem forall₂_plans (d : Disk) (projectsOf : Path → List Project) (ms : List Path) :
    List.Forall₂ (fun m (plan : Plan) =>
        plan.projects = projectsOf m ∧ executable d m = some plan.binary)
      (ms.filter fun m => (executable d m).isSome)
      (((ms.map fun m => (m, projectsOf m)).map (inspect d)).filterMap Installation.plan?) := by
  induction ms with
  | nil => exact .nil
  | cons m ms ih =>
    rw [List.map_cons, List.map_cons]
    cases hbinary : executable d m with
    | none =>
      have hplan : (inspect d (m, projectsOf m)).plan? = none := by
        rw [Installation.plan?, inspect, hbinary]
        rfl
      rw [List.filter_cons_of_neg (by simp [hbinary]), List.filterMap_cons_none hplan]
      exact ih
    | some b =>
      have hplan : (inspect d (m, projectsOf m)).plan? =
          some ⟨Manifest.version d m, b, projectsOf m⟩ := by
        rw [Installation.plan?, inspect, hbinary]
        rfl
      rw [List.filter_cons_of_pos (by simp [hbinary]), List.filterMap_cons_some hplan]
      exact .cons ⟨rfl, hbinary⟩ ih

/-- The projects of installations, one installation after the other. -/
theorem mem_flatMap_users {ms : List Path} : p ∈ ms.flatMap (users d ps) ↔
    p ∈ ps ∧ ∃ m ∈ ms, installation? d p = some m := by
  simp only [List.mem_flatMap, users, List.mem_filter, beq_iff_eq]
  exact ⟨fun ⟨m, hm, hp, h⟩ => ⟨hp, m, hm, h⟩, fun ⟨hp, m, hm, h⟩ => ⟨m, hm, hp, h⟩⟩

/-- Different projects stay apart when they are put together by installation. -/
theorem pairwise_flatMap_users {R : Project → Project → Prop} [Std.Symm R] {ms : List Path}
    (hms : ms.Nodup) (hps : ps.Pairwise R) :
    (ms.flatMap (users d ps)).Pairwise R := by
  rw [List.pairwise_flatMap]
  refine ⟨fun m _ => hps.filter _, hms.imp fun {m m'} hne p hp q hq => ?_⟩
  obtain ⟨hp, hinstalled⟩ := List.mem_filter.1 hp
  obtain ⟨hq, hinstalled'⟩ := List.mem_filter.1 hq
  have hdifferent : p ≠ q := by
    rintro rfl
    exact hne (Option.some.inj ((beq_iff_eq.1 hinstalled).symm.trans (beq_iff_eq.1 hinstalled')))
  exact hps.forall hp hq hdifferent

/-! ### What is a matter of shape -/

/-- Disks of one shape have the same installations. -/
theorem installation?_of_shape (h : d'.shape = d.shape) : installation? d' = installation? d := by
  funext p
  rw [installation?, installation?, Resolve.manifest_of_shape h]

/-- Disks of one shape meet them in the same order. -/
theorem met_of_shape (h : d'.shape = d.shape) (ps : List Project) : met d' ps = met d ps := by
  rw [met, met, installation?_of_shape h]

/-- Disks of one shape have the same users of each. -/
theorem users_of_shape (h : d'.shape = d.shape) (ps : List Project) :
    users d' ps = users d ps := by
  funext m
  rw [users, users, installation?_of_shape h]

/-- Disks of one shape have the programs in the same places. -/
theorem binary_of_shape (h : d'.shape = d.shape) (m : Path) (platform : Platform) :
    binary d' m platform = binary d m platform := by
  have hfile : d'.isFile = d.isFile := funext (Disk.isFile_of_shape h)
  unfold binary
  rw [Resolve.manifest_of_shape h, hfile]

/-- Disks of one shape have the same programs. -/
theorem executable_of_shape (h : d'.shape = d.shape) : executable d' = executable d := by
  funext m
  unfold executable
  rw [Disk.platform_of_shape h]
  cases d.platform with
  | error unsupported => rfl
  | ok platform => exact binary_of_shape h m platform

end Discovery
end Switchboard
