/-
# The nearest copy of a package

A file finds a package in the nearest directory at or above its own that offers
it: one that is not named `node_modules` itself and has the package's manifest
in its `node_modules`, links followed (`Resolve.find?_ancestors_eq_some_iff`).
Directories above a directory are above those below it too, so where nothing
between the two offers the package they find the same copy
(`Resolve.manifest_of_nearest`).
-/

import Switchboard.Proofs.Path.Ancestors
import Switchboard.Proofs.Workspace.Groups

namespace Switchboard
namespace Resolve

variable {d : Disk} {source upper dir a b : Path} {package : String}

/-! ### Directories that offer a package -/

/-- The directory of a file; the root and the empty path are their own. -/
def directory (source : Path) : Path := source.parent.getD source

/-- Where the manifest of a package is when a directory offers it. -/
def place (package : String) (a : Path) : Path := candidate (a.child modulesName) package

/-- Whether a directory offers a package to the files in it and below. -/
def Offers (d : Disk) (package : String) (a : Path) : Prop :=
  a.fileName ≠ some (Utf8.encode "node_modules") ∧ d.isFile (place package a) = true

instance (d : Disk) (package : String) : DecidablePred (Offers d package) :=
  fun _ => inferInstanceAs (Decidable (_ ∧ _))

/-- The nearest directory at or above another that offers a package: the one that all
others which offer it are above. -/
structure Nearest (d : Disk) (package : String) (dir a : Path) : Prop where
  above : a ∈ dir.ancestors
  offers : Offers d package a
  nearest : ∀ b ∈ dir.ancestors, Offers d package b → b.components <+: a.components

/-- There is one nearest ancestor that offers a package. -/
theorem Nearest.unique (ha : Nearest d package dir a) (hb : Nearest d package dir b) : a = b := by
  have hba := ha.nearest b hb.above hb.offers
  have hab := hb.nearest a ha.above ha.offers
  exact Path.eq_of_mem_ancestors ha.above hb.above
    (hab.eq_of_length (le_antisymm hab.length_le hba.length_le))

/-- **The first directory on the way up that offers a package is the nearest one.** -/
theorem find?_ancestors_eq_some_iff :
    dir.ancestors.find? (Offers d package ·) = some a ↔ Nearest d package dir a := by
  have hfound : ∀ {a}, dir.ancestors.find? (Offers d package ·) = some a →
      Nearest d package dir a := by
    intro a h
    obtain ⟨hoffers, front, back, hsplit, hfront⟩ := List.find?_eq_some_iff_append.1 h
    have hpairwise := Path.pairwise_ancestors dir
    rw [hsplit] at hpairwise
    obtain ⟨hbelow, -⟩ := List.pairwise_cons.1 (List.pairwise_append.1 hpairwise).2.1
    refine ⟨List.mem_of_find?_eq_some h, of_decide_eq_true hoffers, fun b hb hbOffers => ?_⟩
    rw [hsplit, List.mem_append, List.mem_cons] at hb
    rcases hb with hb | rfl | hb
    · exact absurd hbOffers (by simpa using hfront b hb)
    · exact List.prefix_rfl
    · exact (hbelow b hb).1
  refine ⟨hfound, fun h => ?_⟩
  have hsome : (dir.ancestors.find? (Offers d package ·)).isSome = true :=
    List.find?_isSome.2 ⟨a, h.above, decide_eq_true h.offers⟩
  obtain ⟨b, hb⟩ := Option.isSome_iff_exists.1 hsome
  rw [hb, (hfound hb).unique h]

/-- What a package is resolved to is where the first directory that offers it has it. -/
theorem manifest_eq (d : Disk) (source : Path) (package : String) :
    manifest d source package =
      match (directory source).ancestors.find? (Offers d package ·) with
      | some a => .ok ((d.canonical (place package a)).toOption.getD (place package a))
      | none => .error ⟨package, source⟩ := by
  have hfind : ((searched (directory source)).map (candidate · package)).find? d.isFile =
      ((directory source).ancestors.find? (Offers d package ·)).map (place package) := by
    rw [searched, List.map_map, List.find?_map, List.find?_filter]
    refine congrArg (Option.map (place package)) (congrArg (List.find? · _) (funext fun a => ?_))
    rw [Bool.eq_iff_iff, decide_eq_true_iff, decide_eq_true_iff]
    simp [Offers, modulesName, place]
  unfold manifest
  dsimp only
  rw [← directory, hfind]
  cases (directory source).ancestors.find? (Offers d package ·) <;> rfl

/-- The manifest is found in the nearest ancestor that offers the package, in its canonical place.
-/
theorem manifest_eq_ok_iff {m : Path} : manifest d source package = .ok m ↔
    ∃ a, Nearest d package (directory source) a ∧ d.canonical (place package a) = .ok m := by
  simp only [← find?_ancestors_eq_some_iff]
  rw [manifest_eq]
  cases hfind : (directory source).ancestors.find? (Offers d package ·) with
  | none => simp
  | some a =>
    obtain ⟨q, hq⟩ := Disk.exists_canonical_of_isFile
      (find?_ancestors_eq_some_iff.1 hfind).offers.2
    have hgiven : (d.canonical (place package a)).toOption.getD (place package a) = q := by
      rw [hq]
      rfl
    dsimp only
    rw [hgiven]
    constructor
    · intro h
      obtain rfl := Except.ok.inj h
      exact ⟨a, rfl, hq⟩
    · rintro ⟨b, hb, hm⟩
      obtain rfl := Option.some.inj hb
      rw [Except.ok.inj (hq.symm.trans hm)]

/-- No manifest is found if no ancestor offers the package; the error names what was looked for and
from where. -/
theorem manifest_eq_error_iff {e : NotFound} : manifest d source package = .error e ↔
    e = ⟨package, source⟩ ∧ ∀ a ∈ (directory source).ancestors, ¬ Offers d package a := by
  have hnone : (directory source).ancestors.find? (Offers d package ·) = none ↔
      ∀ a ∈ (directory source).ancestors, ¬ Offers d package a := by
    simp only [List.find?_eq_none, decide_eq_true_iff]
  rw [manifest_eq, ← hnone]
  cases (directory source).ancestors.find? (Offers d package ·) with
  | none => simp [eq_comm]
  | some a => simp

/-- Directories between which nothing offers a package find the same copy. -/
theorem manifest_of_between (hup : directory upper ∈ (directory source).ancestors)
    (hbetween : ∀ a ∈ (directory source).ancestors, a ∉ (directory upper).ancestors →
      ¬ Offers d package a) (m : Path) :
    manifest d source package = .ok m ↔ manifest d upper package = .ok m := by
  obtain ⟨between, hsplit⟩ := Path.ancestors_suffix hup
  have hapart : ∀ a ∈ between, a ∉ (directory upper).ancestors := by
    have hpairwise := Path.pairwise_ancestors (directory source)
    rw [← hsplit] at hpairwise
    intro a ha hmem
    exact absurd ((List.pairwise_append.1 hpairwise).2.2 a ha a hmem).2 (Nat.lt_irrefl _)
  have hnone : between.find? (Offers d package ·) = none := by
    rw [List.find?_eq_none]
    intro a ha hoffers
    have hmem : a ∈ (directory source).ancestors := hsplit ▸ List.mem_append_left _ ha
    exact hbetween a hmem (hapart a ha) (of_decide_eq_true hoffers)
  simp only [manifest_eq_ok_iff, ← find?_ancestors_eq_some_iff]
  rw [← hsplit, List.find?_append, hnone, Option.none_or]

/-! ### Where it looks -/

/-- The directory of installed packages has a name. -/
theorem isName_modulesName : Path.IsName (Utf8.encode "node_modules") := by decide

/-- The directory of installed packages stands one component below the one that holds it. -/
theorem components_modules (a : Path) :
    (a.child modulesName).components = a.components ++ [.name (Utf8.encode "node_modules")] :=
  Path.components_join a isName_modulesName

/-- The manifest of a package is below the directory that offers it. -/
theorem components_place (hpackage : (Path.ofText package).isAbsolute = false) (a : Path) :
    (place package a).components = a.components ++ .name (Utf8.encode "node_modules") ::
      (Path.ofText package).segments.filterMap Path.component? ++
        [.name (Utf8.encode "package.json")] := by
  have hmodules := components_modules a
  have hne : (a.child modulesName).bytes ≠ [] := by
    intro h
    have hempty : a.child modulesName = ⟨[]⟩ := congrArg Path.mk h
    rw [hempty] at hmodules
    exact absurd hmodules.symm (List.concat_ne_nil _ _)
  have hjoin : ((a.child modulesName).child package).components = _ :=
    Path.components_join_relative hne hpackage
  have hfile : Path.IsName (Utf8.encode Project.manifestName) := by decide
  have hplace : (place package a).components = _ :=
    Path.components_join ((a.child modulesName).child package) hfile
  rw [hplace, hjoin, hmodules]
  simp [Project.manifestName]

/-- No directory that is searched is a `node_modules` of a `node_modules`. -/
theorem components_searched {modules : Path} (h : modules ∈ searched dir)
    (front : List Path.Component) :
    modules.components ≠ front ++ [.name (Utf8.encode "node_modules"),
      .name (Utf8.encode "node_modules")] := by
  obtain ⟨a, ha, rfl⟩ := List.mem_map.1 h
  have hname : a.fileName ≠ some (Utf8.encode "node_modules") := by
    simpa [modulesName] using (List.mem_filter.1 ha).2
  intro hcomponents
  rw [components_modules, List.append_cons front] at hcomponents
  obtain ⟨hinit, -⟩ := List.append_inj' hcomponents rfl
  refine hname ?_
  rw [Path.fileName, hinit]
  simp

/-- **A package is resolved to the nearest copy.**  The directories at or above that of a
file have the beginnings of its components, longest first, and the place of a package in
one of them is below its `node_modules`.  A file finds the package exactly when one of them
offers it, and then it is given the canonical path of the place in the nearest one; it is
told `NotFound` exactly when none does.  A file in a directory above finds the same copy if
nothing between the two offers one, and no directory that is searched ends in
`node_modules/node_modules`. -/
theorem manifest_of_nearest (d : Disk) (source : Path)
    (hpackage : (Path.ofText package).isAbsolute = false) :
    let dir := directory source
    dir.ancestors.map Path.components = dir.levels.reverse ∧
    (∀ a, (place package a).components = a.components ++ .name (Utf8.encode "node_modules") ::
      (Path.ofText package).segments.filterMap Path.component? ++
        [.name (Utf8.encode "package.json")]) ∧
    (∀ m, manifest d source package = .ok m ↔
      ∃ a, Nearest d package dir a ∧ d.canonical (place package a) = .ok m) ∧
    (∀ e, manifest d source package = .error e ↔
      e = ⟨package, source⟩ ∧ ∀ a ∈ dir.ancestors, ¬ Offers d package a) ∧
    (∀ upper, directory upper ∈ dir.ancestors →
      (∀ a ∈ dir.ancestors, a ∉ (directory upper).ancestors → ¬ Offers d package a) →
        ∀ m, manifest d source package = .ok m ↔ manifest d upper package = .ok m) ∧
    ∀ modules ∈ searched dir, ∀ front, modules.components ≠
      front ++ [.name (Utf8.encode "node_modules"), .name (Utf8.encode "node_modules")] := by
  intro dir
  exact ⟨Path.map_components_ancestors dir, components_place hpackage,
    fun m => manifest_eq_ok_iff, fun e => manifest_eq_error_iff,
    fun upper hup hbetween => manifest_of_between hup hbetween,
    fun modules hmodules front => components_searched hmodules front⟩

/-- A workspace whose packages are links into a store. -/
def linkedStore : Disk where
  root := .directory [(Utf8.encode "w", .directory [
    (Utf8.encode "node_modules", .directory [
      (Utf8.encode ".pnpm", .directory [(Utf8.encode "biome@2.0.0", .directory [
        (Utf8.encode "node_modules", .directory [(Utf8.encode "@biomejs", .directory [
          (Utf8.encode "biome", .directory [(Utf8.encode "package.json", .file [] false)]),
          (Utf8.encode "cli-linux-x64", .directory [
            (Utf8.encode "package.json", .file [] false)])])])])]),
      (Utf8.encode "@biomejs", .directory [(Utf8.encode "biome",
        .link (.ofText "../.pnpm/biome@2.0.0/node_modules/@biomejs/biome"))])]),
    (Utf8.encode "packages", .directory [(Utf8.encode "a", .directory [
      (Utf8.encode "package.json", .file [] false)])])])]
  cwd := []
  platform := Platform.linux

/-- A project finds a package through a link of the workspace above it, and the package
finds another beside it in the store. -/
theorem manifest_of_nearest_linked :
    let store := "/w/node_modules/.pnpm/biome@2.0.0/node_modules/@biomejs"
    (Path.ofText "@biomejs/biome").isAbsolute = false ∧
    (Path.ofText "@biomejs/cli-linux-x64").isAbsolute = false ∧
    manifest linkedStore (.ofText "/w/packages/a/package.json") "@biomejs/biome" =
      .ok (.ofText (store ++ "/biome/package.json")) ∧
    manifest linkedStore (.ofText (store ++ "/biome/package.json")) "@biomejs/cli-linux-x64" =
      .ok (.ofText (store ++ "/cli-linux-x64/package.json")) ∧
    (∃ a, Nearest linkedStore "@biomejs/biome" (.ofText "/w/packages/a") a ∧
      linkedStore.canonical (place "@biomejs/biome" a) =
        .ok (.ofText (store ++ "/biome/package.json"))) ∧
    ∃ a, Nearest linkedStore "@biomejs/cli-linux-x64" (.ofText (store ++ "/biome")) a ∧
      linkedStore.canonical (place "@biomejs/cli-linux-x64" a) =
        .ok (.ofText (store ++ "/cli-linux-x64/package.json")) := by
  intro store
  have hproject : (Path.ofText "@biomejs/biome").isAbsolute = false := by decide
  have hcompanion : (Path.ofText "@biomejs/cli-linux-x64").isAbsolute = false := by decide
  have hbiome : manifest linkedStore (.ofText "/w/packages/a/package.json") "@biomejs/biome" =
      .ok (.ofText (store ++ "/biome/package.json")) := by decide +kernel
  have hcli : manifest linkedStore (.ofText (store ++ "/biome/package.json"))
      "@biomejs/cli-linux-x64" = .ok (.ofText (store ++ "/cli-linux-x64/package.json")) := by
    decide +kernel
  have hup : directory (.ofText "/w/packages/a/package.json") = .ofText "/w/packages/a" := by
    decide +kernel
  have hbeside : directory (.ofText (store ++ "/biome/package.json")) =
      .ofText (store ++ "/biome") := by decide +kernel
  have hnearest := ((manifest_of_nearest linkedStore _ hproject).2.2.1 _).1 hbiome
  have hnearest' := ((manifest_of_nearest linkedStore _ hcompanion).2.2.1 _).1 hcli
  rw [hup] at hnearest
  rw [hbeside] at hnearest'
  exact ⟨hproject, hcompanion, hbiome, hcli, hnearest, hnearest'⟩

end Resolve
end Switchboard
