/-
# Projects in groups, by their positions

A list may name a project twice, so what becomes of it is said of its positions.
Keys are compared as paths are, component by component.  One more project either
joins the group of its installation or opens a new one behind the others
(`Discovery.KeysOf.known`, `Discovery.KeysOf.new`), so each position that
resolves is in the group of its installation and in no other, in the order of
the list, and the groups stand in the order of their first positions
(`Discovery.group_by_position`).
-/

import Switchboard.Proofs.Path.Uri
import Switchboard.Proofs.Workspace.Groups

namespace Switchboard
namespace Discovery

variable {d : Disk} {p : Project} {ps : List Project} {m k k' : Path} {keys : List Path}

/-! ### Which projects resolve to an installation -/

/-- Whether a project resolves to an installation. -/
def resolvesTo (d : Disk) (m : Path) (p : Project) : Bool := (installation? d p).any (·.same m)

/-- The position of the first project that resolves to an installation; the number of
all projects if none does. -/
def first (d : Disk) (ps : List Project) (m : Path) : ℕ := ps.findIdx (resolvesTo d m)

/-- A project resolves to an installation if its own is the same path. -/
theorem resolvesTo_iff :
    resolvesTo d m p = true ↔ ∃ k, installation? d p = some k ∧ k.same m = true :=
  Option.any_eq_true _ _

/-- Of a project with an installation it is enough to look at that one. -/
theorem resolvesTo_of_some (h : installation? d p = some k) : resolvesTo d m p = k.same m := by
  rw [resolvesTo, h]
  rfl

/-- One more project is kept if it resolves to the installation. -/
theorem filter_concat (d : Disk) (ps : List Project) (p : Project) (m : Path) :
    (ps ++ [p]).filter (resolvesTo d m) =
      if resolvesTo d m p = true then ps.filter (resolvesTo d m) ++ [p]
      else ps.filter (resolvesTo d m) := by
  rw [List.filter_append]
  split <;> simp [*]

/-- More projects do not move the first one. -/
theorem first_concat (h : first d ps m < ps.length) : first d (ps ++ [p]) m = first d ps m := by
  rw [first, List.findIdx_append]
  exact if_pos h

/-- A project that is the first to resolve to an installation. -/
theorem first_concat_self (hnone : ∀ q ∈ ps, resolvesTo d m q = false)
    (hp : resolvesTo d m p = true) : first d (ps ++ [p]) m = ps.length := by
  have hlength : ps.findIdx (resolvesTo d m) = ps.length :=
    List.findIdx_eq_length.2 hnone
  rw [first, List.findIdx_append, hlength, if_neg (Nat.lt_irrefl _), List.findIdx_cons, hp]
  show 0 + ps.length = ps.length
  omega

/-! ### One group after the other -/

/-- The keys of groups: one for each installation that is met, named by the first
project that resolves to it, in the order of these first projects. -/
structure KeysOf (d : Disk) (ps : List Project) (keys : List Path) : Prop where
  distinct : keys.Pairwise fun k k' => k.same k' = false
  met : ∀ k ∈ keys, ps[first d ps k]?.bind (installation? d) = some k
  complete : ∀ p ∈ ps, ∀ m, installation? d p = some m → ∃ k ∈ keys, m.same k = true
  ordered : keys.Pairwise fun k k' => first d ps k < first d ps k'

/-- The first project that resolves to a key is one of the projects. -/
theorem KeysOf.first_lt (h : KeysOf d ps keys) (hk : k ∈ keys) : first d ps k < ps.length := by
  obtain ⟨q, hq, -⟩ := Option.bind_eq_some_iff.1 (h.met k hk)
  exact (List.getElem?_eq_some_iff.1 hq).1

/-- One more project leaves a key with the project that named it. -/
theorem KeysOf.met_concat (h : KeysOf d ps keys) (hk : k ∈ keys) (p : Project) :
    (ps ++ [p])[first d (ps ++ [p]) k]?.bind (installation? d) = some k := by
  have hlt := h.first_lt hk
  rw [first_concat hlt, List.getElem?_append_left hlt]
  exact h.met k hk

/-- One more project leaves the keys in their order. -/
theorem KeysOf.ordered_concat (h : KeysOf d ps keys) (p : Project) :
    keys.Pairwise fun k k' => first d (ps ++ [p]) k < first d (ps ++ [p]) k' := by
  refine h.ordered.imp_of_mem fun {k k'} hk hk' hlt => ?_
  rwa [first_concat (h.first_lt hk), first_concat (h.first_lt hk')]

/-- No project resolves to an installation that has no key. -/
theorem KeysOf.not_resolvesTo (h : KeysOf d ps keys) (hnew : ∀ k ∈ keys, k.same m = false) :
    ∀ q ∈ ps, resolvesTo d m q = false := by
  intro q hq
  rw [← Bool.not_eq_true, resolvesTo_iff]
  rintro ⟨m', hm', hsame⟩
  obtain ⟨k, hk, hmk⟩ := h.complete q hq m' hm'
  have hkm := Path.same_trans (Path.same_symm hmk) hsame
  exact absurd ((hnew k hk).symm.trans hkm) (by simp)

/-- A project whose installation has been met, or that has none, leaves the keys. -/
theorem KeysOf.known (h : KeysOf d ps keys)
    (hp : ∀ m, installation? d p = some m → ∃ k ∈ keys, m.same k = true) :
    KeysOf d (ps ++ [p]) keys := by
  refine ⟨h.distinct, fun k hk => h.met_concat hk p, ?_, h.ordered_concat p⟩
  intro q hq m hm
  rcases List.mem_append.1 hq with hq | hq
  · exact h.complete q hq m hm
  · obtain rfl := List.mem_singleton.1 hq
    exact hp m hm

/-- A project whose installation has not been met names the last key. -/
theorem KeysOf.new (h : KeysOf d ps keys) (hp : installation? d p = some m)
    (hnew : ∀ k ∈ keys, k.same m = false) : KeysOf d (ps ++ [p]) (keys ++ [m]) := by
  have hself : resolvesTo d m p = true := resolvesTo_iff.2 ⟨m, hp, Path.same_refl _⟩
  have hlast : first d (ps ++ [p]) m = ps.length :=
    first_concat_self (h.not_resolvesTo hnew) hself
  refine ⟨?_, ?_, ?_, ?_⟩
  · refine List.pairwise_append.2 ⟨h.distinct, List.pairwise_singleton .., fun k hk k' hk' => ?_⟩
    obtain rfl := List.mem_singleton.1 hk'
    exact hnew k hk
  · intro k hk
    rcases List.mem_append.1 hk with hk | hk
    · exact h.met_concat hk p
    · obtain rfl := List.mem_singleton.1 hk
      rw [hlast, List.getElem?_concat_length, Option.bind_some, hp]
  · intro q hq m' hm'
    rcases List.mem_append.1 hq with hq | hq
    · obtain ⟨k, hk, hsame⟩ := h.complete q hq m' hm'
      exact ⟨k, List.mem_append_left _ hk, hsame⟩
    · obtain rfl := List.mem_singleton.1 hq
      obtain rfl := Option.some.inj (hp.symm.trans hm')
      exact ⟨m, List.mem_append_right _ (List.mem_singleton_self m), Path.same_refl _⟩
  · refine List.pairwise_append.2
      ⟨h.ordered_concat p, List.pairwise_singleton .., fun k hk k' hk' => ?_⟩
    obtain rfl := List.mem_singleton.1 hk'
    rw [hlast, first_concat (h.first_lt hk)]
    exact h.first_lt hk

/-- Two keys that are the path of one installation are the same. -/
theorem KeysOf.eq_of_same (h : KeysOf d ps keys) (hk : k ∈ keys) (hk' : k' ∈ keys)
    (hm : m.same k = true) (hm' : m.same k' = true) : k = k' := by
  have hsymm : Std.Symm fun k k' : Path => k.same k' = false :=
    ⟨fun k k' h => by rwa [Path.same_comm]⟩
  by_contra hne
  have hapart : k.same k' = false := h.distinct.forall hk hk' hne
  exact absurd (hapart.symm.trans (Path.same_trans (Path.same_symm hm) hm')) (by simp)

/-- No key is there twice. -/
theorem KeysOf.nodup (h : KeysOf d ps keys) : keys.Nodup :=
  h.distinct.imp fun {k k'} hapart heq => by
    subst heq
    exact absurd (hapart.symm.trans (Path.same_refl _)) (by simp)

/-- **Every run over the projects keeps the groups in order**: each installation that is met
has one key, and its group has the projects that resolve to it. -/
theorem exists_keysOf (d : Disk) (ps : List Project) : ∃ keys, KeysOf d ps keys ∧
    group d ps = keys.map fun k => (k, ps.filter (resolvesTo d k)) := by
  -- By the last project: it has no installation, that of an earlier project, or a new one.
  induction ps using List.reverseRecOn with
  | nil => exact ⟨[], ⟨.nil, by simp, by simp, .nil⟩, rfl⟩
  | append_singleton ps p ih =>
    obtain ⟨keys, hkeys, hgroup⟩ := ih
    rw [group, List.foldl_concat, ← group, hgroup, place_eq]
    cases hp : installation? d p with
    | none =>
      refine ⟨keys, hkeys.known (by simp [hp]), List.map_congr_left fun k _ => ?_⟩
      rw [filter_concat, resolvesTo, hp]
      rfl
    | some m =>
      dsimp only
      by_cases hmet : ∃ k ∈ keys, k.same m = true
      · obtain ⟨k, hk, hsame⟩ := hmet
        refine ⟨keys, hkeys.known fun m' hm' => ⟨k, hk, ?_⟩, ?_⟩
        · obtain rfl := Option.some.inj (hp.symm.trans hm')
          exact Path.same_symm hsame
        · have hkey : ∀ k' ∈ keys, k'.same m = true ↔ k' = k := fun k' hk' =>
            ⟨fun h => hkeys.eq_of_same hk' hk (Path.same_symm h) (Path.same_symm hsame),
              fun h => h ▸ hsame⟩
          rw [add_of_mem hk hkey hkeys.nodup]
          refine List.map_congr_left fun k' hk' => ?_
          rw [filter_concat, resolvesTo_of_some hp, Path.same_comm, if_congr (hkey k' hk') rfl rfl]
      · have hnew : ∀ k ∈ keys, k.same m = false := fun k hk => by
          rw [← Bool.not_eq_true]
          exact fun h => hmet ⟨k, hk, h⟩
        refine ⟨keys ++ [m], hkeys.new hp hnew, ?_⟩
        have hnotyet : ps.filter (resolvesTo d m) = [] :=
          List.filter_eq_nil_iff.2 fun q hq => by simp [hkeys.not_resolvesTo hnew q hq]
        have hself : m.same m = true := Path.same_refl _
        rw [add_of_not_mem (by simpa using hnew), List.map_append, List.map_singleton,
          filter_concat, resolvesTo_of_some hp, if_pos hself, hnotyet, List.nil_append]
        refine congrArg (· ++ _) (List.map_congr_left fun k hk => ?_)
        rw [filter_concat, resolvesTo_of_some hp, Path.same_comm, hnew k hk]
        rfl

/-! ### Positions -/

/-- The positions of the projects that resolve to an installation, in ascending order. -/
def positions (d : Disk) (ps : List Project) (m : Path) : List (Fin ps.length) :=
  (List.finRange ps.length).filter fun i => resolvesTo d m ps[i]

/-- A position is one of an installation if its project resolves to that. -/
theorem mem_positions {i : Fin ps.length} :
    i ∈ positions d ps m ↔ ∃ k, installation? d ps[i] = some k ∧ k.same m = true := by
  rw [positions, List.mem_filter, resolvesTo_iff]
  exact and_iff_right (List.mem_finRange i)

/-- The positions ascend. -/
theorem pairwise_positions (d : Disk) (ps : List Project) (m : Path) :
    (positions d ps m).Pairwise (· < ·) := (List.pairwise_lt_finRange _).filter _

/-- The projects at the positions are those that resolve to the installation. -/
theorem map_positions (d : Disk) (ps : List Project) (m : Path) :
    (positions d ps m).map ps.get = ps.filter (resolvesTo d m) := by
  have hall : (List.finRange ps.length).map ps.get = ps := List.map_get_finRange ps
  conv_rhs => rw [← hall, List.filter_map]
  rfl

/-- The first position comes before all others. -/
theorem first_le {i : Fin ps.length} (h : i ∈ positions d ps m) : first d ps m ≤ i := by
  by_contra hlt
  have hnot := List.not_of_lt_findIdx (not_le.1 hlt)
  have hresolves := resolvesTo_iff.2 (mem_positions.1 h)
  exact absurd (hnot.symm.trans hresolves) (by simp)

/-- A key is the installation of the project at the first of its positions. -/
theorem KeysOf.exists_first (h : KeysOf d ps keys) (hk : k ∈ keys) :
    ∃ i ∈ positions d ps k, i.val = first d ps k ∧ installation? d ps[i] = some k := by
  have hlt := h.first_lt hk
  have hmet := h.met k hk
  rw [List.getElem?_eq_getElem hlt, Option.bind_some] at hmet
  exact ⟨⟨first d ps k, hlt⟩, mem_positions.2 ⟨k, hmet, Path.same_refl _⟩, rfl, hmet⟩

/-- A position is in the group of its installation alone. -/
theorem KeysOf.mem_positions_iff (h : KeysOf d ps keys) {i : Fin ps.length} (hk : k ∈ keys)
    (hk' : k' ∈ keys) (hi : installation? d ps[i] = some m) (hm : m.same k = true) :
    i ∈ positions d ps k' ↔ k' = k := by
  rw [mem_positions]
  constructor
  · rintro ⟨m', hm', hsame⟩
    obtain rfl := Option.some.inj (hi.symm.trans hm')
    exact h.eq_of_same hk' hk hsame hm
  · rintro rfl
    exact ⟨m, hi, hm⟩

/-- **Projects are grouped by position.**  The keys of groups are distinct, and no group is
empty: it has the projects at the positions that resolve to its key, in the order of the
list, and its key is what the first of them resolves to.  A position that resolves is in
exactly one group, that of its installation; one that does not is in none.  Of two groups
the first has a position before all of the second. -/
theorem group_by_position (d : Disk) (ps : List Project) :
    (group d ps).Pairwise (fun g g' => g.1.same g'.1 = false) ∧
    (∀ g ∈ group d ps, g.2 ≠ [] ∧ g.2 = (positions d ps g.1).map ps.get ∧
      (positions d ps g.1).Pairwise (· < ·) ∧
      ∃ i ∈ positions d ps g.1, (∀ j ∈ positions d ps g.1, i ≤ j) ∧
        Resolve.manifest d ps[i].manifest Manifest.toolPackage = .ok g.1) ∧
    (∀ i : Fin ps.length, ∀ m,
      Resolve.manifest d ps[i].manifest Manifest.toolPackage = .ok m →
        ∃ g ∈ group d ps, m.same g.1 = true ∧
          ∀ g' ∈ group d ps, i ∈ positions d ps g'.1 ↔ g' = g) ∧
    (∀ i : Fin ps.length, (∀ m,
      Resolve.manifest d ps[i].manifest Manifest.toolPackage ≠ .ok m) →
        ∀ g ∈ group d ps, i ∉ positions d ps g.1) ∧
    (group d ps).Pairwise fun g g' =>
      ∃ i ∈ positions d ps g.1, ∀ j ∈ positions d ps g'.1, i < j := by
  obtain ⟨keys, hkeys, hgroup⟩ := exists_keysOf d ps
  rw [hgroup]
  refine ⟨List.pairwise_map.2 hkeys.distinct, ?_, ?_, ?_, ?_⟩
  · intro g hg
    obtain ⟨k, hk, rfl⟩ := List.mem_map.1 hg
    obtain ⟨i, hi, hfirst, hinstalled⟩ := hkeys.exists_first hk
    refine ⟨?_, (map_positions d ps k).symm, pairwise_positions d ps k, i, hi, ?_,
      installation?_eq_some_iff.1 hinstalled⟩
    · rw [← map_positions]
      exact List.ne_nil_of_mem (List.mem_map_of_mem hi)
    · intro j hj
      have hle : first d ps k ≤ j := first_le hj
      show i.val ≤ j.val
      omega
  · intro i m hm
    have hinstalled := installation?_eq_some_iff.2 hm
    obtain ⟨k, hk, hsame⟩ := hkeys.complete ps[i] (List.getElem_mem _) m hinstalled
    refine ⟨_, List.mem_map_of_mem hk, hsame, fun g' hg' => ?_⟩
    obtain ⟨k', hk', rfl⟩ := List.mem_map.1 hg'
    rw [hkeys.mem_positions_iff hk hk' hinstalled hsame]
    exact ⟨fun h => by rw [h], congrArg Prod.fst⟩
  · intro i hnone g _ hi
    obtain ⟨m, hm, -⟩ := mem_positions.1 hi
    exact hnone m (installation?_eq_some_iff.1 hm)
  · refine List.pairwise_map.2 (hkeys.ordered.imp_of_mem fun {k k'} hk _ hlt => ?_)
    obtain ⟨i, hi, hfirst, -⟩ := hkeys.exists_first hk
    refine ⟨i, hi, fun j hj => ?_⟩
    have hle : first d ps k' ≤ j := first_le hj
    show i.val < j.val
    omega

end Discovery
end Switchboard
