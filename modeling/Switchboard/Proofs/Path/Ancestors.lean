/-
# A path and what is above it

Going from parent to parent takes away one component after the other, down to
the root or to the empty path, and the bytes of a path are always enough steps
for that (`Path.ancestors_of_parent`).  So the ancestors of a path have the
beginnings of its components, each once, longest first
(`Path.map_components_ancestors`), and what is above an ancestor is above the
path (`Path.ancestors_suffix`).
-/

import Switchboard.Proofs.Path.Parent
import Switchboard.Proofs.Path.Uri

namespace Switchboard
namespace Path

variable {p q : Path}

/-! ### The steps that are enough -/

/-- There are no more components than bytes. -/
theorem length_filterMap_splitOn_le (bs : Bytes) :
    ((bs.splitOn separator).filterMap component?).length ≤ bs.length := by
  induction bs with
  | nil => decide
  | cons b bs ih =>
    rw [List.splitOn_cons_eq_if_modifyHead]
    split
    · rw [List.filterMap_cons_none rfl, List.length_cons]
      omega
    · obtain ⟨segment, rest, hsplit⟩ :=
        List.exists_cons_of_ne_nil (List.splitOn_ne_nil separator bs)
      rw [hsplit] at ih ⊢
      have hrest : (rest.filterMap component?).length ≤
          ((segment :: rest).filterMap component?).length :=
        ((List.sublist_cons_self segment rest).filterMap component?).length_le
      have hhead : (((b :: segment) :: rest).filterMap component?).length ≤
          (rest.filterMap component?).length + 1 := by
        rw [List.filterMap_cons]
        split
        · omega
        · rw [List.length_cons]
      rw [List.length_cons]
      exact hhead.trans (by omega)

/-- A path has no more components than bytes. -/
theorem length_components_le (p : Path) : p.components.length ≤ p.bytes.length := by
  rcases start_cases p with ⟨hstart, -⟩ | ⟨-, rest, hbytes⟩ | ⟨-, hbytes⟩
  · rw [components, hstart, List.nil_append]
    exact length_filterMap_splitOn_le p.bytes
  · obtain rfl : p = ⟨separator :: rest⟩ := congrArg Path.mk hbytes
    have hrest := length_filterMap_splitOn_le rest
    rw [components_of_root, List.length_cons, List.length_cons]
    omega
  · rcases hbytes with hbytes | ⟨rest, hbytes⟩
    · obtain rfl : p = ⟨dot⟩ := congrArg Path.mk hbytes
      decide
    · obtain rfl : p = ⟨dot ++ separator :: rest⟩ := congrArg Path.mk hbytes
      have hrest := length_filterMap_splitOn_le rest
      rw [components_of_here, List.length_cons, List.length_append, List.length_cons]
      omega

/-- A parent has one component less. -/
theorem length_components_parent (h : p.parent = some q) :
    p.components.length = q.components.length + 1 := by
  obtain ⟨c, hc⟩ := components_of_parent h
  rw [hc, List.length_append, List.length_singleton]

/-- With more steps than components nothing is left over. -/
theorem ancestorsWithin_of_lt {fuel fuel' : ℕ} (h : p.components.length < fuel)
    (h' : p.components.length < fuel') : ancestorsWithin fuel p = ancestorsWithin fuel' p := by
  induction fuel generalizing p fuel' with
  | zero => omega
  | succ fuel ih =>
    cases fuel' with
    | zero => omega
    | succ fuel' =>
      rw [ancestorsWithin, ancestorsWithin]
      cases hparent : p.parent with
      | none => rfl
      | some q =>
        have hlength := length_components_parent hparent
        have hrest : ancestorsWithin fuel q = ancestorsWithin fuel' q := ih (by omega) (by omega)
        exact congrArg (p :: ·) hrest

/-- A path without a parent is its only ancestor. -/
theorem ancestors_of_none (h : p.parent = none) : p.ancestors = [p] := by
  rw [ancestors, ancestorsWithin, h]

/-- **What is above a path is its parent and what is above that.** -/
theorem ancestors_of_parent (h : p.parent = some q) : p.ancestors = p :: q.ancestors := by
  have hlength := length_components_parent h
  have hp := length_components_le p
  have hq := length_components_le q
  have hrest : ancestorsWithin p.bytes.length q = ancestorsWithin (q.bytes.length + 1) q :=
    ancestorsWithin_of_lt (by omega) (by omega)
  rw [ancestors, ancestorsWithin, h]
  exact congrArg (p :: ·) hrest

/-- What holds of a path when it holds of its parent, if there is one, holds of every path. -/
theorem parent_induction {P : Path → Prop} (top : ∀ p, p.parent = none → P p)
    (below : ∀ p q, p.parent = some q → P q → P p) (p : Path) : P p := by
  induction hlength : p.components.length using Nat.strong_induction_on generalizing p with
  | _ n ih =>
    cases hparent : p.parent with
    | none => exact top p hparent
    | some q =>
      have hless := length_components_parent hparent
      exact below p q hparent (ih q.components.length (by omega) q rfl)

/-! ### Which paths are above a path -/

/-- Only the root and the empty path have no parent. -/
theorem components_of_parent_none (h : p.parent = none) :
    p.components = [] ∨ p.components = [.root] := by
  have hcomponents := components_eq_split p
  rw [← filterMap_trimSegments] at hcomponents
  unfold parent at h
  dsimp only at h
  split at h
  next hnil =>
    rw [hnil, List.filterMap_nil, List.append_nil] at hcomponents
    rcases start_cases p with ⟨hstart, -⟩ | ⟨hstart, -⟩ | ⟨hstart, -⟩
    · exact .inl (hcomponents.trans hstart)
    · exact .inr (hcomponents.trans hstart)
    · exact absurd h (by simp [hstart])
  · exact absurd h (by simp)

/-- The root is among the components if the path starts with it. -/
theorem root_mem_components_iff (p : Path) : .root ∈ p.components ↔ .root ∈ p.start := by
  rw [components_eq_split, List.mem_append]
  exact or_iff_left (root_not_mem_filterMap _)

/-- A parent is absolute if the path is. -/
theorem isAbsolute_parent (h : p.parent = some q) : q.isAbsolute = p.isAbsolute := by
  rw [Bool.eq_iff_iff, isAbsolute_iff, isAbsolute_iff]
  rcases parent_spec h with ⟨hhere, rfl⟩ | ⟨kept, c, hkept, rfl, -⟩
  · rw [hhere]
    decide
  · rw [root_mem_components_iff p, components_of_prefix hkept, List.mem_append]
    exact or_iff_left (root_not_mem_filterMap kept)

/-- The beginnings of a path's components that a path can have: the empty one belongs
to relative paths. -/
def levels (p : Path) : List (List Component) :=
  p.components.inits.filter fun cs => cs != [] || !p.isAbsolute

/-- The levels of a path are those of its parent and its own components. -/
theorem levels_of_parent (h : p.parent = some q) : p.levels = q.levels ++ [p.components] := by
  obtain ⟨c, hc⟩ := components_of_parent h
  have hinits : p.components.inits = q.components.inits ++ [p.components] := by
    rw [hc, List.inits_append]
    rfl
  have hne : p.components ≠ [] := by
    rw [hc]
    exact List.concat_ne_nil c q.components
  rw [levels, levels, hinits, List.filter_append, isAbsolute_parent h]
  refine congrArg _ (List.filter_cons_of_pos ?_)
  simp [hne]

/-- **The ancestors of a path have the beginnings of its components**, longest first. -/
theorem map_components_ancestors (p : Path) :
    p.ancestors.map components = p.levels.reverse := by
  induction p using parent_induction with
  | top p hparent =>
    rw [ancestors_of_none hparent, levels]
    rcases components_of_parent_none hparent with hnil | hroot
    · have hrelative : p.isAbsolute = false := by
        rw [← Bool.not_eq_true, isAbsolute_iff, hnil]
        exact List.not_mem_nil
      simp [hnil, hrelative]
    · have habsolute : p.isAbsolute = true := isAbsolute_iff.2 (by simp [hroot])
      simp [hroot, habsolute]
  | below p q hparent ih =>
    rw [ancestors_of_parent hparent, List.map_cons, ih, levels_of_parent hparent,
      List.reverse_concat]

/-- The components of an ancestor are the first ones of the path. -/
theorem components_prefix_of_mem (h : q ∈ p.ancestors) : q.components <+: p.components := by
  have hmem : q.components ∈ p.ancestors.map components := List.mem_map_of_mem h
  rw [map_components_ancestors, List.mem_reverse, levels] at hmem
  exact (List.mem_inits _ _).1 (List.mem_of_mem_filter hmem)

/-- Each ancestor begins the ones before it and is shorter. -/
theorem pairwise_ancestors (p : Path) : p.ancestors.Pairwise fun a b =>
    b.components <+: a.components ∧ b.components.length < a.components.length := by
  induction p using parent_induction with
  | top p hparent =>
    rw [ancestors_of_none hparent]
    exact List.pairwise_singleton ..
  | below p q hparent ih =>
    rw [ancestors_of_parent hparent]
    refine List.pairwise_cons.2 ⟨fun b hb => ?_, ih⟩
    have hbegins := components_prefix_of_mem hb
    have hlength := length_components_parent hparent
    have hle := hbegins.length_le
    obtain ⟨c, hc⟩ := components_of_parent hparent
    exact ⟨hbegins.trans ⟨[c], hc.symm⟩, by omega⟩

/-- Ancestors with the same components are the same. -/
theorem eq_of_mem_ancestors {a b : Path} (ha : a ∈ p.ancestors) (hb : b ∈ p.ancestors)
    (h : a.components = b.components) : a = b := by
  by_contra hne
  have hsymm : Std.Symm fun a b : Path => a.components.length ≠ b.components.length :=
    ⟨fun _ _ h => h.symm⟩
  have hapart : p.ancestors.Pairwise fun a b => a.components.length ≠ b.components.length :=
    (pairwise_ancestors p).imp fun h => h.2.ne'
  exact hapart.forall ha hb hne (congrArg List.length h)

/-- **What is above an ancestor is above the path**, behind what lies between them. -/
theorem ancestors_suffix (h : q ∈ p.ancestors) : q.ancestors <:+ p.ancestors := by
  induction p using parent_induction with
  | top p hparent =>
    rw [ancestors_of_none hparent, List.mem_singleton] at h
    rw [h]
  | below p r hparent ih =>
    rw [ancestors_of_parent hparent, List.mem_cons] at h
    rcases h with rfl | h
    · exact List.suffix_rfl
    · rw [ancestors_of_parent hparent]
      exact (ih h).trans (List.suffix_cons p _)

end Path
end Switchboard
