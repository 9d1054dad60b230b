/-
# Histories

A history is a list that grows at its end.  What is claimed of every entry with
the entries before it is shown when the entry is added.  What entries bring about
and others undo holds as long as one that brings it about has come and none that
undoes it since (`Since`).
-/

import Mathlib.Tactic

namespace Switchboard
namespace History

variable {α : Type} {xs ys front back : List α} {x y : α} {P : List α → α → Prop}

/-- An entry of a history with one more entry is that one, or was there before. -/
theorem split_concat (h : xs ++ [x] = front ++ y :: back) :
    xs = front ∧ x = y ∧ back = [] ∨ ∃ rest, xs = front ++ y :: rest ∧ back = rest ++ [x] := by
  rcases List.eq_nil_or_concat back with rfl | ⟨rest, last, rfl⟩
  · obtain ⟨hfront, hlast⟩ := List.append_inj' h rfl
    exact .inl ⟨hfront, List.singleton_inj.1 hlast, rfl⟩
  · rw [List.concat_eq_append, ← List.cons_append, ← List.append_assoc] at h
    obtain ⟨hfront, hlast⟩ := List.append_inj' h rfl
    rw [List.concat_eq_append, List.singleton_inj.1 hlast]
    exact .inr ⟨rest, hfront, rfl⟩

/-- What holds of every entry with those before it holds when more entries are
added, if it holds of these. -/
theorem forall_append (h₁ : ∀ front y, front ++ [y] <+: xs → P front y)
    (h₂ : ∀ front y, front ++ [y] <+: ys → P (xs ++ front) y) :
    ∀ front y, front ++ [y] <+: xs ++ ys → P front y := by
  intro front y h
  rcases List.prefix_or_prefix_of_prefix h (List.prefix_append xs ys) with hold | hnew
  · exact h₁ front y hold
  · rcases List.prefix_concat_iff.1 hnew with heq | ⟨mid, rfl⟩
    · exact h₁ front y (heq ▸ List.prefix_rfl)
    · rw [List.append_assoc, List.prefix_append_right_inj] at h
      exact h₂ mid y h

/-- What holds at the only entry holds of the list. -/
theorem forall_singleton (h : P [] x) : ∀ front y, front ++ [y] <+: [x] → P front y := by
  intro front y hy
  have hlen := hy.length_le
  cases front with
  | nil =>
    obtain rfl : y = x := by simpa using hy
    exact h
  | cons z front => simp at hlen

/-- What holds of a list and of one more entry behind it holds of both. -/
theorem forall_concat (h₁ : ∀ front y, front ++ [y] <+: xs → P front y) (h₂ : P xs x) :
    ∀ front y, front ++ [y] <+: xs ++ [x] → P front y := by
  refine forall_append h₁ (forall_singleton ?_)
  rwa [List.append_nil]

/-! ### What holds since an entry -/

/-- Whether some entry of a history takes something up, and none that comes behind it gives it
up. -/
def Since (takes gives : List α → α → Prop) (xs : List α) : Prop :=
  ∃ front y back, xs = front ++ y :: back ∧ takes front y ∧
    ∀ mid z, mid ++ [z] <+: back → ¬ gives (front ++ y :: mid) z

variable {takes gives : List α → α → Prop}

/-- Where nothing has happened nothing has been taken. -/
theorem not_since_nil : ¬ Since takes gives [] := by
  rintro ⟨front, y, back, heq, -⟩
  exact absurd heq (by simp)

/-- One more entry takes something up, or does not give it up. -/
theorem since_concat_iff :
    Since takes gives (xs ++ [x]) ↔ Since takes gives xs ∧ ¬ gives xs x ∨ takes xs x := by
  constructor
  · rintro ⟨front, y, back, heq, htakes, hkept⟩
    obtain ⟨rfl, rfl, rfl⟩ | ⟨rest, rfl, rfl⟩ := split_concat heq
    · exact .inr htakes
    · refine .inl ⟨⟨front, y, rest, rfl, htakes, fun mid z hz => ?_⟩, ?_⟩
      · exact hkept mid z (hz.trans (List.prefix_append ..))
      · exact hkept rest x List.prefix_rfl
  · rintro (⟨⟨front, y, back, rfl, htakes, hkept⟩, hx⟩ | htakes)
    · refine ⟨front, y, back ++ [x], by simp, htakes, ?_⟩
      exact forall_concat (P := fun mid z => ¬ gives (front ++ y :: mid) z) hkept hx
    · exact ⟨xs, x, [], rfl, htakes, fun mid z hz => absurd hz (by simp)⟩

/-- When an entry is given up by what it is, and not by what came before it. -/
theorem since_iff_mem {takes gives : α → Prop} :
    Since (fun _ y => takes y) (fun _ z => gives z) xs ↔
      ∃ front y back, xs = front ++ y :: back ∧ takes y ∧ ∀ z ∈ back, ¬ gives z := by
  constructor
  · rintro ⟨front, y, back, heq, htakes, hkept⟩
    refine ⟨front, y, back, heq, htakes, fun z hz => ?_⟩
    obtain ⟨before, behind, rfl⟩ := List.append_of_mem hz
    exact hkept before z ⟨behind, by simp⟩
  · rintro ⟨front, y, back, heq, htakes, hkept⟩
    exact ⟨front, y, back, heq, htakes, fun mid z hz => hkept z (hz.subset (by simp))⟩

end History
end Switchboard
