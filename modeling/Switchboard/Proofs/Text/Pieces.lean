/-
# Texts cut into pieces

A text is cut into pieces where its separators stand.  No piece holds a separator,
and there is one piece more than there are separators; the last is empty exactly
when the text ends with one.
-/

import Mathlib.Tactic

namespace Switchboard
namespace Pieces

variable {α : Type} {p q : α → Bool} {xs piece : List α}

/-- No piece holds a separator. -/
theorem eq_false_of_mem_splitOnP (h : piece ∈ xs.splitOnP p) : ∀ x ∈ piece, p x = false := by
  induction xs generalizing piece with
  | nil =>
    rw [List.splitOnP_nil] at h
    rw [List.mem_singleton.1 h]
    exact fun x hx => absurd hx List.not_mem_nil
  | cons y xs ih =>
    obtain ⟨first, rest, hsplit⟩ := List.exists_cons_of_ne_nil (List.splitOnP_ne_nil p xs)
    rw [List.splitOnP_cons_eq_if_modifyHead] at h
    split at h
    · rcases List.mem_cons.1 h with rfl | h
      · exact fun x hx => absurd hx List.not_mem_nil
      · exact ih h
    next hy =>
      rw [Bool.not_eq_true] at hy
      rw [hsplit] at h ih
      rcases List.mem_cons.1 h with rfl | h
      · exact List.forall_mem_cons.2 ⟨hy, ih (List.mem_cons_self ..)⟩
      · exact ih (List.mem_cons_of_mem _ h)

/-- Two ways to tell where to cut agree if they do on what the text holds. -/
theorem splitOnP_congr (h : ∀ x ∈ xs, p x = q x) : xs.splitOnP p = xs.splitOnP q := by
  induction xs with
  | nil => rw [List.splitOnP_nil, List.splitOnP_nil]
  | cons x xs ih =>
    obtain ⟨hx, hxs⟩ := List.forall_mem_cons.1 h
    rw [List.splitOnP_cons_eq_if_modifyHead, List.splitOnP_cons_eq_if_modifyHead, hx, ih hxs]

variable [BEq α]

/-- A list is split into one piece more than there are separators. -/
theorem length_splitOn (a : α) (xs : List α) : (xs.splitOn a).length = xs.count a + 1 := by
  induction xs with
  | nil => rfl
  | cons x xs ih =>
    rw [List.splitOn_cons_eq_if_modifyHead, List.count_cons]
    split
    · rw [List.length_cons, ih]
    · rw [List.length_modifyHead, ih]

variable [LawfulBEq α]

/-- There is no separator in a piece. -/
theorem not_mem_of_mem_splitOn {a : α} (h : piece ∈ xs.splitOn a) : a ∉ piece := by
  intro ha
  have hne := eq_false_of_mem_splitOnP h a ha
  rw [beq_self_eq_true] at hne
  exact absurd hne (by simp)

/-- What follows the last separator is empty exactly when the text ends with it. -/
theorem getLast?_splitOn_concat (a last : α) (front : List α) :
    ((front ++ [last]).splitOn a).getLast? = some [] ↔ last = a := by
  induction front with
  | nil =>
    rw [List.nil_append, List.splitOn_cons_eq_if_modifyHead, List.splitOn_nil]
    by_cases h : last = a
    · simp [h]
    · simp [h]
  | cons c front ih =>
    have hlength := length_splitOn a (front ++ [last])
    obtain ⟨segment, rest, hsplit⟩ :=
      List.exists_cons_of_ne_nil (List.splitOn_ne_nil a (front ++ [last]))
    rw [List.cons_append, List.splitOn_cons_eq_if_modifyHead, hsplit]
    rw [hsplit] at ih hlength
    split
    · rw [List.getLast?_cons_cons, ih]
    · cases rest with
      | nil =>
        -- There is no separator at all, so the last element is none.
        have hnone : a ∉ front ++ [last] := List.count_eq_zero.1 (by simpa using hlength.symm)
        refine iff_of_false (by simp) ?_
        rintro rfl
        exact hnone (List.mem_append_right _ (List.mem_singleton_self last))
      | cons next rest => rw [List.modifyHead_cons, List.getLast?_cons_cons, ← ih,
          List.getLast?_cons_cons]

end Pieces
end Switchboard
