/-
# A path and the directory it stands in

A name read from a directory is one more component (`Path.components_join`), and
the parent of a path has one component fewer (`Path.components_of_parent`),
however the path is written.
-/

import Mathlib.Data.List.DropRight
import Switchboard.Proofs.Path.Lexical

namespace Switchboard
namespace Path

variable {p q : Path} {front : Bytes}

/-! ### Reading a name from a directory -/

/-- The segments around a separator are those in front of it and those behind. -/
theorem segments_append_separator (front back : Bytes) :
    (⟨front ++ separator :: back⟩ : Path).segments =
      (⟨front⟩ : Path).segments ++ (⟨back⟩ : Path).segments :=
  List.splitOn_append_cons_self ..

/-- Every path has a segment. -/
theorem segments_ne_nil (p : Path) : p.segments ≠ [] :=
  List.splitOn_ne_nil separator p.bytes

/-- A separator at the end adds no component. -/
theorem components_append_separator (hne : front ≠ []) :
    (⟨front ++ [separator]⟩ : Path).components = (⟨front⟩ : Path).components := by
  have habs : (⟨front ++ [separator]⟩ : Path).isAbsolute = (⟨front⟩ : Path).isAbsolute := by
    rw [isAbsolute, isAbsolute, List.head?_append_of_ne_nil _ hne]
  rw [components, components, start, start, habs, segments_append_separator,
    List.head?_append_of_ne_nil _ (segments_ne_nil _), List.filterMap_append]
  exact congrArg _ (List.append_nil _)

/-- What is written behind a separator adds the components that its segments spell. -/
theorem components_append_segments (front back : Bytes) :
    (⟨front ++ separator :: back⟩ : Path).components =
      (⟨front ++ [separator]⟩ : Path).components ++
        (⟨back⟩ : Path).segments.filterMap component? := by
  have habs : (⟨front ++ separator :: back⟩ : Path).isAbsolute =
      (⟨front ++ [separator]⟩ : Path).isAbsolute := by
    cases front <;> rfl
  rw [components, components, start, start, habs, segments_append_separator,
    segments_append_separator, List.head?_append_of_ne_nil _ (segments_ne_nil _),
    List.head?_append_of_ne_nil _ (segments_ne_nil _), List.filterMap_append,
    List.filterMap_append]
  exact (congrArg _ (congrArg (· ++ _) (List.append_nil _).symm)).trans
    (List.append_assoc ..).symm

/-- A name behind a separator is one more component. -/
theorem components_append_name (front : Bytes) {n : Bytes} (h : IsName n) :
    (⟨front ++ separator :: n⟩ : Path).components =
      (⟨front ++ [separator]⟩ : Path).components ++ [.name n] := by
  have hn : (⟨n⟩ : Path).segments = [n] := List.splitOn_eq_singleton h.2.2.2
  rw [components_append_segments, hn, List.filterMap_cons_some (component?_of_isName h),
    List.filterMap_nil]

/-- A relative path read from a directory adds the components of its segments. -/
theorem components_join_relative (hp : p.bytes ≠ []) (hq : q.isAbsolute = false) :
    (p.join q).components = p.components ++ q.segments.filterMap component? := by
  rw [join, if_neg (by simp [hq])]
  split
  next hends =>
    obtain ⟨front, hfront⟩ := List.getLast?_eq_some_iff.1 (hends.resolve_left hp)
    obtain rfl : p = ⟨front ++ [separator]⟩ := congrArg Path.mk hfront
    rw [← components_append_segments front q.bytes, List.append_assoc]
    rfl
  next hends => rw [components_append_segments, components_append_separator hp]

/-- **A name read from a directory is one more component.** -/
theorem components_join (p : Path) {n : Bytes} (h : IsName n) :
    (p.join ⟨n⟩).components = p.components ++ [.name n] := by
  have hrelative : (⟨n⟩ : Path).isAbsolute = false := by
    have hn := isAbsolute_of_isName h []
    rwa [List.append_nil] at hn
  rw [join, if_neg (by simp [hrelative])]
  split
  next hends =>
    rcases hends with hnil | hlast
    · obtain rfl : p = ⟨[]⟩ := congrArg Path.mk hnil
      have hsegments : (⟨n⟩ : Path).segments = [n] := List.splitOn_eq_singleton h.2.2.2
      have hstart : (⟨n⟩ : Path).start = [] := by
        rw [start, hrelative, hsegments]
        simp [h.2.1]
      rw [List.nil_append, components, hstart, hsegments,
        List.filterMap_cons_some (component?_of_isName h)]
      rfl
    · obtain ⟨front, hfront⟩ := List.getLast?_eq_some_iff.1 hlast
      obtain rfl : p = ⟨front ++ [separator]⟩ := congrArg Path.mk hfront
      rw [← components_append_name front h, List.append_assoc]
      rfl
  next hends =>
    rw [components_append_name p.bytes h,
      components_append_separator fun hnil => hends (.inl hnil)]

/-! ### How a path begins -/

/-- A path starts at the root, with a `.`, or with neither; the rest is written behind that. -/
theorem start_cases (p : Path) :
    (p.start = [] ∧ p.isAbsolute = false ∧ p.segments.head? ≠ some dot) ∨
      (p.start = [.root] ∧ ∃ rest, p.bytes = separator :: rest) ∨
      (p.start = [.here] ∧ (p.bytes = dot ∨ ∃ rest, p.bytes = dot ++ separator :: rest)) := by
  unfold start
  split
  next habs =>
    obtain ⟨rest, hrest⟩ := List.head?_eq_some_iff.1 (beq_iff_eq.1 habs)
    exact .inr (.inl ⟨rfl, rest, hrest⟩)
  next hrelative =>
    split
    next hdot =>
      obtain ⟨rest, hrest⟩ := List.head?_eq_some_iff.1 hdot
      have hbytes : p.bytes = [separator].intercalate (dot :: rest) := by
        rw [← hrest, segments, List.intercalate_splitOn]
      refine .inr (.inr ⟨rfl, ?_⟩)
      cases rest with
      | nil => exact .inl (hbytes.trans (by simp [List.intercalate]))
      | cons segment more =>
        exact .inr ⟨[separator].intercalate (segment :: more),
          hbytes.trans (by simp [List.intercalate])⟩
    next hdot => exact .inl ⟨rfl, by simpa using hrelative, hdot⟩

/-- What starts with a separator has the root and the rest as components. -/
theorem components_of_root (rest : Bytes) : (⟨separator :: rest⟩ : Path).components =
    .root :: (rest.splitOn separator).filterMap component? := by
  have hsegments := segments_append_separator [] rest
  have habs : (⟨separator :: rest⟩ : Path).isAbsolute = true := rfl
  rw [List.nil_append] at hsegments
  rw [components, start, if_pos habs, hsegments]
  rfl

/-- What starts with a dot and a separator has that and the rest as components. -/
theorem components_of_here (rest : Bytes) : (⟨dot ++ separator :: rest⟩ : Path).components =
    .here :: (rest.splitOn separator).filterMap component? := by
  have hrelative : (⟨dot ++ separator :: rest⟩ : Path).isAbsolute = false := rfl
  have hhead : (⟨dot⟩ : Path).segments = [dot] := rfl
  rw [components, start, hrelative, segments_append_separator, hhead]
  rfl

/-- The segments behind the start spell the components behind it. -/
theorem components_eq_split (p : Path) :
    p.components = p.start ++ p.split.2.filterMap component? := by
  rcases start_cases p with ⟨hstart, -⟩ | ⟨hstart, rest, hbytes⟩ | ⟨hstart, hbytes⟩
  · rw [components, split, hstart]
  · obtain rfl : p = ⟨separator :: rest⟩ := congrArg Path.mk hbytes
    rw [components_of_root, split, hstart]
    rfl
  · rcases hbytes with hbytes | ⟨rest, hbytes⟩
    · obtain rfl : p = ⟨dot⟩ := congrArg Path.mk hbytes
      decide
    · obtain rfl : p = ⟨dot ++ separator :: rest⟩ := congrArg Path.mk hbytes
      rw [components_of_here, split, hstart]
      change _ = .here :: ((separator :: rest).splitOn separator).filterMap component?
      rw [List.splitOn_cons_eq_if_modifyHead, if_pos (beq_self_eq_true _)]
      rfl

/-! ### Parents -/

/-- The segments that are trimmed off are no components. -/
theorem filterMap_trimSegments (segments : List Bytes) :
    (trimSegments segments).filterMap component? = segments.filterMap component? := by
  induction segments using List.reverseRecOn with
  | nil => rfl
  | append_singleton segments segment ih =>
    change (List.rdropWhile _ _).filterMap component? = _
    rw [List.rdropWhile_concat]
    split
    next hnone =>
      rw [List.filterMap_append, List.filterMap_cons_none (Option.isNone_iff_eq_none.1 hnone),
        List.filterMap_nil, List.append_nil]
      exact ih
    · rfl

/-- Segments that are not all trimmed end with one that spells a component. -/
theorem exists_component_of_trimSegments {segments : List Bytes} (h : trimSegments segments ≠ []) :
    ∃ c, component? ((trimSegments segments).getLast h) = some c := by
  have hlast := List.rdropWhile_last_not (fun s => (component? s).isNone) segments h
  rwa [Bool.not_eq_true, Option.isNone_eq_false_iff, Option.isSome_iff_exists] at hlast

/-- The directory that a path stands in is written with the start of the path and
some of the segments behind it, which spell all of its components but the last one. -/
theorem parent_spec (h : p.parent = some q) :
    (p.components = [.here] ∧ q = ⟨[]⟩) ∨ ∃ kept c, kept <+: p.split.2 ∧
      q = ⟨p.split.1 ++ [separator].intercalate kept⟩ ∧
      p.components = p.start ++ kept.filterMap component? ++ [c] := by
  unfold parent at h
  dsimp only at h
  have hcomponents := components_eq_split p
  rw [← filterMap_trimSegments] at hcomponents
  split at h
  next hnil =>
    rw [hnil] at hcomponents
    split at h
    next hstart =>
      rw [hstart] at hcomponents
      exact .inl ⟨hcomponents, (Option.some.inj h).symm⟩
    · exact absurd h (by simp)
  next hne =>
    obtain ⟨c, hc⟩ := exists_component_of_trimSegments hne
    have hlast := List.dropLast_append_getLast hne
    refine .inr ⟨trimSegments (trimSegments p.split.2).dropLast, c, ?_,
      (Option.some.inj h).symm, ?_⟩
    · exact (List.rdropWhile_prefix _ _).trans
        ((List.dropLast_prefix _).trans (List.rdropWhile_prefix _ _))
    · rw [filterMap_trimSegments, hcomponents, ← hlast, List.filterMap_append,
        List.filterMap_cons_some hc, List.filterMap_nil, List.append_assoc]
      simp

/-- A path is absolute if its first segment is empty and others follow. -/
theorem isAbsolute_iff_segments :
    p.isAbsolute = true ↔ ∃ rest, rest ≠ [] ∧ p.segments = [] :: rest := by
  constructor
  · intro h
    obtain ⟨rest, hrest⟩ := List.head?_eq_some_iff.1 (beq_iff_eq.1 h)
    obtain rfl : p = ⟨separator :: rest⟩ := congrArg Path.mk hrest
    exact ⟨(⟨rest⟩ : Path).segments, segments_ne_nil _, segments_append_separator [] rest⟩
  · rintro ⟨rest, hne, hrest⟩
    obtain ⟨segment, rest, rfl⟩ := List.exists_cons_of_ne_nil hne
    have hbytes : p.bytes = [separator].intercalate ([] :: segment :: rest) := by
      rw [← hrest, segments, List.intercalate_splitOn]
    rw [isAbsolute, hbytes, intercalate_cons_nil]
    rfl

/-- Segments that are written with separators between them spell the same components. -/
theorem filterMap_splitOn_intercalate {kept : List Bytes} (h : ∀ s ∈ kept, separator ∉ s) :
    (([separator].intercalate kept).splitOn separator).filterMap component? =
      kept.filterMap component? := by
  cases kept with
  | nil => rfl
  | cons s kept => rw [List.splitOn_intercalate separator h (by simp)]

/-- Segments that come first in a path which starts with neither the root nor a `.`
start with neither when they are written. -/
theorem components_of_plain {kept : List Bytes} (hrelative : p.isAbsolute = false)
    (hdot : p.segments.head? ≠ some dot) (h : kept <+: p.segments) :
    (⟨[separator].intercalate kept⟩ : Path).components = kept.filterMap component? := by
  cases kept with
  | nil => rfl
  | cons s kept =>
    have hsegments : (⟨[separator].intercalate (s :: kept)⟩ : Path).segments = s :: kept :=
      List.splitOn_intercalate separator
        (fun s hs => Pieces.not_mem_of_mem_splitOn (h.subset hs)) (by simp)
    obtain ⟨more, hmore⟩ := h
    have hnot : (⟨[separator].intercalate (s :: kept)⟩ : Path).isAbsolute = false := by
      rw [← Bool.not_eq_true, isAbsolute_iff_segments, hsegments]
      rintro ⟨rest, hne, hrest⟩
      obtain ⟨rfl, rfl⟩ := List.cons.inj hrest
      have habs : p.isAbsolute = true :=
        isAbsolute_iff_segments.2 ⟨kept ++ more, by simp [hne], hmore.symm⟩
      exact absurd (hrelative.symm.trans habs) (by simp)
    rw [← hmore, List.cons_append, List.head?_cons] at hdot
    rw [components, start, hnot, hsegments, List.head?_cons, if_neg (by simp), if_neg hdot]
    rfl

/-- Segments behind a leading `.` are written with a separator before each. -/
theorem components_of_dot {kept more : List Bytes} (h : kept <+: [] :: more)
    (hseparator : ∀ s ∈ kept, separator ∉ s) :
    (⟨dot ++ [separator].intercalate kept⟩ : Path).components =
      .here :: kept.filterMap component? := by
  rcases List.prefix_cons_iff.1 h with rfl | ⟨kept, rfl, -⟩
  · rfl
  · obtain ⟨-, hkept⟩ := List.forall_mem_cons.1 hseparator
    cases kept with
    | nil => rfl
    | cons s kept =>
      have hwritten : [separator].intercalate ([] :: s :: kept) =
          separator :: [separator].intercalate (s :: kept) := by simp [List.intercalate]
      rw [hwritten, components_of_here, filterMap_splitOn_intercalate hkept]
      rfl

/-- What stands before the segments and the first of these, written, is read back. -/
theorem components_of_prefix {kept : List Bytes} (h : kept <+: p.split.2) :
    (⟨p.split.1 ++ [separator].intercalate kept⟩ : Path).components =
      p.start ++ kept.filterMap component? := by
  rcases start_cases p with ⟨hstart, hrelative, hdot⟩ | ⟨hstart, rest, hbytes⟩ | ⟨hstart, hbytes⟩
  · have hsplit : p.split = ([], p.segments) := by rw [split, hstart]
    rw [hsplit] at h ⊢
    rw [hstart]
    exact components_of_plain hrelative hdot h
  · have hsplit : p.split = ([separator], rest.splitOn separator) := by
      rw [split, hstart, hbytes]
      rfl
    rw [hsplit] at h ⊢
    rw [hstart, List.singleton_append, components_of_root, filterMap_splitOn_intercalate]
    · rfl
    · exact fun s hs => Pieces.not_mem_of_mem_splitOn (h.subset hs)
  · have hsplit : p.split = (dot, (p.bytes.drop 1).splitOn separator) := by
      rw [split, hstart]
      rcases hbytes with hbytes | ⟨rest, hbytes⟩ <;> (rw [hbytes]; rfl)
    obtain ⟨more, hmore⟩ : ∃ more, (p.bytes.drop 1).splitOn separator = [] :: more := by
      rcases hbytes with hbytes | ⟨rest, hbytes⟩
      · exact ⟨[], by rw [hbytes]; rfl⟩
      · exact ⟨rest.splitOn separator, by rw [hbytes]; exact segments_append_separator [] rest⟩
    rw [hsplit] at h ⊢
    rw [hstart]
    exact components_of_dot (hmore ▸ h) fun s hs => Pieces.not_mem_of_mem_splitOn (h.subset hs)

/-- **The parent of a path has all of its components but the last one.** -/
theorem components_of_parent (h : p.parent = some q) :
    ∃ c, p.components = q.components ++ [c] := by
  rcases parent_spec h with ⟨hcomponents, rfl⟩ | ⟨kept, c, hkept, rfl, hcomponents⟩
  · exact ⟨.here, hcomponents⟩
  · exact ⟨c, by rw [hcomponents, components_of_prefix hkept]⟩

end Path
end Switchboard
