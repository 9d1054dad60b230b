/-
# What is left of a path

`normalize` gives of every path the names that the path leads along
(`components_normalize_eq`), so neither a `.` nor a `..` is left and a second
time changes nothing.  The names are right for every path: `..` takes the last
one away, and where there is none it takes nothing.  Only the root is not: it
lies below the names on the same stack, so the first `..` that finds no name
takes it, and it does not come back.  The path that is left starts at the root
exactly when the path did and never climbs above it.
-/

import Switchboard.Proofs.Path.Parent

namespace Switchboard
namespace Path

variable {cs : List Component} {names : List Bytes}

/-! ### The stack -/

/-- Where no root lies below the names, the stack holds the names alone. -/
theorem foldl_step_names (hroot : .root ∉ cs) :
    cs.foldl step (names.map Component.name) = (cs.foldl walk names).map Component.name := by
  induction cs generalizing names with
  | nil => rfl
  | cons c cs ih =>
    rw [List.mem_cons, not_or] at hroot
    cases c with
    | root => exact absurd rfl hroot.1
    | here => exact ih hroot.2
    | name n => exact @ih (n :: names) hroot.2
    | up =>
      have hdrop : (names.map Component.name).drop 1 = (names.drop 1).map Component.name :=
        List.map_drop.symm
      show cs.foldl step ((names.map Component.name).drop 1) = _
      rw [hdrop]
      exact ih hroot.2

/-- Where the root is climbed above, the stack holds the names alone in the end. -/
theorem foldl_step_of_climbs (hroot : .root ∉ cs) (h : ¬ Within names.length cs) :
    cs.foldl step (names.map Component.name ++ [.root]) =
      (cs.foldl walk names).map Component.name := by
  induction cs generalizing names with
  | nil =>
    refine absurd (fun front hfront => ?_) h
    rw [List.prefix_nil.1 hfront]
    simp
  | cons c cs ih =>
    rw [List.mem_cons, not_or] at hroot
    cases c with
    | root => exact absurd rfl hroot.1
    | here => exact ih hroot.2 fun hw => h ((within_still (by simp) rfl).2 hw)
    | name n => exact @ih (n :: names) hroot.2 fun hw => h (within_name.2 hw)
    | up =>
      cases names with
      | nil => exact @foldl_step_names cs [] hroot.2
      | cons n names => exact ih hroot.2 fun hw => h (within_up.2 hw)

/-- **What is left of a path's components are the names of its trail**, behind the
root if the path starts there and does not climb above it. -/
theorem resolved_components_eq (p : Path) :
    resolved p.components =
      (if p.isAbsolute = true ∧ p.StaysInside then [.root] else []) ++
        p.trail.map Component.name := by
  by_cases habs : p.isAbsolute = true
  · by_cases hinside : p.StaysInside
    · rw [if_pos ⟨habs, hinside⟩, resolved_components habs hinside]
      rfl
    · rw [if_neg fun h => hinside h.2, List.nil_append]
      obtain ⟨rest, hrest, hroot⟩ := components_of_isAbsolute habs
      have hclimbs : ¬ Within ([] : List Bytes).length rest := by
        intro hwithin
        rw [StaysInside, hrest] at hinside
        exact hinside ((within_still (by simp) rfl).2 hwithin)
      have hstack := foldl_step_of_climbs hroot hclimbs
      rw [resolved, trail, hrest, List.map_reverse]
      exact congrArg List.reverse hstack
  · rw [if_neg fun h => habs h.1, List.nil_append]
    rw [Bool.not_eq_true] at habs
    have hstack := @foldl_step_names _ [] (root_not_mem_components habs)
    rw [resolved, trail, List.map_reverse]
    exact congrArg List.reverse hstack

/-! ### What is written -/

/-- Every name that is written behind a path is one more component. -/
theorem components_foldl_join (p : Path) (h : ∀ n ∈ names, IsName n) :
    ((names.map Component.name).foldl (fun p c => p.join ⟨c.bytes⟩) p).components =
      p.components ++ names.map Component.name := by
  induction names generalizing p with
  | nil => exact (List.append_nil _).symm
  | cons n names ih =>
    obtain ⟨hn, hnames⟩ := List.forall_mem_cons.1 h
    have hfirst : (p.join ⟨(Component.name n).bytes⟩).components = p.components ++ [.name n] :=
      components_join p hn
    rw [List.map_cons, List.foldl_cons, ih _ hnames, hfirst, List.append_assoc]
    rfl

/-- Names that are written without the root are read back. -/
theorem components_ofComponents_names (h : ∀ n ∈ names, IsName n) :
    (ofComponents (names.map Component.name)).components = names.map Component.name :=
  components_foldl_join ⟨[]⟩ h

/-- **`normalize` gives a path the components that are left of it.** -/
theorem components_normalize_eq (p : Path) :
    p.normalize.components =
      (if p.isAbsolute = true ∧ p.StaysInside then [.root] else []) ++
        p.trail.map Component.name := by
  have hnames : ∀ n ∈ p.trail, IsName n := fun n hn => isName_of_mem_trail hn
  rw [normalize, resolved_components_eq]
  split_ifs with hkept
  · exact components_ofComponents_root hnames
  · exact components_ofComponents_names hnames

/-- Components that take nothing away are all left. -/
theorem resolved_of_plain (h : ∀ c ∈ cs, c ≠ .up ∧ c ≠ .here) : resolved cs = cs := by
  have hpush : ∀ stack, cs.foldl step stack = cs.reverse ++ stack := by
    induction cs with
    | nil => exact fun _ => rfl
    | cons c cs ih =>
      obtain ⟨hc, hcs⟩ := List.forall_mem_cons.1 h
      intro stack
      have hstep : step stack c = c :: stack := by
        cases c with
        | up => exact absurd rfl hc.1
        | here => exact absurd rfl hc.2
        | root => rfl
        | name n => rfl
      rw [List.foldl_cons, hstep, ih hcs, List.reverse_cons, List.append_assoc]
      rfl
  rw [resolved, hpush, List.append_nil, List.reverse_reverse]

/-- A normal path has neither `..` nor `.` in it. -/
theorem plain_of_mem_normalize {p : Path} {c : Component} (h : c ∈ p.normalize.components) :
    c ≠ .up ∧ c ≠ .here := by
  rw [components_normalize_eq, List.mem_append, List.mem_map] at h
  rcases h with h | ⟨n, -, rfl⟩
  · split_ifs at h
    · rw [List.mem_singleton.1 h]
      constructor <;> simp
    · exact absurd h List.not_mem_nil
  · constructor <;> simp

/-- **What is left of a path is its trail.**  No path keeps a `.` or a `..`, and
what is left is left as it is, byte for byte.  Its components are the names that
the path leads along, behind the root exactly when the path starts at the root
and at none of its components climbs above it; so of a path from the root the
lexical resolution is left if the path stays inside, and otherwise that
resolution without the root. -/
theorem normalize_leaves_trail (p : Path) :
    .here ∉ p.normalize.components ∧ .up ∉ p.normalize.components ∧
      p.normalize.normalize = p.normalize ∧
      p.normalize.components =
        (if p.isAbsolute = true ∧ p.StaysInside then [.root] else []) ++
          p.trail.map Component.name ∧
      (p.normalize.isAbsolute = true ↔ p.isAbsolute = true ∧ p.StaysInside) := by
  refine ⟨?_, ?_, ?_, components_normalize_eq p, isAbsolute_normalize_iff⟩
  · intro hhere
    exact (plain_of_mem_normalize hhere).2 rfl
  · intro hup
    exact (plain_of_mem_normalize hup).1 rfl
  · have hsame : resolved p.normalize.components = resolved p.components := by
      rw [resolved_of_plain fun c hc => plain_of_mem_normalize hc, components_normalize_eq,
        resolved_components_eq]
    rw [normalize, hsame]
    rfl

/-- **A `..` at the root takes the root away**: the path leads to `/a`, and what is
left of it is a relative path. -/
theorem normalize_loses_root :
    (ofText "/../a").isAbsolute = true ∧ (ofText "/../a").trail = [Utf8.encode "a"] ∧
      (ofText "/../a").normalize = ofText "a" ∧ (ofText "/../a").normalize.isAbsolute = false := by
  decide

end Path
end Switchboard
