/-
# Where a path leads

A path from the root leads along names (`Path.trail`): `..` takes the last name
away, and at the root it stays there.  `normalize` takes the root itself away
when a path climbs above it, so of a path that does not (`Path.StaysInside`) it
gives the root and the path's trail (`Path.components_normalize`), and of every
other path something that does not start at the root
(`Path.isAbsolute_normalize_iff`).
-/

import Switchboard.Path.Lexical
import Switchboard.Proofs.Text.Pieces

namespace Switchboard
namespace Path

/-! ### Names -/

/-- Whether bytes are a component's name: none that is empty or dots only, and no separator. -/
def IsName (n : Bytes) : Prop := n ≠ [] ∧ n ≠ dot ∧ n ≠ dotDot ∧ separator ∉ n

instance (n : Bytes) : Decidable (IsName n) := inferInstanceAs (Decidable (_ ∧ _))

/-- Whether a component is a name. -/
def Component.isName : Component → Bool
  | .name _ => true
  | _ => false

/-- A segment that is read as a name is one. -/
theorem isName_of_component? {segment n : Bytes} (hsegment : separator ∉ segment)
    (h : component? segment = some (.name n)) : IsName n := by
  unfold component? at h
  split at h
  · exact absurd h (by simp)
  next hplain =>
    split at h
    · exact absurd h (by simp)
    next hup =>
      obtain rfl := Component.name.inj (Option.some.inj h)
      exact ⟨fun h => hplain (.inl h), fun h => hplain (.inr h), hup, hsegment⟩

/-- A name is read as itself. -/
theorem component?_of_isName {n : Bytes} (h : IsName n) : component? n = some (.name n) := by
  obtain ⟨hne, hdot, hup, -⟩ := h
  rw [component?, if_neg (by simp [hne, hdot]), if_neg hup]

/-- Behind the root stand names and `..`, and the root stands nowhere else. -/
theorem isName_of_mem_components {p : Path} {n : Bytes} (h : .name n ∈ p.components) :
    IsName n := by
  rcases List.mem_append.1 h with h | h
  · unfold start at h
    split at h
    · simp at h
    · split at h <;> simp at h
  · obtain ⟨segment, hsegment, hn⟩ := List.mem_filterMap.1 h
    exact isName_of_component? (Pieces.not_mem_of_mem_splitOn hsegment) hn

/-- No segment is read as the root. -/
theorem root_not_mem_filterMap (segments : List Bytes) :
    .root ∉ segments.filterMap component? := by
  intro h
  obtain ⟨segment, -, hroot⟩ := List.mem_filterMap.1 h
  unfold component? at hroot
  split at hroot
  · exact absurd hroot (by simp)
  · split at hroot <;> exact absurd hroot (by simp)

/-- The root is the first component of a path from the root, and no component of any other. -/
theorem components_of_isAbsolute {p : Path} (h : p.isAbsolute = true) :
    ∃ rest, p.components = .root :: rest ∧ .root ∉ rest := by
  refine ⟨p.segments.filterMap component?, ?_, root_not_mem_filterMap _⟩
  rw [components, start, if_pos h, List.singleton_append]

/-- A path that is not absolute has no root among its components. -/
theorem root_not_mem_components {p : Path} (h : p.isAbsolute = false) :
    .root ∉ p.components := by
  intro hroot
  rcases List.mem_append.1 hroot with hroot | hroot
  · rw [start, if_neg (by simp [h])] at hroot
    split at hroot <;> simp at hroot
  · exact root_not_mem_filterMap _ hroot

/-! ### Names behind the root, written -/

/-- A name does not begin with a separator. -/
theorem head_ne_separator {b : UInt8} {n : Bytes} (h : IsName (b :: n)) : b ≠ separator :=
  fun hb => h.2.2.2 (hb ▸ List.mem_cons_self ..)

/-- What begins with a name is not absolute. -/
theorem isAbsolute_of_isName {n : Bytes} (h : IsName n) (back : Bytes) :
    (⟨n ++ back⟩ : Path).isAbsolute = false := by
  cases n with
  | nil => exact absurd rfl h.1
  | cons b n => simp [isAbsolute, head_ne_separator h]

/-- What ends in a name does not end in a separator. -/
theorem getLast?_of_isName {n : Bytes} (h : IsName n) (front : Bytes) :
    (front ++ n).getLast? ≠ some separator := by
  obtain ⟨hempty, -, -, hseparator⟩ := h
  obtain ⟨b, hb⟩ := Option.isSome_iff_exists.1 (List.getLast?_isSome.2 hempty)
  rw [List.getLast?_append, hb, Option.some_or]
  intro h
  obtain rfl := Option.some.inj h
  exact hseparator (List.mem_of_getLast? hb)

/-- A name is written behind a path with a separator between them. -/
theorem join_name {p : Path} (hne : p.bytes ≠ []) (hlast : p.bytes.getLast? ≠ some separator)
    {n : Bytes} (hn : IsName n) : p.join ⟨n⟩ = ⟨p.bytes ++ [separator] ++ n⟩ := by
  have hrelative : (⟨n⟩ : Path).isAbsolute = false := by
    have h := isAbsolute_of_isName hn []
    rwa [List.append_nil] at h
  rw [join, if_neg (by simp [hrelative]), if_neg (by simp [hne, hlast]), List.append_assoc]
  rfl

/-- Names are written one behind the other with a separator before each. -/
theorem foldl_join_names {p : Path} (hne : p.bytes ≠ [])
    (hlast : p.bytes.getLast? ≠ some separator) {names : List Bytes}
    (hnames : ∀ n ∈ names, IsName n) :
    (names.map Component.name).foldl (fun p c => p.join ⟨c.bytes⟩) p =
      ⟨p.bytes ++ names.flatMap (separator :: ·)⟩ := by
  induction names generalizing p with
  | nil => simp
  | cons n names ih =>
    obtain ⟨hn, hnames⟩ := List.forall_mem_cons.1 hnames
    rw [List.map_cons, List.foldl_cons]
    change (names.map Component.name).foldl _ (p.join ⟨n⟩) = _
    rw [join_name hne hlast hn, ih (by simp) (getLast?_of_isName hn _) hnames]
    simp

/-- Names joined behind an empty one are the names with a separator before each. -/
theorem intercalate_cons_nil (names : List Bytes) :
    [separator].intercalate ([] :: names) = names.flatMap (separator :: ·) := by
  cases names with
  | nil => rfl
  | cons n names =>
    induction names generalizing n with
    | nil => simp [List.intercalate]
    | cons m names ih =>
      have h := ih m
      simp only [List.intercalate, List.intersperse_cons_cons, List.flatten_cons, List.nil_append,
        List.flatMap_cons, List.cons_append] at h ⊢
      rw [h]

/-- The segments of names that are written one behind the other are those names. -/
theorem segments_flatMap {names : List Bytes} (h : ∀ n ∈ names, separator ∉ n) :
    (⟨names.flatMap (separator :: ·)⟩ : Path).segments = [] :: names := by
  rw [segments, ← intercalate_cons_nil, List.splitOn_intercalate _ _ (by simp)]
  intro n hn
  rcases List.mem_cons.1 hn with rfl | hn
  · exact List.not_mem_nil
  · exact h n hn

/-- Names with a separator before each have the root and themselves as components. -/
theorem components_flatMap {names : List Bytes} (hne : names ≠ []) (h : ∀ n ∈ names, IsName n) :
    (⟨names.flatMap (separator :: ·)⟩ : Path).components =
      .root :: names.map Component.name := by
  have habs : (⟨names.flatMap (separator :: ·)⟩ : Path).isAbsolute = true := by
    obtain ⟨n, names, rfl⟩ := List.exists_cons_of_ne_nil hne
    rfl
  have hnames : names.filterMap component? = names.map Component.name := by
    rw [← List.filterMap_eq_map]
    exact List.filterMap_congr fun n hn => component?_of_isName (h n hn)
  rw [components, start, if_pos habs, segments_flatMap fun n hn => (h n hn).2.2.2,
    List.filterMap_cons, hnames]
  rfl

/-- The root and names are written with a separator before each name. -/
theorem ofComponents_root {names : List Bytes} (hne : names ≠ []) (h : ∀ n ∈ names, IsName n) :
    ofComponents (.root :: names.map Component.name) = ⟨names.flatMap (separator :: ·)⟩ := by
  obtain ⟨n, names, rfl⟩ := List.exists_cons_of_ne_nil hne
  obtain ⟨hn, hnames⟩ := List.forall_mem_cons.1 h
  have hrelative := isAbsolute_of_isName hn []
  have hroot : root.join ⟨n⟩ = ⟨[separator] ++ n⟩ := by
    rw [List.append_nil] at hrelative
    rw [join, if_neg (by simp [hrelative]), if_pos (by simp [root])]
    rfl
  change (names.map Component.name).foldl _ (root.join ⟨n⟩) = _
  rw [hroot, foldl_join_names (by simp) (getLast?_of_isName hn _) hnames]
  rfl

/-- **The root and names, written, are read back.** -/
theorem components_ofComponents_root {names : List Bytes} (h : ∀ n ∈ names, IsName n) :
    (ofComponents (.root :: names.map Component.name)).components =
      .root :: names.map Component.name := by
  by_cases hne : names = []
  · subst hne
    decide
  · rw [ofComponents_root hne h, components_flatMap hne h]

/-- Names, written without the root, do not start at the root. -/
theorem isAbsolute_ofComponents_names {names : List Bytes} (h : ∀ n ∈ names, IsName n) :
    (ofComponents (names.map Component.name)).isAbsolute = false := by
  cases names with
  | nil => decide
  | cons n names =>
    obtain ⟨hn, hnames⟩ := List.forall_mem_cons.1 h
    have hfirst : (⟨[]⟩ : Path).join ⟨n⟩ = ⟨n⟩ := by
      have hrelative := isAbsolute_of_isName hn []
      rw [List.append_nil] at hrelative
      rw [join, if_neg (by simp [hrelative]), if_pos (by simp)]
      rfl
    have hwritten : ofComponents ((n :: names).map Component.name) =
        ⟨n ++ names.flatMap (separator :: ·)⟩ := by
      change (names.map Component.name).foldl _ ((⟨[]⟩ : Path).join ⟨n⟩) = _
      rw [hfirst, foldl_join_names hn.1 (getLast?_of_isName hn []) hnames]
    rw [hwritten]
    exact isAbsolute_of_isName hn _

/-! ### Trails -/

/-- A component onto the names that a path leads along, last one first. -/
def walk (names : List Bytes) : Component → List Bytes
  | .name n => n :: names
  | .up => names.drop 1
  | .root | .here => names

/-- The names that a path leads along from the root; `..` stays at the root. -/
def trail (p : Path) : List Bytes := (p.components.foldl walk []).reverse

/-- Whether components never go up more often than they have gone down, when so many names
stand before them. -/
def Within (depth : Nat) (cs : List Component) : Prop :=
  ∀ front, front <+: cs → front.count .up ≤ front.countP Component.isName + depth

/-- Whether a path does not climb above the root, at any of its components. -/
def StaysInside (p : Path) : Prop := Within 0 p.components

instance (depth : Nat) (cs : List Component) : Decidable (Within depth cs) :=
  decidable_of_iff (∀ front ∈ cs.inits, front.count .up ≤ front.countP Component.isName + depth)
    (by simp only [List.mem_inits]; rfl)

instance (p : Path) : Decidable p.StaysInside := inferInstanceAs (Decidable (Within _ _))

variable {depth : Nat} {c : Component} {cs stack : List Component} {names : List Bytes}

/-- A component stays within if all that is in front of any other one does, itself included. -/
theorem within_cons : Within depth (c :: cs) ↔ ∀ front, front <+: cs →
    (c :: front).count .up ≤ (c :: front).countP Component.isName + depth := by
  constructor
  · intro h front hfront
    exact h (c :: front) (List.cons_prefix_cons.2 ⟨rfl, hfront⟩)
  · intro h front hfront
    rcases List.prefix_cons_iff.1 hfront with rfl | ⟨rest, rfl, hrest⟩
    · simp
    · exact h rest hrest

/-- At depth zero there is no going up. -/
theorem not_within_up : ¬ Within 0 (.up :: cs) := by
  intro h
  have hup := within_cons.1 h [] (List.nil_prefix ..)
  simp [Component.isName] at hup

/-- Going up takes one off the depth. -/
theorem within_up : Within (depth + 1) (.up :: cs) ↔ Within depth cs := by
  rw [within_cons]
  refine forall₂_congr fun front _ => ?_
  rw [List.count_cons_self, List.countP_cons_of_neg (by simp [Component.isName])]
  omega

/-- A name adds one to the depth. -/
theorem within_name {n : Bytes} : Within depth (.name n :: cs) ↔ Within (depth + 1) cs := by
  rw [within_cons]
  refine forall₂_congr fun front _ => ?_
  rw [List.count_cons_of_ne (by simp), List.countP_cons_of_pos rfl]
  omega

/-- Any other component leaves the depth as it is. -/
theorem within_still (hup : c ≠ .up) (hname : c.isName = false) :
    Within depth (c :: cs) ↔ Within depth cs := by
  rw [within_cons]
  refine forall₂_congr fun front _ => ?_
  rw [List.count_cons_of_ne hup, List.countP_cons_of_neg (by simp [hname])]

/-- Where the root is never climbed above, it stays at the bottom of the stack. -/
theorem foldl_step_of_within (hroot : .root ∉ cs) (h : Within names.length cs) :
    cs.foldl step (names.map Component.name ++ [.root]) =
      (cs.foldl walk names).map Component.name ++ [.root] := by
  induction cs generalizing names with
  | nil => rfl
  | cons c cs ih =>
    rw [List.mem_cons, not_or] at hroot
    cases c with
    | root => exact absurd rfl hroot.1
    | here => exact ih hroot.2 ((within_still (by simp) rfl).1 h)
    | name n =>
      have hcs : Within (n :: names).length cs := within_name.1 h
      exact ih hroot.2 hcs
    | up =>
      cases names with
      | nil => exact absurd h not_within_up
      | cons n names => exact ih hroot.2 (within_up.1 h)

/-- Steps from a stack without a root never put one onto it. -/
theorem root_not_mem_foldl_step (hstack : .root ∉ stack) (hroot : .root ∉ cs) :
    .root ∉ cs.foldl step stack := by
  induction cs generalizing stack with
  | nil => exact hstack
  | cons c cs ih =>
    rw [List.mem_cons, not_or] at hroot
    refine ih ?_ hroot.2
    cases c with
    | root => exact absurd rfl hroot.1
    | here => exact hstack
    | up => exact fun h => hstack (List.mem_of_mem_drop h)
    | name n => simpa [step] using hstack

/-- Where the root is climbed above, it is gone for good. -/
theorem foldl_step_of_not_within (hroot : .root ∉ cs) (h : ¬ Within names.length cs) :
    .root ∉ cs.foldl step (names.map Component.name ++ [.root]) := by
  induction cs generalizing names with
  | nil =>
    refine absurd (fun front hfront => ?_) h
    rw [List.prefix_nil.1 hfront]
    simp
  | cons c cs ih =>
    rw [List.mem_cons, not_or] at hroot
    cases c with
    | root => exact absurd rfl hroot.1
    | here => exact ih hroot.2 fun hw => h ((within_still (by simp) rfl).2 hw)
    | name n =>
      have hcs : ¬ Within (n :: names).length cs := fun hw => h (within_name.2 hw)
      exact ih hroot.2 hcs
    | up =>
      cases names with
      | nil =>
        have hnil : (.root : Component) ∉ ([] : List Component) := List.not_mem_nil
        have hgone := root_not_mem_foldl_step hnil hroot.2
        exact hgone
      | cons n names => exact ih hroot.2 fun hw => h (within_up.2 hw)

/-- What is left on the stack are names and the root. -/
theorem mem_foldl_step (h : c ∈ cs.foldl step stack) :
    c ∈ stack ∨ c ∈ cs ∧ c ≠ .up ∧ c ≠ .here := by
  induction cs generalizing stack with
  | nil => exact .inl h
  | cons d cs ih =>
    rcases ih h with h | ⟨hmem, hplain⟩
    · cases d with
      | up => exact .inl (List.mem_of_mem_drop h)
      | here => exact .inl h
      | root | name =>
        rcases List.mem_cons.1 h with rfl | h
        · exact .inr ⟨List.mem_cons_self .., by simp⟩
        · exact .inl h
    · exact .inr ⟨List.mem_cons_of_mem _ hmem, hplain⟩

/-- A name that a walk ends with was there before or is one of the components. -/
theorem mem_foldl_walk {n : Bytes} (h : n ∈ cs.foldl walk names) :
    n ∈ names ∨ .name n ∈ cs := by
  induction cs generalizing names with
  | nil => exact .inl h
  | cons c cs ih =>
    rcases ih h with h | h
    · cases c with
      | up => exact .inl (List.mem_of_mem_drop h)
      | here | root => exact .inl h
      | name m =>
        rcases List.mem_cons.1 h with rfl | h
        · exact .inr (List.mem_cons_self ..)
        · exact .inl h
    · exact .inr (List.mem_cons_of_mem _ h)

/-- The trail of a path is made of names. -/
theorem isName_of_mem_trail {p : Path} {n : Bytes} (h : n ∈ p.trail) : IsName n := by
  rcases mem_foldl_walk (List.mem_reverse.1 h) with h | h
  · exact absurd h List.not_mem_nil
  · exact isName_of_mem_components h

/-- Of a path from the root that stays inside, the root and its trail are left. -/
theorem resolved_components {p : Path} (habs : p.isAbsolute = true) (h : p.StaysInside) :
    resolved p.components = .root :: p.trail.map Component.name := by
  obtain ⟨rest, hrest, hroot⟩ := components_of_isAbsolute habs
  have hwithin : Within ([] : List Bytes).length rest := by
    rw [StaysInside, hrest] at h
    exact (within_still (by simp) rfl).1 h
  rw [resolved, trail, hrest]
  change (rest.foldl step (([] : List Bytes).map Component.name ++ [.root])).reverse = _
  rw [foldl_step_of_within hroot hwithin, List.reverse_append, List.map_reverse]
  rfl

/-- **Of a path from the root that stays inside, `normalize` gives its trail.** -/
theorem components_normalize {p : Path} (habs : p.isAbsolute = true) (h : p.StaysInside) :
    p.normalize.components = .root :: p.trail.map Component.name := by
  rw [normalize, resolved_components habs h]
  exact components_ofComponents_root fun n hn => isName_of_mem_trail hn

/-- The root is kept in a path exactly if it is absolute and stays inside. -/
theorem root_mem_resolved_iff {p : Path} :
    .root ∈ resolved p.components ↔ p.isAbsolute = true ∧ p.StaysInside := by
  have hnil : (.root : Component) ∉ ([] : List Component) := List.not_mem_nil
  rw [resolved, List.mem_reverse]
  cases habs : p.isAbsolute with
  | false =>
    have hnone := root_not_mem_foldl_step hnil (root_not_mem_components habs)
    simp [hnone]
  | true =>
    obtain ⟨rest, hrest, hroot⟩ := components_of_isAbsolute habs
    have hwithin : p.StaysInside ↔ Within ([] : List Bytes).length rest := by
      rw [StaysInside, hrest]
      exact within_still (by simp) rfl
    rw [hrest, hwithin]
    change .root ∈ rest.foldl step (([] : List Bytes).map Component.name ++ [.root]) ↔ _
    by_cases h : Within ([] : List Bytes).length rest
    · rw [foldl_step_of_within hroot h]
      exact ⟨fun _ => ⟨rfl, h⟩, fun _ => List.mem_append_right _ (List.mem_singleton_self _)⟩
    · have hgone := foldl_step_of_not_within hroot h
      exact ⟨fun hmem => absurd hmem hgone, fun hw => absurd hw.2 h⟩

/-- Components that are all names are those of a list of names. -/
theorem exists_names (h : ∀ c ∈ cs, ∃ n, c = .name n ∧ IsName n) :
    ∃ names : List Bytes, cs = names.map Component.name ∧ ∀ n ∈ names, IsName n := by
  induction cs with
  | nil => exact ⟨[], rfl, by simp⟩
  | cons c cs ih =>
    obtain ⟨⟨n, rfl, hn⟩, hcs⟩ := List.forall_mem_cons.1 h
    obtain ⟨names, rfl, hnames⟩ := ih hcs
    exact ⟨n :: names, rfl, List.forall_mem_cons.2 ⟨hn, hnames⟩⟩

/-- **`normalize` keeps the root exactly of the paths from it that stay inside.** -/
theorem isAbsolute_normalize_iff {p : Path} :
    p.normalize.isAbsolute = true ↔ p.isAbsolute = true ∧ p.StaysInside := by
  constructor
  · intro h
    rw [← root_mem_resolved_iff]
    by_contra hroot
    -- Without the root, what is left and written are names.
    have hnames : ∀ c ∈ resolved p.components, ∃ n, c = .name n ∧ IsName n := by
      intro c hc
      rcases mem_foldl_step (List.mem_reverse.1 hc) with hnil | ⟨hmem, hup, hhere⟩
      · exact absurd hnil List.not_mem_nil
      · cases c with
        | root => exact absurd hc hroot
        | up => exact absurd rfl hup
        | here => exact absurd rfl hhere
        | name n => exact ⟨n, rfl, isName_of_mem_components hmem⟩
    obtain ⟨names, hresolved, hnames⟩ := exists_names hnames
    rw [normalize, hresolved, isAbsolute_ofComponents_names hnames] at h
    exact absurd h (by simp)
  · rintro ⟨habs, h⟩
    by_contra hrelative
    rw [Bool.not_eq_true] at hrelative
    refine root_not_mem_components hrelative ?_
    rw [components_normalize habs h]
    exact List.mem_cons_self ..

/-- A path lies below another one, or is it, when the trail of the other one
comes first in its own: where neither climbs above the root, that is what
comparing them without `.` and `..` comes to. -/
theorem startsWith_normalize_iff {p dir : Path} (habs : dir.isAbsolute = true)
    (hdir : dir.StaysInside) : p.normalize.startsWith dir.normalize = true ↔
      p.isAbsolute = true ∧ p.StaysInside ∧ dir.trail <+: p.trail := by
  have hinj : Function.Injective Component.name := fun _ _ h => Component.name.inj h
  have htrail : p.isAbsolute = true → p.StaysInside →
      (p.normalize.startsWith dir.normalize = true ↔ dir.trail <+: p.trail) := by
    intro hp h
    rw [startsWith, List.isPrefixOf_iff_prefix, components_normalize habs hdir,
      components_normalize hp h, List.cons_prefix_cons, List.prefix_map_iff_of_injective hinj]
    simp
  constructor
  · intro h
    have hroot : .root ∈ p.normalize.components := by
      have hfirst := h
      rw [startsWith, List.isPrefixOf_iff_prefix, components_normalize habs hdir] at hfirst
      exact hfirst.subset (List.mem_cons_self ..)
    have hkept : p.normalize.isAbsolute = true := by
      by_contra hrelative
      rw [Bool.not_eq_true] at hrelative
      exact root_not_mem_components hrelative hroot
    obtain ⟨hp, hinside⟩ := isAbsolute_normalize_iff.1 hkept
    exact ⟨hp, hinside, (htrail hp hinside).1 h⟩
  · rintro ⟨hp, hinside, h⟩
    exact (htrail hp hinside).2 h

/-! ### Paths without `..` -/

/-- A path that never goes up stays inside. -/
theorem staysInside_of_not_up {p : Path} (h : .up ∉ p.components) : p.StaysInside := by
  intro front hfront
  rw [List.count_eq_zero.2 fun hup => h (hfront.subset hup)]
  exact Nat.zero_le _

/-- Without `..` no name is taken away. -/
theorem suffix_foldl_walk (h : .up ∉ cs) : names <:+ cs.foldl walk names := by
  induction cs generalizing names with
  | nil => exact List.suffix_refl names
  | cons c cs ih =>
    rw [List.mem_cons, not_or] at h
    refine List.IsSuffix.trans ?_ (ih h.2)
    cases c with
    | up => exact absurd rfl h.1
    | here | root => exact List.suffix_refl names
    | name n => exact List.suffix_cons n names

/-- A path without `..` leads along the names of every path whose components come first in its
own. -/
theorem trail_prefix_of_startsWith {p dir : Path} (hup : .up ∉ p.components)
    (h : p.startsWith dir = true) : dir.trail <+: p.trail := by
  obtain ⟨rest, hrest⟩ := List.isPrefixOf_iff_prefix.1 h
  have hrestUp : .up ∉ rest := fun hmem => hup (hrest ▸ List.mem_append_right _ hmem)
  rw [trail, trail, ← hrest, List.foldl_append, List.reverse_prefix]
  exact suffix_foldl_walk hrestUp

end Path
end Switchboard
