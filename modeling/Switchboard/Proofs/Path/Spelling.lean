/-
# Paths compared as texts

A session compares paths as texts (`Project.Covers`), a project contains paths
by their components (`Project.contains`).  For paths that are written out, with
names only and one separator between two of them, that is the same
(`Project.covers_iff_contains`).  Of any bytes, it is a comparison of the
segments of the texts (`Project.covers_iff_shown`), in which a backslash counts
as a separator and what is not UTF-8 is lost; a path that is clean, written as
it is without `.` and `..`, is at least covered by every project that contains
it, the root alone left out (`Project.covers_of_contains`).
-/

import Switchboard.Proofs.Path.Lexical
import Switchboard.Proofs.Text.Lossy
import Switchboard.Session.Selector

namespace Switchboard

/-! ### Paths that are written out -/

namespace Path

/-- A path is written out by names when each stands behind one separator and
none could be left out, in a text without backslashes. -/
structure WrittenOut (p : Path) (names : List Bytes) : Prop where
  bytes_eq : p.bytes = names.flatMap (separator :: ·)
  ne_nil : names ≠ []
  isName : ∀ n ∈ names, n ≠ [] ∧ n ≠ dot ∧ n ≠ dotDot ∧ separator ∉ n
  isText : ∃ s : String, '\\' ∉ s.toList ∧ p.bytes = Utf8.encode s

/-- A path that is written out by names is the path of those bytes. -/
theorem WrittenOut.eq_mk {p : Path} {names : List Bytes} (h : p.WrittenOut names) :
    p = ⟨names.flatMap (separator :: ·)⟩ := congrArg Path.mk h.bytes_eq

/-- The components of a path that is written out are the root and its names. -/
theorem WrittenOut.components_eq {p : Path} {names : List Bytes} (h : p.WrittenOut names) :
    p.components = .root :: names.map .name := by
  rw [h.eq_mk]
  exact components_flatMap h.ne_nil h.isName

/-- A path is plain when its bytes are a text without backslashes. -/
def IsPlain (p : Path) : Prop := ∃ s : String, '\\' ∉ s.toList ∧ p.bytes = Utf8.encode s

/-- The text of a plain path is its bytes. -/
theorem IsPlain.encode_slashed {p : Path} (h : p.IsPlain) :
    Utf8.encode (Selector.slashed p) = p.bytes := by
  obtain ⟨s, hs, hp⟩ := h
  have hdisplay : p.display = s := by
    rw [display, Utf8.lossy, hp, Utf8.decode?_encode]
  have hmap : s.toList.map (fun c => if c = '\\' then '/' else c) = s.toList := by
    refine (List.map_congr_left fun c hc => ?_).trans (List.map_id _)
    exact if_neg fun hback => hs (by rwa [← hback])
  rw [Selector.slashed, hdisplay, hmap, String.ofList_toList, hp]

/-- A name and a separator come first where they are the first name, and the
separator comes behind it. -/
theorem append_cons_prefix_append {n m a b : Bytes} (hn : separator ∉ n) (hm : separator ∉ m)
    (hb : ∀ d ∈ b.head?, d = separator) :
    n ++ separator :: a <+: m ++ b ↔ n = m ∧ separator :: a <+: b := by
  induction n generalizing m with
  | nil =>
    cases m with
    | nil => simp
    | cons d m =>
      have hd : separator ≠ d := fun h => hm (h ▸ List.mem_cons_self ..)
      simp [List.cons_prefix_cons, hd]
  | cons c n ih =>
    have hc : c ≠ separator := fun h => hn (h ▸ List.mem_cons_self ..)
    cases m with
    | nil =>
      cases b with
      | nil => simp
      | cons d b =>
        have hd : d = separator := hb d rfl
        simp [List.cons_prefix_cons, hd, hc]
    | cons d m =>
      rw [List.cons_append, List.cons_append, List.cons_prefix_cons,
        ih (fun h => hn (List.mem_cons_of_mem _ h)) (fun h => hm (List.mem_cons_of_mem _ h)),
        List.cons.injEq, and_assoc]

/-- Written out, one path comes first in another, with a separator behind it,
where its names are the first of the other's but not all of them. -/
theorem flatMap_append_prefix_iff {ds ns : List Bytes} (hds : ∀ d ∈ ds, separator ∉ d)
    (hns : ∀ n ∈ ns, separator ∉ n) :
    ds.flatMap (separator :: ·) ++ [separator] <+: ns.flatMap (separator :: ·) ↔
      ds <+: ns ∧ ds ≠ ns := by
  induction ds generalizing ns with
  | nil => cases ns <;> simp
  | cons d ds ih =>
    cases ns with
    | nil => simp
    | cons n ns =>
      obtain ⟨hd, hds⟩ := List.forall_mem_cons.1 hds
      obtain ⟨hn, hns⟩ := List.forall_mem_cons.1 hns
      obtain ⟨front, hfront⟩ : ∃ front,
          ds.flatMap (separator :: ·) ++ [separator] = separator :: front := by
        cases ds <;> exact ⟨_, rfl⟩
      have hhead : ∀ b ∈ (ns.flatMap (separator :: ·)).head?, b = separator := by
        cases ns with
        | nil => simp
        | cons m ns => exact fun b hb => (Option.some.inj hb).symm
      rw [List.flatMap_cons, List.flatMap_cons, List.cons_append, List.cons_append,
        List.cons_append, List.cons_prefix_cons, List.append_assoc, hfront,
        append_cons_prefix_append hd hn hhead, ← hfront, ih hds hns, List.cons_prefix_cons]
      simp only [true_and, ne_eq, List.cons.injEq, not_and]
      constructor
      · rintro ⟨rfl, hbegins, hne⟩
        exact ⟨⟨rfl, hbegins⟩, fun _ => hne⟩
      · rintro ⟨⟨rfl, hbegins⟩, hne⟩
        exact ⟨rfl, hbegins, hne rfl⟩

end Path

namespace Project

/-- A project covers a path when the path's text starts with the text of the
project's directory and a separator. -/
def Covers (p : Project) (path : Path) : Prop :=
  Utf8.encode (Selector.slashed p.path) ++ [Glob.slash] <+: Utf8.encode (Selector.slashed path)

instance (p : Project) (path : Path) : Decidable (p.Covers path) :=
  inferInstanceAs (Decidable (_ <+: _))

/-- **As texts and by components, projects hold the same of what is written out.** -/
theorem covers_iff_contains {p : Project} {path : Path} {ds ns : List Bytes}
    (hp : p.path.WrittenOut ds) (hpath : path.WrittenOut ns) :
    p.Covers path ↔ p.contains path = true := by
  have hinj : Function.Injective Path.Component.name := fun _ _ h => Path.Component.name.inj h
  have hcovers : p.Covers path ↔ ds <+: ns ∧ ds ≠ ns := by
    rw [Covers, Path.IsPlain.encode_slashed hp.isText,
      Path.IsPlain.encode_slashed hpath.isText, hp.bytes_eq, hpath.bytes_eq]
    exact Path.flatMap_append_prefix_iff (fun d hd => (hp.isName d hd).2.2.2)
      fun n hn => (hpath.isName n hn).2.2.2
  rw [hcovers, contains, Path.startsWith, Path.same, hp.components_eq, hpath.components_eq,
    Bool.and_eq_true, List.isPrefixOf_iff_prefix, Bool.not_eq_true', beq_eq_false_iff_ne,
    List.cons_prefix_cons, List.prefix_map_iff_of_injective hinj]
  simp only [true_and, ne_eq, List.cons.injEq, List.map_inj_right hinj, @eq_comm _ ns]

end Project

/-! ### Clean paths -/

namespace Path

variable {p q : Path}

/-- A path is clean when it starts at the root and is written as it is without `.` and `..`. -/
def IsClean (p : Path) : Prop := p.isAbsolute = true ∧ p.normalize = p

instance (p : Path) : Decidable p.IsClean := inferInstanceAs (Decidable (_ ∧ _))

/-- A clean path stays inside. -/
theorem IsClean.staysInside (h : p.IsClean) : p.StaysInside :=
  (isAbsolute_normalize_iff.1 (h.2.symm ▸ h.1)).2

/-- A clean path has the root and its trail as components. -/
theorem IsClean.components_eq (h : p.IsClean) :
    p.components = .root :: p.trail.map Component.name := by
  rw [← components_normalize h.1 h.staysInside, h.2]

/-- A clean path is the root, or written with a separator before each name. -/
theorem IsClean.eq_mk (h : p.IsClean) :
    p = if p.trail = [] then root else ⟨p.trail.flatMap (separator :: ·)⟩ := by
  conv_lhs => rw [← h.2, normalize, resolved_components h.1 h.staysInside]
  split
  next hnil => rw [hnil]; rfl
  next hne => exact ofComponents_root hne fun n hn => isName_of_mem_trail hn

/-- A clean path other than the root has a trail. -/
theorem IsClean.trail_ne_nil (h : p.IsClean) (hroot : p ≠ root) : p.trail ≠ [] := fun hnil =>
  hroot (by rw [h.eq_mk, if_pos hnil])

/-- A clean path other than the root is written with a separator before each name of its trail. -/
theorem IsClean.bytes_eq (h : p.IsClean) (hroot : p ≠ root) :
    p.bytes = p.trail.flatMap (separator :: ·) := by
  conv_lhs => rw [h.eq_mk, if_neg (h.trail_ne_nil hroot)]

/-- The segments of a clean path are an empty one and its names; of the root they are two. -/
theorem IsClean.segments_eq (h : p.IsClean) :
    p.segments = [] :: if p.trail = [] then [[]] else p.trail := by
  rw [segments, congrArg bytes h.eq_mk]
  split
  · decide
  · exact segments_flatMap fun n hn => (isName_of_mem_trail hn).2.2.2

/-- Clean paths are equal when they are component by component. -/
theorem IsClean.same_iff (h : p.IsClean) (hq : q.IsClean) : p.same q = true ↔ p = q := by
  rw [same, beq_iff_eq]
  refine ⟨fun heq => ?_, fun heq => heq ▸ rfl⟩
  rw [← h.2, ← hq.2, normalize, normalize, heq]

/-- A clean path starts with another one if its trail does. -/
theorem IsClean.startsWith_iff (h : p.IsClean) (hq : q.IsClean) :
    q.startsWith p = true ↔ p.trail <+: q.trail := by
  have hinj : Function.Injective Component.name := fun _ _ h => Component.name.inj h
  rw [startsWith, List.isPrefixOf_iff_prefix, h.components_eq, hq.components_eq,
    List.cons_prefix_cons, List.prefix_map_iff_of_injective hinj]
  exact and_iff_right rfl

/-- A separator and some bytes are the segments of the bytes, a separator before each. -/
theorem cons_eq_flatMap_segments (bs : Bytes) :
    separator :: bs = (segments ⟨bs⟩).flatMap (separator :: ·) := by
  have hjoined : [separator].intercalate (segments ⟨bs⟩) = bs := List.intercalate_splitOn separator
  obtain ⟨first, rest, hsegments⟩ := List.exists_cons_of_ne_nil (List.splitOn_ne_nil separator bs)
  change segments ⟨bs⟩ = _ at hsegments
  rw [← intercalate_cons_nil]
  rw [hsegments] at hjoined ⊢
  rw [List.intercalate, List.intersperse_cons_cons, List.flatten_cons, List.flatten_cons,
    ← List.intercalate, hjoined]
  rfl

/-- The segments of the text that a path is shown as, with backslashes as separators. -/
def shown (p : Path) : List Bytes := segments ⟨Utf8.encode (Selector.slashed p)⟩

/-- A plain path is shown as the segments it has. -/
theorem IsPlain.shown_eq (h : p.IsPlain) : p.shown = p.segments := by
  rw [shown, h.encode_slashed]

end Path

namespace Selector

/-- What stands before a separator and what stands behind it are shown each for itself. -/
theorem encode_slashed_append (front back : Bytes) :
    Utf8.encode (slashed ⟨front ++ Path.separator :: back⟩) =
      Utf8.encode (slashed ⟨front⟩) ++ Path.separator :: Utf8.encode (slashed ⟨back⟩) := by
  have hslash : Path.separator :: Utf8.encode (slashed ⟨back⟩) =
      String.utf8EncodeChar '/' ++ Utf8.encode (slashed ⟨back⟩) := rfl
  rw [hslash]
  simp only [slashed, Path.display, Utf8.encode_ofList]
  rw [show Path.separator = 0x2F from rfl, Utf8.lossy_append_separator]
  simp

end Selector

namespace Project

variable {p : Project} {path : Path}

/-- A project contains a clean path when its names are the first of the path's but not all. -/
theorem contains_iff (hp : p.path.IsClean) (hpath : path.IsClean) :
    p.contains path = true ↔ p.path.trail <+: path.trail ∧ p.path.trail ≠ path.trail := by
  rw [contains, Bool.and_eq_true, hp.startsWith_iff hpath, Bool.not_eq_true', ← Bool.not_eq_true,
    hpath.same_iff hp]
  refine and_congr_right fun _ => not_congr ⟨fun h => h ▸ rfl, fun h => ?_⟩
  rw [hp.eq_mk, hpath.eq_mk, h]

/-- **As texts, projects are compared segment by segment**, whatever the bytes are. -/
theorem covers_iff_shown :
    p.Covers path ↔ p.path.shown <+: path.shown ∧ p.path.shown ≠ path.shown := by
  have hseparator : ∀ bs : Bytes, ∀ n ∈ Path.segments ⟨bs⟩, Path.separator ∉ n :=
    fun bs n hn => Pieces.not_mem_of_mem_splitOn hn
  rw [Covers, Path.shown, Path.shown, ← Path.flatMap_append_prefix_iff (hseparator _)
    (hseparator _), ← Path.cons_eq_flatMap_segments, ← Path.cons_eq_flatMap_segments,
    List.cons_append, List.cons_prefix_cons]
  exact (and_iff_right rfl).symm

/-- **A clean path is covered by the projects that contain it**, whatever bytes it has, but for
the root. -/
theorem covers_of_contains (hp : p.path.IsClean) (hpath : path.IsClean)
    (hroot : p.path ≠ Path.root) (h : p.contains path = true) : p.Covers path := by
  obtain ⟨hbegins, hne⟩ := (contains_iff hp hpath).1 h
  obtain ⟨rest, hrest⟩ := hbegins
  have hrest_ne : rest ≠ [] := fun hnil => hne (by rw [← hrest, hnil, List.append_nil])
  have hpath_root : path ≠ Path.root := by
    rintro rfl
    have hnil := List.append_eq_nil_iff.1 (hrest.trans (by decide : Path.root.trail = []))
    exact hrest_ne hnil.2
  obtain ⟨n, rest, rfl⟩ := List.exists_cons_of_ne_nil hrest_ne
  have hbytes : path =
      ⟨p.path.bytes ++ Path.separator :: (n ++ rest.flatMap (Path.separator :: ·))⟩ := by
    refine congrArg Path.mk ?_
    rw [hpath.bytes_eq hpath_root, ← hrest, List.flatMap_append, ← hp.bytes_eq hroot]
    rfl
  rw [Covers, hbytes, Selector.encode_slashed_append]
  exact ⟨_, (List.append_cons ..).symm⟩

/-- **Of clean and plain paths, exactly the projects that contain one cover it**, but for the
root, which covers none. -/
theorem covers_iff_of_isPlain (hp : p.path.IsClean) (hpath : path.IsClean)
    (hp' : p.path.IsPlain) (hpath' : path.IsPlain) :
    p.Covers path ↔ p.path ≠ Path.root ∧ p.contains path = true := by
  refine ⟨fun h => ?_, fun h => covers_of_contains hp hpath h.1 h.2⟩
  rw [covers_iff_shown, hp'.shown_eq, hpath'.shown_eq, hp.segments_eq, hpath.segments_eq,
    List.cons_prefix_cons, ne_eq, List.cons.injEq, and_iff_right rfl, and_iff_right rfl] at h
  obtain ⟨hbegins, hne⟩ := h
  have hroot : p.path ≠ Path.root := by
    intro hroot
    -- The second segment of the root is empty, and no name is.
    rw [hroot, if_pos (by decide)] at hbegins hne
    split at hbegins
    next hnil => exact hne (by rw [if_pos hnil])
    next => exact (Path.isName_of_mem_trail (hbegins.subset (List.mem_singleton_self _))).1 rfl
  rw [if_neg (hp.trail_ne_nil hroot)] at hbegins hne
  refine ⟨hroot, (contains_iff hp hpath).2 ?_⟩
  split at hbegins
  next hnil =>
    rw [if_pos hnil] at hne
    rcases List.prefix_cons_iff.1 hbegins with h | ⟨rest, hrest, hnil⟩
    · exact absurd h (hp.trail_ne_nil hroot)
    · exact absurd (hrest.trans (by rw [List.prefix_nil.1 hnil])) hne
  next hne' =>
    rw [if_neg hne'] at hne
    exact ⟨hbegins, hne⟩

end Project

end Switchboard
