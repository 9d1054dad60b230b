/-
# A change that the window of another file hides

A notification can name several targets, as a renaming does.  The filter looks at the
first of them only: it reports that one if it has not been reported within the window,
and otherwise nothing (`ChangeFilter.reported_iff`).  So a change of a target that is due
is missed exactly when the first target that the notification names has just been
reported (`ChangeFilter.due_reported_iff`), and there are notifications of that kind
(`ChangeFilter.renaming_misses_change`).
-/

import Switchboard.Proofs.Supervisor.Debounce

namespace Switchboard
namespace ChangeFilter

variable {s : State} {n : Notice} {ns : List Notice} {p q : Path} {t : Int}
  {x : Notice × Option Path} {targets : List Path} {window : Nat}
  {past : List (Notice × Option Path)}

/-- Whether a path is one of the targets, in some spelling. -/
def Watches (s : State) (p : Path) : Prop := ∃ t ∈ s.targets, t.same p = true

/-- Whether a path has been reported less than the window before a time. -/
def Recent (window : Nat) (past : List (Notice × Option Path)) (p : Path) (t : Int) : Prop :=
  ∃ y ∈ past, Reports p y ∧ t < y.1.time + window

instance (s : State) : DecidablePred (Watches s) :=
  fun _ => inferInstanceAs (Decidable (∃ t ∈ _, _ = true))

instance (window : Nat) (past : List (Notice × Option Path)) (p : Path) (t : Int) :
    Decidable (Recent window past p t) :=
  inferInstanceAs (Decidable (∃ y ∈ _, _ ∧ _))

/-- A path that a notification names is due when it is a target and has not been reported
within the window. -/
structure Due (s : State) (past : List (Notice × Option Path)) (n : Notice) (p : Path) :
    Prop where
  named : p ∈ n.paths
  watched : Watches s p
  fresh : ¬ Recent s.window past p n.time

/-- A notification is masked when some path that it names is due, and the first target that
it names has been reported within the window. -/
structure Masked (s : State) (past : List (Notice × Option Path)) (n : Notice) : Prop where
  due : ∃ p, Due s past n p
  recent : ∃ first, subject? s n = some first ∧ Recent s.window past first n.time

/-- A path is watched if it is the same as one of the targets. -/
theorem watches_iff : Watches s p ↔ (s.targets.any fun t => t.same p) = true :=
  List.any_eq_true.symm

/-- A notification that names a target has a subject. -/
theorem exists_subject? (hp : p ∈ n.paths) (hwatched : Watches s p) :
    ∃ first, subject? s n = some first := by
  rw [← Option.isSome_iff_exists, subject?, List.find?_isSome]
  exact ⟨p, hp, watches_iff.1 hwatched⟩

/-- The subject of a notification is a target that it names. -/
theorem of_subject? (h : subject? s n = some p) : p ∈ n.paths ∧ Watches s p := by
  rw [subject?] at h
  have hwatched := List.find?_some h
  exact ⟨List.mem_of_find?_eq_some h, watches_iff.2 hwatched⟩

/-- What has been reported recently has been so in all its spellings. -/
theorem recent_of_same (hsame : p.same q = true) (h : Recent window past p t) :
    Recent window past q t := by
  obtain ⟨y, hy, hreports, hlt⟩ := h
  obtain ⟨r, hr, hrp⟩ := reports_iff.1 hreports
  exact ⟨y, hy, reports_iff.2 ⟨r, hr, Path.same_trans hrp hsame⟩, hlt⟩

/-! ### What is reported of a notification -/

/-- What is reported has not been reported within the window. -/
theorem not_recent_of_reported (htimes : ns.Pairwise fun m n => m.time ≤ n.time)
    (hx : past ++ [x] <+: decisions (.new targets window) ns) (hp : x.2 = some p) :
    ¬ Recent window past p x.1.time := by
  rintro ⟨y, hy, hreports, hlt⟩
  have hspaced := (reports_spaced htimes p).sublist hx.sublist
  have hlast : Reports p x := reports_iff.2 ⟨p, hp, Path.same_refl p⟩
  have hle := (List.pairwise_append.1 hspaced).2.2 y hy x (List.mem_singleton_self x) hreports hlast
  omega

/-- **Only the first target counts**: a change is reported exactly when the first target that
it names has not been reported within the window, and then as a change of that one. -/
theorem reported_iff (htimes : ns.Pairwise fun m n => m.time ≤ n.time)
    (hx : past ++ [x] <+: decisions (.new targets window) ns) (hcounts : x.1.kind.counts = true) :
    x.2 = some p ↔
      subject? (.new targets window) x.1 = some p ∧ ¬ Recent window past p x.1.time := by
  constructor
  · intro hp
    have hmem : x ∈ decisions (.new targets window) ns :=
      hx.subset (List.mem_append_right _ (List.mem_singleton_self x))
    exact ⟨(counts_of_reported hmem hp).2, not_recent_of_reported htimes hx hp⟩
  · rintro ⟨hsubject, hfresh⟩
    rcases reported_or_recent htimes past x hx hcounts p hsubject with hp | hrecent
    · exact hp
    · obtain ⟨y, hy, hreports, -, hlt⟩ := hrecent
      exact absurd ⟨y, hy, hreports, hlt⟩ hfresh

/-- A notification whose targets are all spellings of one is not masked. -/
theorem not_masked_of_single
    (h : ∀ p ∈ n.paths, ∀ q ∈ n.paths, Watches s p → Watches s q → p.same q = true) :
    ¬ Masked s past n := by
  rintro ⟨⟨p, hdue⟩, first, hfirst, hrecent⟩
  obtain ⟨hnamed, hwatched⟩ := of_subject? hfirst
  exact hdue.fresh
    (recent_of_same (h first hnamed p hdue.named hwatched hdue.watched) hrecent)

/-- **A change of a target that is due is reported, exactly as long as the notification is not
masked.**  Times do not run backwards, and `x` is the decision on a creation or a change, other
than in metadata, that comes behind the decisions `past`.  What is reported is the first target
that is named, unless it has been reported within the window.  So something is reported whenever
a named target is due if and only if it is not the case that one is due and the first one has
been reported within the window; and that is never the case when only one target is named. -/
theorem due_reported_iff (targets : List Path) (window : Nat)
    (htimes : ns.Pairwise fun m n => m.time ≤ n.time)
    (hx : past ++ [x] <+: decisions (.new targets window) ns)
    (hkind : x.1.kind = .create ∨ x.1.kind = .modify) :
    let start := State.new targets window
    (∀ p, x.2 = some p ↔ subject? start x.1 = some p ∧ ¬ Recent window past p x.1.time) ∧
    (((∃ p, Due start past x.1 p) → x.2.isSome = true) ↔ ¬ Masked start past x.1) ∧
    ((∀ p ∈ x.1.paths, ∀ q ∈ x.1.paths, Watches start p → Watches start q → p.same q = true) →
      ¬ Masked start past x.1) := by
  intro start
  have hreported : ∀ p, x.2 = some p ↔
      subject? start x.1 = some p ∧ ¬ Recent window past p x.1.time :=
    fun p => reported_iff htimes hx (Kind.counts_iff.2 hkind)
  refine ⟨hreported, ⟨fun h hmasked => ?_, fun hmasked hdue => ?_⟩, not_masked_of_single⟩
  · obtain ⟨first, hfirst, hrecent⟩ := hmasked.recent
    obtain ⟨p, hp⟩ := Option.isSome_iff_exists.1 (h hmasked.due)
    obtain ⟨hsubject, hfresh⟩ := (hreported p).1 hp
    obtain rfl : p = first := Option.some.inj (hsubject.symm.trans hfirst)
    exact hfresh hrecent
  · obtain ⟨p, hp⟩ := hdue
    obtain ⟨first, hfirst⟩ := exists_subject? hp.named hp.watched
    have hfresh : ¬ Recent window past first x.1.time :=
      fun hrecent => hmasked ⟨⟨p, hp⟩, first, hfirst, hrecent⟩
    exact Option.isSome_iff_exists.2 ⟨first, (hreported first).2 ⟨hfirst, hfresh⟩⟩

/-- A lock file that is reported at the beginning. -/
def lockA : Path := .ofText "/w/a/yarn.lock"

/-- A lock file that has not been reported. -/
def lockB : Path := .ofText "/w/b/yarn.lock"

/-- Within the window of the first file, a notification names the second one before it and
is reported as a change of that one. -/
theorem due_reported_iff_other_order :
    let ns : List Notice := [⟨.modify, [lockA], 0⟩, ⟨.modify, [lockB, lockA], 50⟩]
    let past : List (Notice × Option Path) := [(⟨.modify, [lockA], 0⟩, some lockA)]
    let x : Notice × Option Path := (⟨.modify, [lockB, lockA], 50⟩, some lockB)
    ns.Pairwise (fun m n => m.time ≤ n.time) ∧
      past ++ [x] <+: decisions (.new [lockA, lockB] 200) ns ∧
      (x.1.kind = .create ∨ x.1.kind = .modify) ∧
      subject? (.new [lockA, lockB] 200) x.1 = some lockB ∧
      ¬ Recent 200 past lockB x.1.time := by
  intro ns past x
  have htimes : ns.Pairwise fun m n => m.time ≤ n.time := by decide
  have hx : past ++ [x] <+: decisions (.new [lockA, lockB] 200) ns := ⟨[], rfl⟩
  have hkind : x.1.kind = .create ∨ x.1.kind = .modify := .inr rfl
  exact ⟨htimes, hx, hkind,
    ((due_reported_iff [lockA, lockB] 200 htimes hx hkind).1 lockB).1 rfl⟩

/-- **A renaming can be missed**: the file that it is made from has just been reported, the file
that it makes has not been reported at all, and nothing is reported. -/
theorem renaming_misses_change :
    let ns : List Notice := [⟨.modify, [lockA], 0⟩, ⟨.modify, [lockA, lockB], 50⟩]
    let past : List (Notice × Option Path) := [(⟨.modify, [lockA], 0⟩, some lockA)]
    ns.Pairwise (fun m n => m.time ≤ n.time) ∧
      past ++ [(⟨.modify, [lockA, lockB], 50⟩, none)] = decisions (.new [lockA, lockB] 200) ns ∧
      Due (.new [lockA, lockB] 200) past ⟨.modify, [lockA, lockB], 50⟩ lockB :=
  ⟨by decide, rfl, by decide, by decide, by decide⟩

end ChangeFilter
end Switchboard
