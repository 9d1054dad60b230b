/-
# What a path is resolved to

Links and dots are gone from a resolved place: it is made of names
(`Disk.isName_of_resolve`).  So canonical paths that are equal component by
component are equal byte by byte (`Disk.canonical_eq_of_same`), and a path that
leads to a file has a canonical path.
-/

import Switchboard.Disk.Lookup
import Switchboard.Proofs.Path.Lexical

namespace Switchboard

/-! ### Names along a walk -/

namespace Disk

variable {d : Disk} {p q : Path} {here place : List Bytes}

/-- Names, innermost first, to which only segments without a separator can be added. -/
def Named (here : List Bytes) : Prop := ∀ n ∈ here, Path.IsName n

/-- Segments as a path is split into them. -/
def Parted (segments : List Bytes) : Prop := ∀ s ∈ segments, Path.separator ∉ s

/-- No segment of a path holds a separator. -/
theorem parted_segments (p : Path) : Parted p.segments :=
  fun _ hs => Pieces.not_mem_of_mem_splitOn hs

/-- A walk leads from names to names, if what links lead to does. -/
theorem named_walkFrom {root : Node} {last : Bool}
    {follow : List Bytes → List Bytes → Except DiskFault (List Bytes)}
    (hfollow : ∀ {here segments place}, Named here → Parted segments →
      follow here segments = .ok place → Named place)
    {segments : List Bytes} (hhere : Named here) (hsegments : Parted segments)
    (h : walkFrom root last follow here segments = .ok place) : Named place := by
  induction segments generalizing here with
  | nil => exact Except.ok.inj h ▸ hhere
  | cons segment rest ih =>
    obtain ⟨hsegment, hrest⟩ := List.forall_mem_cons.1 hsegments
    unfold walkFrom at h
    split at h
    · exact ih hhere hrest h
    next hplain =>
      split at h
      · exact ih (fun n hn => hhere n (List.mem_of_mem_drop hn)) hrest h
      next hup =>
        have hname : Path.IsName segment :=
          ⟨fun h => hplain (.inl h), fun h => hplain (.inr h), hup, hsegment⟩
        have hbelow : Named (segment :: here) := List.forall_mem_cons.2 ⟨hname, hhere⟩
        split at h
        · exact absurd h (by simp)
        · split at h
          · exact absurd h (by simp)
          · exact ih hbelow hrest h
          next target _ =>
            have hon : Parted (target.segments ++ rest) :=
              List.forall_mem_append.2 ⟨parted_segments target, hrest⟩
            split at h
            · exact Except.ok.inj h ▸ hbelow
            · split at h
              · exact hfollow (by simp [Named]) hon h
              · exact hfollow hhere hon h
          · split at h
            · exact Except.ok.inj h ▸ hbelow
            · exact absurd h (by simp)

/-- A walk arrives at a place that is made of names. -/
theorem named_walk {root : Node} {last : Bool} (links : Nat) {segments : List Bytes}
    (hhere : Named here) (hsegments : Parted segments)
    (h : walk root last links here segments = .ok place) : Named place := by
  induction links generalizing here segments place with
  | zero => exact named_walkFrom (fun _ _ h => absurd h (by simp)) hhere hsegments h
  | succ links ih => exact named_walkFrom ih hhere hsegments h

/-- **A resolved place is made of names.** -/
theorem isName_of_resolve {last : Bool} (hd : ∀ n ∈ d.cwd, Path.IsName n)
    (h : d.resolve last p = .ok place) : ∀ n ∈ place, Path.IsName n := by
  unfold resolve at h
  split at h
  · exact absurd h (by simp)
  · split at h
    · exact absurd h (by simp)
    · split at h
      · exact absurd h (by simp)
      · dsimp only at h
        have hstart : Named (if p.isAbsolute then [] else d.cwd.reverse) := by
          split
          · simp [Named]
          · exact fun n hn => hd n (List.mem_reverse.1 hn)
        cases hwalk : walk d.root last maxLinks (if p.isAbsolute then [] else d.cwd.reverse)
          p.segments with
        | error fault =>
          rw [hwalk] at h
          exact absurd h (by simp [Except.map])
        | ok found =>
          rw [hwalk] at h
          have hfound := named_walk maxLinks hstart (parted_segments p) hwalk
          obtain rfl : found.reverse = place := Except.ok.inj h
          exact fun n hn => hfound n (List.mem_reverse.1 hn)

/-- The path of a place has the root and the names of the place as components. -/
theorem components_pathOf (h : ∀ n ∈ place, Path.IsName n) :
    (pathOf place).components = .root :: place.map Path.Component.name := by
  cases place with
  | nil => decide
  | cons n place => exact Path.components_flatMap (by simp) h

/-- The canonical path is that of the place a path leads to. -/
theorem canonical_eq_ok_iff : d.canonical p = .ok q ↔
    ∃ place, d.resolve true p = .ok place ∧ q = pathOf place := by
  unfold canonical
  cases d.resolve true p with
  | error fault => simp [Except.map]
  | ok place => simp [Except.map, eq_comm]

/-- **Canonical paths that are equal component by component are the same path.** -/
theorem canonical_eq_of_same (hd : ∀ n ∈ d.cwd, Path.IsName n) {a b : Path}
    (ha : d.canonical p = .ok a) (hb : d.canonical q = .ok b) (h : a.same b = true) : a = b := by
  obtain ⟨place, hplace, rfl⟩ := canonical_eq_ok_iff.1 ha
  obtain ⟨place', hplace', rfl⟩ := canonical_eq_ok_iff.1 hb
  rw [Path.same, beq_iff_eq, components_pathOf (isName_of_resolve hd hplace),
    components_pathOf (isName_of_resolve hd hplace'), List.cons_inj_right] at h
  rw [List.map_injective_iff.2 (fun _ _ h => Path.Component.name.inj h) h]

/-- A path that leads to a file has a canonical path. -/
theorem exists_canonical_of_isFile (h : d.isFile p = true) : ∃ q, d.canonical p = .ok q := by
  unfold isFile node at h
  cases hplace : d.resolve true p with
  | error fault =>
    rw [hplace] at h
    exact absurd h (by simp)
  | ok place => exact ⟨pathOf place, canonical_eq_ok_iff.2 ⟨place, hplace, rfl⟩⟩

end Disk
end Switchboard
