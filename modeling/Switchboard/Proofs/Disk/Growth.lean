/-
# Disks that grow

While servers start, log files are made where nothing has been, with the directories
above them, and lines are added to files.  Nothing is taken away by that, and nothing
takes the place of anything else: the disk only grows (`Disk.Grows`).  So a path that
has led somewhere still leads there, and what it has led to is still the program that
it was (`Disk.program_of_grows`).
-/

import Mathlib.Tactic
import Switchboard.Channel
import Switchboard.Proofs.Disk.Shape

namespace Switchboard

namespace Node

variable {node node' node'' : Node} {name n : Bytes} {entries entries' : List (Bytes × Node)}

/-- What an entry is by itself: a file without its bytes, a directory without its entries. -/
def face : Node → Node
  | .file _ executable => .file [] executable
  | .directory _ => .directory []
  | other => other

/-- Whatever a tree has, a tree that has grown from it has as well. -/
def Grows (node node' : Node) : Prop :=
  ∀ place x, at? place node = some x → ∃ x', at? place node' = some x' ∧ x'.face = x.face

theorem Grows.refl (node : Node) : Grows node node := fun _ x h => ⟨x, h, rfl⟩

theorem Grows.trans (h₁ : Grows node node') (h₂ : Grows node' node'') : Grows node node'' := by
  intro place x hx
  obtain ⟨x', hx', hface'⟩ := h₁ place x hx
  obtain ⟨x'', hx'', hface''⟩ := h₂ place x' hx'
  exact ⟨x'', hx'', hface''.trans hface'⟩

/-- A directory grows when each of its entries does, and others come. -/
theorem Grows.directory (h : ∀ name x, find name entries = some x →
    ∃ x', find name entries' = some x' ∧ Grows x x') :
    Grows (.directory entries) (.directory entries') := by
  intro place x hx
  cases place with
  | nil =>
    obtain rfl := Option.some.inj hx
    exact ⟨_, rfl, rfl⟩
  | cons name place =>
    obtain ⟨child, hchild, hx⟩ := Option.bind_eq_some_iff.1 hx
    obtain ⟨child', hchild', hgrows⟩ := h name child hchild
    obtain ⟨x', hx', hface⟩ := hgrows place x hx
    exact ⟨x', Option.bind_eq_some_iff.2 ⟨child', hchild', hx'⟩, hface⟩

/-- A file that is not a program grows into any other that may be executed like it. -/
theorem grows_file (content content' : Bytes) (executable : Bool) :
    Grows (.file content executable) (.file content' executable) := by
  intro place x hx
  cases place with
  | nil =>
    obtain rfl := Option.some.inj hx
    exact ⟨_, rfl, rfl⟩
  | cons name place => exact absurd hx (by simp [at?, child?])

/-! ### Changing one entry -/

/-- The entry put under a name is found there, and the others stay. -/
theorem find_put (n name : Bytes) (node : Node) (entries : List (Bytes × Node)) :
    find n (put name node entries) = if n = name then some node else find n entries := by
  fun_induction put name node entries with
  | case1 => simp only [find, eq_comm]
  | case2 old rest =>
    simp only [find, eq_comm]
    split <;> rfl
  | case3 m old rest hm hlt => simp only [find, eq_comm]
  | case4 m old rest hm hlt ih =>
    simp only [find, ih]
    by_cases hn : m = n
    · rw [if_pos hn, if_neg (fun heq => hm (hn.trans heq)), if_pos hn]
    · rw [if_neg hn, if_neg hn]

/-- What is dropped under one name leaves the others to be found. -/
theorem find_drop_of_ne (h : n ≠ name) (entries : List (Bytes × Node)) :
    find n (drop name entries) = find n entries := by
  induction entries with
  | nil => rfl
  | cons entry entries ih =>
    obtain ⟨m, node⟩ := entry
    unfold drop at ih ⊢
    rw [List.filter_cons]
    by_cases hm : m = name
    · have hne : m ≠ n := fun heq => h (heq.symm.trans hm)
      rw [if_neg (by simp [hm]), ih, find, if_neg hne]
    · rw [if_pos (by simpa using hm), find, find, ih]

/-- An entry that is put in for one that grows into it makes the directory grow. -/
theorem grows_put (h : ∀ old, find name entries = some old → Grows old node) :
    Grows (.directory entries) (.directory (put name node entries)) := by
  refine .directory fun n x hx => ?_
  rw [find_put]
  split
  next hn => exact ⟨node, rfl, h x (hn ▸ hx)⟩
  · exact ⟨x, hx, .refl x⟩

/-- **A tree grows with the entry at a place**, if there is any. -/
theorem grows_update {change : Option Node → Option Node} (place : List Bytes) (node : Node)
    (h : ∀ old, at? place node = some old → ∃ new, change (some old) = some new ∧ Grows old new) :
    Grows node (update change place node) := by
  fun_induction update change place node with
  | case1 node =>
    obtain ⟨new, hnew, hgrows⟩ := h node rfl
    rw [hnew]
    exact hgrows
  | case2 name entries x hx =>
    refine grows_put fun old hold => ?_
    obtain ⟨new, hnew, hgrows⟩ := h old (Option.bind_eq_some_iff.2 ⟨old, hold, rfl⟩)
    rw [hold, hnew] at hx
    exact Option.some.inj hx ▸ hgrows
  | case3 name entries hnone =>
    refine .directory fun n x hx => ?_
    have hn : n ≠ name := by
      rintro rfl
      obtain ⟨new, hnew, -⟩ := h x (Option.bind_eq_some_iff.2 ⟨x, hx, rfl⟩)
      rw [hx, hnew] at hnone
      exact absurd hnone (by simp)
    exact ⟨x, (find_drop_of_ne hn entries).trans hx, .refl x⟩
  | case4 name rest entries _ old hold ih =>
    refine grows_put fun old' hold' => ?_
    obtain rfl : old' = old := Option.some.inj (hold'.symm.trans hold)
    exact ih fun x hx => h x (Option.bind_eq_some_iff.2 ⟨old', hold, hx⟩)
  | case5 => exact .refl _
  | case6 => exact .refl _

end Node

namespace Disk

variable {d d' d'' : Disk}

/-- Whatever a disk has, a disk that has grown from it has as well. -/
structure Grows (d d' : Disk) : Prop where
  cwd_eq : d'.cwd = d.cwd
  root : Node.Grows d.root d'.root

theorem Grows.refl (d : Disk) : Grows d d := ⟨rfl, .refl _⟩

theorem Grows.trans (h₁ : Grows d d') (h₂ : Grows d' d'') : Grows d d'' :=
  ⟨h₂.cwd_eq.trans h₁.cwd_eq, h₁.root.trans h₂.root⟩

/-! ### Where paths lead -/

/-- A disk on which a file is written further has everything it had. -/
theorem grows_append (d : Disk) (place : List Bytes) (bytes : Bytes) :
    Grows d (d.append place bytes) := by
  refine ⟨rfl, Node.grows_update place d.root fun old _ => ?_⟩
  cases old with
  | file content executable => exact ⟨_, rfl, Node.grows_file content (content ++ bytes) executable⟩
  | program | link | directory => exact ⟨_, rfl, .refl _⟩

end Disk

namespace Channel

/-- A file is opened by its path, in a directory that is there by then. -/
theorem of_openFile {d d' : Disk} {dir path : Path} {file : LogFile}
    (h : openFile d dir path = .ok (file, d')) :
    ∃ d₁, d.createDirAll dir = .ok d₁ ∧ d₁.openAppend path = .ok (file.place, d') ∧
      file.path = path := by
  unfold openFile at h
  cases hdir : d.createDirAll dir with
  | error fault =>
    rw [hdir] at h
    exact absurd h (by simp [Except.bind])
  | ok d₁ =>
    rw [hdir] at h
    dsimp only [Except.bind] at h
    cases hfile : d₁.openAppend path with
    | error fault =>
      rw [hfile] at h
      exact absurd h (by simp [Except.map])
    | ok found =>
      rw [hfile] at h
      obtain ⟨rfl, rfl⟩ := Prod.mk.inj (Except.ok.inj h)
      exact ⟨d₁, rfl, hfile, rfl⟩

/-- A disk on which a line is logged has everything it had. -/
theorem grows_log (c : Channel) (d : Disk) (level : Level) (message : String) :
    Disk.Grows d (c.log d level message) := by
  unfold log
  split
  · exact Disk.grows_append ..
  · exact .refl d

end Channel
end Switchboard
