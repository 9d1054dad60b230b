/-
# The shape of a file tree

Where paths lead, and which files there are, is a matter of the tree's shape
(`Node.shape`), not of what files hold or programs do.  Lines that are added to a
file leave the shape of a tidy tree as it is (`Disk.shape_append`), so whatever is
asked of the shape has the same answer before and after.
-/

import Switchboard.Disk.Edit
import Switchboard.Proofs.Path.Lexical
import Switchboard.Workspace.Scan

namespace Switchboard

/-- A program that does nothing. -/
def Behaviour.still : Behaviour := ⟨[], false, none, fun _ _ => .silent⟩

namespace Node

mutual

/-- An entry with other contents in its files and another behaviour of its programs. -/
def redraw (content : Bytes → Bytes) (voice : Behaviour → Behaviour) : Node → Node
  | .file bytes executable => .file (content bytes) executable
  | .program behaviour => .program (voice behaviour)
  | .link target => .link target
  | .directory entries => .directory (redraws content voice entries)

/-- Entries with other contents in their files and another behaviour of their programs. -/
def redraws (content : Bytes → Bytes) (voice : Behaviour → Behaviour) :
    List (Bytes × Node) → List (Bytes × Node)
  | [] => []
  | (name, node) :: rest => (name, redraw content voice node) :: redraws content voice rest

end

/-- An entry without the contents of files and without what programs do. -/
def shape (node : Node) : Node := node.redraw (fun _ => []) fun _ => .still

mutual

/-- Whether a tree is kept as a file tree is: names in order in every directory. -/
def tidy : Node → Bool
  | .directory entries => tidyIn entries
  | _ => true

/-- Whether entries have names that a path can spell, in ascending order and one
entry a name. -/
def tidyIn : List (Bytes × Node) → Bool
  | [] => true
  | (name, node) :: rest => decide (Path.IsName name) && node.tidy &&
      rest.all (fun entry => compare name entry.1 == .lt) && tidyIn rest

end

variable {name : Bytes} {node old : Node} {entries : List (Bytes × Node)}
  {content content' : Bytes → Bytes} {voice voice' : Behaviour → Behaviour}

/-- Entries are tidy when the first has a name, is tidy and comes before the others, and these are
tidy. -/
theorem tidyIn_cons {entry : Bytes × Node} : tidyIn (entry :: entries) = true ↔
    Path.IsName entry.1 ∧ entry.2.tidy = true ∧
      (∀ e ∈ entries, compare entry.1 e.1 = .lt) ∧ tidyIn entries = true := by
  obtain ⟨name, node⟩ := entry
  simp [tidyIn, and_assoc]

/-- The names of entries are part of their shape. -/
theorem all_redraws (test : Bytes → Bool) (entries : List (Bytes × Node)) :
    ((redraws content voice entries).all fun entry => test entry.1) =
      entries.all fun entry => test entry.1 := by
  induction entries with
  | nil => rfl
  | cons entry entries ih =>
    obtain ⟨name, node⟩ := entry
    exact congrArg (test name && ·) ih

/-! ### Asking for entries -/

/-- An entry that is looked for by its name is the redrawn one. -/
theorem find_redraws (name : Bytes) (entries : List (Bytes × Node)) :
    find name (redraws content voice entries) =
      (find name entries).map (redraw content voice) := by
  induction entries with
  | nil => rfl
  | cons entry entries ih =>
    obtain ⟨n, node⟩ := entry
    rw [redraws, find, find, ih]
    split <;> rfl

/-- The child of a redrawn entry is the redrawn child. -/
theorem child?_redraw (name : Bytes) (node : Node) :
    child? name (node.redraw content voice) = (child? name node).map (redraw content voice) := by
  cases node with
  | directory entries => exact find_redraws name entries
  | file | program | link => rfl

/-- At any place below a redrawn entry is the redrawn one. -/
theorem at?_redraw (place : List Bytes) (node : Node) :
    at? place (node.redraw content voice) = (at? place node).map (redraw content voice) := by
  induction place generalizing node with
  | nil => rfl
  | cons name place ih =>
    rw [at?, at?, child?_redraw]
    cases child? name node with
    | none => rfl
    | some child => exact ih child

/-- Redrawing makes no file and none that is not one. -/
theorem isFile_redraw (node : Node) : (node.redraw content voice).isFile = node.isFile := by
  cases node <;> rfl

mutual

/-- Redrawing twice is redrawing once. -/
theorem redraw_redraw (node : Node) : (node.redraw content voice).redraw content' voice' =
    node.redraw (content' ∘ content) (voice' ∘ voice) := by
  cases node with
  | directory entries => exact congrArg Node.directory (redraws_redraws entries)
  | file | program | link => rfl

/-- Redrawing entries twice is redrawing them once. -/
theorem redraws_redraws (entries : List (Bytes × Node)) :
    redraws content' voice' (redraws content voice entries) =
      redraws (content' ∘ content) (voice' ∘ voice) entries := by
  cases entries with
  | nil => rfl
  | cons entry entries =>
    obtain ⟨name, node⟩ := entry
    rw [redraws, redraws, redraws, redraw_redraw node, redraws_redraws entries]

end

/-- An entry that is found is among the entries. -/
theorem mem_of_find (h : find name entries = some node) : (name, node) ∈ entries := by
  induction entries with
  | nil => exact absurd h (by simp [find])
  | cons entry entries ih =>
    obtain ⟨n, x⟩ := entry
    rw [find] at h
    split at h
    next hn =>
      rw [hn, Option.some.inj h]
      exact List.mem_cons_self ..
    · exact List.mem_cons_of_mem _ (ih h)

/-- Dropping a name that is not there changes nothing. -/
theorem drop_of_find (h : find name entries = none) : drop name entries = entries := by
  refine List.filter_eq_self.2 fun entry hentry => ?_
  induction entries with
  | nil => exact absurd hentry List.not_mem_nil
  | cons first entries ih =>
    rw [find] at h
    split at h
    · exact absurd h (by simp)
    next hn =>
      rcases List.mem_cons.1 hentry with rfl | hentry
      · exact bne_iff_ne.2 hn
      · exact ih h hentry

/-- What is found among tidy entries is tidy. -/
theorem tidy_of_find (htidy : tidyIn entries = true) (hfind : find name entries = some node) :
    node.tidy = true := by
  induction entries with
  | nil => exact absurd hfind (by simp [find])
  | cons entry entries ih =>
    obtain ⟨-, hentry, -, htidy⟩ := tidyIn_cons.1 htidy
    rw [find] at hfind
    split at hfind
    · exact Option.some.inj hfind ▸ hentry
    · exact ih htidy hfind

/-- What is found below a tidy entry is tidy. -/
theorem tidy_of_at? {place : List Bytes} {x : Node} (htidy : node.tidy = true)
    (h : at? place node = some x) : x.tidy = true := by
  induction place generalizing node with
  | nil => exact Option.some.inj h ▸ htidy
  | cons name place ih =>
    obtain ⟨child, hchild, h⟩ := Option.bind_eq_some_iff.1 h
    refine ih ?_ h
    cases node with
    | directory entries => exact tidy_of_find htidy hchild
    | file | program | link => exact absurd hchild (by simp [child?])

/-! ### Changing what a file holds -/

/-- An entry put in for one of its shape leaves the shape of tidy entries as it is. -/
theorem redraws_put (htidy : tidyIn entries = true) (hfind : find name entries = some old)
    (hsame : node.redraw content voice = old.redraw content voice) :
    redraws content voice (put name node entries) = redraws content voice entries := by
  induction entries with
  | nil => exact absurd hfind (by simp [find])
  | cons entry entries ih =>
    obtain ⟨n, x⟩ := entry
    obtain ⟨-, -, hascending, htidy⟩ := tidyIn_cons.1 htidy
    rw [find] at hfind
    rw [put]
    split at hfind
    next hn =>
      obtain rfl := Option.some.inj hfind
      rw [if_pos hn, redraws, redraws, hn, hsame]
    next hn =>
      have hlt : compare n name = .lt := hascending _ (mem_of_find hfind)
      rw [if_neg hn, if_neg (by rw [Std.OrientedCmp.gt_of_lt hlt]; simp), redraws, redraws,
        ih htidy hfind]

/-- A change that keeps the shape of the entry at a place keeps that of the tree. -/
theorem redraw_update_of_eq {change : Option Node → Option Node}
    (hchange : ∀ o, (change o).map (redraw content voice) = o.map (redraw content voice))
    (place : List Bytes) (node : Node) (htidy : node.tidy = true) :
    (update change place node).redraw content voice = node.redraw content voice := by
  fun_induction update change place node with
  | case1 node =>
    obtain ⟨x, hx, hsame⟩ := Option.map_eq_some_iff.1 (hchange (some node))
    rw [hx]
    exact hsame
  | case2 name entries x hx =>
    obtain ⟨old, hold, hsame⟩ := Option.map_eq_some_iff.1
      ((hchange (find name entries)).symm.trans (congrArg _ hx))
    rw [redraw, redraw, redraws_put htidy hold hsame.symm]
  | case3 name entries hnone =>
    have hfind : find name entries = none := Option.map_eq_none_iff.1
      ((hchange (find name entries)).symm.trans (congrArg _ hnone))
    rw [drop_of_find hfind]
  | case4 name rest entries _ old hold ih =>
    rw [redraw, redraw, redraws_put htidy hold (ih (tidy_of_find htidy hold))]
  | case5 => rfl
  | case6 => rfl

/-- Redrawing entries after one has been put in, or before, comes to the same. -/
theorem put_redraws (name : Bytes) (node : Node) (entries : List (Bytes × Node)) :
    redraws content voice (put name node entries) =
      put name (node.redraw content voice) (redraws content voice entries) := by
  fun_induction put name node entries with
  | case1 => rfl
  | case2 old rest => rw [redraws, redraws, put, if_pos rfl]
  | case3 n old rest hn hlt => rw [redraws, redraws, put, if_neg hn, if_pos hlt]
  | case4 n old rest hn hlt ih => rw [redraws, redraws, put, if_neg hn, if_neg hlt, ih]

/-- Redrawing entries after one has been dropped, or before, comes to the same. -/
theorem drop_redraws (name : Bytes) (entries : List (Bytes × Node)) :
    redraws content voice (drop name entries) = drop name (redraws content voice entries) := by
  induction entries with
  | nil => rfl
  | cons entry entries ih =>
    obtain ⟨n, node⟩ := entry
    unfold drop at ih ⊢
    rw [redraws, List.filter_cons, List.filter_cons]
    split
    · rw [redraws, ih]
    · exact ih

/-- A change that a redrawn entry undergoes likewise changes the redrawn tree likewise. -/
theorem redraw_update {change change' : Option Node → Option Node}
    (hchange : ∀ o, (change o).map (redraw content voice) = change' (o.map (redraw content voice)))
    (place : List Bytes) (node : Node) :
    (update change place node).redraw content voice =
      update change' place (node.redraw content voice) := by
  fun_induction update change place node with
  | case1 node =>
    have hnode := hchange (some node)
    rw [Option.map_some] at hnode
    rw [update, ← hnode]
    cases change (some node) <;> rfl
  | case2 name entries x hx =>
    rw [redraw, redraw, update, find_redraws, ← hchange, hx, put_redraws]
    rfl
  | case3 name entries hnone =>
    rw [redraw, redraw, update, find_redraws, ← hchange, hnone, drop_redraws]
    rfl
  | case4 name rest entries hrest old hold ih =>
    rw [redraw, redraw, update, find_redraws, hold, put_redraws, ih]
    · rfl
    · exact hrest
  | case5 name rest entries hrest hnone =>
    rw [redraw, update, find_redraws, hnone]
    · rfl
    · exact hrest
  | case6 place node hplace _ hdirectory =>
    match place, node with
    | [], _ => exact absurd rfl hplace
    | name :: rest, .directory entries => exact absurd rfl (hdirectory name rest entries rfl)
    | [_], .file _ _ | [_], .program _ | [_], .link _ => rfl
    | _ :: _ :: _, .file _ _ | _ :: _ :: _, .program _ | _ :: _ :: _, .link _ => rfl

mutual

/-- Whether an entry is tidy does not depend on contents. -/
theorem tidy_redraw (node : Node) : (node.redraw content voice).tidy = node.tidy := by
  cases node with
  | directory entries => exact tidyIn_redraws entries
  | file | program | link => rfl

/-- Whether entries are tidy does not depend on contents. -/
theorem tidyIn_redraws (entries : List (Bytes × Node)) :
    tidyIn (redraws content voice entries) = tidyIn entries := by
  cases entries with
  | nil => rfl
  | cons entry entries =>
    obtain ⟨name, node⟩ := entry
    rw [redraws, tidyIn, tidyIn, tidy_redraw node, tidyIn_redraws entries,
      all_redraws fun n => compare name n == .lt]

end

end Node

namespace Scan

variable {content : Bytes → Bytes} {voice : Behaviour → Behaviour}

mutual

/-- The files below an entry have the names that they have had. -/
theorem filesOf_redraw (node : Node) : filesOf (node.redraw content voice) = filesOf node := by
  cases node with
  | directory entries => exact filesIn_redraws entries
  | file | program | link => rfl

/-- The files below entries have the names that they have had. -/
theorem filesIn_redraws (entries : List (Bytes × Node)) :
    filesIn (Node.redraws content voice entries) = filesIn entries := by
  cases entries with
  | nil => rfl
  | cons entry entries =>
    obtain ⟨name, node⟩ := entry
    rw [Node.redraws, filesIn, filesIn, filesOf_redraw node, filesIn_redraws entries]

end

end Scan

namespace Disk

variable {d d' : Disk} {content content' : Bytes → Bytes} {voice voice' : Behaviour → Behaviour}

/-- A disk with other contents in its files and another behaviour of its programs. -/
def redraw (content : Bytes → Bytes) (voice : Behaviour → Behaviour) (d : Disk) : Disk :=
  { d with root := d.root.redraw content voice }

/-- A disk without the contents of files and without what programs do. -/
def shape (d : Disk) : Disk := d.redraw (fun _ => []) fun _ => .still

/-- A disk as it is kept: its tree is tidy, and the working directory is known by names. -/
structure Tidy (d : Disk) : Prop where
  root : d.root.tidy = true
  cwd : ∀ n ∈ d.cwd, Path.IsName n

/-! ### Asking where paths lead -/

/-- A walk along segments leads where it has led, as long as links do. -/
theorem walkFrom_redraw (root : Node) (last : Bool)
    (follow : List Bytes → List Bytes → Except DiskFault (List Bytes))
    (here segments : List Bytes) :
    walkFrom (root.redraw content voice) last follow here segments =
      walkFrom root last follow here segments := by
  induction segments generalizing here with
  | nil => rfl
  | cons segment rest ih =>
    have hchild : (Node.at? here.reverse (root.redraw content voice)).bind
        (Node.child? segment) = ((Node.at? here.reverse root).bind
          (Node.child? segment)).map (Node.redraw content voice) := by
      rw [Node.at?_redraw]
      cases Node.at? here.reverse root with
      | none => rfl
      | some node => exact Node.child?_redraw segment node
    unfold walkFrom
    rw [hchild, ih, ih, ih]
    cases (Node.at? here.reverse root).bind (Node.child? segment) with
    | none => rfl
    | some node => cases node <;> rfl

/-- A walk leads where it has led, whatever links it follows. -/
theorem walk_redraw (root : Node) (last : Bool) (links : Nat) (here segments : List Bytes) :
    walk (root.redraw content voice) last links here segments =
      walk root last links here segments := by
  induction links generalizing here segments with
  | zero => exact walkFrom_redraw ..
  | succ links ih =>
    have hfollow : walk (root.redraw content voice) last links = walk root last links :=
      funext fun here => funext fun segments => ih here segments
    rw [walk, walk, hfollow]
    exact walkFrom_redraw ..

/-- A path leads where it has led. -/
theorem resolve_redraw (d : Disk) (last : Bool) (p : Path) :
    (d.redraw content voice).resolve last p = d.resolve last p := by
  rw [resolve, resolve]
  dsimp only [redraw]
  rw [walk_redraw]

/-- A path leads to the redrawn entry. -/
theorem node_redraw (d : Disk) (last : Bool) (p : Path) :
    (d.redraw content voice).node last p = (d.node last p).map (Node.redraw content voice) := by
  rw [node, node, resolve_redraw]
  cases d.resolve last p with
  | error fault => rfl
  | ok place =>
    dsimp only [ entry?, redraw]
    rw [Node.at?_redraw]
    cases Node.at? place d.root <;> rfl

/-- Redrawing twice is redrawing once. -/
theorem redraw_redraw (d : Disk) : (d.redraw content voice).redraw content' voice' =
    d.redraw (content' ∘ content) (voice' ∘ voice) :=
  congrArg (Disk.mk · d.cwd d.platform) (Node.redraw_redraw d.root)

/-- **Where a path leads is a matter of shape.** -/
theorem resolve_of_shape (h : d'.shape = d.shape) (last : Bool) (p : Path) :
    d'.resolve last p = d.resolve last p := by
  rw [← resolve_redraw d', ← shape, h, shape, resolve_redraw]

/-- **Whether a path leads to a file is a matter of shape.** -/
theorem isFile_of_shape (h : d'.shape = d.shape) (p : Path) : d'.isFile p = d.isFile p := by
  have hshape : ∀ d : Disk, d.shape.isFile p = d.isFile p := by
    intro d
    rw [shape, isFile, isFile, node_redraw]
    cases d.node true p with
    | error fault => rfl
    | ok node => exact node.isFile_redraw
  rw [← hshape, h, hshape]

/-- A path has the same canonical path on disks of one shape. -/
theorem canonical_of_shape (h : d'.shape = d.shape) (p : Path) :
    d'.canonical p = d.canonical p := by rw [canonical, canonical, resolve_of_shape h]

/-- **Which files are below a folder is a matter of shape.** -/
theorem filesBelow_of_shape (h : d'.shape = d.shape) (root : Path) :
    Scan.filesBelow d' root = Scan.filesBelow d root := by
  have hshape : ∀ d : Disk, Scan.filesBelow d.shape root = Scan.filesBelow d root := by
    intro d
    rw [shape, Scan.filesBelow, Scan.filesBelow, node_redraw]
    cases d.node true root with
    | error fault => rfl
    | ok node => exact congrArg (ite _ _) (Scan.filesOf_redraw node)
  rw [← hshape, h, hshape]

/-- The platform belongs to the shape. -/
theorem platform_of_shape (h : d'.shape = d.shape) : d'.platform = d.platform :=
  (Disk.mk.inj h).2.2

/-- Whether a disk is tidy is a matter of shape. -/
theorem Tidy.of_shape (hd : d.Tidy) (h : d'.shape = d.shape) : d'.Tidy := by
  obtain ⟨hroot, hcwd, -⟩ := Disk.mk.inj h
  refine ⟨?_, hcwd ▸ hd.cwd⟩
  rw [← Node.tidy_redraw, hroot, Node.tidy_redraw]
  exact hd.root

/-- What a path leads to on a tidy disk is tidy. -/
theorem tidy_of_node {node : Node} {last : Bool} {p : Path} (hd : d.Tidy)
    (h : d.node last p = .ok node) : node.tidy = true := by
  unfold Disk.node at h
  split at h
  · exact absurd h (by simp)
  · split at h
    next hentry => exact Except.ok.inj h ▸ Node.tidy_of_at? hd.root hentry
    · exact absurd h (by simp)

/-! ### Lines that are added to a file -/

/-- **What is added to a file leaves the shape of a tidy disk as it is.** -/
theorem shape_append (hd : d.Tidy) (place : List Bytes) (bytes : Bytes) :
    (d.append place bytes).shape = d.shape := by
  refine congrArg (Disk.mk · d.cwd d.platform)
    (Node.redraw_update_of_eq (fun o => ?_) place d.root hd.root)
  cases o with
  | none => rfl
  | some node => cases node <;> rfl

end Disk
end Switchboard
