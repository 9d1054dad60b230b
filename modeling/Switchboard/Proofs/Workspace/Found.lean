/-
# What a scan finds, and in which order

A scan of a folder finds the regular files that names lead to from directory to directory,
none of these names passed over and the last one wanted (`Scan.Finds`).  It finds them in
the order of the names that lead to them, goes on folder by folder, and keeps the first of
the paths that are the same (`Scan.Found`).  That is so of manifests and of lock files
(`Scan.manifests_and_lockFiles_found`).  What is passed over is passed over whatever it is:
a file called `.git` is not found either (`Scan.odd_names_and_folders`).
-/

import Switchboard.Proofs.Glob.Choice
import Switchboard.Proofs.Text.Lossy
import Switchboard.Proofs.Workspace.Scanned

namespace Switchboard
namespace Scan

variable {d : Disk} {root : Path} {roots : List Path} {names : List Bytes}

/-! ### Names that lead to a file -/

/-- Exactly two names are passed over. -/
theorem isSkipped_iff (name : Bytes) :
    isSkipped name = true ↔ name = Utf8.encode ".git" ∨ name = Utf8.encode "node_modules" := by
  rw [isSkipped, Bool.or_eq_true, beq_iff_eq, beq_iff_eq, Utf8.lossy_eq_iff (by decide),
    Utf8.lossy_eq_iff (by decide)]

/-- Whether names lead to a regular file and none of them is passed over. -/
def LeadsToFile (names : List Bytes) (node : Node) : Prop :=
  (∃ x, Node.at? names node = some x ∧ x.isFile = true) ∧ ∀ n ∈ names, isSkipped n = false

/-- Where no name is left it is the entry itself that is the file. -/
theorem leadsToFile_nil_iff {node : Node} : LeadsToFile [] node ↔ node.isFile = true := by
  simp [LeadsToFile, Node.at?]

/-- The first name leads to an entry that is not passed over, and the others on from there. -/
theorem leadsToFile_cons_iff {n : Bytes} {entries : List (Bytes × Node)} :
    LeadsToFile (n :: names) (.directory entries) ↔
      isSkipped n = false ∧
        ∃ child, Node.find n entries = some child ∧ LeadsToFile names child := by
  unfold LeadsToFile
  rw [List.forall_mem_cons, Node.at?, Node.child?]
  cases Node.find n entries <;> simp [and_left_comm]

/-- A name that comes before all entries is not found. -/
theorem find_eq_none {n : Bytes} {entries : List (Bytes × Node)}
    (h : ∀ e ∈ entries, compare n e.1 = .lt) : Node.find n entries = none := by
  induction entries with
  | nil => rfl
  | cons entry entries ih =>
    obtain ⟨hentry, hentries⟩ := List.forall_mem_cons.1 h
    have hself : compare entry.1 entry.1 = .eq := Std.ReflCmp.compare_self
    rw [Node.find, if_neg, ih hentries]
    rintro rfl
    exact absurd (hself.symm.trans hentry) (by decide)

/-- What a scan finds below an entry of a directory. -/
def filesUnder (name : Bytes) (node : Node) : List (List Bytes) :=
  if isSkipped name then [] else (filesOf node).map (name :: ·)

/-- The files in some entries are those under the first and those in the others. -/
theorem filesIn_cons (name : Bytes) (node : Node) (entries : List (Bytes × Node)) :
    filesIn ((name, node) :: entries) = filesUnder name node ++ filesIn entries := rfl

/-- A file under an entry is reached by its name and a file of the entry. -/
theorem mem_filesUnder_iff {name : Bytes} {node : Node} : names ∈ filesUnder name node ↔
    isSkipped name = false ∧ ∃ below ∈ filesOf node, name :: below = names := by
  unfold filesUnder
  split <;> simp_all

mutual

/-- A scan finds what names lead to, if none of them is passed over. -/
theorem mem_filesOf_iff {node : Node} (h : node.tidy = true) (names : List Bytes) :
    names ∈ filesOf node ↔ LeadsToFile names node := by
  cases node with
  | directory entries => exact mem_filesIn_iff h names
  | file | program | link =>
    cases names <;> simp [filesOf, LeadsToFile, Node.at?, Node.child?, Node.isFile]

/-- The files in tidy entries are those that names lead to. -/
theorem mem_filesIn_iff {entries : List (Bytes × Node)} (h : Node.tidyIn entries = true)
    (names : List Bytes) : names ∈ filesIn entries ↔ LeadsToFile names (.directory entries) := by
  cases entries with
  | nil =>
    cases names <;> simp [filesIn, LeadsToFile, Node.at?, Node.child?, Node.find, Node.isFile]
  | cons entry entries =>
    obtain ⟨name, node⟩ := entry
    obtain ⟨-, hnode, hascending, hentries⟩ := Node.tidyIn_cons.1 h
    rw [filesIn_cons, List.mem_append, mem_filesUnder_iff, mem_filesIn_iff hentries names]
    cases names with
    | nil => simp [leadsToFile_nil_iff, Node.isFile]
    | cons n names =>
      rw [leadsToFile_cons_iff, leadsToFile_cons_iff, Node.find]
      by_cases hn : name = n
      · subst hn
        simp [find_eq_none hascending, mem_filesOf_iff hnode names]
      · simp [hn]

end

/-! ### The order -/

/-- Names that come before others: of the first that differ theirs is the smaller one. -/
def Before : List Bytes → List Bytes → Prop := List.Lex fun m n => compare m n = .lt

mutual

/-- Files are found in the order of the names that lead to them. -/
theorem pairwise_filesOf {node : Node} (h : node.tidy = true) : (filesOf node).Pairwise Before := by
  cases node with
  | directory entries => exact pairwise_filesIn h
  | file | program => exact List.pairwise_singleton ..
  | link => exact .nil

/-- The files in tidy entries come in the order of their names. -/
theorem pairwise_filesIn {entries : List (Bytes × Node)} (h : Node.tidyIn entries = true) :
    (filesIn entries).Pairwise Before := by
  cases entries with
  | nil => exact .nil
  | cons entry entries =>
    obtain ⟨name, node⟩ := entry
    obtain ⟨-, hnode, hascending, hentries⟩ := Node.tidyIn_cons.1 h
    rw [filesIn_cons, List.pairwise_append]
    refine ⟨?_, pairwise_filesIn hentries, fun front hfront back hback => ?_⟩
    · unfold filesUnder
      split
      · exact .nil
      · exact (pairwise_filesOf hnode).map _ fun _ _ => .cons
    · obtain ⟨-, below, -, rfl⟩ := mem_filesUnder_iff.1 hfront
      have hleads := (mem_filesIn_iff hentries back).1 hback
      cases back with
      | nil => exact absurd (leadsToFile_nil_iff.1 hleads) (by simp [Node.isFile])
      | cons n back =>
        obtain ⟨-, child, hchild, -⟩ := leadsToFile_cons_iff.1 hleads
        exact .rel (hascending _ (Node.mem_of_find hchild))

end

/-- The files below a root of a tidy disk come in the order of their names. -/
theorem pairwise_filesBelow (hd : d.Tidy) (root : Path) : (filesBelow d root).Pairwise Before := by
  unfold filesBelow
  split
  · exact .nil
  · split
    next node hnode => exact pairwise_filesOf (Disk.tidy_of_node hd hnode)
    next => exact .nil

/-! ### Paths that are the same -/

/-- What does not tell same paths apart may be asked before or after. -/
theorem distinct_filter {test : Path → Bool}
    (htest : ∀ p q : Path, q.same p = true → test q = test p) (ps : List Path) :
    distinct (ps.filter test) = (distinct ps).filter test := by
  induction ps with
  | nil => rfl
  | cons p ps ih =>
    rw [List.filter_cons, distinct]
    split
    next hp =>
      rw [distinct, ih, List.filter_cons, if_pos hp, List.filter_filter, List.filter_filter]
      simp only [Bool.and_comm]
    next hp =>
      rw [ih, List.filter_cons, if_neg hp, List.filter_filter]
      refine List.filter_congr fun q _ => ?_
      cases hsame : q.same p with
      | true => rw [htest p q hsame, Bool.eq_false_iff.2 hp]; rfl
      | false => exact (Bool.and_true _).symm

/-- Of the paths that are the same the first one is kept. -/
theorem distinct_eq_eraseDupsBy (ps : List Path) : distinct ps = ps.eraseDupsBy Path.same := by
  induction hlen : ps.length using Nat.strong_induction_on generalizing ps with
  | h n ih =>
    cases ps with
    | nil => rfl
    | cons p ps =>
      have hsame : ∀ q r : Path, r.same q = true → (!r.same p) = !q.same p := by
        intro q r hrq
        have heq : r.components = q.components := beq_iff_eq.1 hrq
        rw [Path.same, Path.same, heq]
      have hshort : (ps.filter fun q => !q.same p).length < n := by
        rw [← hlen]
        exact Nat.lt_succ_of_le (List.length_filter_le ..)
      rw [distinct, List.eraseDupsBy_cons, ← distinct_filter hsame, ih _ hshort _ rfl]
      simp

/-! ### What a scan finds -/

/-- Whether a scan that looks for files with some names is to find what names lead to from a
folder: it is not standard input that is meant, the folder is a directory or a link to one, the
names lead from directory to directory in it to a regular file, none of them is passed over,
and the last one is wanted. -/
structure Finds (d : Disk) (wanted : Bytes → Prop) (root : Path) (names : List Bytes) : Prop where
  isFolder : root.same standardInput = false
  leads : ∃ entries x, d.node true root = .ok (.directory entries) ∧
    Node.at? names (.directory entries) = some x ∧ x.isFile = true
  entered : ∀ n ∈ names, n ≠ Utf8.encode ".git" ∧ n ≠ Utf8.encode "node_modules"
  isWanted : ∃ n, names.getLast? = some n ∧ wanted n

/-- Whether some paths are those that a scan of folders is to find, in their order: folder by
folder, in a folder in the order of the names that lead to them, each behind the folder's path,
and of the paths that are the same the first. -/
def Found (d : Disk) (wanted : Bytes → Prop) (roots ps : List Path) : Prop :=
  ∃ found : Path → List (List Bytes),
    (∀ root ∈ roots, (found root).Pairwise Before ∧
      ∀ names, names ∈ found root ↔ Finds d wanted root names) ∧
    ps = (roots.flatMap fun root => (found root).map fun names =>
      names.foldl (fun p n => p.join ⟨n⟩) root).eraseDupsBy Path.same

/-- The files below a root are those that names lead to, if the root is not standard input. -/
theorem mem_filesBelow_iff (hd : d.Tidy) : names ∈ filesBelow d root ↔
    root.same standardInput = false ∧ ∃ node, d.node true root = .ok node ∧
      LeadsToFile names node := by
  unfold filesBelow
  split
  next hinput => simp [hinput]
  next hinput =>
    rw [Bool.not_eq_true] at hinput
    split
    next node hnode =>
      rw [mem_filesOf_iff (Disk.tidy_of_node hd hnode)]
      simp [hinput, hnode]
    next hfault => simp [hfault]

/-- A scan is to find what is below a folder and is wanted. -/
theorem finds_iff (hd : d.Tidy) {wanted : Bytes → Prop} : Finds d wanted root names ↔
    names ∈ filesBelow d root ∧ ∃ n, names.getLast? = some n ∧ wanted n := by
  have hentered : (∀ n ∈ names, isSkipped n = false) ↔
      ∀ n ∈ names, n ≠ Utf8.encode ".git" ∧ n ≠ Utf8.encode "node_modules" := by
    simp only [← Bool.not_eq_true, isSkipped_iff, not_or]
  rw [mem_filesBelow_iff hd]
  constructor
  · rintro ⟨hfolder, ⟨entries, x, hroot, hleads⟩, hnames, hwanted⟩
    exact ⟨⟨hfolder, _, hroot, ⟨x, hleads⟩, hentered.2 hnames⟩, hwanted⟩
  · rintro ⟨⟨hfolder, node, hroot, ⟨x, hat, hfile⟩, hnames⟩, n, hlast, hwanted⟩
    refine ⟨hfolder, ?_, hentered.1 hnames, n, hlast, hwanted⟩
    cases names with
    | nil => exact absurd hlast (by simp)
    | cons name names =>
      cases node with
      | directory entries => exact ⟨entries, x, hroot, hat, hfile⟩
      | file | program | link => exact absurd hat (by simp [Node.at?, Node.child?])

/-- A scan finds what it is to find if its pattern takes what is wanted, and no folder itself. -/
theorem found_files (hd : d.Tidy) {pattern : Glob.Pattern} {wanted : Bytes → Prop}
    (h : ∀ root ∈ roots, ∀ names ∈ filesBelow d root, (∀ n ∈ names, Path.IsName n) →
      (pattern.isMatch (relative names) = true ↔ ∃ n, names.getLast? = some n ∧ wanted n)) :
    Found d wanted roots (files d pattern roots) := by
  refine ⟨fun root => (filesBelow d root).filter fun names => pattern.isMatch (relative names),
    fun root hroot => ⟨(pairwise_filesBelow hd root).filter _, fun names => ?_⟩,
    distinct_eq_eraseDupsBy _⟩
  rw [List.mem_filter, finds_iff hd]
  exact and_congr_right fun hnames => h root hroot names hnames (isName_of_filesBelow hd hnames)

/-- A folder that is no file itself is not among what is found below it. -/
theorem ne_nil_of_filesBelow (hd : d.Tidy) (hroot : d.isFile root = false)
    (h : names ∈ filesBelow d root) : names ≠ [] := by
  rintro rfl
  obtain ⟨-, node, hnode, hleads⟩ := (mem_filesBelow_iff hd).1 h
  rw [Disk.isFile, hnode] at hroot
  exact absurd (leadsToFile_nil_iff.1 hleads) (by simp [hroot])

/-- The pattern of what is below a directory of installed packages. -/
def installedPattern : Glob.Pattern :=
  ⟨.anyFront :: ("node_modules".toList.map .literal ++ [.anyEnd]), false⟩

/-- The pattern is what the text for it compiles to. -/
theorem compile_installed : Glob.compile "**/node_modules/**" false = .ok installedPattern := rfl

/-- Nothing that is found matches that pattern, for such directories are not entered. -/
theorem not_isMatch_installed (hd : d.Tidy) (h : names ∈ filesBelow d root) :
    installedPattern.isMatch (relative names) = false := by
  have hnames := isName_of_filesBelow hd h
  obtain ⟨-, node, -, -, hentered⟩ := (mem_filesBelow_iff hd).1 h
  have hmodules : (Utf8.encode "node_modules").splitOn Glob.slash =
      [Utf8.encode "node_modules"] := List.splitOn_eq_singleton (by decide)
  -- Such a directory would be one of the names, and none of these is passed over.
  have hnone : Utf8.encode "node_modules" ∉ (relative names).splitOn Glob.slash := by
    intro hmem
    change _ ∈ (relative names).splitOn Path.separator at hmem
    cases names with
    | nil => exact absurd hmem (by decide)
    | cons n names =>
      rw [relative, List.splitOn_intercalate Path.separator (fun m hm => (hnames m hm).2.2.2)
        (by simp)] at hmem
      exact absurd (hentered _ hmem) (by rw [(isSkipped_iff _).2 (.inr rfl)]; simp)
  rw [← Bool.not_eq_true, installedPattern, Glob.isMatch_anyFront_iff (by simp)
    (Glob.beforeTokens_literals_append (Glob.beforeTokens_anyEnd _) _), ← Glob.encode_eq_flatMap]
  simp only [Glob.startsWithBytes_slash_iff]
  rintro (⟨rest, htext⟩ | ⟨front, _, htext, rest, rfl⟩)
  · rw [← htext, ← List.append_cons, List.splitOn_append_cons_self, hmodules] at hnone
    exact hnone (List.mem_append_left _ (List.mem_singleton_self _))
  · rw [htext, ← List.append_cons, List.splitOn_append_cons_self, List.splitOn_append_cons_self,
      hmodules] at hnone
    exact hnone (List.mem_append_right _ (List.mem_append_left _ (List.mem_singleton_self _)))

/-- The text of names ends with a name. -/
theorem relative_ends (hne : names ≠ []) (h : ∀ n ∈ names, Path.IsName n) :
    ∃ front b, Path.IsName b ∧ relative names = front ++ b := by
  obtain ⟨b, hlast⟩ := Option.isSome_iff_exists.1 (List.getLast?_isSome.2 hne)
  have hb := h b (List.mem_of_getLast? hlast)
  obtain htext | ⟨front, htext⟩ := (relative_endsWith_iff h hb.1 hb.2.2.2).2 hlast
  · exact ⟨[], b, hb, htext⟩
  · exact ⟨front ++ [Glob.slash], b, hb, htext.trans (List.append_cons ..)⟩

/-- The pattern of lock files takes exactly the names whose last one is that of a lock file,
unless no name is given and a folder itself is found. -/
theorem isMatch_lockPattern_iff {lockNames : List String}
    (hplain : ∀ n ∈ lockNames, Glob.isPlain n = true)
    (hsome : (∃ n ∈ lockNames, n ≠ "") ∨ names ≠ []) (h : ∀ n ∈ names, Path.IsName n) :
    (Glob.choice (lockNames.map String.toList)).isMatch (relative names) = true ↔
      ∃ n, names.getLast? = some n ∧ ∃ name ∈ lockNames, n = Utf8.encode name := by
  have hsep : ∀ name ∈ lockNames, Path.separator ∉ Utf8.encode name := fun name hname hmem =>
    (Glob.isPlain_iff.1 (hplain name hname)).1 (Utf8.separator_mem_encode_iff.1 hmem)
  -- No file has the empty name, so it does not matter whether it is given among others.
  have hnonempty : ∀ name : String, names.getLast? = some (Utf8.encode name) → name ≠ "" := by
    rintro _ hlast rfl
    exact (h _ (List.mem_of_getLast? hlast)).1 rfl
  by_cases hgiven : ∃ n ∈ lockNames, n ≠ ""
  · rw [Glob.isMatch_choice_iff hgiven]
    constructor
    · rintro ⟨name, hname, hne, htext⟩
      exact ⟨_, (relative_endsWith_iff h (Utf8.encode_ne_nil hne) (hsep name hname)).1 htext, name,
        hname, rfl⟩
    · rintro ⟨_, hlast, name, hname, rfl⟩
      have hne := hnonempty name hlast
      exact ⟨name, hname, hne,
        (relative_endsWith_iff h (Utf8.encode_ne_nil hne) (hsep name hname)).2 hlast⟩
  · have hempty : ∀ n ∈ lockNames, n = "" := fun n hn => not_not.1 fun hne => hgiven ⟨n, hn, hne⟩
    rw [Glob.isMatch_choice_empty hempty]
    refine iff_of_false ?_ ?_
    · obtain ⟨front, b, hb, htext⟩ := relative_ends (hsome.resolve_left hgiven) h
      rintro (hnil | ⟨front', hslash⟩)
      · exact hb.1 (List.append_eq_nil_iff.1 (htext.symm.trans hnil)).2
      · refine Path.getLast?_of_isName hb front ?_
        rw [← htext, hslash]
        exact List.getLast?_concat
    · rintro ⟨_, hlast, name, hname, rfl⟩
      exact hnonempty name hlast (hempty name hname)

/-- **Manifests and lock files are found where they are**, and in order: `Found` says where and
in which.  The names of lock files hold no separator and nothing that is special in patterns;
one of them at least is not empty, or no folder is itself a file.  To leave out what is below a
directory of installed packages would change nothing, for none is entered. -/
theorem manifests_and_lockFiles_found (hd : d.Tidy) (roots : List Path) {lockNames : List String}
    (hplain : ∀ n ∈ lockNames, Glob.isPlain n = true)
    (hsome : (∃ n ∈ lockNames, n ≠ "") ∨ ∀ root ∈ roots, d.isFile root = false) :
    Found d (fun n => n = Utf8.encode "package.json") roots (manifests d roots) ∧
      ∃ ps, lockFiles d roots lockNames = .ok ps ∧
        Found d (fun n => ∃ name ∈ lockNames, n = Utf8.encode name) roots ps ∧
        ∀ root ∈ roots, ∀ names ∈ filesBelow d root,
          installedPattern.isMatch (relative names) = false := by
  refine ⟨found_files hd fun root _ names _ hnames => ?_,
    files d (Glob.choice (lockNames.map String.toList)) roots, ?_,
    found_files hd fun root hroot names hbelow hnames => ?_,
    fun root _ names hbelow => not_isMatch_installed hd hbelow⟩
  · rw [isMatch_manifestPattern_iff hnames]
    exact ⟨fun hlast => ⟨_, hlast, rfl⟩, fun ⟨_, hlast, hn⟩ => hn ▸ hlast⟩
  · rw [lockFiles, lockPattern, Glob.compile_choice hplain]
    rfl
  · exact isMatch_lockPattern_iff hplain
      (hsome.imp_right fun h => ne_nil_of_filesBelow hd (h root hroot) hbelow) hnames

/-- Folders that overlap, one of them by way of a link. -/
def overlapping : Disk :=
  let file (name : String) : Bytes × Node := (Utf8.encode name, .file [] false)
  let directory (name : String) (entries : List (Bytes × Node)) : Bytes × Node :=
    (Utf8.encode name, .directory entries)
  ⟨.directory [directory "w" [directory ".git" [file "package.json"],
    directory "a" [file "package.json", file "yarn.lock"],
    (Utf8.encode "link", .link (Path.ofText "/w/a")),
    directory "node_modules" [file "package.json"], file "package.json"]], [], Platform.linux⟩

/-- What is reached from two of them is found once. -/
theorem found_in_overlapping :
    overlapping.Tidy ∧
      (∀ n ∈ ["yarn.lock", ""], Glob.isPlain n = true) ∧
      (∃ n ∈ ["yarn.lock", ""], n ≠ "") ∧
      Found overlapping (fun n => n = Utf8.encode "package.json")
        [Path.ofText "/w", Path.ofText "/w/link", Path.ofText "/w/a"]
        [Path.ofText "/w/a/package.json", Path.ofText "/w/package.json",
          Path.ofText "/w/link/package.json"] ∧
      Found overlapping (fun n => ∃ name ∈ ["yarn.lock", ""], n = Utf8.encode name)
        [Path.ofText "/w", Path.ofText "/w/link", Path.ofText "/w/a"]
        [Path.ofText "/w/a/yarn.lock", Path.ofText "/w/link/yarn.lock"] := by
  have htidy : overlapping.Tidy := ⟨by decide +kernel, by decide⟩
  have hplain : ∀ n ∈ ["yarn.lock", ""], Glob.isPlain n = true := by decide +kernel
  have hsome : ∃ n ∈ ["yarn.lock", ""], n ≠ "" := ⟨"yarn.lock", by simp, by decide⟩
  have hmanifests : manifests overlapping [Path.ofText "/w", Path.ofText "/w/link",
      Path.ofText "/w/a"] = [Path.ofText "/w/a/package.json", Path.ofText "/w/package.json",
        Path.ofText "/w/link/package.json"] := by decide +kernel
  have hlockFiles : lockFiles overlapping [Path.ofText "/w", Path.ofText "/w/link",
      Path.ofText "/w/a"] ["yarn.lock", ""] = .ok [Path.ofText "/w/a/yarn.lock",
        Path.ofText "/w/link/yarn.lock"] := by decide +kernel
  obtain ⟨hfound, ps, hps, hlocks, -⟩ := manifests_and_lockFiles_found htidy
    [Path.ofText "/w", Path.ofText "/w/link", Path.ofText "/w/a"] hplain (.inl hsome)
  rw [hlockFiles] at hps
  rw [hmanifests] at hfound
  exact ⟨htidy, hplain, hsome, hfound, Except.ok.inj hps ▸ hlocks⟩

/-- A folder whose `.git` is a file, and a folder called `-`. -/
def withOddNames : Disk :=
  ⟨.directory [
    (Utf8.encode "-", .directory [(Utf8.encode "package.json", .file [] false)]),
    (Utf8.encode "w", .directory [(Utf8.encode ".git", .file [] false)])], [], Platform.linux⟩

/-- A file that is called `.git` is not found even if it is looked for, nor is anything in a
folder called `-`; and a folder that is a file is found itself where no name is given. -/
theorem odd_names_and_folders :
    withOddNames.Tidy ∧ Glob.isPlain ".git" = true ∧
      (withOddNames.node true (Path.ofText "/w")).map Node.isDirectory = .ok true ∧
      (withOddNames.node false (Path.ofText "/w/.git")).map Node.isFile = .ok true ∧
      lockFiles withOddNames [Path.ofText "/w"] [".git"] = .ok [] ∧
      (withOddNames.node true (Path.ofText "-")).map Node.isDirectory = .ok true ∧
      (withOddNames.node false (Path.ofText "-/package.json")).map Node.isFile = .ok true ∧
      manifests withOddNames [Path.ofText "-"] = [] ∧
      lockFiles withOddNames [Path.ofText "/w/.git"] [] = .ok [Path.ofText "/w/.git"] :=
  ⟨⟨by decide +kernel, by decide⟩, by decide +kernel, by decide +kernel, by decide +kernel,
    by decide +kernel, by decide +kernel, by decide +kernel, by decide +kernel, by decide +kernel⟩

end Scan
end Switchboard
