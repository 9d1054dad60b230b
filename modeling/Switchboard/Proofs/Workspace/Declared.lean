/-
# What a manifest declares

Of a manifest only three sections are read, the rest is passed over by its
grammar.  Where the whole text spells an object in which no section is repeated,
that says the same as looking at the object (`Manifest.declares_iff`): the
package is declared when one of the sections is an object with the package among
its keys.  Manifests are judged one by one, so one that is passed over is as if
it were not in the list (`Manifest.projects_of_whole`).
-/

import Switchboard.Proofs.Json.Members
import Switchboard.Workspace.Manifest

namespace Switchboard

/-! ### Values and the texts they are read from -/

namespace Literal

/-- A number is no object. -/
theorem value?_ne_obj (l : Literal) (members : List (String × Json)) :
    l.value? ≠ some (.obj members) := by
  have hfloat : l.float? ≠ some (.obj members) := by
    unfold float?
    intro h
    obtain ⟨f, -, hf⟩ := Option.map_eq_some_iff.1 h
    exact absurd hf (by simp)
  unfold value?
  dsimp only
  split_ifs
  · simp
  · exact hfloat
  · simp
  · exact hfloat
  · exact hfloat

end Literal

namespace Json

variable {key : String} {depth : Nat} {members : List (Bytes × Raw)}
  {named : List (String × Raw)} {values deps : List (String × Json)}

/-- The value of a key in an object is that of the last member with the key. -/
theorem lookup_sorted (key : String) (members : List (String × Json)) :
    lookup key (sorted members) =
      ((members.filter fun m => m.1 == key).getLast?).map Prod.snd := by
  have hlast := member?_ofMembers key members
  rw [ofMembers, member?] at hlast
  rw [hlast]
  induction members using List.reverseRecOn with
  | nil => rfl
  | append_singleton members m ih =>
    rw [List.foldl_concat, List.filter_append]
    by_cases hm : m.1 = key
    · simp [hm]
    · have hnot : [m].filter (fun m => m.1 == key) = [] := by simp [hm]
      rw [if_neg hm, hnot, List.append_nil]
      exact ih (member?_ofMembers key members)

/-- Something is found under a key exactly if the key is there. -/
theorem isSome_lookup_iff (key : String) (members : List (String × Json)) :
    (lookup key members).isSome = true ↔ key ∈ members.map Prod.fst := by
  induction members with
  | nil => simp [lookup]
  | cons m members ih =>
    obtain ⟨k, v⟩ := m
    rw [lookup, List.map_cons, List.mem_cons]
    by_cases hk : k = key
    · simp [hk]
    · rw [if_neg hk, ih]
      exact ⟨.inr, fun h => h.resolve_left fun heq => hk heq.symm⟩

/-- Only the text of an object is read as one. -/
theorem exists_of_ofRaw?_obj {raw : Raw} (h : ofRaw? (depth + 1) raw = some (.obj values)) :
    ∃ members vs, raw = .record members ∧ ofMembers? depth members = some vs ∧
      values = sorted vs := by
  cases raw with
  | null => simp [ofRaw?] at h
  | bool b => simp [ofRaw?] at h
  | number l => exact absurd (by simpa only [ofRaw?] using h) (l.value?_ne_obj values)
  | text s => simp [ofRaw?] at h
  | list items => simp [ofRaw?] at h
  | record members =>
    rw [ofRaw?] at h
    obtain ⟨vs, hvs, heq⟩ := Option.map_eq_some_iff.1 h
    exact ⟨members, vs, rfl, hvs, (obj.inj heq).symm⟩

/-- A member of a text and the member of a value that it spells. -/
def Spells (depth : Nat) (m : String × Raw) (v : String × Json) : Prop :=
  m.1 = v.1 ∧ ofRaw? depth m.2 = some v.2

end Json

namespace Manifest

open Json

variable {d d' : Disk} {manifest : Path} {content content' : Bytes} {package name : String}
  {members : List (Bytes × Raw)} {named : List (String × Raw)}
  {values values' vs : List (String × Json)} {depth : Nat}

/-- Members have names if the first has and the others have. -/
theorem named?_cons (key : Bytes) (raw : Raw) (members : List (Bytes × Raw)) :
    named? ((key, raw) :: members) =
      (Raw.spelled? key).bind fun k => (named? members).map ((k, raw) :: ·) := by
  rw [named?, List.mapM_cons]
  dsimp only
  cases Raw.spelled? key with
  | none => rfl
  | some k => cases hrest : named? members <;> (rw [named?] at hrest; rw [hrest]; rfl)

/-- Members that have values have names. -/
theorem named?_of_ofMembers? (h : ofMembers? depth members = some vs) :
    ∃ named, named? members = some named ∧ List.Forall₂ (Spells depth) named vs := by
  induction members generalizing vs with
  | nil =>
    rw [ofMembers?] at h
    obtain rfl := Option.some.inj h
    exact ⟨[], rfl, .nil⟩
  | cons m members ih =>
    obtain ⟨bytes, raw⟩ := m
    rw [ofMembers?] at h
    obtain ⟨key, hkey, h⟩ := Option.bind_eq_some_iff.1 h
    obtain ⟨value, hvalue, h⟩ := Option.bind_eq_some_iff.1 h
    obtain ⟨rest, hrest, rfl⟩ := Option.map_eq_some_iff.1 h
    obtain ⟨named, hnamed, hspells⟩ := ih hrest
    refine ⟨(key, raw) :: named, ?_, .cons ⟨rfl, hvalue⟩ hspells⟩
    rw [named?_cons, hkey, hnamed]
    rfl

/-- How often a key stands at the top level of a text. -/
def occurrences (name : String) (content : Bytes) : Nat :=
  match Raw.read? content with
  | some (.record members) => members.countP fun m => Raw.spelled? m.1 == some name
  | _ => 0

/-- A name is there as often as it is spelled. -/
theorem length_filter_named (h : named? members = some named) (name : String) :
    (named.filter fun m => m.1 == name).length =
      members.countP fun m => Raw.spelled? m.1 == some name := by
  induction members generalizing named with
  | nil =>
    obtain rfl : [] = named := Option.some.inj h
    rfl
  | cons m members ih =>
    rw [named?_cons] at h
    obtain ⟨key, hkey, h⟩ := Option.bind_eq_some_iff.1 h
    obtain ⟨rest, hrest, rfl⟩ := Option.map_eq_some_iff.1 h
    rw [List.countP_cons, List.filter_cons, hkey, ← ih hrest]
    by_cases hname : key = name <;> simp [hname]

/-- A section that is not repeated is read as it is in the whole value. -/
theorem only?_of_spells (hspells : List.Forall₂ (Spells (maxDepth - 1)) named vs)
    (honce : (named.filter fun m => m.1 == name).length ≤ 1) :
    (only? name named).bind sectionValue? = some ((lookup name (sorted vs)).getD .null) := by
  have hfilter : List.Forall₂ (Spells (maxDepth - 1)) (named.filter fun m => m.1 == name)
      (vs.filter fun v => v.1 == name) :=
    List.rel_filter (fun m v hmv => by simp only [hmv.1]) hspells
  rw [lookup_sorted]
  unfold only?
  revert hfilter honce
  generalize named.filter (fun m => m.1 == name) = kept
  generalize vs.filter (fun v => v.1 == name) = keptValues
  intro honce hfilter
  cases hfilter with
  | nil => rfl
  | cons hfirst hrest =>
    cases hrest with
    | nil => exact hfirst.2
    | cons _ _ =>
      rw [List.length_cons, List.length_cons] at honce
      omega

/-- A map whose every step gives something is a plain map. -/
theorem mapM_eq_some {α β : Type} {f : α → Option β} {g : α → β} {xs : List α}
    (h : ∀ x ∈ xs, f x = some (g x)) : xs.mapM f = some (xs.map g) := by
  induction xs with
  | nil => rfl
  | cons x xs ih =>
    obtain ⟨hx, hxs⟩ := List.forall_mem_cons.1 h
    rw [List.mapM_cons, hx, ih hxs]
    rfl

/-- A section declares a package if it is an object with that key. -/
theorem sectionDeclares_iff {v : Json} : sectionDeclares package v = true ↔
    ∃ deps, v = .obj deps ∧ package ∈ deps.map Prod.fst := by
  cases v <;> simp [sectionDeclares, ← isSome_lookup_iff]

/-- A text that spells an object in which no section is repeated. -/
structure Whole (content : Bytes) (values : List (String × Json)) : Prop where
  read_eq : Json.read? content = some (.obj values)
  once : ∀ name ∈ sections, occurrences name content ≤ 1

/-- Whether one of the sections is an object with the package among its keys. -/
def Lists (package : String) (values : List (String × Json)) : Prop :=
  ∃ name ∈ sections, ∃ deps, lookup name values = some (.obj deps) ∧ package ∈ deps.map Prod.fst

/-- The sections of a whole text have the values that they have in the object. -/
theorem sectionValues?_of_whole (h : Whole content values) :
    (Raw.read? content).bind sectionValues? =
      some (sections.map fun name => (lookup name values).getD .null) := by
  obtain ⟨raw, hraw, hvalue⟩ := Option.bind_eq_some_iff.1 h.read_eq
  obtain ⟨members, vs, rfl, hvs, rfl⟩ := exists_of_ofRaw?_obj hvalue
  obtain ⟨named, hnamed, hspells⟩ := named?_of_ofMembers? hvs
  rw [hraw, Option.bind_some, sectionValues?, hnamed, Option.bind_some]
  refine mapM_eq_some fun name hname => only?_of_spells hspells ?_
  have honce := h.once name hname
  rw [occurrences, hraw] at honce
  rwa [length_filter_named hnamed]

/-- **Reading the sections alone says what the whole value says.** -/
theorem declares_iff (h : Whole content values) :
    declares content package = true ↔ Lists package values := by
  rw [declares, sectionValues?_of_whole h]
  dsimp only
  rw [List.any_map, List.any_eq_true]
  refine exists_congr fun name => and_congr_right fun _ => ?_
  rw [Function.comp_apply, sectionDeclares_iff]
  cases lookup name values <;> simp

/-- What is declared is a matter of the sections that are objects. -/
theorem lists_congr (h : ∀ name ∈ sections, ∀ deps,
    lookup name values' = some (.obj deps) ↔ lookup name values = some (.obj deps)) :
    Lists package values' ↔ Lists package values := by
  refine exists_congr fun name => and_congr_right fun hname => exists_congr fun deps => ?_
  rw [h name hname deps]

/-- The projects of two rows of manifests are those of the one and then of the other. -/
theorem projects_append (d : Disk) (front back : List Path) :
    projects d (front ++ back) = projects d front ++ projects d back := List.filterMap_append

/-- A manifest that is whole is a project when it lists the tool and stands in a directory. -/
theorem project?_eq_some_iff {p : Project} (hread : d.read manifest = .ok content)
    (h : Whole content values) : project? d manifest = some p ↔
      Lists toolPackage values ∧ manifest.parent = some p.path ∧ p.path.bytes ≠ [] := by
  rw [project?, hread, ← declares_iff h]
  dsimp only
  cases declares content toolPackage with
  | false => simp
  | true =>
    simp only [if_true, true_and]
    rw [Project.ofManifest?, Option.map_eq_some_iff]
    constructor
    · rintro ⟨dir, hdir, rfl⟩
      obtain ⟨hparent, hne⟩ := Option.filter_eq_some_iff.1 hdir
      exact ⟨hparent, by simpa using hne⟩
    · rintro ⟨hparent, hne⟩
      exact ⟨p.path, Option.filter_eq_some_iff.2 ⟨hparent, by simpa using hne⟩, rfl⟩

/-- **A manifest counts by its value, and on its own.**  Let the text of a manifest spell an
object in which no section is repeated.  Among other manifests it adds its directory, in its
place, when one of the sections is an object with the tool among its keys and the directory
has a path; otherwise the list is as if it were not there.  Another text with the same
objects as sections, whatever else it holds, has the same result, and any manifest that is
passed over leaves what comes of the others. -/
theorem projects_of_whole (hread : d.read manifest = .ok content) (h : Whole content values) :
    (∀ dir front back, Lists toolPackage values → manifest.parent = some dir → dir.bytes ≠ [] →
      projects d (front ++ manifest :: back) = projects d front ++ ⟨dir⟩ :: projects d back) ∧
    (∀ front back,
      ¬ (Lists toolPackage values ∧ ∃ dir, manifest.parent = some dir ∧ dir.bytes ≠ []) →
        projects d (front ++ manifest :: back) = projects d (front ++ back)) ∧
    (∀ d' content' values', d'.read manifest = .ok content' → Whole content' values' →
      (∀ name ∈ sections, ∀ deps,
        lookup name values' = some (.obj deps) ↔ lookup name values = some (.obj deps)) →
      projects d' [manifest] = projects d [manifest]) ∧
    ∀ skipped, projects d [skipped] = [] →
      ∀ front back, projects d (front ++ skipped :: back) = projects d (front ++ back) := by
  have hskipped : ∀ skipped, projects d [skipped] = [] → ∀ front back,
      projects d (front ++ skipped :: back) = projects d (front ++ back) := by
    intro skipped hnone front back
    rw [← List.singleton_append, projects_append, projects_append, hnone, projects_append]
    rfl
  refine ⟨fun dir front back hlists hparent hne => ?_, fun front back hnot => ?_,
    fun d' content' values' hread' h' hsections => ?_, hskipped⟩
  · have hproject : project? d manifest = some ⟨dir⟩ :=
      (project?_eq_some_iff hread h).2 ⟨hlists, hparent, hne⟩
    rw [projects_append]
    exact congrArg _ (List.filterMap_cons_some hproject)
  · refine hskipped manifest (List.filterMap_cons_none ?_) front back
    refine Option.eq_none_iff_forall_ne_some.2 fun p hp => hnot ?_
    obtain ⟨hlists, hparent, hne⟩ := (project?_eq_some_iff hread h).1 hp
    exact ⟨hlists, p.path, hparent, hne⟩
  · have hsame : project? d' manifest = project? d manifest := by
      refine Option.ext fun p => ?_
      rw [project?_eq_some_iff hread' h', project?_eq_some_iff hread h, lists_congr hsections]
    show [manifest].filterMap (project? d') = [manifest].filterMap (project? d)
    rw [List.filterMap_cons, List.filterMap_cons, hsame]
    rfl

/-- A manifest with an escaped key, sections of other types, a dependency that is there
twice, and a section's name further inside. -/
def oddManifest : Bytes := Utf8.encode ("\x7b\"dependencies\": [], \"d\\u0065vDependencies\": " ++
  "\x7b\"@biomejs\\/biome\": 1, \"@biomejs/biome\": null\x7d, \"peerDependencies\": \"odd\", " ++
  "\"extra\": [[\x7b\"dependencies\": -0.5e3\x7d]]\x7d")

/-- A directory with the odd manifest, and one below it whose manifest is cut short. -/
def oddDisk : Disk where
  root := .directory [(Utf8.encode "w", .directory [
    (Utf8.encode "a", .directory [(Utf8.encode "package.json", .file (Utf8.encode "\x7b") false)]),
    (Utf8.encode "package.json", .file oddManifest false)])]
  cwd := []
  platform := Platform.linux

/-- The odd manifest declares the tool, beside one that is passed over. -/
theorem projects_of_whole_odd :
    ∃ values, oddDisk.read (.ofText "/w/package.json") = .ok oddManifest ∧
      Whole oddManifest values ∧ Lists toolPackage values ∧
      projects oddDisk ([.ofText "/w/a/package.json"] ++ .ofText "/w/package.json" :: []) =
        projects oddDisk [.ofText "/w/a/package.json"] ++ [⟨.ofText "/w"⟩] := by
  have hread : oddDisk.read (.ofText "/w/package.json") = .ok oddManifest := rfl
  have hextra : ((Json.read? oddManifest).bind (Json.member? "extra")).isSome = true := by
    decide +kernel
  obtain ⟨extra, hextra⟩ := Option.isSome_iff_exists.1 hextra
  obtain ⟨value, hvalue, hmember⟩ := Option.bind_eq_some_iff.1 hextra
  obtain ⟨values, rfl⟩ : ∃ values, value = .obj values := by
    cases value <;> simp [Json.member?] at hmember ⊢
  have hwhole : Whole oddManifest values := ⟨hvalue, by decide +kernel⟩
  have hlists : Lists toolPackage values := (declares_iff hwhole).1 (by decide +kernel)
  have hparent : (Path.ofText "/w/package.json").parent = some (.ofText "/w") := by
    decide +kernel
  exact ⟨values, hread, hwhole, hlists,
    (projects_of_whole hread hwhole).1 (.ofText "/w") _ [] hlists hparent (by decide)⟩

end Manifest
end Switchboard
