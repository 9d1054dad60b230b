/-
# The files that a session serves, and those in its projects

Three parts of a session tell whether a file belongs to its projects: the
selector compares texts, a project compares components, and what a server
publishes is compared without `.` and `..`.  On clean paths the last two agree
(`Receiver.covers_iff_contains`).  The selector takes what the projects
contain and nothing else if all the bytes are text without backslashes; of
other bytes it still takes what the projects contain, and may take more
(`Selector.isMatch_iff_contains`).

Of any paths at all, a session serves what starts with the text of a project
and a separator, in the languages that are served (`Selector.isMatch_iff_text`).

The root is the exception: its text ends with a separator, so that nothing
starts with that text and another separator, and a session whose project is
the root serves no file (`Selector.root_serves_nothing`).
-/

import Switchboard.Proofs.Client.Scope
import Switchboard.Proofs.Supervisor.Routing

namespace Switchboard

namespace Receiver

/-- On clean paths, a report counts of the projects and of what they contain. -/
theorem covers_iff_contains {session : SessionId} {projects : List Project} {path : Path}
    (hprojects : ∀ p ∈ projects, p.path.IsClean) (hpath : path.IsClean) :
    (ofProjects session projects).covers path = true ↔
      ∃ p ∈ projects, p.contains path = true ∨ p.path = path := by
  have hcovers : (ofProjects session projects).covers path = true ↔
      ∃ p ∈ projects, path.normalize.startsWith p.path.normalize = true := by
    simp [covers, ofProjects]
  rw [hcovers]
  refine exists_congr fun p => and_congr_right fun hp => ?_
  have hclean := hprojects p hp
  rw [hpath.2, hclean.2, Project.contains, Bool.and_eq_true, Bool.not_eq_true',
    ← Bool.not_eq_true, hpath.same_iff hclean]
  constructor
  · intro h
    by_cases heq : path = p.path
    · exact .inr heq.symm
    · exact .inl ⟨h, heq⟩
  · rintro (h | rfl)
    · exact h.1
    · exact (hpath.startsWith_iff hpath).2 (List.prefix_refl _)

end Receiver

namespace Project

/-- A project covers a path when the path's text starts with the project's and a separator. -/
theorem covers_iff_text {p : Project} {path : Path} : p.Covers path ↔
    (Selector.slashed p.path).toList ++ ['/'] <+: (Selector.slashed path).toList := by
  have hbytes : Utf8.encode (Selector.slashed p.path) ++ [Glob.slash] =
      Utf8.encode (String.ofList ((Selector.slashed p.path).toList ++ ['/'])) := by
    rw [Utf8.encode_ofList, List.flatMap_append, ← Utf8.encode_ofList, String.ofList_toList]
    rfl
  rw [Covers, hbytes, Utf8.encode_prefix_iff, String.toList_ofList]

end Project

namespace Selector

/-- **Projects always have a selector, and what it takes is told from texts**: a file of
any path in a language that is served, when the text of its path starts with the text of
some project's directory and a separator.  Whatever the directories are called, no
character of them is special.  Texts are as they are shown, with U+FFFD for what is not
UTF-8, and with every backslash as a separator. -/
theorem isMatch_iff_text (projects : List Project) :
    ∃ selector, ofProjects projects = .ok selector ∧ ∀ (language : String) (path : Path),
      selector.isMatch language path = true ↔ language ∈ Language.supported ∧
        ∃ p ∈ projects, (slashed p.path).toList ++ ['/'] <+: (slashed path).toList := by
  refine ⟨_, ofProjects_eq projects, fun language path => ?_⟩
  simp only [← Project.covers_iff_text]
  constructor
  · intro h
    have hlanguage := mem_supported_of_isMatch_below h
    exact ⟨hlanguage, (isMatch_below_iff hlanguage).1 h⟩
  · rintro ⟨hlanguage, hcovers⟩
    exact (isMatch_below_iff hlanguage).2 hcovers

/-- **What a session serves is what its projects contain**, on clean paths.
Segment by segment of the texts, the selector compares exactly; of any bytes,
it takes all that a project contains, unless that is the root; of plain paths
it takes nothing else.  All that a project contains passes the filter of what
its server publishes, and so does, of plain paths, all that the selector takes. -/
theorem isMatch_iff_contains {projects : List Project} (hprojects : ∀ p ∈ projects, p.path.IsClean)
    {path : Path} (hpath : path.IsClean) {language : String}
    (hlanguage : language ∈ Language.supported) (session : SessionId) :
    ∃ selector, ofProjects projects = .ok selector ∧
      (selector.isMatch language path = true ↔
        ∃ p ∈ projects, p.path.shown <+: path.shown ∧ p.path.shown ≠ path.shown) ∧
      (∀ p ∈ projects, p.path ≠ Path.root → p.contains path = true →
        selector.isMatch language path = true) ∧
      ((∀ p ∈ projects, p.path.IsPlain) → path.IsPlain →
        (selector.isMatch language path = true ↔
          ∃ p ∈ projects, p.path ≠ Path.root ∧ p.contains path = true) ∧
        (selector.isMatch language path = true →
          (Receiver.ofProjects session projects).covers path = true)) ∧
      ((∃ p ∈ projects, p.contains path = true) →
        (Receiver.ofProjects session projects).covers path = true) := by
  have hmatch : (below projects).isMatch language path = true ↔ ∃ p ∈ projects, p.Covers path :=
    isMatch_below_iff hlanguage
  have hcontains : (∃ p ∈ projects, p.contains path = true) →
      (Receiver.ofProjects session projects).covers path = true := fun ⟨p, hp, h⟩ =>
    (Receiver.covers_iff_contains hprojects hpath).2 ⟨p, hp, .inl h⟩
  refine ⟨_, ofProjects_eq projects, ?_, fun p hp hroot h => ?_, fun hplain hplain' => ?_,
    hcontains⟩
  · rw [hmatch]
    exact exists_congr fun p => and_congr_right fun _ => Project.covers_iff_shown
  · exact hmatch.2 ⟨p, hp, Project.covers_of_contains (hprojects p hp) hpath hroot h⟩
  · have hplain_match : (below projects).isMatch language path = true ↔
        ∃ p ∈ projects, p.path ≠ Path.root ∧ p.contains path = true := by
      rw [hmatch]
      exact exists_congr fun p => and_congr_right fun hp =>
        Project.covers_iff_of_isPlain (hprojects p hp) hpath (hplain p hp) hplain'
    refine ⟨hplain_match, fun h => ?_⟩
    obtain ⟨p, hp, -, h⟩ := hplain_match.1 h
    exact hcontains ⟨p, hp, h⟩

/-- A file of a project is served, and what its server says of it counts. -/
theorem isMatch_iff_contains_inner :
    (∀ p ∈ [Project.mk (.ofText "/w")], p.path.IsClean) ∧ (Path.ofText "/w/a b.ts").IsClean ∧
      "typescript" ∈ Language.supported ∧
      ∃ selector, ofProjects [⟨.ofText "/w"⟩] = .ok selector ∧
        selector.isMatch "typescript" (.ofText "/w/a b.ts") = true := by
  have hprojects : ∀ p ∈ [Project.mk (.ofText "/w")], p.path.IsClean := by decide
  have hpath : (Path.ofText "/w/a b.ts").IsClean := by decide
  have hlanguage : "typescript" ∈ Language.supported := by decide
  obtain ⟨selector, hselector, -, hcontained, -⟩ :=
    isMatch_iff_contains hprojects hpath hlanguage 1
  exact ⟨hprojects, hpath, hlanguage, selector, hselector,
    hcontained _ (List.mem_cons_self ..) (by decide) (by decide)⟩

/-- **A session whose project is the root serves no file of it**, though the
project contains every file; and a backslash in a name, or bytes that are not
UTF-8, let a session serve a file that its project does not contain. -/
theorem root_serves_nothing :
    (∃ selector, ofProjects [⟨Path.root⟩] = .ok selector ∧
      (Project.mk Path.root).contains (.ofText "/a.ts") = true ∧
      (Receiver.ofProjects 1 [⟨Path.root⟩]).covers (.ofText "/a.ts") = true ∧
      selector.isMatch "typescript" (.ofText "/a.ts") = false) ∧
    (∃ selector, ofProjects [⟨.ofText "/w/a"⟩] = .ok selector ∧
      (Project.mk (.ofText "/w/a")).contains (.ofText "/w/a\\x.ts") = false ∧
      (Receiver.ofProjects 1 [⟨.ofText "/w/a"⟩]).covers (.ofText "/w/a\\x.ts") = false ∧
      selector.isMatch "typescript" (.ofText "/w/a\\x.ts") = true) ∧
    (∃ selector, ofProjects [⟨⟨[0x2F, 0x80]⟩⟩] = .ok selector ∧
      (Project.mk ⟨[0x2F, 0x80]⟩).contains ⟨[0x2F, 0x81, 0x2F, 0x61]⟩ = false ∧
      selector.isMatch "typescript" ⟨[0x2F, 0x81, 0x2F, 0x61]⟩ = true) := by
  refine ⟨⟨_, ofProjects_eq _, ?_⟩, ⟨_, ofProjects_eq _, ?_⟩, ⟨_, ofProjects_eq _, ?_⟩⟩ <;>
    decide +kernel

end Selector
end Switchboard
