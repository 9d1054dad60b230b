/-
# Which files a session serves

A session serves the files below its projects in the languages that the tool
knows: one filter for each language and each project, all with the pattern of
everything below the project's directory.  Paths are compared as text, with
backslashes as separators.
-/

import Switchboard.Glob.Reader
import Switchboard.Workspace.Language
import Switchboard.Workspace.Project

namespace Switchboard

/-- A language and the pattern of the files it is served in. -/
structure DocumentFilter where
  language : String
  scheme : String
  pattern : String
  deriving DecidableEq, Repr

/-- The filters of a session, each with its compiled pattern. -/
structure Selector where
  filters : List (DocumentFilter × Glob.Pattern)

namespace Selector

/-- The text of a path with every backslash as a separator. -/
def slashed (p : Path) : String :=
  String.ofList (p.display.toList.map fun c => if c = '\\' then '/' else c)

/-- The pattern of everything below a project. -/
def patternOf (project : Project) : Except Glob.Error Glob.Pattern :=
  Glob.compile (Glob.escape (slashed project.path) ++ "/**/*") true

/-- The filter of a language and a project. -/
def filterOf (language : String) (project : Project) : DocumentFilter :=
  ⟨language, "file", slashed project.path ++ "/**/*"⟩

/-- The selector of a session's projects: language by language, project by project. -/
def ofProjects (projects : List Project) : Except Glob.Error Selector := do
  let filters ← (Language.supported.flatMap fun l => projects.map fun p => (l, p)).mapM
    fun (language, project) => do
      let pattern ← patternOf project
      return (filterOf language project, pattern)
  return ⟨filters⟩

/-- Whether a file of this language and path is served. -/
def isMatch (s : Selector) (language : String) (path : Path) : Bool :=
  let text := Utf8.encode (slashed path)
  s.filters.any fun (filter, pattern) => filter.language == language && pattern.isMatch text

end Selector
end Switchboard
