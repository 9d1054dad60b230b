/-
# Taking `.` and `..` out of a path

`normalize` reads the components of a path in order and keeps a stack: a name
is pushed, `..` takes the last one away, `.` does nothing.  The root is on the
stack like a name, so a `..` that finds nothing but the root takes it away,
and what follows is relative.
-/

import Switchboard.Path.Basic

namespace Switchboard
namespace Path

/-- One component onto the stack, whose last element comes first. -/
def step (stack : List Component) : Component → List Component
  | .up => stack.drop 1
  | .here => stack
  | c => c :: stack

/-- The components that are left, in order. -/
def resolved (cs : List Component) : List Component := (cs.foldl step []).reverse

/-- How a component is written. -/
def Component.bytes : Component → Bytes
  | .root => [separator]
  | .here => dot
  | .up => dotDot
  | .name bytes => bytes

/-- The path that is written with these components. -/
def ofComponents (cs : List Component) : Path := cs.foldl (fun p c => p.join ⟨c.bytes⟩) ⟨[]⟩

/-- The path without `.` and `..`. -/
def normalize (p : Path) : Path := ofComponents (resolved p.components)

example : (ofText "/repo/web/../api/./x.ts").normalize = ofText "/repo/api/x.ts" ∧
    (ofText "/../a").normalize = ofText "a" := by decide

end Path
end Switchboard
