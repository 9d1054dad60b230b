/-
# Paths

A path is the bytes it was given as.  Two paths are compared by their
components: separators repeated or at the end do not count, nor does a `.`
except at the front of a relative path, so `a//b`, `a/./b` and `a/b/` are
equal, and `./a` differs from `a`.  `..` is a component like any other; taking
it away is the business of `Switchboard.Path.Lexical`.
-/

import Switchboard.Text.Utf8

namespace Switchboard

/-- A path, as the bytes it is written with. -/
structure Path where
  bytes : Bytes
  deriving DecidableEq, Repr, Inhabited

namespace Path

/-- The path that a text spells. -/
def ofText (s : String) : Path := ⟨Utf8.encode s⟩

/-- The text of a path, with U+FFFD for what is not UTF-8. -/
def display (p : Path) : String := Utf8.lossy p.bytes

/-- The byte between components. -/
def separator : UInt8 := 0x2F

/-- The segment `.`. -/
def dot : Bytes := [0x2E]

/-- The segment `..`. -/
def dotDot : Bytes := [0x2E, 0x2E]

/-- A component of a path. -/
inductive Component where
  | root
  | here
  | up
  | name (bytes : Bytes)
  deriving DecidableEq, Repr

/-- Whether a path starts at the root. -/
def isAbsolute (p : Path) : Bool := p.bytes.head? == some separator

/-- The segments of a path, empty ones included. -/
def segments (p : Path) : List Bytes := p.bytes.splitOn separator

/-- The component that a segment spells, unless it is empty or `.`. -/
def component? (segment : Bytes) : Option Component :=
  if segment = [] ∨ segment = dot then none
  else if segment = dotDot then some .up
  else some (.name segment)

/-- What stands before the segments: the root, or a `.` that starts a relative path. -/
def start (p : Path) : List Component :=
  if p.isAbsolute then [.root]
  else if p.segments.head? = some dot then [.here]
  else []

/-- The components of a path. -/
def components (p : Path) : List Component := p.start ++ p.segments.filterMap component?

/-- Whether two paths are equal, component by component. -/
def same (p q : Path) : Bool := p.components == q.components

/-- The key by which components are ordered: the root first, then `.`, `..`
and names by their bytes. -/
def Component.key : Component → List Nat
  | .root => [0]
  | .here => [1]
  | .up => [2]
  | .name bytes => 3 :: bytes.map UInt8.toNat

/-- The key by which paths are ordered. -/
def key (p : Path) : List (List Nat) := p.components.map Component.key

/-- The order of paths, component by component. -/
def order (p q : Path) : Ordering := compare p.key q.key

/-- Whether the components of `base` come first in those of `p`. -/
def startsWith (p base : Path) : Bool := base.components.isPrefixOf p.components

/-- The path that `q` names when it is read from the directory `p`. -/
def join (p q : Path) : Path :=
  if q.isAbsolute then q
  else if p.bytes = [] ∨ p.bytes.getLast? = some separator then ⟨p.bytes ++ q.bytes⟩
  else ⟨p.bytes ++ separator :: q.bytes⟩

/-- The path of an entry of a directory. -/
def child (p : Path) (name : String) : Path := p.join (ofText name)

/-- The last component when it is a name. -/
def fileName (p : Path) : Option Bytes :=
  match p.components.getLast? with
  | some (.name bytes) => some bytes
  | _ => none

/-- Segments without those at the end that spell no component. -/
def trimSegments (segments : List Bytes) : List Bytes :=
  (segments.reverse.dropWhile fun s => (component? s).isNone).reverse

/-- The bytes that the root or a leading `.` takes up, and the segments behind them. -/
def split (p : Path) : Bytes × List Bytes :=
  match p.start with
  | [] => ([], p.segments)
  | _ :: _ => (p.bytes.take 1, (p.bytes.drop 1).splitOn separator)

/-- The path without its last component; the root and the empty path have no
parent.  What stays is written as before, without what trails its last component. -/
def parent (p : Path) : Option Path :=
  let (front, body) := p.split
  match trimSegments body with
  | [] => if p.start = [.here] then some ⟨[]⟩ else none
  | kept => some ⟨front ++ [separator].intercalate (trimSegments kept.dropLast)⟩

/-- The path itself and what is above it, at most `fuel` of them. -/
def ancestorsWithin : Nat → Path → List Path
  | 0, _ => []
  | fuel + 1, p => p :: match p.parent with
    | some q => ancestorsWithin fuel q
    | none => []

/-- The path itself, its parent, the parent of that and so on. -/
def ancestors (p : Path) : List Path := ancestorsWithin (p.bytes.length + 1) p

/-- What follows the last dot of a file name, unless that dot is its first byte. -/
def extension (p : Path) : Option Bytes :=
  p.fileName.bind fun name =>
    let after := (name.reverse.takeWhile (· != 0x2E)).reverse
    if name.length ≤ after.length + 1 then none else some after

/-- The root directory. -/
def root : Path := ⟨[separator]⟩

example : (ofText "a/./b/").same (ofText "a//b") = true ∧ (ofText "./a").same (ofText "a") = false ∧
    (ofText "/a//b/.").parent = some (ofText "/a") ∧ (ofText "./a").parent = some (ofText ".") := by
  decide

end Path
end Switchboard
