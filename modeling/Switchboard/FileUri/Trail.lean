/-
# Resolving the path of a URI

The path of a URI is walked segment by segment: `.` stays, `..` goes up, also
when they are spelled with escapes, and any other segment is entered.  A drive
letter is never left by `..`.  In the scheme `file` a drive letter that is
entered first gets a colon and takes the place of the host.  What is entered first
is what the reader of URIs that the program relies on takes for that: behind `file://`
and no host the separator counts as an empty segment that has been entered, so the
drive letter in `file:///C|/x` is not the first one and keeps its bar, other than in
the standard of such URIs.  The one in `file:/C|/x` is the first.

Tabs and line breaks do not count, but for one place: a segment that is entered
first is cut behind a drive letter with a colon if one of them follows it.
-/

import Switchboard.FileUri.Percent

namespace Switchboard
namespace FileUri

/-- How a scheme treats what follows it. -/
inductive Kind where
  | file
  | network
  | other
  deriving DecidableEq, Repr

/-- Whether a character separates segments; a backslash does where the scheme
has network hosts or is `file`. -/
def isSlash (kind : Kind) (c : Char) : Bool := c == '/' || (c == '\\' && kind != .other)

/-- Whether a character ends the path. -/
def endsPath (c : Char) : Bool := c == '?' || c == '#'

/-- Whether a character does not count wherever it stands. -/
def isIgnored (c : Char) : Bool := c == '\t' || c == '\n' || c == '\r'

/-- The characters of a text that count. -/
def counted (cs : List Char) : List Char := cs.filter fun c => !isIgnored c

/-- The text behind a separator, if it starts with one. -/
def afterSlash? (kind : Kind) (cs : List Char) : Option (List Char) :=
  match cs.dropWhile isIgnored with
  | [] => none
  | c :: rest => if isSlash kind c then some rest else none

/-- Whether a character is an ASCII letter. -/
def isLetter (c : Char) : Bool := ('a' ≤ c && c ≤ 'z') || ('A' ≤ c && c ≤ 'Z')

/-- Whether a segment is a drive letter: a letter and a colon or a bar. -/
def isDrive : List Char → Bool
  | [c, mark] => isLetter c && (mark == ':' || mark == '|')
  | _ => false

/-- A drive letter with a colon that a tab or line break follows, and the rest
of the segment, if there is any. -/
def cutDrive? (segment : List Char) : Option (List Char × List Char) :=
  match segment.dropWhile isIgnored with
  | [] => none
  | c :: marked => match marked.dropWhile isIgnored with
    | ':' :: rest =>
      if isLetter c && rest.head?.any isIgnored && !(counted rest).isEmpty then
        some ([c, ':'], counted rest)
      else none
    | _ => none

/-- The spellings of a dot. -/
def dotSpellings : List (List Char) := [".", "%2e", "%2E"].map String.toList

/-- Whether a segment is a dot in any spelling. -/
def isDot (segment : List Char) : Bool := dotSpellings.contains segment

/-- Whether a segment is two dots in any spelling. -/
def isDotDot (segment : List Char) : Bool :=
  dotSpellings.any fun a => dotSpellings.any fun b => segment == a ++ b

/-- Where a walk has come to: the segments entered, last one first, and whether
a drive letter has taken the place of the host. -/
structure Trail where
  stack : List (List Char)
  replacesHost : Bool

namespace Trail

/-- The start of a walk. -/
def start : Trail := ⟨[], false⟩

/-- Puts a segment on the stack as it is. -/
def push (t : Trail) (segment : List Char) : Trail := { t with stack := segment :: t.stack }

/-- Goes up from the last segment, unless that is a drive letter. -/
def up (t : Trail) : Trail :=
  match t.stack with
  | [] => t
  | last :: rest => if isDrive last then t else { t with stack := rest }

/-- Enters a segment, which may be a drive letter if none has been entered, also none that is
empty. -/
def enter (kind : Kind) (t : Trail) (segment : List Char) : Trail :=
  if kind = .file && t.stack.isEmpty then
    if isDrive (counted segment) then ⟨[(counted segment).take 1 ++ [':']], true⟩
    else match cutDrive? segment with
      | some (drive, rest) => (t.push drive).push rest
      | none => t.push (counted segment)
  else t.push (counted segment)

/-- Walks along segments; a walk that ends with a dot or two ends with an empty segment. -/
def walk (kind : Kind) : Trail → List (List Char) → Trail
  | t, [] => t
  | t, [last] =>
    if isDotDot (counted last) then t.up.push []
    else if isDot (counted last) then t.push []
    else t.enter kind last
  | t, segment :: rest =>
    if isDotDot (counted segment) then walk kind t.up rest
    else if isDot (counted segment) then walk kind t rest
    else walk kind (t.enter kind segment) rest

/-- The walk along a path text. -/
def ofText (kind : Kind) (text : List Char) : Trail :=
  walk kind start ((text.takeWhile fun c => !endsPath c).splitOnP (isSlash kind))

/-- The segments of a walk in order; those of a file do not start with empty
ones, unless all are. -/
def segments (kind : Kind) (t : Trail) : List (List Char) :=
  let all := t.stack.reverse
  if kind = .file then
    let path := all.dropWhile List.isEmpty
    if path.isEmpty then [[]] else path
  else all

example : (ofText .file "C|/../x".toList).stack = ["x".toList, "C:".toList] ∧
    (ofText .file "/C|/x".toList).segments .file = ["C|".toList, "x".toList] := by decide +kernel

example : (ofText .file "C:\t../x".toList).stack = ["x".toList, "..".toList, "C:".toList] := by
  decide +kernel

end Trail

end FileUri
end Switchboard
