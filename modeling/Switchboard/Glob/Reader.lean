/-
# Reading glob patterns

`?` is any byte, `*` any run, `[…]` a class, `{…,…}` a choice that may hold
further choices, and a backslash takes the next character as it is.  A comma
outside a choice is a comma.  `**` is special only when it fills a segment;
elsewhere it is two stars.
-/

import Switchboard.Glob.Pattern

namespace Switchboard
namespace Glob

/-- What is wrong with a pattern. -/
inductive Fault where
  | unclosedClass
  | invalidRange (first last : Char)
  | unopenedChoice
  | unclosedChoice
  | danglingEscape
  deriving DecidableEq, Repr

/-- The text that reports a fault. -/
def Fault.message : Fault → String
  | .unclosedClass => "unclosed character class; missing ']'"
  | .invalidRange first last =>
    "invalid range; '" ++ first.toString ++ "' > '" ++ last.toString ++ "'"
  | .unopenedChoice =>
    "unopened alternate group; missing '\x7b' (maybe escape '\x7d' with '[\x7d]'?)"
  | .unclosedChoice =>
    "unclosed alternate group; missing '\x7d' (maybe escape '\x7b' with '[\x7b]'?)"
  | .danglingEscape => "dangling '\\'"

/-- A choice that is open: the tokens before it and its finished branches, both
last first. -/
structure Group where
  before : List Token
  finished : List (List Token)

/-- What has been read of a pattern: the open choices, innermost first, the
tokens of the branch being read, last first, and the last character. -/
structure Progress where
  groups : List Group
  current : List Token
  last : Option Char

/-- A token added to the branch being read. -/
def Progress.push (p : Progress) (t : Token) (last : Char) : Progress :=
  { p with current := t :: p.current, last := some last }

/-- What has been read of a class: its ranges, last first, and whether a range
is waiting for its end. -/
structure ClassProgress where
  ranges : List (Char × Char)
  inRange : Bool

/-- Ends the last range of a class. -/
def closeRange (ranges : List (Char × Char)) (last : Char) : Except Fault (List (Char × Char)) :=
  match ranges with
  | [] => .ok []
  | (first, _) :: rest =>
    if last < first then .error (.invalidRange first last) else .ok ((first, last) :: rest)

/-- Reads the inside of a class up to its bracket; gives the ranges in order and
what follows the bracket. -/
def readClass (first : Bool) (p : ClassProgress) :
    List Char → Except Fault (List (Char × Char) × List Char)
  | [] => .error .unclosedClass
  | c :: rest =>
    if c = ']' && !first then
      .ok ((if p.inRange then ('-', '-') :: p.ranges else p.ranges).reverse, rest)
    else if c = '-' && !first && !p.inRange then readClass false ⟨p.ranges, true⟩ rest
    else if p.inRange then
      match closeRange p.ranges c with
      | .ok ranges => readClass false ⟨ranges, false⟩ rest
      | .error fault => .error fault
    else readClass false ⟨(c, c) :: p.ranges, false⟩ rest

/-- The token that two stars become behind the last token of a branch. -/
def segmentStars (atEnd : Bool) : List Token → List Token
  | [] => []
  | .anyFront :: before => .anyFront :: before
  | .anyEnd :: before => .anyEnd :: before
  | _ :: before => (if atEnd then .anyEnd else .anyBetween) :: before

/-- Two stars, when `rest` follows them: the new progress and what is left. -/
def readStars (p : Progress) (rest : List Char) : Progress × List Char :=
  let plain := { p with current := .star :: .star :: p.current, last := some '*' }
  let inGroup := !p.groups.isEmpty
  if p.current.isEmpty then
    match rest with
    | [] => (p.push .anyFront '*', [])
    | '/' :: rest => (p.push .anyFront '/', rest)
    | rest => (plain, rest)
  else if p.last != some '/' && !(inGroup && (p.last == some ',' || p.last == some '\x7b')) then
    (plain, rest)
  else
    match rest with
    | [] => ({ p with current := segmentStars true p.current, last := some '*' }, [])
    | '/' :: rest => ({ p with current := segmentStars false p.current, last := some '/' }, rest)
    | c :: rest =>
      if inGroup && (c = ',' || c = '\x7d') then
        ({ p with current := segmentStars true p.current, last := some '*' }, c :: rest)
      else (plain, c :: rest)

/-- Reads a pattern; every step takes at least one character. -/
def readFrom : Nat → Progress → List Char → Except Fault (List Token)
  | 0, _, _ => .error .unclosedChoice
  | _, p, [] => if p.groups.isEmpty then .ok p.current.reverse else .error .unclosedChoice
  | fuel + 1, p, '*' :: '*' :: rest =>
    let (p, rest) := readStars p rest
    readFrom fuel p rest
  | fuel + 1, p, c :: rest =>
    if c = '?' then readFrom fuel (p.push .any c) rest
    else if c = '*' then readFrom fuel (p.push .star c) rest
    else if c = '[' then
      let negated := rest.head? == some '!' || rest.head? == some '^'
      match readClass true ⟨[], false⟩ (if negated then rest.drop 1 else rest) with
      | .ok (ranges, rest) => readFrom fuel (p.push (.oneOf negated ranges) ']') rest
      | .error fault => .error fault
    else if c = '\x7b' then readFrom fuel ⟨⟨p.current, []⟩ :: p.groups, [], some c⟩ rest
    else if c = '\x7d' then
      match p.groups with
      | [] => .error .unopenedChoice
      | g :: groups =>
        let branches := (p.current.reverse :: g.finished).reverse
        readFrom fuel ⟨groups, .alternates branches :: g.before, some c⟩ rest
    else if c = ',' then
      match p.groups with
      | [] => readFrom fuel (p.push (.literal c) c) rest
      | g :: groups =>
        readFrom fuel ⟨⟨g.before, p.current.reverse :: g.finished⟩ :: groups, [], some c⟩ rest
    else if c = '\\' then
      match rest with
      | [] => .error .danglingEscape
      | e :: rest => readFrom fuel (p.push (.literal e) e) rest
    else readFrom fuel (p.push (.literal c) c) rest

/-- The tokens of a pattern. -/
def read (text : String) : Except Fault (List Token) :=
  readFrom (text.toList.length + 1) ⟨[], [], none⟩ text.toList

/-- A pattern that does not read, and why. -/
structure Error where
  glob : String
  fault : Fault
  deriving DecidableEq, Repr

/-- The text that reports a pattern that does not read. -/
def Error.message (e : Error) : String :=
  "error parsing glob '" ++ e.glob ++ "': " ++ e.fault.message

/-- The pattern of a text. -/
def compile (text : String) (literalSeparator : Bool) : Except Error Pattern :=
  match read text with
  | .ok tokens => .ok ⟨tokens, literalSeparator⟩
  | .error fault => .error ⟨text, fault⟩

/-- A character as a pattern that matches only it. -/
def escapeChar (c : Char) : List Char :=
  if "?*[]\x7b\x7d".toList.contains c then ['[', c, ']'] else [c]

/-- A text as a pattern that matches only it, unless it holds a backslash. -/
def escape (text : String) : String := String.ofList (text.toList.flatMap escapeChar)

end Glob
end Switchboard
