/-
# Composing marks with their bases

The same letter with the same marks can be written in several ways: marks of
different classes in any order, and each of them apart or within a composite.
`compose` gives one of them: composites are taken apart, marks put in the order
of their classes, and then every mark is composed with its base again unless
another mark of its class, or a character that is no mark, stands between them.
-/

import Switchboard.Text.CombiningClass
import Switchboard.Text.Composite

namespace Switchboard
namespace Composition

/-- How often a composite can be taken apart at most. -/
def maxParts : Nat := 4

/-- A character taken apart at most `fuel` times. -/
def decomposed : Nat → Char → List Char
  | 0, c => [c]
  | fuel + 1, c => match Composite.parts? c with
    | some (base, mark) => decomposed fuel base ++ [mark]
    | none => [c]

/-- Puts a character in front of others, a mark behind those that come before
it by their classes. -/
def place (c : Char) : List Char → List Char
  | [] => [c]
  | d :: rest =>
    if CombiningClass.of d != 0 && CombiningClass.of d < CombiningClass.of c then
      d :: place c rest
    else c :: d :: rest

/-- The parts of characters, marks in the order of their classes. -/
def decompose (cs : List Char) : List Char :=
  (cs.flatMap (decomposed maxParts)).foldr place []

/-- Whether a character with a class can reach its base over the marks between them. -/
def reaches (between : List Char) (cls : Nat) : Bool :=
  match between.getLast? with
  | none => true
  | some last => CombiningClass.of last < cls

/-- Composes characters with the base before them, `between` being the marks
behind it that have not been composed with it. -/
def composeAfter (base : Char) (between : List Char) : List Char → List Char
  | [] => base :: between
  | c :: rest =>
    let cls := CombiningClass.of c
    match (if reaches between cls then Composite.whole? base c else none) with
    | some whole => composeAfter whole between rest
    | none =>
      if cls = 0 then base :: between ++ composeAfter c [] rest
      else composeAfter base (between ++ [c]) rest

/-- Composes characters in order; marks at the front have no base. -/
def recompose : List Char → List Char
  | [] => []
  | c :: rest => if CombiningClass.of c = 0 then composeAfter c [] rest else c :: recompose rest

/-- A text with its marks composed as far as they can be. -/
def compose (cs : List Char) : List Char := recompose (decompose cs)

end Composition
end Switchboard
