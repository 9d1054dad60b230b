/-
# Domain names

A name is read character by character, its marks are composed, and dots cut it
into labels.  A label that spells another one in ASCII stands for that one,
which has to be written as it would be read.  A name of ASCII characters that
spells nothing is only read in small letters.  No label starts with a mark,
joiners stand only where they join, and letters of both directions do not mix.
-/

import Switchboard.Domain.Direction
import Switchboard.Domain.Joining
import Switchboard.Domain.Mapping
import Switchboard.Domain.Punycode
import Switchboard.Text.Composition
import Switchboard.Text.Mark

namespace Switchboard
namespace Domain

/-- Whether a character is in ASCII. -/
def isAscii (c : Char) : Bool := c.toNat < 0x80

/-- ASCII characters that may not stand in a domain. -/
def isForbidden (c : Char) : Bool :=
  c.toNat ≤ 0x20 || c.toNat == 0x7F || "%#/:<>?@[\\]^|".toList.contains c

/-- A character with an ASCII letter in lower case. -/
def lower (c : Char) : Char := if 'A' ≤ c && c ≤ 'Z' then Char.ofNat (c.toNat + 32) else c

/-- The text that a name is read as. -/
def readAll? (cs : List Char) : Option (List Char) :=
  if cs.all isAscii then some (cs.map lower)
  else (cs.mapM read?).map fun parts => Composition.compose parts.flatten

/-- How long the ASCII spelling of a label may be, without what it starts with. -/
def maxSpelling : Nat := 2000

/-- How long a label may be that has an ASCII spelling. -/
def maxLabel : Nat := 1000

/-- The label that an ASCII spelling stands for, without what the spelling starts with. -/
def spelled? (spelling : List Char) : Option (List Char) :=
  if spelling.length ≤ maxSpelling && spelling.all isAscii && spelling.getLast?.any (· != '-') then
    (Punycode.decode? spelling).filter fun label =>
      label.all isPlain && Composition.compose label == label
  else none

/-- The label that a label stands for. -/
def label? (label : List Char) : Option (List Char) :=
  match label with
  | 'x' :: 'n' :: '-' :: '-' :: spelling => spelled? spelling
  | label => some label

/-- Whether a label may be part of a name by itself. -/
def isLabel (label : List Char) : Bool :=
  !label.any isForbidden &&
    (label.all isAscii ||
      (!(label.head?.any Mark.isMark) && joinersFit [] label && label.length ≤ maxLabel))

/-- The labels of a name. -/
def labels? (cs : List Char) : Option (List (List Char)) :=
  ((readAll? cs).bind fun name => (name.splitOn '.').mapM label?).filter fun labels =>
    labels.all isLabel &&
      (cs.all isAscii && labels.all (·.all isAscii) || Direction.labelsFit labels)

/-- A name as it is read; none if it is not one. -/
def name? (cs : List Char) : Option (List Char) := (labels? cs).map ['.'].intercalate

example : name? "LocalHost".toList = some "localhost".toList ∧ name? "a b".toList = none ∧
    name? "xn--abc-".toList = none := by decide +kernel

end Domain
end Switchboard
