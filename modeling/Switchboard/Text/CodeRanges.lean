/-
# Sets of characters, written as ranges

A property of characters is a set of code points.  It is written as a text of
upper-case hexadecimal numbers: one number for one character, two with a hyphen
between them for a range with both ends in it, and blanks or line breaks
between the ranges.
-/

namespace Switchboard

/-- A set of characters as ranges of code points, both ends included. -/
structure CodeRanges where
  ranges : List (Nat × Nat)

namespace CodeRanges

/-- The words of a text, cut at blanks and line breaks. -/
def words (text : String) : List (List Char) :=
  (text.toList.splitOnP fun c => c == ' ' || c == '\n').filter fun word => !word.isEmpty

/-- The value of an upper-case hexadecimal digit. -/
def digit (c : Char) : Nat := if c ≤ '9' then c.toNat - 0x30 else c.toNat - 0x37

/-- The number that hexadecimal digits spell. -/
def number (digits : List Char) : Nat := digits.foldl (fun n c => n * 16 + digit c) 0

/-- The parts of a word before and after the first mark of a kind. -/
def cut (mark : Char → Bool) (word : List Char) : List Char × List Char :=
  let before := word.takeWhile fun c => !mark c
  (before, word.drop (before.length + 1))

/-- The range that a word spells. -/
def range (word : List Char) : Nat × Nat :=
  let (first, last) := cut (· == '-') word
  (number first, number (if last.isEmpty then first else last))

/-- The set that a text spells. -/
def ofText (text : String) : CodeRanges := ⟨(words text).map range⟩

/-- Whether a character is in a set. -/
def contains (r : CodeRanges) (c : Char) : Bool :=
  r.ranges.any fun (first, last) => first ≤ c.toNat && c.toNat ≤ last

example : (ofText "41-5A 5F").contains 'Q' = true ∧ (ofText "41-5A 5F").contains '_' = true ∧
    (ofText "41-5A 5F").contains '[' = false := by decide

end CodeRanges
end Switchboard
