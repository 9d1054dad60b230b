/-
# White space

`isBlank` is Unicode's `White_Space` property.  Header lines, palette answers
and typed commands are trimmed and split by it, so that a no-break space
separates words as a blank does, and a zero-width space does not.
-/

namespace Switchboard
namespace Blank

/-- Unicode's `White_Space` property. -/
def isBlank (c : Char) : Bool :=
  let n := c.toNat
  (0x09 ≤ n && n ≤ 0x0D) || n == 0x20 || n == 0x85 || n == 0xA0 || n == 0x1680 ||
    (0x2000 ≤ n && n ≤ 0x200A) || n == 0x2028 || n == 0x2029 || n == 0x202F ||
    n == 0x205F || n == 0x3000

/-- A list of characters without the blanks at its front. -/
def trimStart (cs : List Char) : List Char := cs.dropWhile isBlank

/-- A list of characters without the blanks at its end. -/
def trimEnd (cs : List Char) : List Char := (cs.reverse.dropWhile isBlank).reverse

/-- A list of characters without the blanks at both ends. -/
def trim (cs : List Char) : List Char := trimEnd (trimStart cs)

/-- The words of a line: its maximal runs of characters that are not blank. -/
def words (cs : List Char) : List (List Char) :=
  (cs.splitOnP isBlank).filter fun w => !w.isEmpty

/-- Only ASCII and Latin-1 blanks and the named separators are blank; the
zero-width space is not. -/
example : isBlank '\u00A0' = true ∧ isBlank '\u3000' = true ∧ isBlank '\u200B' = false := by
  decide

end Blank
end Switchboard
