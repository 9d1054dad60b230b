/-
# Lines

A line ends at a line feed, and one carriage return before that feed belongs
to the ending.  A text that ends with a line feed has no further, empty line
after it, so the empty text has no line at all.
-/

namespace Switchboard
namespace Lines

/-- A line without one carriage return at its end. -/
def dropReturn (line : List Char) : List Char :=
  if line.getLast? = some '\r' then line.dropLast else line

/-- The segments that line feeds cut a text into, the last one left out when
it is empty. -/
def segments (cs : List Char) : List (List Char) :=
  let parts := cs.splitOn '\n'
  if parts.getLast? = some [] then parts.dropLast else parts

/-- Whether the text stops without a final line feed; then its last line
keeps a carriage return at its end. -/
def endsOpen (cs : List Char) : Bool := cs.getLast? != some '\n'

/-- The lines of a text. -/
def ofText (cs : List Char) : List (List Char) :=
  let parts := segments cs
  if endsOpen cs then (parts.dropLast.map dropReturn) ++ parts.getLast?.toList
  else parts.map dropReturn

/-- The lines of a text, as texts. -/
def ofString (s : String) : List String := (ofText s.toList).map String.ofList

example : ofString "" = [] ∧ ofString "a\r\nb\r" = ["a", "b\r"] ∧ ofString "a\n\n" = ["a", ""] := by
  decide

end Lines
end Switchboard
