/-
# Writing JSON

The written form is compact, members in the order the object keeps them.  A
quote, a backslash and the control characters are escaped, the five common
ones by a letter and the others by four hexadecimal digits; every other byte
stands for itself.
-/

import Switchboard.Decimal.Shortest
import Switchboard.Json.Value
import Switchboard.Text.Utf8

namespace Switchboard
namespace Json

/-- A hexadecimal digit in lower case. -/
def hexDigit (n : Nat) : UInt8 := if n < 10 then UInt8.ofNat (0x30 + n) else UInt8.ofNat (0x57 + n)

/-- The written form of a byte inside a string. -/
def escapeByte (b : UInt8) : Bytes :=
  if b == 0x22 then [0x5C, 0x22]
  else if b == 0x5C then [0x5C, 0x5C]
  else if b == 0x08 then [0x5C, 0x62]
  else if b == 0x09 then [0x5C, 0x74]
  else if b == 0x0A then [0x5C, 0x6E]
  else if b == 0x0C then [0x5C, 0x66]
  else if b == 0x0D then [0x5C, 0x72]
  else if b < 0x20 then [0x5C, 0x75, 0x30, 0x30, hexDigit (b.toNat / 16), hexDigit (b.toNat % 16)]
  else [b]

/-- The written form of a text, with its quotes. -/
def writeText (s : String) : Bytes := 0x22 :: (Utf8.encode s).flatMap escapeByte ++ [0x22]

/-- Characters that are ASCII, as bytes. -/
def ascii (cs : List Char) : Bytes := cs.map fun c => UInt8.ofNat c.toNat

/-- The written form of an integer. -/
def writeInt (n : Int) : Bytes :=
  (if n < 0 then [0x2D] else []) ++ ascii (Nat.toDigits 10 n.natAbs)

mutual

/-- The written form of a value. -/
def write : Json → Bytes
  | .null => [0x6E, 0x75, 0x6C, 0x6C]
  | .bool true => [0x74, 0x72, 0x75, 0x65]
  | .bool false => [0x66, 0x61, 0x6C, 0x73, 0x65]
  | .int n => writeInt n
  | .float x => if x.isBeyond then [0x6E, 0x75, 0x6C, 0x6C] else ascii (Shortest.render x)
  | .str s => writeText s
  | .arr items => 0x5B :: writeItems items ++ [0x5D]
  | .obj members => 0x7B :: writeMembers members ++ [0x7D]

/-- Items with commas between them. -/
def writeItems : List Json → Bytes
  | [] => []
  | [item] => write item
  | item :: next :: rest => write item ++ 0x2C :: writeItems (next :: rest)

/-- Members with commas between them. -/
def writeMembers : List (String × Json) → Bytes
  | [] => []
  | [(key, value)] => writeText key ++ 0x3A :: write value
  | (key, value) :: next :: rest =>
    writeText key ++ 0x3A :: write value ++ 0x2C :: writeMembers (next :: rest)

end

end Json
end Switchboard
