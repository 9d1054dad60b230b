/-
# JSON texts, read by their grammar alone

`Raw.read` follows the JSON grammar and keeps strings and numbers as they are
written: whether a string spells UTF-8, a number is within range, or the
nesting is too deep is judged later, and only for the parts that are used.  So
a member that nobody asks for may hold an unpaired surrogate or nest without
limit, but it may not leave the grammar.

The grammar is the one of RFC 8259: four blanks, no leading zeros, at least
one digit after a point and in an exponent, no trailing commas, no control
characters inside strings.
-/

import Switchboard.Text.Utf8

namespace Switchboard

/-- A number as written: its sign, the digits before the point, those after it
and the exponent's sign and digits. -/
structure Literal where
  negative : Bool
  whole : Bytes
  fraction : Bytes
  exponent : Option (Bool × Bytes)
  deriving DecidableEq, Repr

/-- A JSON text with strings still escaped and numbers still literals. -/
inductive Raw where
  | null
  | bool (b : Bool)
  | number (literal : Literal)
  | text (escaped : Bytes)
  | list (items : List Raw)
  | record (members : List (Bytes × Raw))
  deriving Repr, Inhabited

namespace Raw

/-- The blanks that JSON allows between tokens. -/
def isBlank (b : UInt8) : Bool := b == 0x20 || b == 0x09 || b == 0x0A || b == 0x0D

/-- The text behind the blanks at its front. -/
def skipBlank (bs : Bytes) : Bytes := bs.dropWhile isBlank

/-- An ASCII digit. -/
def isDigit (b : UInt8) : Bool := 0x30 ≤ b && b ≤ 0x39

/-- The value of a hexadecimal digit, in either case. -/
def hexDigit? (b : UInt8) : Option Nat :=
  if 0x30 ≤ b && b ≤ 0x39 then some (b.toNat - 0x30)
  else if 0x41 ≤ b && b ≤ 0x46 then some (b.toNat - 0x41 + 10)
  else if 0x61 ≤ b && b ≤ 0x66 then some (b.toNat - 0x61 + 10)
  else none

/-- Whether a byte may follow a backslash on its own. -/
def isShortEscape (b : UInt8) : Bool :=
  b == 0x22 || b == 0x5C || b == 0x2F || b == 0x62 || b == 0x66 || b == 0x6E || b == 0x72 ||
    b == 0x74

/-- What is still owed inside a string: nothing, the byte after a backslash,
or some hexadecimal digits. -/
inductive Owed where
  | nothing
  | escape
  | hex (n : Nat)
  deriving DecidableEq, Repr

/-- The escaped content of a string up to its closing quote, and what follows
the quote. -/
def readText : Owed → Bytes → Option (Bytes × Bytes)
  | _, [] => none
  | .nothing, b :: rest =>
    if b == 0x22 then some ([], rest)
    else if b == 0x5C then (readText .escape rest).map fun (s, r) => (b :: s, r)
    else if b < 0x20 then none
    else (readText .nothing rest).map fun (s, r) => (b :: s, r)
  | .escape, b :: rest =>
    if b == 0x75 then (readText (.hex 3) rest).map fun (s, r) => (b :: s, r)
    else if isShortEscape b then (readText .nothing rest).map fun (s, r) => (b :: s, r)
    else none
  | .hex n, b :: rest =>
    if (hexDigit? b).isSome then
      (readText (match n with | 0 => .nothing | n + 1 => .hex n) rest).map fun (s, r) => (b :: s, r)
    else none

/-- The digits at the front of a text and what follows them. -/
def digits (bs : Bytes) : Bytes × Bytes := (bs.takeWhile isDigit, bs.dropWhile isDigit)

/-- The fraction of a number, if there is a point. -/
def readFraction : Bytes → Option (Bytes × Bytes)
  | 0x2E :: rest => if (digits rest).1.isEmpty then none else some (digits rest)
  | bs => some ([], bs)

/-- The sign of an exponent, positive unless written, and what follows it. -/
def exponentSign : Bytes → Bool × Bytes
  | 0x2B :: rest => (true, rest)
  | 0x2D :: rest => (false, rest)
  | bs => (true, bs)

/-- The exponent of a number, if there is one. -/
def readExponent : Bytes → Option (Option (Bool × Bytes) × Bytes)
  | [] => some (none, [])
  | b :: rest =>
    if b == 0x65 || b == 0x45 then
      let (positive, rest) := exponentSign rest
      if (digits rest).1.isEmpty then none
      else some (some (positive, (digits rest).1), (digits rest).2)
    else some (none, b :: rest)

/-- A number whose sign has been read. -/
def readUnsigned (negative : Bool) (bs : Bytes) : Option (Literal × Bytes) :=
  let (whole, rest) := digits bs
  if whole.isEmpty || (whole.head? == some 0x30 && whole.length != 1) then none
  else
    (readFraction rest).bind fun (fraction, rest) =>
      (readExponent rest).map fun (exponent, rest) => (⟨negative, whole, fraction, exponent⟩, rest)

/-- A number. -/
def readNumber : Bytes → Option (Literal × Bytes)
  | 0x2D :: rest => readUnsigned true rest
  | bs => readUnsigned false bs

/-- What follows a given word, if the text starts with it. -/
def afterWord (word : Bytes) (bs : Bytes) : Option Bytes :=
  if word.isPrefixOf bs then some (bs.drop word.length) else none

mutual

/-- The value at the front of a text without blanks before it. -/
def readValue : Nat → Bytes → Option (Raw × Bytes)
  | 0, _ => none
  | _, [] => none
  | fuel + 1, b :: rest =>
    if b == 0x6E then (afterWord [0x75, 0x6C, 0x6C] rest).map fun r => (.null, r)
    else if b == 0x74 then (afterWord [0x72, 0x75, 0x65] rest).map fun r => (.bool true, r)
    else if b == 0x66 then (afterWord [0x61, 0x6C, 0x73, 0x65] rest).map fun r => (.bool false, r)
    else if b == 0x22 then (readText .nothing rest).map fun (s, r) => (.text s, r)
    else if b == 0x5B then
      match skipBlank rest with
      | 0x5D :: rest => some (.list [], rest)
      | rest => (readItems fuel rest).map fun (items, r) => (.list items, r)
    else if b == 0x7B then
      match skipBlank rest with
      | 0x7D :: rest => some (.record [], rest)
      | rest => (readMembers fuel rest).map fun (members, r) => (.record members, r)
    else (readNumber (b :: rest)).map fun (n, r) => (.number n, r)

/-- The items of an array from a place where one has to stand. -/
def readItems : Nat → Bytes → Option (List Raw × Bytes)
  | 0, _ => none
  | fuel + 1, bs =>
    (readValue fuel bs).bind fun (item, rest) =>
      match skipBlank rest with
      | 0x5D :: rest => some ([item], rest)
      | 0x2C :: rest => (readItems fuel (skipBlank rest)).map fun (items, r) => (item :: items, r)
      | _ => none

/-- The members of an object from a place where one has to stand. -/
def readMembers : Nat → Bytes → Option (List (Bytes × Raw) × Bytes)
  | 0, _ => none
  | fuel + 1, bs =>
    match bs with
    | 0x22 :: rest =>
      (readText .nothing rest).bind fun (key, rest) =>
        match skipBlank rest with
        | 0x3A :: rest =>
          (readValue fuel (skipBlank rest)).bind fun (value, rest) =>
            match skipBlank rest with
            | 0x7D :: rest => some ([(key, value)], rest)
            | 0x2C :: rest =>
              (readMembers fuel (skipBlank rest)).map fun (members, r) =>
                ((key, value) :: members, r)
            | _ => none
        | _ => none
    | _ => none

end

/-- A whole text that holds one value and blanks around it. -/
def read? (bs : Bytes) : Option Raw :=
  (readValue (2 * bs.length + 1) (skipBlank bs)).bind fun (value, rest) =>
    if (skipBlank rest).isEmpty then some value else none

end Raw
end Switchboard
